/-
This file turns text into UTF-8 and back. A byte string that is no UTF-8 is refused with the place
of its first fault: the number of bytes that were still good, and how many bytes of the faulty
sequence could begin a character. A string that merely stops inside a character is incomplete.
-/

import DocumentDriver.Bytes.LittleEndian

namespace DocumentDriver.Utf8

/-- Where a byte string stops being UTF-8. -/
inductive Fault where
  /-- The sequence at `index` is wrong after `length` of its bytes. -/
  | invalid (length index : Nat)
  /-- The string ends inside the sequence at `index`. -/
  | incomplete (index : Nat)
deriving DecidableEq, Repr

/-- The wording of a fault. -/
def Fault.message : Fault → String
  | .invalid length index => s!"invalid utf-8 sequence of {length} bytes from index {index}"
  | .incomplete index => s!"incomplete utf-8 byte sequence from index {index}"

/-- What the bytes that follow a leading byte may be, as closed ranges, or `none` where no
character begins with that byte. Only the second byte is ever restricted further than to
`80..BF`: the other values there would give an overlong form, a surrogate, or a number past the
last character. -/
def following (lead : UInt8) : Option (List (UInt8 × UInt8)) :=
  if lead < 0x80 then some []
  else if lead < 0xC2 then none
  else if lead < 0xE0 then some [(0x80, 0xBF)]
  else if lead = 0xE0 then some [(0xA0, 0xBF), (0x80, 0xBF)]
  else if lead = 0xED then some [(0x80, 0x9F), (0x80, 0xBF)]
  else if lead < 0xF0 then some [(0x80, 0xBF), (0x80, 0xBF)]
  else if lead = 0xF0 then some [(0x90, 0xBF), (0x80, 0xBF), (0x80, 0xBF)]
  else if lead < 0xF4 then some [(0x80, 0xBF), (0x80, 0xBF), (0x80, 0xBF)]
  else if lead = 0xF4 then some [(0x80, 0x8F), (0x80, 0xBF), (0x80, 0xBF)]
  else none

/-- Finds the first fault. `index` is where the current sequence began, `length` counts its bytes
so far, and `expected` lists the ranges that its next bytes must lie in. -/
def locate (index length : Nat) : List (UInt8 × UInt8) → Bytes → Option Fault
  | [], [] => none
  | _ :: _, [] => some (.incomplete index)
  | [], lead :: rest =>
    match following lead with
    | none => some (.invalid 1 (index + length))
    | some expected => locate (index + length) 1 expected rest
  | (low, high) :: expected, byte :: rest =>
    if low ≤ byte ∧ byte ≤ high then locate index (length + 1) expected rest
    else some (.invalid length index)

/-- The first fault of a byte string. -/
def fault (bytes : Bytes) : Option Fault := locate 0 0 [] bytes

/-- The UTF-8 form of a text. -/
def encode (text : String) : Bytes := text.toByteArray.data.toList

/-- The text whose UTF-8 form the bytes are, or else the place of the first fault. -/
def decode (bytes : Bytes) : Except Fault String :=
  match String.fromUTF8? ⟨bytes.toArray⟩ with
  | some text => .ok text
  | none => .error ((fault bytes).getD (.incomplete 0))

/-- Decoding accepts exactly what encoding writes. -/
theorem decode_eq_ok_iff (bytes : Bytes) (text : String) :
    decode bytes = .ok text ↔ bytes = encode text := by
  unfold decode encode String.fromUTF8?
  by_cases valid : (⟨bytes.toArray⟩ : ByteArray).IsValidUTF8
  · simp only [valid, dif_pos]
    constructor
    · intro same
      cases same
      rfl
    · rintro rfl
      rfl
  · simp only [valid, dif_neg, not_false_eq_true, reduceCtorEq, false_iff]
    rintro rfl
    exact valid text.isValidUTF8

@[simp]
theorem decode_encode (text : String) : decode (encode text) = .ok text :=
  (decode_eq_ok_iff _ _).2 rfl

end DocumentDriver.Utf8
