/-
This file fixes what a byte string is and how a whole number of a given width is laid out in one:
the least significant byte comes first. The two directions are inverse to each other on numbers
that fit the width, and on every byte string.
-/

namespace DocumentDriver

-- Powers stay those of natural numbers where a library brings a more general one along.
attribute [default_instance 20000] instPowNat

/-- A byte string. -/
abbrev Bytes := List UInt8

/-- The lowest `width` bytes of a number, the least significant first. -/
def littleEndian : Nat → Nat → Bytes
  | 0, _ => []
  | width + 1, number => UInt8.ofNat number :: littleEndian width (number / 256)

/-- The number that a byte string stands for when its first byte is the least significant. -/
def fromLittleEndian : Bytes → Nat
  | [] => 0
  | byte :: rest => byte.toNat + 256 * fromLittleEndian rest

@[simp]
theorem length_littleEndian (width number : Nat) : (littleEndian width number).length = width := by
  induction width generalizing number with
  | zero => rfl
  | succ width inductionHypothesis => simp [littleEndian, inductionHypothesis]

/-- A further byte makes room for 256 times as many numbers. -/
theorem one_shiftLeft_succ (width : Nat) : 1 <<< (8 * (width + 1)) = 256 * (1 <<< (8 * width)) := by
  rw [Nat.mul_succ, Nat.shiftLeft_add, Nat.shiftLeft_eq _ 8, Nat.mul_comm]

/-- Reading back a written number gives its lowest bytes. -/
theorem fromLittleEndian_littleEndian (width number : Nat) :
    fromLittleEndian (littleEndian width number) = number % (1 <<< (8 * width)) := by
  induction width generalizing number with
  | zero => simp [littleEndian, fromLittleEndian, Nat.mod_one]
  | succ width inductionHypothesis =>
    rw [littleEndian, fromLittleEndian, inductionHypothesis, one_shiftLeft_succ, Nat.mod_mul]
    simp [UInt8.toNat_ofNat']

/-- A byte string is the written form of the number it stands for. -/
theorem littleEndian_fromLittleEndian (bytes : Bytes) :
    littleEndian bytes.length (fromLittleEndian bytes) = bytes := by
  induction bytes with
  | nil => rfl
  | cons byte rest inductionHypothesis =>
    have small : byte.toNat < 256 := byte.toNat_lt
    have quotient : (byte.toNat + 256 * fromLittleEndian rest) / 256 = fromLittleEndian rest := by
      omega
    have low : UInt8.ofNat (byte.toNat + 256 * fromLittleEndian rest) = byte := by
      apply UInt8.toNat_inj.1
      rw [UInt8.toNat_ofNat']
      omega
    simp only [List.length_cons, littleEndian, fromLittleEndian, quotient, low, inductionHypothesis]

/-- The number that a byte string stands for is below the bound that its length sets. -/
theorem fromLittleEndian_lt (bytes : Bytes) :
    fromLittleEndian bytes < 1 <<< (8 * bytes.length) := by
  induction bytes with
  | nil => simp [fromLittleEndian]
  | cons byte rest inductionHypothesis =>
    have small : byte.toNat < 256 := byte.toNat_lt
    rw [fromLittleEndian, List.length_cons, one_shiftLeft_succ]
    omega

/-- A signed 32-bit number as four bytes. -/
def Bytes.ofInt32 (number : Int32) : Bytes := littleEndian 4 number.toUInt32.toNat

/-- A signed 64-bit number as eight bytes. -/
def Bytes.ofInt64 (number : Int64) : Bytes := littleEndian 8 number.toUInt64.toNat

/-- An unsigned 32-bit number as four bytes. -/
def Bytes.ofUInt32 (number : UInt32) : Bytes := littleEndian 4 number.toNat

/-- The signed 32-bit number in the lowest four bytes. -/
def Bytes.toInt32 (bytes : Bytes) : Int32 := (UInt32.ofNat (fromLittleEndian bytes)).toInt32

/-- The signed 64-bit number in the lowest eight bytes. -/
def Bytes.toInt64 (bytes : Bytes) : Int64 := (UInt64.ofNat (fromLittleEndian bytes)).toInt64

/-- The unsigned 32-bit number in the lowest four bytes. -/
def Bytes.toUInt32 (bytes : Bytes) : UInt32 := UInt32.ofNat (fromLittleEndian bytes)

/-- The unsigned 64-bit number in the lowest eight bytes. -/
def Bytes.toUInt64 (bytes : Bytes) : UInt64 := UInt64.ofNat (fromLittleEndian bytes)

end DocumentDriver
