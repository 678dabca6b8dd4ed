/-
This file holds the addresses of servers: a host and a port. Hosts are kept in lower case, since
they are compared without regard to it. A host with colons stands in brackets when it is written.
-/

import DocumentDriver.Error
import DocumentDriver.Text.Quoted
import DocumentDriver.Text.Split

namespace DocumentDriver

/-- A host and a port. -/
structure ServerAddress where
  host : String
  port : UInt16
deriving DecidableEq, Repr, Inhabited

namespace ServerAddress

/-- The port that servers listen on when none is given. -/
def defaultPort : UInt16 := 27017

/-- The address with a host in any case. -/
def of (host : List Char) (port : UInt16) : ServerAddress :=
  ⟨String.ofList (Split.lower host), port⟩

/-- The written form of an address. -/
def display (address : ServerAddress) : String :=
  if ':' ∈ address.host.toList then s!"[{address.host}]:{address.port.toNat}"
  else s!"{address.host}:{address.port.toNat}"

/-- Addresses are ordered by their hosts, and those of one host by their ports. -/
def before (left right : ServerAddress) : Bool :=
  left.host < right.host || (left.host == right.host && left.port < right.port)

theorem before_irrefl (address : ServerAddress) : address.before address = false := by
  have hosts : ¬ address.host < address.host := String.lt_irrefl address.host
  have ports : ¬ address.port < address.port := UInt16.lt_irrefl address.port
  rw [before, decide_eq_false hosts, decide_eq_false ports, Bool.and_false, Bool.or_false]

theorem before_trans {first second third : ServerAddress} (left : first.before second = true)
    (right : second.before third = true) : first.before third = true := by
  simp only [before, Bool.or_eq_true, decide_eq_true_eq, Bool.and_eq_true, beq_iff_eq] at *
  rcases left with left | ⟨sameLeft, left⟩ <;> rcases right with right | ⟨sameRight, right⟩
  · exact .inl (String.lt_trans left right)
  · exact .inl (sameRight ▸ left)
  · exact .inl (sameLeft ▸ right)
  · exact .inr ⟨sameLeft.trans sameRight, UInt16.lt_trans left right⟩

/-- Of two different addresses one comes before the other. -/
theorem before_or_before {left right : ServerAddress} (distinct : left ≠ right) :
    left.before right = true ∨ right.before left = true := by
  simp only [before, Bool.or_eq_true, decide_eq_true_eq, Bool.and_eq_true, beq_iff_eq]
  by_cases first : left.host < right.host
  · exact .inl (.inl first)
  · by_cases second : right.host < left.host
    · exact .inr (.inl second)
    · have same : left.host = right.host :=
        String.le_antisymm (String.not_lt.1 second) (String.not_lt.1 first)
      have ports : left.port ≠ right.port := fun equal => distinct (by
        cases left; cases right; simp_all)
      by_cases smaller : left.port < right.port
      · exact .inl (.inr ⟨same, smaller⟩)
      · exact .inr (.inr ⟨same.symm,
          UInt16.lt_of_le_of_ne (UInt16.not_lt.1 smaller) ports.symm⟩)

/-- Why a text is no address. -/
inductive Fault where
  /-- There is nothing but blanks. -/
  | empty
  /-- A bracket is not closed. -/
  | unterminated
  /-- Something other than a port follows a bracket. -/
  | malformed
  /-- A host with colons stands without brackets. -/
  | unbracketed
  /-- There is no host. -/
  | missingHost
  /-- The port is no number from 1 to 65535. -/
  | invalidPort
deriving DecidableEq, Repr

/-- The error that a caller sees, which quotes the text without the blanks around it. -/
def Fault.toError (fault : Fault) (text : List Char) : Error :=
  let shown := quoted (String.ofList (Split.trim text))
  .invalidArgument <| match fault with
    | .empty => "empty server address"
    | .unterminated => "unterminated IPv6 address " ++ shown
    | .malformed => "invalid server address " ++ shown
    | .unbracketed => "IPv6 address " ++ shown ++ " must be bracketed"
    | .missingHost => "missing host in " ++ shown
    | .invalidPort => "invalid port in " ++ shown

/-- The host of a text, and the text of its port if there is one. -/
def split (text : List Char) : Except Fault (List Char × Option (List Char)) :=
  match text with
  | '[' :: rest =>
    match Split.first? ']' rest with
    | none => .error .unterminated
    | some (host, []) => .ok (host, none)
    | some (host, ':' :: port) => .ok (host, some port)
    | some (_, _ :: _) => .error .malformed
  | _ =>
    match Split.last? ':' text with
    | none => .ok (text, none)
    | some (host, port) => if ':' ∈ host then .error .unbracketed else .ok (host, some port)

/-- The number of a port. -/
def portOf : Option (List Char) → Except Fault UInt16
  | none => .ok defaultPort
  | some text =>
    match Split.number? 65535 text with
    | none | some 0 => .error .invalidPort
    | some number => .ok (UInt16.ofNat number)

/-- Reads an address: a host, a host and a port, or either with the host in brackets. -/
def parseChars (text : List Char) : Except Fault ServerAddress := do
  let trimmed := Split.trim text
  if trimmed.isEmpty then .error .empty else
  let (host, port) ← split trimmed
  if host.isEmpty then .error .missingHost else
  return of host (← portOf port)

/-- Reads an address, with the error that a caller sees. -/
def parse (text : String) : Except Error ServerAddress :=
  (parseChars text.toList).mapError (·.toError text.toList)

end ServerAddress

end DocumentDriver
