/-
This file writes bytes and numbers in hexadecimal and reads them back. Letters are written in
lower case and read in either.
-/

import DocumentDriver.Bytes.LittleEndian

namespace DocumentDriver.Hex

/-- The sixteen digits in order. -/
def digits : List Char :=
  ['0', '1', '2', '3', '4', '5', '6', '7', '8', '9', 'a', 'b', 'c', 'd', 'e', 'f']

/-- The digit that stands for a number below sixteen. -/
def digit (number : Nat) : Char := digits.getD number '0'

/-- The number that a digit stands for, in either case. -/
def value? (character : Char) : Option Nat :=
  let code := character.toNat
  if 48 ≤ code ∧ code ≤ 57 then some (code - 48)
  else if 97 ≤ code ∧ code ≤ 102 then some (code - 87)
  else if 65 ≤ code ∧ code ≤ 70 then some (code - 55)
  else none

/-- The two digits of a byte. -/
def ofByte (byte : UInt8) : List Char := [digit (byte.toNat / 16), digit (byte.toNat % 16)]

/-- The digits of a byte string, two to a byte. -/
def chars (bytes : Bytes) : List Char := bytes.flatMap ofByte

/-- The text of a byte string, two digits to a byte. -/
def encode (bytes : Bytes) : String := String.ofList (chars bytes)

/-- Reads two digits to a byte. -/
def bytes? : List Char → Option Bytes
  | [] => some []
  | [_] => none
  | high :: low :: rest => do
    let upper ← value? high
    let lower ← value? low
    let others ← bytes? rest
    return UInt8.ofNat (16 * upper + lower) :: others

/-- The shortest digits of a number, `0` for zero. -/
def ofNat (number : Nat) : String := String.ofList (Nat.toDigits 16 number)

/-- The digits of a number, filled up with zeros on the left to a width. -/
def padded (width number : Nat) : String :=
  let shown := Nat.toDigits 16 number
  String.ofList (List.replicate (width - shown.length) '0' ++ shown)

end DocumentDriver.Hex
