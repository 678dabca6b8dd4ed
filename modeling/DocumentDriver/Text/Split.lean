/-
This file cuts texts at a separator: at its first or last occurrence, or at every one. It also
takes blanks off both ends and reads plain decimal numbers.
-/

namespace DocumentDriver.Split

variable {Letter : Type} [BEq Letter]

/-- The parts before and after the first occurrence of a separator. -/
def first? (separator : Letter) : List Letter → Option (List Letter × List Letter)
  | [] => none
  | letter :: rest =>
    if letter == separator then some ([], rest)
    else (first? separator rest).map fun (before, after) => (letter :: before, after)

/-- The parts before and after the last occurrence of a separator. -/
def last? (separator : Letter) : List Letter → Option (List Letter × List Letter)
  | [] => none
  | letter :: rest =>
    match last? separator rest with
    | some (before, after) => some (letter :: before, after)
    | none => if letter == separator then some ([], rest) else none

/-- All parts between the occurrences of a separator. There is always at least one. -/
def all (separator : Letter) : List Letter → List (List Letter)
  | [] => [[]]
  | letter :: rest =>
    if letter == separator then [] :: all separator rest
    else
      match all separator rest with
      | [] => [[letter]]
      | part :: parts => (letter :: part) :: parts

/-- Whether a character is blank: the spaces and line ends of Unicode. -/
def isBlank (character : Char) : Bool :=
  let code := character.toNat
  (9 ≤ code && code ≤ 13) || code == 0x20 || code == 0x85 || code == 0xA0 || code == 0x1680 ||
    (0x2000 ≤ code && code ≤ 0x200A) || code == 0x2028 || code == 0x2029 || code == 0x202F ||
    code == 0x205F || code == 0x3000

/-- A text without the blanks at its ends. -/
def trim (text : List Char) : List Char :=
  ((text.dropWhile isBlank).reverse.dropWhile isBlank).reverse

/-- The number that decimal digits stand for, after those read before. -/
def digits? (before : Nat) : List Char → Option Nat
  | [] => some before
  | character :: rest =>
    if character.isDigit then digits? (10 * before + (character.toNat - 48)) rest else none

/-- The number that a text stands for: decimal digits, perhaps after a plus sign. It must not
exceed a bound. -/
def number? (bound : Nat) (text : List Char) : Option Nat :=
  let unsigned := match text with
    | '+' :: rest => rest
    | _ => text
  if unsigned.isEmpty then none else (digits? 0 unsigned).filter (· ≤ bound)

/-- A text in which ASCII letters are in lower case. -/
def lower (text : List Char) : List Char := text.map Char.toLower

end DocumentDriver.Split
