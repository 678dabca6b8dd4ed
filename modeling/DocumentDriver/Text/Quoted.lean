/-
This file quotes a text for a report: double quotes around it, a backslash before a quote and a
backslash inside, short escapes for the common controls, and a number in braces for every other
character that would not show by itself.
-/

import DocumentDriver.Text.Hex
import DocumentDriver.Text.Printable

namespace DocumentDriver

namespace Quoted

/-- How one character stands inside quotes. -/
def escape (character : Char) : List Char :=
  match character with
  | '"' => ['\\', '"']
  | '\\' => ['\\', '\\']
  | '\n' => ['\\', 'n']
  | '\r' => ['\\', 'r']
  | '\t' => ['\\', 't']
  | '\x00' => ['\\', '0']
  | _ =>
    if Printable.shows character then [character]
    else ['\\', 'u', '\x7b'] ++ (Hex.ofNat character.toNat).toList ++ ['\x7d']

/-- The characters of a text in quotes. -/
def chars (text : List Char) : List Char := ['"'] ++ text.flatMap escape ++ ['"']

end Quoted

/-- A text in quotes. -/
def quoted (text : String) : String := String.ofList (Quoted.chars text.toList)

/-- A text that may be absent, as a report shows it. -/
def quotedOption : Option String → String
  | none => "None"
  | some text => "Some(" ++ quoted text ++ ")"

end DocumentDriver
