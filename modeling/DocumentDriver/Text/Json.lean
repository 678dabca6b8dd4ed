/-
This file reads JSON texts and quotes strings for them. A text that names no character, because of
half a surrogate pair, is kept as an unreadable one: it is an error only where it is looked at.
Of numbers only those are kept that are written as plain natural ones.
-/

import DocumentDriver.Text.Hex

namespace DocumentDriver

/-- A JSON value. -/
inductive Json where
  | null
  | boolean (truth : Bool)
  /-- A number, known if it is written with digits alone. -/
  | numeral (natural : Option Nat)
  /-- A text, known if its escapes name characters. -/
  | string (content : Option String)
  | list (items : List Json)
  | record (fields : List (Option String × Json))

namespace Json

/-- The text without the blanks in front. -/
def skipBlanks (text : List Char) : List Char :=
  text.dropWhile fun character =>
    character == ' ' || character == '\n' || character == '\t' || character == '\r'

/-- Takes a given word off the front. -/
def word? : List Char → List Char → Option (List Char)
  | [], text => some text
  | expected :: word, found :: text => if expected == found then word? word text else none
  | _ :: _, [] => none

/-! ### Numbers -/

/-- The digits in front, and what comes after them. -/
def spanDigits (text : List Char) : List Char × List Char := text.span Char.isDigit

/-- The number that digits stand for. -/
def ofDigits (digits : List Char) : Nat :=
  digits.foldl (fun number digit => 10 * number + (digit.toNat - 48)) 0

/-- The digits before any fraction: at least one, and no zero in front of others. -/
def wholePart? (text : List Char) : Option (List Char × List Char) :=
  match spanDigits text with
  | ([], _) => none
  | ('0' :: _ :: _, _) => none
  | found => some found

/-- What follows a fraction, if one stands in front. A fraction has at least one digit. -/
def skipFraction? : List Char → Option (List Char)
  | '.' :: rest =>
    match spanDigits rest with
    | ([], _) => none
    | (_, rest) => some rest
  | text => some text

/-- What follows an exponent, if one stands in front. An exponent has at least one digit. -/
def skipExponent? (text : List Char) : Option (List Char) :=
  match text with
  | letter :: rest =>
    if letter == 'e' || letter == 'E' then
      let rest := match rest with
        | '+' :: rest => rest
        | '-' :: rest => rest
        | rest => rest
      match spanDigits rest with
      | ([], _) => none
      | (_, rest) => some rest
    else some text
  | [] => some []

/-- A number, and what follows it. -/
def number? (text : List Char) : Option (Json × List Char) := do
  let (negative, text) := match text with
    | '-' :: rest => (true, rest)
    | text => (false, text)
  let (digits, afterWhole) ← wholePart? text
  let afterFraction ← skipFraction? afterWhole
  let rest ← skipExponent? afterFraction
  let plain := !negative && afterWhole.length == rest.length
  return (.numeral (if plain then some (ofDigits digits) else none), rest)

/-! ### Texts -/

/-- One unit of a text: a character, or half of a surrogate pair. -/
abbrev TextUnit := Char ⊕ Nat

/-- The number in four hexadecimal digits. -/
def fourDigits? : List Char → Option (Nat × List Char)
  | first :: second :: third :: fourth :: rest => do
    let first ← Hex.value? first
    let second ← Hex.value? second
    let third ← Hex.value? third
    let fourth ← Hex.value? fourth
    return (((first * 16 + second) * 16 + third) * 16 + fourth, rest)
  | _ => none

/-- The unit with a number. -/
def unitOf (number : Nat) : TextUnit :=
  if 0xD800 ≤ number ∧ number < 0xE000 then .inr number else .inl (Char.ofNat number)

/-- What an escape stands for, its backslash apart. -/
def escape? : List Char → Option (TextUnit × List Char)
  | 'u' :: rest => (fourDigits? rest).map fun (number, rest) => (unitOf number, rest)
  | '"' :: rest => some (.inl '"', rest)
  | '\\' :: rest => some (.inl '\\', rest)
  | '/' :: rest => some (.inl '/', rest)
  | 'b' :: rest => some (.inl '\x08', rest)
  | 'f' :: rest => some (.inl '\x0c', rest)
  | 'n' :: rest => some (.inl '\n', rest)
  | 'r' :: rest => some (.inl '\r', rest)
  | 't' :: rest => some (.inl '\t', rest)
  | _ => none

/-- The units of a text up to its closing quote, and what follows that. No control may stand in a
text as it is. -/
def units? : Nat → List TextUnit → List Char → Option (List TextUnit × List Char)
  | 0, _, _ => none
  | _ + 1, _, [] => none
  | _ + 1, reversed, '"' :: rest => some (reversed.reverse, rest)
  | fuel + 1, reversed, '\\' :: rest => do
    let (unit, rest) ← escape? rest
    units? fuel (unit :: reversed) rest
  | fuel + 1, reversed, character :: rest =>
    if character.toNat < 0x20 then none else units? fuel (.inl character :: reversed) rest

/-- The characters that units stand for. A first half of a pair must be followed by a second. -/
def characters? : List TextUnit → Option (List Char)
  | [] => some []
  | .inl character :: rest => (characters? rest).map (character :: ·)
  | .inr high :: .inr low :: rest =>
    if high < 0xDC00 ∧ 0xDC00 ≤ low then
      (characters? rest).map (Char.ofNat (0x10000 + (high - 0xD800) * 1024 + (low - 0xDC00)) :: ·)
    else none
  | .inr _ :: _ => none

/-- A text after its opening quote, and what follows it. -/
def text? (text : List Char) : Option (Option String × List Char) :=
  (units? (text.length + 1) [] text).map fun (units, rest) =>
    ((characters? units).map String.ofList, rest)

/-! ### Values -/

mutual

/-- A value, and what follows it. -/
def value? : Nat → List Char → Option (Json × List Char)
  | 0, _ => none
  | fuel + 1, text =>
    match skipBlanks text with
    | [] => none
    | 'n' :: rest => (word? ['u', 'l', 'l'] rest).map fun rest => (.null, rest)
    | 't' :: rest => (word? ['r', 'u', 'e'] rest).map fun rest => (.boolean true, rest)
    | 'f' :: rest => (word? ['a', 'l', 's', 'e'] rest).map fun rest => (.boolean false, rest)
    | '"' :: rest => (text? rest).map fun (content, rest) => (.string content, rest)
    | '[' :: rest =>
      match skipBlanks rest with
      | ']' :: rest => some (.list [], rest)
      | rest => (items? fuel [] rest).map fun (items, rest) => (.list items, rest)
    | '\x7b' :: rest =>
      match skipBlanks rest with
      | '\x7d' :: rest => some (.record [], rest)
      | rest => (fields? fuel [] rest).map fun (fields, rest) => (.record fields, rest)
    | text => number? text

/-- The items of a list up to its end, at least one, and what follows it. -/
def items? : Nat → List Json → List Char → Option (List Json × List Char)
  | 0, _, _ => none
  | fuel + 1, reversed, text => do
    let (item, rest) ← value? fuel text
    match skipBlanks rest with
    | ',' :: rest => items? fuel (item :: reversed) rest
    | ']' :: rest => some ((item :: reversed).reverse, rest)
    | _ => none

/-- The fields of a record up to its end, at least one, and what follows it. -/
def fields? : Nat → List (Option String × Json) → List Char →
    Option (List (Option String × Json) × List Char)
  | 0, _, _ => none
  | fuel + 1, reversed, text =>
    match skipBlanks text with
    | '"' :: rest => do
      let (key, rest) ← text? rest
      match skipBlanks rest with
      | ':' :: rest => do
        let (value, rest) ← value? fuel rest
        match skipBlanks rest with
        | ',' :: rest => fields? fuel ((key, value) :: reversed) rest
        | '\x7d' :: rest => some (((key, value) :: reversed).reverse, rest)
        | _ => none
      | _ => none
    | _ => none

end

/-- The value that a text holds, nothing but blanks around it. -/
def parse? (text : String) : Option Json := do
  let characters := text.toList
  let (value, rest) ← value? (2 * characters.length + 2) characters
  if (skipBlanks rest).isEmpty then some value else none

/-! ### Looking into a value -/

/-- The text of a text. -/
def asText? : Json → Option String
  | string content => content
  | _ => none

/-- The truth of a boolean. -/
def asBoolean? : Json → Option Bool
  | boolean truth => some truth
  | _ => none

/-- The natural number that a number is, up to a bound. -/
def asNat? (bound : Nat) : Json → Option Nat
  | numeral natural => natural.filter (· ≤ bound)
  | _ => none

/-- The items of a list, each read in the same way. -/
def asList? {Item : Type} (item : Json → Option Item) : Json → Option (List Item)
  | list items => items.mapM item
  | _ => none

/-- A value that may be null. -/
def orNull? {Result : Type} (read : Json → Option Result) : Json → Option (Option Result)
  | null => some none
  | value => (read value).map some

/-! ### Quoting -/

/-- How one character stands inside quotes. -/
def quoteChar (character : Char) : List Char :=
  match character with
  | '"' => ['\\', '"']
  | '\\' => ['\\', '\\']
  | '\x08' => ['\\', 'b']
  | '\x0c' => ['\\', 'f']
  | '\n' => ['\\', 'n']
  | '\r' => ['\\', 'r']
  | '\t' => ['\\', 't']
  | _ =>
    if character.toNat < 0x20 then
      ['\\', 'u'] ++ (Hex.padded 4 character.toNat).toList
    else [character]

/-- A text in quotes. -/
def quote (text : String) : String :=
  String.ofList (['"'] ++ text.toList.flatMap quoteChar ++ ['"'])

end Json

end DocumentDriver
