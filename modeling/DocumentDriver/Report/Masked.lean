/-
This file takes the numbers of requests out of reports. They depend on all that a process has sent
before, so a question mark stands for each of them.
-/

import DocumentDriver.Report.Basic

namespace DocumentDriver

namespace Report

/-- The words before the number of the request that was answered. -/
def answeredWords : String := "reply answers request "

/-- The words before the number of the request that was to be answered. -/
def expectedWords : String := ", expected "

/-- What follows a given beginning of a text. -/
def after? : List Char → List Char → Option (List Char)
  | [], rest => some rest
  | _ :: _, [] => none
  | expected :: beginning, found :: rest =>
    if expected = found then after? beginning rest else none

/-- What follows the number in front of a text. -/
def afterNumber (characters : List Char) : List Char :=
  characters.dropWhile fun character => character == '-' || character.isDigit

/-- A piece of text that begins with two numbers, without the numbers. -/
def maskPiece (piece : String) : String :=
  let rest := afterNumber piece.toList
  match after? expectedWords.toList rest with
  | none => "?" ++ String.ofList rest
  | some tail => "?" ++ expectedWords ++ "?" ++ String.ofList (afterNumber tail)

/-- A text without numbers of requests. -/
def maskText (content : String) : String :=
  match content.splitOn answeredWords with
  | [] => content
  | first :: pieces =>
    String.join (first :: pieces.map fun piece => answeredWords ++ maskPiece piece)

mutual

/-- A report without numbers of requests. -/
def masked : Report → Report
  | nothing => nothing
  | truth value => truth value
  | number value => number value
  | text content => text (maskText content)
  | list items => list (maskedItems items)
  | record fields => record (maskedFields fields)

/-- The items of a list without numbers of requests. -/
def maskedItems : List Report → List Report
  | [] => []
  | item :: rest => item.masked :: maskedItems rest

/-- The parts of a record without numbers of requests. -/
def maskedFields : List (String × Report) → List (String × Report)
  | [] => []
  | (name, value) :: rest => (name, value.masked) :: maskedFields rest

end

end Report

end DocumentDriver
