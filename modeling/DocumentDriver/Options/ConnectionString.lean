/-
This file reads the options of a client from a connection string: a scheme, hosts with perhaps
credentials in front and a database behind, and parameters. Credentials, the database and unknown
parameters are passed over. Of parameters with one name the last counts.
-/

import DocumentDriver.Options.Basic

namespace DocumentDriver

namespace ConnectionString

/-- The scheme of every connection string. -/
def scheme : List Char := "mongodb://".toList

/-- The largest number that a parameter may have. -/
def maxNumber : Nat := 2 ^ 64 - 1

/-- Takes a given text off the front. -/
def strip? : List Char → List Char → Option (List Char)
  | [], text => some text
  | expected :: front, found :: text => if expected == found then strip? front text else none
  | _ :: _, [] => none

/-- The parts before and after the first question mark. Without one there are no parameters. -/
def splitQuery (text : List Char) : List Char × List Char :=
  (Split.first? '?' text).getD (text, [])

/-- The hosts of the first part: all before the first slash, and of that all after the last at
sign. -/
def hostPart (text : List Char) : List Char :=
  let authority := match Split.first? '/' text with
    | some (before, _) => before
    | none => text
  match Split.last? '@' authority with
  | some (_, hosts) => hosts
  | none => authority

/-- The texts of the hosts. -/
def hostTexts (text : List Char) : List (List Char) :=
  (Split.all ',' (hostPart text)).filter (!·.isEmpty)

/-- The parameters as names and values. A parameter without an equals sign is passed over. -/
def parameters (text : List Char) : List (List Char × List Char) :=
  (Split.all '&' text).filterMap (Split.first? '=')

/-- The error for a value that its parameter cannot have. -/
def invalidValue (key value : List Char) : Error :=
  .configuration
    ("invalid value " ++ quoted (String.ofList value) ++ " for " ++ String.ofList key)

/-- The value of a parameter that is a number. -/
def number (key value : List Char) : Except Error Nat :=
  match Split.number? maxNumber value with
  | some number => .ok number
  | none => .error (invalidValue key value)

/-- The value of a parameter that is true or false. -/
def truth (key value : List Char) : Except Error Bool :=
  match String.ofList value with
  | "true" => .ok true
  | "false" => .ok false
  | _ => .error (invalidValue key value)

/-- The names in a list of names. -/
def names (value : List Char) : List String :=
  ((Split.all ',' value).filter (!·.isEmpty)).map String.ofList

/-- Takes a parameter into the options. -/
def apply (options : ClientOptions) (parameter : List Char × List Char) :
    Except Error ClientOptions :=
  let (key, value) := parameter
  match String.ofList (Split.lower key) with
  | "replicaset" => .ok { options with replicaSet := some (String.ofList value) }
  | "directconnection" => do
    return { options with directConnection := some (← truth key value) }
  | "heartbeatfrequencyms" => do
    return { options with heartbeatFrequency := ← number key value }
  | "serverselectiontimeoutms" => do
    return { options with serverSelectionTimeout := ← number key value }
  | "localthresholdms" => do return { options with localThreshold := ← number key value }
  | "connecttimeoutms" => do return { options with connectTimeout := ← number key value }
  | "appname" => .ok { options with appName := some (String.ofList value) }
  | "maxmessagesizebytes" => do return { options with maxMessageSize := ← number key value }
  | "compressors" => .ok { options with compressors := names value }
  | _ => .ok options

/-- The addresses of the hosts, or the error of the first one that is none. -/
def addresses (texts : List (List Char)) : Except Error (List ServerAddress) :=
  texts.mapM fun text => (ServerAddress.parseChars text).mapError (·.toError text)

/-- Reads a connection string. -/
def parseChars (text : List Char) : Except Error ClientOptions := do
  match strip? scheme text with
  | none =>
    .error (.configuration
      ("unsupported connection string scheme in " ++ quoted (String.ofList text)))
  | some rest =>
    let (front, query) := splitQuery rest
    let hosts ← addresses (hostTexts front)
    (parameters query).foldlM apply { hosts := hosts }

/-- Reads a connection string. -/
def parse (text : String) : Except Error ClientOptions := parseChars text.toList

end ConnectionString

end DocumentDriver
