/-
This file reads the options of a client from JSON: a record with the names of the options, or the
list of their values in order, of which the last may be left out. A name may occur once. Names of
no option are passed over.
-/

import DocumentDriver.Options.ConnectionString
import DocumentDriver.Text.Json

namespace DocumentDriver

namespace JsonOptions

/-- A text that is an address. -/
def address? (json : Json) : Option ServerAddress := do
  let text ← json.asText?
  (ServerAddress.parse text).toOption

/-- A number of milliseconds or bytes. -/
def number? (json : Json) : Option Nat := json.asNat? ConnectionString.maxNumber

/-- The options in order: a name, and how a value of it is taken over. -/
def fields : List (String × (ClientOptions → Json → Option ClientOptions)) :=
  [("hosts", fun options json => do
      return { options with hosts := ← json.asList? address? }),
   ("replicaSet", fun options json => do
      return { options with replicaSet := ← json.orNull? Json.asText? }),
   ("directConnection", fun options json => do
      return { options with directConnection := ← json.orNull? Json.asBoolean? }),
   ("heartbeatFrequencyMS", fun options json => do
      return { options with heartbeatFrequency := ← number? json }),
   ("minHeartbeatFrequencyMS", fun options json => do
      return { options with minHeartbeatFrequency := ← number? json }),
   ("serverSelectionTimeoutMS", fun options json => do
      return { options with serverSelectionTimeout := ← number? json }),
   ("localThresholdMS", fun options json => do
      return { options with localThreshold := ← number? json }),
   ("connectTimeoutMS", fun options json => do
      return { options with connectTimeout := ← number? json }),
   ("appName", fun options json => do
      return { options with appName := ← json.orNull? Json.asText? }),
   ("maxMessageSizeBytes", fun options json => do
      return { options with maxMessageSize := ← number? json }),
   ("compressors", fun options json => do
      return { options with compressors := ← json.asList? Json.asText? })]

/-- Takes the fields of a record over. `seen` holds the names of options that came before. -/
def ofRecord? (seen : List String) (options : ClientOptions) :
    List (Option String × Json) → Option ClientOptions
  | [] => some options
  | (none, _) :: _ => none
  | (some name, json) :: rest =>
    match fields.lookup name with
    | none => ofRecord? seen options rest
    | some take =>
      if seen.contains name then none
      else do ofRecord? (name :: seen) (← take options json) rest

/-- Takes the values of a list over. -/
def ofList? (options : ClientOptions) :
    List (String × (ClientOptions → Json → Option ClientOptions)) → List Json →
      Option ClientOptions
  | _, [] => some options
  | [], _ :: _ => none
  | (_, take) :: fields, json :: rest => do ofList? (← take options json) fields rest

/-- Reads options. -/
def parse (text : String) : Except Error ClientOptions :=
  let options := match Json.parse? text with
    | some (.record entries) => ofRecord? [] {} entries
    | some (.list items) => ofList? {} fields items
    | _ => none
  match options with
  | some options => .ok options
  | none => .error (.serialization "")

end JsonOptions

/-- The address that a JSON text holds. -/
def ServerAddress.ofJson (text : String) : Except Error ServerAddress :=
  match Json.parse? text >>= JsonOptions.address? with
  | some address => .ok address
  | none => .error (.serialization "")

/-- The text that a JSON text holds. -/
def Json.parseText (text : String) : Except Error String :=
  match Json.parse? text >>= Json.asText? with
  | some content => .ok content
  | none => .error (.serialization "")

end DocumentDriver
