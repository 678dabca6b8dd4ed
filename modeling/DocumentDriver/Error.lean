/-
This file gathers the errors of the driver in one type. Each constructor is a cause as a caller
sees it, `Error.message` is the only place that words them, and `Error.kind` with the four
predicates say how the sessions react: which errors end a connection, which ones mark a server
as gone, and which ones mean that a server has stopped being primary.
-/

namespace DocumentDriver

/-- The causes for which an operation fails. -/
inductive Error where
  /-- A value has no encoding. -/
  | invalidType (reason : String)
  /-- A key breaks the rules for keys. -/
  | invalidKey (reason : String)
  /-- An integer does not fit the width it is needed in. -/
  | integerRange (reason : String)
  /-- The bytes do not hold a document. -/
  | corruptData (reason : String)
  /-- A document encodes to more bytes than its ceiling admits. -/
  | documentTooLarge (size max : Nat)
  /-- A message declares more bytes than its ceiling admits. -/
  | messageTooLarge (size max : Nat)
  /-- A section of a message begins with a kind byte that stands for nothing. -/
  | invalidPayloadType (kind : UInt8)
  /-- A header carries an operation code that stands for nothing. -/
  | unknownOpCode (code : Int32)
  /-- Compressing or decompressing a message failed. -/
  | compression (reason : String)
  /-- A message breaks the rules of its format in some other way. -/
  | protocol (reason : String)
  /-- The network failed. -/
  | network (reason : String)
  /-- Reading or writing a connection failed. -/
  | io (reason : String)
  /-- The peer closed the connection. -/
  | connectionClosed
  /-- The server answered a command with an error. -/
  | command (code : Int32) (text : String) (codeName : Option String)
  /-- No eligible server appeared before the deadline. -/
  | serverSelectionTimeout (reason : String)
  /-- No server can be selected as the topology stands. -/
  | serverSelection (reason : String)
  /-- The options contradict each other or the deployment. -/
  | configuration (reason : String)
  /-- An argument is not acceptable. -/
  | invalidArgument (reason : String)
  /-- A text is not the JSON it should be. -/
  | serialization (reason : String)
  /-- Another document library refused a document. -/
  | bson (reason : String)
  /-- The client has been closed. -/
  | shutdown
  /-- A rule of the driver itself was broken. -/
  | internal (reason : String)
deriving DecidableEq, Repr, Inhabited

namespace Error

/-- The wording of an error. -/
def message : Error → String
  | invalidType reason => "invalid type: " ++ reason
  | invalidKey reason => "invalid key: " ++ reason
  | integerRange reason => "integer out of range: " ++ reason
  | corruptData reason => "corrupt data: " ++ reason
  | documentTooLarge size max =>
    s!"document of {size} bytes exceeds maximum document size of {max} bytes"
  | messageTooLarge size max =>
    s!"message of {size} bytes exceeds maximum message size of {max} bytes"
  | invalidPayloadType kind => s!"invalid payload type: {kind.toNat}"
  | unknownOpCode code => s!"unknown op code: {code.toInt}"
  | compression reason => "compression error: " ++ reason
  | protocol reason => "protocol error: " ++ reason
  | network reason => "network error: " ++ reason
  | io reason => "io error: " ++ reason
  | connectionClosed => "connection closed"
  | command _ text _ => "command error: " ++ text
  | serverSelectionTimeout reason => "server selection timed out: " ++ reason
  | serverSelection reason => "server selection error: " ++ reason
  | configuration reason => "configuration error: " ++ reason
  | invalidArgument reason => "invalid argument: " ++ reason
  | serialization reason => "serialization error: " ++ reason
  | bson reason => "bson error: " ++ reason
  | shutdown => "client has been closed"
  | internal reason => "internal error: " ++ reason

/-- A short name for a cause. -/
def name : Error → String
  | invalidType _ => "InvalidType"
  | invalidKey _ => "InvalidKey"
  | integerRange _ => "IntegerRange"
  | corruptData _ => "CorruptData"
  | documentTooLarge .. => "DocumentTooLarge"
  | messageTooLarge .. => "MessageTooLarge"
  | invalidPayloadType _ => "InvalidPayloadType"
  | unknownOpCode _ => "UnknownOpCode"
  | compression _ => "Compression"
  | protocol _ => "Protocol"
  | network _ => "Network"
  | io _ => "Io"
  | connectionClosed => "ConnectionClosed"
  | command .. => "Command"
  | serverSelectionTimeout _ => "ServerSelectionTimeout"
  | serverSelection _ => "ServerSelection"
  | configuration _ => "Configuration"
  | invalidArgument _ => "InvalidArgument"
  | serialization _ => "Serialization"
  | bson _ => "Bson"
  | shutdown => "Shutdown"
  | internal _ => "Internal"

/-- The network failed, so nothing is known of the server any more. -/
def isNetwork : Error → Bool
  | network _ | io _ | connectionClosed => true
  | _ => false

/-- A selection ran out of time. -/
def isTimeout : Error → Bool
  | serverSelectionTimeout _ => true
  | _ => false

/-- The byte stream can no longer be trusted, so its connection must go. -/
def isProtocol : Error → Bool
  | messageTooLarge .. | invalidPayloadType _ | unknownOpCode _ | compression _ | protocol _ => true
  | _ => false

/-- The codes with which a server says that it is no primary, or is recovering. -/
def notPrimaryCodes : List Int32 := [10107, 13435, 11600, 11602, 13436, 189, 91]

/-- The phrases with which a server without such a code says the same. -/
def notPrimaryPhrases : List String := ["not master", "not primary", "node is recovering"]

/-- A phrase occurs in a text at some place. -/
def mentions (phrase : List Char) : List Char → Bool
  | [] => phrase.isEmpty
  | first :: rest => phrase.isPrefixOf (first :: rest) || mentions phrase rest

/-- A server said that it is not primary, no longer primary, or recovering. -/
def isNotPrimary : Error → Bool
  | command code text _ =>
    notPrimaryCodes.contains code ||
      notPrimaryPhrases.any fun phrase => mentions phrase.toList text.toList
  | _ => false

/-- The code of an error that a server reported. -/
def code? : Error → Option Int32
  | command code _ _ => some code
  | _ => none

end Error

/-- The families that errors fall into. -/
inductive ErrorKind where
  | codec | protocol | network | timeout | serverSelection | configuration | command
  | serialization | internal
deriving DecidableEq, Repr

/-- The name of a family. -/
def ErrorKind.name : ErrorKind → String
  | codec => "Codec"
  | protocol => "Protocol"
  | network => "Network"
  | timeout => "Timeout"
  | serverSelection => "ServerSelection"
  | configuration => "Configuration"
  | command => "Command"
  | serialization => "Serialization"
  | internal => "Internal"

/-- The family of an error. -/
def Error.kind : Error → ErrorKind
  | invalidType _ | invalidKey _ | integerRange _ | corruptData _ | documentTooLarge .. => .codec
  | messageTooLarge .. | invalidPayloadType _ | unknownOpCode _ | compression _ | protocol _ =>
    .protocol
  | network _ | io _ | connectionClosed => .network
  | serverSelectionTimeout _ => .timeout
  | serverSelection _ => .serverSelection
  | configuration _ => .configuration
  | command .. => .command
  | serialization _ | bson _ => .serialization
  | invalidArgument _ | shutdown | internal _ => .internal

end DocumentDriver
