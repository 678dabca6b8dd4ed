/-
This file holds peers that follow a script, for rehearsing sessions without a network. A scripted
peer answers whatever request it gets, or fails at the point that the script names.
-/

import DocumentDriver.Connection.Exchange

namespace DocumentDriver

/-- The form in which a scripted peer replies. -/
inductive ReplyForm where
  | reply
  | msg
  /-- A message that is no reply at all. -/
  | insert
deriving DecidableEq, Repr

/-- What a scripted peer does with one request. -/
structure Outcome where
  /-- The error with which a connection fails to open, if one is to be opened. -/
  connectError : Option Error := none
  sendError : Option Error := none
  receiveError : Option Error := none
  /-- The bytes of the reply, whatever they are. -/
  raw : Option Bytes := none
  /-- The documents of the reply. -/
  documents : List Document := [[]]
  /-- The form of the reply. It is the form of the request unless it is given. -/
  form : Option ReplyForm := none
  flags : Flags := Flags.empty
  /-- How far the number that the reply answers lies behind that of the request. -/
  shift : Int32 := 0
  /-- The compressor for the reply. -/
  compressor : Option Compressor := none
  latency : Duration := .zero
  /-- The connection fails after the exchange. -/
  breaks : Bool := false

namespace Outcome

/-- The number of a scripted reply. -/
def replyId : Int32 := 77

/-- The number of a request. -/
def requestId (request : Bytes) : Int32 := Bytes.toInt32 ((request.drop 4).take 4)

/-- The form of the reply to a request. -/
def formFor (outcome : Outcome) (request : Bytes) : ReplyForm :=
  outcome.form.getD <|
    if Bytes.toInt32 ((request.drop 12).take 4) = OpCode.query.code then .reply else .msg

/-- The reply to a request. -/
def replyTo (outcome : Outcome) (request : Bytes) : Message :=
  let responseTo := requestId request + outcome.shift
  match outcome.formFor request with
  | .reply =>
    .reply { requestId := replyId, responseTo, flags := outcome.flags,
             documents := outcome.documents }
  | .msg =>
    .msg { requestId := replyId, responseTo, command := outcome.documents.headD [] }
  | .insert =>
    .insert { requestId := replyId, collection := "db.c", documents := outcome.documents }

/-- The bytes of the reply to a request. -/
def bytesFor (outcome : Outcome) (request : Bytes) : Except Error Bytes := do
  let reply := outcome.replyTo request
  match outcome.compressor with
  | none => reply.serialize
  | some compressor => (Message.compressed (← Compressed.ofMessage reply compressor)).serialize

/-- The peer that does what an outcome says. -/
def peer (outcome : Outcome) : Peer where
  send _ := match outcome.sendError with
    | some error => .error error
    | none => .ok ()
  receive request := match outcome.receiveError, outcome.raw with
    | some error, _ => .error error
    | none, some bytes => .ok bytes
    | none, none => outcome.bytesFor request
  delay := outcome.latency

/-- The opening of a connection, which gives a value if it succeeds. -/
def opening {Value : Type} (outcome : Outcome) (value : Value) : Except Error Value :=
  match outcome.connectError with
  | some error => .error error
  | none => .ok value

end Outcome

end DocumentDriver
