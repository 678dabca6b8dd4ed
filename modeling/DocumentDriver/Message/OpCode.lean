/-
This file names the kinds of messages, each with the operation code that announces it.
-/

import DocumentDriver.Error

namespace DocumentDriver

/-- The kinds of messages. -/
inductive OpCode where
  | reply | update | insert | query | getMore | delete | killCursors | compressed | msg
deriving DecidableEq, Repr, Inhabited

namespace OpCode

/-- The code that announces a kind. -/
def code : OpCode → Int32
  | reply => 1
  | update => 2001
  | insert => 2002
  | query => 2004
  | getMore => 2005
  | delete => 2006
  | killCursors => 2007
  | compressed => 2012
  | msg => 2013

/-- All kinds, in the order of their codes. -/
def all : List OpCode :=
  [reply, update, insert, query, getMore, delete, killCursors, compressed, msg]

/-- The kind that a code announces. -/
def ofCode (code : Int32) : Except Error OpCode :=
  match all.find? (·.code == code) with
  | some kind => .ok kind
  | none => .error (.unknownOpCode code)

theorem ofCode_code (kind : OpCode) : ofCode kind.code = .ok kind := by
  cases kind <;> rfl

theorem code_of_ofCode {code : Int32} {kind : OpCode} (known : ofCode code = .ok kind) :
    kind.code = code := by
  unfold ofCode at known
  split at known
  next found matched =>
    cases known
    simpa using List.find?_some matched
  next => cases known

/-- The name of a kind. -/
def name : OpCode → String
  | reply => "Reply"
  | update => "Update"
  | insert => "Insert"
  | query => "Query"
  | getMore => "GetMore"
  | delete => "Delete"
  | killCursors => "KillCursors"
  | compressed => "Compressed"
  | msg => "Msg"

/-- The name of a kind in the wording of the message format. -/
def formatName : OpCode → String
  | reply => "OP_REPLY"
  | update => "OP_UPDATE"
  | insert => "OP_INSERT"
  | query => "OP_QUERY"
  | getMore => "OP_GET_MORE"
  | delete => "OP_DELETE"
  | killCursors => "OP_KILL_CURSORS"
  | compressed => "OP_COMPRESSED"
  | msg => "OP_MSG"

end OpCode

end DocumentDriver
