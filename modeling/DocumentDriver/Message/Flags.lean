/-
This file holds sets of flags, which travel as the bits of one 32-bit word, and the flags that the
kinds of messages know. Bits without a name are kept.
-/

namespace DocumentDriver

/-- A set of flags, as the bits of a word. -/
structure Flags where
  word : UInt32
deriving DecidableEq, Repr, Inhabited

namespace Flags

/-- No flag. -/
def empty : Flags := ⟨0⟩

/-- Whether all flags of another set are in the set. -/
def contains (flags others : Flags) : Bool := flags.word &&& others.word == others.word

/-- The flags of either set. -/
def union (flags others : Flags) : Flags := ⟨flags.word ||| others.word⟩

/-- The flags of a set without those of another. -/
def diff (flags others : Flags) : Flags := ⟨flags.word &&& ~~~others.word⟩

end Flags

namespace MsgFlags

/-- Four bytes of checksum follow the sections. -/
def checksumPresent : Flags := ⟨1⟩

/-- The sender does not wait for a reply. -/
def moreToCome : Flags := ⟨2⟩

/-- The receiver may answer with several messages. -/
def exhaustAllowed : Flags := ⟨0x10000⟩

/-- The bits that a reader must not pass over. -/
def required : Flags := ⟨0xFFFF⟩

/-- The flags and their names. -/
def named : List (String × Flags) :=
  [("CHECKSUM_PRESENT", checksumPresent), ("MORE_TO_COME", moreToCome),
   ("EXHAUST_ALLOWED", exhaustAllowed)]

end MsgFlags

namespace QueryFlags

/-- A server that is not primary may answer. -/
def secondaryOk : Flags := ⟨4⟩

/-- The flags and their names. -/
def named : List (String × Flags) :=
  [("TAILABLE_CURSOR", ⟨2⟩), ("SECONDARY_OK", secondaryOk), ("OPLOG_REPLAY", ⟨8⟩),
   ("NO_CURSOR_TIMEOUT", ⟨16⟩), ("AWAIT_DATA", ⟨32⟩), ("EXHAUST", ⟨64⟩), ("PARTIAL", ⟨128⟩)]

end QueryFlags

namespace ReplyFlags

/-- The query failed, and the first document says why. -/
def queryFailure : Flags := ⟨2⟩

/-- The flags and their names. -/
def named : List (String × Flags) :=
  [("CURSOR_NOT_FOUND", ⟨1⟩), ("QUERY_FAILURE", queryFailure), ("SHARD_CONFIG_STALE", ⟨4⟩),
   ("AWAIT_CAPABLE", ⟨8⟩)]

end ReplyFlags

namespace InsertFlags

/-- The flags and their names. -/
def named : List (String × Flags) := [("CONTINUE_ON_ERROR", ⟨1⟩)]

end InsertFlags

namespace UpdateFlags

/-- The flags and their names. -/
def named : List (String × Flags) := [("UPSERT", ⟨1⟩), ("MULTI_UPDATE", ⟨2⟩)]

end UpdateFlags

namespace DeleteFlags

/-- The flags and their names. -/
def named : List (String × Flags) := [("SINGLE_REMOVE", ⟨1⟩)]

end DeleteFlags

end DocumentDriver
