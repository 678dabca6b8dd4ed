/-
This file holds the description of a server, which is what one check found out about it: the reply
to the handshake, read field by field, or the error with which the check failed. Two descriptions
are the same if the server reported the same, whenever and however fast it did.
-/

import DocumentDriver.Document.Encode
import DocumentDriver.Message.Header
import DocumentDriver.Server.Address
import DocumentDriver.Server.ServerType
import DocumentDriver.Server.TagSet
import DocumentDriver.Server.TopologyVersion
import DocumentDriver.Time.Duration

namespace DocumentDriver

/-- The oldest version of the protocol that the driver speaks. -/
def minSupportedWireVersion : Int32 := 6

/-- The newest version of the protocol that the driver speaks. -/
def maxSupportedWireVersion : Int32 := 21

/-- The versions of the protocol that a server speaks lie outside those of the driver. -/
inductive Incompatibility where
  /-- The oldest version of the server is newer than any of the driver. -/
  | tooNew (address : ServerAddress) (version : Int32)
  /-- The newest version of the server is older than any of the driver. -/
  | tooOld (address : ServerAddress) (version : Int32)
deriving DecidableEq, Repr

/-- The wording of an incompatibility. -/
def Incompatibility.message : Incompatibility → String
  | tooNew address version =>
    s!"server at {address.display} requires wire version {version.toInt}, but this driver only supports up to {maxSupportedWireVersion.toInt}"
  | tooOld address version =>
    s!"server at {address.display} reports wire version {version.toInt}, but this driver requires at least {minSupportedWireVersion.toInt}"

/-- What is known of one server. -/
structure ServerDescription where
  address : ServerAddress
  type : ServerType := .unknown
  /-- The average time of a round trip, if one was measured. -/
  roundTripTime : Option Duration := none
  /-- When the server answered, as the time since the clock of the driver started. -/
  updatedAt : Duration := .zero
  minWireVersion : Int32 := 0
  maxWireVersion : Int32 := 0
  /-- The address by which the server knows itself. -/
  me : Option ServerAddress := none
  hosts : List ServerAddress := []
  passives : List ServerAddress := []
  arbiters : List ServerAddress := []
  tags : TagSet := .empty
  setName : Option String := none
  setVersion : Option Int64 := none
  electionId : Option ObjectId := none
  /-- The primary that the server believes in. -/
  primary : Option ServerAddress := none
  /-- The moment of the last write, in milliseconds from 1970. -/
  lastWriteDate : Option Int64 := none
  logicalSessionTimeout : Option Duration := none
  maxDocumentSize : Nat := defaultMaxDocumentSize
  maxMessageSize : Nat := defaultMaxMessageSize
  maxWriteBatchSize : Int64 := 100000
  topologyVersion : Option TopologyVersion := none
  /-- The names of the compressors that the server knows. -/
  compression : List String := []
  helloOk : Bool := false
  hidden : Bool := false
  /-- Why nothing is known of the server, if a check failed. -/
  error : Option Error := none
  /-- The reply to the handshake. -/
  reply : Option Document := none

namespace ServerDescription

/-- A server that has not been checked. -/
def unknown (address : ServerAddress) : ServerDescription := { address }

/-- A server whose check failed. -/
def ofError (address : ServerAddress) (error : Error) : ServerDescription :=
  { address, error := some error }

/-! ### Reading a reply -/

/-- Whether the value of a key counts as true. -/
def flag (reply : Document) (key : String) : Bool := (reply.get? key).any Value.isTruthy

/-- The number of a key, if it fits 32 bits. -/
def smallInteger? (reply : Document) (key : String) : Option Int32 :=
  (reply.integer? key).bind fun number =>
    if -2 ^ 31 ≤ number.toInt ∧ number.toInt < 2 ^ 31 then some (Int32.ofInt number.toInt) else none

/-- The number of a key, if it is not negative. -/
def size? (reply : Document) (key : String) : Option Nat :=
  (reply.integer? key).bind fun number =>
    if 0 ≤ number.toInt then some number.toInt.toNat else none

/-- The address of a text, if it has one. -/
def address? (text : String) : Option ServerAddress := (ServerAddress.parse text).toOption

/-- The texts of the array of a key. -/
def texts (reply : Document) (key : String) : List String :=
  ((reply.array? key).getD []).filterMap Value.string?

/-- The addresses in the array of a key. What is no address is passed over. -/
def addresses (reply : Document) (key : String) : List ServerAddress :=
  (texts reply key).filterMap address?

/-- The error that a reply without success carries. -/
def replyError (reply : Document) (defaultText : String) : Error :=
  .command ((smallInteger? reply "code").getD 0) ((reply.string? "errmsg").getD defaultText)
    (reply.string? "codeName")

/-- The part that a server plays, as its reply tells. -/
def typeOf (reply : Document) : ServerType :=
  if reply.string? "msg" = some "isdbgrid" then .mongos
  else if (reply.string? "setName").isSome then
    if flag reply "hidden" then .rsOther
    else if flag reply "isWritablePrimary" || flag reply "ismaster" then .rsPrimary
    else if flag reply "secondary" then .rsSecondary
    else if flag reply "arbiterOnly" then .rsArbiter
    else .rsOther
  else if flag reply "isreplicaset" then .rsGhost
  else .standalone

/-- The length of a session in a reply, which is given in minutes. -/
def sessionTimeout? (reply : Document) : Option Duration :=
  (size? reply "logicalSessionTimeoutMinutes").bind fun minutes =>
    if minutes * 60 < 2 ^ 64 then some (.ofSeconds (minutes * 60)) else none

/-- What a reply without success tells: the error and nothing else. -/
def ofFailure (address : ServerAddress) (reply : Document) : ServerDescription :=
  { address, error := some (replyError reply "handshake failed"), reply := some reply }

/-- What a reply with success tells. -/
def ofSuccess (address : ServerAddress) (reply : Document) (roundTripTime : Option Duration)
    (moment : Duration) : ServerDescription where
  address
  type := typeOf reply
  roundTripTime
  updatedAt := moment
  minWireVersion := (smallInteger? reply "minWireVersion").getD 0
  maxWireVersion := (smallInteger? reply "maxWireVersion").getD 0
  me := reply.string? "me" >>= address?
  hosts := addresses reply "hosts"
  passives := addresses reply "passives"
  arbiters := addresses reply "arbiters"
  tags := .ofDocument ((reply.document? "tags").getD [])
  setName := reply.string? "setName"
  setVersion := reply.integer? "setVersion"
  electionId := reply.objectId? "electionId"
  primary := reply.string? "primary" >>= address?
  lastWriteDate := reply.document? "lastWrite" >>= (Document.dateTime? · "lastWriteDate")
  logicalSessionTimeout := sessionTimeout? reply
  maxDocumentSize := (size? reply "maxBsonObjectSize").getD defaultMaxDocumentSize
  maxMessageSize := (size? reply "maxMessageSizeBytes").getD defaultMaxMessageSize
  maxWriteBatchSize := (reply.integer? "maxWriteBatchSize").getD 100000
  topologyVersion := reply.document? "topologyVersion" >>= TopologyVersion.ofDocument?
  compression := texts reply "compression"
  helloOk := flag reply "helloOk"
  hidden := flag reply "hidden"
  reply := some reply

/-- What a reply to the handshake at some moment tells of a server. -/
def ofReply (address : ServerAddress) (reply : Document) (roundTripTime : Option Duration)
    (moment : Duration) : ServerDescription :=
  if flag reply "ok" then ofSuccess address reply roundTripTime moment
  else ofFailure address reply

/-! ### Properties -/

/-- All members that the server lists. -/
def allHosts (description : ServerDescription) : List ServerAddress :=
  description.hosts ++ description.passives ++ description.arbiters

def isAvailable (description : ServerDescription) : Bool := description.type.isAvailable

def isDataBearing (description : ServerDescription) : Bool := description.type.isDataBearing

/-- The server knows itself by another address than the one it was checked at. -/
def hasOtherAddress (description : ServerDescription) : Bool :=
  description.me.any (· != description.address)

/-- Why the driver cannot talk to the server, if it cannot. -/
def incompatibility? (description : ServerDescription) : Option Incompatibility :=
  if !description.isAvailable then none
  else if maxSupportedWireVersion < description.minWireVersion then
    some (.tooNew description.address description.minWireVersion)
  else if description.maxWireVersion < minSupportedWireVersion then
    some (.tooOld description.address description.maxWireVersion)
  else none

/-- Every tag of a set is a tag of the server. -/
def matchesTags (description : ServerDescription) (set : TagSet) : Bool :=
  set.isIn description.tags

/-- The server reported the same in two descriptions. Members may be listed in another order. -/
def same (left right : ServerDescription) : Bool :=
  left.address == right.address && left.type == right.type &&
  left.minWireVersion == right.minWireVersion && left.maxWireVersion == right.maxWireVersion &&
  left.me == right.me && left.hosts.isPerm right.hosts && left.passives.isPerm right.passives &&
  left.arbiters.isPerm right.arbiters && left.tags == right.tags &&
  left.setName == right.setName && left.setVersion == right.setVersion &&
  left.electionId == right.electionId && left.primary == right.primary &&
  left.logicalSessionTimeout == right.logicalSessionTimeout &&
  left.topologyVersion == right.topologyVersion &&
  left.error.map Error.message == right.error.map Error.message

theorem same_refl (description : ServerDescription) : description.same description = true := by
  have permuted (hosts : List ServerAddress) : hosts.isPerm hosts = true :=
    List.isPerm_iff.2 (.refl hosts)
  simp [same, permuted]

@[simp] theorem address_ofError (address : ServerAddress) (error : Error) :
    (ofError address error).address = address := rfl

@[simp] theorem address_ofReply (address : ServerAddress) (reply : Document)
    (roundTripTime : Option Duration) (moment : Duration) :
    (ofReply address reply roundTripTime moment).address = address := by
  unfold ofReply
  split <;> rfl

end ServerDescription

end DocumentDriver
