/-
This file compares the places at which the code of an error is read from a reply: the reply to a
command, the reply to a handshake, and a reply in the old form whose flags tell that the query failed.
The first two take a code that does not fit 32 bits for absent, however it was sent. The third one keeps
its last 32 bits, so a code far beyond them can pass for one of those with which a server says that it
is no primary. The three agree on every code that fits, and beyond that only where the last 32 bits are
zero.
-/

import DocumentDriver.Client.Command

namespace DocumentDriver

/-! ### The code of a reply -/

/-- A number fits 32 bits with a sign. -/
def IsShort (number : Int) : Prop := -2 ^ 31 ≤ number ∧ number < 2 ^ 31

instance (number : Int) : Decidable (IsShort number) :=
  inferInstanceAs (Decidable (_ ∧ _))

/-- The number of 64 bits that is nearest to any number. -/
def nearestLong (number : Int) : Int := max (-2 ^ 63) (min (2 ^ 63 - 1) number)

/-- The whole number that a value stands for, however large. -/
def Value.whole? : Value → Option Int
  | int32 number => some number.toInt
  | int64 number => some number.toInt
  | double number => number.whole?
  | _ => none

namespace Document

/-- The whole number under the key of error codes. -/
def code? (reply : Document) : Option Int := reply.get? "code" >>= Value.whole?

/-- The code that a reply tells: the number under its key if that is whole and fits 32 bits, and zero
otherwise. -/
def toldCode (reply : Document) : Int32 :=
  (reply.code?.map fun number => if IsShort number then Int32.ofInt number else 0).getD 0

/-- The last 32 bits of the number under the key of error codes, once it is brought to 64 bits. -/
def lastBits (reply : Document) : Int32 :=
  (reply.code?.map fun number => Int32.ofInt (nearestLong number)).getD 0

end Document

/-! ### Numbers of 64 and of 32 bits -/

theorem nearestLong_of_isShort {number : Int} (short : IsShort number) :
    nearestLong number = number := by
  obtain ⟨least, most⟩ := short
  unfold nearestLong
  omega

theorem isShort_of_nearestLong {number : Int} (short : IsShort (nearestLong number)) :
    IsShort number := by
  unfold IsShort nearestLong at short
  unfold IsShort
  omega

theorem toInt_clampInt64 (number : Int) : (clampInt64 number).toInt = nearestLong number :=
  Int64.toInt_ofInt_of_le (by omega) (by omega)

theorem clampInt64_of_toInt {number : Int} {long : Int64} (same : long.toInt = number) :
    clampInt64 number = long := by
  have least := long.le_toInt
  have most := long.toInt_lt
  rw [← Int64.toInt_inj, toInt_clampInt64, nearestLong, same]
  omega

/-- Reading a number brings it to 64 bits. -/
theorem Value.integer?_eq (value : Value) : value.integer? = value.whole?.map clampInt64 := by
  cases value with
  | int32 number => exact congrArg some (clampInt64_of_toInt number.toInt_toInt64).symm
  | int64 number => exact congrArg some (clampInt64_of_toInt rfl).symm
  | double number => rfl
  | _ => rfl

namespace Document

variable (reply : Document)

theorem integer?_code : reply.integer? "code" = reply.code?.map clampInt64 := by
  unfold integer? code?
  cases reply.get? "code" with
  | none => rfl
  | some value => exact value.integer?_eq

/-- A number that does not fit 32 bits is taken for absent. -/
theorem smallInteger?_code :
    (ServerDescription.smallInteger? reply "code").getD 0 = reply.toldCode := by
  unfold ServerDescription.smallInteger? toldCode
  rw [integer?_code]
  cases reply.code? with
  | none => rfl
  | some number =>
    rw [Option.map_some, Option.bind_some, toInt_clampInt64]
    change (if IsShort (nearestLong number) then some _ else none).getD 0 = _
    by_cases short : IsShort number
    · rw [nearestLong_of_isShort short, if_pos short, Option.map_some, if_pos short]
    · rw [if_neg (mt isShort_of_nearestLong short), Option.map_some, if_neg short]
      rfl

/-- A number that is cut down to 32 bits keeps the last ones. -/
theorem toInt32_code : ((reply.integer? "code").getD 0).toInt32 = reply.lastBits := by
  unfold lastBits
  rw [integer?_code]
  cases reply.code? with
  | none => rfl
  | some number =>
    change (clampInt64 number).toInt32 = Int32.ofInt (nearestLong number)
    rw [← toInt_clampInt64, Int32.ofInt_int64ToInt]

/-- The last bits are the code of a number that fits, and of others only if they are zero. -/
theorem lastBits_eq_toldCode_iff :
    reply.lastBits = reply.toldCode ↔
      ∀ number, reply.code? = some number → IsShort number ∨ 2 ^ 32 ∣ nearestLong number := by
  unfold lastBits toldCode
  cases reply.code? with
  | none => simp
  | some number =>
    rw [Option.map_some, Option.map_some, Option.getD_some, Option.getD_some]
    simp only [Option.some.injEq, forall_eq']
    by_cases short : IsShort number
    · rw [nearestLong_of_isShort short, if_pos short]
      exact iff_of_true rfl (.inl short)
    · rw [if_neg short, or_iff_right short, ← Int32.toInt_inj, Int32.toInt_ofInt]
      exact Int.dvd_iff_bmod_eq_zero.symm

end Document

/-! ### The three readers -/

/-- The error of a reply without success has the code that the reply tells, whether it answers a command
or a handshake. The error of a reply in the old form that tells of a failed query has the last bits of
the number instead. These are the same as long as the number fits 32 bits, and beyond that only if they
are zero. -/
theorem replies_tell_code_that_fits (reply : Document)
    (failed : ServerDescription.flag reply "ok" = false) :
    (∃ text name, Command.checkReply reply = .error (.command reply.toldCode text name)) ∧
      (∀ address average moment, ∃ text name,
        (ServerDescription.ofReply address reply average moment).error =
          some (.command reply.toldCode text name)) ∧
      (∀ (message : Reply) (rest : List Document), message.documents = reply :: rest →
        message.flags.contains ReplyFlags.queryFailure = true → ∃ text name,
          (Message.reply message).replyDocument = .error (.command reply.lastBits text name)) ∧
      (reply.lastBits = reply.toldCode ↔
        ∀ number, reply.code? = some number → IsShort number ∨ 2 ^ 32 ∣ nearestLong number) := by
  refine ⟨?_, fun address average moment => ?_, fun message rest documents failure => ?_,
    reply.lastBits_eq_toldCode_iff⟩
  · rw [Command.checkReply, failed, if_neg Bool.false_ne_true, ServerDescription.replyError,
      reply.smallInteger?_code]
    exact ⟨_, _, rfl⟩
  · rw [ServerDescription.ofReply, failed, if_neg Bool.false_ne_true, ServerDescription.ofFailure,
      ServerDescription.replyError, reply.smallInteger?_code]
    exact ⟨_, _, rfl⟩
  · rw [Message.replyDocument, documents]
    dsimp only
    rw [if_pos failure, reply.toInt32_code]
    exact ⟨_, _, rfl⟩

/-- An answer in the old form whose flags tell that the query failed. -/
def failedQuery (reply : Document) : Reply where
  requestId := 1
  responseTo := 7
  flags := ReplyFlags.queryFailure
  documents := [reply]

/-- What a server says that is no primary any more. -/
def steppedDown : Document :=
  [("ok", .int32 0), ("code", .int32 10107), ("errmsg", .string "stepped down")]

theorem replies_tell_code_that_fits_steppedDown :
    ServerDescription.flag steppedDown "ok" = false ∧
      (∃ text name, Command.checkReply steppedDown = .error (.command 10107 text name)) ∧
      (∃ text name, (ServerDescription.ofReply ⟨"left", 27017⟩ steppedDown none .zero).error =
        some (.command 10107 text name)) ∧
      ∃ text name, (Message.reply (failedQuery steppedDown)).replyDocument =
        .error (.command 10107 text name) := by
  have failed : ServerDescription.flag steppedDown "ok" = false := by decide +kernel
  have told : steppedDown.toldCode = 10107 := by decide +kernel
  obtain ⟨command, handshake, query, same⟩ := replies_tell_code_that_fits steppedDown failed
  have bits : steppedDown.lastBits = 10107 := by
    refine (same.2 fun number found => .inl ?_).trans told
    rw [← Option.some.inj found]
    decide
  exact ⟨failed, told ▸ command, told ▸ handshake _ _ _, bits ▸ query _ [] rfl (by decide)⟩

/-- A failure whose code is 2 ^ 32 more than the one with which a server says that it is no primary. -/
def farFromPrimary : Document :=
  [("ok", .int32 0), ("code", .int64 4294977403), ("errmsg", .string "some other failure")]

/-- A code that is absent from the other answers is the code of a server that is no primary in an answer
that tells of a failed query. -/
theorem long_code_passes_for_not_primary :
    (∃ text name, Command.checkReply farFromPrimary = .error (.command 0 text name) ∧
      (Error.command 0 text name).isNotPrimary = false) ∧
    ∃ text name, (Message.reply (failedQuery farFromPrimary)).replyDocument =
        .error (.command 10107 text name) ∧
      (Error.command 10107 text name).isNotPrimary = true :=
  ⟨⟨"some other failure", none, rfl, by decide +kernel⟩, "query failure", none, rfl,
    by decide +kernel⟩

end DocumentDriver
