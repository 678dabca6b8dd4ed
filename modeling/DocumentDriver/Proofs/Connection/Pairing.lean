/-
This file proves that an exchange pairs a request with its reply. A socket is whatever answers two
calls, and an exchange over it is written here call by call, so that the calls can be counted: it is the
exchange with a peer that behaves as the socket does. A message that cannot be written, or is too long,
leaves the socket alone. Any other one is sent once, and then either the exchange is over or one message
is taken for the reply, and it counts only if it answers the request. So nothing but the number of the
request, its bytes and whether a reply is waited for makes a difference, and a message and the wrapper
around it have the same number and the same answer to that question.
-/

import DocumentDriver.Connection.Exchange
import DocumentDriver.Proofs.Message.Compression

namespace DocumentDriver

/-! ### One exchange -/

namespace Exchange

theorem bytesOf_eq_ok_iff {message : Message} {max : Nat} {bytes : Bytes} :
    bytesOf message max = .ok bytes ↔ message.serialize = .ok bytes ∧ bytes.length ≤ max := by
  unfold bytesOf
  rw [bind_eq_ok_iff]
  constructor
  · rintro ⟨whole, written, fits⟩
    split at fits
    · cases fits
    · next short =>
      cases fits
      exact ⟨written, Nat.not_lt.1 short⟩
  · rintro ⟨written, fits⟩
    exact ⟨bytes, written, if_neg (Nat.not_lt.2 fits)⟩

theorem bytesOf_eq_tooLarge_iff {message : Message} {max size limit : Nat} {bytes : Bytes}
    (written : message.serialize = .ok bytes) :
    bytesOf message max = .error (.messageTooLarge size limit) ↔
      size = bytes.length ∧ max < size ∧ limit = max := by
  unfold bytesOf
  rw [written]
  show (if max < bytes.length then _ else _ : Except Error Bytes) = _ ↔ _
  by_cases long : max < bytes.length
  · rw [if_pos long, Except.error.injEq, Error.messageTooLarge.injEq]
    omega
  · rw [if_neg long]
    refine ⟨nofun, ?_⟩
    rintro ⟨rfl, exceeds, -⟩
    exact absurd exceeds long

/-- Only a message that answers another one is taken for the reply to it. -/
theorem replyTo_eq_ok_iff {message reply : Message} {registry : CompressorRegistry} {max : Nat}
    {bytes : Bytes} : replyTo message registry max bytes = .ok reply ↔
      Message.ofBytes bytes max registry = .ok reply ∧ reply.responseTo = message.requestId := by
  unfold replyTo
  rw [bind_eq_ok_iff]
  constructor
  · rintro ⟨decoded, read, answers⟩
    split at answers
    · next same =>
      cases answers
      exact ⟨read, same⟩
    · cases answers
  · rintro ⟨read, same⟩
    exact ⟨reply, read, if_pos same⟩

/-- Of the request, only its number counts for what is taken for its reply. -/
theorem replyTo_congr {message other : Message} (same : other.requestId = message.requestId)
    (registry : CompressorRegistry) (max : Nat) :
    replyTo other registry max = replyTo message registry max := by
  unfold replyTo
  rw [same]

variable {message : Message} {registry : CompressorRegistry} {max : Nat} {peer : Peer}

theorem run_of_error {error : Error} (failed : bytesOf message max = .error error) :
    run message registry max peer = ⟨none, false, .error error⟩ := by
  unfold run
  rw [failed]

theorem sent_of_ok {bytes : Bytes} (written : bytesOf message max = .ok bytes) :
    (run message registry max peer).sent = some bytes := by
  unfold run
  rw [written]
  dsimp only
  split
  · rfl
  · split <;> rfl

theorem bytesOf_of_sent {bytes : Bytes} (sent : (run message registry max peer).sent = some bytes) :
    bytesOf message max = .ok bytes := by
  cases written : bytesOf message max with
  | error error =>
    rw [run_of_error written] at sent
    cases sent
  | ok whole =>
    rw [sent_of_ok written] at sent
    cases sent
    rfl

theorem isAwaited_of_ok {bytes : Bytes} (written : bytesOf message max = .ok bytes) :
    (run message registry max peer).isAwaited = true ↔
      peer.send bytes = .ok () ∧ message.isReplyable = true := by
  unfold run
  rw [written]
  dsimp only
  cases peer.send bytes with
  | error error => exact ⟨nofun, nofun⟩
  | ok =>
    by_cases awaits : message.isReplyable = true
    · rw [if_pos awaits]
      exact ⟨fun _ => ⟨rfl, awaits⟩, fun _ => rfl⟩
    · rw [if_neg awaits]
      exact ⟨nofun, fun both => absurd both.2 awaits⟩

theorem result_of_ok {bytes : Bytes} (written : bytesOf message max = .ok bytes) :
    (run message registry max peer).result = (do
      peer.send bytes
      if message.isReplyable then
        return some (← replyTo message registry max (← peer.receive bytes))
      else return none) := by
  unfold run
  rw [written]
  dsimp only
  cases peer.send bytes with
  | error error => rfl
  | ok =>
    by_cases awaits : message.isReplyable = true
    · rw [if_pos awaits]
      exact (if_pos awaits).symm
    · rw [if_neg awaits]
      exact (if_neg awaits).symm

/-- An exchange gives a message exactly if its own is sent, a reply is waited for, and what then arrives
holds a message which answers it. -/
theorem result_eq_some_iff {reply : Message} :
    (run message registry max peer).result = .ok (some reply) ↔ ∃ bytes received,
      bytesOf message max = .ok bytes ∧ peer.send bytes = .ok () ∧ message.isReplyable = true ∧
      peer.receive bytes = .ok received ∧ replyTo message registry max received = .ok reply := by
  cases written : bytesOf message max with
  | error error =>
    rw [run_of_error written]
    exact ⟨nofun, nofun⟩
  | ok bytes =>
    rw [result_of_ok written, bind_eq_ok_iff]
    constructor
    · rintro ⟨_, sent, replied⟩
      by_cases awaits : message.isReplyable = true
      · rw [if_pos awaits] at replied
        obtain ⟨received, arrived, replied⟩ := bind_eq_ok_iff.1 replied
        obtain ⟨decoded, taken, same⟩ := bind_eq_ok_iff.1 replied
        cases same
        exact ⟨bytes, received, rfl, sent, awaits, arrived, taken⟩
      · rw [if_neg awaits] at replied
        cases replied
    · rintro ⟨_, received, ⟨⟩, sent, awaits, arrived, taken⟩
      refine ⟨(), sent, ?_⟩
      rw [if_pos awaits]
      exact bind_eq_ok_iff.2 ⟨received, arrived, bind_eq_ok_iff.2 ⟨reply, taken, rfl⟩⟩

/-- The message that an exchange gives answers the one that was sent. -/
theorem responseTo_of_run {reply : Message}
    (replied : (run message registry max peer).result = .ok (some reply)) :
    reply.responseTo = message.requestId := by
  obtain ⟨bytes, received, -, -, -, -, taken⟩ := result_eq_some_iff.1 replied
  exact (replyTo_eq_ok_iff.1 taken).2

/-- Nothing but the number of a message and whether a reply to it is waited for makes a difference, if
the other end reacts in the same way. -/
theorem result_congr {other : Message} {stranger : Peer} {bytes framed : Bytes}
    (written : bytesOf message max = .ok bytes) (wrapped : bytesOf other max = .ok framed)
    (number : other.requestId = message.requestId)
    (replyable : other.isReplyable = message.isReplyable)
    (sent : stranger.send framed = peer.send bytes)
    (received : stranger.receive framed = peer.receive bytes) :
    (run other registry max stranger).result = (run message registry max peer).result := by
  rw [result_of_ok written, result_of_ok wrapped, replyTo_congr number, replyable, sent, received]

end Exchange

/-! ### Call by call -/

/-- A socket moves whole messages. Each of its two calls has an outcome and may change its state. -/
structure Socket (State : Type) where
  send : Bytes → State → Except Error Unit × State
  receive : State → Except Error Bytes × State

/-- A call on a socket. -/
inductive SocketCall where
  | send (bytes : Bytes)
  | receive
deriving DecidableEq, Repr

/-- The calls of an exchange. -/
def Exchange.calls (exchange : Exchange) : List SocketCall :=
  match exchange.sent with
  | none => []
  | some bytes => .send bytes :: if exchange.isAwaited then [.receive] else []

namespace Socket

variable {State Result : Type}

/-- Something that is done with a socket. Whether it fails or not, there are the calls that were made and
the state that the socket is left in. -/
abbrev Action (State Result : Type) := ExceptT Error (StateM (List SocketCall × State)) Result

/-- Makes a call and notes it behind those before. -/
def call (made : SocketCall) (outcome : State → Except Error Result × State) : Action State Result :=
  fun (calls, state) => ((outcome state).1, (calls ++ [made], (outcome state).2))

theorem call_bind_of_ok {Middle : Type} {made : SocketCall}
    {outcome : State → Except Error Middle × State} {next : Middle → Action State Result}
    {calls : List SocketCall} {state : State} {middle : Middle}
    (done : (outcome state).1 = .ok middle) :
    (call made outcome >>= next) (calls, state) =
      next middle (calls ++ [made], (outcome state).2) := by
  show ExceptT.bindCont next (outcome state).1 _ = _
  rw [done]
  rfl

theorem call_bind_of_error {Middle : Type} {made : SocketCall}
    {outcome : State → Except Error Middle × State} {next : Middle → Action State Result}
    {calls : List SocketCall} {state : State} {error : Error}
    (failed : (outcome state).1 = .error error) :
    (call made outcome >>= next) (calls, state) =
      (.error error, (calls ++ [made], (outcome state).2)) := by
  show ExceptT.bindCont next (outcome state).1 _ = _
  rw [failed]
  rfl

/-- Sends a message and, if its sender waits for a reply, takes the next message for it. -/
def exchange (socket : Socket State) (message : Message) (registry : CompressorRegistry) (max : Nat) :
    Action State (Option Message) := do
  let bytes ← Exchange.bytesOf message max
  call (.send bytes) (socket.send bytes)
  if message.isReplyable then
    let received ← call .receive socket.receive
    return some (← Exchange.replyTo message registry max received)
  else return none

/-- How a socket in some state looks to one exchange. -/
def peer (socket : Socket State) (state : State) : Peer where
  send bytes := (socket.send bytes state).1
  receive bytes := (socket.receive (socket.send bytes state).2).1

/-- The state of a socket after a call. -/
def step (socket : Socket State) (state : State) : SocketCall → State
  | .send bytes => (socket.send bytes state).2
  | .receive => (socket.receive state).2

/-- What is left of an exchange over a socket. -/
structure Aftermath (State : Type) where
  result : Except Error (Option Message)
  calls : List SocketCall
  state : State

/-- Exchanges a message over a socket in some state on which no call was made yet. -/
def run (socket : Socket State) (message : Message) (registry : CompressorRegistry) (max : Nat)
    (state : State) : Aftermath State :=
  let ended := socket.exchange message registry max ([], state)
  ⟨ended.1, ended.2.1, ended.2.2⟩

/-- The exchange with the peer that a socket looks like. -/
abbrev met (socket : Socket State) (message : Message) (registry : CompressorRegistry) (max : Nat)
    (state : State) : Exchange :=
  Exchange.run message registry max (socket.peer state)

/-- An exchange over a socket is one with the peer that the socket looks like. It makes the calls that
this exchange tells of, and nothing else changes the socket. -/
theorem exchange_eq (socket : Socket State) (message : Message) (registry : CompressorRegistry)
    (max : Nat) (state : State) :
    socket.exchange message registry max ([], state) =
      ((socket.met message registry max state).result, (socket.met message registry max state).calls,
        (socket.met message registry max state).calls.foldl socket.step state) := by
  unfold met Exchange.run exchange
  cases Exchange.bytesOf message max with
  | error error => rfl
  | ok bytes =>
    change (call (.send bytes) (socket.send bytes) >>= _ : Action State _) ([], state) = _
    dsimp only [peer]
    cases sent : (socket.send bytes state).1 with
    | error error =>
      rw [call_bind_of_error sent]
      rfl
    | ok =>
      rw [call_bind_of_ok sent]
      by_cases awaits : message.isReplyable = true
      · rw [if_pos awaits, if_pos awaits]
        cases received : (socket.receive (socket.send bytes state).2).1 with
        | error error =>
          rw [call_bind_of_error received]
          rfl
        | ok given =>
          rw [call_bind_of_ok received]
          -- What was received is bound to what is read from it only in the exchange with a peer.
          have read : (Except.ok given >>= Exchange.replyTo message registry max) =
            Exchange.replyTo message registry max given := rfl
          dsimp only
          rw [← bind_assoc, read]
          cases Exchange.replyTo message registry max given <;> rfl
      · rw [if_neg awaits, if_neg awaits]
        rfl

theorem run_eq (socket : Socket State) (message : Message) (registry : CompressorRegistry) (max : Nat)
    (state : State) :
    socket.run message registry max state =
      ⟨(socket.met message registry max state).result, (socket.met message registry max state).calls,
        (socket.met message registry max state).calls.foldl socket.step state⟩ := by
  unfold run
  rw [exchange_eq]

/-- Once these bytes have been sent, a reply to the message is waited for. -/
def Awaits (socket : Socket State) (message : Message) (bytes : Bytes) (state : State) : Prop :=
  (socket.send bytes state).1 = .ok () ∧ message.isReplyable = true

/-- An exchange leaves the socket alone if its message cannot be written or is too long. Otherwise it
sends these bytes once and receives, once, exactly if the sending succeeded and a reply is waited for.
What it gives is what was received, read within the same ceiling and restored if it was compressed, and
answers the message. A wrapper around a message for which a reply is not declined is as good as the
message: the same outcomes of the two calls give the same result. -/
theorem exchange_pairs_reply (socket : Socket State) (message : Message)
    (registry : CompressorRegistry) (max : Nat) (state : State) :
    ((∀ bytes, message.serialize = .ok bytes → max < bytes.length) →
      (∃ error, (socket.run message registry max state).result = .error error) ∧
        (socket.run message registry max state).calls = [] ∧
        (socket.run message registry max state).state = state) ∧
    (∀ bytes, message.serialize = .ok bytes → bytes.length ≤ max →
      socket.Awaits message bytes state ∧
          (socket.run message registry max state).calls = [.send bytes, .receive] ∨
        ¬socket.Awaits message bytes state ∧
          (socket.run message registry max state).calls = [.send bytes]) ∧
    (∀ reply, (socket.run message registry max state).result = .ok (some reply) ↔
      ∃ bytes received, message.serialize = .ok bytes ∧ bytes.length ≤ max ∧
        socket.Awaits message bytes state ∧
        (socket.receive (socket.send bytes state).2).1 = .ok received ∧
        Message.ofBytes received max registry = .ok reply ∧
        reply.responseTo = message.requestId) ∧
    (∀ reply, (socket.run message registry max state).result = .ok (some reply) →
      reply.kind ≠ .compressed) ∧
    ∀ (compressor : Compressor) (wrapper : Compressed) (bytes framed : Bytes),
      Compressed.ofMessage message compressor = .ok wrapper →
      (∀ command, message = .msg command → command.moreToCome = false) →
      message.serialize = .ok bytes → bytes.length ≤ max →
      (Message.compressed wrapper).serialize = .ok framed → framed.length ≤ max →
      ∀ (Other : Type) (other : Socket Other) (start : Other),
        (other.send framed start).1 = (socket.send bytes state).1 →
        (other.receive (other.send framed start).2).1 =
          (socket.receive (socket.send bytes state).2).1 →
        (other.run (.compressed wrapper) registry max start).result =
          (socket.run message registry max state).result := by
  simp only [run_eq]
  refine ⟨fun unsent => ?_, fun bytes written fits => ?_, fun reply => ?_, fun reply replied => ?_,
    fun compressor wrapper bytes framed wrapped awaited written short packed fits Other other start
      sent received => ?_⟩
  · cases given : Exchange.bytesOf message max with
    | ok bytes =>
      obtain ⟨written, fits⟩ := Exchange.bytesOf_eq_ok_iff.1 given
      exact absurd (unsent bytes written) (Nat.not_lt.2 fits)
    | error error =>
      rw [met, Exchange.run_of_error given]
      exact ⟨⟨error, rfl⟩, rfl, rfl⟩
  · have given := Exchange.bytesOf_eq_ok_iff.2 ⟨written, fits⟩
    have awaited : (socket.met message registry max state).isAwaited = true ↔ _ :=
      Exchange.isAwaited_of_ok given
    have sent : (socket.met message registry max state).sent = some bytes :=
      Exchange.sent_of_ok given
    unfold Exchange.calls
    rw [sent]
    by_cases awaits : socket.Awaits message bytes state
    · rw [if_pos (awaited.2 awaits)]
      exact .inl ⟨awaits, rfl⟩
    · rw [if_neg (awaits ∘ awaited.1)]
      exact .inr ⟨awaits, rfl⟩
  · rw [Exchange.result_eq_some_iff]
    simp only [Exchange.bytesOf_eq_ok_iff, Exchange.replyTo_eq_ok_iff, and_assoc, Awaits, peer]
  · obtain ⟨bytes, received, -, -, -, -, taken⟩ := Exchange.result_eq_some_iff.1 replied
    exact Message.kind_of_ofBytes (Exchange.replyTo_eq_ok_iff.1 taken).1
  · have wraps := Compressed.wraps_of_ofMessage wrapped written
    have replyable := Message.isReplyable_wrapper_of_awaited wraps awaited
    exact Exchange.result_congr (Exchange.bytesOf_eq_ok_iff.2 ⟨written, short⟩)
      (Exchange.bytesOf_eq_ok_iff.2 ⟨packed, fits⟩) wraps.requestId replyable sent received

/-- A socket that takes everything and gives the messages that wait in it, one after the other. -/
def feeding : Socket (List Bytes) where
  send _ waiting := (.ok (), waiting)
  receive
    | [] => (.error .connectionClosed, [])
    | first :: rest => (.ok first, rest)

/-- A command. -/
def ping : Message := .msg { requestId := 7, command := [("ping", .int32 1)] }

/-- The answer to it. -/
def pong : Message := .msg { requestId := 9, responseTo := 7, command := [("ok", .int32 1)] }

theorem exchange_pairs_reply_ping :
    (feeding.run ping .default 30 []).calls = [] ∧
    ∃ bytes received wrapper, ping.serialize = .ok bytes ∧ pong.serialize = .ok received ∧
      Compressed.ofMessage ping .noop = .ok wrapper ∧
      (feeding.run ping .default 50 [received]).calls = [.send bytes, .receive] ∧
      (feeding.run ping .default 50 [received]).result = .ok (some pong) ∧
      (feeding.run (.compressed wrapper) .default 50 [received, bytes]).result =
        (feeding.run ping .default 50 [received]).result := by
  obtain ⟨bytes, written⟩ : ∃ bytes, ping.serialize = .ok bytes := ⟨_, rfl⟩
  obtain ⟨received, answered⟩ : ∃ received, pong.serialize = .ok received := ⟨_, rfl⟩
  obtain ⟨wrapper, wrapped⟩ : ∃ wrapper, Compressed.ofMessage ping .noop = .ok wrapper := ⟨_, rfl⟩
  obtain ⟨framed, packed⟩ : ∃ framed, (Message.compressed wrapper).serialize = .ok framed := by
    cases wrapped
    exact ⟨_, rfl⟩
  have length : bytes.length = 36 := by
    cases written
    rfl
  have longer : framed.length = 45 := by
    cases wrapped
    cases packed
    rfl
  have awaits (waiting : List Bytes) : feeding.Awaits ping bytes waiting := ⟨rfl, rfl⟩
  have read : Message.ofBytes received 50 .default = .ok pong := by
    cases answered
    rfl
  obtain ⟨unsent, -⟩ := exchange_pairs_reply feeding ping .default 30 []
  obtain ⟨-, sent, replied, -, same⟩ := exchange_pairs_reply feeding ping .default 50 [received]
  refine ⟨(unsent fun other given => ?_).2.1, bytes, received, wrapper, written, answered, wrapped,
    ?_, (replied pong).2 ?_, ?_⟩
  · cases written.symm.trans given
    omega
  · exact ((sent bytes written (by omega)).resolve_right fun none => none.1 (awaits _)).2
  · exact ⟨bytes, received, written, by omega, awaits _, rfl, read, rfl⟩
  · refine same .noop wrapper bytes framed wrapped ?_ written (by omega) packed (by omega)
      (List Bytes) feeding [received, bytes] rfl rfl
    rintro _ ⟨⟩
    rfl

end Socket

end DocumentDriver
