import AddressLeasing.Proofs.ClientScript
import AddressLeasing.Proofs.ServerReplies
/-!
# One server and many clients on a network

A `Network` holds one server, any number of clients each running its current operation as a
script, and the datagrams in flight: those the clients sent to the server, oldest first, and
those the server sent back. A step is one thing happening: a client starts an operation, sends,
fails to send, takes a datagram, sees its deadline pass or its link fail; the server takes a
datagram and answers it; the network loses a datagram; the sweep runs without freeing a record.

The network may delay, reorder, repeat or lose datagrams. Whether it keeps the datagrams of one
client in the order they were sent is a parameter, `ordered`: with it, the server takes a
client's datagram only once every older one of that client has arrived or been lost, and a
repeated datagram arrives again before anything newer of its sender.

A client's script is always at one of a few places (`Stage`): between operations; in the
DISCOVER or the REQUEST exchange of an acquisition attempt; in the exchange of a renewal; or
about to send a RELEASE. Each place says which datagram the client sends and which replies it
takes, and `Stage.afterSend` and `Stage.afterWait` say where each outcome leads. The scripts of
the stages are exactly the scripts of `Script.acquire`, `Script.renew` and `Script.release`
(`send_of_script`, `await_of_script`, `script_start`).
-/

set_option autoImplicit false

namespace AddressLeasing

/-- What a client may start once its last operation has ended. -/
inductive Operation where
  | acquire
  | renew (server : Ipv4)
  | release

namespace Script

variable {α β γ : Type}

/-- The client as a script shows it: the one its current action carries, or the one its
operation ended with. -/
def client : Script Client → Client
  | pure c => c
  | send c .. => c
  | await c .. => c

/-- How a waiting client takes a datagram: a reply it accepts ends the wait with that reply;
anything else, and whatever does not decode, is dropped and the wait goes on. -/
def deliver (c : Client) (xid : UInt32) (accept : MessageKind → Bool)
    (next : Except Error (Option Message) → Script Client) (bytes : List UInt8) : Script Client :=
  match Message.decode bytes with
  | .ok r => if r.answers xid c.hardware accept then next (.ok (some r)) else await c xid accept next
  | .error _ => await c xid accept next

theorem bind_bind (p : Script α) (f : α → Script β) (g : β → Script γ) :
    (p.bind f).bind g = p.bind fun a => (f a).bind g := by
  induction p with
  | pure a => rfl
  | send c bytes destination next ih => exact congrArg (send c bytes destination) (funext ih)
  | await c xid accept next ih => exact congrArg (await c xid accept) (funext ih)

/-- An exchange of an encodable message sends its wire form. -/
theorem exchange_eq {m : Message} (hm : m.Encodable) (c : Client) (destination : Endpoint)
    (accept : MessageKind → Bool) :
    exchange c m destination accept =
      resend c m.wire destination m.xid accept (c.maxRetries.toNat + 1) := by
  rw [exchange, Message.encode_eq_ok hm]

/-- Where an acquisition goes once an attempt has ended with `o`, `restarts` attempts left. -/
def attemptEnd : Nat → Except Error ClientLease × Client →
    Script (Except Error ClientLease × Client)
  | _, (.ok held, c) => pure (.ok held, c)
  | 0, (.error e, c) => pure (.error (.acquisitionFailed c.attempts e), { c with phase := .init })
  | restarts + 1, (.error _, c) => acquireWithin restarts c

theorem acquireWithin_eq (restarts : Nat) (c : Client) :
    acquireWithin restarts c = (tryAcquire c.drawXid.2 c.drawXid.1).bind (attemptEnd restarts) := by
  cases restarts <;>
  · rw [acquireWithin]
    congr 1
    funext o
    rcases o with ⟨_ | _, _⟩ <;> rfl

end Script

/-- Where an exchange stands: about to send, with `more` sends left after this one, or waiting
for the reply to its last send, with `more` sends left. -/
inductive Tries where
  | sending (more : Nat)
  | waiting (more : Nat)

namespace Script

/-- The exchange of `m` at the point `t`. -/
def exchangeAt (c : Client) (m : Message) (destination : Endpoint) (accept : MessageKind → Bool) :
    Tries → Script (Except Error Message)
  | .sending more => resend c m.wire destination m.xid accept (more + 1)
  | .waiting more => await c m.xid accept fun
    | .ok (some r) => pure (.ok r)
    | .ok none => resend c m.wire destination m.xid accept more
    | .error e => pure (.error e)

theorem exchangeAt_sending (c : Client) (m : Message) (destination : Endpoint)
    (accept : MessageKind → Bool) (more : Nat) :
    exchangeAt c m destination accept (.sending more) = send c m.wire destination fun
      | .ok () => exchangeAt c m destination accept (.waiting more)
      | .error e => pure (.error e) := by
  simp only [exchangeAt, resend]
  congr 1
  funext r
  rcases r with _ | ⟨⟩ <;> rfl

end Script

namespace Client

@[simp] theorem drawXid_snd_lastXid (c : Client) : c.drawXid.2.lastXid = c.drawXid.1 := rfl

-- Split first: unifying the drawn client with the old one would compare the two ids.
@[simp] theorem drawXid_snd_maxRetries (c : Client) : c.drawXid.2.maxRetries = c.maxRetries := by
  cases c
  rfl

/-- The DISCOVER of the client's transaction. -/
def discoverMessage (c : Client) : Message := .discover c.hardware c.lastXid c.maxMessageSize

/-- The REQUEST of an acquisition attempt, for `requested` from `server`. -/
def requestMessage (c : Client) (server requested : Ipv4) : Message :=
  .request c.hardware c.lastXid requested server .unspecified

/-- The REQUEST that renews `held` with `server`. -/
def renewalMessage (c : Client) (held : ClientLease) (server : Ipv4) : Message :=
  .request c.hardware c.lastXid held.address server held.address

/-- The RELEASE of `held`. -/
def releaseMessage (c : Client) (held : ClientLease) : Message :=
  .release c.hardware c.lastXid held.address

end Client

/-- The script of an operation that `c` starts, ending with the client it leaves. -/
def Operation.script : Operation → Client → Script Client
  | .acquire, c => (Script.acquire c).bind fun o => .pure o.2
  | .renew server, c => (Script.renew c server).bind fun o => .pure o.2
  | .release, c => (Script.release c).bind fun o => .pure o.2

/-- Where a client's script stands. In every stage but `idle` the client carries the transaction
id of the message it exchanges. -/
inductive Stage where
  /-- Between operations. -/
  | idle (c : Client)
  /-- In the DISCOVER exchange of an acquisition attempt, `restarts` attempts left after it. -/
  | discovering (c : Client) (restarts : Nat) (tries : Tries)
  /-- In the REQUEST exchange of an acquisition attempt, for `requested` from `server`. -/
  | requesting (c : Client) (server requested : Ipv4) (restarts : Nat) (tries : Tries)
  /-- In the exchange that renews `held` with `server`. -/
  | renewing (c : Client) (held : ClientLease) (server : Ipv4) (tries : Tries)
  /-- About to send the RELEASE of `held`. -/
  | releasing (c : Client) (held : ClientLease)

namespace Stage

/-- The client as the stage shows it. -/
def client : Stage → Client
  | idle c | discovering c .. | requesting c .. | renewing c .. | releasing c _ => c

/-- The message the stage sends. -/
def message : Stage → Option Message
  | idle _ => none
  | discovering c .. => some c.discoverMessage
  | requesting c server requested .. => some (c.requestMessage server requested)
  | renewing c held server _ => some (c.renewalMessage held server)
  | releasing c held => some (c.releaseMessage held)

/-- The reply kinds the stage's exchange takes. -/
def accept : Stage → MessageKind → Bool
  | discovering .. => (· == .offer)
  | requesting .. | renewing .. => MessageKind.answersRequest
  | _ => fun _ => false

/-- Where the stage's exchange stands. -/
def tries : Stage → Option Tries
  | discovering _ _ t | requesting _ _ _ _ t | renewing _ _ _ t => some t
  | _ => none

/-- The same stage with its exchange at `t`. -/
def withTries : Stage → Tries → Stage
  | discovering c r _, t => discovering c r t
  | requesting c server requested r _, t => requesting c server requested r t
  | renewing c held server _, t => renewing c held server t
  | st, _ => st

/-- Where an acquisition goes once an attempt has ended with `o`, `restarts` attempts left. -/
def attemptEnded (restarts : Nat) : Except Error ClientLease × Client → Stage
  | (.ok _, c) => idle c
  | (.error _, c) =>
    match restarts with
    | 0 => idle { c with phase := .init }
    | r + 1 =>
      discovering { c.drawXid.2 with phase := .selecting, lease := none } r
        (.sending c.maxRetries.toNat)

/-- Where a stage goes once its exchange has ended with `res`. -/
def ended : Stage → Except Error Message → Stage
  | discovering c r _, .ok offer =>
    match offer.options.serverIdentifier with
    | .ok identifier =>
      requesting { c with phase := .requesting } (identifier.getD offer.siaddr) offer.yiaddr r
        (.sending c.maxRetries.toNat)
    | .error e => attemptEnded r (.error e, c)
  | discovering c r _, .error e => attemptEnded r (.error e, c)
  | requesting c server requested r _, .ok reply => attemptEnded r (c.bindReply reply server requested)
  | requesting c _ _ r _, .error e => attemptEnded r (.error e, c)
  | renewing c held server _, .ok reply =>
    idle (Script.settleRenewal (c.bindReply reply server held.address)).2
  | renewing c _ _ _, .error e => idle (Script.settleRenewal (.error e, c)).2
  | st, _ => st

/-- Where a stage goes after its send succeeded or failed. -/
def afterSend (st : Stage) (res : Except Error Unit) : Stage :=
  match st, res with
  | releasing c _, _ => idle { c with phase := .init }
  | st, .ok () =>
    match st.tries with
    | some (.sending more) => st.withTries (.waiting more)
    | _ => st
  | st, .error e => st.ended (.error e)

/-- Where a stage goes after its wait ended with a reply, the deadline or a failure. -/
def afterWait (st : Stage) (res : Except Error (Option Message)) : Stage :=
  match res, st.tries with
  | .ok (some r), _ => st.ended (.ok r)
  | .ok none, some (.waiting (more + 1)) => st.withTries (.sending more)
  | .ok none, _ => st.ended (.error st.client.timeout)
  | .error e, _ => st.ended (.error e)

/-- Where an operation that `c` starts begins. -/
def started : Operation → Client → Stage
  | .acquire, c =>
    discovering { c.drawXid.2 with phase := .selecting, lease := none } (c.attempts - 1)
      (.sending c.maxRetries.toNat)
  | .renew server, c =>
    match c.lease with
    | none => idle c
    | some held => renewing { c.drawXid.2 with phase := .requesting } held server
        (.sending c.maxRetries.toNat)
  | .release, c =>
    match c.lease with
    | none => idle c
    | some held => releasing { c with lease := none, phase := .releasing }.drawXid.2 held

/-- What an operation leaves: the client. -/
def finish {α : Type} (o : α × Client) : Script Client := .pure o.2

/-- The script at a stage. -/
def script : Stage → Script Client
  | idle c => .pure c
  | discovering c r t =>
    (((Script.exchangeAt c c.discoverMessage c.server (· == .offer) t).bind
      (Script.offered c c.lastXid)).bind (Script.attemptEnd r)).bind finish
  | requesting c server requested r t =>
    (((Script.exchangeAt c (c.requestMessage server requested) c.server
      MessageKind.answersRequest t).bind (Script.requested c server requested)).bind
        (Script.attemptEnd r)).bind finish
  | renewing c held server t =>
    ((Script.exchangeAt c (c.renewalMessage held server) (c.destinationFor server)
      MessageKind.answersRequest t).bind (Script.renewed c server held.address)).bind finish
  | releasing c held =>
    .send c (c.releaseMessage held).wire (c.destinationFor held.server) fun _ =>
      .pure { c with phase := .init }

/-! ### The stages' scripts are the operations' scripts -/

/-- Where the stage sends its datagrams. -/
def destination : Stage → Endpoint
  | idle c | discovering c .. | requesting c .. => c.server
  | renewing c _ server _ => c.destinationFor server
  | releasing c held => c.destinationFor held.server

/-- An acquisition with `restarts` attempts left after the next one starts by drawing a
transaction id and sending its DISCOVER. -/
theorem acquireWithin_finish (restarts : Nat) (c : Client) :
    (Script.acquireWithin restarts c).bind finish =
      (discovering { c.drawXid.2 with phase := .selecting, lease := none } restarts
        (.sending c.maxRetries.toNat)).script := by
  rw [Script.acquireWithin_eq, Script.tryAcquire,
    Script.exchange_eq (Message.encodable_discover _ _ _)]
  simp only [script, Script.exchangeAt, Client.discoverMessage, Client.drawXid_snd_lastXid,
    Client.drawXid_snd_maxRetries]

theorem attemptEnd_finish (restarts : Nat) (o : Except Error ClientLease × Client) :
    (Script.attemptEnd restarts o).bind finish = (attemptEnded restarts o).script := by
  rcases o with ⟨_ | held, c⟩
  · cases restarts with
    | zero => rfl
    | succ r => exact acquireWithin_finish r c
  · rfl

theorem script_of_tries {st : Stage} {t : Tries} {m : Message} (ht : st.tries = some t)
    (hm : st.message = some m) :
    st.script = (Script.exchangeAt st.client m st.destination st.accept t).bind fun res =>
      (st.ended res).script := by
  cases st with
  | idle c => cases ht
  | releasing c held => cases ht
  | discovering c r t' =>
    cases ht
    cases hm
    rw [script, Script.bind_bind, Script.bind_bind]
    congr 1
    funext res
    rcases res with e | offer
    · exact attemptEnd_finish r (.error e, c)
    · show ((Script.offered c c.lastXid (.ok offer)).bind _) = (ended _ (.ok offer)).script
      simp only [Script.offered, ended]
      cases offer.options.serverIdentifier with
      | error e => exact attemptEnd_finish r (.error e, c)
      | ok identifier =>
        -- the offer names its server: the attempt goes on to the REQUEST exchange
        dsimp only
        rw [Script.exchange_eq (Message.encodable_request _ _ _ _ _), script]
        simp only [Script.bind_bind]
        rfl
  | requesting c server requested r t' =>
    cases ht
    cases hm
    rw [script, Script.bind_bind, Script.bind_bind]
    congr 1
    funext res
    rcases res with e | reply
    · exact attemptEnd_finish r (.error e, c)
    · exact attemptEnd_finish r _
  | renewing c held server t' =>
    cases ht
    cases hm
    rw [script, Script.bind_bind]
    congr 1
    funext res
    rcases res with e | reply <;> rfl

/-! ### One action at a time -/

section WithTries

variable (st : Stage) (t : Tries)

@[simp] theorem client_withTries : (st.withTries t).client = st.client := by cases st <;> rfl

@[simp] theorem message_withTries : (st.withTries t).message = st.message := by cases st <;> rfl

@[simp] theorem destination_withTries : (st.withTries t).destination = st.destination := by
  cases st <;> rfl

@[simp] theorem accept_withTries : (st.withTries t).accept = st.accept := by cases st <;> rfl

@[simp] theorem ended_withTries (res : Except Error Message) :
    (st.withTries t).ended res = st.ended res := by
  cases st <;> cases res <;> rfl

theorem tries_withTries {t₀ : Tries} (ht : st.tries = some t₀) :
    (st.withTries t).tries = some t := by
  cases st <;> first | rfl | cases ht

end WithTries

variable {st : Stage} {m : Message} {more : Nat}

/-- The script of a stage, with its exchange moved to `t`. -/
theorem script_withTries {t₀ : Tries} (ht : st.tries = some t₀) (hm : st.message = some m)
    (t : Tries) :
    (st.withTries t).script = (Script.exchangeAt st.client m st.destination st.accept t).bind
      fun res => (st.ended res).script := by
  rw [script_of_tries (tries_withTries st t ht) (by rw [message_withTries, hm])]
  simp only [client_withTries, destination_withTries, accept_withTries, ended_withTries]

theorem afterSend_ok (ht : st.tries = some (.sending more)) :
    st.afterSend (.ok ()) = st.withTries (.waiting more) := by
  cases st <;> simp_all [afterSend, tries]

theorem afterSend_error {t : Tries} (ht : st.tries = some t) (e : Error) :
    st.afterSend (.error e) = st.ended (.error e) := by
  cases st <;> simp_all [afterSend, tries]

theorem afterWait_reply (r : Message) : st.afterWait (.ok (some r)) = st.ended (.ok r) := rfl

theorem afterWait_error (e : Error) : st.afterWait (.error e) = st.ended (.error e) := by
  cases st <;> rfl

theorem afterWait_deadline_retry (ht : st.tries = some (.waiting (more + 1))) :
    st.afterWait (.ok none) = st.withTries (.sending more) := by
  simp [afterWait, ht]

theorem afterWait_deadline_last (ht : st.tries = some (.waiting 0)) :
    st.afterWait (.ok none) = st.ended (.error st.client.timeout) := by
  simp [afterWait, ht]

/-- **A stage about to send** sends its message, then goes on as `afterSend` says. -/
theorem script_sending (ht : st.tries = some (.sending more)) (hm : st.message = some m) :
    st.script = .send st.client m.wire st.destination fun r => (st.afterSend r).script := by
  rw [script_of_tries ht hm, Script.exchangeAt_sending]
  refine congrArg (Script.send _ _ _) (funext fun r => ?_)
  rcases r with e | ⟨⟩
  · rw [afterSend_error ht]
    rfl
  · rw [afterSend_ok ht, script_withTries ht hm]

/-- **A stage waiting for its reply** waits for the reply to its message, then goes on as
`afterWait` says. -/
theorem script_waiting (ht : st.tries = some (.waiting more)) (hm : st.message = some m) :
    st.script = .await st.client m.xid st.accept fun r => (st.afterWait r).script := by
  rw [script_of_tries ht hm]
  refine congrArg (Script.await _ _ _) (funext fun r => ?_)
  rcases r with e | _ | r
  · rw [afterWait_error]
    rfl
  · -- the deadline passed: send again if a try is left, else the exchange has timed out
    cases more with
    | zero =>
      rw [afterWait_deadline_last ht]
      rfl
    | succ more =>
      rw [afterWait_deadline_retry ht, script_withTries ht hm]
      rfl
  · rfl

/-- A stage about to give its lease back sends the RELEASE and is then between operations. -/
theorem script_releasing (c : Client) (held : ClientLease) :
    (releasing c held).script = .send c (c.releaseMessage held).wire (c.destinationFor held.server)
      fun r => ((releasing c held).afterSend r).script := rfl

/-- **Where a stage's script stands:** finished between operations, about to send the stage's
message, or waiting for its reply. -/
theorem script_cases (st : Stage) :
    (∃ c, st = idle c) ∨
    (∃ m, st.message = some m ∧
      st.script = .send st.client m.wire st.destination fun r => (st.afterSend r).script) ∨
    (∃ m more, st.message = some m ∧ st.tries = some (.waiting more) ∧
      st.script = .await st.client m.xid st.accept fun r => (st.afterWait r).script) := by
  cases st with
  | idle c => exact .inl ⟨c, rfl⟩
  | releasing c held => exact .inr (.inl ⟨_, rfl, script_releasing c held⟩)
  | discovering c r t | requesting c _ _ r t | renewing c _ _ t =>
    cases t with
    | sending more => exact .inr (.inl ⟨_, rfl, script_sending rfl rfl⟩)
    | waiting more => exact .inr (.inr ⟨_, more, rfl, rfl, script_waiting rfl rfl⟩)

/-- The client a stage's script shows is the stage's client. -/
theorem client_script (st : Stage) : st.script.client = st.client := by
  rcases script_cases st with ⟨c, rfl⟩ | ⟨m, -, h⟩ | ⟨m, more, -, -, h⟩
  · rfl
  · rw [h]
    rfl
  · rw [h]
    rfl

/-- A stage whose script sends is sending its message, and goes on from the send's outcome. -/
theorem send_of_script {c : Client} {bytes : List UInt8} {destination : Endpoint}
    {next : Except Error Unit → Script Client} (h : st.script = .send c bytes destination next) :
    ∃ m, st.message = some m ∧ bytes = m.wire ∧ next = fun r => (st.afterSend r).script := by
  rcases script_cases st with ⟨c', rfl⟩ | ⟨m, hm, hs⟩ | ⟨m, more, hm, -, hs⟩
  · cases h
  · rw [hs, Script.send.injEq] at h
    exact ⟨m, hm, h.2.1.symm, h.2.2.2.symm⟩
  · rw [hs] at h
    cases h

/-- A stage whose script waits waits for the reply to its message, and goes on from the
wait's outcome. -/
theorem await_of_script {c : Client} {xid : UInt32} {accept : MessageKind → Bool}
    {next : Except Error (Option Message) → Script Client}
    (h : st.script = .await c xid accept next) :
    ∃ m, st.message = some m ∧ c = st.client ∧ xid = m.xid ∧ accept = st.accept ∧
      next = fun r => (st.afterWait r).script := by
  rcases script_cases st with ⟨c', rfl⟩ | ⟨m, hm, hs⟩ | ⟨m, more, hm, -, hs⟩
  · cases h
  · rw [hs] at h
    cases h
  · rw [hs, Script.await.injEq] at h
    exact ⟨m, hm, h.1.symm, h.2.1.symm, h.2.2.1.symm, h.2.2.2.symm⟩

/-- Only a stage between operations has finished. -/
theorem eq_idle_of_script {c : Client} (h : st.script = .pure c) : st = idle c := by
  cases st with
  | idle c' => cases h; rfl
  | releasing c' held => cases h
  | discovering c' r t | requesting c' _ _ r t | renewing c' _ _ t =>
    cases t <;> simp [script, Script.exchangeAt, Script.resend, Script.bind] at h

/-- **Every operation starts at its stage.** -/
theorem script_start (op : Operation) (c : Client) : op.script c = (started op c).script := by
  cases op with
  | acquire => exact acquireWithin_finish _ c
  | renew server =>
    simp only [Operation.script, Script.renew, started]
    cases c.lease with
    | none => rfl
    | some held =>
      dsimp only
      rw [Script.exchange_eq (Message.encodable_request _ _ _ _ _), Script.bind_bind]
      simp only [script, Script.exchangeAt, Client.renewalMessage, Client.drawXid_snd_lastXid,
        Client.drawXid_snd_maxRetries, Script.bind_bind]
      rfl
  | release =>
    simp only [Operation.script, Script.release, started]
    cases c.lease with
    | none => rfl
    | some held =>
      dsimp only
      simp only [Message.encode_eq_ok (Message.encodable_release _ _ _), script_releasing,
        Client.releaseMessage, Client.drawXid_snd_lastXid]
      rfl

end Stage

/-- One server, clients indexed by `ι`, and the datagrams in flight. -/
structure Network (ι : Type) where
  server : Server
  clients : ι → Script Client
  /-- Datagrams from clients to the server, oldest first, each with its sender. -/
  upward : List (ι × List UInt8)
  /-- Datagrams from the server to the clients, oldest first. -/
  downward : List (List UInt8)

namespace Network

variable {ι : Type} [DecidableEq ι]

/-- The server and the clients, with nothing in flight and every client between operations. -/
def initial (s : Server) (cs : ι → Client) : Network ι := ⟨s, fun i => .pure (cs i), [], []⟩

/-- Client `i` goes on with `p`. -/
def setClient (w : Network ι) (i : ι) (p : Script Client) : Network ι :=
  { w with clients := Function.update w.clients i p }

@[simp] theorem clients_setClient_self (w : Network ι) (i : ι) (p : Script Client) :
    (w.setClient i p).clients i = p := Function.update_self _ _ _

theorem clients_setClient_ne (w : Network ι) {i j : ι} (p : Script Client) (hj : j ≠ i) :
    (w.setClient i p).clients j = w.clients j := Function.update_of_ne hj _ _

/-- One step of the network. -/
inductive Step (ordered : Bool) : Network ι → Network ι → Prop where
  | start {w : Network ι} {i : ι} {c : Client} (op : Operation) (h : w.clients i = .pure c) :
      Step ordered w (w.setClient i (op.script c))
  | send {w : Network ι} {i : ι} {c : Client} {bytes : List UInt8} {destination : Endpoint}
      {next : Except Error Unit → Script Client} (h : w.clients i = .send c bytes destination next) :
      Step ordered w { w.setClient i (next (.ok ())) with upward := w.upward ++ [(i, bytes)] }
  | sendFails {w : Network ι} {i : ι} {c : Client} {bytes : List UInt8} {destination : Endpoint}
      {next : Except Error Unit → Script Client} (e : Error)
      (h : w.clients i = .send c bytes destination next) :
      Step ordered w (w.setClient i (next (.error e)))
  | receive {w : Network ι} {i : ι} {c : Client} {xid : UInt32} {accept : MessageKind → Bool}
      {next : Except Error (Option Message) → Script Client} {k : Nat} {bytes : List UInt8}
      (keep : Bool) (h : w.clients i = .await c xid accept next) (hk : w.downward[k]? = some bytes) :
      Step ordered w { w.setClient i (Script.deliver c xid accept next bytes) with
        downward := if keep then w.downward else w.downward.eraseIdx k }
  | deadline {w : Network ι} {i : ι} {c : Client} {xid : UInt32} {accept : MessageKind → Bool}
      {next : Except Error (Option Message) → Script Client} (h : w.clients i = .await c xid accept next) :
      Step ordered w (w.setClient i (next (.ok none)))
  | receiveFails {w : Network ι} {i : ι} {c : Client} {xid : UInt32} {accept : MessageKind → Bool}
      {next : Except Error (Option Message) → Script Client} (e : Error)
      (h : w.clients i = .await c xid accept next) :
      Step ordered w (w.setClient i (next (.error e)))
  | serve {w : Network ι} {j : Nat} {i : ι} {bytes : List UInt8} (now : Int) (source : Endpoint)
      (keep : Bool) (hj : w.upward[j]? = some (i, bytes))
      (hfirst : ordered = true → ∀ k d, k < j → w.upward[k]? = some d → d.1 ≠ i) :
      Step ordered w { w with
        server := w.server.step (.datagram now bytes source)
        upward := if keep then w.upward else w.upward.eraseIdx j
        downward := w.downward ++ w.server.answer now bytes source }
  | loseUp {w : Network ι} (j : Nat) : Step ordered w { w with upward := w.upward.eraseIdx j }
  | loseDown {w : Network ι} (k : Nat) : Step ordered w { w with downward := w.downward.eraseIdx k }
  | sweep {w : Network ι} (now : Int) (hfree : (w.server.pool.sweepExpired now).1 = w.server.pool) :
      Step ordered w { w with server := w.server.step (.sweep now) }

/-- `w` is reached from `w₀` in `n` steps. -/
inductive Reaches (ordered : Bool) (w₀ : Network ι) : Nat → Network ι → Prop where
  | refl : Reaches ordered w₀ 0 w₀
  | tail {n : Nat} {w w' : Network ι} : Reaches ordered w₀ n w → Step ordered w w' →
      Reaches ordered w₀ (n + 1) w'

/-! ## Runs of clients at known stages

A network whose clients stand at known stages is `staged`; a step of one client, or of the
server on a datagram whose handling is known, gives another, with the client's stage moved as
`Stage.started`, `Stage.afterSend` and `Stage.ended` say. Runs on given inputs are chains of
these steps. -/

/-- The network whose client `i` runs the script of stage `st i`. -/
def staged (s : Server) (st : ι → Stage) (up : List (ι × List UInt8))
    (down : List (List UInt8)) : Network ι :=
  ⟨s, fun i => (st i).script, up, down⟩

section Staged

variable {o : Bool} {s : Server} {st : ι → Stage} {up : List (ι × List UInt8)}
  {down : List (List UInt8)}

theorem setClient_staged (i : ι) (st' : Stage) :
    (staged s st up down).setClient i st'.script = staged s (Function.update st i st') up down := by
  simp only [setClient, staged, mk.injEq, true_and, and_true]
  funext j
  by_cases hj : j = i
  · subst hj
    simp
  · simp [Function.update_of_ne hj]

theorem Step.of_eq {w w' w'' : Network ι} (h : Step o w w') (he : w' = w'') : Step o w w'' :=
  he ▸ h

omit [DecidableEq ι] in
/-- Nothing is older than the first datagram in flight. -/
theorem nothing_before_first {i : ι} :
    o = true → ∀ k d, k < 0 → up[k]? = some d → d.1 ≠ i :=
  fun _ k _ hk => absurd hk (Nat.not_lt_zero k)

omit [DecidableEq ι] in
/-- An unordered network may take any datagram. -/
theorem any_first_unordered {i : ι} {j : Nat} :
    false = true → ∀ k d, k < j → up[k]? = some d → d.1 ≠ i :=
  fun h => absurd h Bool.false_ne_true

omit [DecidableEq ι] in
/-- A datagram sent behind none of its sender's own is the oldest of them in flight. -/
theorem nothing_before_appended {i : ι} (hup : o = true → ∀ d ∈ up, d.1 ≠ i)
    (p : ι × List UInt8) :
    o = true → ∀ k d, k < up.length → (up ++ [p])[k]? = some d → d.1 ≠ i := by
  intro ho k d hk hd
  rw [List.getElem?_append_left hk] at hd
  exact hup ho d (List.mem_of_getElem? hd)

theorem step_start (i : ι) (op : Operation) {c : Client} (h : st i = .idle c) :
    Step o (staged s st up down)
      (staged s (Function.update st i (Stage.started op c)) up down) := by
  have hw : (staged s st up down).clients i = .pure c := by simp [staged, h, Stage.script]
  refine Step.of_eq (Step.start op hw) ?_
  rw [Stage.script_start, setClient_staged]

theorem step_send (i : ι) {m : Message}
    (hs : (st i).script =
      .send (st i).client m.wire (st i).destination fun r => ((st i).afterSend r).script) :
    Step o (staged s st up down)
      (staged s (Function.update st i ((st i).afterSend (.ok ()))) (up ++ [(i, m.wire)]) down) := by
  refine Step.of_eq (Step.send hs) ?_
  rw [setClient_staged]
  rfl

/-- Client `i` takes the `k`-th datagram back, the reply `r` to its transaction. -/
theorem step_receive (i : ι) {m r : Message} (k : Nat) (keep : Bool)
    (hs : (st i).script =
      .await (st i).client m.xid (st i).accept fun r => ((st i).afterWait r).script)
    (hk : down[k]? = some r.wire) (henc : r.Encodable)
    (hans : r.answers m.xid (st i).client.hardware (st i).accept = true) :
    Step o (staged s st up down) (staged s (Function.update st i ((st i).ended (.ok r))) up
      (if keep then down else down.eraseIdx k)) := by
  refine Step.of_eq (Step.receive keep hs hk) ?_
  simp only [Script.deliver, Message.decode_wire henc, hans, if_true]
  rw [← Stage.afterWait_reply, setClient_staged]
  rfl

/-- The server takes the `j`-th datagram in flight, the message `m` of client `i`, and handles
it as `hd`. -/
theorem step_serve (i : ι) (j : Nat) (m : Message) (hd : Handling) (now : Int)
    (source : Endpoint) (keep : Bool) (hj : up[j]? = some (i, m.wire))
    (hfirst : o = true → ∀ k d, k < j → up[k]? = some d → d.1 ≠ i) (henc : m.Encodable)
    (hm : s.handleMessage now m = .ok hd) :
    Step o (staged s st up down) (staged { s with pool := hd.pool } st
      (if keep then up else up.eraseIdx j) (down ++ hd.reply.toList.map Message.wire)) := by
  have hdec := Message.decode_wire henc
  refine Step.of_eq (Step.serve now source keep hj hfirst) ?_
  dsimp only [staged]
  rw [Server.step_of_handling? (Server.handling?_datagram hdec hm fun r hr =>
      ⟨_, Message.encode_eq_ok (Server.reply_encodable hdec hm hr)⟩),
    Server.answer_eq hdec hm]

/-- The network loses the `j`-th datagram on its way to the server. -/
theorem step_loseUp (j : Nat) :
    Step o (staged s st up down) (staged s st (up.eraseIdx j) down) :=
  Step.loseUp j

end Staged

/-- No two clients are bound with leases of one address. -/
def Exclusive (w : Network ι) : Prop :=
  ∀ i j, i ≠ j → ∀ li lj : ClientLease,
    (w.clients i).client.phase = .bound → (w.clients i).client.lease = some li →
    (w.clients j).client.phase = .bound → (w.clients j).client.lease = some lj →
    li.address ≠ lj.address

end Network

end AddressLeasing
