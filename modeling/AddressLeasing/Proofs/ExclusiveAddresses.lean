import AddressLeasing.Proofs.LeaseCycle
/-!
# No two clients hold one address

A client's lease is only as good as the server's pool: it is held in the pool for the client
(`Stage.Safe.holds`), and the pool holds each address for one owner (`Sound.eq_of_holds`). This
module carries the per-client invariant of `Proofs.StageInvariant` across whole runs of the
network, and so proves that no two clients ever hold leases of one address
(`exclusive_of_ordered`).

Two things the stage invariant takes as given are proved here of the network. The server takes
each client's datagrams in the order the client sent them, so what is in flight from client `i`
is one list, `sentBy`, whose head the server takes next. And a transaction id a client draws is
new: nothing in flight belongs to it (`ClientSafe.freshDraw`), since every datagram in flight
carries an id the client drew before. That holds as long as the client has not drawn one id
twice; its ids are random numbers, so the theorem speaks of the states in which no client has
drawn an id twice so far (`Client.drawn`).

Both conditions are needed. On a network that reorders a client's datagrams, a RELEASE that is
taken late frees an address the client has since leased again, and the server hands it to
another client (`handover_share`). On an ordered network, a client that draws again
an id it drew before takes the OFFER and ACK that a duplicating network kept from that earlier
transaction, and binds to an address the server has since granted to another client
(`handover_rebind`).
-/

set_option autoImplicit false

namespace AddressLeasing

namespace Network

variable {ι : Type} [DecidableEq ι]

/-! ## A client's datagrams in flight -/

/-- The datagrams of client `i` on their way to the server, oldest first. -/
def sentBy (up : List (ι × List UInt8)) (i : ι) : List (List UInt8) :=
  up.filterMap fun p => if p.1 = i then some p.2 else none

section SentBy

variable {up : List (ι × List UInt8)} {i j : ι} {b : List UInt8} {k : Nat}

theorem sentBy_cons (p : ι × List UInt8) (up : List (ι × List UInt8)) (i : ι) :
    sentBy (p :: up) i = if p.1 = i then p.2 :: sentBy up i else sentBy up i := by
  by_cases hp : p.1 = i <;> simp [sentBy, hp]

theorem sentBy_append_single (up : List (ι × List UInt8)) (j : ι) (b : List UInt8) (i : ι) :
    sentBy (up ++ [(j, b)]) i = if j = i then sentBy up i ++ [b] else sentBy up i := by
  by_cases hj : j = i <;> simp [sentBy, hj]

theorem sentBy_eraseIdx_sublist (up : List (ι × List UInt8)) (k : Nat) (i : ι) :
    (sentBy (up.eraseIdx k) i).Sublist (sentBy up i) :=
  (List.eraseIdx_sublist up k).filterMap _

/-- Taking another client's datagram leaves client `i`'s in flight as they were. -/
theorem sentBy_eraseIdx_of_ne (hk : up[k]? = some (j, b)) (hne : j ≠ i) :
    sentBy (up.eraseIdx k) i = sentBy up i := by
  induction up generalizing k with
  | nil => simp at hk
  | cons p up ih =>
    cases k with
    | zero =>
      obtain rfl : p = (j, b) := by simpa using hk
      simp [sentBy_cons, hne]
    | succ k =>
      rw [List.eraseIdx_cons_succ, sentBy_cons, sentBy_cons, ih (by simpa using hk)]

/-- **Ordered delivery takes the oldest datagram of its sender.** -/
theorem sentBy_eq_cons (hk : up[k]? = some (i, b))
    (hfirst : ∀ k' d, k' < k → up[k']? = some d → d.1 ≠ i) :
    sentBy up i = b :: sentBy (up.eraseIdx k) i := by
  induction up generalizing k with
  | nil => simp at hk
  | cons p up ih =>
    cases k with
    | zero =>
      obtain rfl : p = (i, b) := by simpa using hk
      simp [sentBy_cons]
    | succ k =>
      have hp : p.1 ≠ i := hfirst 0 p (Nat.zero_lt_succ k) rfl
      rw [List.eraseIdx_cons_succ, sentBy_cons, sentBy_cons, if_neg hp, if_neg hp]
      exact ih (by simpa using hk) fun k' d hk' hd =>
        hfirst (k' + 1) d (by omega) (by simpa using hd)

end SentBy

/-! ## One client -/

/-- What holds of client `h` at stage `st`, running `p`: the stage's transaction, if it sends
anything, is one the client drew; every datagram in flight to or from `h` carries an id the
client drew; and, as long as the client has drawn no id twice, the stage invariant. -/
structure ClientSafe (pool : LeasePool) (p : Script Client) (sent down : List (List UInt8))
    (h : HardwareAddress) (st : Stage) : Prop where
  script : p = st.script
  hardware : st.client.hardware = h
  current : st.message.isSome → st.client.lastXid ∈ st.client.drawn
  sentIds : ∀ b ∈ sent, ∃ m, Message.decode b = .ok m ∧ m.chaddr = h ∧ m.xid ∈ st.client.drawn
  replyIds : ∀ d ∈ down, ∀ r, Message.decode d = .ok r → r.chaddr = h → r.xid ∈ st.client.drawn
  stage : st.client.drawn.Nodup → st.Safe pool h sent down

namespace ClientSafe

variable {pool : LeasePool} {p : Script Client} {sent sent' down down' : List (List UInt8)}
  {h : HardwareAddress} {st : Stage}

/-- **An id the client has not drawn is fresh**: nothing in flight belongs to it. -/
theorem fresh (hc : ClientSafe pool p sent down h st) {x : UInt32} (hx : x ∉ st.client.drawn) :
    Stage.Fresh h x sent down := by
  constructor
  · intro b hb
    apply Server.noAck_of_xid_ne
    intro m hm hxm
    obtain ⟨m', hm', -, hdrawn⟩ := hc.sentIds b hb
    obtain rfl := Except.ok.inj (hm.symm.trans hm')
    exact hx (hxm ▸ hdrawn)
  · rintro d hd a ⟨r, hr, hxr, hch, -⟩
    exact hx (hxr ▸ hc.replyIds d hd r hr hch)

/-- What a transition to `c'` draws is fresh, if `c'` has drawn no id twice. -/
theorem freshDraw (hc : ClientSafe pool p sent down h st) {c' : Client} (hnd : c'.drawn.Nodup) :
    Stage.FreshDraw h c' st.client sent down := by
  intro x hx
  rw [hx, List.nodup_append] at hnd
  exact hc.fresh fun hmem => hnd.2.2 x hmem x (List.mem_singleton_self x) rfl

theorem mono_sent (hc : ClientSafe pool p sent down h st) (hsub : sent'.Sublist sent) :
    ClientSafe pool p sent' down h st :=
  { hc with
    sentIds := fun b hb => hc.sentIds b (hsub.subset hb)
    stage := fun hnd => (hc.stage hnd).mono_sent hsub }

theorem mono_down (hc : ClientSafe pool p sent down h st)
    (hsub : ∀ d ∈ down', d ∈ down) :
    ClientSafe pool p sent down' h st :=
  { hc with
    replyIds := fun d hd => hc.replyIds d (hsub d hd)
    stage := fun hnd => (hc.stage hnd).mono_down hsub }

/-- A transition of the client to a stage `st'` that is safe when the stage before it was and
what it draws is fresh. A stage that sends anything either carries on the transaction before
it or draws a new one. -/
theorem next (hc : ClientSafe pool p sent down h st) {st' : Stage}
    (hf : st'.client.Follows st.client)
    (hcur : st'.message.isSome →
      st.message.isSome ∨ st'.client.drawn = st.client.drawn ++ [st'.client.lastXid])
    (hs : st.Safe pool h sent down → Stage.FreshDraw h st'.client st.client sent down →
      st'.Safe pool h sent down) :
    ClientSafe pool st'.script sent down h st' := by
  refine ⟨rfl, hf.1.trans hc.hardware, fun hm => ?_, fun b hb => ?_,
    fun d hd r hr hch => hf.mem_drawn (hc.replyIds d hd r hr hch),
    fun hnd => hs (hc.stage (hf.nodup hnd)) (hc.freshDraw hnd)⟩
  · rcases hf.2 with ⟨hd, hx⟩ | hd
    · -- no draw: the transaction went on from the stage before, or the stage sends nothing
      rcases hcur hm with hm' | hd'
      · rw [hd, hx]
        exact hc.current hm'
      · rw [hd']
        exact List.mem_append_right _ (List.mem_singleton_self _)
    · rw [hd]
      exact List.mem_append_right _ (List.mem_singleton_self _)
  · obtain ⟨m, hm, hch, hdrawn⟩ := hc.sentIds b hb
    exact ⟨m, hm, hch, hf.mem_drawn hdrawn⟩

/-- A transition from a stage that sends `m`. -/
theorem next_of_message (hc : ClientSafe pool p sent down h st) {m : Message}
    (hm : st.message = some m) {st' : Stage} (hf : st'.client.Follows st.client)
    (hs : st.Safe pool h sent down → Stage.FreshDraw h st'.client st.client sent down →
      st'.Safe pool h sent down) :
    ClientSafe pool st'.script sent down h st' :=
  hc.next hf (fun _ => .inl (Option.isSome_iff_exists.mpr ⟨m, hm⟩)) hs

/-- The client puts its stage's message in flight. -/
theorem append (hc : ClientSafe pool p sent down h st) {m : Message}
    (hm : st.message = some m) : ClientSafe pool p (sent ++ [m.wire]) down h st := by
  obtain ⟨henc, hch, hxid⟩ := Stage.message_facts hm
  refine { hc with
    sentIds := fun b hb => ?_
    stage := fun hnd => (hc.stage hnd).append_message hm hc.hardware }
  rcases List.mem_append.mp hb with hb | hb
  · exact hc.sentIds b hb
  · rw [List.mem_singleton.mp hb]
    refine ⟨m, Message.decode_wire henc, hch.trans hc.hardware, ?_⟩
    rw [hxid]
    exact hc.current (Option.isSome_iff_exists.mpr ⟨m, hm⟩)

section Serve

variable {s : Server} {now : Int} {source : Endpoint} {b : List UInt8} {rest : List (List UInt8)}

/-- The server takes the client's oldest datagram in flight; the answers echo its id. -/
theorem serve_own (hc : ClientSafe s.pool p (b :: rest) down h st) (hsI : s.Invariant)
    (hsub : sent'.Sublist (b :: rest)) :
    ClientSafe (s.step (.datagram now b source)).pool p sent' (down ++ s.answer now b source) h
      st := by
  refine ClientSafe.mono_sent ⟨hc.script, hc.hardware, hc.current, hc.sentIds,
    fun d hd r hr hch => ?_, fun hnd => (hc.stage hnd).serve_own hsI hc.hardware⟩ hsub
  rcases List.mem_append.mp hd with hd | hd
  · exact hc.replyIds d hd r hr hch
  · obtain ⟨m, hm, -, hx, -⟩ := Server.answer_echo hd hr
    obtain ⟨m', hm', -, hdrawn⟩ := hc.sentIds b List.mem_cons_self
    obtain rfl := Except.ok.inj (hm.symm.trans hm')
    exact hx ▸ hdrawn

/-- The server takes another client's datagram: nothing it answers is addressed to `h`. -/
theorem serve_other (hc : ClientSafe s.pool p sent down h st) (hsI : s.Invariant)
    {m : Message} (hdec : Message.decode b = .ok m) (hne : m.chaddr ≠ h) :
    ClientSafe (s.step (.datagram now b source)).pool p sent (down ++ s.answer now b source) h
      st := by
  -- the answers echo the datagram's hardware address, which is not `h`
  have hnot : ∀ d ∈ s.answer now b source, ∀ r,
      Message.decode d = .ok r → r.chaddr ≠ h := by
    intro d hd r hr hch
    obtain ⟨m', hm', -, -, hch'⟩ := Server.answer_echo hd hr
    obtain rfl := Except.ok.inj (hdec.symm.trans hm')
    exact hne (hch' ▸ hch)
  refine ⟨hc.script, hc.hardware, hc.current, hc.sentIds, fun d hd r hr hch => ?_,
    fun hnd => (hc.stage hnd).serve_other (fun a hold => ?_) fun d hd x a hack => ?_⟩
  · rcases List.mem_append.mp hd with hd | hd
    · exact hc.replyIds d hd r hr hch
    · exact absurd hch (hnot d hd r hr)
  · refine Server.keeps_of_chaddr_ne (fun m' hm' => ?_) s hsI now source hold
    obtain rfl := Except.ok.inj (hdec.symm.trans hm')
    exact hne
  · obtain ⟨r, hr, -, hch, -⟩ := hack
    exact hnot d hd r hr hch

end Serve

end ClientSafe

/-! ## The whole network -/

/-- The network invariant: the server's own invariant, and every client `i` is safe with
hardware address `hw i`. -/
structure Safe (hw : ι → HardwareAddress) (w : Network ι) : Prop where
  server : w.server.Invariant
  client : ∀ i, ∃ st,
    ClientSafe w.server.pool (w.clients i) (sentBy w.upward i) w.downward (hw i) st

variable {hw : ι → HardwareAddress} {w : Network ι}

/-- **The network starts safe**: every client is between operations without a lease. -/
theorem safe_initial {s : Server} (hsI : s.Invariant) {cs : ι → Client}
    (hlease : ∀ i, (cs i).lease = none) :
    Safe (fun i => (cs i).hardware) (initial s cs) := by
  refine ⟨hsI, fun i => ⟨.idle (cs i), rfl, rfl, fun hm => absurd hm Bool.false_ne_true, ?_, ?_,
    fun _ l hl => ?_⟩⟩
  · simp [initial, sentBy]
  · simp [initial]
  · simp [hlease i] at hl

/-- A step that moves client `i` alone and loses nothing but datagrams back. -/
theorem Safe.of_client (hs : Safe hw w) (w' : Network ι) (i : ι)
    (hserver : w'.server = w.server) (hdown : ∀ d ∈ w'.downward, d ∈ w.downward)
    (hothers : ∀ j, j ≠ i →
      w'.clients j = w.clients j ∧ sentBy w'.upward j = sentBy w.upward j)
    (hi : ∃ st, ClientSafe w.server.pool (w'.clients i) (sentBy w'.upward i) w.downward (hw i)
      st) :
    Safe hw w' := by
  refine ⟨hserver ▸ hs.server, fun j => ?_⟩
  rw [hserver]
  by_cases hj : j = i
  · subst hj
    obtain ⟨st, hc⟩ := hi
    exact ⟨st, hc.mono_down hdown⟩
  · obtain ⟨st, hc⟩ := hs.client j
    obtain ⟨hcl, hse⟩ := hothers j hj
    rw [hcl, hse]
    exact ⟨st, hc.mono_down hdown⟩

/-- Client `i` goes from its stage to the stage `st'`, sending nothing. -/
theorem Safe.move (hs : Safe hw w) {i : ι} {st' : Stage}
    (hc' : ClientSafe w.server.pool st'.script (sentBy w.upward i) w.downward (hw i) st') :
    Safe hw (w.setClient i st'.script) :=
  hs.of_client _ i rfl (fun d hd => hd) (fun j hj => ⟨clients_setClient_ne w _ hj, rfl⟩)
    ⟨st', by simpa [setClient] using hc'⟩

/-! ## One step -/

section Steps

variable {i : ι}

/-- An operation starts: one that sends anything draws its transaction id. -/
theorem Safe.start (hs : Safe hw w) {c : Client} (op : Operation) (h : w.clients i = .pure c) :
    Safe hw (w.setClient i (op.script c)) := by
  obtain ⟨st, hc⟩ := hs.client i
  obtain rfl : st = .idle c := Stage.eq_idle_of_script (hc.script.symm.trans h)
  rw [Stage.script_start]
  exact hs.move (hc.next (Stage.follows_started op c)
    (fun hm => .inr (Stage.drawn_started op c hm))
    fun hsafe hfresh => Stage.safe_started hsafe op hfresh)

/-- A send puts the stage's message in flight, behind the client's older datagrams. -/
theorem Safe.send (hs : Safe hw w) {c : Client} {bytes : List UInt8} {destination : Endpoint}
    {next : Except Error Unit → Script Client} (h : w.clients i = .send c bytes destination next) :
    Safe hw { w.setClient i (next (.ok ())) with upward := w.upward ++ [(i, bytes)] } := by
  obtain ⟨st, hc⟩ := hs.client i
  obtain ⟨m, hm, rfl, rfl⟩ := Stage.send_of_script (hc.script.symm.trans h)
  refine hs.of_client _ i rfl (fun d hd => hd)
    (fun j hj => ⟨clients_setClient_ne w _ hj, by simp [sentBy_append_single, Ne.symm hj]⟩)
    ⟨st.afterSend (.ok ()), ?_⟩
  dsimp only
  rw [clients_setClient_self, sentBy_append_single, if_pos rfl]
  exact (hc.append hm).next_of_message hm (Stage.follows_afterSend st (.ok ()))
    fun hsafe hfresh => Stage.safe_afterSend hsafe hc.hardware (.ok ()) hfresh

/-- A send fails, and the stage goes on from the failure. -/
theorem Safe.sendFails (hs : Safe hw w) {c : Client} {bytes : List UInt8}
    {destination : Endpoint} {next : Except Error Unit → Script Client} (e : Error)
    (h : w.clients i = .send c bytes destination next) :
    Safe hw (w.setClient i (next (.error e))) := by
  obtain ⟨st, hc⟩ := hs.client i
  obtain ⟨m, hm, -, rfl⟩ := Stage.send_of_script (hc.script.symm.trans h)
  exact hs.move (hc.next_of_message hm (Stage.follows_afterSend st _)
    fun hsafe hfresh => Stage.safe_afterSend hsafe hc.hardware _ hfresh)

/-- A waiting client is handed a datagram in flight: it takes it if it answers its
transaction, and drops it otherwise. -/
theorem Safe.receive (hs : Safe hw w) {c : Client} {xid : UInt32}
    {accept : MessageKind → Bool} {next : Except Error (Option Message) → Script Client} {j : Nat}
    {bytes : List UInt8} (keep : Bool) (h : w.clients i = .await c xid accept next)
    (hj : w.downward[j]? = some bytes) :
    Safe hw { w.setClient i (Script.deliver c xid accept next bytes) with
      downward := if keep then w.downward else w.downward.eraseIdx j } := by
  obtain ⟨st, hc⟩ := hs.client i
  obtain ⟨m, hm, rfl, rfl, rfl, rfl⟩ := Stage.await_of_script (hc.script.symm.trans h)
  have hdown : ∀ d ∈ (if keep then w.downward else w.downward.eraseIdx j),
      d ∈ w.downward := by
    intro d hd
    split at hd
    · exact hd
    · exact List.mem_of_mem_eraseIdx hd
  refine hs.of_client _ i rfl hdown (fun j hj => ⟨clients_setClient_ne w _ hj, rfl⟩) ?_
  have hstay := h ▸ hc
  dsimp only
  rw [clients_setClient_self, Script.deliver]
  rcases hdec : Message.decode bytes with e | r
  · exact ⟨st, hstay⟩
  · dsimp only
    split
    · -- the reply answers the stage's transaction: the stage takes it
      rename_i hans
      have htaken : Stage.Taken (hw i) w.downward st r := by
        obtain ⟨-, -, hxid⟩ := Stage.message_facts hm
        refine ⟨bytes, List.mem_of_getElem? hj, hdec, ?_⟩
        rw [← hxid, ← hc.hardware]
        exact hans
      exact ⟨_, hc.next_of_message hm (Stage.follows_afterWait st (.ok (some r)))
        fun hsafe hfresh => Stage.safe_afterWait hsafe hc.hardware hfresh fun r' hr' => by
          cases hr'
          exact htaken⟩
    · exact ⟨st, hstay⟩

/-- The wait for a reply ends without one: at its deadline, or with a failure. -/
theorem Safe.unanswered (hs : Safe hw w) {c : Client} {xid : UInt32}
    {accept : MessageKind → Bool} {next : Except Error (Option Message) → Script Client}
    (h : w.clients i = .await c xid accept next) {res : Except Error (Option Message)}
    (hres : ∀ r, res ≠ .ok (some r)) :
    Safe hw (w.setClient i (next res)) := by
  obtain ⟨st, hc⟩ := hs.client i
  obtain ⟨m, hm, -, -, -, rfl⟩ := Stage.await_of_script (hc.script.symm.trans h)
  exact hs.move (hc.next_of_message hm (Stage.follows_afterWait st _)
    fun hsafe hfresh => Stage.safe_afterWait hsafe hc.hardware hfresh
      fun r hr => absurd hr (hres r))

/-- **The server takes the oldest datagram of client `i`.** Client `i` sees its own answers;
every other client sees none, and keeps its holds, since the datagram is not its own. -/
theorem Safe.serve (hinj : Function.Injective hw) (hs : Safe hw w) {j : Nat}
    {bytes : List UInt8} (now : Int) (source : Endpoint) (keep : Bool)
    (hj : w.upward[j]? = some (i, bytes))
    (hfirst : ∀ k d, k < j → w.upward[k]? = some d → d.1 ≠ i) :
    Safe hw { w with
      server := w.server.step (.datagram now bytes source)
      upward := if keep then w.upward else w.upward.eraseIdx j
      downward := w.downward ++ w.server.answer now bytes source } := by
  have hsent := sentBy_eq_cons hj hfirst
  obtain ⟨sti, hci⟩ := hs.client i
  rw [hsent] at hci
  obtain ⟨m, hm, hch, -⟩ := hci.sentIds bytes List.mem_cons_self
  refine ⟨hs.server.step (.datagram now bytes source), fun c => ?_⟩
  dsimp only
  by_cases hc : c = i
  · subst hc
    refine ⟨sti, hci.serve_own hs.server ?_⟩
    split
    · rw [hsent]
    · exact List.sublist_cons_self _ _
  · obtain ⟨st, hcc⟩ := hs.client c
    have hse : sentBy (if keep then w.upward else w.upward.eraseIdx j) c = sentBy w.upward c := by
      split
      · rfl
      · exact sentBy_eraseIdx_of_ne hj (Ne.symm hc)
    rw [hse]
    refine ⟨st, hcc.serve_other hs.server hm fun he => ?_⟩
    -- the datagram is `i`'s, and hardware addresses tell the clients apart
    exact hc (hinj (he.symm.trans hch))

theorem Safe.loseUp (hs : Safe hw w) (j : Nat) :
    Safe hw { w with upward := w.upward.eraseIdx j } := by
  refine ⟨hs.server, fun i => ?_⟩
  obtain ⟨st, hc⟩ := hs.client i
  exact ⟨st, hc.mono_sent (sentBy_eraseIdx_sublist _ _ _)⟩

theorem Safe.loseDown (hs : Safe hw w) (j : Nat) :
    Safe hw { w with downward := w.downward.eraseIdx j } := by
  refine ⟨hs.server, fun i => ?_⟩
  obtain ⟨st, hc⟩ := hs.client i
  exact ⟨st, hc.mono_down fun d => List.mem_of_mem_eraseIdx⟩

/-- A sweep that frees nothing. -/
theorem Safe.sweep (hs : Safe hw w) (now : Int)
    (hfree : (w.server.pool.sweepExpired now).1 = w.server.pool) :
    Safe hw { w with server := w.server.step (.sweep now) } := by
  have hpool : (w.server.step (.sweep now)).pool = w.server.pool := hfree
  refine ⟨hs.server.step (.sweep now), fun i => ?_⟩
  obtain ⟨st, hc⟩ := hs.client i
  refine ⟨st, ?_⟩
  dsimp only
  rw [hpool]
  exact hc

end Steps

/-- **Every step of an ordered network keeps it safe**: one case per kind of step. -/
theorem Safe.step (hinj : Function.Injective hw) (hs : Safe hw w) {w' : Network ι}
    (hstep : Step true w w') : Safe hw w' := by
  cases hstep with
  | start op h => exact hs.start op h
  | send h => exact hs.send h
  | sendFails e h => exact hs.sendFails e h
  | receive keep h hk => exact hs.receive keep h hk
  | deadline h => exact hs.unanswered h fun r => by simp
  | receiveFails e h => exact hs.unanswered h fun r => by simp
  | serve now source keep hj hfirst => exact hs.serve hinj now source keep hj (hfirst rfl)
  | loseUp j => exact hs.loseUp j
  | loseDown k => exact hs.loseDown k
  | sweep now hfree => exact hs.sweep now hfree

/-- A safe network in which no client has drawn an id twice is exclusive: each client's lease
is held for it in the pool. -/
theorem Safe.exclusive (hinj : Function.Injective hw) (hs : Safe hw w)
    (hdistinct : ∀ i, (w.clients i).client.drawn.Nodup) : w.Exclusive := by
  intro i j hij li lj _ hli _ hlj heq
  obtain ⟨sti, hci⟩ := hs.client i
  obtain ⟨stj, hcj⟩ := hs.client j
  have hndi := hdistinct i
  have hndj := hdistinct j
  rw [hci.script, Stage.client_script] at hli hndi
  rw [hcj.script, Stage.client_script] at hlj hndj
  have holdi := (hci.stage hndi).holds hli
  have holdj := (hcj.stage hndj).holds hlj
  rw [heq] at holdi
  exact hij (hinj (hs.server.sound.eq_of_holds hs.server.valid holdi holdj))

/-- The run lemma: by induction on the steps taken. -/
theorem safe_of_reaches {s : Server} {cs : ι → Client} {n : Nat}
    (hinj : Function.Injective fun i => (cs i).hardware) (hsI : s.Invariant)
    (hlease : ∀ i, (cs i).lease = none) (h : Reaches true (initial s cs) n w) :
    Safe (fun i => (cs i).hardware) w := by
  induction h with
  | refl => exact safe_initial hsI hlease
  | tail _ hstep ih => exact ih.step hinj hstep

/-! ## A handover

Two hosts and the server of `Server.handoverConfig`, whose pool has one address. The first host
draws its transaction ids from a source given as a parameter; the second counts from 100. -/

section Handover

/-- The source of transaction ids that gives `k`, `k + 1`, … -/
def countFrom (k : Nat) : Nat → UInt32 := fun n => (n + k).toUInt32

/-- The source of transaction ids that gives 1 every time. -/
def repeating : Nat → UInt32 := fun _ => 1

/-- A host with hardware address `h` between operations, without a lease, which draws its
transaction ids from `random`, has drawn none yet, and tries each exchange once. -/
def host (h : HardwareAddress) (random : Nat → UInt32) : Client where
  hardware := h
  server := .v4 .broadcast 67
  replyTimeoutMillis := 2000
  maxRetries := 0
  maxRestarts := 0
  maxMessageSize := 576
  phase := .init
  lease := none
  random
  draws := 0
  lastXid := 0

/-- The hardware addresses of the two hosts. -/
def hostHardware : Bool → HardwareAddress
  | true => .ofMac 2 0 0 0 0 1
  | false => .ofMac 2 0 0 0 0 2

/-- The two hosts, the first drawing its ids from `random`. -/
def hosts (random : Nat → UInt32) : Bool → Client
  | true => host (hostHardware true) random
  | false => host (hostHardware false) (countFrom 100)

theorem hosts_hardware (random : Nat → UInt32) (i : Bool) :
    (hosts random i).hardware = hostHardware i := by
  cases i <;> rfl

theorem hosts_injective (random : Nat → UInt32) :
    Function.Injective fun i => (hosts random i).hardware := by
  intro i j h
  simp only [hosts_hardware] at h
  cases i <;> cases j <;> first | rfl | exact absurd h (by decide)

theorem hosts_facts (random : Nat → UInt32) (i : Bool) :
    (hosts random i).hardware.isEmpty = false ∧ (hosts random i).lease = none := by
  rw [hosts_hardware]
  cases i <;> exact ⟨by decide, rfl⟩

/-- The lease of the handover's address, for an hour. -/
def handoverLease : ClientLease :=
  ⟨Server.handoverConfig.poolStart, Server.handoverConfig.serverIp, 3600⟩

/-- Host `h`, drawing from `random`, after `k` draws: between operations, without a lease. -/
def hostAfter (h : HardwareAddress) (random : Nat → UInt32) (k : Nat) : Client :=
  { host h random with draws := k, lastXid := random (k - 1) }

/-- Host `h`, drawing from `random`, after `k` draws, bound with the handover's lease. -/
def boundHost (h : HardwareAddress) (random : Nat → UInt32) (k : Nat) : Client :=
  { hostAfter h random k with phase := .bound, lease := some handoverLease }

/-- The handover's pool with its address leased to `h` for an hour from time 0. -/
def leasedTo (h : HardwareAddress) : LeasePool :=
  ⟨[⟨Server.handoverConfig.poolStart, true, h, 3600000⟩]⟩

/-- The handover's pool with its address given back by `h` at time 0. -/
def releasedBy (h : HardwareAddress) : LeasePool :=
  ⟨[⟨Server.handoverConfig.poolStart, false, h, 0⟩]⟩

def discoverOf (h : HardwareAddress) (x : UInt32) : Message := .discover h x 576

def requestOf (h : HardwareAddress) (x : UInt32) : Message :=
  .request h x Server.handoverConfig.poolStart Server.handoverConfig.serverIp .unspecified

/-- The server offers its address in answer to `m`, and leaves the pool at `p`. -/
def offering (p : LeasePool) (m : Message) : Handling :=
  ⟨p, some (m.offer Server.handoverConfig.poolStart Server.handoverConfig.serverIp 3600),
    some 0⟩

/-- The server grants its address in answer to `m`, and leaves the pool at `p`. -/
def granting (p : LeasePool) (m : Message) : Handling :=
  ⟨p, some (m.ack Server.handoverConfig.poolStart Server.handoverConfig.serverIp 3600), some 0⟩

/-- The handover's server, with its address free for `h` in pool `p`, grants it to a REQUEST
of `h`, under any transaction id. -/
theorem handleMessage_requestOf {p : LeasePool} {h : HardwareAddress} (x : UInt32)
    (hne : h.isEmpty = false)
    (hcommit : p.commit h Server.handoverConfig.poolStart 0 Server.handoverServer.leaseMillis =
      .ok (leasedTo h, ⟨Server.handoverConfig.poolStart, true, h, 3600000⟩)) :
    ({ Server.handoverServer with pool := p } : Server).handleMessage 0 (requestOf h x) =
      .ok (granting (leasedTo h) (requestOf h x)) :=
  @Server.handleMessage_of_takesRequest { Server.handoverServer with pool := p } 0 (requestOf h x)
    _ _ _ (Server.takesRequest_request hne rfl) hcommit

private theorem eraseIdx_concat_length {α : Type} (l : List α) (a : α) :
    (l ++ [a]).eraseIdx l.length = l := by
  rw [List.eraseIdx_append_of_length_le le_rfl]
  simp

/-- A host that has drawn `k` ids, taking the OFFER and the ACK of the transaction it draws next,
ends bound with the handover's lease. -/
theorem acquire_ends_bound (i : Bool) (random : Nat → UInt32) (k : Nat) (x : UInt32) :
    ((((Stage.started .acquire
        { host (hostHardware i) random with draws := k, lastXid := x }).afterSend (.ok ())).ended
        (.ok ((discoverOf (hostHardware i) (random k)).offer Server.handoverConfig.poolStart
          Server.handoverConfig.serverIp 3600))).afterSend (.ok ())).ended
        (.ok ((requestOf (hostHardware i) (random k)).ack Server.handoverConfig.poolStart
          Server.handoverConfig.serverIp 3600)) =
      .idle (boundHost (hostHardware i) random (k + 1)) :=
  rfl

variable {o : Bool} {n : Nat} {w₀ : Network Bool}

/-- **A host acquires the address in seven steps**, from a pool that offers it the address and
lets it commit: it draws an id, the server takes its DISCOVER and answers with an OFFER, which the
host takes, and then the same for its REQUEST and the ACK. Its datagrams go behind those in
flight, none of them its own on an ordered network; the replies go behind those in flight too,
and the network keeps them if `keep`. -/
theorem handover_acquire {st : Bool → Stage} (i : Bool) (random : Nat → UInt32) (k : Nat)
    (x : UInt32) (hi : st i = .idle { host (hostHardware i) random with draws := k, lastXid := x })
    {p : LeasePool} (hactive : p.activeLeaseFor? (hostHardware i) = none)
    (hsel : p.selectOffer (hostHardware i) none = some Server.handoverConfig.poolStart)
    (hcommit : p.commit (hostHardware i) Server.handoverConfig.poolStart 0
      Server.handoverServer.leaseMillis = .ok (leasedTo (hostHardware i),
        ⟨Server.handoverConfig.poolStart, true, hostHardware i, 3600000⟩))
    {up : List (Bool × List UInt8)} (hup : o = true → ∀ d ∈ up, d.1 ≠ i)
    (down : List (List UInt8)) (keep : Bool)
    (h : Reaches o w₀ n (staged { Server.handoverServer with pool := p } st up down)) :
    Reaches o w₀ (n + 7) (staged { Server.handoverServer with pool := leasedTo (hostHardware i) }
      (Function.update st i (.idle (boundHost (hostHardware i) random (k + 1)))) up
      (if keep then down ++ [((discoverOf (hostHardware i) (random k)).offer
          Server.handoverConfig.poolStart Server.handoverConfig.serverIp 3600).wire,
        ((requestOf (hostHardware i) (random k)).ack Server.handoverConfig.poolStart
          Server.handoverConfig.serverIp 3600).wire] else down)) := by
  have hne : (hostHardware i).isEmpty = false := by cases i <;> decide
  -- the host is a variable: each step reads its stage through `Function.update_self`, and the
  -- updates are merged after it
  have r1 := h.tail (step_start i .acquire hi)
  have r2 := r1.tail (step_send i
    (by rw [Function.update_self]; exact Stage.script_sending rfl rfl))
  simp only [Function.update_self, Function.update_idem] at r2
  have r3 := r2.tail (step_serve i up.length (discoverOf (hostHardware i) (random k))
    (offering p (discoverOf (hostHardware i) (random k))) 0 (.v4 .unspecified 68) false
    List.getElem?_concat_length (nothing_before_appended hup _) (Message.encodable_discover _ _ _)
    (Server.handleMessage_discover hne hactive hsel))
  simp only [Bool.false_eq_true, if_false, eraseIdx_concat_length] at r3
  -- the id is the source's, so the replies are matched to it by `answers_reply`, not by
  -- evaluation
  have r4 := r3.tail (step_receive i down.length keep
    (by rw [Function.update_self]; exact Stage.script_waiting rfl rfl) List.getElem?_concat_length
    (Message.encodable_reply rfl _ _ _ _)
    (by rw [Function.update_self]; exact (Message.answers_reply _).trans rfl))
  simp only [Function.update_self, Function.update_idem] at r4
  have r5 := r4.tail (step_send i
    (by rw [Function.update_self]; exact Stage.script_sending rfl rfl))
  simp only [Function.update_self, Function.update_idem] at r5
  have r6 := r5.tail (step_serve i up.length (requestOf (hostHardware i) (random k))
    (granting (leasedTo (hostHardware i)) (requestOf (hostHardware i) (random k))) 0
    (.v4 .unspecified 68) false List.getElem?_concat_length (nothing_before_appended hup _)
    (Message.encodable_request _ _ _ _ _) (handleMessage_requestOf _ hne hcommit))
  simp only [Bool.false_eq_true, if_false, eraseIdx_concat_length] at r6
  have r7 := r6.tail (step_receive i _ keep
    (by rw [Function.update_self]; exact Stage.script_waiting rfl rfl) List.getElem?_concat_length
    (Message.encodable_reply rfl _ _ _ _)
    (by rw [Function.update_self]; exact (Message.answers_reply _).trans rfl))
  simp only [Function.update_self, Function.update_idem, acquire_ends_bound] at r7
  cases keep
  · simpa only [offering, granting, Option.toList, List.map_cons, List.map_nil,
      eraseIdx_concat_length, Bool.false_eq_true, if_false] using r7
  · simpa only [offering, granting, Option.toList, List.map_cons, List.map_nil, if_true,
      List.append_assoc, List.cons_append, List.nil_append] using r7

/-- The OFFER and the ACK of the first host's first transaction. -/
def firstReplies (random : Nat → UInt32) : List (List UInt8) :=
  [((discoverOf (hostHardware true) (random 0)).offer Server.handoverConfig.poolStart
      Server.handoverConfig.serverIp 3600).wire,
    ((requestOf (hostHardware true) (random 0)).ack Server.handoverConfig.poolStart
      Server.handoverConfig.serverIp 3600).wire]

/-- The first host holds the address; the network keeps a copy of the OFFER and of the ACK. -/
def handoverGranted (random : Nat → UInt32) : Network Bool :=
  staged { Server.handoverServer with pool := leasedTo (hostHardware true) }
    (Function.update (fun i => .idle (hosts random i)) true
      (.idle (boundHost (hostHardware true) random 1))) [] (firstReplies random)

/-- The first host is granted the address, on any network, whichever id it draws. -/
theorem handover_first_grant (o : Bool) (random : Nat → UInt32) :
    Reaches o (initial Server.handoverServer (hosts random)) 7 (handoverGranted random) := by
  have h : Reaches o (initial Server.handoverServer (hosts random)) 0
      (staged { Server.handoverServer with pool := Server.handoverServer.pool }
        (fun i => .idle (hosts random i)) [] []) := .refl
  exact handover_acquire true random 0 0 rfl rfl rfl (by decide) (fun _ _ hd => by cases hd) []
    true h

/-- The first host gives the address back: it draws an id for the RELEASE, which the server
takes; the network keeps a copy of it. -/
def handoverReleased (random : Nat → UInt32) : Network Bool :=
  staged { Server.handoverServer with pool := releasedBy (hostHardware true) }
    (Function.update (fun i => .idle (hosts random i)) true
      (.idle (hostAfter (hostHardware true) random 2)))
    [(true, (Message.release (hostHardware true) (random 1)
      Server.handoverConfig.poolStart).wire)] (firstReplies random)

theorem handover_release (random : Nat → UInt32) (h : Reaches o w₀ n (handoverGranted random)) :
    Reaches o w₀ (n + 3) (handoverReleased random) := by
  have r1 := h.tail (step_start true .release rfl)
  have r2 := r1.tail (step_send true (Stage.script_releasing _ _))
  -- the server takes the RELEASE, and the network keeps it
  have r3 := r2.tail (step_serve true 0
    (.release (hostHardware true) (random 1) Server.handoverConfig.poolStart)
    ⟨releasedBy (hostHardware true), none, some 0⟩ 0 (.v4 .unspecified 68) true rfl
    nothing_before_first (Message.encodable_release _ _ _)
    (Server.handleMessage_of_isRelease rfl))
  simp only [Function.update_idem, Function.update_self] at r3
  exact r3

end Handover

section Runs

variable {s : Server} {cs : ι → Client} {n : Nat}

/-- **No two clients hold one address**, on a network that delivers each client's datagrams to
the server in the order they were sent, and may still delay, duplicate or lose them, and
deliver, duplicate or lose the server's replies in any order, with sweeps that free nothing:
for a server created from a configuration and clients with pairwise different hardware
addresses that start without leases, no state reached in which no client has drawn one
transaction id twice has two clients bound with leases of one address. -/
theorem exclusive_of_ordered {c : ServerConfig} (hcreate : Server.create c = .ok s)
    (hinj : Function.Injective fun i => (cs i).hardware) (hlease : ∀ i, (cs i).lease = none)
    (h : Reaches true (initial s cs) n w) (hdistinct : ∀ i, (w.clients i).client.drawn.Nodup) :
    w.Exclusive :=
  (safe_of_reaches hinj (Server.invariant_of_create hcreate) hlease h).exclusive hinj hdistinct

end Runs

theorem exclusive_handover_granted :
    Server.create Server.handoverConfig = .ok Server.handoverServer ∧
      (Function.Injective fun i => (hosts (countFrom 1) i).hardware) ∧
      (∀ i, (hosts (countFrom 1) i).lease = none) ∧
      Reaches true (initial Server.handoverServer (hosts (countFrom 1))) 7
        (handoverGranted (countFrom 1)) ∧
      (∀ i, ((handoverGranted (countFrom 1)).clients i).client.drawn.Nodup) ∧
      (handoverGranted (countFrom 1)).Exclusive :=
  have hdistinct : ∀ i, ((handoverGranted (countFrom 1)).clients i).client.drawn.Nodup := by
    decide
  ⟨Server.create_eq_ok (by decide), hosts_injective _, fun i => (hosts_facts _ i).2,
    handover_first_grant true _, hdistinct,
    exclusive_of_ordered (Server.create_eq_ok (by decide)) (hosts_injective _)
      (fun i => (hosts_facts _ i).2) (handover_first_grant true _) hdistinct⟩

/-! ## Where the theorem fails

A network that reorders: the first host gives the address back and the network keeps a copy of
its RELEASE; the host acquires the address again, the server taking its new datagrams ahead of
that copy; then the copy arrives and frees the address, which the server grants to the second
host.

A client that draws an id twice: the first host gives the address back and the server grants it
to the second host; the first host acquires again, draws the id of its first transaction, and
takes the OFFER and the ACK the network kept from it. No datagram of the first host reaches the
server out of order. -/

section Failures

variable {o : Bool} {n : Nat} {w₀ : Network Bool}

/-- The first host holds the address again, and the copy of its RELEASE is still in flight. -/
def handoverRegranted : Network Bool :=
  staged { Server.handoverServer with pool := leasedTo (hostHardware true) }
    (Function.update (fun i => .idle (hosts (countFrom 1) i)) true
      (.idle (boundHost (hostHardware true) (countFrom 1) 3)))
    [(true, (Message.release (hostHardware true) (countFrom 1 1)
      Server.handoverConfig.poolStart).wire)] (firstReplies (countFrom 1))

/-- Only an unordered network takes the new DISCOVER and REQUEST before the older RELEASE. -/
theorem handover_regrant (h : Reaches false w₀ n (handoverReleased (countFrom 1))) :
    Reaches false w₀ (n + 7) handoverRegranted := by
  have r := handover_acquire true (countFrom 1) 2 (countFrom 1 1) rfl rfl rfl (by decide)
    (fun h => absurd h Bool.false_ne_true) _ false h
  simp only [Function.update_idem] at r
  exact r

/-- Both hosts are bound with the one address, after a reordering. -/
def handoverShared : Network Bool :=
  staged { Server.handoverServer with pool := leasedTo (hostHardware false) }
    (Function.update (Function.update (fun i => .idle (hosts (countFrom 1) i)) true
      (.idle (boundHost (hostHardware true) (countFrom 1) 3))) false
      (.idle (boundHost (hostHardware false) (countFrom 100) 1))) [] (firstReplies (countFrom 1))

/-- The stale RELEASE frees the address the first host holds, and the second host is granted
it. -/
theorem handover_share (h : Reaches o w₀ n handoverRegranted) :
    Reaches o w₀ (n + 8) handoverShared := by
  have r1 := h.tail (step_serve true 0
    (.release (hostHardware true) (countFrom 1 1) Server.handoverConfig.poolStart)
    ⟨releasedBy (hostHardware true), none, some 0⟩ 0 (.v4 .unspecified 68) false rfl
    nothing_before_first (Message.encodable_release _ _ _) (Server.handleMessage_of_isRelease rfl))
  exact handover_acquire false (countFrom 100) 0 0 rfl rfl rfl (by decide)
    (fun _ _ hd => by cases hd) _ false r1

/-- Both hosts are bound with the one address, the first through replies to an id it drew
before; its new DISCOVER and REQUEST are still in flight. -/
def handoverRebound : Network Bool :=
  staged { Server.handoverServer with pool := leasedTo (hostHardware false) }
    (Function.update (Function.update (fun i => .idle (hosts repeating i)) true
      (.idle (boundHost (hostHardware true) repeating 3))) false
      (.idle (boundHost (hostHardware false) (countFrom 100) 1)))
    [(true, (discoverOf (hostHardware true) 1).wire),
      (true, (requestOf (hostHardware true) 1).wire)]
    []

/-- The copy of the RELEASE is lost, the second host is granted the address, and the first host,
drawing id 1 again, takes the kept OFFER and ACK of its first transaction. -/
theorem handover_rebind (h : Reaches true w₀ n (handoverReleased repeating)) :
    Reaches true w₀ (n + 13) handoverRebound := by
  have r1 := handover_acquire false (countFrom 100) 0 0 rfl rfl rfl (by decide)
    (fun _ _ hd => by cases hd) _ false (h.tail (step_loseUp 0))
  have r2 := r1.tail (step_start true .acquire rfl)
  have r3 := r2.tail (step_send true (Stage.script_sending rfl rfl))
  have r4 := r3.tail (step_receive true 0 false (Stage.script_waiting rfl rfl) rfl
    (Message.encodable_reply (by decide) _ _ _ _) rfl)
  have r5 := r4.tail (step_send true (Stage.script_sending rfl rfl))
  have r6 := r5.tail (step_receive true 0 false (Stage.script_waiting rfl rfl) rfl
    (Message.encodable_reply (by decide) _ _ _ _) rfl)
  simp only [Function.update_comm Bool.false_ne_true, Function.update_idem,
    Function.update_self] at r6
  exact r6

/-- **Both conditions are needed.** From a server created from a configuration and two hosts
with different, non-empty hardware addresses and no leases: 25 steps of a network that reorders
the first host's datagrams bind both hosts with leases of one address, though no host draws an
id twice; so do 23 steps of an ordered network, in which the first host draws one id twice. -/
theorem exclusive_needs_order_and_distinct_ids :
    Server.create Server.handoverConfig = .ok Server.handoverServer ∧
      (∀ random, Function.Injective fun i => (hosts random i).hardware) ∧
      (∀ random i, (hosts random i).hardware.isEmpty = false ∧ (hosts random i).lease = none) ∧
      (Reaches false (initial Server.handoverServer (hosts (countFrom 1))) 25 handoverShared ∧
        (∀ i, (handoverShared.clients i).client.drawn.Nodup) ∧ ¬ handoverShared.Exclusive) ∧
      (Reaches true (initial Server.handoverServer (hosts repeating)) 23 handoverRebound ∧
        ¬ (handoverRebound.clients true).client.drawn.Nodup ∧ ¬ handoverRebound.Exclusive) := by
  refine ⟨Server.create_eq_ok (by decide), hosts_injective, hosts_facts,
    ⟨handover_share (handover_regrant (handover_release _ (handover_first_grant false _))),
      by decide, ?_⟩,
    ⟨handover_rebind (handover_release _ (handover_first_grant true _)), by decide, ?_⟩⟩
  all_goals
    intro hex
    exact hex true false (by decide) handoverLease handoverLease rfl rfl rfl rfl rfl

end Failures

end Network

end AddressLeasing
