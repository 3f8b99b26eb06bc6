import EsbEndpoint.Common.Run
import EsbEndpoint.Dongle.Traffic

/-!
# Being paired, on both sides

A keyboard that takes a `PAIR_REQ` is `CONNECTED` at once, and the dongle
only when the `PAIR_RESP` arrives. That one packet is sent once: a
`BEACON` and a `VERIFY_REQ` are repeated until they are answered, but
nothing repeats a `PAIR_RESP` that is dropped in a quiet window or flushed
out of the FIFO. As long as none is (`PairRespKept`), a keyboard that is
`CONNECTED` has a dongle that forwards, or a `PAIR_RESP` on its way there.
-/

namespace EsbEndpoint

variable {ι : Type*}

/-! ## The agreement -/

/-- Nothing is queued or in flight in either direction. -/
structure Link.Quiet (s : Link ι) : Prop where
  txFifo : ∀ i, (s.station i).e.radio.txFifo = []
  onAir : ∀ i, (s.station i).e.radio.state.onAir = none
  rxFifo : ∀ i, (s.station i).e.radio.rxFifo = []
  rxWork : ∀ i, (s.station i).e.tp.rxWork = false
  phase : ∀ i, (s.station i).phase = .waiting
  ackPayloads : s.dongle.ackPayloads = []
  heard : s.rxFifo = []

/-- **Keyboard and dongle agree that they are paired**: on a quiet link a
dongle forwards for every keyboard that is `CONNECTED`. -/
def AgreesPaired (s : Link ι) : Prop :=
  s.Quiet → ∀ i, (s.station i).e.pairing.state = .connected → s.dongle.Forwards

/-- A `PAIR_RESP` the dongle would take. -/
def isPairResp (data : List UInt8) : Bool := isType esbPktPairResp data && decide (8 ≤ data.length)

/-- The `PAIR_RESP`s a keyboard has under way that the dongle's radio has
not taken. -/
def Station.owed (st : Station) : List Queued :=
  (st.e.radio.txFifo ++ st.e.radio.state.onAir.toList).filter fun q =>
    isPairResp q.data && st.heard != some q

/-- The dongle forwards, or has a `PAIR_RESP` still to handle. -/
def Link.Answered (s : Link ι) : Prop := s.dongle.Forwards ∨ ∃ p ∈ s.rxFifo, isPairResp p.2 = true

variable (cfg : Config)

/-- An operation of a `CONNECTED` keyboard leaves a `PAIR_RESP` that is
under way in its place: a flush one on the air, a success one behind the
head, a failure one in a FIFO with room. -/
def Station.Keeps (st : Station) (op : TxOp) : Prop :=
  st.e.pairing.state = .connected → st.owed ≠ [] →
    ∃ q ∈ st.owed, (op.move cfg st.e).Spares cfg (st.e.path cfg) q

/-- **The condition on a step**, as long as the dongle has had no
`PAIR_RESP`: the one a `PAIR_REQ` is answered with is queued, and none is
taken out of its place before the dongle's radio has it. -/
def PairRespKept (s : Link ι) : LinkOp ι → Prop
  | .station i .rxCall =>
    ¬ s.Answered → (s.station i).takesPairReq = true →
      sendQueues cfg (s.station i).e (pairRespPacket (s.station i).e.pairing) = true ∧
        esbPipeData < cfg.esbPipeCount
  | .station i (.tx op) => ¬ s.Answered → op.isOrdinary = true → (s.station i).Keeps cfg op
  | .sent i => ¬ s.Answered → (s.station i).Keeps cfg (.txDone .sent)
  | .exhausted i => ¬ s.Answered → (s.station i).Keeps cfg (.txDone .exhausted)
  | .acked i retries _ => ¬ s.Answered → (s.station i).Keeps cfg (.txDone (.acked retries []))
  | _ => True

instance (s : Link ι) : Decidable s.Answered :=
  inferInstanceAs (Decidable (s.dongle.Forwards ∨ ∃ p ∈ s.rxFifo, isPairResp p.2 = true))

instance (st : Station) (op : TxOp) : Decidable (st.Keeps cfg op) :=
  inferInstanceAs (Decidable (st.e.pairing.state = .connected → st.owed ≠ [] →
    ∃ q ∈ st.owed, (op.move cfg st.e).Spares cfg (st.e.path cfg) q))

/-- What holds of a keyboard in such a run. -/
structure Station.Owes (s : Link ι) (st : Station) : Prop where
  id : st.e.pairing.deviceId.length = 6
  fresh : ∀ q, st.heard = some q → q.serial < st.e.radio.written
  owes : st.e.pairing.state = .connected → s.dongle.Engaged ∧ (s.Answered ∨ st.owed ≠ [])

variable {cfg} {s : Link ι} {st : Station} {d : Dongle}

theorem mem_owed (cfg : Config) {q : Queued} :
    q ∈ st.owed ↔ (st.e.path cfg).Has q ∧ isPairResp q.data = true ∧ st.heard ≠ some q := by
  unfold Station.owed
  rw [List.mem_filter, List.mem_append, Option.mem_toList, Bool.and_eq_true, bne_iff_ne]
  rfl

theorem exists_mem_owed (h : st.owed ≠ []) : ∃ q, q ∈ st.owed := List.exists_mem_of_ne_nil _ h

/-- **What a move spares stays owed.** -/
theorem owed_of_spares {st' : Station} {move : TxMove} {q : Queued} (hs : (st.e.path cfg).Sound)
    (hpath : st'.e.path cfg = move.apply cfg (st.e.path cfg)) (hheard : st'.heard = st.heard)
    (hq : q ∈ st.owed) (hspares : move.Spares cfg (st.e.path cfg) q) : st'.owed ≠ [] := by
  obtain ⟨hhas, hresp, hnot⟩ := (mem_owed cfg).1 hq
  have hafter := hhas.apply_of_spares hs hspares
  rw [← hpath] at hafter
  exact List.ne_nil_of_mem ((mem_owed cfg).2 ⟨hafter, hresp, hheard ▸ hnot⟩)

/-- Traffic leaves the pairing machine alone. -/
theorem pairing_txStep (cfg : Config) (e : Endpoint) (op : TxOp) :
    (txStep cfg e op).pairing = e.pairing := by
  cases op with
  | send pipe data => exact congrArg (·.2.1) (@given_esbTransportSend cfg e pipe data)
  | txDone outcome => exact (frame_txDone outcome).2
  | setChannel channel => exact congrArg (·.2.1) (@given_esbTransportSetChannel cfg e channel)
  | flushTx => exact congrArg (·.2.1) (@given_esbFlushTxAndReset cfg e)
  | idleBegin =>
    unfold txStep
    dsimp only
    split <;> rfl
  | connected => rfl
  | tick ms => rfl

/-- A packet makes a keyboard `CONNECTED` by pairing or by verifying it. -/
theorem pairing_pairingOnRx (cfg : Config) (e : Endpoint) (buf : List UInt8) (len : Nat) :
    (pairingOnRx cfg e buf len).pairing.deviceId = e.pairing.deviceId ∧
      ((pairingOnRx cfg e buf len).pairing.state = .connected →
        e.pairing.state = .connected ∨
          (buf.getD 0 0 = esbPktPairReq ∧ 7 ≤ len ∧ e.pairing.state = .unpaired) ∨
            buf.getD 0 0 = esbPktVerifyResp) := by
  have hrx := @onRx_pairingOnRx cfg e buf len
  generalize (pairingOnRx cfg e buf len).pairing = p' at hrx ⊢
  generalize (pairingOnRx cfg e buf len).hop = h' at hrx
  cases hrx with
  | ignored => exact ⟨rfl, Or.inl⟩
  | nudged => exact ⟨rfl, Or.inl⟩
  | paired htype hlen hstate => exact ⟨rfl, fun _ => Or.inr (Or.inl ⟨htype, hlen, hstate⟩)⟩
  | verified htype hlen hstate hid => exact ⟨rfl, fun _ => Or.inr (Or.inr htype)⟩
  | disconnected htype hlen =>
    exact ⟨rfl, fun h => absurd (show PairingState.unpaired = .connected from h) (by decide)⟩
  | resynced htype hlen hstate => exact ⟨rfl, fun h => absurd h (by simp)⟩
  | answered htype => exact ⟨rfl, Or.inl⟩
  | requested htype hlen => exact ⟨rfl, Or.inl⟩

/-- A keyboard keeps its id, and its step leaves it `CONNECTED` only where
it was so before or the step took an answer of the dongle's. -/
theorem pairing_stationStep (cfg : Config) (st : Station) (op : StationOp) :
    (stationStep cfg st op).e.pairing.deviceId = st.e.pairing.deviceId ∧
      ((stationStep cfg st op).e.pairing.state = .connected →
        st.e.pairing.state = .connected ∨
          op = .rxCall ∧ (st.takesPairReq = true ∨ st.e.tp.rxBuf.getD 0 0 = esbPktVerifyResp)) := by
  have hkept : ∀ {p : Pairing}, p.deviceId = st.e.pairing.deviceId →
      p.state = st.e.pairing.state → p.deviceId = st.e.pairing.deviceId ∧
        (p.state = .connected → st.e.pairing.state = .connected ∨
          op = .rxCall ∧ (st.takesPairReq = true ∨
            st.e.tp.rxBuf.getD 0 0 = esbPktVerifyResp)) := by
    intro p hid hstate
    exact ⟨hid, fun h => Or.inl (hstate.symm.trans h)⟩
  cases op with
  | start =>
    unfold stationStep pairingStart
    dsimp only
    rw [Endpoint.mapPairing_pairing]
    split
    · exact ⟨rfl, fun h => absurd h (by simp)⟩
    · exact ⟨rfl, fun h => absurd h (by simp)⟩
  | stop =>
    unfold stationStep pairingStop
    dsimp only
    rw [pairing_notifyDisconnected, Endpoint.mapPairing_pairing]
    exact ⟨rfl, fun h => absurd h (by simp)⟩
  | unpair =>
    unfold stationStep pairingUnpair
    dsimp only
    rw [Endpoint.mapPairing_pairing]
    split
    · exact ⟨rfl, fun h => absurd h (by simp)⟩
    · exact hkept rfl rfl
  | beacon =>
    unfold stationStep beaconWorkFn
    dsimp only
    split
    · split
      · exact hkept rfl rfl
      · unfold sendBeacon
        rw [Endpoint.mapPairing_pairing, (session_esbTransportSend cfg _ _ _).2]
        exact hkept rfl rfl
    · exact hkept rfl rfl
  | verify =>
    unfold stationStep verifyWorkFn
    dsimp only
    split
    · split
      · exact hkept rfl rfl
      · rw [Endpoint.mapPairing_pairing, (session_esbTransportSend cfg _ _ _).2]
        exact hkept rfl rfl
    · exact hkept rfl rfl
  | rxEnter =>
    unfold stationStep
    dsimp only
    split <;> exact hkept rfl rfl
  | rxBuild =>
    unfold stationStep
    dsimp only
    split <;> exact hkept rfl rfl
  | rxCall =>
    unfold stationStep
    dsimp only
    split
    · rename_i len hphase
      obtain ⟨hid, hconnected⟩ := pairing_pairingOnRx cfg st.e st.e.tp.rxBuf len
      refine ⟨hid, fun h => ?_⟩
      rcases hconnected h with hbefore | ⟨htype, hlen, hstate⟩ | htype
      · exact Or.inl hbefore
      · exact Or.inr ⟨rfl, Or.inl (Station.takesPairReq_iff.2 ⟨len, hphase, htype, hlen, hstate⟩)⟩
      · exact Or.inr ⟨rfl, Or.inr htype⟩
    · exact hkept rfl rfl
  | tx op =>
    unfold stationStep
    dsimp only
    split
    · have hpairing := pairing_txStep cfg st.e op
      exact hkept (congrArg Pairing.deviceId hpairing) (congrArg Pairing.state hpairing)
    · exact hkept rfl rfl

/-- It notes what the dongle heard nowhere but on the air. -/
theorem heard_stationStep (cfg : Config) (st : Station) (op : StationOp) :
    (stationStep cfg st op).heard = st.heard := by
  cases op with
  | start => rfl
  | stop => rfl
  | unpair => rfl
  | rxCall =>
    unfold stationStep
    dsimp only
    split <;> rfl
  | _ =>
    unfold stationStep
    dsimp only
    split <;> rfl

/-- **The answer to a `PAIR_REQ` is owed from when it is queued.** -/
theorem owed_of_takesPairReq (hs : (st.e.path cfg).Sound)
    (hfresh : ∀ q, st.heard = some q → q.serial < st.e.radio.written)
    (hid : st.e.pairing.deviceId.length = 6) (htakes : st.takesPairReq = true)
    (hqueued : sendQueues cfg st.e (pairRespPacket st.e.pairing) = true)
    (hpipe : esbPipeData < cfg.esbPipeCount) : (stationStep cfg st .rxCall).owed ≠ [] := by
  obtain ⟨len, hphase, htype, hlen, hstate⟩ := Station.takesPairReq_iff.1 htakes
  have hstep : (stationStep cfg st .rxCall).e = pairingOnRx cfg st.e st.e.tp.rxBuf len := by
    unfold stationStep
    rw [hphase]
  have hpath : (stationStep cfg st .rxCall).e.path cfg =
      (txStep cfg st.e (.send esbPipeData (pairRespPacket st.e.pairing))).path cfg := by
    rw [hstep, path_pairingOnRx (by rw [htype]; decide), if_pos ⟨htype, hlen, hstate⟩]
    rfl
  rw [path_send_of_queues hs hqueued, TxPath.queue_accepted
    ((send_accepted_iff hs.initialized hqueued).2 ⟨List.cons_ne_nil _ _, hpipe⟩)] at hpath
  generalize hbase : sendBase cfg st.e (pairRespPacket st.e.pairing) = base at hpath
  have hwritten : base.written = st.e.radio.written := hbase ▸ sendBase_written
  -- the packet just written: nothing the dongle heard has its serial
  have hnew : ((stationStep cfg st .rxCall).e.path cfg).Has
      { (base.outgoing cfg esbPipeData (pairRespPacket st.e.pairing)).2 with
        serial := base.written } := by
    rw [hpath]
    exact Or.inl (List.mem_append_right _ (List.mem_singleton_self _))
  refine List.ne_nil_of_mem ((mem_owed cfg).2 ⟨hnew, ?_, ?_⟩)
  · have hdata : (base.outgoing cfg esbPipeData (pairRespPacket st.e.pairing)).2.data =
        pairRespPacket st.e.pairing :=
      TxPath.outgoing_data.2 (isMouseReport_eq_false (t := esbPktPairResp) rfl (by decide))
    show isPairResp (base.outgoing cfg esbPipeData (pairRespPacket st.e.pairing)).2.data = true
    rw [hdata]
    unfold isPairResp pairRespPacket
    rw [Bool.and_eq_true, decide_eq_true_eq, List.cons_append, List.length_cons,
      List.length_append, hid]
    exact ⟨rfl, by decide⟩
  · rw [heard_stationStep]
    intro hheard
    have hlt := hfresh _ hheard
    simp only [hwritten, Nat.lt_irrefl] at hlt

/-- Whether an ACK advances the path does not depend on what it brings. -/
theorem keeps_acked {retries : Nat} {reply reply' : List UInt8}
    (h : st.Keeps cfg (.txDone (.acked retries reply))) :
    st.Keeps cfg (.txDone (.acked retries reply')) := by
  have hend : canEnd cfg st.e (.acked retries reply') = canEnd cfg st.e (.acked retries reply) := by
    unfold canEnd radioDone
    cases st.e.radio.state with
    | ptxTxAck q retransmits =>
      dsimp only
      split <;> rfl
    | _ => rfl
  have hmove : (TxOp.txDone (.acked retries reply')).move cfg st.e =
      (TxOp.txDone (.acked retries reply)).move cfg st.e := by
    simp only [TxOp.move, hend, reduceCtorEq]
  intro hstate howed
  rw [hmove]
  exact h hstate howed

/-! ## One keyboard's steps -/

/-- A dongle that goes on keeps what it owes and is owed. -/
theorem Station.Owes.mono {s' : Link ι} (h : st.Owes s) (hd : s.dongle.Onward s'.dongle)
    (hanswered : s.dongle.Engaged → s.Answered → s'.Answered) : st.Owes s' := by
  refine ⟨h.id, h.fresh, fun hstate => ?_⟩
  obtain ⟨hengaged, hor⟩ := h.owes hstate
  exact ⟨hd.engaged hengaged, hor.imp_left (hanswered hengaged)⟩

theorem Dongle.Forwards.engaged (h : d.Forwards) : d.Engaged := by
  rcases h with h | h
  · exact ⟨by rw [h]; decide, by rw [h]; decide⟩
  · exact ⟨by rw [h]; decide, by rw [h]; decide⟩

/-- **A keyboard's own step**, under the condition. -/
theorem Station.Owes.step (h : st.Owes s) (hst : st.Sane cfg s.dongle) (op : StationOp)
    (htaken : op = .rxCall → ¬ s.Answered → st.takesPairReq = true →
      sendQueues cfg st.e (pairRespPacket st.e.pairing) = true ∧ esbPipeData < cfg.esbPipeCount)
    (hkeeps : ∀ op', op = .tx op' → ¬ s.Answered → op'.isOrdinary = true → st.Keeps cfg op') :
    (stationStep cfg st op).Owes s := by
  obtain ⟨hid, hconnected⟩ := pairing_stationStep cfg st op
  obtain ⟨move, hmove, hpath⟩ := stationMove_stationStep hst.sound hst.received.1.2.2 op
  have hheard := heard_stationStep cfg st op
  refine ⟨(congrArg List.length hid).trans h.id, fun q hq => ?_, fun hstate => ?_⟩
  · have hle : (st.e.path cfg).written ≤ ((stationStep cfg st op).e.path cfg).written :=
      hpath ▸ TxPath.written_apply_le move
    exact Nat.lt_of_lt_of_le (h.fresh q (hheard ▸ hq)) hle
  by_cases hanswered : s.Answered
  · rcases hconnected hstate with hbefore | ⟨rfl, htakes | htype⟩
    · exact ⟨(h.owes hbefore).1, Or.inl hanswered⟩
    · obtain ⟨len, -, htype, -⟩ := Station.takesPairReq_iff.1 htakes
      exact ⟨hst.received.1.1 htype, Or.inl hanswered⟩
    · exact ⟨(hst.received.1.2.1 htype).engaged, Or.inl hanswered⟩
  rcases hconnected hstate with hbefore | ⟨rfl, htakes | htype⟩
  · -- it was paired: what it owes is still there
    obtain ⟨hengaged, hor⟩ := h.owes hbefore
    have howed := hor.resolve_left hanswered
    refine ⟨hengaged, Or.inr ?_⟩
    have hspares : ∃ q ∈ st.owed, move.Spares cfg (st.e.path cfg) q := by
      cases hmove with
      | rest op now =>
        obtain ⟨q, hq⟩ := exists_mem_owed howed
        exact ⟨q, hq, trivial⟩
      | beacon hunpaired => exact absurd (hbefore.symm.trans hunpaired) (by decide)
      | verify hverifying => exact absurd (hbefore.symm.trans hverifying) (by decide)
      | answered htakes =>
        obtain ⟨-, -, -, -, hunpaired⟩ := Station.takesPairReq_iff.1 htakes
        exact absurd (hbefore.symm.trans hunpaired) (by decide)
      | ordinary op hordinary => exact hkeeps op rfl hanswered hordinary hbefore howed
    obtain ⟨q, hq, hspares⟩ := hspares
    exact owed_of_spares hst.sound hpath hheard hq hspares
  · -- it is paired now, by a `PAIR_REQ`
    obtain ⟨hqueued, hpipe⟩ := htaken rfl hanswered htakes
    obtain ⟨len, -, htype, -⟩ := Station.takesPairReq_iff.1 htakes
    exact ⟨hst.received.1.1 htype,
      Or.inr (owed_of_takesPairReq hst.sound h.fresh h.id htakes hqueued hpipe)⟩
  · exact absurd (Or.inl (hst.received.1.2.1 htype)) hanswered

/-- **The end of a transmission**, under the condition. -/
theorem Station.Owes.txDone (h : st.Owes s) (hs : (st.e.path cfg).Sound) {outcome : TxOutcome}
    (hkeeps : ¬ s.Answered → st.Keeps cfg (.txDone outcome)) :
    Station.Owes s { st with e := txDone cfg st.e outcome } := by
  obtain ⟨-, hpairing⟩ := @frame_txDone cfg st.e outcome
  have hpath := path_txStep cfg st.e (.txDone outcome) hs.syncing
  refine ⟨?_, fun q hq => ?_, fun hstate => ?_⟩
  · show (EsbEndpoint.txDone cfg st.e outcome).pairing.deviceId.length = 6
    rw [hpairing]
    exact h.id
  · have hle : (st.e.path cfg).written ≤ ((txStep cfg st.e (.txDone outcome)).path cfg).written :=
      hpath ▸ TxPath.written_apply_le _
    exact Nat.lt_of_lt_of_le (h.fresh q hq) hle
  · have hbefore : st.e.pairing.state = .connected := hpairing ▸ hstate
    obtain ⟨hengaged, hor⟩ := h.owes hbefore
    refine ⟨hengaged, ?_⟩
    by_cases hanswered : s.Answered
    · exact Or.inl hanswered
    · obtain ⟨q, hq, hspares⟩ := hkeeps hanswered hbefore (hor.resolve_left hanswered)
      have hafter : Station.owed { st with e := EsbEndpoint.txDone cfg st.e outcome } ≠ [] :=
        owed_of_spares hs hpath rfl hq hspares
      exact Or.inr hafter

/-! ## The link's steps -/

/-- What holds of a link on which every `PAIR_RESP` is kept. -/
structure Paired (cfg : Config) (s : Link ι) : Prop where
  traffic : Traffic cfg s
  station : ∀ i, (s.station i).Owes s

variable [DecidableEq ι]

theorem Paired.set (h : Paired cfg s) {i : ι} (htraffic : Traffic cfg (s.set i st))
    (hst : st.Owes s) : Paired cfg (s.set i st) := by
  have hsame : ∀ {st' : Station}, st'.Owes s → st'.Owes (s.set i st) := fun h' =>
    h'.mono (.refl s.dongle) fun _ => id
  refine ⟨htraffic, ?_⟩
  show ∀ j, (Function.update s.station i st j).Owes (s.set i st)
  rw [Function.forall_update_iff s.station fun _ st' => st'.Owes (s.set i st)]
  exact ⟨hsame hst, fun j _ => hsame (h.station j)⟩

theorem Paired.txDone (h : Paired cfg s) {i : ι} {outcome : TxOutcome}
    (htraffic : Traffic cfg (s.txDone cfg i outcome))
    (hkeeps : ¬ s.Answered → (s.station i).Keeps cfg (.txDone outcome)) :
    Paired cfg (s.txDone cfg i outcome) :=
  h.set htraffic ((h.station i).txDone (h.traffic.station i).sound hkeeps)

omit [DecidableEq ι] in
theorem Paired.onward (h : Paired cfg s) (hd : s.dongle.Onward d) :
    Paired cfg { s with dongle := d } :=
  ⟨h.traffic.onward hd, fun i => (h.station i).mono hd fun _ => Or.imp_left hd.forwards⟩

/-- **A `PAIR_RESP` makes an engaged dongle forward.** -/
theorem forwards_of_isPairResp {pipe : Nat} {data : List UInt8} (hengaged : d.Engaged)
    (hresp : isPairResp data = true) : (dongleOnPacket d pipe data).Forwards := by
  unfold isPairResp isType at hresp
  rw [Bool.and_eq_true, beq_iff_eq, decide_eq_true_eq] at hresp
  obtain ⟨htype, hlen⟩ := hresp
  obtain ⟨rest, rfl⟩ : ∃ rest, data = esbPktPairResp :: rest := by
    cases data with
    | nil => exact absurd htype (by simp [pktType])
    | cons t rest => exact ⟨rest, by rw [Option.some.inj htype]⟩
  show (onPairResp d (esbPktPairResp :: rest)).Forwards
  unfold onPairResp
  split
  · exact Or.inl rfl
  · rename_i hnot
    have hpairing : d.state ≠ .pairing := fun h => hnot ⟨hlen, h⟩
    unfold Dongle.Forwards
    cases hstate : d.state with
    | idle => exact absurd hstate hengaged.1
    | listening => exact absurd hstate hengaged.2
    | pairing => exact absurd hstate hpairing
    | connected => exact Or.inl rfl
    | verifying => exact Or.inr rfl

/-- What the dongle hears is owed to it no longer. -/
theorem Paired.hear (h : Paired cfg s) {i : ι} {q : Queued}
    (hair : (s.station i).e.radio.state.onAir = some q)
    (htraffic : Traffic cfg (linkStep cfg s (.hear i))) :
    Paired cfg (linkStep cfg s (.hear i)) := by
  unfold linkStep at htraffic ⊢
  dsimp only at htraffic ⊢
  rw [hair] at htraffic ⊢
  dsimp only at htraffic ⊢
  refine ⟨htraffic, ?_⟩
  generalize hs' : ({ s.set i { s.station i with heard := some q } with
    rxFifo := s.rxFifo ++ [(q.pipe, q.data)] } : Link ι) = s'
  have hdongle : s'.dongle = s.dongle := hs' ▸ rfl
  have hfifo : s'.rxFifo = s.rxFifo ++ [(q.pipe, q.data)] := hs' ▸ rfl
  have hstation : s'.station = Function.update s.station i { s.station i with heard := some q } :=
    hs' ▸ rfl
  have honward : s.dongle.Onward s'.dongle := hdongle ▸ .refl s.dongle
  have hanswered : s.Answered → s'.Answered := by
    rintro (hfwd | ⟨p, hp, hresp⟩)
    · exact Or.inl (hdongle ▸ hfwd)
    · exact Or.inr ⟨p, hfifo ▸ List.mem_append_left _ hp, hresp⟩
  rw [hstation, Function.forall_update_iff s.station fun _ st' => st'.Owes s']
  refine ⟨?_, fun j _ => (h.station j).mono honward fun _ => hanswered⟩
  refine ⟨(h.station i).id, fun q' hq' => ?_, fun hstate => ?_⟩
  · obtain rfl := Option.some.inj hq'
    exact (h.traffic.station i).sound.onAir_below q hair
  · obtain ⟨hengaged, hor⟩ := (h.station i).owes hstate
    refine ⟨honward.engaged hengaged, ?_⟩
    rcases hor with hans | howed
    · exact Or.inl (hanswered hans)
    obtain ⟨q', hq'⟩ := exists_mem_owed howed
    obtain ⟨hhas, hresp, -⟩ := (mem_owed cfg).1 hq'
    by_cases heq : q = q'
    · refine Or.inl (Or.inr ⟨(q.pipe, q.data), ?_, heq ▸ hresp⟩)
      rw [hfifo]
      exact List.mem_append_right _ (List.mem_singleton_self _)
    · have hnot : some q ≠ some q' := fun h => heq (Option.some.inj h)
      exact Or.inr (List.ne_nil_of_mem ((mem_owed cfg).2 ⟨hhas, hresp, hnot⟩))

omit [DecidableEq ι] in
/-- What the dongle handles, it has handled for good. -/
theorem Paired.handle (h : Paired cfg s) {p : Nat × List UInt8} {rest : List (Nat × List UInt8)}
    (hfifo : s.rxFifo = p :: rest)
    (htraffic : Traffic cfg
      { s with dongle := dongleOnPacket s.dongle p.1 p.2, rxFifo := rest }) :
    Paired cfg { s with dongle := dongleOnPacket s.dongle p.1 p.2, rxFifo := rest } := by
  have hp := h.traffic.heard p (by rw [hfifo]; exact List.mem_cons_self)
  have honward := @onward_dongleOnPacket s.dongle p.1 p.2 hp
  refine ⟨htraffic, fun i => (h.station i).mono honward fun hengaged hans => ?_⟩
  rcases hans with hfwd | ⟨p', hp', hresp⟩
  · exact Or.inl (honward.forwards hfwd)
  · rw [hfifo] at hp'
    rcases List.mem_cons.1 hp' with rfl | hrest
    · exact Or.inl (forwards_of_isPairResp hengaged hresp)
    · exact Or.inr ⟨p', hrest, hresp⟩

/-- **Every step keeps it so**, where every `PAIR_RESP` is kept. -/
theorem Paired.step (h : Paired cfg s) (op : LinkOp ι) (hop : PairRespKept cfg s op) :
    Paired cfg (linkStep cfg s op) := by
  have htraffic := h.traffic.step op
  cases op with
  | station i op =>
    refine h.set htraffic ((h.station i).step (h.traffic.station i) op ?_ ?_)
    · rintro rfl
      exact hop
    · rintro op' rfl
      exact hop
  | hear i =>
    cases hair : (s.station i).e.radio.state.onAir with
    | none =>
      unfold linkStep
      dsimp only
      rw [hair]
      exact h
    | some q => exact h.hear hair htraffic
  | handle =>
    unfold linkStep at htraffic ⊢
    dsimp only at htraffic ⊢
    cases hfifo : s.rxFifo with
    | nil => exact h
    | cons p rest =>
      rw [hfifo] at htraffic
      exact h.handle hfifo htraffic
  | sent i => exact h.txDone htraffic hop
  | exhausted i => exact h.txDone htraffic hop
  | acked i retries withReply =>
    have hkeeps : ∀ reply, ¬ s.Answered →
        (s.station i).Keeps cfg (.txDone (.acked retries reply)) := fun reply hans =>
      keeps_acked (hop hans)
    unfold linkStep
    dsimp only
    cases hair : (s.station i).e.radio.state.onAir with
    | none => exact h
    | some q =>
      dsimp only
      split
      · exact h
      · split
        · exact (h.txDone (h.traffic.acked i retries q.pipe) (hkeeps _)).onward
            (onward_dropAck q.pipe)
        · exact h.txDone (h.traffic.acked_bare i retries) (hkeeps _)
  | loseReply pipe => exact h.onward (onward_dropAck pipe)

/-- A keyboard starts with its id and not connected. -/
theorem pairing_start (cfg : Config) (deviceId : List UInt8) (saved : Option PairedRec) :
    (pairingInit (Endpoint.start cfg deviceId saved)).pairing.deviceId = deviceId ∧
      (pairingInit (Endpoint.start cfg deviceId saved)).pairing.state = .idle := by
  have hslot : (Endpoint.start cfg deviceId saved).pairing =
      (Endpoint.boot cfg deviceId saved).pairing := by
    unfold Endpoint.start esbTransportOnSlotStart esbInitAndConfigure
    dsimp only
    split <;> rfl
  unfold pairingInit
  rw [Endpoint.mapPairing_pairing, hslot]
  split <;> exact ⟨rfl, rfl⟩

omit [DecidableEq ι] in
theorem paired_start (cfg : Config) (deviceId : ι → List UInt8) (saved : ι → Option PairedRec)
    (dongleId : List UInt8) (hid : ∀ i, (deviceId i).length = 6) :
    Paired cfg (Link.start cfg deviceId saved dongleId) := by
  refine ⟨traffic_start cfg deviceId saved dongleId, fun i => ?_⟩
  obtain ⟨hdevice, hidle⟩ := pairing_start cfg (deviceId i) (saved i)
  exact ⟨(congrArg List.length hdevice).trans (hid i), fun q hq => absurd hq (by simp [Link.start]),
    fun hstate => absurd (hidle.symm.trans hstate) (by decide)⟩

omit [DecidableEq ι] in
/-- On a quiet link nothing is owed, and nothing left to handle. -/
theorem Paired.agrees (h : Paired cfg s) : AgreesPaired s := by
  intro hquiet i hstate
  obtain ⟨-, (hfwd | ⟨p, hp, -⟩) | howed⟩ := (h.station i).owes hstate
  · exact hfwd
  · rw [hquiet.heard] at hp
    exact absurd hp List.not_mem_nil
  · obtain ⟨q, hq⟩ := exists_mem_owed howed
    unfold Station.owed at hq
    rw [hquiet.txFifo i, hquiet.onAir i] at hq
    exact absurd hq List.not_mem_nil

/-! ## The run -/

/-- **For every order of steps and every loss, a quiet link has keyboard
and dongle agree that they are paired**, as long as no `PAIR_RESP` is
dropped, flushed or failed. -/
theorem agreesPaired_of_pairRespKept (cfg : Config) (deviceId : ι → List UInt8)
    (saved : ι → Option PairedRec) (dongleId : List UInt8) (hid : ∀ i, (deviceId i).length = 6)
    (ops : List (LinkOp ι))
    (h : Guarded (linkStep cfg) (PairRespKept cfg) (Link.start cfg deviceId saved dongleId) ops) :
    Throughout (linkStep cfg) AgreesPaired (Link.start cfg deviceId saved dongleId) ops :=
  (Throughout.of_guarded (P := Paired cfg) (fun _ op hs hop => hs.step op hop)
    (paired_start cfg deviceId saved dongleId hid) h).imp fun _ hs => hs.agrees

/-- A keyboard that no dongle has paired with. -/
def oneKeyboard : Link Unit :=
  Link.start .default (fun _ => List.replicate 6 1) (fun _ => none) (List.replicate 6 9)

/-- The exchange, up to where the keyboard is `CONNECTED` and its
`PAIR_RESP` queued. -/
def pairingOps : List (LinkOp Unit) :=
  [.station () .start, .station () .beacon, .hear (), .handle, .acked () 0 false,
    .station () .beacon, .hear (), .handle, .acked () 0 true, .station () .rxEnter,
    .station () .rxBuild, .station () .rxCall]

/-- The first try of the `PAIR_RESP` fails, and the next does not. -/
theorem agreesPaired_pairing :
    Throughout (linkStep .default) AgreesPaired oneKeyboard
      (pairingOps ++ [.exhausted (), .station () (.tx (.send 1 [esbPktIdle])), .hear (),
        .acked () 0 false, .handle]) :=
  agreesPaired_of_pairRespKept .default _ _ _ (fun _ => rfl) _
    ⟨trivial, trivial, trivial, trivial, fun _ => by decide, trivial, trivial, trivial,
      fun _ => by decide, trivial, trivial, fun _ _ => by decide, fun _ => by decide,
      fun _ _ => by decide, trivial, fun _ => by decide, trivial, trivial⟩

/-- **The one `PAIR_RESP` is flushed by a channel change** after its first
try has failed: nothing is queued or in flight, the keyboard is
`CONNECTED`, and the dongle still waits. -/
theorem not_agreesPaired :
    ¬ Throughout (linkStep .default) AgreesPaired oneKeyboard
      (pairingOps ++ [.exhausted (), .station () (.tx (.setChannel 20))]) := by
  intro h
  have hlast := h.last
  have hquiet : (runFrom (linkStep .default) oneKeyboard
      (pairingOps ++ [.exhausted (), .station () (.tx (.setChannel 20))])).Quiet :=
    ⟨fun () => by decide, fun () => by decide, fun () => by decide, fun () => by decide,
      fun () => by decide, by decide, by decide⟩
  exact absurd (hlast hquiet () (by decide)) (by decide)

end EsbEndpoint
