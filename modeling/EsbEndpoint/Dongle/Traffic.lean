import EsbEndpoint.Dongle.Link

/-!
# What travels on the link

What can be said of every packet under way, whatever the keyboards and the
dongle do and the link loses: no one sends a `DISCONNECT` to the dongle, so
it never goes back to listening, and an answer of the dongle's that is
under way was sent by a dongle that has moved on for good: past listening
for a `PAIR_REQ`, to forwarding for a `VERIFY_RESP`.
-/

namespace EsbEndpoint

variable {cfg : Config} {e : Endpoint} {st : Station} {d d' : Dongle}

/-! ## The pairing machine on the transmit path -/

/-- The `PAIR_RESP` of a keyboard. -/
def pairRespPacket (p : Pairing) : List UInt8 := esbPktPairResp :: p.deviceId ++ [esbCapAll]

/-- Only a HID report is a mouse report. -/
theorem isMouseReport_eq_false {data : List UInt8} {t : UInt8} (h : pktType data = some t)
    (hne : t ≠ esbPktHidReport) : isMouseReport data = false := by
  have hhead : data[0]? = some t := List.head?_eq_getElem?.symm.trans h
  have htype : (some t == some esbPktHidReport) = false :=
    beq_eq_false_iff_ne.2 fun heq => hne (Option.some.inj heq)
  unfold isMouseReport isHidReport
  rw [hhead, htype, Bool.false_and, Bool.and_false]

/-- `pairing_on_rx` is about to take a `PAIR_REQ`. -/
def Station.takesPairReq (st : Station) : Bool :=
  match st.phase with
  | .calling len =>
    st.e.tp.rxBuf.getD 0 0 == esbPktPairReq && decide (7 ≤ len) && st.e.pairing.state == .unpaired
  | _ => false

/-- The parts of what `pairing_on_rx` checks of a `PAIR_REQ`. -/
theorem Station.takesPairReq_iff :
    st.takesPairReq = true ↔
      ∃ len, st.phase = .calling len ∧ st.e.tp.rxBuf.getD 0 0 = esbPktPairReq ∧ 7 ≤ len ∧
        st.e.pairing.state = .unpaired := by
  unfold Station.takesPairReq
  split
  · rename_i len hphase
    simp only [Bool.and_eq_true, beq_iff_eq, decide_eq_true_eq, hphase, RxPhase.calling.injEq,
      exists_eq_left', and_assoc]
  · rename_i hphase
    constructor
    · intro h
      exact absurd h Bool.false_ne_true
    · rintro ⟨len, hlen, -⟩
      exact absurd hlen (hphase len)

/-- A send does not read the pairing statics. -/
theorem path_send_mapPairing (f : Pairing → Pairing) (pipe : Nat) (data : List UInt8) :
    (esbTransportSend cfg (e.mapPairing f) pipe data).1.path cfg =
      (esbTransportSend cfg e pipe data).1.path cfg :=
  (congrArg Prod.fst (path_esbTransportSend cfg (e.mapPairing f) pipe data)).trans
    (congrArg Prod.fst (path_esbTransportSend cfg e pipe data)).symm

theorem path_notifyConnected : (notifyConnected cfg e).path cfg = e.path cfg := by
  unfold notifyConnected
  dsimp only
  split <;> rfl

theorem path_notifyDisconnected : (notifyDisconnected cfg e).path cfg = e.path cfg := by
  unfold notifyDisconnected
  dsimp only
  split <;> rfl

/-- **A packet from the dongle is answered by a `PAIR_RESP` or by
nothing**, shell data apart. -/
theorem path_pairingOnRx {buf : List UInt8} {len : Nat} (hshell : buf.getD 0 0 ≠ esbPktShellData) :
    (pairingOnRx cfg e buf len).path cfg =
      if buf.getD 0 0 = esbPktPairReq ∧ 7 ≤ len ∧ e.pairing.state = .unpaired then
        (esbTransportSend cfg e esbPipeData (pairRespPacket e.pairing)).1.path cfg
      else e.path cfg := by
  have hnot : ∀ {t : UInt8}, buf.getD 0 0 = t → t ≠ esbPktPairReq →
      ¬(buf.getD 0 0 = esbPktPairReq ∧ 7 ≤ len ∧ e.pairing.state = .unpaired) := by
    intro t ht hne h
    exact hne (ht.symm.trans h.1)
  unfold pairingOnRx
  split
  · rename_i hlen
    rw [if_neg (by omega)]
  · split
    · rename_i htype
      unfold onPairReq
      simp only [Bool.and_eq_true, beq_iff_eq, decide_eq_true_eq]
      by_cases hpair : e.pairing.state = .unpaired ∧ 7 ≤ len
      · rw [if_pos hpair, if_pos ⟨htype, hpair.symm⟩, path_notifyConnected]
        exact path_send_mapPairing _ _ _
      · rw [if_neg hpair, if_neg fun h => hpair ⟨h.2.2, h.2.1⟩]
    · rename_i htype
      rw [if_neg (hnot htype (by decide))]
      unfold onVerifyResp
      split
      · split
        · exact path_notifyConnected
        · rfl
      · rfl
    · rename_i htype
      rw [if_neg (hnot htype (by decide))]
      exact path_notifyDisconnected
    · rename_i htype
      rw [if_neg (hnot htype (by decide))]
      unfold onResync
      split
      · exact path_notifyDisconnected
      · rfl
    · rename_i htype
      rw [if_neg (hnot htype (by decide))]
      split <;> rfl
    · rename_i htype
      rw [if_neg (hnot htype (by decide))]
      split <;> rfl
    · rename_i htype
      rw [if_neg (hnot htype (by decide))]
      split <;> rfl
    · rename_i htype
      rw [if_neg (hnot htype (by decide))]
      unfold esbTransportOnRxLinkStats
      split <;> rfl
    · rename_i htype
      rw [if_neg (hnot htype (by decide))]
      split <;> rfl
    · rename_i htype
      exact absurd htype hshell
    · rename_i hpair _ _ _ _ _ _ _ _ _
      rw [if_neg fun h => hpair h.1]

theorem RxFrom.notifyConnected {Q : UInt8 → Prop} (h : RxFrom Q e) :
    RxFrom Q (notifyConnected cfg e) := by
  unfold EsbEndpoint.notifyConnected
  dsimp only
  split <;> exact h

theorem RxFrom.notifyDisconnected {Q : UInt8 → Prop} (h : RxFrom Q e) :
    RxFrom Q (notifyDisconnected cfg e) := by
  unfold EsbEndpoint.notifyDisconnected
  dsimp only
  split <;> exact h

theorem RxFrom.send {Q : UInt8 → Prop} (pipe : Nat) (data : List UInt8) (h : RxFrom Q e) :
    RxFrom Q (esbTransportSend cfg e pipe data).1 :=
  h.of_given (given_esbTransportSend pipe data)

/-- Nor does it touch what has been received. -/
theorem rxFrom_pairingOnRx {Q : UInt8 → Prop} (h : RxFrom Q e) (buf : List UInt8) (len : Nat) :
    RxFrom Q (pairingOnRx cfg e buf len) := by
  unfold pairingOnRx
  split
  · exact h
  · split
    · unfold onPairReq
      split
      · exact RxFrom.notifyConnected (RxFrom.send _ _ h)
      · exact h
    · unfold onVerifyResp
      split
      · split
        · exact RxFrom.notifyConnected h
        · exact h
      · exact h
    · exact RxFrom.notifyDisconnected h
    · unfold onResync
      split
      · exact RxFrom.notifyDisconnected h
      · exact h
    · split <;> exact h
    · split <;> exact h
    · split <;> exact h
    · unfold esbTransportOnRxLinkStats
      split <;> exact h
    · split <;> exact h
    · split
      · unfold onShellData
        dsimp only
        split
        · split
          · unfold esbShellRelayOnData
            split
            · split
              · exact RxFrom.send _ _ h
              · exact h
            · exact h
          · exact h
        · exact h
      · exact h
    · exact h

/-! ## A keyboard's own steps -/

/-- The move a keyboard's step makes on its transmit path. -/
inductive StationMove (cfg : Config) (st : Station) : StationOp → TxMove → Prop
  | rest (op : StationOp) (now : UInt32) : StationMove cfg st op (.rest now)
  | beacon (hstate : st.e.pairing.state = .unpaired) :
      StationMove cfg st .beacon
        ((TxOp.send esbPipePairing (esbPktBeacon :: st.e.pairing.deviceId ++ [esbCapAll])).move cfg
          st.e)
  | verify (hstate : st.e.pairing.state = .verifying) :
      StationMove cfg st .verify
        ((TxOp.send esbPipeData (esbPktVerifyReq :: st.e.pairing.deviceId)).move cfg st.e)
  | answered (h : st.takesPairReq = true) :
      StationMove cfg st .rxCall
        ((TxOp.send esbPipeData (pairRespPacket st.e.pairing)).move cfg st.e)
  | ordinary (op : TxOp) (h : op.isOrdinary = true) : StationMove cfg st (.tx op) (op.move cfg st.e)

/-- **Every step of a keyboard is one of them.** -/
theorem stationMove_stationStep (hs : (st.e.path cfg).Sound)
    (hshell : st.e.tp.rxBuf.getD 0 0 ≠ esbPktShellData) (op : StationOp) :
    ∃ move, StationMove cfg st op move ∧
      (stationStep cfg st op).e.path cfg = move.apply cfg (st.e.path cfg) := by
  have hrest : ∀ op, ∃ move, StationMove cfg st op move ∧
      st.e.path cfg = move.apply cfg (st.e.path cfg) := fun op => ⟨_, .rest op st.e.now, rfl⟩
  cases op with
  | start => exact hrest .start
  | stop => exact ⟨_, .rest _ st.e.now, path_notifyDisconnected⟩
  | unpair => exact hrest .unpair
  | beacon =>
    unfold stationStep
    dsimp only
    split
    · unfold beaconWorkFn
      split
      · exact hrest .beacon
      · rename_i hstate
        rw [bne_iff_ne, not_not] at hstate
        exact ⟨_, .beacon hstate,
          (path_send_mapPairing _ _ _).trans (path_txStep cfg st.e (.send _ _) hs.syncing)⟩
    · exact hrest .beacon
  | verify =>
    unfold stationStep
    dsimp only
    split
    · unfold verifyWorkFn
      split
      · exact hrest .verify
      · rename_i hstate
        rw [bne_iff_ne, not_not] at hstate
        exact ⟨_, .verify hstate,
          (path_send_mapPairing _ _ _).trans (path_txStep cfg st.e (.send _ _) hs.syncing)⟩
    · exact hrest .verify
  | rxEnter =>
    unfold stationStep
    dsimp only
    split <;> exact hrest .rxEnter
  | rxBuild =>
    unfold stationStep
    dsimp only
    split <;> exact hrest .rxBuild
  | rxCall =>
    unfold stationStep
    dsimp only
    split
    · rename_i len hphase
      -- of all packets, a `PAIR_REQ` alone is answered with a send
      dsimp only
      rw [path_pairingOnRx hshell]
      split
      · rename_i htakes
        refine ⟨_, .answered ?_, path_txStep cfg st.e (.send _ _) hs.syncing⟩
        unfold Station.takesPairReq
        simp only [hphase, htakes, beq_self_eq_true, decide_true, Bool.and_self]
      · exact hrest .rxCall
    · exact hrest .rxCall
  | tx op =>
    unfold stationStep
    dsimp only
    split
    · rename_i hordinary
      exact ⟨_, .ordinary op hordinary, path_txStep cfg st.e op hs.syncing⟩
    · exact hrest (.tx op)

/-- Nothing a keyboard does by itself brings a packet in. -/
theorem rxFrom_stationStep {Q : UInt8 → Prop} (h : RxFrom Q st.e) (op : StationOp) :
    RxFrom Q (stationStep cfg st op).e := by
  cases op with
  | start => exact h
  | stop => exact RxFrom.notifyDisconnected h
  | unpair => exact h
  | beacon =>
    unfold stationStep
    dsimp only
    split
    · unfold beaconWorkFn
      split
      · exact h
      · exact RxFrom.send _ _ h
    · exact h
  | verify =>
    unfold stationStep
    dsimp only
    split
    · unfold verifyWorkFn
      split
      · exact h
      · exact RxFrom.send _ _ h
    · exact h
  | rxEnter =>
    unfold stationStep
    dsimp only
    split <;> exact h
  | rxBuild =>
    unfold stationStep
    dsimp only
    split <;> exact h
  | rxCall =>
    unfold stationStep
    dsimp only
    split
    · exact rxFrom_pairingOnRx h _ _
    · exact h
  | tx op =>
    unfold stationStep
    dsimp only
    split
    · rename_i hordinary
      cases op with
      | send pipe data => exact RxFrom.send pipe data h
      | txDone outcome => exact absurd hordinary (by simp [TxOp.isOrdinary])
      | setChannel channel => exact h.of_given (given_esbTransportSetChannel channel)
      | flushTx => exact h.of_given given_esbFlushTxAndReset
      | idleBegin =>
        unfold txStep
        dsimp only
        split <;> exact h
      | connected => exact h
      | tick ms => exact h
    · exact h

/-- What a keyboard sends in a step. -/
inductive StationSends (st : Station) : StationOp → List UInt8 → Prop
  | beacon : StationSends st .beacon (esbPktBeacon :: st.e.pairing.deviceId ++ [esbCapAll])
  | verify : StationSends st .verify (esbPktVerifyReq :: st.e.pairing.deviceId)
  | pairResp (h : st.takesPairReq = true) :
      StationSends st .rxCall (pairRespPacket st.e.pairing)
  | ordinary {pipe : Nat} {data : List UInt8} (h : isPairingPacket data = false) :
      StationSends st (.tx (.send pipe data)) data

/-- A packet under way after a step was under way before it, or is what
the keyboard sent. -/
theorem sends_stationStep (hs : (st.e.path cfg).Sound)
    (hshell : st.e.tp.rxBuf.getD 0 0 ≠ esbPktShellData) {op : StationOp} {q : Queued}
    (h : ((stationStep cfg st op).e.path cfg).Has q) :
    (st.e.path cfg).Has q ∨ ∃ pipe data, StationSends st op data ∧ q.SentAs pipe data := by
  obtain ⟨move, hmove, hpath⟩ := stationMove_stationStep hs hshell op
  rw [hpath] at h
  refine (TxPath.Has.sentAs_of_apply h).imp_right ?_
  rintro ⟨flushed, pipe, data, rfl, hq⟩
  refine ⟨pipe, data, ?_, hq⟩
  have hsend : ∀ {pipe' data'}, (TxOp.send pipe' data').move cfg st.e = .queue flushed pipe data →
      data' = data := by
    intro pipe' data' heq
    unfold TxOp.move at heq
    dsimp only at heq
    split at heq
    · exact (TxMove.queue.inj heq).2.2
    · exact absurd heq (by simp)
  generalize hm : TxMove.queue flushed pipe data = move at hmove
  cases hmove with
  | rest op now => exact absurd hm (by simp)
  | beacon hstate =>
    obtain rfl := hsend hm.symm
    exact .beacon
  | verify hstate =>
    obtain rfl := hsend hm.symm
    exact .verify
  | answered htakes =>
    obtain rfl := hsend hm.symm
    exact .pairResp htakes
  | ordinary op hop =>
    cases op with
    | send pipe' data' =>
      obtain rfl := hsend hm.symm
      exact .ordinary ((Bool.not_eq_true' _).mp hop)
    | txDone outcome => exact absurd hop (by simp [TxOp.isOrdinary])
    | setChannel channel =>
      unfold TxOp.move at hm
      dsimp only at hm
      split at hm <;> exact absurd hm (by simp)
    | flushTx => exact absurd hm (by simp [TxOp.move])
    | idleBegin => exact absurd hm (by simp [TxOp.move])
    | connected => exact absurd hm (by simp [TxOp.move])
    | tick ms => exact absurd hm (by simp [TxOp.move])

/-- The end of a transmission brings no packet. -/
theorem has_of_txDone (hs : (e.path cfg).Sound) {outcome : TxOutcome} {q : Queued}
    (h : ((txDone cfg e outcome).path cfg).Has q) : (e.path cfg).Has q := by
  have hpath := path_txStep cfg e (.txDone outcome) hs.syncing
  refine (TxPath.Has.sentAs_of_apply (hpath ▸ h)).resolve_right ?_
  rintro ⟨flushed, pipe, data, hmove, -⟩
  unfold TxOp.move at hmove
  dsimp only at hmove
  split at hmove
  · split at hmove <;> exact absurd hmove (by simp)
  · exact absurd hmove (by simp)

/-! ## The dongle's answers -/

/-- A dongle that has taken a `BEACON`. -/
def Dongle.Engaged (d : Dongle) : Prop := d.state ≠ .idle ∧ d.state ≠ .listening

/-- What the type of an answer under way says of the dongle. -/
def Dongle.Answers (d : Dongle) (t : UInt8) : Prop :=
  (t = esbPktPairReq → d.Engaged) ∧ (t = esbPktVerifyResp → d.Forwards) ∧ t ≠ esbPktShellData

/-- The dongle has gone on from `d` to `d'`: nothing it said is taken
back. -/
structure Dongle.Onward (d d' : Dongle) : Prop where
  engaged : d.Engaged → d'.Engaged
  forwards : d.Forwards → d'.Forwards
  peer : d.Engaged → d'.peerDeviceId = d.peerDeviceId
  acks : ∀ p ∈ d'.ackPayloads, p ∈ d.ackPayloads ∨ d'.Answers (p.2.getD 0 0)

theorem Dongle.Onward.answers (h : d.Onward d') {t : UInt8} (ht : d.Answers t) : d'.Answers t :=
  ⟨fun hreq => h.engaged (ht.1 hreq), fun hresp => h.forwards (ht.2.1 hresp), ht.2.2⟩

theorem Dongle.Onward.refl (d : Dongle) : d.Onward d :=
  ⟨id, id, fun _ => rfl, fun _ hp => Or.inl hp⟩

/-- **Whatever but a `DISCONNECT` takes the dongle onward.** -/
theorem onward_dongleOnPacket {pipe : Nat} {data : List UInt8}
    (hdisc : pktType data ≠ some esbPktDisconnect) : d.Onward (dongleOnPacket d pipe data) := by
  have heff := onPacket_dongleOnPacket d pipe data
  generalize dongleOnPacket d pipe data = d' at heff ⊢
  cases heff with
  | ignored hreq hdisc' => exact .refl d
  | beacon htype hlen hstate =>
    have hnot : ¬ d.Engaged := fun h => h.2 hstate
    refine ⟨fun h => absurd h hnot, fun h => ?_, fun h => absurd h hnot, fun p hp => ?_⟩
    · rcases h with h | h <;> exact absurd (hstate.symm.trans h) (by simp)
    · refine (List.mem_append.1 hp).imp_right fun hnew => ?_
      rw [List.mem_singleton.1 hnew]
      show Dongle.Answers _ esbPktPairReq
      exact ⟨fun _ => ⟨by simp, by simp⟩, fun h => absurd h (by decide), by decide⟩
  | paired hresp =>
    exact ⟨fun _ => ⟨by simp, by simp⟩, fun _ => Or.inl rfl, fun _ => rfl, fun _ hp => Or.inl hp⟩
  | forwarded htype hfwd report => exact ⟨id, id, fun _ => rfl, fun _ hp => Or.inl hp⟩
  | verified hreq hpeer =>
    refine ⟨fun _ => ⟨by simp, by simp⟩, fun _ => Or.inr rfl, fun _ => rfl, fun p hp => ?_⟩
    refine (List.mem_append.1 hp).imp_right fun hnew => ?_
    rw [List.mem_singleton.1 hnew]
    show Dongle.Answers _ esbPktVerifyResp
    exact ⟨fun h => absurd h (by decide), fun _ => Or.inr rfl, by decide⟩
  | refused hreq hpeer =>
    refine ⟨id, id, fun _ => rfl, fun p hp => ?_⟩
    refine (List.mem_append.1 hp).imp_right fun hnew => ?_
    rw [List.mem_singleton.1 hnew]
    show Dongle.Answers _ esbPktDisconnect
    exact ⟨fun h => absurd h (by decide), fun h => absurd h (by decide), by decide⟩
  | disconnected htype => exact absurd htype hdisc

theorem onward_dropAck (pipe : Nat) : d.Onward (d.dropAck pipe) :=
  ⟨id, id, fun _ => rfl, fun _ hp => Or.inl (List.mem_of_mem_eraseP hp)⟩

/-- What rides on an ACK was waiting for it. -/
theorem ackFor_mem {pipe : Nat} (h : d.ackFor pipe ≠ []) :
    ∃ p ∈ d.ackPayloads, p.2 = d.ackFor pipe := by
  unfold Dongle.ackFor at h ⊢
  cases hfind : d.ackPayloads.find? fun p => p.1 == pipe with
  | none =>
    rw [hfind] at h
    exact absurd rfl h
  | some p => exact ⟨p, List.mem_of_find?_eq_some hfind, rfl⟩

/-! ## The invariant -/

/-- What holds of a keyboard, whatever it does. -/
structure Station.Sane (cfg : Config) (d : Dongle) (st : Station) : Prop where
  sound : (st.e.path cfg).Sound
  no_disconnect : ∀ q, (st.e.path cfg).Has q → pktType q.data ≠ some esbPktDisconnect
  received : RxFrom d.Answers st.e

theorem StationSends.no_disconnect {op : StationOp} {data : List UInt8}
    (h : StationSends st op data) :
    pktType data ≠ some esbPktDisconnect := by
  cases h with
  | beacon => exact pktType_ne rfl (by decide)
  | verify => exact pktType_ne rfl (by decide)
  | pairResp htakes => exact pktType_ne rfl (by decide)
  | ordinary hdata =>
    intro hdisc
    unfold isPairingPacket at hdata
    have htype : isType esbPktDisconnect data = true := beq_iff_eq.2 hdisc
    rw [htype, Bool.or_true] at hdata
    exact Bool.noConfusion hdata

theorem Station.Sane.step (h : st.Sane cfg d) (op : StationOp) :
    (stationStep cfg st op).Sane cfg d := by
  have hshell := h.received.1.2.2
  obtain ⟨move, -, hpath⟩ := stationMove_stationStep h.sound hshell op
  refine ⟨hpath ▸ h.sound.apply move, fun q hq => ?_, ?_⟩
  · rcases sends_stationStep h.sound hshell hq with hold | ⟨pipe, data, hsends, hsent⟩
    · exact h.no_disconnect q hold
    · rw [hsent.2.1]
      exact hsends.no_disconnect
  · exact rxFrom_stationStep h.received op

theorem Station.Sane.txDone (h : st.Sane cfg d) {outcome : TxOutcome}
    (hreply : ∀ retries reply, outcome = .acked retries reply → reply ≠ [] →
      d.Answers (reply.getD 0 0)) :
    Station.Sane cfg d { st with e := txDone cfg st.e outcome } :=
  ⟨sound_txStep cfg h.sound (.txDone outcome),
    fun q hq => h.no_disconnect q (has_of_txDone h.sound hq), rxFrom_txDone h.received hreply⟩

theorem Station.Sane.onward (h : st.Sane cfg d) (hd : d.Onward d') : st.Sane cfg d' :=
  ⟨h.sound, h.no_disconnect, h.received.imp fun _ => hd.answers⟩

variable {ι : Type*} [DecidableEq ι] {s : Link ι}

/-- **What holds on every link.** -/
structure Traffic (cfg : Config) (s : Link ι) : Prop where
  station : ∀ i, (s.station i).Sane cfg s.dongle
  heard : ∀ p ∈ s.rxFifo, pktType p.2 ≠ some esbPktDisconnect
  acks : ∀ p ∈ s.dongle.ackPayloads, s.dongle.Answers (p.2.getD 0 0)

theorem Traffic.set (h : Traffic cfg s) {i : ι} (hst : st.Sane cfg s.dongle) :
    Traffic cfg (s.set i st) := by
  refine ⟨?_, h.heard, h.acks⟩
  show ∀ j, (Function.update s.station i st j).Sane cfg s.dongle
  rw [Function.forall_update_iff s.station fun _ st' => st'.Sane cfg s.dongle]
  exact ⟨hst, fun j _ => h.station j⟩

omit [DecidableEq ι] in
theorem Traffic.onward (h : Traffic cfg s) (hd : s.dongle.Onward d') :
    Traffic cfg { s with dongle := d' } := by
  refine ⟨fun i => (h.station i).onward hd, h.heard, fun p hp => ?_⟩
  rcases hd.acks p hp with hold | hnew
  · exact hd.answers (h.acks p hold)
  · exact hnew

theorem Traffic.txDone (h : Traffic cfg s) {i : ι} {outcome : TxOutcome}
    (hreply : ∀ retries reply, outcome = .acked retries reply → reply ≠ [] →
      s.dongle.Answers (reply.getD 0 0)) :
    Traffic cfg (s.txDone cfg i outcome) :=
  h.set ((h.station i).txDone hreply)

/-- An ACK brings what was waiting for it, or nothing. -/
theorem Traffic.acked (h : Traffic cfg s) (i : ι) (retries pipe : Nat) :
    Traffic cfg (s.txDone cfg i (.acked retries (s.dongle.ackFor pipe))) := by
  refine h.txDone fun retries' reply heq hne => ?_
  obtain ⟨-, rfl⟩ := TxOutcome.acked.inj heq
  obtain ⟨p, hp, hdata⟩ := ackFor_mem hne
  rw [← hdata]
  exact h.acks p hp

theorem Traffic.acked_bare (h : Traffic cfg s) (i : ι) (retries : Nat) :
    Traffic cfg (s.txDone cfg i (.acked retries [])) := by
  refine h.txDone fun retries' reply heq hne => ?_
  obtain ⟨-, rfl⟩ := TxOutcome.acked.inj heq
  exact absurd rfl hne

/-- **It holds after every step**, whatever is lost. -/
theorem Traffic.step (h : Traffic cfg s) (op : LinkOp ι) : Traffic cfg (linkStep cfg s op) := by
  cases op with
  | station i op => exact h.set ((h.station i).step op)
  | hear i =>
    unfold linkStep
    dsimp only
    cases hair : (s.station i).e.radio.state.onAir with
    | none => exact h
    | some q =>
      have hset : Traffic cfg (s.set i { s.station i with heard := some q }) :=
        h.set ⟨(h.station i).sound, (h.station i).no_disconnect, (h.station i).received⟩
      refine ⟨hset.station, fun p hp => ?_, hset.acks⟩
      rcases List.mem_append.1 hp with hold | hnew
      · exact h.heard p hold
      · rw [List.mem_singleton.1 hnew]
        exact (h.station i).no_disconnect q (Or.inr hair)
  | handle =>
    unfold linkStep
    dsimp only
    cases hfifo : s.rxFifo with
    | nil => exact h
    | cons p rest =>
      have hp := h.heard p (by rw [hfifo]; exact List.mem_cons_self)
      have hafter := h.onward (@onward_dongleOnPacket s.dongle p.1 p.2 hp)
      refine ⟨hafter.station, fun p' hp' => h.heard p' ?_, hafter.acks⟩
      rw [hfifo]
      exact List.mem_cons_of_mem p hp'
  | sent i => exact h.txDone (by simp)
  | exhausted i => exact h.txDone (by simp)
  | acked i retries withReply =>
    unfold linkStep
    dsimp only
    cases hair : (s.station i).e.radio.state.onAir with
    | none => exact h
    | some q =>
      dsimp only
      split
      · exact h
      · split
        · exact (h.acked i retries q.pipe).onward (onward_dropAck q.pipe)
        · exact h.acked_bare i retries
  | loseReply pipe => exact h.onward (onward_dropAck pipe)

/-- A slot starts with nothing received. -/
theorem received_start (cfg : Config) (deviceId : List UInt8) (saved : Option PairedRec) :
    (Endpoint.start cfg deviceId saved).radio.rxFifo = [] ∧
      (Endpoint.start cfg deviceId saved).tp.rxBuf = List.replicate cfg.esbMaxPayloadLength 0 := by
  unfold Endpoint.start esbTransportOnSlotStart esbInitAndConfigure
  dsimp only
  rw [Endpoint.mapTp_radio, Endpoint.mapTp_tp]
  constructor
  · split
    · unfold esbSetRfChannel
      rw [Endpoint.mapRadio_radio]
      split
      · rfl
      · split <;> rfl
    · rfl
  · split
    · split <;> rfl
    · split <;> rfl

omit [DecidableEq ι] in
theorem traffic_start (cfg : Config) (deviceId : ι → List UInt8) (saved : ι → Option PairedRec)
    (dongleId : List UInt8) : Traffic cfg (Link.start cfg deviceId saved dongleId) := by
  refine ⟨fun i => ⟨sound_of_start cfg _ _, ?_, ?_⟩, by simp [Link.start], by
    simp [Link.start, Dongle.start]⟩
  · intro q hq
    have hpath : (((Link.start cfg deviceId saved dongleId).station i).e.path cfg) = TxPath.start :=
      path_start cfg _ _
    rw [hpath] at hq
    exact absurd hq (by simp [TxPath.Has, TxPath.start])
  · obtain ⟨hfifo, hbuf⟩ := received_start cfg (deviceId i) (saved i)
    have hzero : ∀ n, (List.replicate n (0 : UInt8)).getD 0 0 = 0 := by
      intro n
      cases n <;> rfl
    refine ⟨?_, fun data hdata => ?_⟩
    · show Dongle.Answers _ ((Endpoint.start cfg (deviceId i) (saved i)).tp.rxBuf.getD 0 0)
      rw [hbuf, hzero]
      exact ⟨fun h => absurd h (by decide), fun h => absurd h (by decide), by decide⟩
    · have hmem : data ∈ (Endpoint.start cfg (deviceId i) (saved i)).radio.rxFifo := hdata
      rw [hfifo] at hmem
      exact absurd hmem List.not_mem_nil

end EsbEndpoint
