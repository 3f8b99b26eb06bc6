import EsbEndpoint.Hop.Burst

/-!
# Announcing idleness

`send_idle_packet` tells the dongle that the keyboard is idle, once
`esb_transport_flush_tx` has waited for a quiet radio. Whether it is idle
was tested before the wait, and a user packet sent in it wakes the endpoint
again: it is then announced as idle while active, and what the wait let
into the FIFO is flushed (`announcedIdle_of_uninterrupted`).

The work queue's thread sleeps in the wait; the other threads and the
radio's events go on.
-/

namespace EsbEndpoint

variable (cfg : Config)

/-! ## The wait -/

/-- `esb_transport_flush_tx`, waiting since `start`, goes on: the radio is
quiet, or it has waited long enough. -/
def flushReady (start : UInt32) (e : Endpoint) : Bool :=
  let sinceEvt :=
    if e.tp.lastTxEventMs == 0 then 4294967295 else elapsed e.tp.lastTxEventMs e.now
  cfg.flushQuietMs ≤ sinceEvt || cfg.flushForceMs ≤ elapsed start e.now

/-- The end of `post_hop_burst_work_fn` up to its `send_idle_packet`, and
whether it comes to it. -/
def postHopBurstTailBegin (e : Endpoint) : Endpoint × Bool :=
  let e := e.mapHop fun h => { h with postHopBurstRemaining := h.postHopBurstRemaining - 1 }
  if 0 < e.hop.postHopBurstRemaining then
    (e.mapHop fun h => { h with postHopBurstWork := some cfg.channelHopPostBurstIntervalMs }, false)
  else
    let e := e.mapHop fun h => { h with pendingCandidate := channelHopInvalid }
    (e, !e.hop.active)

/-- The sends of a tick, and whether it waits for its side-trip. -/
def postHopBurstSend (e : Endpoint) (candidate : UInt8) : Endpoint × Bool :=
  if cfg.rendezvous && sendOnRendezvous cfg e then
    match sendBlockingBegin cfg e e.tp.bootChannel esbPipeData
        [esbPktChannelHopProposal, e.tp.channel, e.tp.channel] with
    | (e, none) => (e, true)
    | (e, some _) => (e, false)
  else if candidate != channelHopInvalid && !e.hop.committedSynced then
    (sendProposal cfg e candidate, false)
  else (e, false)

/-- A step up to the wait of its `send_idle_packet`, and whether it comes
to it. -/
def idleBegin (s : HopTrace) : HopOp → HopTrace × Bool
  | .idleCheck => (hopStep cfg s .idleCheck, entersIdle s .idleCheck)
  | .postHopBurst =>
    if ticksBurst s (.step .postHopBurst) then
      if s.ticking.hop.postHopBurstRemaining == 0 then ({ s with e := s.ticking }, false)
      else
        let (e, waiting) := postHopBurstSend cfg (burstCandidate cfg s.ticking).1
          (burstCandidate cfg s.ticking).2
        if waiting then ({ s with e, workq := .sideTrip }, false)
        else
          ({ s with e := (postHopBurstTailBegin cfg e).1 }, (postHopBurstTailBegin cfg e).2)
    else (s, false)
  | .sideTripEnd =>
    if s.workq = .sideTrip then
      let (e, idles) := postHopBurstTailBegin cfg (sendBlockingEnd cfg s.e).1
      ({ s with e, workq := .free }, idles)
    else (s, false)
  | op => (hopStep cfg s op, false)

/-! ## Runs -/

/-- What the work queue's thread runs. -/
def HopOp.onWorkq : HopOp → Bool
  | .send _ _ | .txDone _ | .slotStart | .slotStop | .pairingStart | .pairingStop
  | .pairingUnpair | .tick _ => false
  | _ => true

/-- A user packet gets past what `esb_transport_send` drops: it is noted by
the hop manager. -/
def notesUser (s : HopTrace) : HopOp → Bool
  | .send _ data => isUserTraffic data && sendQueues cfg s.e data
  | _ => false

/-- And its number, if the radio takes it. -/
def acceptsUser (s : HopTrace) : HopOp → Option Nat
  | .send pipe data =>
    if notesUser cfg s (.send pipe data) && (esbTransportSend cfg s.e pipe data).2 == none then
      some s.e.radio.written
    else none
  | _ => none

inductive IdleOp
  | step (op : HopOp)
  /-- `send_idle_packet` goes on: the flush and the packet -/
  | announce

/-- A run, with when `send_idle_packet` began to wait, if it does, and what
has come since: whether a user packet was noted, and the numbers of those
taken. -/
structure IdleTrace where
  s : HopTrace
  waiting : Option UInt32 := none
  interrupted : Bool := false
  accepted : List Nat := []

def idleStep (t : IdleTrace) : IdleOp → IdleTrace
  | .step op =>
    if t.waiting.isSome then
      if op.onWorkq then t
      else
        { t with
          s := hopStep cfg t.s op
          interrupted := t.interrupted || notesUser cfg t.s op
          accepted := t.accepted ++ (acceptsUser cfg t.s op).toList }
    else
      { s := (idleBegin cfg t.s op).1
        waiting := if (idleBegin cfg t.s op).2 then some t.s.e.now else none }
  | .announce =>
    match t.waiting with
    | none => t
    | some start =>
      if flushReady cfg start t.s.e then { s := { t.s with e := sendIdlePacket cfg t.s.e } } else t

/-- `ESB_PKT_IDLE` is handed to `esb_transport_send`. -/
def announces (t : IdleTrace) : IdleOp → Bool
  | .announce =>
    match t.waiting with
    | none => false
    | some start => flushReady cfg start t.s.e
  | .step _ => false

/-- What the flush before it drops: all that is queued and not on the
air. -/
def dropped (e : Endpoint) : List Queued :=
  if e.radio.initialized then e.radio.txFifo.filter fun q => e.radio.state.onAir != some q else []

/-- **Idleness is announced while idle**, and no user packet taken since
the decision is dropped for it. -/
def AnnouncedIdle (t : IdleTrace) (op : IdleOp) : Prop :=
  announces cfg t op = true →
    t.s.e.hop.active = false ∧ ∀ q ∈ dropped t.s.e, q.serial ∉ t.accepted

instance (t : IdleTrace) (op : IdleOp) : Decidable (AnnouncedIdle cfg t op) :=
  inferInstanceAs (Decidable (_ → _ ∧ ∀ q ∈ dropped t.s.e, _))

/-- The condition: no user packet has been noted in the wait. -/
def Uninterrupted (t : IdleTrace) (op : IdleOp) : Prop :=
  announces cfg t op = true → t.interrupted = false

instance (t : IdleTrace) (op : IdleOp) : Decidable (Uninterrupted cfg t op) :=
  inferInstanceAs (Decidable (_ → _))

/-- The link is up when it is announced. -/
def AnnouncedUp (t : IdleTrace) (op : IdleOp) : Prop :=
  announces cfg t op = true → t.s.e.hop.linkUp = true

variable {cfg} {s : HopTrace} {t : IdleTrace} {e : Endpoint} {h h' : HopEp} {now : UInt32}

/-! ## The steps in halves -/

theorem postHopBurstTail_eq :
    postHopBurstTail cfg e =
      if (postHopBurstTailBegin cfg e).2 then sendIdlePacket cfg (postHopBurstTailBegin cfg e).1
      else (postHopBurstTailBegin cfg e).1 := by
  simp only [postHopBurstTail, postHopBurstTailBegin]
  split <;> rfl

theorem postHopBurstTick_eq (candidate : UInt8) :
    postHopBurstTick cfg e candidate =
      if (postHopBurstSend cfg e candidate).2 then ((postHopBurstSend cfg e candidate).1, true)
      else (postHopBurstTail cfg (postHopBurstSend cfg e candidate).1, false) := by
  unfold postHopBurstTick postHopBurstSend
  split
  · generalize sendBlockingBegin cfg e e.tp.bootChannel esbPipeData
      [esbPktChannelHopProposal, e.tp.channel, e.tp.channel] = begun
    obtain ⟨e', err⟩ := begun
    cases err <;> rfl
  · split <;> rfl

/-- **A burst's step is its first half**, with the packet at once where it
comes to one. -/
theorem hopStep_eq_idleBegin {op : HopOp} (hcheck : op ≠ .idleCheck) :
    hopStep cfg s op =
      if (idleBegin cfg s op).2 then
        { (idleBegin cfg s op).1 with e := sendIdlePacket cfg (idleBegin cfg s op).1.e }
      else (idleBegin cfg s op).1 := by
  cases op with
  | idleCheck => exact absurd rfl hcheck
  | postHopBurst =>
    have hrun : ticksBurst s (.step .postHopBurst) = true ↔
        s.workq = .free ∧ s.e.hop.postHopBurstWork.isSome = true := by
      simp only [ticksBurst, beq_self_eq_true, Bool.true_and, Bool.and_eq_true, beq_iff_eq]
    simp only [hopStep, HopTrace.fire, idleBegin]
    by_cases htick : ticksBurst s (.step .postHopBurst) = true
    · have hfree := (hrun.1 htick).1
      rw [if_pos (hrun.1 htick), if_pos htick]
      change { s with
        e := (postHopBurstWorkFn cfg s.ticking).1
        workq := if (postHopBurstWorkFn cfg s.ticking).2 then .sideTrip else .free } = _
      unfold postHopBurstWorkFn
      split
      · exact congrArg (fun workq => { s with e := s.ticking, workq }) hfree.symm
      · rw [postHopBurstTick_eq, postHopBurstTail_eq]
        obtain ⟨e', waiting⟩ := postHopBurstSend cfg (burstCandidate cfg s.ticking).1
          (burstCandidate cfg s.ticking).2
        cases waiting with
        | true => rfl
        | false =>
          simp only [Bool.false_eq_true, if_false, ← hfree]
          split <;> rfl
    · rw [if_neg (mt hrun.2 htick), if_neg htick]
      rfl
  | sideTripEnd =>
    simp only [hopStep, idleBegin]
    split
    · simp only [postHopBurstResume, postHopBurstTail_eq]
      split <;> rfl
    · rfl
  | _ => rfl

/-- And so is going idle. -/
theorem idleCheckWorkFn_eq_idleBegin (hidle : entersIdle s .idleCheck = true) :
    idleCheckWorkFn cfg (s.e.mapHop fun h => { h with idleCheckWork := none }) =
      sendIdlePacket cfg (idleBegin cfg s .idleCheck).1.e := by
  simp only [entersIdle, Bool.and_eq_true, beq_iff_eq, true_and] at hidle
  obtain ⟨⟨⟨hfree, hdue⟩, hlink⟩, hactive⟩ := hidle
  exact (idleCheckWorkFn_eq_run hfree hdue hlink hactive).symm

/-! ## Sends -/

/-- **What a send leaves in the hop manager**, exactly. -/
theorem hop_send (pipe : Nat) (data : List UInt8) :
    (esbTransportSend cfg e pipe data).1.hop =
      if sendQueues cfg e data then noteHop cfg data e.hop else e.hop := by
  have hclear : (endQuietWindow cfg (jitterRetransmitDelay cfg (noteHanded e pipe data))).hop =
      e.hop := congrArg Prod.fst (beyond_endQuietWindow cfg _)
  cases hq : sendQueues cfg e data with
  | true =>
    rw [esbTransportSend_of_queues cfg e hq, if_pos rfl]
    refine (congrArg Prod.fst (beyond_sendQueued cfg _ pipe data)).trans ?_
    dsimp only
    congr 1
    split <;> exact hclear
  | false =>
    rw [if_neg Bool.false_ne_true]
    obtain ⟨e', hsend, rfl | rfl | rfl⟩ := @esbTransportSend_of_not_queues cfg e pipe data hq
    · rw [hsend]
      rfl
    · rw [hsend]
      rfl
    · rw [hsend]
      exact hclear

/-- User traffic wakes an endpoint whose link is up. -/
theorem active_noteUserTx (hhop : cfg.channelHop = true) (hlink : h.linkUp = true) :
    (channelHopEpNoteUserTx cfg h).active = true := by
  unfold channelHopEpNoteUserTx enterActiveState
  rw [hhop, Bool.not_true, if_neg Bool.false_ne_true, hlink, Bool.not_true,
    if_neg Bool.false_ne_true]
  dsimp only
  split
  · rename_i hactive
    exact hactive
  · rfl

/-! ## Steps of the others -/

/-- The end of a transmission neither wakes the endpoint nor moves its
link. -/
theorem awake_onTxDone {outcome : TxOutcome} (hdone : OnTxDone cfg e outcome h') :
    h'.active = e.hop.active ∧ h'.linkUp = e.hop.linkUp := by
  refine hdone.keeps (P := fun h => h.active = e.hop.active ∧ h.linkUp = e.hop.linkUp)
    (fun h hkept => ?_) (fun h hkept => ?_) (fun h hkept => ?_) ⟨rfl, rfl⟩
  · rcases @onTxSuccessIsr_cases cfg e.now h with hs | ⟨tag, state, work, -, hs⟩
    · rw [hs]
      exact hkept
    · rw [hs]
      exact hkept
  · rcases @onLinkDegradedIsr_cases cfg e.now h with hs | ⟨-, -, -, -, hs⟩
    · rw [hs]
      exact hkept
    · rw [hs]
      exact hkept
  · have hfail := @onTxFail_onTxFailIsr cfg e.now h
    generalize channelHopEpOnTxFailIsr cfg e.now h = h' at hfail ⊢
    cases hfail <;> exact hkept

/-- A disconnect leaves the endpoint idle on a link that is down. -/
theorem awake_onDisconnected :
    (channelHopEpOnDisconnected cfg h).active = h.active ∧
        (channelHopEpOnDisconnected cfg h).linkUp = h.linkUp ∨
      (channelHopEpOnDisconnected cfg h).active = false ∧
        (channelHopEpOnDisconnected cfg h).linkUp = false := by
  unfold channelHopEpOnDisconnected
  split
  · exact Or.inl ⟨rfl, rfl⟩
  · simp only []
    split <;> exact Or.inr ⟨rfl, rfl⟩

/-- **What the others can do in the wait**: note user traffic, end the
link, or neither. -/
theorem offWorkq_cases {op : HopOp} (hoff : op.onWorkq = false) :
    notesUser cfg s op = true ∧
        (hopStep cfg s op).e.hop =
          (if cfg.channelHop then channelHopEpNoteUserTx cfg s.e.hop else s.e.hop) ∨
      notesUser cfg s op = false ∧ acceptsUser cfg s op = none ∧
        ((hopStep cfg s op).e.hop.active = s.e.hop.active ∧
            (hopStep cfg s op).e.hop.linkUp = s.e.hop.linkUp ∨
          (hopStep cfg s op).e.hop.active = false ∧ (hopStep cfg s op).e.hop.linkUp = false) := by
  cases op with
  | send pipe data =>
    have hsend := @hop_send cfg s.e pipe data
    cases hnotes : notesUser cfg s (.send pipe data) with
    | true =>
      have hboth := hnotes
      rw [notesUser, Bool.and_eq_true] at hboth
      refine Or.inl ⟨rfl, ?_⟩
      rw [hopStep, hsend, hboth.2, if_pos rfl, noteHop, hboth.1, Bool.and_true]
    | false =>
      have hneither := hnotes
      rw [notesUser, Bool.and_eq_false_iff] at hneither
      have hsame : (hopStep cfg s (.send pipe data)).e.hop = s.e.hop := by
        rw [hopStep, hsend]
        rcases hneither with huser | hqueues
        · rw [noteHop, huser, Bool.and_false, if_neg Bool.false_ne_true, ite_self]
        · rw [hqueues, if_neg Bool.false_ne_true]
      refine Or.inr ⟨rfl, ?_, Or.inl (by rw [hsame]; exact ⟨rfl, rfl⟩)⟩
      rw [acceptsUser, hnotes, Bool.false_and, if_neg Bool.false_ne_true]
  | txDone outcome =>
    exact Or.inr ⟨rfl, rfl, Or.inl (awake_onTxDone (onTxDone_txDone outcome))⟩
  | slotStart =>
    rw [hopStep, hop_esbTransportOnSlotStart]
    exact Or.inr ⟨rfl, rfl, Or.inl ⟨rfl, rfl⟩⟩
  | pairingStop =>
    rw [hopStep, pairingStop, hop_notifyDisconnected]
    exact Or.inr ⟨rfl, rfl, awake_onDisconnected⟩
  | slotStop | pairingStart | pairingUnpair | tick => exact Or.inr ⟨rfl, rfl, Or.inl ⟨rfl, rfl⟩⟩
  | _ => exact Bool.noConfusion hoff

/-! ## The wait -/

variable (cfg) in
/-- **What is so of a wait.** The endpoint went idle before it; as long as
no user packet is noted it stays so, and once one is, it is active for as
long as its link stays up. -/
structure Waits (t : IdleTrace) : Prop where
  quiet : t.waiting.isSome = true → t.interrupted = false →
    t.s.e.hop.active = false ∧ t.accepted = []
  woken : cfg.channelHop = true → t.waiting.isSome = true → t.interrupted = true →
    t.s.e.hop.linkUp = true → t.s.e.hop.active = true

/-- A wait begins with the endpoint idle. -/
theorem active_of_idleBegin {op : HopOp} (hbegins : (idleBegin cfg s op).2 = true) :
    (idleBegin cfg s op).1.e.hop.active = false := by
  have htail : ∀ e' : Endpoint, (postHopBurstTailBegin cfg e').2 = true →
      (postHopBurstTailBegin cfg e').1.hop.active = false := by
    intro e'
    simp only [postHopBurstTailBegin]
    split
    · exact fun hf => Bool.noConfusion hf
    · intro hidle
      rw [Bool.not_eq_true'] at hidle
      exact hidle
  cases op with
  | idleCheck =>
    have hidle : entersIdle s .idleCheck = true := hbegins
    simp only [entersIdle, Bool.and_eq_true, beq_iff_eq, true_and] at hidle
    obtain ⟨⟨⟨hfree, hdue⟩, hlink⟩, hactive⟩ := hidle
    simp only [idleBegin, hopStep, HopTrace.fire, hfree, hdue, and_self, if_true, idleCheckBegin,
      hlink, hactive, Bool.and_self, Endpoint.mapHop_hop, enterIdleBegin]
    split <;> rfl
  | postHopBurst =>
    simp only [idleBegin] at hbegins ⊢
    split at hbegins
    · rename_i htick
      rw [if_pos htick]
      split at hbegins
      · exact Bool.noConfusion hbegins
      · rename_i hleft
        rw [if_neg hleft]
        split at hbegins
        · exact Bool.noConfusion hbegins
        · rename_i hwaits
          rw [if_neg hwaits]
          exact htail _ hbegins
    · exact Bool.noConfusion hbegins
  | sideTripEnd =>
    simp only [idleBegin] at hbegins ⊢
    split at hbegins
    · rename_i htrip
      rw [if_pos htrip]
      exact htail _ hbegins
    · exact Bool.noConfusion hbegins
  | _ => exact Bool.noConfusion hbegins

/-- **A step keeps what is so of a wait.** -/
theorem Waits.step (hw : Waits cfg t) (op : IdleOp) : Waits cfg (idleStep cfg t op) := by
  have hover : ∀ t' : IdleTrace, t'.waiting = none → Waits cfg t' := by
    intro t' hnone
    have hno : ¬t'.waiting.isSome = true := by simp [hnone]
    exact ⟨fun hsome => absurd hsome hno, fun _ hsome => absurd hsome hno⟩
  cases op with
  | announce =>
    simp only [idleStep]
    split
    · exact hw
    · split
      · exact hover _ rfl
      · exact hw
  | step op =>
    simp only [idleStep]
    split
    · rename_i hwaits
      split
      · exact hw
      · rename_i hoff
        rw [Bool.not_eq_true] at hoff
        rcases @offWorkq_cases cfg t.s op hoff with ⟨hnotes, hs⟩ | ⟨hnotes, haccepts, hs⟩
        · -- a user packet wakes the endpoint
          refine ⟨fun _ hno => ?_, fun hhop _ _ hlink => ?_⟩
          · rw [hnotes, Bool.or_true] at hno
            exact Bool.noConfusion hno
          · dsimp only at hlink ⊢
            rw [hs, if_pos hhop] at hlink ⊢
            rw [linkUp_noteUserTx] at hlink
            exact active_noteUserTx hhop hlink
        · refine ⟨fun _ hno => ?_, fun hhop _ hyes hlink => ?_⟩
          · rw [hnotes, Bool.or_false] at hno
            obtain ⟨hidle, hnone⟩ := hw.quiet hwaits hno
            dsimp only
            rw [haccepts, hnone]
            refine ⟨?_, rfl⟩
            rcases hs with ⟨hactive, -⟩ | ⟨hactive, -⟩
            · exact hactive.trans hidle
            · exact hactive
          · rw [hnotes, Bool.or_false] at hyes
            dsimp only at hlink ⊢
            rcases hs with ⟨hactive, hsame⟩ | ⟨-, hdown⟩
            · exact hactive.trans (hw.woken hhop hwaits hyes (hsame.symm.trans hlink))
            · exact Bool.noConfusion (hdown.symm.trans hlink)
    · refine ⟨fun hsome _ => ⟨?_, rfl⟩, fun _ _ hyes => Bool.noConfusion hyes⟩
      dsimp only at hsome ⊢
      split at hsome
      · rename_i hbegins
        exact active_of_idleBegin hbegins
      · exact Bool.noConfusion hsome

theorem waiting_of_announces {op : IdleOp} (hann : announces cfg t op = true) :
    t.waiting.isSome = true := by
  unfold announces at hann
  split at hann
  · split at hann
    · exact Bool.noConfusion hann
    · rename_i hstart
      rw [hstart]
      rfl
  · exact Bool.noConfusion hann

/-- **In an uninterrupted wait the announcement is true.** -/
theorem Waits.announcedIdle (hw : Waits cfg t) {op : IdleOp} (hunint : Uninterrupted cfg t op) :
    AnnouncedIdle cfg t op := by
  intro hann
  obtain ⟨hidle, hnone⟩ := hw.quiet (waiting_of_announces hann) (hunint hann)
  refine ⟨hidle, fun q _ => ?_⟩
  rw [hnone]
  exact List.not_mem_nil

/-- **And on a link that is up, only there.** -/
theorem Waits.uninterrupted (hw : Waits cfg t) (hhop : cfg.channelHop = true) {op : IdleOp}
    (hup : AnnouncedUp cfg t op) (hidle : AnnouncedIdle cfg t op) : Uninterrupted cfg t op := by
  intro hann
  rw [Bool.eq_false_iff]
  intro hyes
  have hactive := hw.woken hhop (waiting_of_announces hann) hyes (hup hann)
  exact Bool.noConfusion (hactive.symm.trans (hidle hann).1)

/-- **Idleness is announced while idle in every run whose waits are
uninterrupted**, and, where the link is up when it is announced, in no
other. -/
theorem announcedIdle_of_uninterrupted (cfg : Config) (s : HopTrace) (ops : List IdleOp) :
    (Guarded (idleStep cfg) (Uninterrupted cfg) { s } ops →
      Guarded (idleStep cfg) (AnnouncedIdle cfg) { s } ops) ∧
    (cfg.channelHop = true → Guarded (idleStep cfg) (AnnouncedUp cfg) { s } ops →
      Guarded (idleStep cfg) (AnnouncedIdle cfg) { s } ops →
        Guarded (idleStep cfg) (Uninterrupted cfg) { s } ops) := by
  have hstart : Waits cfg { s } :=
    ⟨fun hsome => Bool.noConfusion hsome, fun _ hsome => Bool.noConfusion hsome⟩
  refine ⟨fun hunint => ?_, fun hhop hup hidle => ?_⟩
  · exact hunint.of_invariant (fun _ op hw _ => hw.step op)
      (fun _ _ hw hunint => hw.announcedIdle hunint) hstart
  · exact (hup.and hidle).of_invariant (fun _ op hw _ => hw.step op)
      (fun _ _ hw hboth => hw.uninterrupted hhop hboth.1 hboth.2) hstart

/-- A key is pressed only after the announcement. -/
theorem announcedIdle_of_uninterrupted_before :
    Guarded (idleStep .default) (AnnouncedIdle .default)
      { s := HopTrace.start .default [] none }
      [.step (.tick 5), .step .pairingStart, .step (.rx [esbPktPairReq, 1, 2, 3, 4, 5, 6] 7),
        .step (.txDone (.acked 0 [])), .step .idleCheck, .step (.tick 2), .announce,
        .step (.send esbPipeData [esbPktHidReport, 1, 0, 0, 4, 0, 0, 0, 0, 0])] :=
  (announcedIdle_of_uninterrupted .default _ _).1 (by decide +kernel)

/-- A key pressed and released in the wait, within 2 ms of the last event:
the endpoint is active again when its idleness is announced, and the
release is dropped. -/
theorem not_announcedIdle : ¬ ∀ (cfg : Config) (s : HopTrace) (ops : List IdleOp),
    Guarded (idleStep cfg) (AnnouncedIdle cfg) { s } ops := by
  intro h
  have hrun := h .default (HopTrace.start .default [] none)
    [.step (.tick 5), .step .pairingStart, .step (.rx [esbPktPairReq, 1, 2, 3, 4, 5, 6] 7),
      .step (.txDone (.acked 0 [])), .step .idleCheck,
      .step (.send esbPipeData [esbPktHidReport, 1, 0, 0, 4, 0, 0, 0, 0, 0]),
      .step (.send esbPipeData [esbPktHidReport, 1, 0, 0, 0, 0, 0, 0, 0, 0]), .step (.tick 2),
      .announce]
  exact absurd hrun (by decide +kernel)

end EsbEndpoint
