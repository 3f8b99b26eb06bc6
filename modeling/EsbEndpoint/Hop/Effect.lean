import EsbEndpoint.Hop.Work
import EsbEndpoint.Pairing.Effect
import EsbEndpoint.Transport.Slot

/-!
# What the hop manager is left with

Most of what an entry point of the manager tests does not matter to what
it may leave: `OnTxFail` and the lemmas beside it say the latter. The
transport passes most of what happens by the manager; what it does not
pass by is listed next: the end of a transmission (`OnTxDone`), and what
the work items that only send leave.
-/

namespace EsbEndpoint

variable {cfg : Config} {e : Endpoint}

/-! ## The entry points -/

section Entry

variable (cfg) (now : UInt32) (h : HopEp)

/-- What `channel_hop_ep_on_tx_fail_isr` leaves: the tag is spent, and a
hop may be asked for, in the cooldown as a fallback only. -/
inductive OnTxFail : HopEp → Prop
  | noted (lastTxWasOffer : Bool) (coopHopState : CoopHopState)
      (hstate : coopHopState = h.coopHopState ∨ coopHopState = .idle) :
      OnTxFail { h with lastTxWasOffer, coopHopState }
  | asked (lastTxWasOffer : Bool) (hactive : h.active = true)
      (hcool : hopCooldownActive now h = false) :
      OnTxFail { h with lastTxWasOffer, hopWork := true }
  | fellBack (lastTxWasOffer : Bool) (hactive : h.active = true) (hrdv : cfg.rendezvous = true) :
      OnTxFail { h with lastTxWasOffer, rendezvousFallbackPending := true, hopWork := true }

variable {cfg now h}

theorem onOfferFailed_cases :
    (∃ lastTxWasOffer, onOfferFailed cfg h = ({ h with lastTxWasOffer }, false)) ∨
      onOfferFailed cfg h = ({ h with lastTxWasOffer := false, coopHopState := .idle }, true) := by
  simp only [onOfferFailed]
  split
  · split
    · exact Or.inr rfl
    · exact Or.inl ⟨false, rfl⟩
  · exact Or.inl ⟨h.lastTxWasOffer, rfl⟩

theorem onTxFail_onTxFailIsr : OnTxFail cfg now h (channelHopEpOnTxFailIsr cfg now h) := by
  unfold channelHopEpOnTxFailIsr
  split
  · exact OnTxFail.noted h.lastTxWasOffer h.coopHopState (Or.inl rfl)
  · rcases @onOfferFailed_cases cfg h with ⟨tag, hoffer⟩ | hoffer
    · rw [hoffer]
      simp only [Bool.false_eq_true, if_false]
      split
      · exact OnTxFail.noted tag h.coopHopState (Or.inl rfl)
      · rename_i hactive
        rw [Bool.not_eq_true', Bool.not_eq_false] at hactive
        split
        · split
          · rename_i hfallback
            simp only [Bool.and_eq_true] at hfallback
            exact OnTxFail.fellBack tag hactive hfallback.1.1.1.1
          · exact OnTxFail.noted tag h.coopHopState (Or.inl rfl)
        · rename_i hcool
          exact OnTxFail.asked tag hactive (Bool.not_eq_true _ ▸ hcool)
    · rw [hoffer]
      exact OnTxFail.noted false .idle (Or.inr rfl)

/-- A success may arm the offer that is out. -/
theorem onTxSuccessIsr_cases :
    channelHopEpOnTxSuccessIsr cfg now h = h ∨
      ∃ lastTxWasOffer coopHopState coopHopCommitWork,
        (coopHopState = h.coopHopState ∨
          h.coopHopState = .offered ∧ coopHopState = .armed) ∧
        channelHopEpOnTxSuccessIsr cfg now h =
          { h with
            lastTxWasOffer, coopHopState, coopHopCommitWork
            prevChannel := channelHopInvalid
            lastLinkEventMs := stampOf now } := by
  unfold channelHopEpOnTxSuccessIsr
  split
  · exact Or.inl rfl
  · refine Or.inr ?_
    simp only [onOfferAcked]
    split
    · split
      · rename_i hoffered
        exact ⟨_, _, _, Or.inr ⟨beq_iff_eq.1 hoffered, rfl⟩, rfl⟩
      · exact ⟨_, _, _, Or.inl rfl, rfl⟩
    · exact ⟨_, _, _, Or.inl rfl, rfl⟩

/-- A degraded link opens a handshake, on an active link and outside any
cooldown. -/
theorem onLinkDegradedIsr_cases :
    channelHopEpOnLinkDegradedIsr cfg now h = h ∨
      cfg.coopHop = true ∧ h.linkUp = true ∧ h.active = true ∧ h.coopHopState = .idle ∧
        channelHopEpOnLinkDegradedIsr cfg now h =
          { h with coopHopState := .offered, coopHopOfferWork := some 0 } := by
  unfold channelHopEpOnLinkDegradedIsr
  split
  · exact Or.inl rfl
  · rename_i hcoop
    split
    · exact Or.inl rfl
    · rename_i hup
      split
      · exact Or.inl rfl
      · rename_i hidle
        split
        · exact Or.inl rfl
        · simp only [Bool.not_eq_true, Bool.or_eq_false_iff, Bool.not_eq_false'] at hcoop hup
          rw [bne_iff_ne, not_not] at hidle
          exact Or.inr ⟨hcoop, hup.1, hup.2, hidle, rfl⟩

/-- User traffic wakes an endpoint whose link is up. -/
theorem noteUserTx_cases :
    channelHopEpNoteUserTx cfg h = h ∨
      h.linkUp = true ∧ ∃ negotiateWork, channelHopEpNoteUserTx cfg h =
        { h with
          active := true
          idleCheckWork := some cfg.idleThresholdMs
          negotiateWork } := by
  unfold channelHopEpNoteUserTx
  split
  · exact Or.inl rfl
  · split
    · exact Or.inl rfl
    · rename_i hlink
      rw [Bool.not_eq_true', Bool.not_eq_false] at hlink
      refine Or.inr ⟨hlink, ?_⟩
      simp only [enterActiveState]
      split
      · rename_i hactive
        refine ⟨h.negotiateWork, ?_⟩
        rw [← show h.active = true from hactive]
      · exact ⟨_, rfl⟩

theorem linkUp_noteUserTx : (channelHopEpNoteUserTx cfg h).linkUp = h.linkUp := by
  rcases @noteUserTx_cases cfg h with hkept | ⟨-, work, hwoken⟩
  · rw [hkept]
  · rw [hwoken]

/-- A connection does so as well, and marks the link up. -/
theorem onConnected_cases (hhop : cfg.channelHop = true) : ∃ negotiateWork,
    channelHopEpOnConnected cfg h =
      { h with
        linkUp := true
        active := true
        idleCheckWork := some cfg.idleThresholdMs
        negotiateWork } := by
  unfold channelHopEpOnConnected
  rw [hhop, Bool.not_true, if_neg Bool.false_ne_true]
  simp only [enterActiveState]
  split
  · rename_i hactive
    refine ⟨h.negotiateWork, ?_⟩
    rw [← show h.active = true from hactive]
  · exact ⟨_, rfl⟩

/-- An answer of the dongle moves what is agreed on. -/
theorem onRx_cases (buf : List UInt8) (len : Nat) :
    ∃ coopHopTarget committedNext committedSynced requestBurstRemaining negotiateWork,
      channelHopEpOnRx cfg h buf len =
        { h with
          coopHopTarget, committedNext, committedSynced, requestBurstRemaining
          negotiateWork } := by
  have hkept : ∃ coopHopTarget committedNext committedSynced requestBurstRemaining negotiateWork,
      h = { h with
        coopHopTarget, committedNext, committedSynced, requestBurstRemaining, negotiateWork } :=
    ⟨_, _, _, _, _, rfl⟩
  have haccept : ∃ coopHopTarget, onHopAccept h buf len = { h with coopHopTarget } := by
    unfold onHopAccept
    split
    · exact ⟨_, rfl⟩
    · split
      · exact ⟨_, rfl⟩
      · split
        · exact ⟨_, rfl⟩
        · split <;> exact ⟨_, rfl⟩
  unfold channelHopEpOnRx
  split
  · exact hkept
  · split
    · exact hkept
    · split
      · obtain ⟨target, hmoved⟩ := haccept
        rw [hmoved]
        exact ⟨_, _, _, _, _, rfl⟩
      · split
        · exact hkept
        · split
          · exact hkept
          · split
            · exact hkept
            · exact ⟨_, _, _, _, _, rfl⟩

/-- A `REQUEST` is a failure on a link that is up. -/
theorem onRequest_cases :
    channelHopEpOnRequest cfg now h = h ∨
      h.linkUp = true ∧ ∃ requestBurstRemaining committedSynced negotiateWork,
        channelHopEpOnRequest cfg now h = channelHopEpOnTxFailIsr cfg now
          { h with requestBurstRemaining, committedSynced, negotiateWork } := by
  unfold channelHopEpOnRequest
  split
  · exact Or.inl rfl
  · split
    · exact Or.inl rfl
    · rename_i hlink
      rw [Bool.not_eq_true', Bool.not_eq_false] at hlink
      exact Or.inr ⟨hlink, _, _, _, rfl⟩

/-- A hop that is made starts a cooldown and a burst, and forgets what was
agreed on. -/
theorem commitHop_cases : ∃ postHopBurstRemaining pendingCandidate postHopBurstWork,
    commitHop cfg now h =
      { h with
        postHopBurstRemaining, pendingCandidate, postHopBurstWork
        committedNext := channelHopInvalid
        committedSynced := false
        hopCooldownUntil := now + UInt32.ofNat cfg.channelHopCooldownMs
        lastLinkEventMs := stampOf now
        negotiateWork := some cfg.channelHopNegotiateRetryMs } := by
  simp only [commitHop, startPostHopBurst]
  split <;> exact ⟨_, _, _, rfl⟩

/-- Whatever its kind. -/
theorem onHopped_cases (kind : HopKind) (current target : UInt8) :
    ∃ quarantine prevChannel postHopBurstRemaining pendingCandidate postHopBurstWork,
      onHopped cfg now kind current target h =
        { h with
          quarantine, prevChannel, postHopBurstRemaining, pendingCandidate, postHopBurstWork
          committedNext := channelHopInvalid
          committedSynced := false
          hopCooldownUntil := now + UInt32.ofNat cfg.channelHopCooldownMs
          lastLinkEventMs := stampOf now
          negotiateWork := some cfg.channelHopNegotiateRetryMs } := by
  cases kind with
  | fallback =>
    obtain ⟨_, _, _, hcommit⟩ := @commitHop_cases cfg now
      { h with quarantine := setExpiry h.quarantine target 0, prevChannel := channelHopInvalid }
    exact ⟨_, _, _, _, _, hcommit⟩
  | revert =>
    simp only [onHopped, commitHopBookkeeping]
    obtain ⟨_, _, _, hcommit⟩ := @commitHop_cases cfg now
      { h with
        prevChannel := channelHopInvalid
        quarantine := quarantineAdd (setExpiry h.quarantine target 0) now current
          (UInt32.ofNat cfg.channelQuarantineMs) }
    exact ⟨_, _, _, _, _, hcommit⟩
  | normal =>
    simp only [onHopped, commitHopBookkeeping]
    obtain ⟨_, _, _, hcommit⟩ := @commitHop_cases cfg now
      { h with
        prevChannel := current
        quarantine := quarantineAdd h.quarantine now current
          (UInt32.ofNat cfg.channelQuarantineMs) }
    exact ⟨_, _, _, _, _, hcommit⟩

end Entry

/-! ## The transport -/

@[simp] theorem hop_esbFlushTxAndReset : (esbFlushTxAndReset cfg e).hop = e.hop := rfl

@[simp] theorem hop_finishMotion (failed : Bool) : (finishMotion cfg e failed).hop = e.hop := by
  simp only [finishMotion]
  split <;> rfl

@[simp] theorem hop_finishCritical : (finishCritical cfg e).hop = e.hop := by
  simp only [finishCritical]
  split
  · rfl
  · split <;> rfl

@[simp] theorem hop_esbTransportSetChannel (channel : UInt8) :
    (esbTransportSetChannel cfg e channel).1.hop = e.hop := by
  rw [esbTransportSetChannel]
  split
  · rfl
  · simp only []
    split <;> rfl

theorem hop_esbTransportOnSlotStart : (esbTransportOnSlotStart cfg e).hop = e.hop := by
  simp only [esbTransportOnSlotStart, esbInitAndConfigure, Endpoint.mapTp_hop]
  split <;> rfl

theorem hop_sendBlockingBegin (channel : UInt8) (pipe : Nat) (data : List UInt8) :
    (sendBlockingBegin cfg e channel pipe data).1.hop = e.hop := by
  simp only [sendBlockingBegin]
  split
  · rfl
  · split
    · rfl
    · split
      · rfl
      · split
        · rfl
        · split <;> rfl

theorem hop_sendBlockingEnd : (sendBlockingEnd cfg e).1.hop = e.hop := by
  simp only [sendBlockingEnd]
  split <;> rfl

/-! ## Radio events -/

variable (cfg e)

/-- The fail-window trigger goes off, with this failure counted. -/
def failWindowTrips : Bool :=
  e.tp.consecutiveTxFail != 1 && (e.tp.firstFailMs != 0 &&
    cfg.channelHopTxFailWindowMs ≤ elapsed e.tp.firstFailMs e.now)

/-- And the weak-link trigger. -/
def weakLinkTrips : Bool :=
  0 < cfg.channelHopWeakLinkMs && e.tp.lastTxSuccessMs != 0 &&
    cfg.channelHopWeakLinkMs ≤ elapsed e.tp.lastTxSuccessMs e.now

/-- A `TX_FAILED` makes the fail-window branch call
`channel_hop_ep_on_tx_fail_isr`. -/
def failWindowCalls : Bool :=
  failWindowTrips cfg (e.mapTp fun tp => { tp with consecutiveTxFail := tp.consecutiveTxFail + 1 })

/-- How often it reaches the hop manager. -/
def failHooks : Nat := (failWindowCalls cfg e).toNat + (weakLinkTrips cfg e).toNat

/-- The side-trip that takes an event for itself. -/
def syncing : Bool := cfg.rendezvous && e.tp.syncTxInProgress

/-- What the end of a transmission leaves in the hop manager. -/
inductive OnTxDone (outcome : TxOutcome) : HopEp → Prop
  /-- nothing ends, or a side-trip takes the event -/
  | kept (h : canEnd cfg e outcome = false ∨ syncing cfg e = true ∨ cfg.channelHop = false) :
      OnTxDone outcome e.hop
  | acked (hend : canEnd cfg e outcome = true) (hout : outcome ≠ .exhausted)
      (hsync : syncing cfg e = false) :
      OnTxDone outcome (channelHopEpOnTxSuccessIsr cfg e.now e.hop)
  | degraded (hend : canEnd cfg e outcome = true) (hout : outcome ≠ .exhausted)
      (hsync : syncing cfg e = false) :
      OnTxDone outcome
        (channelHopEpOnLinkDegradedIsr cfg e.now (channelHopEpOnTxSuccessIsr cfg e.now e.hop))
  | failed (hend : canEnd cfg e .exhausted = true) (hout : outcome = .exhausted)
      (hsync : syncing cfg e = false) :
      OnTxDone outcome ((channelHopEpOnTxFailIsr cfg e.now)^[failHooks cfg e] e.hop)

variable {cfg e}

theorem hop_checkFailWindow :
    (checkFailWindow cfg e).hop =
      (channelHopEpOnTxFailIsr cfg e.now)^[(failWindowTrips cfg e).toNat] e.hop := by
  unfold checkFailWindow failWindowTrips
  split
  · rename_i hfirst
    rw [beq_iff_eq] at hfirst
    rw [hfirst, bne_self_eq_false, Bool.false_and]
    rfl
  · rename_i hfirst
    have hne : (e.tp.consecutiveTxFail != 1) = true := by
      rw [bne_iff_ne]
      exact fun heq => hfirst (beq_iff_eq.2 heq)
    rw [hne, Bool.true_and]
    split
    · rename_i htrips
      rw [htrips]
      rfl
    · rename_i htrips
      rw [Bool.not_eq_true] at htrips
      rw [htrips]
      rfl

theorem hop_checkWeakLink :
    (checkWeakLink cfg e).hop =
      (channelHopEpOnTxFailIsr cfg e.now)^[(weakLinkTrips cfg e).toNat] e.hop := by
  unfold checkWeakLink
  split
  · rename_i htrips
    rw [show weakLinkTrips cfg e = true from htrips]
    rfl
  · rename_i htrips
    rw [Bool.not_eq_true] at htrips
    rw [show weakLinkTrips cfg e = false from htrips]
    rfl

/-- The first trigger leaves alone what the second reads. -/
theorem weakLinkTrips_checkFailWindow :
    weakLinkTrips cfg (checkFailWindow cfg e) = weakLinkTrips cfg e ∧
      (checkFailWindow cfg e).now = e.now := by
  unfold checkFailWindow
  split
  · exact ⟨rfl, rfl⟩
  · split <;> exact ⟨rfl, rfl⟩

/-- **A `TX_FAILED`** reaches the manager once for each trigger that goes
off. -/
theorem hop_onTxFailed (hhop : cfg.channelHop = true) :
    (onTxFailed cfg e).hop = (channelHopEpOnTxFailIsr cfg e.now)^[failHooks cfg e] e.hop := by
  have hhooks : ∀ e' : Endpoint, (hopOnFailure cfg e').hop =
      (channelHopEpOnTxFailIsr cfg e'.now)^[(failWindowTrips cfg e').toNat +
        (weakLinkTrips cfg e').toNat] e'.hop := by
    intro e'
    obtain ⟨hweak, hnow⟩ := @weakLinkTrips_checkFailWindow cfg e'
    unfold hopOnFailure
    rw [hhop, Bool.not_true, if_neg Bool.false_ne_true, Endpoint.mapTp_hop, hop_checkWeakLink,
      hweak, hnow, hop_checkFailWindow, ← Function.iterate_add_apply, Nat.add_comm]
  simp only [onTxFailed, apply_ite Endpoint.hop, hop_esbFlushTxAndReset, hop_finishMotion,
    hop_finishCritical, ite_self, hhooks]
  rfl

/-- **A `TX_SUCCESS`** is noted, and may find the link degraded. -/
theorem hop_onTxSuccess (hhop : cfg.channelHop = true) (txAttempts : Nat) :
    (onTxSuccess cfg e txAttempts).hop = channelHopEpOnTxSuccessIsr cfg e.now e.hop ∨
      (onTxSuccess cfg e txAttempts).hop =
        channelHopEpOnLinkDegradedIsr cfg e.now (channelHopEpOnTxSuccessIsr cfg e.now e.hop) := by
  have hcheck : ∀ e' : Endpoint, (checkLinkDegraded cfg e').hop = e'.hop ∨
      (checkLinkDegraded cfg e').hop = channelHopEpOnLinkDegradedIsr cfg e'.now e'.hop := by
    intro e'
    unfold checkLinkDegraded
    split
    · exact Or.inl rfl
    · split
      · split <;> exact Or.inl rfl
      · split
        · exact Or.inr rfl
        · exact Or.inl rfl
  have hrecord : ∀ e' : Endpoint, (hopOnSuccess cfg e' txAttempts).hop =
        channelHopEpOnTxSuccessIsr cfg e'.now e'.hop ∨
      (hopOnSuccess cfg e' txAttempts).hop =
        channelHopEpOnLinkDegradedIsr cfg e'.now (channelHopEpOnTxSuccessIsr cfg e'.now e'.hop) := by
    intro e'
    unfold hopOnSuccess
    rw [hhop, Bool.not_true, if_neg Bool.false_ne_true]
    simp only [recordSuccess]
    split
    · exact Or.inl rfl
    · exact hcheck _
  simp only [onTxSuccess, hop_finishMotion, hop_finishCritical]
  split
  · exact hrecord (e.mapTp _)
  · exact hrecord (e.mapTp _)

/-- Without the manager an event passes it by. -/
theorem hop_evtCb_off (hhop : cfg.channelHop = false) (evtId : EsbEvtId) (txAttempts : Nat) :
    (zmkEsbTransportEvtCb cfg e evtId txAttempts).hop = e.hop := by
  cases evtId with
  | txSuccess =>
    simp only [zmkEsbTransportEvtCb]
    split
    · rfl
    · simp only [onTxSuccess, hop_finishMotion, hop_finishCritical, hopOnSuccess, hhop,
        Bool.not_false, if_true]
      split <;> rfl
  | txFailed =>
    simp only [zmkEsbTransportEvtCb]
    split
    · rw [hop_esbFlushTxAndReset]
      rfl
    · simp only [onTxFailed, apply_ite Endpoint.hop, hop_esbFlushTxAndReset, hop_finishMotion,
        hop_finishCritical, ite_self, hopOnFailure, hhop, Bool.not_false, if_true]
      rfl
  | rxReceived =>
    simp only [zmkEsbTransportEvtCb, onRxReceived]
    split <;> rfl

/-- A side-trip keeps its event from the manager. -/
theorem hop_evtCb_syncing (hsync : syncing cfg e = true) {evtId : EsbEvtId}
    (hevt : evtId ≠ .rxReceived) (txAttempts : Nat) :
    (zmkEsbTransportEvtCb cfg e evtId txAttempts).hop = e.hop := by
  unfold syncing at hsync
  cases evtId with
  | txSuccess =>
    simp only [zmkEsbTransportEvtCb, Endpoint.mapTp_tp, hsync, if_true]
    rfl
  | txFailed =>
    simp only [zmkEsbTransportEvtCb, Endpoint.mapTp_tp, hsync, if_true, hop_esbFlushTxAndReset]
    rfl
  | rxReceived => exact absurd rfl hevt

theorem hop_evtCb_rxReceived (txAttempts : Nat) :
    (zmkEsbTransportEvtCb cfg e .rxReceived txAttempts).hop = e.hop := by
  simp only [zmkEsbTransportEvtCb, onRxReceived]
  split <;> rfl

/-- Outside one the handlers run. -/
theorem evtCb_txSuccess (hsync : syncing cfg e = false) (txAttempts : Nat) :
    zmkEsbTransportEvtCb cfg e .txSuccess txAttempts =
      onTxSuccess cfg (e.mapTp fun tp => { tp with lastTxEventMs := stampOf e.now })
        txAttempts := by
  unfold syncing at hsync
  simp only [zmkEsbTransportEvtCb, Endpoint.mapTp_tp, hsync, Bool.false_eq_true, if_false]

theorem evtCb_txFailed (hsync : syncing cfg e = false) (txAttempts : Nat) :
    zmkEsbTransportEvtCb cfg e .txFailed txAttempts =
      onTxFailed cfg (e.mapTp fun tp => { tp with lastTxEventMs := stampOf e.now }) := by
  unfold syncing at hsync
  simp only [zmkEsbTransportEvtCb, Endpoint.mapTp_tp, hsync, Bool.false_eq_true, if_false]

/-- What follows the first event of an interrupt is at most the reading of
a payload. -/
theorem hop_esbEvtIrqHandler {events : List EsbEvtId} {evtId : EsbEvtId}
    (h : events = [evtId] ∨ events = [evtId, .rxReceived]) :
    (esbEvtIrqHandler cfg e events).hop =
      (zmkEsbTransportEvtCb cfg e evtId e.radio.lastTxAttempts).hop := by
  rcases h with rfl | rfl
  · rfl
  · unfold esbEvtIrqHandler
    rw [List.foldl_cons, List.foldl_cons, List.foldl_nil, hop_evtCb_rxReceived]

/-- **The end of a transmission is one of the list.** -/
theorem onTxDone_txDone (outcome : TxOutcome) :
    OnTxDone cfg e outcome (txDone cfg e outcome).hop := by
  unfold txDone
  split
  · rename_i hnone
    exact OnTxDone.kept (Or.inl (by rw [canEnd, hnone, Option.isSome_none]))
  · rename_i r events hdone
    have hend : canEnd cfg e outcome = true := by rw [canEnd, hdone, Option.isSome_some]
    have hsyncing : syncing cfg (e.mapRadio fun _ => r) = syncing cfg e := rfl
    rcases radioDone_cases cfg hdone with ⟨q, -, hout, -, hevents⟩ | ⟨q, -, rfl, hevents, -⟩
    · rw [hop_esbEvtIrqHandler hevents]
      cases hsync : syncing cfg e with
      | true =>
        rw [hop_evtCb_syncing (hsyncing.trans hsync) (by simp)]
        exact OnTxDone.kept (Or.inr (Or.inl hsync))
      | false =>
        cases hhop : cfg.channelHop with
        | false =>
          rw [hop_evtCb_off hhop]
          exact OnTxDone.kept (Or.inr (Or.inr hhop))
        | true =>
          rw [evtCb_txSuccess (hsyncing.trans hsync)]
          rcases hop_onTxSuccess hhop _ with hdone | hdone
          · rw [hdone]
            exact OnTxDone.acked hend hout hsync
          · rw [hdone]
            exact OnTxDone.degraded hend hout hsync
    · rw [hop_esbEvtIrqHandler (Or.inl hevents)]
      cases hsync : syncing cfg e with
      | true =>
        rw [hop_evtCb_syncing (hsyncing.trans hsync) (by simp)]
        exact OnTxDone.kept (Or.inr (Or.inl hsync))
      | false =>
        cases hhop : cfg.channelHop with
        | false =>
          rw [hop_evtCb_off hhop]
          exact OnTxDone.kept (Or.inr (Or.inr hhop))
        | true =>
          rw [evtCb_txFailed (hsyncing.trans hsync), hop_onTxFailed hhop]
          exact OnTxDone.failed hend rfl hsync

/-- What the manager's event entry points keep, the end of a transmission
keeps. -/
theorem OnTxDone.keeps {P : HopEp → Prop} {outcome : TxOutcome} {h' : HopEp}
    (hsuccess : ∀ h, P h → P (channelHopEpOnTxSuccessIsr cfg e.now h))
    (hdegraded : ∀ h, P h → P (channelHopEpOnLinkDegradedIsr cfg e.now h))
    (hfail : ∀ h, P h → P (channelHopEpOnTxFailIsr cfg e.now h)) (hp : P e.hop)
    (hdone : OnTxDone cfg e outcome h') : P h' := by
  cases hdone with
  | kept hkept => exact hp
  | acked hend hout hsync => exact hsuccess _ hp
  | degraded hend hout hsync => exact hdegraded _ (hsuccess _ hp)
  | failed hend hout hsync =>
    induction failHooks cfg e with
    | zero => exact hp
    | succ n ih =>
      rw [Function.iterate_succ_apply']
      exact hfail _ ih

/-! ## Work items that send -/

/-- A countdown with something left does not wrap. -/
theorem toNat_sub_one {n : UInt8} (h : 0 < n) : (n - 1).toNat = n.toNat - 1 := by
  have hle : (1 : UInt8) ≤ n := by
    rw [UInt8.le_iff_toNat_le]
    exact UInt8.lt_iff_toNat_lt.1 h
  rw [UInt8.toNat_sub_of_le _ _ hle]
  rfl

theorem hop_sendProposal (candidate : UInt8) : (sendProposal cfg e candidate).hop = e.hop :=
  hop_send_of_own cfg e _ _ rfl

theorem hop_sendIdlePacket : (sendIdlePacket cfg e).hop = e.hop :=
  hop_send_of_own cfg _ _ _ rfl

theorem hop_beaconWorkFn : (beaconWorkFn cfg e).hop = e.hop := by
  unfold beaconWorkFn
  split
  · rfl
  · exact hop_send_of_own cfg e _ _ rfl

theorem hop_verifyWorkFn : (verifyWorkFn cfg e).hop = e.hop := by
  unfold verifyWorkFn
  split
  · rfl
  · exact hop_send_of_own cfg e _ _ rfl

/-- A negotiation settles nothing: it only asks again. -/
theorem hop_negotiateWorkFn : ∃ prngState committedSynced requestBurstRemaining negotiateWork,
    (negotiateWorkFn cfg e).hop =
      { e.hop with prngState, committedSynced, requestBurstRemaining, negotiateWork } := by
  unfold negotiateWorkFn
  split
  · exact ⟨_, _, _, _, rfl⟩
  · split
    · exact ⟨_, _, _, _, rfl⟩
    · simp only [Endpoint.mapHop_hop]
      split
      · split
        · rw [hop_sendProposal]
          exact ⟨_, _, _, _, rfl⟩
        · exact ⟨_, _, _, _, rfl⟩
      · split
        · rw [hop_sendProposal]
          exact ⟨_, _, _, _, rfl⟩
        · exact ⟨_, _, _, _, rfl⟩

/-- The end of a burst's tick counts it. -/
theorem hop_postHopBurstTail : ∃ pendingCandidate postHopBurstWork,
    (postHopBurstTail cfg e).hop =
      { e.hop with
        postHopBurstRemaining := e.hop.postHopBurstRemaining - 1
        pendingCandidate, postHopBurstWork } := by
  simp only [postHopBurstTail]
  split
  · exact ⟨_, _, rfl⟩
  · split
    · rw [hop_sendIdlePacket]
      exact ⟨_, _, rfl⟩
    · exact ⟨_, _, rfl⟩

theorem hop_postHopBurstResume : ∃ pendingCandidate postHopBurstWork,
    (postHopBurstResume cfg e).hop =
      { e.hop with
        postHopBurstRemaining := e.hop.postHopBurstRemaining - 1
        pendingCandidate, postHopBurstWork } := by
  obtain ⟨candidate, work, htail⟩ := @hop_postHopBurstTail cfg (sendBlockingEnd cfg e).1
  rw [hop_sendBlockingEnd] at htail
  exact ⟨candidate, work, htail⟩

theorem hop_burstCandidate : ∃ prngState pendingCandidate,
    (burstCandidate cfg e).1.hop = { e.hop with prngState, pendingCandidate } := by
  simp only [burstCandidate, selectPendingCandidate]
  split
  · exact ⟨_, _, rfl⟩
  · split <;> exact ⟨_, _, rfl⟩

/-- A tick of a burst stays within the burst. -/
theorem hop_postHopBurstWorkFn :
    ∃ prngState pendingCandidate postHopBurstRemaining postHopBurstWork,
    (postHopBurstWorkFn cfg e).1.hop =
      { e.hop with
        prngState, pendingCandidate, postHopBurstRemaining, postHopBurstWork } := by
  have htail : ∀ e' : Endpoint, (∃ prngState pendingCandidate,
      e'.hop = { e.hop with prngState, pendingCandidate }) →
        ∃ prngState pendingCandidate postHopBurstRemaining postHopBurstWork,
          (postHopBurstTail cfg e').hop =
            { e.hop with
              prngState, pendingCandidate, postHopBurstRemaining, postHopBurstWork } := by
    rintro e' ⟨prngState, pendingCandidate, he'⟩
    obtain ⟨pendingCandidate', work, hhop⟩ := @hop_postHopBurstTail cfg e'
    rw [hhop, he']
    exact ⟨_, _, _, _, rfl⟩
  have hcandidate := @hop_burstCandidate cfg e
  unfold postHopBurstWorkFn
  split
  · exact ⟨_, _, _, _, rfl⟩
  · generalize (burstCandidate cfg e).1 = e' at hcandidate ⊢
    have hbegin := @hop_sendBlockingBegin cfg e' e'.tp.bootChannel esbPipeData
      [esbPktChannelHopProposal, e'.tp.channel, e'.tp.channel]
    unfold postHopBurstTick
    split
    · split
      · rename_i heq
        rw [heq] at hbegin
        obtain ⟨prngState, pendingCandidate, he'⟩ := hcandidate
        exact ⟨_, _, _, _, hbegin.trans he'⟩
      · rename_i heq
        rw [heq] at hbegin
        obtain ⟨prngState, pendingCandidate, he'⟩ := hcandidate
        exact htail _ ⟨_, _, hbegin.trans he'⟩
    · split
      · obtain ⟨prngState, pendingCandidate, he'⟩ := hcandidate
        exact htail _ ⟨_, _, (hop_sendProposal _).trans he'⟩
      · exact htail _ hcandidate

end EsbEndpoint
