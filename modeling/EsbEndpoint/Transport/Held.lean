import EsbEndpoint.Transport.Path

/-!
# What a busy radio holds

The radio takes a change of its settings only while it is idle, so the
count a transmission was started with is the radio's count for as long as
it lasts. `held` is what no call of the transport moves short of starting
a packet, and `Loaded` what every start establishes: a packet that waits
for an ACK runs on the radio's own count.
-/

namespace EsbEndpoint

/-- The packet that waits for an ACK, with the retransmissions it was
started with. -/
def EsbState.underAck : EsbState → Option (Queued × Nat)
  | .ptxTxAck q retransmits => some (q, retransmits)
  | _ => none

namespace Radio

variable (r : Radio)

/-- A start waits for an ACK of this packet. -/
def awaitsAck (q : Queued) : Bool := !q.noack || !r.selectiveAutoAck

/-- What is held until a packet starts or ends: the count only while the
radio is busy. -/
def held : EsbState × Bool × Option Nat :=
  (r.state, r.selectiveAutoAck, if r.state = .idle then none else some r.retransmitCount)

/-- What waits for an ACK runs on the radio's count. -/
def Loaded : Prop :=
  r.state.underAck = (r.state.onAir.filter r.awaitsAck).map fun q => (q, r.retransmitCount)

variable {r} {r' : Radio}

theorem held_state (h : r'.held = r.held) : r'.state = r.state := congrArg Prod.fst h

theorem held_awaitsAck (h : r'.held = r.held) : r'.awaitsAck = r.awaitsAck := by
  funext q
  have hauto : r'.selectiveAutoAck = r.selectiveAutoAck := congrArg (fun held => held.2.1) h
  unfold awaitsAck
  rw [hauto]

theorem held_count (h : r'.held = r.held) (hbusy : r.state ≠ .idle) :
    r'.retransmitCount = r.retransmitCount := by
  have hcount := congrArg (fun held => held.2.2) h
  simp only [held, held_state h, if_neg hbusy, Option.some.injEq] at hcount
  exact hcount

theorem Loaded.of_held (h : r.Loaded) (hheld : r'.held = r.held) : r'.Loaded := by
  unfold Loaded at h ⊢
  rw [held_state hheld, held_awaitsAck hheld, h]
  cases hstate : r.state with
  | idle => rfl
  | ptxTxidle => rfl
  | ptxTx q => rw [held_count hheld (by rw [hstate]; simp)]
  | ptxTxAck q n => rw [held_count hheld (by rw [hstate]; simp)]

/-- **A start loads the radio's count.** -/
theorem loaded_startTxTransaction {q : Queued} {qs : List Queued} (h : r.txFifo = q :: qs) :
    (startTxTransaction r).Loaded := by
  have hacks : (startTxTransaction r).awaitsAck q = (!q.noack || !r.selectiveAutoAck) := by
    simp only [startTxTransaction, h]
    rfl
  unfold Loaded
  cases hack : !q.noack || !r.selectiveAutoAck with
  | true =>
    rw [hack] at hacks
    simp only [startTxTransaction, h, hack, if_true, EsbState.underAck, EsbState.onAir] at hacks ⊢
    rw [Option.filter_some, if_pos hacks]
    rfl
  | false =>
    rw [hack] at hacks
    simp only [startTxTransaction, h, hack, Bool.false_eq_true, if_false, EsbState.underAck,
      EsbState.onAir] at hacks ⊢
    rw [Option.filter_some, if_neg (by rw [hacks]; exact Bool.false_ne_true)]
    rfl

theorem loaded_startNextOr {settled : EsbState} (hon : settled.onAir = none) :
    (startNextOr r settled).Loaded := by
  unfold startNextOr
  cases hfifo : r.txFifo with
  | nil =>
    have hack : settled.underAck = none := by
      cases settled <;> simp_all [EsbState.onAir, EsbState.underAck]
    rw [List.isEmpty_nil, if_pos rfl]
    unfold Loaded
    dsimp only
    rw [hon, hack]
    rfl
  | cons q qs =>
    rw [List.isEmpty_cons, if_neg Bool.false_ne_true]
    exact loaded_startTxTransaction hfifo

variable (cfg : Config)

theorem Loaded.write (h : r.Loaded) (p : EsbPayload) : (esbWritePayload cfg r p).1.Loaded := by
  unfold esbWritePayload
  split
  · exact h
  · dsimp only
    split
    · obtain ⟨q, qs, hfifo⟩ : ∃ q qs, (enqueue r p).txFifo = q :: qs :=
        List.exists_cons_of_ne_nil (List.append_ne_nil_of_right_ne_nil _ (List.cons_ne_nil _ _))
      exact loaded_startTxTransaction hfifo
    · exact h

/-- What a call leaves of the settings a start reads. -/
structure SameSettings (r r' : Radio) : Prop where
  count : r'.retransmitCount = r.retransmitCount
  awaitsAck : r'.awaitsAck = r.awaitsAck

theorem sameSettings_startTxTransaction (r : Radio) : SameSettings r (startTxTransaction r) := by
  unfold startTxTransaction
  split <;> exact ⟨rfl, rfl⟩

theorem sameSettings_startNextOr (r : Radio) (settled : EsbState) :
    SameSettings r (startNextOr r settled) := by
  unfold startNextOr
  split
  · exact ⟨rfl, rfl⟩
  · exact sameSettings_startTxTransaction r

theorem sameSettings_write (r : Radio) (p : EsbPayload) :
    SameSettings r (esbWritePayload cfg r p).1 := by
  unfold esbWritePayload
  split
  · exact ⟨rfl, rfl⟩
  · dsimp only
    split
    · obtain ⟨hcount, hack⟩ := sameSettings_startTxTransaction (enqueue r p)
      exact ⟨hcount, hack⟩
    · exact ⟨rfl, rfl⟩

theorem sameSettings_radioDone {outcome : TxOutcome} {events : List EsbEvtId}
    (h : radioDone cfg r outcome = some (r', events)) : SameSettings r r' := by
  unfold radioDone at h
  split at h
  · obtain ⟨rfl, -⟩ : _ ∧ _ := by
      simpa only [onRadioEndTxNoack, Option.some.injEq, Prod.mk.injEq] using h
    obtain ⟨hcount, hack⟩ := sameSettings_startNextOr (txFifoRemoveLast r)
      (if cfg.esbNeverDisableTx then .ptxTxidle else .idle)
    exact ⟨hcount, hack⟩
  · split at h
    · rw [onAckReceived] at h
      split at h
      · rename_i r₁ hpush
        obtain ⟨rfl, -⟩ : _ ∧ _ := by simpa only [Option.some.injEq, Prod.mk.injEq] using h
        obtain ⟨hcount, hack⟩ := sameSettings_startNextOr r₁ .idle
        have hkept : SameSettings r r₁ := by
          split at hpush
          · exact absurd hpush (by simp)
          · rw [rxFifoPushRfbuf] at hpush
            split at hpush
            · exact absurd hpush (by simp)
            · obtain rfl := Option.some.inj hpush
              exact ⟨rfl, rfl⟩
        exact ⟨hcount.trans hkept.count, hack.trans hkept.awaitsAck⟩
      · obtain ⟨rfl, -⟩ : _ ∧ _ := by simpa only [Option.some.injEq, Prod.mk.injEq] using h
        obtain ⟨hcount, hack⟩ := sameSettings_startNextOr
          (txFifoRemoveLast { r with lastTxAttempts := _ }) .idle
        exact ⟨hcount, hack⟩
    · exact absurd h (by simp)
  · obtain ⟨rfl, -⟩ : _ ∧ _ := by
      simpa only [onRetransmitsExpended, Option.some.injEq, Prod.mk.injEq] using h
    exact ⟨rfl, rfl⟩
  · exact absurd h (by simp)

/-- However a transmission ends, the radio is loaded again. -/
theorem loaded_radioDone {outcome : TxOutcome} {events : List EsbEvtId}
    (h : radioDone cfg r outcome = some (r', events)) : r'.Loaded := by
  unfold radioDone at h
  split at h
  · obtain ⟨rfl, -⟩ : _ ∧ _ := by
      simpa only [onRadioEndTxNoack, Option.some.injEq, Prod.mk.injEq] using h
    refine loaded_startNextOr ?_
    split <;> rfl
  · split at h
    · rw [onAckReceived] at h
      split at h <;>
        obtain ⟨rfl, -⟩ : _ ∧ _ := by simpa only [Option.some.injEq, Prod.mk.injEq] using h
      · exact loaded_startNextOr rfl
      · exact loaded_startNextOr rfl
    · exact absurd h (by simp)
  · obtain ⟨rfl, -⟩ : _ ∧ _ := by
      simpa only [onRetransmitsExpended, Option.some.injEq, Prod.mk.injEq] using h
    rfl
  · exact absurd h (by simp)

end Radio

variable (cfg : Config) (e : Endpoint)

/-! ## The calls of the transport -/

@[simp] theorem held_trySetRetransmitCount (n : Nat) :
    (trySetRetransmitCount e n).radio.held = e.radio.held := by
  unfold trySetRetransmitCount esbSetRetransmitCount
  rw [Endpoint.mapRadio_radio]
  cases hstate : e.radio.state <;> simp [Radio.held, hstate]

@[simp] theorem held_restoreRetransmitCount :
    (restoreRetransmitCount cfg e).radio.held = e.radio.held :=
  held_trySetRetransmitCount e _

@[simp] theorem radio_noteHanded (pipe : Nat) (data : List UInt8) :
    (noteHanded e pipe data).radio = e.radio := rfl

@[simp] theorem held_jitterRetransmitDelay :
    (jitterRetransmitDelay cfg e).radio.held = e.radio.held := by
  obtain ⟨d', hd'⟩ := esbSetRetransmitDelay_frame e.radio
    (jitteredRetransmitDelay cfg e.now e.tp.jitterRng).1
  unfold jitterRetransmitDelay
  rw [Endpoint.mapRadio_radio, Endpoint.mapTp_radio, hd']
  rfl

@[simp] theorem radio_endQuietWindow : (endQuietWindow cfg e).radio = e.radio := by
  unfold endQuietWindow
  split <;> rfl

@[simp] theorem held_esbFlushTxAndReset :
    (esbFlushTxAndReset cfg e).radio.held = e.radio.held := by
  have hflush : (esbFlushTx e.radio).held = e.radio.held := by
    unfold esbFlushTx
    split <;> rfl
  unfold esbFlushTxAndReset
  rw [held_restoreRetransmitCount, Endpoint.mapMotion_radio, Endpoint.mapTp_radio,
    Endpoint.mapRadio_radio, hflush]

@[simp] theorem radio_pushNoack (noack : Bool) : (pushNoack cfg e noack).radio = e.radio := by
  unfold pushNoack
  split <;> rfl

@[simp] theorem radio_noteSend (data : List UInt8) : (noteSend cfg e data).radio = e.radio := by
  unfold noteSend
  dsimp only
  split <;> split <;> split <;> rfl

@[simp] theorem held_overrideCritical (data : List UInt8) :
    (overrideCritical cfg e data).radio.held = e.radio.held := by
  unfold overrideCritical
  split
  · rfl
  · dsimp only
    split
    · exact held_trySetRetransmitCount _ _
    · rfl

/-- A send that is too long or dropped moves nothing either. -/
theorem held_send_of_not_queues {pipe : Nat} {data : List UInt8}
    (h : sendQueues cfg e data = false) :
    (esbTransportSend cfg e pipe data).1.radio.held = e.radio.held := by
  obtain ⟨e', hsend, rfl | rfl | rfl⟩ := @esbTransportSend_of_not_queues cfg e pipe data h
  · rw [hsend, radio_noteHanded]
  · rw [hsend, held_jitterRetransmitDelay, radio_noteHanded]
  · rw [hsend, radio_endQuietWindow, held_jitterRetransmitDelay, radio_noteHanded]

/-! ## The events -/

@[simp] theorem radio_hopOnSuccess (n : Nat) : (hopOnSuccess cfg e n).radio = e.radio := by
  have hdegraded : ∀ e' : Endpoint, (checkLinkDegraded cfg e').radio = e'.radio := by
    intro e'
    unfold checkLinkDegraded
    split
    · rfl
    · split
      · split <;> rfl
      · split <;> rfl
  unfold hopOnSuccess
  split
  · rfl
  · unfold recordSuccess
    dsimp only
    split
    · rfl
    · rw [hdegraded]
      rfl

@[simp] theorem radio_hopOnFailure : (hopOnFailure cfg e).radio = e.radio := by
  have hwindow : (checkFailWindow cfg e).radio = e.radio := by
    unfold checkFailWindow
    split
    · rfl
    · split <;> rfl
  have hweak : ∀ e' : Endpoint, (checkWeakLink cfg e').radio = e'.radio := by
    intro e'
    unfold checkWeakLink
    split <;> rfl
  unfold hopOnFailure
  split
  · rfl
  · rw [Endpoint.mapTp_radio, hweak, hwindow]

@[simp] theorem held_finishCritical : (finishCritical cfg e).radio.held = e.radio.held := by
  unfold finishCritical
  split
  · rfl
  · dsimp only
    split
    · rw [held_restoreRetransmitCount, Endpoint.mapTp_radio]
    · rfl

@[simp] theorem held_finishMotion (failed : Bool) :
    (finishMotion cfg e failed).radio.held = e.radio.held := by
  unfold finishMotion
  dsimp only
  split
  · rw [held_restoreRetransmitCount, Endpoint.mapMotion_radio]
  · rfl

/-- **No event moves what is held.** -/
theorem held_zmkEsbTransportEvtCb (evtId : EsbEvtId) (n : Nat) :
    (zmkEsbTransportEvtCb cfg e evtId n).radio.held = e.radio.held := by
  have hsuccess : ∀ e' : Endpoint, (onTxSuccess cfg e' n).radio.held = e'.radio.held := by
    intro e'
    unfold onTxSuccess
    rw [held_finishMotion, held_finishCritical]
    split
    · rw [esbShellRelayNotifyTx, Endpoint.mapShell_radio, radio_hopOnSuccess, Endpoint.mapTp_radio]
    · rw [radio_hopOnSuccess, Endpoint.mapTp_radio]
  have hfailed : ∀ e' : Endpoint, (onTxFailed cfg e').radio.held = e'.radio.held := by
    intro e'
    have hfinish : (finishMotion cfg (finishCritical cfg (hopOnFailure cfg (e'.mapTp fun tp =>
        { tp with
          txFailCount := tp.txFailCount + 1
          txExhaustedCount := tp.txExhaustedCount + 1
          consecutiveTxFail := tp.consecutiveTxFail + 1 }))) true).radio.held = e'.radio.held := by
      rw [held_finishMotion, held_finishCritical, radio_hopOnFailure, Endpoint.mapTp_radio]
    unfold onTxFailed
    dsimp only
    split
    · rw [held_esbFlushTxAndReset, hfinish]
    · exact hfinish
  cases evtId with
  | txSuccess =>
    rw [zmkEsbTransportEvtCb.eq_1]
    split
    · rfl
    · exact hsuccess _
  | txFailed =>
    rw [zmkEsbTransportEvtCb.eq_2]
    split
    · exact held_esbFlushTxAndReset cfg _
    · exact hfailed _
  | rxReceived =>
    rw [zmkEsbTransportEvtCb.eq_3, onRxReceived]
    split <;> rfl

theorem held_esbEvtIrqHandler (events : List EsbEvtId) :
    (esbEvtIrqHandler cfg e events).radio.held = e.radio.held := by
  have hfold : ∀ (n : Nat) (e' : Endpoint), (events.foldl
      (fun e' evtId => zmkEsbTransportEvtCb cfg e' evtId n) e').radio.held = e'.radio.held := by
    intro n
    induction events with
    | nil => exact fun _ => rfl
    | cons evtId events ih => exact fun e' => (ih _).trans (held_zmkEsbTransportEvtCb cfg e' evtId n)
  exact hfold _ e

end EsbEndpoint
