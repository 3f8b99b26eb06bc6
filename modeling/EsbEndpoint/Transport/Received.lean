import EsbEndpoint.Transport.Path

/-!
# What has been received

A packet from the dongle comes in as the payload of an ACK, and nothing
else the transport does brings one: sends, flushes, channel changes and
the handlers of TX events leave the receive FIFO and the buffer alone, as
they do the clock and the pairing machine. So what is true of the type of
every payload that came in stays true of the buffer (`rxFrom_txDone`).
-/

namespace EsbEndpoint

variable {cfg : Config} {e : Endpoint}

/-- What the transport is given: the clock, the pairing machine's statics
and the received bytes. -/
def Endpoint.given (e : Endpoint) : Nat × Pairing × List (List UInt8) × List UInt8 :=
  (e.uptime, e.pairing, e.radio.rxFifo, e.tp.rxBuf)

/-! ## Sends -/

theorem given_trySetRetransmitCount (n : Nat) : (trySetRetransmitCount e n).given = e.given := by
  obtain ⟨n', hn'⟩ := esbSetRetransmitCount_frame e.radio n
  unfold trySetRetransmitCount Endpoint.given
  rw [Endpoint.mapRadio_radio, hn']
  rfl

theorem given_esbFlushTxAndReset : (esbFlushTxAndReset cfg e).given = e.given := by
  have hflush : (e.mapRadio esbFlushTx).given = e.given := by
    unfold esbFlushTx Endpoint.given
    rw [Endpoint.mapRadio_radio]
    split <;> rfl
  exact (given_trySetRetransmitCount _).trans hflush

theorem given_noteHanded (pipe : Nat) (data : List UInt8) :
    (noteHanded e pipe data).given = e.given := rfl

theorem given_jitterRetransmitDelay : (jitterRetransmitDelay cfg e).given = e.given := by
  obtain ⟨d', hd'⟩ := esbSetRetransmitDelay_frame e.radio
    (jitteredRetransmitDelay cfg e.now e.tp.jitterRng).1
  unfold jitterRetransmitDelay Endpoint.given
  dsimp only
  rw [Endpoint.mapRadio_radio, Endpoint.mapTp_radio, hd']
  rfl

theorem given_endQuietWindow : (endQuietWindow cfg e).given = e.given := by
  unfold endQuietWindow
  split <;> rfl

theorem given_pushNoack (noack : Bool) : (pushNoack cfg e noack).given = e.given := by
  unfold pushNoack
  split <;> rfl

theorem given_noteSend (data : List UInt8) : (noteSend cfg e data).given = e.given := by
  have hcount : ∀ now tp, (countHidTx now tp).rxBuf = tp.rxBuf := by
    intro now tp
    unfold countHidTx
    dsimp only
    split
    · rfl
    · split <;> rfl
  have hact :
      (if isType esbPktShellBgPoll data then e else noteActivity e).given = e.given := by
    split <;> rfl
  unfold noteSend
  dsimp only
  generalize (if isType esbPktShellBgPoll data then e else noteActivity e) = e₁ at hact ⊢
  have hhid : (if isType esbPktHidReport data then e₁.mapTp (countHidTx e₁.now) else e₁).given =
      e₁.given := by
    unfold Endpoint.given
    split
    · rw [Endpoint.mapTp_tp, hcount]
      rfl
    · rfl
  split
  · exact hhid.trans hact
  · exact hhid.trans hact

theorem given_overrideCritical (data : List UInt8) :
    (overrideCritical cfg e data).given = e.given := by
  unfold overrideCritical
  split
  · rfl
  · dsimp only
    split
    · exact given_trySetRetransmitCount _
    · rfl

theorem given_writeOut (payload : EsbPayload) : (writeOut cfg e payload).1.given = e.given := by
  have hstart : ∀ r : Radio, (startTxTransaction r).rxFifo = r.rxFifo := by
    intro r
    unfold startTxTransaction
    split <;> rfl
  have hrx : (esbWritePayload cfg e.radio payload).1.rxFifo = e.radio.rxFifo := by
    unfold esbWritePayload
    split
    · rfl
    · dsimp only
      split
      · exact hstart _
      · rfl
  unfold writeOut Endpoint.given
  dsimp only
  rw [Endpoint.mapRadio_radio, hrx]
  rfl

theorem given_sendMotion (pipe : Nat) (noack : Bool) (data : List UInt8) :
    (sendMotion cfg e pipe noack data).1.given = e.given := by
  have hmotion : ∀ (e' : Endpoint) f, (e'.mapMotion f).given = e'.given := fun _ _ => rfl
  unfold sendMotion
  split
  · dsimp only
    rw [given_writeOut, hmotion]
    split
    · rw [given_trySetRetransmitCount, hmotion]
    · exact hmotion _ _
  · exact given_writeOut _

theorem given_sendQueued (pipe : Nat) (data : List UInt8) :
    (sendQueued cfg e pipe data).1.given = e.given := by
  unfold sendQueued
  dsimp only
  rw [given_sendMotion, given_overrideCritical, given_noteSend, given_pushNoack]

/-- **A send touches nothing it is given.** -/
theorem given_esbTransportSend (pipe : Nat) (data : List UInt8) :
    (esbTransportSend cfg e pipe data).1.given = e.given := by
  have hclear : (endQuietWindow cfg (jitterRetransmitDelay cfg (noteHanded e pipe data))).given =
      e.given := by
    rw [given_endQuietWindow, given_jitterRetransmitDelay, given_noteHanded]
  unfold esbTransportSend
  dsimp only
  split
  · rfl
  · split
    · rfl
    · split
      · exact given_jitterRetransmitDelay
      · split
        · split
          · exact hclear
          · rw [given_sendQueued, given_esbFlushTxAndReset, hclear]
        · rw [given_sendQueued, hclear]

theorem uptime_esbTransportSend (pipe : Nat) (data : List UInt8) :
    (esbTransportSend cfg e pipe data).1.uptime = e.uptime :=
  congrArg Prod.fst (given_esbTransportSend pipe data)

theorem given_esbTransportSetChannel (channel : UInt8) :
    (esbTransportSetChannel cfg e channel).1.given = e.given := by
  have hnew : ∀ now tp, (onNewChannel cfg now channel tp).rxBuf = tp.rxBuf := by
    intro now tp
    unfold onNewChannel
    dsimp only
    split <;> rfl
  unfold esbTransportSetChannel
  split
  · rfl
  · dsimp only
    split
    · exact given_esbFlushTxAndReset
    · rename_i r hset
      refine Eq.trans ?_ (@given_esbFlushTxAndReset cfg e)
      rw [esbSetRfChannel_frame cfg hset]
      unfold Endpoint.given
      rw [Endpoint.mapTp_tp, hnew]
      rfl

/-! ## TX events -/

theorem given_finishCritical : (finishCritical cfg e).given = e.given := by
  have hpop : (e.mapTp fun _ => (consumeRecentOverride cfg e.tp).1).given = e.given := by
    unfold consumeRecentOverride
    split <;> rfl
  unfold finishCritical
  split
  · rfl
  · dsimp only
    split
    · exact (given_trySetRetransmitCount _).trans hpop
    · exact hpop

theorem given_finishMotion (failed : Bool) : (finishMotion cfg e failed).given = e.given := by
  unfold finishMotion
  dsimp only
  split
  · exact given_trySetRetransmitCount _
  · rfl

theorem consumeRecentNoack_rxBuf (tp : Transport) :
    (consumeRecentNoack cfg tp).1.rxBuf = tp.rxBuf := by
  unfold consumeRecentNoack
  split <;> rfl

theorem given_hopOnSuccess (txAttempts : Nat) :
    (hopOnSuccess cfg e txAttempts).given = e.given := by
  have hdegraded : ∀ e' : Endpoint, (checkLinkDegraded cfg e').given = e'.given := by
    intro e'
    unfold checkLinkDegraded
    split
    · rfl
    · split
      · split <;> rfl
      · split <;> rfl
  have hrecord : ∀ e' : Endpoint, (recordSuccess cfg e' txAttempts).given = e'.given := by
    intro e'
    have hpop : (e'.mapTp fun _ => (consumeRecentNoack cfg e'.tp).1).given = e'.given := by
      unfold Endpoint.given
      rw [Endpoint.mapTp_tp, consumeRecentNoack_rxBuf]
      rfl
    have hquality : ∀ e'' : Endpoint,
        (e''.mapTp (linkQualityRecord cfg (UInt8.ofNat txAttempts) (1 < txAttempts))).given =
          e''.given := fun _ => rfl
    unfold recordSuccess
    dsimp only
    split
    · exact hpop
    · rw [hdegraded, hquality]
      exact hpop
  unfold hopOnSuccess
  split
  · rfl
  · exact hrecord _

theorem given_hopOnFailure : (hopOnFailure cfg e).given = e.given := by
  have hwindow : (checkFailWindow cfg e).given = e.given := by
    unfold checkFailWindow
    split
    · rfl
    · split <;> rfl
  have hweak : (checkWeakLink cfg (checkFailWindow cfg e)).given = e.given := by
    refine Eq.trans ?_ hwindow
    unfold checkWeakLink
    split <;> rfl
  unfold hopOnFailure
  split
  · rfl
  · refine Eq.trans ?_ hweak
    unfold Endpoint.given linkQualityShiftWindow
    rw [Endpoint.mapTp_tp, consumeRecentNoack_rxBuf]
    rfl

theorem given_txSuccess (txAttempts : Nat) :
    (zmkEsbTransportEvtCb cfg e .txSuccess txAttempts).given = e.given := by
  unfold zmkEsbTransportEvtCb
  dsimp only
  split
  · rfl
  · unfold onTxSuccess
    dsimp only
    rw [given_finishMotion, given_finishCritical]
    split
    · exact given_hopOnSuccess _
    · exact given_hopOnSuccess _

theorem given_txFailed (txAttempts : Nat) :
    (zmkEsbTransportEvtCb cfg e .txFailed txAttempts).given = e.given := by
  unfold zmkEsbTransportEvtCb
  dsimp only
  split
  · exact given_esbFlushTxAndReset
  · unfold onTxFailed
    dsimp only
    split
    · rw [given_esbFlushTxAndReset, given_finishMotion, given_finishCritical]
      exact given_hopOnFailure
    · rw [given_finishMotion, given_finishCritical]
      exact given_hopOnFailure

/-! ## What comes in -/

theorem frame_onRxReceived :
    (onRxReceived cfg e).uptime = e.uptime ∧ (onRxReceived cfg e).pairing = e.pairing := by
  unfold onRxReceived
  split <;> exact ⟨rfl, rfl⟩

/-- Neither the clock nor the pairing machine sees the end of a
transmission. -/
theorem frame_txDone (outcome : TxOutcome) :
    (txDone cfg e outcome).uptime = e.uptime ∧ (txDone cfg e outcome).pairing = e.pairing := by
  have hevent : ∀ (evtId : EsbEvtId) (n : Nat) (e' : Endpoint),
      (zmkEsbTransportEvtCb cfg e' evtId n).uptime = e'.uptime ∧
        (zmkEsbTransportEvtCb cfg e' evtId n).pairing = e'.pairing := by
    intro evtId n e'
    cases evtId with
    | txSuccess =>
      have hgiven := @given_txSuccess cfg e' n
      exact ⟨congrArg (·.1) hgiven, congrArg (·.2.1) hgiven⟩
    | txFailed =>
      have hgiven := @given_txFailed cfg e' n
      exact ⟨congrArg (·.1) hgiven, congrArg (·.2.1) hgiven⟩
    | rxReceived => exact frame_onRxReceived
  have hevents : ∀ (n : Nat) (events : List EsbEvtId) (e' : Endpoint),
      (events.foldl (fun e'' evtId => zmkEsbTransportEvtCb cfg e'' evtId n) e').uptime = e'.uptime ∧
        (events.foldl (fun e'' evtId => zmkEsbTransportEvtCb cfg e'' evtId n) e').pairing =
          e'.pairing := by
    intro n events
    induction events with
    | nil => exact fun _ => ⟨rfl, rfl⟩
    | cons evtId events ih =>
      intro e'
      obtain ⟨huptime, hpairing⟩ := ih (zmkEsbTransportEvtCb cfg e' evtId n)
      obtain ⟨huptime', hpairing'⟩ := hevent evtId n e'
      exact ⟨huptime.trans huptime', hpairing.trans hpairing'⟩
  unfold txDone
  split
  · exact ⟨rfl, rfl⟩
  · exact hevents _ _ _

/-- The type byte of every payload received, read or not, is one of `Q`. -/
def RxFrom (Q : UInt8 → Prop) (e : Endpoint) : Prop :=
  Q (e.tp.rxBuf.getD 0 0) ∧ ∀ data ∈ e.radio.rxFifo, Q (data.getD 0 0)

variable {Q : UInt8 → Prop}

theorem RxFrom.of_given {e' : Endpoint} (h : RxFrom Q e) (hgiven : e'.given = e.given) :
    RxFrom Q e' := by
  have hfifo : e'.radio.rxFifo = e.radio.rxFifo := congrArg (·.2.2.1) hgiven
  have hbuf : e'.tp.rxBuf = e.tp.rxBuf := congrArg (·.2.2.2) hgiven
  unfold RxFrom
  rw [hfifo, hbuf]
  exact h

theorem RxFrom.imp {Q' : UInt8 → Prop} (h : RxFrom Q e) (himp : ∀ t, Q t → Q' t) : RxFrom Q' e :=
  ⟨himp _ h.1, fun data hdata => himp _ (h.2 data hdata)⟩

/-- Reading the FIFO leaves in the buffer a payload that was in one or the
other. -/
theorem RxFrom.onRxReceived (h : RxFrom Q e) : RxFrom Q (onRxReceived cfg e) := by
  have hread : ∀ (fifo : List (List UInt8)) (tp : Transport), Q (tp.rxBuf.getD 0 0) →
      (∀ data ∈ fifo, Q (data.getD 0 0)) →
        Q ((fifo.foldl (takeRxPayload cfg) tp).rxBuf.getD 0 0) := by
    intro fifo
    induction fifo with
    | nil => exact fun tp hbuf _ => hbuf
    | cons data fifo ih =>
      intro tp hbuf hfifo
      refine ih _ ?_ fun data' hdata' => hfifo data' (List.mem_cons_of_mem _ hdata')
      unfold takeRxPayload
      split
      · rename_i hlen
        have hhead := hfifo data List.mem_cons_self
        obtain ⟨b, bs, rfl⟩ := List.exists_cons_of_length_pos hlen.1
        exact hhead
      · exact hbuf
  unfold EsbEndpoint.onRxReceived
  split
  · exact h
  · exact ⟨hread _ _ h.1 h.2, fun data hdata => absurd hdata List.not_mem_nil⟩

/-- The radio's receive FIFO after the end of a transmission. -/
theorem radioDone_rxFifo {r r' : Radio} {outcome : TxOutcome} {events : List EsbEvtId}
    (h : radioDone cfg r outcome = some (r', events)) :
    r'.rxFifo = r.rxFifo ∨
      ∃ retries reply, outcome = .acked retries reply ∧ reply ≠ [] ∧
        r'.rxFifo = r.rxFifo ++ [reply] := by
  have hnext : ∀ (r₁ : Radio) (settled : EsbState),
      (startNextOr r₁ settled).rxFifo = r₁.rxFifo := by
    intro r₁ settled
    unfold startNextOr startTxTransaction
    split
    · rfl
    · split <;> rfl
  unfold radioDone at h
  split at h
  · obtain ⟨rfl, rfl⟩ : _ ∧ _ := by
      simpa only [onRadioEndTxNoack, Option.some.injEq, Prod.mk.injEq] using h
    exact Or.inl (hnext _ _)
  · rename_i q n retries reply hstate
    split at h
    · rw [onAckReceived] at h
      split at h
      · rename_i r₁ hpush
        obtain ⟨rfl, rfl⟩ : _ ∧ _ := by simpa only [Option.some.injEq, Prod.mk.injEq] using h
        have hne : reply ≠ [] := by
          rintro rfl
          exact absurd hpush (by simp)
        refine Or.inr ⟨retries, reply, rfl, hne, (hnext _ _).trans ?_⟩
        unfold rxFifoPushRfbuf at hpush
        split at hpush
        · exact absurd hpush (by simp)
        · split at hpush
          · exact absurd hpush (by simp)
          · obtain rfl := Option.some.inj hpush
            rfl
      · obtain ⟨rfl, rfl⟩ : _ ∧ _ := by simpa only [Option.some.injEq, Prod.mk.injEq] using h
        exact Or.inl (hnext _ _)
    · exact absurd h (by simp)
  · obtain ⟨rfl, rfl⟩ : _ ∧ _ := by
      simpa only [onRetransmitsExpended, Option.some.injEq, Prod.mk.injEq] using h
    exact Or.inl rfl
  · exact absurd h (by simp)

/-- **Nothing comes in but the payload of an ACK.** -/
theorem rxFrom_txDone {outcome : TxOutcome} (h : RxFrom Q e)
    (hreply : ∀ retries reply, outcome = .acked retries reply → reply ≠ [] →
      Q (reply.getD 0 0)) :
    RxFrom Q (txDone cfg e outcome) := by
  unfold txDone
  cases hdone : radioDone cfg e.radio outcome with
  | none => exact h
  | some out =>
  obtain ⟨r, events⟩ := out
  have hradio : RxFrom Q (e.mapRadio fun _ => r) := by
    refine ⟨h.1, fun data hdata => ?_⟩
    rcases radioDone_rxFifo hdone with hsame | ⟨retries, reply, rfl, hne, hfifo⟩
    · exact h.2 data (hsame ▸ hdata)
    · rcases List.mem_append.1 (hfifo ▸ hdata : data ∈ e.radio.rxFifo ++ [reply]) with hold | hnew
      · exact h.2 data hold
      · rw [List.mem_singleton.1 hnew]
        exact hreply retries reply rfl hne
  have hevents : ∀ (n : Nat) (events : List EsbEvtId) (e' : Endpoint), RxFrom Q e' →
      RxFrom Q (events.foldl (fun e'' evtId => zmkEsbTransportEvtCb cfg e'' evtId n) e') := by
    intro n events
    induction events with
    | nil => exact fun _ h' => h'
    | cons evtId events ih =>
      intro e' h'
      refine ih _ ?_
      cases evtId with
      | txSuccess => exact h'.of_given (given_txSuccess n)
      | txFailed => exact h'.of_given (given_txFailed n)
      | rxReceived => exact h'.onRxReceived
  exact hevents _ events _ hradio

end EsbEndpoint
