import EsbEndpoint.Hop.Switch

/-!
# Who tunes the radio

The channel the endpoint is tuned to and its boot channel are read by most
of the hop manager and written by `esb_transport_set_channel` alone: sends,
flushes, radio events and side-trips leave both (`Endpoint.tuned`).
-/

namespace EsbEndpoint

variable {cfg : Config} {e : Endpoint}

/-- `m_addr.channel` and the boot channel. -/
def Endpoint.tuned (e : Endpoint) : UInt8 × UInt8 := (e.tp.channel, e.tp.bootChannel)

/-! ## Sends -/

theorem tuned_esbFlushTxAndReset : (esbFlushTxAndReset cfg e).tuned = e.tuned := rfl

theorem tuned_endQuietWindow : (endQuietWindow cfg e).tuned = e.tuned := by
  unfold endQuietWindow
  split <;> rfl

theorem tuned_noteSend (data : List UInt8) : (noteSend cfg e data).tuned = e.tuned := by
  have hcount : ∀ now tp, (countHidTx now tp).channel = tp.channel ∧
      (countHidTx now tp).bootChannel = tp.bootChannel := by
    intro now tp
    unfold countHidTx
    dsimp only
    split
    · exact ⟨rfl, rfl⟩
    · split <;> exact ⟨rfl, rfl⟩
  have hact :
      (if isType esbPktShellBgPoll data then e else noteActivity e).tuned = e.tuned := by
    split <;> rfl
  unfold noteSend
  dsimp only
  generalize (if isType esbPktShellBgPoll data then e else noteActivity e) = e₁ at hact ⊢
  have hhid : (if isType esbPktHidReport data then e₁.mapTp (countHidTx e₁.now) else e₁).tuned =
      e₁.tuned := by
    unfold Endpoint.tuned
    split
    · rw [Endpoint.mapTp_tp, (hcount _ _).1, (hcount _ _).2]
    · rfl
  split
  · exact hhid.trans hact
  · exact hhid.trans hact

theorem tuned_sendQueued (pipe : Nat) (data : List UInt8) :
    (sendQueued cfg e pipe data).1.tuned = e.tuned := by
  have hpush : ∀ noack, (pushNoack cfg e noack).tuned = e.tuned := by
    intro noack
    unfold pushNoack
    split <;> rfl
  have hover : ∀ e' : Endpoint, (overrideCritical cfg e' data).tuned = e'.tuned := by
    intro e'
    unfold overrideCritical
    split
    · rfl
    · dsimp only
      split <;> rfl
  have hmotion : ∀ (e' : Endpoint) noack,
      (sendMotion cfg e' pipe noack data).1.tuned = e'.tuned := by
    intro e' noack
    unfold sendMotion
    split
    · dsimp only
      split <;> rfl
    · rfl
  unfold sendQueued
  dsimp only
  rw [hmotion, hover, tuned_noteSend, hpush]

/-- **A send does not tune.** -/
theorem tuned_esbTransportSend (pipe : Nat) (data : List UInt8) :
    (esbTransportSend cfg e pipe data).1.tuned = e.tuned := by
  have hclear : (endQuietWindow cfg (jitterRetransmitDelay cfg (noteHanded e pipe data))).tuned =
      e.tuned := tuned_endQuietWindow
  unfold esbTransportSend
  dsimp only
  split
  · rfl
  · split
    · rfl
    · split
      · rfl
      · split
        · split
          · exact hclear
          · exact tuned_sendQueued _ _ |>.trans hclear
        · exact tuned_sendQueued _ _ |>.trans hclear

/-! ## Radio events -/

theorem tuned_finishMotion (failed : Bool) : (finishMotion cfg e failed).tuned = e.tuned := by
  unfold finishMotion
  dsimp only
  split <;> rfl

theorem tuned_finishCritical : (finishCritical cfg e).tuned = e.tuned := by
  have hpop : (e.mapTp fun _ => (consumeRecentOverride cfg e.tp).1).tuned = e.tuned := by
    unfold consumeRecentOverride
    split <;> rfl
  unfold finishCritical
  split
  · rfl
  · dsimp only
    split
    · exact hpop
    · exact hpop

theorem tuned_consumeRecentNoack (tp : Transport) :
    (consumeRecentNoack cfg tp).1.channel = tp.channel ∧
      (consumeRecentNoack cfg tp).1.bootChannel = tp.bootChannel := by
  unfold consumeRecentNoack
  split <;> exact ⟨rfl, rfl⟩

theorem tuned_hopOnSuccess (txAttempts : Nat) :
    (hopOnSuccess cfg e txAttempts).tuned = e.tuned := by
  have hdegraded : ∀ e' : Endpoint, (checkLinkDegraded cfg e').tuned = e'.tuned := by
    intro e'
    unfold checkLinkDegraded
    split
    · rfl
    · split
      · split <;> rfl
      · split <;> rfl
  have hpop : ∀ e' : Endpoint,
      (e'.mapTp fun _ => (consumeRecentNoack cfg e'.tp).1).tuned = e'.tuned := by
    intro e'
    exact Prod.ext (tuned_consumeRecentNoack _).1 (tuned_consumeRecentNoack _).2
  have hrecord : ∀ e' : Endpoint, (recordSuccess cfg e' txAttempts).tuned = e'.tuned := by
    intro e'
    unfold recordSuccess
    dsimp only
    split
    · exact hpop e'
    · rw [hdegraded]
      exact hpop e'
  unfold hopOnSuccess
  split
  · rfl
  · exact hrecord _

theorem tuned_hopOnFailure : (hopOnFailure cfg e).tuned = e.tuned := by
  have hwindow : (checkFailWindow cfg e).tuned = e.tuned := by
    unfold checkFailWindow
    split
    · rfl
    · split <;> rfl
  have hweak : (checkWeakLink cfg (checkFailWindow cfg e)).tuned = e.tuned := by
    refine Eq.trans ?_ hwindow
    unfold checkWeakLink
    split <;> rfl
  unfold hopOnFailure
  split
  · rfl
  · refine Eq.trans ?_ hweak
    exact Prod.ext (tuned_consumeRecentNoack _).1 (tuned_consumeRecentNoack _).2

theorem tuned_evtCb (evtId : EsbEvtId) (txAttempts : Nat) :
    (zmkEsbTransportEvtCb cfg e evtId txAttempts).tuned = e.tuned := by
  cases evtId with
  | txSuccess =>
    unfold zmkEsbTransportEvtCb
    dsimp only
    split
    · rfl
    · unfold onTxSuccess
      dsimp only
      rw [tuned_finishMotion, tuned_finishCritical]
      split
      · exact tuned_hopOnSuccess _
      · exact tuned_hopOnSuccess _
  | txFailed =>
    unfold zmkEsbTransportEvtCb
    dsimp only
    split
    · rfl
    · simp only [onTxFailed, apply_ite Endpoint.tuned, tuned_esbFlushTxAndReset,
        tuned_finishMotion, tuned_finishCritical, ite_self, tuned_hopOnFailure]
      rfl
  | rxReceived =>
    have htake : ∀ (fifo : List (List UInt8)) (tp : Transport),
        (fifo.foldl (takeRxPayload cfg) tp).channel = tp.channel ∧
          (fifo.foldl (takeRxPayload cfg) tp).bootChannel = tp.bootChannel := by
      intro fifo
      induction fifo with
      | nil => exact fun tp => ⟨rfl, rfl⟩
      | cons data fifo ih =>
        intro tp
        obtain ⟨hchannel, hboot⟩ := ih (takeRxPayload cfg tp data)
        refine ⟨hchannel.trans ?_, hboot.trans ?_⟩
        · unfold takeRxPayload
          split <;> rfl
        · unfold takeRxPayload
          split <;> rfl
    simp only [zmkEsbTransportEvtCb, onRxReceived]
    split
    · rfl
    · exact Prod.ext (htake _ _).1 (htake _ _).2

/-- **The end of a transmission does not tune.** -/
theorem tuned_txDone (outcome : TxOutcome) : (txDone cfg e outcome).tuned = e.tuned := by
  have hevents : ∀ (n : Nat) (events : List EsbEvtId) (e' : Endpoint),
      (events.foldl (fun e'' evtId => zmkEsbTransportEvtCb cfg e'' evtId n) e').tuned =
        e'.tuned := by
    intro n events
    induction events with
    | nil => exact fun _ => rfl
    | cons evtId events ih =>
      intro e'
      exact (ih _).trans (tuned_evtCb evtId n)
  unfold txDone
  split
  · rfl
  · exact hevents _ _ _

/-! ## Work items that send -/

theorem tuned_negotiateWorkFn : (negotiateWorkFn cfg e).tuned = e.tuned := by
  unfold negotiateWorkFn
  split
  · rfl
  · split
    · rfl
    · simp only []
      split
      · split
        · exact tuned_esbTransportSend _ _
        · rfl
      · split
        · exact tuned_esbTransportSend _ _
        · rfl

theorem tuned_sendIdlePacket : (sendIdlePacket cfg e).tuned = e.tuned := by
  unfold sendIdlePacket
  rw [tuned_esbTransportSend]
  rfl

theorem tuned_idleCheckWorkFn : (idleCheckWorkFn cfg e).tuned = e.tuned := by
  unfold idleCheckWorkFn
  split
  · rfl
  · unfold enterIdleState
    split
    · rfl
    · exact tuned_sendIdlePacket

theorem tuned_postHopBurstTail : (postHopBurstTail cfg e).tuned = e.tuned := by
  simp only [postHopBurstTail]
  split
  · rfl
  · split
    · rw [tuned_sendIdlePacket]
      rfl
    · rfl

theorem tuned_sendBlockingBegin (channel : UInt8) (pipe : Nat) (data : List UInt8) :
    (sendBlockingBegin cfg e channel pipe data).1.tuned = e.tuned := by
  simp only [sendBlockingBegin]
  split
  · rfl
  · split
    · rfl
    · split
      · rfl
      · split
        · rfl
        · split <;> rfl

theorem tuned_postHopBurstWorkFn : (postHopBurstWorkFn cfg e).1.tuned = e.tuned := by
  have hcandidate : (burstCandidate cfg e).1.tuned = e.tuned := by
    simp only [burstCandidate, selectPendingCandidate]
    split
    · rfl
    · split <;> rfl
  have htick : ∀ (e' : Endpoint) candidate,
      (postHopBurstTick cfg e' candidate).1.tuned = e'.tuned := by
    intro e' candidate
    have hbegin := @tuned_sendBlockingBegin cfg e' e'.tp.bootChannel esbPipeData
      [esbPktChannelHopProposal, e'.tp.channel, e'.tp.channel]
    unfold postHopBurstTick
    split
    · split
      · rename_i heq
        rw [heq] at hbegin
        exact hbegin
      · rename_i heq
        rw [heq] at hbegin
        dsimp only at hbegin ⊢
        rw [tuned_postHopBurstTail, hbegin]
    · split
      · exact tuned_postHopBurstTail.trans (tuned_esbTransportSend _ _)
      · exact tuned_postHopBurstTail
  unfold postHopBurstWorkFn
  split
  · rfl
  · exact (htick _ _).trans hcandidate

theorem tuned_postHopBurstResume : (postHopBurstResume cfg e).tuned = e.tuned := by
  have hend : (sendBlockingEnd cfg e).1.tuned = e.tuned := by
    simp only [sendBlockingEnd]
    split <;> rfl
  unfold postHopBurstResume
  rw [tuned_postHopBurstTail, hend]

theorem tuned_coopHopOfferBegin : (coopHopOfferBegin cfg e).1.tuned = e.tuned := by
  have hpick : (coopHopPickTarget cfg e).1.tuned = e.tuned := by
    unfold coopHopPickTarget
    split <;> rfl
  unfold coopHopOfferBegin
  split
  · rfl
  · split
    · rfl
    · dsimp only
      split
      · exact hpick
      · exact hpick

theorem tuned_coopHopOfferSend (pkt : List UInt8) :
    (coopHopOfferSend cfg e pkt).tuned = e.tuned := by
  have hsent := @tuned_esbTransportSend cfg e esbPipeData pkt
  unfold coopHopOfferSend
  split
  · rename_i heq
    rw [heq] at hsent
    exact hsent
  · rename_i heq
    rw [heq] at hsent
    exact hsent

theorem tuned_coopHopOfferWorkFn : (coopHopOfferWorkFn cfg e).tuned = e.tuned := by
  have hbegin := @tuned_coopHopOfferBegin cfg e
  unfold coopHopOfferWorkFn
  split
  · rename_i heq
    rw [heq] at hbegin
    exact hbegin
  · rename_i heq
    rw [heq] at hbegin
    exact (tuned_coopHopOfferSend _).trans hbegin

/-! ## The slot and the pairing machine -/

theorem tuned_esbTransportOnSlotStart : (esbTransportOnSlotStart cfg e).tuned = e.tuned := by
  simp only [esbTransportOnSlotStart, esbInitAndConfigure, Endpoint.tuned, Endpoint.mapTp_tp]
  split <;> split <;> rfl

theorem tuned_notifyConnected : (notifyConnected cfg e).tuned = e.tuned := by
  simp only [notifyConnected]
  split <;> rfl

theorem tuned_notifyDisconnected : (notifyDisconnected cfg e).tuned = e.tuned := by
  simp only [notifyDisconnected]
  split <;> rfl

theorem tuned_onShellData (buf : List UInt8) (len : Nat) :
    (onShellData cfg e buf len).tuned = e.tuned := by
  simp only [onShellData]
  split
  · split
    · unfold esbShellRelayOnData
      split
      · split
        · exact tuned_esbTransportSend _ _
        · rfl
      · rfl
    · rfl
  · rfl

theorem tuned_pairingOnRx (buf : List UInt8) (len : Nat) :
    (pairingOnRx cfg e buf len).tuned = e.tuned := by
  unfold pairingOnRx
  split
  · rfl
  · split
    · simp only [onPairReq]
      split
      · exact tuned_notifyConnected.trans (tuned_esbTransportSend _ _)
      · rfl
    · unfold onVerifyResp
      split
      · split
        · exact tuned_notifyConnected
        · rfl
      · rfl
    · exact tuned_notifyDisconnected
    · unfold onResync
      split
      · exact tuned_notifyDisconnected
      · rfl
    · split <;> rfl
    · split <;> rfl
    · split <;> rfl
    · unfold esbTransportOnRxLinkStats
      split <;> rfl
    · split <;> rfl
    · split
      · exact tuned_onShellData buf len
      · rfl
    · rfl

theorem tuned_beaconWorkFn : (beaconWorkFn cfg e).tuned = e.tuned := by
  simp only [beaconWorkFn]
  split
  · rfl
  · exact tuned_esbTransportSend _ _

theorem tuned_verifyWorkFn : (verifyWorkFn cfg e).tuned = e.tuned := by
  simp only [verifyWorkFn]
  split
  · rfl
  · exact tuned_esbTransportSend _ _

end EsbEndpoint
