import EsbEndpoint.Hop.Reach
import EsbEndpoint.Transport.Received

/-!
# The clock

`k_uptime_get_32` is read by most of the endpoint and moved by none of it:
time passes in a step of its own (`uptime_epStep`).
-/

namespace EsbEndpoint

variable {cfg : Config} {e : Endpoint} {s : HopTrace}

/-! ## The transport -/

theorem uptime_esbTransportSetChannel (channel : UInt8) :
    (esbTransportSetChannel cfg e channel).1.uptime = e.uptime :=
  congrArg Prod.fst (@given_esbTransportSetChannel cfg e channel)

theorem uptime_esbTransportOnSlotStart : (esbTransportOnSlotStart cfg e).uptime = e.uptime := by
  simp only [esbTransportOnSlotStart, esbInitAndConfigure]
  split <;> rfl

/-! ## The pairing machine -/

theorem uptime_notifyConnected : (notifyConnected cfg e).uptime = e.uptime := by
  simp only [notifyConnected]
  split <;> rfl

theorem uptime_notifyDisconnected : (notifyDisconnected cfg e).uptime = e.uptime := by
  simp only [notifyDisconnected]
  split <;> rfl

theorem uptime_onShellData (buf : List UInt8) (len : Nat) :
    (onShellData cfg e buf len).uptime = e.uptime := by
  simp only [onShellData]
  split
  · split
    · unfold esbShellRelayOnData
      split
      · split
        · exact uptime_esbTransportSend _ _
        · rfl
      · rfl
    · rfl
  · rfl

theorem uptime_pairingOnRx (buf : List UInt8) (len : Nat) :
    (pairingOnRx cfg e buf len).uptime = e.uptime := by
  unfold pairingOnRx
  split
  · rfl
  · split
    · simp only [onPairReq]
      split
      · exact uptime_notifyConnected.trans (uptime_esbTransportSend _ _)
      · rfl
    · unfold onVerifyResp
      split
      · split
        · exact uptime_notifyConnected
        · rfl
      · rfl
    · exact uptime_notifyDisconnected
    · unfold onResync
      split
      · exact uptime_notifyDisconnected
      · rfl
    · split <;> rfl
    · split <;> rfl
    · split <;> rfl
    · unfold esbTransportOnRxLinkStats
      split <;> rfl
    · split <;> rfl
    · split
      · exact uptime_onShellData buf len
      · rfl
    · rfl

/-! ## The work items -/

theorem uptime_negotiateWorkFn : (negotiateWorkFn cfg e).uptime = e.uptime := by
  unfold negotiateWorkFn
  split
  · rfl
  · split
    · rfl
    · simp only []
      split
      · split
        · exact uptime_esbTransportSend _ _
        · rfl
      · split
        · exact uptime_esbTransportSend _ _
        · rfl

theorem uptime_sendIdlePacket : (sendIdlePacket cfg e).uptime = e.uptime := by
  unfold sendIdlePacket
  rw [uptime_esbTransportSend]
  exact congrArg Prod.fst (@given_esbFlushTxAndReset cfg e)

theorem uptime_postHopBurstTail : (postHopBurstTail cfg e).uptime = e.uptime := by
  simp only [postHopBurstTail]
  split
  · rfl
  · split
    · rw [uptime_sendIdlePacket]
      rfl
    · rfl

theorem uptime_sendBlockingBegin (channel : UInt8) (pipe : Nat) (data : List UInt8) :
    (sendBlockingBegin cfg e channel pipe data).1.uptime = e.uptime := by
  simp only [sendBlockingBegin]
  split
  · rfl
  · split
    · rfl
    · split
      · rfl
      · split
        · rfl
        · split <;> rfl

theorem uptime_postHopBurstTick (candidate : UInt8) :
    (postHopBurstTick cfg e candidate).1.uptime = e.uptime := by
  have hbegin := @uptime_sendBlockingBegin cfg e e.tp.bootChannel esbPipeData
    [esbPktChannelHopProposal, e.tp.channel, e.tp.channel]
  unfold postHopBurstTick
  split
  · split
    · rename_i heq
      rw [heq] at hbegin
      exact hbegin
    · rename_i heq
      rw [heq] at hbegin
      dsimp only at hbegin ⊢
      rw [uptime_postHopBurstTail, hbegin]
  · split
    · exact uptime_postHopBurstTail.trans (uptime_esbTransportSend _ _)
    · exact uptime_postHopBurstTail

theorem uptime_postHopBurstWorkFn : (postHopBurstWorkFn cfg e).1.uptime = e.uptime := by
  have hcandidate : (burstCandidate cfg e).1.uptime = e.uptime := by
    simp only [burstCandidate, selectPendingCandidate]
    split
    · rfl
    · split <;> rfl
  unfold postHopBurstWorkFn
  split
  · rfl
  · exact (uptime_postHopBurstTick _).trans hcandidate

theorem uptime_postHopBurstResume : (postHopBurstResume cfg e).uptime = e.uptime := by
  have hend : (sendBlockingEnd cfg e).1.uptime = e.uptime := by
    simp only [sendBlockingEnd]
    split <;> rfl
  unfold postHopBurstResume
  rw [uptime_postHopBurstTail, hend]

theorem uptime_hopTo (kind : HopKind) (target : UInt8) :
    (hopTo cfg e kind target).uptime = e.uptime := by
  have hset := @uptime_esbTransportSetChannel cfg e target
  unfold hopTo
  split
  · rename_i heq
    rw [heq] at hset
    exact hset
  · rename_i heq
    rw [heq] at hset
    exact hset

theorem uptime_hopWorkFn : (hopWorkFn cfg e).uptime = e.uptime := by
  have hcleared : ∀ kind : HopKind, (if kind = .fallback then
      e.mapHop fun h => { h with rendezvousFallbackPending := false } else e).uptime =
        e.uptime := by
    intro kind
    split <;> rfl
  obtain ⟨prngState, fails, hfst, -⟩ := @hopTarget_fst cfg (if hopKind cfg e = .fallback then
    e.mapHop fun h => { h with rendezvousFallbackPending := false } else e) (hopKind cfg e)
  have htarget : (hopTarget cfg (if hopKind cfg e = .fallback then
      e.mapHop fun h => { h with rendezvousFallbackPending := false } else e)
        (hopKind cfg e)).1.uptime = e.uptime := by
    rw [hfst]
    exact hcleared _
  simp only [hopWorkFn]
  split
  · rename_i heq
    rw [heq] at htarget
    exact htarget
  · rename_i heq
    rw [heq] at htarget
    exact (uptime_hopTo _ _).trans htarget

theorem uptime_coopHopOfferBegin : (coopHopOfferBegin cfg e).1.uptime = e.uptime := by
  have hpick : (coopHopPickTarget cfg e).1.uptime = e.uptime := by
    unfold coopHopPickTarget
    split <;> rfl
  simp only [coopHopOfferBegin]
  split
  · rfl
  · split
    · rfl
    · split
      · exact hpick
      · exact hpick

theorem uptime_coopHopOfferSend (pkt : List UInt8) :
    (coopHopOfferSend cfg e pkt).uptime = e.uptime := by
  have hsend := @uptime_esbTransportSend cfg e esbPipeData pkt
  unfold coopHopOfferSend
  split
  · rename_i heq
    rw [heq] at hsend
    exact hsend
  · rename_i heq
    rw [heq] at hsend
    exact hsend

theorem uptime_coopHopCommitWorkFn : (coopHopCommitWorkFn cfg e).uptime = e.uptime := by
  have hset := @uptime_esbTransportSetChannel cfg e e.hop.coopHopTarget
  simp only [coopHopCommitWorkFn]
  split
  · rfl
  · split
    · rfl
    · split
      · rename_i heq
        rw [heq] at hset
        exact hset
      · rename_i heq
        rw [heq] at hset
        exact hset

/-! ## Steps -/

/-- The time a step takes. -/
def EpOp.ms : EpOp → Nat
  | .step (.tick ms) => ms
  | _ => 0

/-- A work item takes none. -/
theorem uptime_fire {due : Bool} {next : HopTrace} (h : next.e.uptime = s.e.uptime) :
    (s.fire due next).e.uptime = s.e.uptime := by
  unfold HopTrace.fire
  split
  · exact h
  · rfl

/-- **Time passes in ticks.** -/
theorem uptime_epStep (op : EpOp) : (epStep cfg s op).e.uptime = s.e.uptime + op.ms := by
  cases op with
  | call entry => rfl
  | step op =>
    cases op with
    | send pipe data => exact uptime_esbTransportSend pipe data
    | txDone outcome => exact (frame_txDone outcome).1
    | slotStart => exact uptime_esbTransportOnSlotStart
    | pairingStop => exact uptime_notifyDisconnected
    | tick ms => rfl
    | rx buf len => exact uptime_fire (uptime_pairingOnRx buf len)
    | beacon =>
      refine uptime_fire ?_
      simp only [beaconWorkFn]
      split
      · rfl
      · exact uptime_esbTransportSend _ _
    | verify =>
      refine uptime_fire ?_
      simp only [verifyWorkFn]
      split
      · rfl
      · exact uptime_esbTransportSend _ _
    | negotiate => exact uptime_fire uptime_negotiateWorkFn
    | idleCheck =>
      refine uptime_fire ?_
      simp only [idleCheckBegin]
      split <;> rfl
    | postHopBurst => exact uptime_fire uptime_postHopBurstWorkFn
    | sideTripEnd =>
      simp only [epStep, hopStep]
      split
      · exact uptime_postHopBurstResume
      · rfl
    | hop => exact uptime_fire uptime_hopWorkFn
    | hopRetry => exact uptime_fire rfl
    | offer => exact uptime_fire uptime_coopHopOfferBegin
    | offerSend =>
      simp only [epStep, hopStep]
      split
      · exact uptime_coopHopOfferSend _
      · rfl
    | commit => exact uptime_fire uptime_coopHopCommitWorkFn
    | _ => rfl

end EsbEndpoint
