import EsbEndpoint.Hop.Reach

/-!
# What the manager's entry points leave standing

A packet, the end of a transmission and a call of the manager mark the
link, the handshake and what is to run. What was agreed on, the burst and
the two cooldowns are for a hop to set up and for a disconnect to take
back; of these an answer of the dongle moves the first alone. Said once
here (`HopMoves.stands`), it is what the properties of each are derived
from.
-/

namespace EsbEndpoint

/-- The statics that a hop sets up. -/
structure HopStanding where
  committedNext : UInt8
  postHopBurstRemaining : UInt8
  postHopBurstWork : Delayable
  pendingCandidate : UInt8
  hopCooldownUntil : UInt32
  coopHopCooldownUntil : UInt32

def HopEp.standing (h : HopEp) : HopStanding where
  committedNext := h.committedNext
  postHopBurstRemaining := h.postHopBurstRemaining
  postHopBurstWork := h.postHopBurstWork
  pendingCandidate := h.pendingCandidate
  hopCooldownUntil := h.hopCooldownUntil
  coopHopCooldownUntil := h.coopHopCooldownUntil

variable {cfg : Config} {s : HopTrace} {e : Endpoint} {h h' : HopEp} {now : UInt32}

/-! ## The entry points -/

theorem standing_onTxFail (hfail : OnTxFail cfg now h h') : h'.standing = h.standing := by
  cases hfail <;> rfl

theorem standing_onTxFailIsr : (channelHopEpOnTxFailIsr cfg now h).standing = h.standing :=
  standing_onTxFail onTxFail_onTxFailIsr

theorem standing_noteUserTx : (channelHopEpNoteUserTx cfg h).standing = h.standing := by
  rcases @noteUserTx_cases cfg h with hs | ⟨-, work, hs⟩
  · rw [hs]
  · rw [hs]
    rfl

theorem standing_onConnected : (channelHopEpOnConnected cfg h).standing = h.standing := by
  cases hhop : cfg.channelHop with
  | false =>
    unfold channelHopEpOnConnected
    rw [hhop, Bool.not_false, if_pos rfl]
  | true =>
    obtain ⟨work, hs⟩ := @onConnected_cases cfg h hhop
    rw [hs]
    rfl

theorem standing_onTxSuccess : (channelHopEpOnTxSuccessIsr cfg now h).standing = h.standing := by
  rcases @onTxSuccessIsr_cases cfg now h with hs | ⟨tag, state, work, -, hs⟩
  · rw [hs]
  · rw [hs]
    rfl

theorem standing_onLinkDegraded :
    (channelHopEpOnLinkDegradedIsr cfg now h).standing = h.standing := by
  rcases @onLinkDegradedIsr_cases cfg now h with hs | ⟨-, -, -, -, hs⟩
  · rw [hs]
  · rw [hs]
    rfl

theorem standing_onRequest : (channelHopEpOnRequest cfg now h).standing = h.standing := by
  rcases @onRequest_cases cfg now h with hs | ⟨-, burst, synced, work, hs⟩
  · rw [hs]
  · rw [hs]
    exact standing_onTxFailIsr.trans rfl

theorem standing_onTxDone {outcome : TxOutcome} (hdone : OnTxDone cfg e outcome h') :
    h'.standing = e.hop.standing :=
  hdone.keeps (P := fun h => h.standing = e.hop.standing)
    (fun _ hkept => standing_onTxSuccess.trans hkept)
    (fun _ hkept => standing_onLinkDegraded.trans hkept)
    (fun _ hkept => standing_onTxFailIsr.trans hkept) rfl

theorem standing_enterIdleBegin : (enterIdleBegin cfg h).standing = h.standing := by
  unfold enterIdleBegin
  simp only []
  split <;> rfl

/-- An answer of the dongle moves what is agreed on. -/
theorem standing_onRx (buf : List UInt8) (len : Nat) :
    (channelHopEpOnRx cfg h buf len).standing =
      { h.standing with committedNext := (channelHopEpOnRx cfg h buf len).committedNext } := by
  obtain ⟨_, _, _, _, _, hs⟩ := @onRx_cases cfg h buf len
  rw [hs]
  rfl

/-- Without a manager, a disconnect is no event. -/
theorem onDisconnected_off (hoff : cfg.channelHop = false) :
    channelHopEpOnDisconnected cfg h = h := by
  unfold channelHopEpOnDisconnected
  rw [hoff, Bool.not_false, if_pos rfl]

/-! ## Steps -/

/-- The burst and the cooldowns are left standing. -/
def Stands (h h' : HopEp) : Prop :=
  h'.standing = { h.standing with committedNext := h'.committedNext }

theorem Stands.of_eq (heq : h'.standing = h.standing) : Stands h h' := by
  have hnext : h'.committedNext = h.committedNext := congrArg HopStanding.committedNext heq
  rw [Stands, heq, hnext]
  rfl

/-- A disconnect that is none of the manager's leaves all standing. -/
theorem stands_onDisconnected (hoff : cfg.channelHop ≠ true) :
    Stands h (channelHopEpOnDisconnected cfg h) := by
  rw [onDisconnected_off (Bool.eq_false_iff.2 hoff)]
  exact .of_eq rfl

/-- **A call leaves them standing**, unless it is the disconnect. -/
theorem stands_call (entry : HopCall) (hdis : epDisconnects cfg s (.call entry) = false) :
    Stands s.e.hop (entry.apply cfg s.e.now s.e.hop) := by
  cases entry with
  | onConnected => exact .of_eq standing_onConnected
  | onDisconnected =>
    refine stands_onDisconnected fun hmanager => ?_
    rw [epDisconnects, hmanager] at hdis
    exact Bool.noConfusion hdis
  | noteUserTx => exact .of_eq standing_noteUserTx
  | onTxFailIsr => exact .of_eq standing_onTxFailIsr
  | onTxSuccessIsr => exact .of_eq standing_onTxSuccess
  | onLinkDegradedIsr => exact .of_eq standing_onLinkDegraded
  | onRx buf len => exact standing_onRx buf len
  | onRequest => exact .of_eq standing_onRequest

/-- A packet that does not disconnect leaves them standing. -/
theorem stands_packet {buf : List UInt8} {len : Nat} {p' : Pairing} (hfree : s.workq = .free)
    (hrx : OnRx cfg s.e buf len p' h') (hdis : disconnects cfg s (.rx buf len) = false) :
    Stands s.e.hop h' := by
  have hoff := Bool.eq_false_iff.1 hdis
  exact hrx.keeps hfree (.of_eq rfl) (.of_eq standing_noteUserTx)
    (fun _ => .of_eq standing_onConnected)
    (fun hyes => stands_onDisconnected fun hmanager => hoff (hyes hmanager))
    (standing_onRx buf len) (.of_eq standing_onRequest)

/-- A step that neither hops nor ticks. -/
def EpOp.offBurst : EpOp → Bool
  | .step .hop | .step .commit | .step .postHopBurst | .step .sideTripEnd => false
  | _ => true

/-- **Only a hop, a tick and a disconnect** move the burst or a cooldown. -/
theorem HopMoves.stands {op : HopOp} (hmoves : HopMoves cfg s op h')
    (hdis : disconnects cfg s op = false) (hoff : (EpOp.step op).offBurst = true) :
    Stands s.e.hop h' := by
  cases hmoves with
  | noted pipe data => exact .of_eq standing_noteUserTx
  | ended hdone => exact .of_eq (standing_onTxDone hdone)
  | stopped => exact stands_onDisconnected (Bool.eq_false_iff.1 hdis)
  | packet hfree hrx => exact stands_packet hfree hrx hdis
  | idled hidle => exact .of_eq standing_enterIdleBegin
  | offerSent => exact .of_eq standing_noteUserTx
  | @offerWithdrawn h₁ hsent =>
    rcases hsent with rfl | rfl
    · exact .of_eq rfl
    · exact .of_eq standing_noteUserTx
  | burst | burstResumed | hop | commit => exact Bool.noConfusion hoff
  | _ => exact .of_eq rfl

/-- **And so for a step of any kind.** -/
theorem stands_epStep {op : EpOp} (hdis : epDisconnects cfg s op = false)
    (hoff : op.offBurst = true) : Stands s.e.hop (epStep cfg s op).e.hop := by
  cases op with
  | call entry => exact stands_call entry hdis
  | step op => exact (hopMoves_hopStep op).stands hdis hoff

/-- The steps that are off the burst, -/
theorem EpOp.ne_of_offBurst {op : EpOp} (hoff : op.offBurst = true) :
    op ≠ .step .hop ∧ op ≠ .step .commit ∧ op ≠ .step .postHopBurst ∧
      op ≠ .step .sideTripEnd := by
  refine ⟨?_, ?_, ?_, ?_⟩ <;> rintro rfl <;> exact Bool.noConfusion hoff

/-- and those that are not. -/
theorem EpOp.offBurst_cases (op : EpOp) :
    op.offBurst = true ∨ (op = .step .hop ∨ op = .step .commit) ∨ op = .step .postHopBurst ∨
      op = .step .sideTripEnd := by
  unfold EpOp.offBurst
  split <;> simp

end EsbEndpoint
