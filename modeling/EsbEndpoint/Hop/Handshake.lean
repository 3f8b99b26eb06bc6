import EsbEndpoint.Hop.Switch

/-!
# The cooperative handshake

The part of the hop manager an offer goes through: `OFFERED` when the link
degrades, `ARMED` when the packet tagged as the offer is acknowledged,
`IDLE` again after the commit or a failure. Radio events move it in three
ways, and an abort or a failed send ends it (`Closed`); a `HOP_ACCEPT`
moves the target alone. Everything else the endpoint does leaves it as it
is.
-/

namespace EsbEndpoint

/-- The statics of a handshake. `offerPending` is a scheduled
`coop_hop_offer_work`. -/
structure Handshake where
  state : CoopHopState
  target : UInt8
  seq : UInt8
  lastTxWasOffer : Bool
  offerPending : Bool

def HopEp.handshake (h : HopEp) : Handshake where
  state := h.coopHopState
  target := h.coopHopTarget
  seq := h.coopHopSeq
  lastTxWasOffer := h.lastTxWasOffer
  offerPending := h.coopHopOfferWork.isSome

namespace Handshake

variable (h : Handshake)

/-- The end of a tagged packet: the tag is spent, and an offer moves on. -/
def tagSpent (next : CoopHopState) : Handshake :=
  if h.lastTxWasOffer then
    { h with lastTxWasOffer := false, state := if h.state = .offered then next else h.state }
  else h

/-- A degraded link asks for an offer, outside a handshake. -/
def degraded : Handshake :=
  if h.state = .idle then { h with state := .offered, offerPending := true } else h

/-- `coop_hop_abort` -/
def aborted : Handshake :=
  { h with state := .idle, lastTxWasOffer := false, offerPending := false }

/-- The offer could not be sent. -/
def withdrawn : Handshake := { h with state := .idle, lastTxWasOffer := false }

/-- What everything but an answer, an offer and a commit keeps. -/
structure Closed (P : Handshake → Prop) : Prop where
  delivered : ∀ h, P h → P (h.tagSpent .armed)
  failed : ∀ h, P h → P (h.tagSpent .idle)
  degraded : ∀ h, P h → P h.degraded
  aborted : ∀ h, P h → P h.aborted
  withdrawn : ∀ h, P h → P h.withdrawn

end Handshake

variable {cfg : Config} {e : Endpoint} {h : HopEp} {now : UInt32} {P : Handshake → Prop}

/-! ## The entry points -/

@[simp] theorem handshake_enterActiveState (sendInitialProposal : Bool) :
    (enterActiveState cfg h sendInitialProposal).handshake = h.handshake := by
  simp only [enterActiveState]
  split <;> rfl

@[simp] theorem handshake_onConnected :
    (channelHopEpOnConnected cfg h).handshake = h.handshake := by
  rw [channelHopEpOnConnected]
  split
  · rfl
  · exact handshake_enterActiveState true

@[simp] theorem handshake_noteUserTx :
    (channelHopEpNoteUserTx cfg h).handshake = h.handshake := by
  rw [channelHopEpNoteUserTx]
  split
  · rfl
  · split
    · rfl
    · exact handshake_enterActiveState false

theorem handshake_onDisconnected (hP : Handshake.Closed P) (hp : P h.handshake) :
    P (channelHopEpOnDisconnected cfg h).handshake := by
  simp only [channelHopEpOnDisconnected]
  split
  · exact hp
  · split
    · exact hP.aborted _ hp
    · exact hp

theorem handshake_onLinkDegraded (hP : Handshake.Closed P) (hp : P h.handshake) :
    P (channelHopEpOnLinkDegradedIsr cfg now h).handshake := by
  rw [channelHopEpOnLinkDegradedIsr]
  split
  · exact hp
  · split
    · exact hp
    · split
      · exact hp
      · rename_i hidle
        split
        · exact hp
        · rw [bne_iff_ne, not_not] at hidle
          have hnext := hP.degraded _ hp
          rw [Handshake.degraded, if_pos (show h.handshake.state = .idle from hidle)] at hnext
          exact hnext

/-- The tag of an acknowledged packet arms an offer. -/
theorem handshake_onOfferAcked :
    (onOfferAcked cfg h).handshake =
      if cfg.coopHop then h.handshake.tagSpent .armed else h.handshake := by
  by_cases hcoop : cfg.coopHop = true
  · by_cases htag : h.lastTxWasOffer = true
    · by_cases hstate : h.coopHopState = .offered <;>
        simp [onOfferAcked, Handshake.tagSpent, HopEp.handshake, hcoop, htag, hstate]
    · simp [onOfferAcked, Handshake.tagSpent, HopEp.handshake, htag]
  · simp [onOfferAcked, hcoop]

/-- The tag of a failed one ends it. -/
theorem handshake_onOfferFailed :
    (onOfferFailed cfg h).1.handshake =
      if cfg.coopHop then h.handshake.tagSpent .idle else h.handshake := by
  by_cases hcoop : cfg.coopHop = true
  · by_cases htag : h.lastTxWasOffer = true
    · by_cases hstate : h.coopHopState = .offered <;>
        simp [onOfferFailed, Handshake.tagSpent, HopEp.handshake, hcoop, htag, hstate]
    · simp [onOfferFailed, Handshake.tagSpent, HopEp.handshake, htag]
  · simp [onOfferFailed, hcoop]

theorem handshake_onTxSuccess (hP : Handshake.Closed P) (hp : P h.handshake) :
    P (channelHopEpOnTxSuccessIsr cfg now h).handshake := by
  rw [channelHopEpOnTxSuccessIsr]
  split
  · exact hp
  · have hacked : P (onOfferAcked cfg h).handshake := by
      rw [handshake_onOfferAcked]
      split
      · exact hP.delivered _ hp
      · exact hp
    exact hacked

theorem handshake_onTxFail (hP : Handshake.Closed P) (hp : P h.handshake) :
    P (channelHopEpOnTxFailIsr cfg now h).handshake := by
  have hfailed : P (onOfferFailed cfg h).1.handshake := by
    rw [handshake_onOfferFailed]
    split
    · exact hP.failed _ hp
    · exact hp
  simp only [channelHopEpOnTxFailIsr]
  split
  · exact hp
  · split
    · exact hfailed
    · split
      · exact hfailed
      · split
        · split <;> exact hfailed
        · exact hfailed

theorem handshake_onRequest (hP : Handshake.Closed P) (hp : P h.handshake) :
    P (channelHopEpOnRequest cfg now h).handshake := by
  rw [channelHopEpOnRequest]
  split
  · exact hp
  · split
    · exact hp
    · exact handshake_onTxFail hP hp

/-! ## The transport -/

/-- **A send leaves the handshake alone.** -/
@[simp] theorem handshake_esbTransportSend (pipe : Nat) (data : List UInt8) :
    (esbTransportSend cfg e pipe data).1.hop.handshake = e.hop.handshake := by
  rcases hop_esbTransportSend cfg e pipe data with hsend | hsend
  · rw [hsend]
  · rw [hsend, handshake_noteUserTx]

/-- **The end of a transmission** moves the handshake as its events do. -/
theorem handshake_txDone (hP : Handshake.Closed P) (hp : P e.hop.handshake)
    (outcome : TxOutcome) : P (txDone cfg e outcome).hop.handshake :=
  OnTxDone.keeps (P := fun h => P h.handshake) (fun _ => handshake_onTxSuccess hP)
    (fun _ => handshake_onLinkDegraded hP) (fun _ => handshake_onTxFail hP) hp
    (onTxDone_txDone outcome)

/-- **A received packet**, up to what `channel_hop_ep_on_rx` does with it. -/
theorem handshake_pairingOnRx (hP : Handshake.Closed P) (hp : P e.hop.handshake)
    {buf : List UInt8} {len : Nat}
    (hanswer : P (channelHopEpOnRx cfg e.hop buf len).handshake) :
    P (pairingOnRx cfg e buf len).hop.handshake := by
  have hrx := @onRx_pairingOnRx cfg e buf len
  generalize (pairingOnRx cfg e buf len).pairing = p' at hrx
  generalize (pairingOnRx cfg e buf len).hop = h' at hrx ⊢
  cases hrx with
  | ignored => exact hp
  | nudged =>
    rw [handshake_noteUserTx]
    exact hp
  | paired htype hlen hstate =>
    rw [handshake_onConnected]
    exact hp
  | verified htype hlen hstate hid =>
    rw [handshake_onConnected]
    exact hp
  | disconnected htype hlen => exact handshake_onDisconnected hP hp
  | resynced htype hlen hstate => exact handshake_onDisconnected hP hp
  | answered htype => exact hanswer
  | requested htype hlen => exact handshake_onRequest hP hp

/-! ## The work items -/

theorem handshake_negotiateWorkFn :
    (negotiateWorkFn cfg e).hop.handshake = e.hop.handshake := by
  obtain ⟨_, _, _, _, hhop⟩ := @hop_negotiateWorkFn cfg e
  rw [hhop]
  rfl

theorem handshake_enterIdleBegin (hP : Handshake.Closed P) (hp : P h.handshake) :
    P (enterIdleBegin cfg h).handshake := by
  simp only [enterIdleBegin]
  split
  · exact hP.aborted _ hp
  · exact hp

theorem handshake_postHopBurstWorkFn :
    (postHopBurstWorkFn cfg e).1.hop.handshake = e.hop.handshake := by
  obtain ⟨_, _, _, _, hhop⟩ := @hop_postHopBurstWorkFn cfg e
  rw [hhop]
  rfl

theorem handshake_postHopBurstResume :
    (postHopBurstResume cfg e).hop.handshake = e.hop.handshake := by
  obtain ⟨_, _, hhop⟩ := @hop_postHopBurstResume cfg e
  rw [hhop]
  rfl

/-- A hop of the endpoint's own is none of the handshake's. -/
theorem handshake_hopWorkFn : (hopWorkFn cfg e).hop.handshake = e.hop.handshake := by
  have hwork := @hopWork_hopWorkFn cfg e
  generalize (hopWorkFn cfg e).tp.channel = channel at hwork
  generalize (hopWorkFn cfg e).hop = h' at hwork ⊢
  cases hwork with
  | stayed pending prngState hchoice => rfl
  | refused pending prngState hchoice hno => rfl
  | hopped pending prngState quarantine prev remaining candidate work hchoice hyes => rfl

/-! ## The cooperative work items -/

theorem lt_of_usableNext {c : UInt8} (hc : usableNext e c = true) :
    c.toNat < channelHopChannelCount := by
  simp only [usableNext, Bool.and_eq_true, Bool.not_eq_true'] at hc
  exact lt_of_quarantineIs_eq_false hc.2

/-- A target is invalid or one of the band. -/
theorem coopHopPickTarget_spec :
    (coopHopPickTarget cfg e).1.hop.handshake = e.hop.handshake ∧
      ((coopHopPickTarget cfg e).2 = channelHopInvalid ∨
        (coopHopPickTarget cfg e).2.toNat < channelHopChannelCount) := by
  rw [coopHopPickTarget]
  split
  · rename_i husable
    exact ⟨rfl, Or.inr (lt_of_usableNext husable)⟩
  · refine ⟨rfl, ?_⟩
    exact (channelHopPick_spec e.cycle e.hop.prngState cfg.channelQuarantineMinDistance
      e.tp.channel).imp_right fun hspec => lt_of_quarantineIs_eq_false hspec.1

/-- **What the offer's first half does**: nothing, or it gives up, or it
takes a target and a number and tags the packet it is about to send. -/
theorem coopHopOfferBegin_cases :
    (coopHopOfferBegin cfg e).2 = none ∧
        ((coopHopOfferBegin cfg e).1.hop.handshake = e.hop.handshake ∨
          (coopHopOfferBegin cfg e).1.hop.handshake = { e.hop.handshake with state := .idle }) ∨
      ∃ target, target.toNat < channelHopChannelCount ∧ e.hop.handshake.state = .offered ∧
        (coopHopOfferBegin cfg e).2.isSome = true ∧
        (coopHopOfferBegin cfg e).1.hop.handshake =
          { e.hop.handshake with
            target, seq := e.hop.handshake.seq + 1, lastTxWasOffer := true } := by
  obtain ⟨hkept, hband⟩ := @coopHopPickTarget_spec cfg e
  simp only [coopHopOfferBegin]
  split
  · exact Or.inl ⟨rfl, Or.inr rfl⟩
  · split
    · exact Or.inl ⟨rfl, Or.inl rfl⟩
    · rename_i hstate
      rw [bne_iff_ne, not_not] at hstate
      split
      · refine Or.inl ⟨rfl, Or.inr ?_⟩
        rw [← hkept]
        rfl
      · rename_i htarget
        refine Or.inr ⟨(coopHopPickTarget cfg e).2, ?_, hstate, rfl, ?_⟩
        · rcases hband with hinvalid | hlt
          · rw [hinvalid] at htarget
            exact absurd (by rfl) htarget
          · exact hlt
        · rw [← hkept]
          rfl

theorem handshake_coopHopOfferSend (hP : Handshake.Closed P) (hp : P e.hop.handshake)
    (pkt : List UInt8) : P (coopHopOfferSend cfg e pkt).hop.handshake := by
  have hsend : P (esbTransportSend cfg e esbPipeData pkt).1.hop.handshake := by
    rw [handshake_esbTransportSend]
    exact hp
  rw [coopHopOfferSend]
  split
  · rename_i heq
    rw [heq] at hsend
    exact hsend
  · rename_i heq
    rw [heq] at hsend
    exact hP.withdrawn _ hsend

/-- A commit ends the handshake, if it was armed. -/
theorem handshake_coopHopCommitWorkFn :
    (coopHopCommitWorkFn cfg e).hop.handshake = e.hop.handshake ∨
      (coopHopCommitWorkFn cfg e).hop.handshake = { e.hop.handshake with state := .idle } := by
  have hcommit := @commitWork_coopHopCommitWorkFn cfg e
  generalize (coopHopCommitWorkFn cfg e).tp.channel = channel at hcommit
  generalize (coopHopCommitWorkFn cfg e).hop = h' at hcommit ⊢
  cases hcommit with
  | unarmed hstate => exact Or.inl rfl
  | stayed hstate htarget => exact Or.inr rfl
  | refused hstate htarget hno => exact Or.inr rfl
  | committed quarantine remaining candidate work hstate htarget hyes => exact Or.inr rfl

end EsbEndpoint
