import EsbEndpoint.Hop.Burst
import EsbEndpoint.Hop.Pick
import EsbEndpoint.Hop.Quiescent
import EsbEndpoint.Hop.Tuned

/-!
# The proposals of a burst

The dongle commits to every `PROPOSAL` it reads, so a burst that proposed
another channel on each tick would leave the two sides apart. Every pick is
random; what a burst proposes is picked once, kept in
`m_pending_candidate`, and found usable again on each tick after it
(`Sticky`). `negotiate_work_fn` draws from the generator and leaves what is
kept alone.
-/

namespace EsbEndpoint

variable (cfg : Config)

/-! ## Proposals -/

/-- What a tick of `post_hop_burst_work_fn` decides to propose on the
current channel. -/
def burstProposal (e : Endpoint) : Option UInt8 :=
  if e.hop.postHopBurstRemaining == 0 ||
      cfg.rendezvous && sendOnRendezvous cfg (burstCandidate cfg e).1 then none
  else if (burstCandidate cfg e).2 != channelHopInvalid &&
      !(burstCandidate cfg e).1.hop.committedSynced then some (burstCandidate cfg e).2
  else none

/-- And a step. -/
def proposes (s : HopTrace) (op : EpOp) : Option UInt8 :=
  if ticksBurst s op then burstProposal cfg s.ticking else none

/-- **The channels named by the `PROPOSAL`s among the calls** of
`esb_transport_send`. -/
def proposalsIn (calls : List (Nat × List UInt8)) : List UInt8 :=
  (calls.filter fun call => isType esbPktChannelHopProposal call.2).map fun call =>
    call.2.getD 1 channelHopInvalid

/-- The ones that `post_hop_burst_work_fn` hands over in a step, all of
them for the current channel: a side-trip does not go through
`esb_transport_send`. -/
def proposals (s : HopTrace) (op : EpOp) : List UInt8 :=
  if ticksBurst s op then proposalsIn (s.e.handedTo (epStep cfg s op).e) else []

/-- **A step proposes this channel only**, and it is neither the current one
nor quarantined. -/
def ProposesOnly (c : UInt8) (s : HopTrace) (op : EpOp) : Prop :=
  ∀ c' ∈ proposals cfg s op,
    c' = c ∧ c ≠ s.e.tp.channel ∧ quarantineIs s.e.hop.quarantine s.e.now c = false

/-! ## Runs -/

/-- A `CONFIRM` is processed. -/
def EpOp.confirms (s : HopTrace) : EpOp → Bool
  | .step (.rx buf len) => cfg.channelHop && s.workq == .free && settles buf len
  | .call (.onRx buf len) => cfg.channelHop && settles buf len
  | _ => false

/-- A step of a burst that nothing cuts short: no `CONFIRM`, no further hop
and no disconnect. -/
def EpOp.goesOn (s : HopTrace) (op : EpOp) : Bool :=
  !op.confirms cfg s && !changesChannel cfg s op && !epDisconnects cfg s op

/-- No channel is quarantined that was not before. -/
def QuarantineShrinks (s s' : HopTrace) : Prop :=
  ∀ c ∈ channels, quarantineIs s.e.hop.quarantine s.e.now c = false →
    quarantineIs s'.e.hop.quarantine s'.e.now c = false

instance (s s' : HopTrace) : Decidable (QuarantineShrinks s s') :=
  inferInstanceAs (Decidable (∀ c ∈ channels, _ → _))

inductive ConvergeOp
  | ep (op : EpOp)
  /-- `k_cycle_get_32` goes on -/
  | cycles (cycle : UInt32)

def convergeStep (s : HopTrace) : ConvergeOp → HopTrace
  | .ep op => epStep cfg s op
  | .cycles cycle => { s with e := { s.e with cycle } }

/-- The burst of a run is left to itself. -/
def LeftToItself (s : HopTrace) : ConvergeOp → Prop
  | .ep op => op.goesOn cfg s = true ∧ QuarantineShrinks s (epStep cfg s op)
  | .cycles _ => True

instance (s : HopTrace) : (op : ConvergeOp) → Decidable (LeftToItself cfg s op)
  | .ep op => inferInstanceAs (Decidable (op.goesOn cfg s = true ∧ _))
  | .cycles _ => inferInstanceAs (Decidable True)

/-- Its proposals agree. -/
def Converges (c : UInt8) (s : HopTrace) : ConvergeOp → Prop
  | .ep op => ProposesOnly cfg c s op
  | .cycles _ => True

variable {cfg} {s : HopTrace} {e : Endpoint} {h h' : HopEp} {now : UInt32} {c : UInt8} {op : EpOp}

/-- **What a tick sends on the current channel is `burstProposal`.** -/
theorem postHopBurstWorkFn_of_proposal (hproposal : burstProposal cfg e = some c) :
    postHopBurstWorkFn cfg e =
      (postHopBurstTail cfg (sendProposal cfg (burstCandidate cfg e).1 c), false) := by
  unfold burstProposal at hproposal
  split at hproposal
  · exact absurd hproposal (by simp)
  · rename_i hgoes
    split at hproposal
    · rename_i hsends
      obtain rfl := Option.some.inj hproposal
      rw [Bool.or_eq_true, not_or] at hgoes
      rw [postHopBurstWorkFn, if_neg hgoes.1, postHopBurstTick, if_neg hgoes.2, if_pos hsends]
    · exact absurd hproposal (by simp)

/-- Where it is none, the tick sends on the rendezvous channel or not at
all. -/
theorem postHopBurstWorkFn_of_no_proposal (hproposal : burstProposal cfg e = none) :
    postHopBurstWorkFn cfg e = (e, false) ∨
      postHopBurstWorkFn cfg e = (postHopBurstTail cfg (burstCandidate cfg e).1, false) ∨
      (cfg.rendezvous && sendOnRendezvous cfg (burstCandidate cfg e).1) = true := by
  by_cases hrdv : (cfg.rendezvous && sendOnRendezvous cfg (burstCandidate cfg e).1) = true
  · exact Or.inr (Or.inr hrdv)
  · unfold postHopBurstWorkFn
    split
    · exact Or.inl rfl
    · rename_i hleft
      rw [burstProposal, if_neg (by rw [Bool.or_eq_true, not_or]; exact ⟨hleft, hrdv⟩)] at hproposal
      split at hproposal
      · exact absurd hproposal (by simp)
      · rename_i hsends
        rw [postHopBurstTick, if_neg hrdv, if_neg hsends]
        exact Or.inr (Or.inl rfl)

/-! ## The packets of a tick -/

theorem proposalsIn_append (calls calls' : List (Nat × List UInt8)) :
    proposalsIn (calls ++ calls') = proposalsIn calls ++ proposalsIn calls' := by
  unfold proposalsIn
  rw [List.filter_append, List.map_append]

/-- A side-trip goes past `esb_transport_send`. -/
theorem handed_sendBlockingBegin (channel : UInt8) (pipe : Nat) (data : List UInt8) :
    (sendBlockingBegin cfg e channel pipe data).1.handed = e.handed := by
  unfold sendBlockingBegin
  split
  · rfl
  · split
    · rfl
    · split
      · rfl
      · dsimp only
        split
        · rfl
        · split <;> rfl

/-- The end of a tick sends `IDLE`, or nothing. -/
theorem handed_postHopBurstTail (e : Endpoint) :
    ∃ calls, (postHopBurstTail cfg e).handed = e.handed ++ calls ∧ proposalsIn calls = [] := by
  unfold postHopBurstTail
  dsimp only
  split
  · exact ⟨[], (List.append_nil _).symm, rfl⟩
  · split
    · exact ⟨[(esbPipeData, [esbPktIdle])], handed_esbTransportSend cfg _ _ _, rfl⟩
    · exact ⟨[], (List.append_nil _).symm, rfl⟩

theorem handed_burstCandidate (e : Endpoint) : (burstCandidate cfg e).1.handed = e.handed := by
  unfold burstCandidate selectPendingCandidate
  split
  · rfl
  · split <;> rfl

/-- **A tick hands over the proposal it makes**, and no other. -/
theorem handed_postHopBurstWorkFn (e : Endpoint) :
    ∃ calls, (postHopBurstWorkFn cfg e).1.handed = e.handed ++ calls ∧
      proposalsIn calls = (burstProposal cfg e).toList := by
  have hfound := @handed_burstCandidate cfg e
  cases hproposal : burstProposal cfg e with
  | some c =>
    rw [postHopBurstWorkFn_of_proposal hproposal]
    let packet := [esbPktChannelHopProposal, c, (burstCandidate cfg e).1.tp.channel]
    have hsent : (sendProposal cfg (burstCandidate cfg e).1 c).handed =
        e.handed ++ [(esbPipeData, packet)] := by
      rw [← hfound]
      exact handed_esbTransportSend cfg _ _ _
    obtain ⟨calls, htail, hnone⟩ :=
      @handed_postHopBurstTail cfg (sendProposal cfg (burstCandidate cfg e).1 c)
    refine ⟨[(esbPipeData, packet)] ++ calls, ?_, ?_⟩
    · rw [htail, hsent, List.append_assoc]
    · rw [proposalsIn_append, hnone]
      rfl
  | none =>
    rcases postHopBurstWorkFn_of_no_proposal hproposal with hdone | hdone | hrdv
    · rw [hdone]
      exact ⟨[], (List.append_nil _).symm, rfl⟩
    · rw [hdone, ← hfound]
      exact handed_postHopBurstTail _
    · -- a tick on the rendezvous channel
      unfold postHopBurstWorkFn
      split
      · exact ⟨[], (List.append_nil _).symm, rfl⟩
      · rw [postHopBurstTick, if_pos hrdv]
        have htrip := @handed_sendBlockingBegin cfg (burstCandidate cfg e).1
          (burstCandidate cfg e).1.tp.bootChannel esbPipeData [esbPktChannelHopProposal,
            (burstCandidate cfg e).1.tp.channel, (burstCandidate cfg e).1.tp.channel]
        rw [hfound] at htrip
        split
        · rename_i e' hbegun
          rw [hbegun] at htrip
          exact ⟨[], htrip.trans (List.append_nil _).symm, rfl⟩
        · rename_i e' err hbegun
          rw [hbegun] at htrip
          rw [← htrip]
          exact handed_postHopBurstTail e'

/-- **The packets of a step are its proposal.** -/
theorem proposals_eq (s : HopTrace) (op : EpOp) :
    proposals cfg s op = (proposes cfg s op).toList := by
  unfold proposals proposes
  cases htick : ticksBurst s op with
  | false => rfl
  | true =>
    obtain rfl : op = .step .postHopBurst := by
      simp only [ticksBurst, Bool.and_eq_true, beq_iff_eq] at htick
      exact htick.1.1
    obtain ⟨calls, hcalls, hnames⟩ := @handed_postHopBurstWorkFn cfg s.ticking
    rw [if_pos rfl, if_pos rfl, (epStep_of_ticksBurst htick).1, ← hnames]
    exact congrArg proposalsIn (@handedTo_of_append s.e _ calls hcalls)

theorem mem_proposals : c ∈ proposals cfg s op ↔ proposes cfg s op = some c := by
  rw [proposals_eq, Option.mem_toList]

/-! ## What a burst reads -/

/-- A work item that runs leaves the channel if its function does. -/
theorem channel_fire {due : Bool} {next : HopTrace} (h : next.e.tuned = s.e.tuned) :
    (s.fire due next).e.tp.channel = s.e.tp.channel := by
  unfold HopTrace.fire
  split
  · exact congrArg Prod.fst h
  · rfl

/-- **Only a channel change changes the channel.** -/
theorem channel_epStep (hstays : changesChannel cfg s op = false) :
    (epStep cfg s op).e.tp.channel = s.e.tp.channel := by
  cases op with
  | call entry => rfl
  | step op =>
    cases op with
    | hop => exact bne_eq_false_iff_eq.1 hstays
    | commit => exact bne_eq_false_iff_eq.1 hstays
    | send pipe data => exact congrArg Prod.fst (tuned_esbTransportSend pipe data)
    | txDone outcome => exact congrArg Prod.fst (tuned_txDone outcome)
    | slotStart => exact congrArg Prod.fst (@tuned_esbTransportOnSlotStart cfg s.e)
    | pairingStop => exact congrArg Prod.fst tuned_notifyDisconnected
    | rx buf len => exact channel_fire (tuned_pairingOnRx buf len)
    | beacon => exact channel_fire tuned_beaconWorkFn
    | verify => exact channel_fire tuned_verifyWorkFn
    | negotiate => exact channel_fire tuned_negotiateWorkFn
    | idleCheck =>
      refine channel_fire ?_
      simp only [idleCheckBegin]
      split <;> rfl
    | postHopBurst => exact channel_fire tuned_postHopBurstWorkFn
    | sideTripEnd =>
      simp only [epStep, hopStep]
      split
      · exact congrArg Prod.fst tuned_postHopBurstResume
      · rfl
    | hopRetry => exact channel_fire rfl
    | offer => exact channel_fire tuned_coopHopOfferBegin
    | offerSend =>
      simp only [epStep, hopStep]
      split
      · exact congrArg Prod.fst (tuned_coopHopOfferSend _)
      · rfl
    | _ => rfl

section Unsettled

variable (hnext : h.committedNext = channelHopInvalid)
include hnext

theorem unsettled_of_standing (heq : h'.standing = h.standing) :
    h'.committedNext = channelHopInvalid :=
  (congrArg HopStanding.committedNext heq).trans hnext

theorem unsettled_onDisconnected :
    (channelHopEpOnDisconnected cfg h).committedNext = channelHopInvalid := by
  unfold channelHopEpOnDisconnected
  split
  · exact hnext
  · simp only []
    split <;> rfl

/-- A packet that is no `CONFIRM` settles nothing. -/
theorem unsettled_onRx {buf : List UInt8} {len : Nat}
    (hset : (cfg.channelHop && settles buf len) = false) :
    (channelHopEpOnRx cfg h buf len).committedNext = channelHopInvalid := by
  cases hhop : cfg.channelHop with
  | false =>
    unfold channelHopEpOnRx
    rw [hhop, Bool.not_false, if_pos rfl]
    exact hnext
  | true =>
    rw [hhop, Bool.true_and] at hset
    obtain ⟨target, hs⟩ := @onRx_of_not_settles cfg h buf len hset
    rw [hs]
    exact hnext

theorem unsettled_call {entry : HopCall}
    (hset : ∀ buf len, entry = .onRx buf len → (cfg.channelHop && settles buf len) = false) :
    (entry.apply cfg now h).committedNext = channelHopInvalid := by
  cases entry with
  | onConnected => exact unsettled_of_standing hnext standing_onConnected
  | onDisconnected => exact unsettled_onDisconnected hnext
  | noteUserTx => exact unsettled_of_standing hnext standing_noteUserTx
  | onTxFailIsr => exact unsettled_of_standing hnext standing_onTxFailIsr
  | onTxSuccessIsr => exact unsettled_of_standing hnext standing_onTxSuccess
  | onLinkDegradedIsr => exact unsettled_of_standing hnext standing_onLinkDegraded
  | onRx buf len => exact unsettled_onRx hnext (hset buf len rfl)
  | onRequest => exact unsettled_of_standing hnext standing_onRequest

end Unsettled

/-- **What is unsettled stays so without a `CONFIRM`.** -/
theorem unsettled_epStep (hnext : s.e.hop.committedNext = channelHopInvalid)
    (hconfirm : op.confirms cfg s = false) :
    (epStep cfg s op).e.hop.committedNext = channelHopInvalid := by
  cases op with
  | call entry => exact unsettled_call hnext fun buf len hentry => by subst hentry; exact hconfirm
  | step op =>
    have hmoves := @hopMoves_hopStep cfg s op
    rw [epStep]
    generalize (hopStep cfg s op).e.hop = h' at hmoves ⊢
    cases hmoves with
    | noted pipe data => exact unsettled_of_standing hnext standing_noteUserTx
    | ended hdone => exact unsettled_of_standing hnext (standing_onTxDone hdone)
    | stopped => exact unsettled_onDisconnected hnext
    | @packet buf len p' h' hfree hrx =>
      have hset : (cfg.channelHop && settles buf len) = false := by
        rw [EpOp.confirms, hfree, beq_self_eq_true, Bool.and_true] at hconfirm
        exact hconfirm
      exact hrx.keeps (P := fun h => h.committedNext = channelHopInvalid) hfree hnext
        (unsettled_of_standing hnext standing_noteUserTx)
        (fun _ => unsettled_of_standing hnext standing_onConnected)
        (fun _ => unsettled_onDisconnected hnext) (unsettled_onRx hnext hset)
        (unsettled_of_standing hnext standing_onRequest)
    | idled hidle => exact unsettled_of_standing hnext standing_enterIdleBegin
    | hop hfree hdue hwork => cases hwork <;> first | exact hnext | rfl
    | offerSent => exact unsettled_of_standing hnext standing_noteUserTx
    | @offerWithdrawn h₁ hsent =>
      rcases hsent with rfl | rfl
      · exact hnext
      · exact unsettled_of_standing hnext standing_noteUserTx
    | commit hfree hdue hwork => cases hwork <;> first | exact hnext | rfl
    | _ => exact hnext

/-! ## The candidate of a tick -/

theorem usableNext_iff : usableNext e c = true ↔
    c ≠ channelHopInvalid ∧ c ≠ e.tp.channel ∧ quarantineIs e.hop.quarantine e.now c = false := by
  rw [usableNext, Bool.and_eq_true, Bool.and_eq_true, bne_iff_ne, bne_iff_ne, Bool.not_eq_true',
    and_assoc]

/-- What is kept is found again. -/
theorem burstCandidate_of_usable (hnext : e.hop.committedNext = channelHopInvalid)
    (husable : usableNext e e.hop.pendingCandidate = true) :
    burstCandidate cfg e = (e, e.hop.pendingCandidate) := by
  have hnone : ¬usableNext e e.hop.committedNext = true := by
    rw [usableNext_iff, hnext]
    exact fun h => h.1 rfl
  rw [burstCandidate, if_neg hnone, selectPendingCandidate, if_pos husable]

/-- What is found is kept, and usable if it is a channel at all. -/
theorem burstCandidate_spec (hnext : e.hop.committedNext = channelHopInvalid) :
    (burstCandidate cfg e).1.hop.pendingCandidate = (burstCandidate cfg e).2 ∧
      ((burstCandidate cfg e).2 ≠ channelHopInvalid →
        usableNext e (burstCandidate cfg e).2 = true) := by
  have hnone : ¬usableNext e e.hop.committedNext = true := by
    rw [usableNext_iff, hnext]
    exact fun h => h.1 rfl
  rw [burstCandidate, if_neg hnone, selectPendingCandidate]
  split
  · rename_i husable
    exact ⟨rfl, fun _ => husable⟩
  · refine ⟨rfl, fun hvalid => ?_⟩
    rcases @channelHopPick_spec e.hop.quarantine e.now e.cycle e.hop.prngState
      cfg.channelQuarantineMinDistance e.tp.channel with hinvalid | ⟨hfree, hne⟩
    · exact absurd hinvalid hvalid
    · exact usableNext_iff.2 ⟨hvalid, hne, hfree⟩

/-- A proposal is a channel found, in a tick that has some left. -/
theorem burstProposal_spec (hproposal : burstProposal cfg e = some c) :
    e.hop.postHopBurstRemaining ≠ 0 ∧ (burstCandidate cfg e).2 = c ∧ c ≠ channelHopInvalid := by
  unfold burstProposal at hproposal
  split at hproposal
  · exact absurd hproposal (by simp)
  · rename_i hgoes
    split at hproposal
    · rename_i hsends
      obtain rfl := Option.some.inj hproposal
      rw [Bool.or_eq_true, not_or, beq_iff_eq] at hgoes
      rw [Bool.and_eq_true, bne_iff_ne] at hsends
      exact ⟨hgoes.1, rfl, hsends.1⟩
    · exact absurd hproposal (by simp)

/-! ## The candidate of a burst -/

/-- **The invariant of a burst that has picked `c`**: it keeps `c`, and `c`
stays usable, until its ticks are spent. -/
structure Sticky (c : UInt8) (s : HopTrace) : Prop where
  unsettled : s.e.hop.committedNext = channelHopInvalid
  usable : usableNext s.e c = true
  kept : s.e.hop.burst.candidate = c ∨ s.e.hop.burst.remaining = 0 ∧ s.workq ≠ .sideTrip

/-- The end of a tick keeps the candidate or was the last. -/
theorem kept_counted {b : PostHopBurst} (hkept : b.candidate = c) :
    (b.counted cfg).candidate = c ∨ (b.counted cfg).remaining = 0 := by
  unfold PostHopBurst.counted
  split
  · exact Or.inl hkept
  · rename_i hlast
    refine Or.inr ?_
    by_contra hne
    exact hlast (UInt8.pos_iff_ne_zero.2 hne)

/-- What a step that goes on leaves usable. -/
theorem usableNext_epStep (hgoes : op.goesOn cfg s = true)
    (hshrinks : QuarantineShrinks s (epStep cfg s op)) (husable : usableNext s.e c = true) :
    usableNext (epStep cfg s op).e c = true := by
  simp only [EpOp.goesOn, Bool.and_eq_true, Bool.not_eq_true'] at hgoes
  obtain ⟨hvalid, hne, hfree⟩ := usableNext_iff.1 husable
  refine usableNext_iff.2 ⟨hvalid, ?_, hshrinks c (mem_channels.2 ?_) hfree⟩
  · rw [channel_epStep hgoes.1.2]
    exact hne
  · exact lt_of_quarantineIs_eq_false hfree

/-- **A tick that has found `c`** leaves a burst that keeps to it. -/
theorem kept_of_tick (htick : ticksBurst s (.step .postHopBurst) = true)
    (hleft : s.e.hop.postHopBurstRemaining ≠ 0)
    (hkept : (burstCandidate cfg s.ticking).1.hop.pendingCandidate = c) :
    (epStep cfg s (.step .postHopBurst)).e.hop.burst.candidate = c ∨
      (epStep cfg s (.step .postHopBurst)).e.hop.burst.remaining = 0 ∧
        (epStep cfg s (.step .postHopBurst)).workq ≠ .sideTrip := by
  obtain ⟨hs, hwaits⟩ := @epStep_of_ticksBurst cfg s htick
  have hwork := @burst_postHopBurstWorkFn cfg s.ticking (UInt8.pos_iff_ne_zero.2 hleft)
  rw [hs, hwork]
  cases hwait : (postHopBurstWorkFn cfg s.ticking).2 with
  | true => exact Or.inl hkept
  | false =>
    rw [hwait, beq_eq_false_iff_ne] at hwaits
    exact (kept_counted hkept).imp_right fun hlast => ⟨hlast, hwaits⟩

theorem Sticky.burstCandidate (hs : Sticky c s) (hleft : s.e.hop.postHopBurstRemaining ≠ 0) :
    EsbEndpoint.burstCandidate cfg s.ticking = (s.ticking, c) := by
  have hcandidate : s.e.hop.pendingCandidate = c := hs.kept.resolve_right fun h => hleft h.1
  have hfound := @burstCandidate_of_usable cfg s.ticking hs.unsettled (hcandidate.symm ▸ hs.usable)
  rw [hfound]
  exact Prod.ext rfl hcandidate

theorem Sticky.tick (hs : Sticky c s) (htick : ticksBurst s (.step .postHopBurst) = true) :
    (epStep cfg s (.step .postHopBurst)).e.hop.burst.candidate = c ∨
      (epStep cfg s (.step .postHopBurst)).e.hop.burst.remaining = 0 ∧
        (epStep cfg s (.step .postHopBurst)).workq ≠ .sideTrip := by
  by_cases hleft : s.e.hop.postHopBurstRemaining = 0
  · -- nothing is left: the work function returns at once
    obtain ⟨hstep, hwaits⟩ := @epStep_of_ticksBurst cfg s htick
    have hreturns : postHopBurstWorkFn cfg s.ticking = (s.ticking, false) :=
      if_pos (beq_iff_eq.2 hleft)
    rw [hreturns] at hstep hwaits
    rw [hstep]
    exact Or.inr ⟨hleft, beq_eq_false_iff_ne.1 hwaits⟩
  · refine kept_of_tick htick hleft ?_
    rw [hs.burstCandidate hleft]
    exact hs.kept.resolve_right fun h => hleft h.1

/-- **A step keeps to `c`.** -/
theorem Sticky.step (hs : Sticky c s) (hgoes : op.goesOn cfg s = true)
    (hshrinks : QuarantineShrinks s (epStep cfg s op)) : Sticky c (epStep cfg s op) := by
  have husable := usableNext_epStep hgoes hshrinks hs.usable
  simp only [EpOp.goesOn, Bool.and_eq_true, Bool.not_eq_true'] at hgoes
  refine ⟨unsettled_epStep hs.unsettled hgoes.1.1, husable, ?_⟩
  have hsame : (epStep cfg s op).e.hop.burst = s.e.hop.burst →
      ((epStep cfg s op).workq = .sideTrip ↔ s.workq = .sideTrip) →
        (epStep cfg s op).e.hop.burst.candidate = c ∨
          (epStep cfg s op).e.hop.burst.remaining = 0 ∧ (epStep cfg s op).workq ≠ .sideTrip := by
    intro hburst hwait
    rw [hburst, Ne, hwait]
    exact hs.kept
  rcases op.offBurst_cases with hoff | hop | rfl | rfl
  · obtain ⟨-, -, hnotick, hnoend⟩ := EpOp.ne_of_offBurst hoff
    refine hsame ?_ (sideTrip_epStep hnotick hnoend)
    rw [burst_epStep hoff, hgoes.2, if_neg Bool.false_ne_true]
  · refine hsame ?_ (sideTrip_epStep (by rcases hop with rfl | rfl <;> simp)
      (by rcases hop with rfl | rfl <;> simp))
    rcases @burst_of_hops cfg s op hop with ⟨-, hburst⟩ | ⟨hchanges, -⟩
    · exact hburst
    · exact Bool.noConfusion (hgoes.1.2.symm.trans hchanges)
  · cases htick : ticksBurst s (.step .postHopBurst) with
    | true => exact hs.tick htick
    | false =>
      exact hsame (by rw [epStep_of_not_ticksBurst htick])
        (by rw [epStep_of_not_ticksBurst htick])
  · by_cases htrip : s.workq = .sideTrip
    · have hstep : epStep cfg s (.step .sideTripEnd) =
          { s with e := postHopBurstResume cfg s.e, workq := .free } := by
        rw [epStep, hopStep, if_pos htrip]
      rw [hstep]
      dsimp only
      rw [burst_postHopBurstResume]
      exact (kept_counted (hs.kept.resolve_right fun h => h.2 htrip)).imp_right fun hlast =>
        ⟨hlast, by simp⟩
    · have hstep : epStep cfg s (.step .sideTripEnd) = s := by
        rw [epStep, hopStep, if_neg htrip]
      exact hsame (by rw [hstep]) (by rw [hstep])

/-- **And proposes nothing else.** -/
theorem Sticky.proposesOnly (hs : Sticky c s) (op : EpOp) : ProposesOnly cfg c s op := by
  intro c' hmem
  have hproposes := mem_proposals.1 hmem
  obtain ⟨-, hne, hfree⟩ := usableNext_iff.1 hs.usable
  refine ⟨?_, hne, hfree⟩
  unfold proposes at hproposes
  split at hproposes
  · obtain ⟨hleft, hfound, -⟩ := burstProposal_spec hproposes
    rw [hs.burstCandidate hleft] at hfound
    exact hfound.symm
  · exact absurd hproposes (by simp)

/-- The first proposal makes its channel the one that is kept. -/
theorem sticky_of_proposes (hnext : s.e.hop.committedNext = channelHopInvalid)
    (hproposes : proposes cfg s op = some c) (hgoes : op.goesOn cfg s = true)
    (hshrinks : QuarantineShrinks s (epStep cfg s op)) :
    ProposesOnly cfg c s op ∧ Sticky c (epStep cfg s op) := by
  have honly := hproposes
  unfold proposes at hproposes
  split at hproposes
  · rename_i htick
    obtain rfl : op = .step .postHopBurst := by
      simp only [ticksBurst, Bool.and_eq_true, beq_iff_eq] at htick
      exact htick.1.1
    obtain ⟨hleft, rfl, hvalid⟩ := burstProposal_spec hproposes
    obtain ⟨hkept, hspec⟩ := @burstCandidate_spec cfg s.ticking hnext
    have husable : usableNext s.e (burstCandidate cfg s.ticking).2 = true := hspec hvalid
    obtain ⟨-, hne, hfree⟩ := usableNext_iff.1 husable
    have hsame : ∀ c' ∈ proposals cfg s (.step .postHopBurst), c' = (burstCandidate cfg s.ticking).2 :=
      fun c' hc' => Option.some.inj ((mem_proposals.1 hc').symm.trans honly)
    refine ⟨fun c' hc' => ⟨hsame c' hc', hne, hfree⟩, ?_,
      usableNext_epStep hgoes hshrinks husable, kept_of_tick htick hleft hkept⟩
    simp only [EpOp.goesOn, Bool.and_eq_true, Bool.not_eq_true'] at hgoes
    exact unsettled_epStep hnext hgoes.1.1
  · exact absurd hproposes (by simp)

/-! ## Runs of a burst -/

theorem Sticky.convergeStep {op : ConvergeOp} (hs : Sticky c s) (hleft : LeftToItself cfg s op) :
    Sticky c (convergeStep cfg s op) := by
  cases op with
  | ep op => exact hs.step hleft.1 hleft.2
  | cycles cycle => exact ⟨hs.unsettled, hs.usable, hs.kept⟩

theorem Sticky.converges (hs : Sticky c s) (op : ConvergeOp) : Converges cfg c s op := by
  cases op with
  | ep op => exact hs.proposesOnly op
  | cycles cycle => trivial

/-- With nothing agreed on, the proposals of a run agree: by induction, up
to the first of them, which settles the rest. -/
theorem exists_converges (hnext : s.e.hop.committedNext = channelHopInvalid)
    {ops : List ConvergeOp} (hrun : Guarded (convergeStep cfg) (LeftToItself cfg) s ops) :
    ∃ c, Guarded (convergeStep cfg) (Converges cfg c) s ops := by
  induction ops generalizing s with
  | nil => exact ⟨0, trivial⟩
  | cons op ops ih =>
    cases op with
    | cycles cycle =>
      obtain ⟨c, hc⟩ := ih (s := convergeStep cfg s (.cycles cycle)) hnext hrun.2
      exact ⟨c, trivial, hc⟩
    | ep op =>
      obtain ⟨⟨hgoes, hshrinks⟩, hrest⟩ := hrun
      cases hproposes : proposes cfg s op with
      | some c =>
        obtain ⟨honly, hsticky⟩ := sticky_of_proposes hnext hproposes hgoes hshrinks
        exact ⟨c, honly, Guarded.of_invariant (I := Sticky c) (fun _ _ hs => hs.convergeStep)
          (fun _ op hs _ => hs.converges op) hsticky hrest⟩
      | none =>
        have hgoes' := hgoes
        simp only [EpOp.goesOn, Bool.and_eq_true, Bool.not_eq_true'] at hgoes'
        obtain ⟨c, hc⟩ := ih (s := convergeStep cfg s (.ep op))
          (unsettled_epStep hnext hgoes'.1.1) hrest
        exact ⟨c, fun c' hc' => absurd (hproposes.symm.trans (mem_proposals.1 hc')) (by simp), hc⟩

/-- A hop forgets what was agreed on. -/
theorem unsettled_of_changesChannel (hchanges : changesChannel cfg s op = true) :
    (epStep cfg s op).e.hop.committedNext = channelHopInvalid := by
  simp only [changesChannel, Bool.and_eq_true, Bool.or_eq_true, beq_iff_eq, bne_iff_ne]
    at hchanges
  obtain ⟨rfl | rfl, hne⟩ := hchanges
  · rcases @hopStep_hop_cases cfg s with ⟨-, hs⟩ | ⟨-, hwork⟩
    · exact absurd (by rw [epStep, hs]) hne
    · rw [epStep] at hne ⊢
      generalize (hopStep cfg s .hop).e.hop = h' at hwork ⊢
      generalize (hopStep cfg s .hop).e.tp.channel = channel at hwork hne
      cases hwork with
      | hopped => rfl
      | _ => exact absurd rfl hne
  · rcases @hopStep_commit_cases cfg s with ⟨-, hs⟩ | ⟨-, hwork⟩
    · exact absurd (by rw [epStep, hs]) hne
    · rw [epStep] at hne ⊢
      generalize (hopStep cfg s .commit).e.hop = h' at hwork ⊢
      generalize (hopStep cfg s .commit).e.tp.channel = channel at hwork hne
      cases hwork with
      | committed => rfl
      | _ => exact absurd rfl hne

/-- **The proposals of a burst converge.** From any state in which a hop
starts a burst, in every run that leaves the burst to itself, every
`PROPOSAL` of it on the current channel names one channel, which is neither
the current one nor quarantined. -/
theorem proposalsConverge (cfg : Config) (s : HopTrace) (op : EpOp)
    (hchanges : changesChannel cfg s op = true) (ops : List ConvergeOp)
    (hrun : Guarded (convergeStep cfg) (LeftToItself cfg) (epStep cfg s op) ops) :
    ∃ c, Guarded (convergeStep cfg) (Converges cfg c) (epStep cfg s op) ops :=
  exists_converges (unsettled_of_changesChannel hchanges) hrun

/-- The two ticks of a burst propose channel 5, with `negotiate_work_fn`
proposing channel 44 in between. -/
theorem proposalsConverge_negotiate :
    let s := runFrom (epStep .default) (HopTrace.start .default [] none)
      [.step .pairingStart, .step (.rx [esbPktPairReq, 1, 2, 3, 4, 5, 6] 7),
        .step (.txDone (.acked 0 [])), .step (.rx [esbPktChannelHopRequest] 1)]
    let ops : List ConvergeOp := [.ep (.step (.tick 10)), .ep (.step .postHopBurst),
      .ep (.step (.txDone (.acked 0 []))), .cycles 77, .ep (.step .negotiate),
      .ep (.step (.txDone (.acked 0 []))), .ep (.step .postHopBurst)]
    changesChannel .default s (.step .hop) = true ∧
      (∃ c, Guarded (convergeStep .default) (Converges .default c)
        (epStep .default s (.step .hop)) ops) ∧
      proposalsIn (runFrom (convergeStep .default) (epStep .default s (.step .hop)) ops).e.handed =
        [5, 44, 5] := by
  intro s ops
  have hchanges : changesChannel .default s (.step .hop) = true := by decide +kernel
  exact ⟨hchanges, proposalsConverge .default s _ hchanges ops (by decide +kernel),
    by decide +kernel⟩

end EsbEndpoint
