import EsbEndpoint.Common.Run
import EsbEndpoint.Hop.Manager

/-!
# The invariant of the hop manager

What the manager's statics satisfy in every state of every run
(`managerOk_run`): an active manager has a link and both its timers, every
channel it keeps is one of the band or none, its counters stay within
their bursts, and a `CONFIRM` that counts as current is current. The last
has an exception: a `CONFIRM` is taken with the link down, and a `REQUEST`
that comes then is ignored (`managerOk_iff`).
-/

namespace EsbEndpoint

variable (cfg : Config)

/-- A channel of the band, `0..100`. -/
def InBand (c : UInt8) : Prop := c.toNat < channelHopChannelCount

instance (c : UInt8) : Decidable (InBand c) := inferInstanceAs (Decidable (_ < _))

/-- A channel that is kept: none, or one of the band. -/
def InBandOrNone (c : UInt8) : Prop := c = channelHopInvalid ∨ InBand c

/-- What the statics satisfy, without a word of their history. -/
structure HopOk (h : HopEp) : Prop where
  linked : h.active = true → h.linkUp = true
  idleCheckDue : h.active = true → h.idleCheckWork.isSome = true
  negotiateDue : h.active = true → h.negotiateWork.isSome = true
  committedNext : InBandOrNone h.committedNext
  prevChannel : InBandOrNone h.prevChannel
  pendingCandidate : InBandOrNone h.pendingCandidate
  armed : h.coopHopState = .armed → InBand h.coopHopTarget
  requestBurst : h.requestBurstRemaining.toNat ≤ cfg.channelHopRequestBurstCount
  postHopBurst : h.postHopBurstRemaining.toNat ≤ cfg.channelHopPostBurstCount
  synced : h.committedSynced = true → h.committedNext ≠ channelHopInvalid

/-- **The invariant.** `stale` are the events after which a `CONFIRM` no
longer counts. -/
structure ManagerOk (stale : ManagerEvent → Bool) (s : ManagerRun) : Prop
    extends HopOk cfg s.e.hop where
  channel : InBand s.e.tp.channel
  current : s.e.hop.committedSynced = true →
    s.events.find? (fun ev => stale ev || ev == .confirmed) = some .confirmed

/-- A hop, a disconnect or a `REQUEST`. -/
def ManagerEvent.unsettles : ManagerEvent → Bool
  | .requested _ | .disconnected => true
  | ev => ev.hops

/-- The same, of the `REQUEST`s those that find the link up. -/
def ManagerEvent.unsettlesLink : ManagerEvent → Bool
  | .requested linkUp => linkUp
  | ev => ev.unsettles

/-- **A `REQUEST` is heard where it matters**: one that comes while a
`CONFIRM` counts finds the link up. -/
def RequestHeard (s : ManagerRun) : ManagerOp → Prop
  | .call .onRequest =>
    cfg.channelHop = true → s.e.hop.committedSynced = true → s.e.hop.linkUp = true
  | _ => True

/-- What the invariant rests on: an offer is tagged with a target to
hop to. -/
structure HopInv (h : HopEp) : Prop extends HopOk cfg h where
  tagged : h.lastTxWasOffer = true → InBand h.coopHopTarget

variable {cfg} {h h' : HopEp} {now : UInt32} {e : Endpoint} {s : ManagerRun}

/-! ## The entry points -/

theorem lastTxWasOffer_onTxFailIsr
    (htag : (channelHopEpOnTxFailIsr cfg now h).lastTxWasOffer = true) :
    h.lastTxWasOffer = true := by
  have hspent : ∀ h₁ : HopEp, onOfferFailed cfg h = (h₁, false) → h₁.lastTxWasOffer = true →
      h.lastTxWasOffer = true := by
    intro h₁ hoffer hset
    unfold onOfferFailed at hoffer
    dsimp only at hoffer
    split at hoffer
    · split at hoffer
      · exact absurd (congrArg Prod.snd hoffer) (by simp)
      · obtain rfl := congrArg Prod.fst hoffer
        exact Bool.noConfusion hset
    · obtain rfl := congrArg Prod.fst hoffer
      exact hset
  unfold channelHopEpOnTxFailIsr at htag
  split at htag
  · exact htag
  · dsimp only at htag
    rcases hoffer : onOfferFailed cfg h with ⟨h₁, swallowed⟩
    rw [hoffer] at htag
    cases swallowed with
    | true =>
      have hfalse : h₁.lastTxWasOffer = false := by
        rcases @onOfferFailed_cases cfg h with ⟨tag, hkept⟩ | hdone
        · exact absurd (congrArg Prod.snd (hoffer.symm.trans hkept)) (by simp)
        · have hh := congrArg Prod.fst (hoffer.symm.trans hdone)
          dsimp only at hh
          rw [hh]
      exact Bool.noConfusion (hfalse.symm.trans htag)
    | false =>
      refine hspent h₁ hoffer ?_
      simp only [Bool.false_eq_true, if_false] at htag
      split at htag
      · exact htag
      · split at htag
        · split at htag <;> exact htag
        · exact htag

theorem HopInv.onTxFail (hi : HopInv cfg h) :
    HopInv cfg (channelHopEpOnTxFailIsr cfg now h) := by
  have htag := @lastTxWasOffer_onTxFailIsr cfg h now
  have hfail := @onTxFail_onTxFailIsr cfg now h
  generalize channelHopEpOnTxFailIsr cfg now h = h' at htag hfail ⊢
  cases hfail with
  | noted tag state hstate =>
    refine ⟨{ hi with armed := fun harmed => ?_ }, fun hset => hi.tagged (htag hset)⟩
    rcases hstate with rfl | rfl
    · exact hi.armed harmed
    · exact absurd harmed (by simp)
  | asked tag hactive hcool => exact ⟨{ hi with }, fun hset => hi.tagged (htag hset)⟩
  | fellBack tag hactive hrdv => exact ⟨{ hi with }, fun hset => hi.tagged (htag hset)⟩

theorem HopInv.onTxSuccess (hi : HopInv cfg h) :
    HopInv cfg (channelHopEpOnTxSuccessIsr cfg now h) := by
  have hacked : HopInv cfg (onOfferAcked cfg h) := by
    unfold onOfferAcked
    split
    · rename_i htag
      rw [Bool.and_eq_true] at htag
      dsimp only
      split
      · exact ⟨{ hi with armed := fun _ => hi.tagged htag.2 }, fun hset => Bool.noConfusion hset⟩
      · exact ⟨{ hi with }, fun hset => Bool.noConfusion hset⟩
    · exact hi
  unfold channelHopEpOnTxSuccessIsr
  split
  · exact hi
  · exact ⟨{ hacked with prevChannel := Or.inl rfl }, hacked.tagged⟩

theorem HopInv.onLinkDegraded (hi : HopInv cfg h) :
    HopInv cfg (channelHopEpOnLinkDegradedIsr cfg now h) := by
  rcases @onLinkDegradedIsr_cases cfg now h with hs | ⟨-, -, -, -, hs⟩
  · rw [hs]
    exact hi
  · rw [hs]
    exact ⟨{ hi with armed := fun harmed => absurd harmed (by simp) }, hi.tagged⟩

/-- An active manager is given both its timers. -/
theorem HopInv.enterActive (hi : HopInv cfg h) (hlink : h.linkUp = true) (proposal : Bool) :
    HopInv cfg (enterActiveState cfg h proposal) := by
  have hdue : (if proposal then some 0 else some cfg.channelHopNegotiateRetryMs : Delayable).isSome
      = true := by
    split <;> rfl
  unfold enterActiveState
  dsimp only
  split
  · exact ⟨{ hi with idleCheckDue := fun _ => rfl }, hi.tagged⟩
  · exact ⟨{ hi with
      linked := fun _ => hlink
      idleCheckDue := fun _ => rfl
      negotiateDue := fun _ => hdue }, hi.tagged⟩

theorem HopInv.noteUserTx (hi : HopInv cfg h) : HopInv cfg (channelHopEpNoteUserTx cfg h) := by
  unfold channelHopEpNoteUserTx
  split
  · exact hi
  · split
    · exact hi
    · rename_i hlink
      rw [Bool.not_eq_true', Bool.not_eq_false] at hlink
      exact hi.enterActive hlink false

theorem HopInv.onConnected (hi : HopInv cfg h) : HopInv cfg (channelHopEpOnConnected cfg h) := by
  have hup : HopInv cfg { h with linkUp := true } :=
    ⟨{ hi with linked := fun _ => rfl }, hi.tagged⟩
  unfold channelHopEpOnConnected
  split
  · exact hi
  · exact hup.enterActive rfl true

/-- Without a link there is nothing to keep. -/
theorem HopInv.of_down (hactive : h.active = false) (hnext : h.committedNext = channelHopInvalid)
    (hprev : h.prevChannel = channelHopInvalid) (hpending : InBandOrNone h.pendingCandidate)
    (harmed : h.coopHopState = .armed → InBand h.coopHopTarget)
    (hrequest : h.requestBurstRemaining = 0) (hburst : h.postHopBurstRemaining = 0)
    (hsynced : h.committedSynced = false) (htag : h.lastTxWasOffer = true → InBand h.coopHopTarget) :
    HopInv cfg h where
  linked hset := Bool.noConfusion (hactive.symm.trans hset)
  idleCheckDue hset := Bool.noConfusion (hactive.symm.trans hset)
  negotiateDue hset := Bool.noConfusion (hactive.symm.trans hset)
  committedNext := Or.inl hnext
  prevChannel := Or.inl hprev
  pendingCandidate := hpending
  armed := harmed
  requestBurst := by rw [hrequest]; exact Nat.zero_le _
  postHopBurst := by rw [hburst]; exact Nat.zero_le _
  synced hset := Bool.noConfusion (hsynced.symm.trans hset)
  tagged := htag

theorem HopInv.onDisconnected (hi : HopInv cfg h) :
    HopInv cfg (channelHopEpOnDisconnected cfg h) := by
  unfold channelHopEpOnDisconnected
  split
  · exact hi
  · dsimp only
    split
    · exact HopInv.of_down rfl rfl rfl hi.pendingCandidate (fun harmed => absurd harmed (by
        simp [coopHopAbort])) rfl rfl rfl fun hset => Bool.noConfusion hset
    · exact HopInv.of_down rfl rfl rfl hi.pendingCandidate hi.armed rfl rfl rfl hi.tagged

theorem HopInv.init (hi : HopInv cfg h) : HopInv cfg (channelHopEpInit cfg h) := by
  unfold channelHopEpInit
  split
  · exact hi
  · dsimp only
    split
    · exact HopInv.of_down rfl rfl rfl hi.pendingCandidate (fun harmed => absurd harmed (by
        simp [coopHopInit])) rfl rfl rfl fun hset => Bool.noConfusion hset
    · exact HopInv.of_down rfl rfl rfl hi.pendingCandidate hi.armed rfl rfl rfl hi.tagged

/-- Packets of any length and content. -/
theorem HopInv.onRx (hi : HopInv cfg h) (buf : List UInt8) (len : Nat) :
    HopInv cfg (channelHopEpOnRx cfg h buf len) := by
  have haccept : HopInv cfg (onHopAccept h buf len) := by
    unfold onHopAccept
    split
    · exact hi
    · split
      · exact hi
      · split
        · exact hi
        · split
          · exact hi
          · rename_i hband
            have hin : InBand (buf.getD 1 0) := Nat.lt_of_not_le hband
            exact ⟨{ hi with armed := fun _ => hin }, fun _ => hin⟩
  unfold channelHopEpOnRx
  split
  · exact hi
  · split
    · exact hi
    · split
      · exact haccept
      · split
        · exact hi
        · split
          · exact hi
          · split
            · exact hi
            · rename_i hband
              have hin : InBand (buf.getD 1 0) := Nat.lt_of_not_le hband
              have hvalid : buf.getD 1 0 ≠ channelHopInvalid := by
                intro heq
                rw [InBand, heq] at hin
                exact absurd hin (by decide)
              refine ⟨{ hi with
                negotiateDue := fun hactive => ?_
                committedNext := Or.inr hin
                requestBurst := Nat.zero_le _
                synced := fun _ => hvalid }, hi.tagged⟩
              dsimp only
              split
              · rfl
              · exact hi.negotiateDue hactive

theorem HopInv.onRequest (hi : HopInv cfg h) : HopInv cfg (channelHopEpOnRequest cfg now h) := by
  have hle : (UInt8.ofNat cfg.channelHopRequestBurstCount).toNat ≤
      cfg.channelHopRequestBurstCount := by
    rw [UInt8.toNat_ofNat']
    exact Nat.mod_le _ _
  unfold channelHopEpOnRequest
  split
  · exact hi
  · split
    · exact hi
    · refine HopInv.onTxFail ⟨{ hi with
        negotiateDue := fun _ => rfl
        requestBurst := hle
        synced := fun hset => Bool.noConfusion hset }, hi.tagged⟩

theorem HopInv.call (hi : HopInv cfg h) (entry : HopCall) :
    HopInv cfg (entry.apply cfg now h) := by
  cases entry with
  | onConnected => exact hi.onConnected
  | onDisconnected => exact hi.onDisconnected
  | noteUserTx => exact hi.noteUserTx
  | onTxFailIsr => exact hi.onTxFail
  | onTxSuccessIsr => exact hi.onTxSuccess
  | onLinkDegradedIsr => exact hi.onLinkDegraded
  | onRx buf len => exact hi.onRx buf len
  | onRequest => exact hi.onRequest

/-! ## The work functions -/

theorem inBandOrNone_pickCandidate : InBandOrNone (pickCandidate cfg e).2 :=
  (channelHopPick_spec e.cycle e.hop.prngState cfg.channelQuarantineMinDistance
    e.tp.channel).imp_right fun hspec => lt_of_quarantineIs_eq_false hspec.1

/-- **What `negotiate_work_fn` does**: nothing on a link that is down, and
otherwise it goes on. -/
theorem negotiateWorkFn_cases :
    e.hop.linkUp = false ∧ (negotiateWorkFn cfg e).hop = e.hop ∨
      ∃ prngState committedSynced requestBurstRemaining delay,
        (committedSynced = true → e.hop.committedSynced = true) ∧
        requestBurstRemaining.toNat ≤ e.hop.requestBurstRemaining.toNat ∧
        (negotiateWorkFn cfg e).hop =
          { e.hop with
            prngState, committedSynced, requestBurstRemaining
            negotiateWork := some delay } := by
  have hburst : (if 0 < e.hop.requestBurstRemaining then e.hop.requestBurstRemaining - 1
      else e.hop.requestBurstRemaining).toNat ≤ e.hop.requestBurstRemaining.toNat := by
    split
    · rename_i hpos
      rw [toNat_sub_one hpos]
      omega
    · exact le_rfl
  have hdue : ∀ fast : Bool, ∃ delay,
      (if fast then some cfg.channelHopNegotiateRetryMs
        else some cfg.channelHopNegotiateIntervalMs : Delayable) = some delay := by
    intro fast
    cases fast
    · exact ⟨_, rfl⟩
    · exact ⟨_, rfl⟩
  unfold negotiateWorkFn
  split
  · rename_i hlink
    rw [Bool.not_eq_true'] at hlink
    exact Or.inl ⟨hlink, rfl⟩
  · right
    split
    · exact ⟨e.hop.prngState, _, _, _, id, le_rfl, rfl⟩
    · obtain ⟨delay, hdelay⟩ := hdue
        (!usableNext e e.hop.committedNext || decide (0 < e.hop.requestBurstRemaining))
      have hpick : (pickCandidate cfg (e.mapHop fun h => { h with committedSynced := false })).1.hop =
          { e.hop with
            committedSynced := false
            prngState := (pickCandidate cfg e).1.hop.prngState } := rfl
      simp only [Endpoint.mapHop_hop]
      split
      -- the next channel is no longer usable: another one is picked, unconfirmed
      · refine ⟨(pickCandidate cfg e).1.hop.prngState, false, _, delay,
          fun hset => Bool.noConfusion hset, hburst, ?_⟩
        split
        · rw [hop_sendProposal, hpick, ← hdelay]
        · rw [hpick, ← hdelay]
      · refine ⟨e.hop.prngState, e.hop.committedSynced, _, delay, id, hburst, ?_⟩
        split
        · rw [hop_sendProposal, ← hdelay]
        · rw [← hdelay]

theorem HopInv.negotiate (hi : HopInv cfg e.hop) :
    HopInv cfg (managerStep cfg e .negotiate).hop := by
  rcases @negotiateWorkFn_cases cfg (e.mapHop fun h => { h with negotiateWork := none }) with
    ⟨hlink, hs⟩ | ⟨prng, synced, burst, delay, hsynced, hburst, hs⟩
  · have hidle : e.hop.active = false := by
      rw [Bool.eq_false_iff]
      exact fun hactive => Bool.noConfusion (hlink.symm.trans (hi.linked hactive))
    rw [managerStep, hs]
    exact ⟨{ hi with negotiateDue := fun hactive =>
      Bool.noConfusion (hidle.symm.trans hactive) }, hi.tagged⟩
  · rw [managerStep, hs]
    exact ⟨{ hi with
      negotiateDue := fun _ => rfl
      requestBurst := hburst.trans hi.requestBurst
      synced := fun hset => hi.synced (hsynced hset) }, hi.tagged⟩

theorem HopInv.enterIdle (hi : HopInv cfg h) : HopInv cfg (enterIdleBegin cfg h) := by
  unfold enterIdleBegin
  dsimp only
  split
  · exact ⟨{ hi with
      linked := fun hset => Bool.noConfusion hset
      idleCheckDue := fun hset => Bool.noConfusion hset
      negotiateDue := fun hset => Bool.noConfusion hset
      armed := fun harmed => absurd harmed (by simp [coopHopAbort]) },
      fun hset => Bool.noConfusion hset⟩
  · exact ⟨{ hi with
      linked := fun hset => Bool.noConfusion hset
      idleCheckDue := fun hset => Bool.noConfusion hset
      negotiateDue := fun hset => Bool.noConfusion hset }, hi.tagged⟩

theorem HopInv.idleCheck (hi : HopInv cfg e.hop) :
    HopInv cfg (managerStep cfg e .idleCheck).hop := by
  rcases @hop_idleCheckWorkFn cfg (e.mapHop fun h => { h with idleCheckWork := none }) with
    ⟨hoff, hs⟩ | ⟨-, hs⟩
  · have hidle : e.hop.active = false := by
      rcases hoff with hlink | hidle
      · rw [Bool.eq_false_iff]
        exact fun hactive => Bool.noConfusion (hlink.symm.trans (hi.linked hactive))
      · exact hidle
    rw [managerStep, hs]
    exact ⟨{ hi with idleCheckDue := fun hactive =>
      Bool.noConfusion (hidle.symm.trans hactive) }, hi.tagged⟩
  · rw [managerStep, hs]
    -- going idle takes the item off its queue anyway
    exact hi.enterIdle

/-- The end of a tick counts it. -/
theorem HopInv.burstTail (hi : HopInv cfg e.hop) (hpos : 0 < e.hop.postHopBurstRemaining) :
    HopInv cfg (postHopBurstTail cfg e).hop := by
  have hle : (e.hop.postHopBurstRemaining - 1).toNat ≤ cfg.channelHopPostBurstCount := by
    have hburst := hi.postHopBurst
    rw [toNat_sub_one hpos]
    omega
  simp only [postHopBurstTail]
  split
  · exact ⟨{ hi with postHopBurst := hle }, hi.tagged⟩
  · split
    · rw [hop_sendIdlePacket]
      exact ⟨{ hi with postHopBurst := hle, pendingCandidate := Or.inl rfl }, hi.tagged⟩
    · exact ⟨{ hi with postHopBurst := hle, pendingCandidate := Or.inl rfl }, hi.tagged⟩

theorem HopInv.burstCandidate (hi : HopInv cfg e.hop) :
    HopInv cfg (burstCandidate cfg e).1.hop := by
  simp only [EsbEndpoint.burstCandidate, selectPendingCandidate]
  split
  · exact hi
  · split
    · exact hi
    · exact ⟨{ hi with pendingCandidate := inBandOrNone_pickCandidate }, hi.tagged⟩

theorem HopInv.burstTick (hi : HopInv cfg e.hop) (hpos : 0 < e.hop.postHopBurstRemaining)
    (candidate : UInt8) : HopInv cfg (postHopBurstTick cfg e candidate).1.hop ∧
      ((postHopBurstTick cfg e candidate).2 = true →
        0 < (postHopBurstTick cfg e candidate).1.hop.postHopBurstRemaining) := by
  have hbegin := @hop_sendBlockingBegin cfg e e.tp.bootChannel esbPipeData
    [esbPktChannelHopProposal, e.tp.channel, e.tp.channel]
  unfold postHopBurstTick
  split
  · split
    · rename_i e' heq
      rw [heq] at hbegin
      have hsame : e'.hop = e.hop := hbegin
      dsimp only
      rw [hsame]
      exact ⟨hi, fun _ => hpos⟩
    · rename_i e' err heq
      rw [heq] at hbegin
      have hsame : e'.hop = e.hop := hbegin
      exact ⟨HopInv.burstTail (by rw [hsame]; exact hi) (by rw [hsame]; exact hpos),
        fun h => Bool.noConfusion h⟩
  · split
    · have hsame : (sendProposal cfg e candidate).hop = e.hop := hop_sendProposal candidate
      exact ⟨HopInv.burstTail (by rw [hsame]; exact hi) (by rw [hsame]; exact hpos),
        fun h => Bool.noConfusion h⟩
    · exact ⟨hi.burstTail hpos, fun h => Bool.noConfusion h⟩

theorem HopInv.burstRun (hi : HopInv cfg e.hop) (ended : Option TxOutcome) :
    HopInv cfg (postHopBurstRun cfg e ended).hop := by
  have hwork : HopInv cfg (postHopBurstWorkFn cfg e).1.hop ∧
      ((postHopBurstWorkFn cfg e).2 = true →
        0 < (postHopBurstWorkFn cfg e).1.hop.postHopBurstRemaining) := by
    unfold postHopBurstWorkFn
    split
    · exact ⟨hi, fun h => Bool.noConfusion h⟩
    · rename_i hburst
      have hpos : 0 < (EsbEndpoint.burstCandidate cfg e).1.hop.postHopBurstRemaining := by
        obtain ⟨_, _, hsame⟩ := @hop_burstCandidate cfg e
        rw [hsame]
        exact UInt8.pos_iff_ne_zero.2 fun hzero => hburst (beq_iff_eq.2 hzero)
      exact hi.burstCandidate.burstTick hpos _
  unfold postHopBurstRun
  dsimp only
  split
  · rename_i hwaits
    have hpos := hwork.2 hwaits
    have hsync := syncing_of_waiting hwaits
    have hresumed : ∀ e' : Endpoint, e'.hop = (postHopBurstWorkFn cfg e).1.hop →
        HopInv cfg (postHopBurstResume cfg e').hop := by
      intro e' hsame
      have hend : (sendBlockingEnd cfg e').1.hop = (postHopBurstWorkFn cfg e).1.hop :=
        hop_sendBlockingEnd.trans hsame
      exact HopInv.burstTail (by rw [hend]; exact hwork.1) (by rw [hend]; exact hpos)
    cases ended with
    | none => exact hresumed _ rfl
    | some outcome => exact hresumed _ (hop_txDone_of_syncing hsync outcome)
  · exact hwork.1

/-- A committed hop starts its burst afresh. -/
theorem HopInv.commitHop (hi : HopInv cfg h) : HopInv cfg (commitHop cfg now h) := by
  have hle : (UInt8.ofNat cfg.channelHopPostBurstCount).toNat ≤ cfg.channelHopPostBurstCount := by
    rw [UInt8.toNat_ofNat']
    exact Nat.mod_le _ _
  unfold EsbEndpoint.commitHop startPostHopBurst
  dsimp only
  split
  · exact ⟨{ hi with
      negotiateDue := fun _ => rfl
      committedNext := Or.inl rfl
      synced := fun hset => Bool.noConfusion hset }, hi.tagged⟩
  · exact ⟨{ hi with
      negotiateDue := fun _ => rfl
      committedNext := Or.inl rfl
      pendingCandidate := Or.inl rfl
      postHopBurst := hle
      synced := fun hset => Bool.noConfusion hset }, hi.tagged⟩

theorem HopInv.onHopped (hi : HopInv cfg h) (kind : HopKind) {current : UInt8}
    (hcurrent : InBand current) (target : UInt8) :
    HopInv cfg (onHopped cfg now kind current target h) := by
  cases kind with
  | fallback =>
    exact HopInv.commitHop ⟨{ hi with prevChannel := Or.inl rfl }, hi.tagged⟩
  | revert =>
    exact HopInv.commitHop ⟨{ hi with prevChannel := Or.inl rfl }, hi.tagged⟩
  | normal =>
    exact HopInv.commitHop ⟨{ hi with prevChannel := Or.inr hcurrent }, hi.tagged⟩

theorem HopInv.hop (hi : HopInv cfg e.hop) (hband : InBand e.tp.channel) :
    HopInv cfg (hopWorkFn cfg e).hop := by
  obtain ⟨pending, prng, ⟨-, hs, -⟩ | ⟨target, -, ⟨-, hs, -⟩ | ⟨-, hs, -⟩⟩⟩ :=
    @hopWorkFn_cases cfg e
  · rw [hs]
    exact ⟨{ hi with }, hi.tagged⟩
  · rw [hs]
    exact ⟨{ hi with }, hi.tagged⟩
  · have hchosen : HopInv cfg
        { e.hop with rendezvousFallbackPending := pending, prngState := prng } :=
      ⟨{ hi with }, hi.tagged⟩
    rw [hs]
    exact hchosen.onHopped _ hband target

theorem HopInv.offer (hi : HopInv cfg e.hop) :
    HopInv cfg (coopHopOfferWorkFn cfg e).hop := by
  have hpicked : ∃ prngState, (coopHopPickTarget cfg e).1.hop = { e.hop with prngState } := by
    unfold coopHopPickTarget
    split <;> exact ⟨_, rfl⟩
  have hbegun : HopInv cfg (coopHopOfferBegin cfg e).1.hop ∧
      ∀ pkt, (coopHopOfferBegin cfg e).2 = some pkt → isUserTraffic pkt = false := by
    obtain ⟨prngState, hhop⟩ := hpicked
    have hband := (@coopHopPickTarget_spec cfg e).2
    unfold coopHopOfferBegin
    split
    · exact ⟨⟨{ hi with armed := fun harmed => absurd harmed (by simp) }, hi.tagged⟩,
        fun _ h => absurd h (by simp)⟩
    · split
      · exact ⟨hi, fun _ h => absurd h (by simp)⟩
      · dsimp only
        split
        · rw [Endpoint.mapHop_hop, hhop]
          exact ⟨⟨{ hi with armed := fun harmed => absurd harmed (by simp) }, hi.tagged⟩,
            fun _ h => absurd h (by simp)⟩
        · rename_i htarget
          -- a target that is offered was picked, so it is in the band
          have hin : InBand (coopHopPickTarget cfg e).2 := by
            rcases hband with hinvalid | hin
            · rw [hinvalid] at htarget
              exact absurd (by rfl) htarget
            · exact hin
          rw [Endpoint.mapHop_hop, hhop]
          refine ⟨⟨{ hi with armed := fun _ => hin }, fun _ => hin⟩, fun pkt hpkt => ?_⟩
          obtain rfl := Option.some.inj hpkt
          rfl
  unfold coopHopOfferWorkFn
  split
  · rename_i heq
    rw [heq] at hbegun
    exact hbegun.1
  · rename_i e' pkt heq
    rw [heq] at hbegun
    have hown := hop_send_of_own cfg e' esbPipeData pkt (hbegun.2 pkt rfl)
    unfold coopHopOfferSend
    split
    · rename_i hsend
      rw [hsend] at hown
      dsimp only at hown ⊢
      rw [hown]
      exact hbegun.1
    · rename_i hsend
      rw [hsend] at hown
      dsimp only at hown ⊢
      rw [Endpoint.mapHop_hop, hown]
      exact ⟨{ hbegun.1 with armed := fun harmed => absurd harmed (by simp) },
        fun hset => Bool.noConfusion hset⟩

theorem HopInv.commit (hi : HopInv cfg e.hop) :
    HopInv cfg (coopHopCommitWorkFn cfg e).hop := by
  have hhop := @hop_esbTransportSetChannel cfg e e.hop.coopHopTarget
  have hnot : CoopHopState.idle = .armed → ∀ {p : Prop}, p := fun h => absurd h (by simp)
  unfold coopHopCommitWorkFn
  split
  · exact hi
  · dsimp only
    split
    · exact ⟨{ hi with armed := fun harmed => hnot harmed }, hi.tagged⟩
    · split
      · rename_i heq
        rw [heq] at hhop
        dsimp only at hhop ⊢
        rw [Endpoint.mapHop_hop, hhop]
        exact ⟨{ hi with armed := fun harmed => hnot harmed }, hi.tagged⟩
      · rename_i e' heq
        rw [heq] at hhop
        dsimp only at hhop ⊢
        rw [Endpoint.mapHop_hop, hhop]
        have hcommitted : HopInv cfg (commitHopBookkeeping cfg e'.now e.tp.channel
            cfg.coopHopQuarantineMs { e.hop with prevChannel := channelHopInvalid }) :=
          HopInv.commitHop ⟨{ hi with prevChannel := Or.inl rfl }, hi.tagged⟩
        exact ⟨{ hcommitted with armed := fun harmed => hnot harmed }, hcommitted.tagged⟩

/-! ## Steps and runs -/

/-- **Every step keeps the statics in order**, on a channel of the band. -/
theorem HopInv.step (hi : HopInv cfg e.hop) (hband : InBand e.tp.channel) (op : ManagerOp) :
    HopInv cfg (managerStep cfg e op).hop := by
  cases op with
  | init => exact hi.init
  | call entry => exact hi.call entry
  | negotiate => exact hi.negotiate
  | idleCheck => exact hi.idleCheck
  | postHopBurst ended =>
    have hpopped : HopInv cfg { e.hop with postHopBurstWork := none } := ⟨{ hi with }, hi.tagged⟩
    exact @HopInv.burstRun cfg (e.mapHop fun h => { h with postHopBurstWork := none }) hpopped ended
  | hop =>
    have hpopped : HopInv cfg { e.hop with hopWork := false } := ⟨{ hi with }, hi.tagged⟩
    exact @HopInv.hop cfg (e.mapHop fun h => { h with hopWork := false }) hpopped hband
  | hopRetry => exact ⟨{ hi with }, hi.tagged⟩
  | offer =>
    have hpopped : HopInv cfg { e.hop with coopHopOfferWork := none } := ⟨{ hi with }, hi.tagged⟩
    exact @HopInv.offer cfg (e.mapHop fun h => { h with coopHopOfferWork := none }) hpopped
  | commit =>
    have hpopped : HopInv cfg { e.hop with coopHopCommitWork := none } := ⟨{ hi with }, hi.tagged⟩
    exact @HopInv.commit cfg (e.mapHop fun h => { h with coopHopCommitWork := none }) hpopped
  | world rest => exact hi

/-- The radio takes no channel outside the band. -/
theorem inBand_of_canSwitch {channel : UInt8} (h : canSwitch cfg e channel = true) :
    InBand channel := by
  simp only [canSwitch, Bool.and_eq_true, decide_eq_true_eq] at h
  exact Nat.lt_succ_of_le (UInt8.le_iff_toNat_le.1 h.1.2)

theorem inBand_step (hband : InBand e.tp.channel) (op : ManagerOp) :
    InBand (managerStep cfg e op).tp.channel := by
  by_cases hhop : op = .hop
  · subst hhop
    obtain ⟨_, _, ⟨-, -, hs⟩ | ⟨target, -, ⟨-, -, hs⟩ | ⟨hyes, -, hs⟩⟩⟩ :=
      @hopWorkFn_cases cfg (e.mapHop fun h => { h with hopWork := false })
    · rw [managerStep, hs]
      exact hband
    · rw [managerStep, hs]
      exact hband
    · rw [managerStep, hs]
      exact inBand_of_canSwitch hyes
  · by_cases hcommit : op = .commit
    · subst hcommit
      rw [managerStep, channel_coopHopCommitWorkFn]
      split
      · rename_i hyes
        exact inBand_of_canSwitch hyes.2
      · exact hband
    · rw [channel_managerStep hhop hcommit]
      exact hband

/-! ## The CONFIRM that counts -/

theorem committedSynced_onTxFailIsr :
    (channelHopEpOnTxFailIsr cfg now h).committedSynced = h.committedSynced := by
  have hfail := @onTxFail_onTxFailIsr cfg now h
  generalize channelHopEpOnTxFailIsr cfg now h = h' at hfail ⊢
  cases hfail <;> rfl

/-- A packet that is no `CONFIRM` settles nothing. -/
theorem committedSynced_onRx {buf : List UInt8} {len : Nat}
    (hnot : takesConfirm cfg buf len = false) :
    (channelHopEpOnRx cfg h buf len).committedSynced = h.committedSynced := by
  have haccept : (onHopAccept h buf len).committedSynced = h.committedSynced := by
    unfold onHopAccept
    split
    · rfl
    · split
      · rfl
      · split
        · rfl
        · split <;> rfl
  unfold channelHopEpOnRx
  split
  · rfl
  · rename_i hhop
    split
    · rfl
    · split
      · exact haccept
      · split
        · rfl
        · rename_i hlen
          split
          · rfl
          · rename_i htype
            split
            · rfl
            · rename_i hband
              rw [Bool.not_eq_true', Bool.not_eq_false] at hhop
              rw [bne_iff_ne, not_not] at htype
              refine absurd hnot (Bool.not_eq_false _ ▸ ?_)
              rw [takesConfirm, hhop, htype, decide_eq_true (by omega : 3 ≤ len),
                decide_eq_true (Nat.lt_of_not_le hband)]
              rfl

theorem committedSynced_call {entry : HopCall} (hhop : cfg.channelHop = true)
    (hset : (entry.apply cfg now h).committedSynced = true) :
    entry.event cfg h = some .confirmed ∨
      h.committedSynced = true ∧ ∀ ev, entry.event cfg h = some ev → ev.unsettlesLink = false := by
  have hnone : ∀ ev : ManagerEvent, (none : Option ManagerEvent) = some ev →
      ev.unsettlesLink = false := fun _ h => absurd h (by simp)
  have hactive : ∀ (h₁ : HopEp) proposal, (enterActiveState cfg h₁ proposal).committedSynced =
      h₁.committedSynced := by
    intro h₁ proposal
    unfold enterActiveState
    dsimp only
    split <;> rfl
  cases entry with
  | onConnected =>
    rw [HopCall.apply, channelHopEpOnConnected, hhop, Bool.not_true, if_neg Bool.false_ne_true,
      hactive] at hset
    exact Or.inr ⟨hset, hnone⟩
  | onDisconnected =>
    -- a disconnect clears the flag, so it cannot be set
    rw [HopCall.apply, channelHopEpOnDisconnected, hhop, Bool.not_true,
      if_neg Bool.false_ne_true] at hset
    dsimp only at hset
    split at hset <;> exact Bool.noConfusion hset
  | noteUserTx =>
    rw [HopCall.apply, channelHopEpNoteUserTx, hhop, Bool.not_true,
      if_neg Bool.false_ne_true] at hset
    split at hset
    · exact Or.inr ⟨hset, hnone⟩
    · rw [hactive] at hset
      exact Or.inr ⟨hset, hnone⟩
  | onTxFailIsr =>
    rw [HopCall.apply, committedSynced_onTxFailIsr] at hset
    exact Or.inr ⟨hset, hnone⟩
  | onTxSuccessIsr =>
    refine Or.inr ⟨?_, fun ev hev => ?_⟩
    · rcases @onTxSuccessIsr_cases cfg now h with hs | ⟨_, _, _, -, hs⟩
      · rw [HopCall.apply, hs] at hset
        exact hset
      · rw [HopCall.apply, hs] at hset
        exact hset
    · obtain rfl := Option.some.inj hev
      rfl
  | onLinkDegradedIsr =>
    refine Or.inr ⟨?_, hnone⟩
    rcases @onLinkDegradedIsr_cases cfg now h with hs | ⟨-, -, -, -, hs⟩
    · rw [HopCall.apply, hs] at hset
      exact hset
    · rw [HopCall.apply, hs] at hset
      exact hset
  | onRx buf len =>
    -- a packet sets it as a `CONFIRM` alone
    cases hconfirm : takesConfirm cfg buf len with
    | true => exact Or.inl (by rw [HopCall.event, hconfirm, if_pos rfl])
    | false =>
      rw [HopCall.apply, committedSynced_onRx hconfirm] at hset
      refine Or.inr ⟨hset, ?_⟩
      rw [HopCall.event, hconfirm, if_neg Bool.false_ne_true]
      exact hnone
  | onRequest =>
    rw [HopCall.apply, channelHopEpOnRequest, hhop, Bool.not_true,
      if_neg Bool.false_ne_true] at hset
    -- a `REQUEST` clears it, unless the link is down
    split at hset
    · rename_i hdown
      rw [Bool.not_eq_true'] at hdown
      refine Or.inr ⟨hset, fun ev hev => ?_⟩
      obtain rfl := Option.some.inj hev
      exact hdown
    · rw [committedSynced_onTxFailIsr] at hset
      exact Bool.noConfusion hset

/-- **What counts as settled has just been confirmed, or was settled and
is not disturbed.** -/
theorem committedSynced_managerStep {op : ManagerOp}
    (hset : (managerStep cfg e op).hop.committedSynced = true) :
    managerEvent cfg e op = some .confirmed ∨
      e.hop.committedSynced = true ∧
        ∀ ev, managerEvent cfg e op = some ev → ev.unsettlesLink = false := by
  have hnone : ∀ ev : ManagerEvent, (none : Option ManagerEvent) = some ev →
      ev.unsettlesLink = false := fun _ h => absurd h (by simp)
  cases op with
  | init =>
    rw [managerStep, Endpoint.mapHop_hop, channelHopEpInit] at hset
    split at hset
    · exact Or.inr ⟨hset, hnone⟩
    · dsimp only at hset
      split at hset <;> exact Bool.noConfusion hset
  | call entry =>
    rw [managerEvent]
    cases hhop : cfg.channelHop with
    | true =>
      rw [if_pos rfl]
      exact committedSynced_call hhop hset
    | false =>
      rw [managerStep, Endpoint.mapHop_hop, apply_of_channelHop_eq_false hhop] at hset
      rw [if_neg Bool.false_ne_true]
      exact Or.inr ⟨hset, hnone⟩
  | negotiate =>
    refine Or.inr ⟨?_, hnone⟩
    rcases @negotiateWorkFn_cases cfg (e.mapHop fun h => { h with negotiateWork := none }) with
      ⟨-, hs⟩ | ⟨_, _, _, _, hsynced, -, hs⟩
    · rw [managerStep, hs] at hset
      exact hset
    · rw [managerStep, hs] at hset
      exact hsynced hset
  | idleCheck =>
    have hidle : ∀ h₁ : HopEp, (enterIdleBegin cfg h₁).committedSynced = h₁.committedSynced := by
      intro h₁
      unfold enterIdleBegin
      dsimp only
      split <;> rfl
    refine Or.inr ⟨?_, hnone⟩
    rcases @hop_idleCheckWorkFn cfg (e.mapHop fun h => { h with idleCheckWork := none }) with
      ⟨-, hs⟩ | ⟨-, hs⟩
    · rw [managerStep, hs] at hset
      exact hset
    · rw [managerStep, hs, hidle] at hset
      exact hset
  | postHopBurst ended =>
    obtain ⟨_, _, _, _, hs⟩ := @hop_postHopBurstRun cfg
      (e.mapHop fun h => { h with postHopBurstWork := none }) ended
    rw [managerStep, hs] at hset
    exact Or.inr ⟨hset, hnone⟩
  | hop =>
    have hwork := @hopWork_hopWorkFn cfg (e.mapHop fun h => { h with hopWork := false })
    rw [managerStep] at hset
    rw [managerEvent, managerStep]
    generalize (hopWorkFn cfg (e.mapHop fun h => { h with hopWork := false })).tp.channel = c
      at hwork ⊢
    generalize (hopWorkFn cfg (e.mapHop fun h => { h with hopWork := false })).hop = h'
      at hwork hset
    cases hwork with
    | hopped pending prng quarantine prev remaining candidate burstWork hchoice hyes =>
      exact Bool.noConfusion hset
    | _ => exact Or.inr ⟨hset, by rw [if_pos (by rfl)]; exact hnone⟩
  | hopRetry => exact Or.inr ⟨hset, hnone⟩
  | offer =>
    obtain ⟨_, _, _, _, _, hs⟩ := @hop_coopHopOfferWorkFn cfg
      (e.mapHop fun h => { h with coopHopOfferWork := none })
    rw [managerStep, hs] at hset
    exact Or.inr ⟨hset, hnone⟩
  | commit =>
    have hcommit := @commitWork_coopHopCommitWorkFn cfg
      (e.mapHop fun h => { h with coopHopCommitWork := none })
    rw [managerStep] at hset
    rw [managerEvent, managerStep]
    generalize (coopHopCommitWorkFn cfg
      (e.mapHop fun h => { h with coopHopCommitWork := none })).tp.channel = c at hcommit ⊢
    generalize (coopHopCommitWorkFn cfg
      (e.mapHop fun h => { h with coopHopCommitWork := none })).hop = h' at hcommit hset
    cases hcommit with
    | committed quarantine remaining candidate work hstate htarget hyes =>
      exact Bool.noConfusion hset
    | _ => exact Or.inr ⟨hset, by rw [if_pos (by rfl)]; exact hnone⟩
  | world rest => exact Or.inr ⟨hset, hnone⟩

/-- **A step keeps the invariant**, where nothing counts as stale that
leaves a `CONFIRM` standing. -/
theorem ManagerRun.step_ok {stale : ManagerEvent → Bool} (hi : HopInv cfg s.e.hop)
    (hok : ManagerOk cfg stale s) {op : ManagerOp}
    (hstale : s.e.hop.committedSynced = true → ∀ ev, managerEvent cfg s.e op = some ev →
      ev.unsettlesLink = false → stale ev = false) :
    HopInv cfg (managerRunStep cfg s op).e.hop ∧ ManagerOk cfg stale (managerRunStep cfg s op) := by
  have hstep : HopInv cfg (managerRunStep cfg s op).e.hop := hi.step hok.channel op
  refine ⟨hstep, { hstep.toHopOk with channel := inBand_step hok.channel op, current := ?_ }⟩
  intro hset
  rcases committedSynced_managerStep hset with hconfirm | ⟨hold, hkept⟩
  · rw [managerRunStep, hconfirm, Option.toList_some, List.singleton_append, List.find?_cons,
      beq_self_eq_true, Bool.or_true]
  · have hcurrent := hok.current hold
    rw [managerRunStep]
    cases hevent : managerEvent cfg s.e op with
    | none => exact hcurrent
    | some ev =>
      rw [Option.toList_some, List.singleton_append, List.find?_cons]
      split
      · rename_i hfound
        rw [hstale hold ev hevent (hkept ev hevent), Bool.false_or, beq_iff_eq] at hfound
        rw [hfound]
      · exact hcurrent

theorem hopInv_statics : HopInv cfg HopEp.statics where
  linked hset := Bool.noConfusion hset
  idleCheckDue hset := Bool.noConfusion hset
  negotiateDue hset := Bool.noConfusion hset
  committedNext := Or.inl rfl
  prevChannel := Or.inl rfl
  pendingCandidate := Or.inl rfl
  armed harmed := absurd harmed (by simp [HopEp.statics])
  requestBurst := Nat.zero_le _
  postHopBurst := Nat.zero_le _
  synced hset := Bool.noConfusion hset
  tagged hset := Bool.noConfusion hset

theorem managerOk_start {stale : ManagerEvent → Bool} (hboot : e.hop = HopEp.statics)
    (hband : InBand e.tp.channel) : HopInv cfg e.hop ∧ ManagerOk cfg stale ⟨e, []⟩ := by
  have hinv : HopInv cfg e.hop := by
    rw [hboot]
    exact hopInv_statics
  refine ⟨hinv, { hinv.toHopOk with channel := hband, current := fun hset => ?_ }⟩
  rw [show (ManagerRun.mk e []).e.hop = HopEp.statics from hboot] at hset
  exact Bool.noConfusion hset

/-- **The invariant holds in every run of the manager** that starts on a
channel of the band, whatever is called and in any order, if a `REQUEST`
that finds the link down counts for nothing. -/
theorem managerOk_run (cfg : Config) (e : Endpoint) (ops : List ManagerOp)
    (hboot : e.hop = HopEp.statics) (hband : InBand e.tp.channel) :
    Throughout (managerRunStep cfg) (ManagerOk cfg ManagerEvent.unsettlesLink) ⟨e, []⟩ ops := by
  have hrun : Throughout (managerRunStep cfg) (fun s : ManagerRun => HopInv cfg s.e.hop ∧
      ManagerOk cfg ManagerEvent.unsettlesLink s) ⟨e, []⟩ ops :=
    Throughout.of_step (fun _ _ h => ManagerRun.step_ok h.1 h.2 fun _ _ _ hkept => hkept)
      (managerOk_start hboot hband)
  exact hrun.imp fun _ h => h.2

/-- What leaves a `CONFIRM` standing is no hop and no disconnect, and no
`REQUEST` that is heard. -/
theorem unsettles_of_heard {op : ManagerOp} (hheard : RequestHeard cfg s op)
    (hset : s.e.hop.committedSynced = true) (ev : ManagerEvent)
    (hevent : managerEvent cfg s.e op = some ev) (hkept : ev.unsettlesLink = false) :
    ev.unsettles = false := by
  cases ev with
  | requested linkUp =>
    exfalso
    have hdown : linkUp = false := hkept
    cases op with
    | call entry =>
      rw [managerEvent] at hevent
      split at hevent
      · rename_i hhop
        cases entry with
        | onRequest =>
          obtain rfl := ManagerEvent.requested.inj (Option.some.inj hevent)
          exact Bool.noConfusion (hdown.symm.trans (hheard hhop hset))
        | onRx buf len =>
          rw [HopCall.event] at hevent
          split at hevent
          · exact absurd hevent (by simp)
          · exact absurd hevent (by simp)
        | _ => exact absurd hevent (by simp [HopCall.event])
      · exact absurd hevent (by simp)
    | hop =>
      rw [managerEvent] at hevent
      split at hevent <;> exact absurd hevent (by simp)
    | commit =>
      rw [managerEvent] at hevent
      split at hevent <;> exact absurd hevent (by simp)
    | _ => exact absurd hevent (by simp [managerEvent])
  | _ => exact hkept

/-- A `REQUEST` that is not heard leaves the `CONFIRM` before it. -/
theorem not_managerOk_of_not_heard {op : ManagerOp} (hnot : ¬RequestHeard cfg s op) :
    ¬ManagerOk cfg ManagerEvent.unsettles (managerRunStep cfg s op) := by
  unfold RequestHeard at hnot
  split at hnot
  swap
  · exact absurd trivial hnot
  simp only [not_forall, Bool.not_eq_true] at hnot
  obtain ⟨hhop, hset, hlink⟩ := hnot
  have hignored : channelHopEpOnRequest cfg s.e.now s.e.hop = s.e.hop := by
    rw [channelHopEpOnRequest, hhop, hlink]
    rfl
  have hevents : (managerRunStep cfg s (.call .onRequest)).events =
      .requested false :: s.events := by
    rw [managerRunStep, managerEvent, if_pos hhop, HopCall.event, hlink]
    rfl
  intro hok
  have hstill : (managerRunStep cfg s (.call .onRequest)).e.hop.committedSynced = true := by
    show (channelHopEpOnRequest cfg s.e.now s.e.hop).committedSynced = true
    rw [hignored, hset]
  have hcurrent := hok.current hstill
  rw [hevents, List.find?_cons] at hcurrent
  exact absurd hcurrent (by simp [ManagerEvent.unsettles])

/-- **The invariant, exactly**: a run of the manager that starts on a
channel of the band keeps it throughout, every `REQUEST` unsettling a
`CONFIRM`, just when each that comes while a `CONFIRM` counts finds the link
up. -/
theorem managerOk_iff (cfg : Config) (e : Endpoint) (ops : List ManagerOp)
    (hboot : e.hop = HopEp.statics) (hband : InBand e.tp.channel) :
    Throughout (managerRunStep cfg) (ManagerOk cfg ManagerEvent.unsettles) ⟨e, []⟩ ops ↔
      Guarded (managerRunStep cfg) (RequestHeard cfg) ⟨e, []⟩ ops :=
  throughout_iff_guarded_of_breaks
    (I := fun s => HopInv cfg s.e.hop ∧ ManagerOk cfg ManagerEvent.unsettles s)
    (fun _ _ h hheard => ManagerRun.step_ok h.1 h.2 (unsettles_of_heard hheard))
    (fun _ h => h.2) (fun _ _ _ hnot => not_managerOk_of_not_heard hnot)
    (managerOk_start hboot hband)

/-- A `CONFIRM` on a link that is up, and a `REQUEST` behind it. -/
theorem managerOk_iff_connected :
    Throughout (managerRunStep .default) (ManagerOk .default ManagerEvent.unsettles)
      ⟨.booted .default, []⟩
      [.init, .call .onConnected, .negotiate, .call (.onRx [esbPktChannelHopConfirm, 5, 1] 3),
        .call .onRequest] :=
  (managerOk_iff .default _ _ rfl (by decide)).2
    ⟨trivial, trivial, trivial, trivial, fun _ _ => by decide +kernel, trivial⟩

/-- A `REQUEST` that finds the link down does not disturb the `CONFIRM`
before it. -/
theorem not_managerOk_of_request : ¬ ∀ (cfg : Config) (e : Endpoint) (ops : List ManagerOp),
    e.hop = HopEp.statics → InBand e.tp.channel →
      Throughout (managerRunStep cfg) (ManagerOk cfg ManagerEvent.unsettles) ⟨e, []⟩ ops := by
  intro h
  have hrun := h .default (.booted .default)
    [.init, .call (.onRx [esbPktChannelHopConfirm, 5, 1] 3), .call .onRequest] rfl (by decide)
  exact absurd (hrun.last.current (by decide +kernel)) (by decide +kernel)

end EsbEndpoint
