import EsbEndpoint.Hop.Effect

/-!
# Changing the channel

Two work items of the hop manager change the channel: `hop_work_fn`, which
chooses it alone, and `coop_hop_commit_work_fn`, which goes where a
handshake is armed for. `HopWork` and `CommitWork` list what each leaves
in the manager's statics, with the channel it leaves and with what had to
be the case for it.
-/

namespace EsbEndpoint

variable (cfg : Config)

/-- `esb_transport_set_channel` takes this channel. -/
def canSwitch (e : Endpoint) (channel : UInt8) : Bool :=
  e.tp.configured && channel ≤ 100 && (e.radio.state == .idle || cfg.esbFastChannelSwitching)

/-- The channel `hop_work_fn` goes for, or `none` where it returns without
trying. -/
def hopChoice (e : Endpoint) : Option UInt8 := (hopTarget cfg e (hopKind cfg e)).2

/-- What `hop_work_fn` leaves. -/
inductive HopWork (e : Endpoint) : HopEp → UInt8 → Prop
  | stayed (pending : Bool) (prngState : UInt32) (hchoice : hopChoice cfg e = none) :
      HopWork e { e.hop with rendezvousFallbackPending := pending, prngState } e.tp.channel
  | refused (pending : Bool) (prngState : UInt32) {target : UInt8}
      (hchoice : hopChoice cfg e = some target) (hno : canSwitch cfg e target = false) :
      HopWork e
        { e.hop with
          rendezvousFallbackPending := pending
          prngState
          hopRetryWork := some cfg.hopRetryDelayMs }
        e.tp.channel
  | hopped (pending : Bool) (prngState : UInt32) (quarantine : QuarantineState)
      (prevChannel postHopBurstRemaining pendingCandidate : UInt8) (postHopBurstWork : Delayable)
      {target : UInt8} (hchoice : hopChoice cfg e = some target)
      (hyes : canSwitch cfg e target = true) :
      HopWork e
        { e.hop with
          rendezvousFallbackPending := pending
          prngState, quarantine, prevChannel, postHopBurstRemaining, pendingCandidate
          postHopBurstWork
          committedNext := channelHopInvalid
          committedSynced := false
          hopCooldownUntil := e.now + UInt32.ofNat cfg.channelHopCooldownMs
          lastLinkEventMs := stampOf e.now
          negotiateWork := some cfg.channelHopNegotiateRetryMs }
        target

/-- The fallback flag as `hop_work_fn` leaves it. -/
def pendingAfter (e : Endpoint) : Bool :=
  if hopKind cfg e = .fallback then false else e.hop.rendezvousFallbackPending

/-- The target of an armed handshake is a channel to go to. -/
def targetElsewhere (e : Endpoint) : Bool :=
  e.hop.coopHopTarget != channelHopInvalid && e.hop.coopHopTarget != e.tp.channel

/-- What `coop_hop_commit_work_fn` leaves. -/
inductive CommitWork (e : Endpoint) : HopEp → UInt8 → Prop
  | unarmed (hstate : e.hop.coopHopState ≠ .armed) : CommitWork e e.hop e.tp.channel
  | stayed (hstate : e.hop.coopHopState = .armed) (htarget : targetElsewhere e = false) :
      CommitWork e { e.hop with coopHopState := .idle } e.tp.channel
  | refused (hstate : e.hop.coopHopState = .armed) (htarget : targetElsewhere e = true)
      (hno : canSwitch cfg e e.hop.coopHopTarget = false) :
      CommitWork e
        { e.hop with coopHopState := .idle, hopRetryWork := some cfg.hopRetryDelayMs } e.tp.channel
  | committed (quarantine : QuarantineState) (postHopBurstRemaining pendingCandidate : UInt8)
      (postHopBurstWork : Delayable) (hstate : e.hop.coopHopState = .armed)
      (htarget : targetElsewhere e = true) (hyes : canSwitch cfg e e.hop.coopHopTarget = true) :
      CommitWork e
        { e.hop with
          quarantine, postHopBurstRemaining, pendingCandidate, postHopBurstWork
          prevChannel := channelHopInvalid
          committedNext := channelHopInvalid
          committedSynced := false
          hopCooldownUntil := e.now + UInt32.ofNat cfg.channelHopCooldownMs
          lastLinkEventMs := stampOf e.now
          negotiateWork := some cfg.channelHopNegotiateRetryMs
          coopHopCooldownUntil := e.now + UInt32.ofNat cfg.coopHopCooldownMs
          coopHopState := .idle }
        e.hop.coopHopTarget

variable {cfg} {e : Endpoint}

/-! ## The transport -/

theorem esbSetRfChannel_snd (r : Radio) (channel : UInt8) :
    (esbSetRfChannel cfg r channel).2 = none ↔
      channel ≤ 100 ∧ (r.state = .idle ∨ cfg.esbFastChannelSwitching = true) := by
  rw [esbSetRfChannel]
  split
  · rename_i hlt
    exact iff_of_false (by simp) fun h => absurd hlt (UInt8.not_lt.2 h.1)
  · rename_i hle
    split
    · rename_i hbusy
      rw [Bool.and_eq_true, bne_iff_ne, Bool.not_eq_true'] at hbusy
      refine iff_of_false (by simp) fun h => h.2.elim hbusy.1 fun hfast => ?_
      exact Bool.noConfusion (hbusy.2.symm.trans hfast)
    · rename_i hready
      refine iff_of_true rfl ⟨UInt8.not_lt.1 hle, ?_⟩
      by_contra hno
      rw [not_or, Bool.not_eq_true] at hno
      exact hready (by rw [hno.2]; simpa using hno.1)

/-- **What `esb_transport_set_channel` does to the channel.** -/
theorem channel_setChannel (channel : UInt8) :
    (esbTransportSetChannel cfg e channel).1.tp.channel =
      if canSwitch cfg e channel = true then channel else e.tp.channel := by
  have hrf := @esbSetRfChannel_snd cfg (esbFlushTxAndReset cfg e).radio channel
  rw [(esbFlushTxAndReset_radio cfg e).1] at hrf
  simp only [esbTransportSetChannel, canSwitch, Bool.and_eq_true, decide_eq_true_eq,
    Bool.or_eq_true, beq_iff_eq]
  split
  · rename_i hconf
    rw [Bool.not_eq_true'] at hconf
    rw [if_neg fun h => Bool.noConfusion (hconf.symm.trans h.1.1)]
  · rename_i hconf
    rw [Bool.not_eq_true', Bool.not_eq_false] at hconf
    split
    · rename_i heq
      rw [heq] at hrf
      rw [if_neg fun h => absurd (hrf.2 ⟨h.1.2, h.2⟩) (by simp)]
      rfl
    · rename_i heq
      rw [heq] at hrf
      obtain ⟨hle, hidle⟩ := hrf.1 rfl
      rw [if_pos ⟨⟨hconf, hle⟩, hidle⟩]
      simp only [Endpoint.mapTp_tp, onNewChannel]
      split <;> rfl

theorem now_esbTransportSetChannel (channel : UInt8) :
    (esbTransportSetChannel cfg e channel).1.now = e.now := by
  unfold esbTransportSetChannel
  split
  · rfl
  · simp only []
    split <;> rfl

/-- A channel change succeeds just where the channel can be switched. -/
theorem esbTransportSetChannel_snd (channel : UInt8) :
    (esbTransportSetChannel cfg e channel).2 = none ↔ canSwitch cfg e channel = true := by
  have hrf := @esbSetRfChannel_snd cfg (esbFlushTxAndReset cfg e).radio channel
  rw [(esbFlushTxAndReset_radio cfg e).1] at hrf
  simp only [esbTransportSetChannel, canSwitch, Bool.and_eq_true, decide_eq_true_eq,
    Bool.or_eq_true, beq_iff_eq]
  split
  · rename_i hconf
    rw [Bool.not_eq_true'] at hconf
    exact iff_of_false (by simp) fun h => Bool.noConfusion (hconf.symm.trans h.1.1)
  · rename_i hconf
    rw [Bool.not_eq_true', Bool.not_eq_false] at hconf
    split
    · rename_i heq
      rw [heq] at hrf
      exact iff_of_false (by simp) fun h => absurd (hrf.2 ⟨h.1.2, h.2⟩) (by simp)
    · rename_i heq
      rw [heq] at hrf
      obtain ⟨hle, hidle⟩ := hrf.1 rfl
      exact iff_of_true rfl ⟨⟨hconf, hle⟩, hidle⟩

/-! ## The work items -/

/-- The choice of a target draws from the generator at most. -/
theorem hopTarget_fst (kind : HopKind) : ∃ (prngState : UInt32) (fails : UInt32),
    (hopTarget cfg e kind).1 =
      { e with
        hop := { e.hop with prngState }
        tp := { e.tp with consecutiveTxFail := fails } } ∧
    ((hopTarget cfg e kind).2.isSome = true → fails = e.tp.consecutiveTxFail) := by
  cases kind with
  | fallback => exact ⟨_, _, rfl, fun _ => rfl⟩
  | revert => exact ⟨_, _, rfl, fun _ => rfl⟩
  | normal =>
    simp only [hopTarget]
    split
    · exact ⟨_, _, rfl, fun _ => rfl⟩
    · split
      · exact ⟨_, _, rfl, fun h => Bool.noConfusion h⟩
      · exact ⟨_, _, rfl, fun _ => rfl⟩

/-- The fallback flag plays no part in a target. -/
theorem hopTarget_pending (kind : HopKind) (pending : Bool) :
    (hopTarget cfg (e.mapHop fun h => { h with rendezvousFallbackPending := pending }) kind).2 =
      (hopTarget cfg e kind).2 := by
  cases kind with
  | fallback => rfl
  | revert => rfl
  | normal =>
    simp only [hopTarget]
    split
    · rename_i hnext
      rw [if_pos (show (e.hop.committedNext != channelHopInvalid &&
        e.hop.committedNext != e.tp.channel) = true from hnext)]
      rfl
    · rename_i hnext
      rw [if_neg (show ¬(e.hop.committedNext != channelHopInvalid &&
        e.hop.committedNext != e.tp.channel) = true from hnext)]
      have hpick : (pickCandidate cfg
          (e.mapHop fun h => { h with rendezvousFallbackPending := pending })).2 =
            (pickCandidate cfg e).2 := rfl
      rw [hpick]
      split <;> rfl

/-- A hop goes elsewhere. -/
theorem hopChoice_ne {e : Endpoint} {target : UInt8} (h : hopChoice cfg e = some target) :
    target ≠ e.tp.channel := by
  unfold hopChoice at h
  cases hkind : hopKind cfg e with
  | fallback =>
    simp only [hkind, hopTarget] at h
    split at h
    · exact absurd h (by simp)
    · rename_i hne
      obtain rfl := Option.some.inj h
      exact hne
  | revert =>
    rw [hkind] at h
    obtain rfl : e.hop.prevChannel = target := Option.some.inj h
    unfold hopKind at hkind
    split at hkind
    · exact absurd hkind (by simp)
    · split at hkind
      · rename_i hprev
        rw [Bool.and_eq_true, bne_iff_ne, bne_iff_ne] at hprev
        exact hprev.2
      · exact absurd hkind (by simp)
  | normal =>
    simp only [hkind, hopTarget] at h
    split at h
    · rename_i hnext
      rw [Bool.and_eq_true, bne_iff_ne, bne_iff_ne] at hnext
      obtain rfl := Option.some.inj h
      exact hnext.2
    · split at h
      · exact absurd h (by simp)
      · rename_i hvalid
        rw [beq_iff_eq] at hvalid
        obtain rfl := Option.some.inj h
        rcases @channelHopPick_spec e.hop.quarantine e.now e.cycle e.hop.prngState
          cfg.channelQuarantineMinDistance e.tp.channel with hinvalid | hpick
        · exact absurd hinvalid hvalid
        · exact hpick.2

/-- From its target on, a hop is made or refused. -/
theorem hopTo_spec (kind : HopKind) (target : UInt8) :
    canSwitch cfg e target = false ∧
        (hopTo cfg e kind target).hop = { e.hop with hopRetryWork := some cfg.hopRetryDelayMs } ∧
        (hopTo cfg e kind target).tp.channel = e.tp.channel ∨
      canSwitch cfg e target = true ∧
        (hopTo cfg e kind target).hop = onHopped cfg e.now kind e.tp.channel target e.hop ∧
        (hopTo cfg e kind target).tp.channel = target := by
  have hsnd := @esbTransportSetChannel_snd cfg e target
  have hhop := @hop_esbTransportSetChannel cfg e target
  have hnow := @now_esbTransportSetChannel cfg e target
  have hchannel := @channel_setChannel cfg e target
  unfold hopTo
  split
  · rename_i heq
    rw [heq] at hsnd hhop hchannel
    have hno : canSwitch cfg e target = false := by
      rw [Bool.eq_false_iff]
      exact fun hyes => absurd (hsnd.2 hyes) (by simp)
    rw [hno, if_neg Bool.false_ne_true] at hchannel
    simp only [Endpoint.mapHop_hop, Endpoint.mapTp_hop, Endpoint.mapHop_tp, Endpoint.mapTp_tp]
    rw [hhop, hchannel]
    exact Or.inl ⟨hno, rfl, rfl⟩
  · rename_i heq
    rw [heq] at hsnd hhop hchannel hnow
    have hyes : canSwitch cfg e target = true := hsnd.1 rfl
    rw [hyes, if_pos rfl] at hchannel
    simp only [Endpoint.mapHop_hop, Endpoint.mapHop_tp]
    rw [hhop, hchannel, hnow]
    exact Or.inr ⟨hyes, rfl, rfl⟩

/-- **What `hop_work_fn` does**: it stays, is refused the channel it has
chosen, or hops there. -/
theorem hopWorkFn_spec : ∃ prngState,
    hopChoice cfg e = none ∧
        (hopWorkFn cfg e).hop =
          { e.hop with rendezvousFallbackPending := pendingAfter cfg e, prngState } ∧
        (hopWorkFn cfg e).tp.channel = e.tp.channel ∨
      ∃ target, hopChoice cfg e = some target ∧
        (canSwitch cfg e target = false ∧
            (hopWorkFn cfg e).hop =
              { e.hop with
                rendezvousFallbackPending := pendingAfter cfg e
                prngState
                hopRetryWork := some cfg.hopRetryDelayMs } ∧
            (hopWorkFn cfg e).tp.channel = e.tp.channel ∨
          canSwitch cfg e target = true ∧
            (hopWorkFn cfg e).hop =
              onHopped cfg e.now (hopKind cfg e) e.tp.channel target
                { e.hop with rendezvousFallbackPending := pendingAfter cfg e, prngState } ∧
            (hopWorkFn cfg e).tp.channel = target) := by
  have hcleared : (if hopKind cfg e = .fallback then
      e.mapHop fun h => { h with rendezvousFallbackPending := false } else e) =
        e.mapHop fun h => { h with rendezvousFallbackPending := pendingAfter cfg e } := by
    unfold pendingAfter
    split <;> rfl
  have hchoice : (hopTarget cfg
      (e.mapHop fun h => { h with rendezvousFallbackPending := pendingAfter cfg e })
      (hopKind cfg e)).2 = hopChoice cfg e := hopTarget_pending _ _
  obtain ⟨prngState, fails, hfst, hfails⟩ := @hopTarget_fst cfg
    (e.mapHop fun h => { h with rendezvousFallbackPending := pendingAfter cfg e }) (hopKind cfg e)
  refine ⟨prngState, ?_⟩
  simp only [hopWorkFn, hcleared]
  split
  · rename_i e' heq
    rw [heq] at hchoice hfst
    obtain rfl : e' = _ := hfst
    exact Or.inl ⟨hchoice.symm, rfl, rfl⟩
  · rename_i e' target heq
    rw [heq] at hchoice hfst hfails
    rw [hfails rfl] at hfst
    have he' : e' =
        { e with
          hop := { e.hop with rendezvousFallbackPending := pendingAfter cfg e, prngState } } := hfst
    have hcan : canSwitch cfg e' target = canSwitch cfg e target := by rw [he']; rfl
    have hspec := @hopTo_spec cfg e' (hopKind cfg e) target
    rw [hcan] at hspec
    subst he'
    exact Or.inr ⟨target, hchoice.symm, hspec⟩

/-- The same, where the flag does not matter. -/
theorem hopWorkFn_cases : ∃ pending prngState,
    hopChoice cfg e = none ∧
        (hopWorkFn cfg e).hop = { e.hop with rendezvousFallbackPending := pending, prngState } ∧
        (hopWorkFn cfg e).tp.channel = e.tp.channel ∨
      ∃ target, hopChoice cfg e = some target ∧
        (canSwitch cfg e target = false ∧
            (hopWorkFn cfg e).hop =
              { e.hop with
                rendezvousFallbackPending := pending
                prngState
                hopRetryWork := some cfg.hopRetryDelayMs } ∧
            (hopWorkFn cfg e).tp.channel = e.tp.channel ∨
          canSwitch cfg e target = true ∧
            (hopWorkFn cfg e).hop =
              onHopped cfg e.now (hopKind cfg e) e.tp.channel target
                { e.hop with rendezvousFallbackPending := pending, prngState } ∧
            (hopWorkFn cfg e).tp.channel = target) :=
  ⟨pendingAfter cfg e, hopWorkFn_spec⟩

/-- **A hop is one of the list.** -/
theorem hopWork_hopWorkFn :
    HopWork cfg e (hopWorkFn cfg e).hop (hopWorkFn cfg e).tp.channel := by
  obtain ⟨pending, prngState, ⟨hchoice, hhop, hchannel⟩ |
    ⟨target, hchoice, ⟨hno, hhop, hchannel⟩ | ⟨hyes, hhop, hchannel⟩⟩⟩ := @hopWorkFn_cases cfg e
  · rw [hhop, hchannel]
    exact HopWork.stayed pending prngState hchoice
  · rw [hhop, hchannel]
    exact HopWork.refused pending prngState hchoice hno
  · obtain ⟨_, _, _, _, _, hmade⟩ := @onHopped_cases cfg e.now
      { e.hop with rendezvousFallbackPending := pending, prngState } (hopKind cfg e)
      e.tp.channel target
    rw [hhop, hchannel, hmade]
    exact HopWork.hopped pending prngState _ _ _ _ _ hchoice hyes

/-- **A cooperative commit is one of the list.** -/
theorem commitWork_coopHopCommitWorkFn :
    CommitWork cfg e (coopHopCommitWorkFn cfg e).hop (coopHopCommitWorkFn cfg e).tp.channel := by
  have hsnd := @esbTransportSetChannel_snd cfg e e.hop.coopHopTarget
  have hhop := @hop_esbTransportSetChannel cfg e e.hop.coopHopTarget
  have hnow := @now_esbTransportSetChannel cfg e e.hop.coopHopTarget
  have hchannel := @channel_setChannel cfg e e.hop.coopHopTarget
  unfold coopHopCommitWorkFn
  split
  · rename_i hstate
    exact CommitWork.unarmed (bne_iff_ne.1 hstate)
  · rename_i hstate
    rw [bne_iff_ne, not_not] at hstate
    simp only []
    split
    · rename_i hsame
      refine CommitWork.stayed hstate ?_
      rw [Bool.or_eq_true, beq_iff_eq, beq_iff_eq] at hsame
      rw [targetElsewhere, Bool.and_eq_false_iff, bne_eq_false_iff_eq, bne_eq_false_iff_eq]
      exact hsame
    · rename_i hsame
      have htarget : targetElsewhere e = true := by
        rw [Bool.or_eq_true, beq_iff_eq, beq_iff_eq, not_or] at hsame
        rw [targetElsewhere, Bool.and_eq_true, bne_iff_ne, bne_iff_ne]
        exact hsame
      split
      · rename_i heq
        rw [heq] at hsnd hhop hchannel
        have hno : canSwitch cfg e e.hop.coopHopTarget = false := by
          rw [Bool.eq_false_iff]
          exact fun hyes => absurd (hsnd.2 hyes) (by simp)
        rw [hno, if_neg Bool.false_ne_true] at hchannel
        simp only [Endpoint.mapHop_hop, Endpoint.mapHop_tp]
        rw [hhop, hchannel]
        exact CommitWork.refused hstate htarget hno
      · rename_i heq
        rw [heq] at hsnd hhop hchannel hnow
        have hyes : canSwitch cfg e e.hop.coopHopTarget = true := hsnd.1 rfl
        rw [hyes, if_pos rfl] at hchannel
        simp only [Endpoint.mapHop_hop, Endpoint.mapHop_tp, commitHopBookkeeping]
        rw [hhop, hchannel, hnow]
        obtain ⟨_, _, _, hmade⟩ := @commitHop_cases cfg e.now
          { e.hop with
            prevChannel := channelHopInvalid
            quarantine := quarantineAdd e.hop.quarantine e.now e.tp.channel
              (UInt32.ofNat cfg.coopHopQuarantineMs) }
        rw [hmade]
        exact CommitWork.committed _ _ _ _ hstate htarget hyes

/-- **The channel a commit leaves**: its target's, where it would hop. -/
theorem channel_coopHopCommitWorkFn :
    (coopHopCommitWorkFn cfg e).tp.channel =
      if e.hop.coopHopState = .armed ∧ canSwitch cfg e e.hop.coopHopTarget = true then
        e.hop.coopHopTarget
      else e.tp.channel := by
  have hcommit := @commitWork_coopHopCommitWorkFn cfg e
  generalize (coopHopCommitWorkFn cfg e).hop = h' at hcommit
  generalize (coopHopCommitWorkFn cfg e).tp.channel = channel at hcommit ⊢
  cases hcommit with
  | unarmed hstate => rw [if_neg fun h => hstate h.1]
  | stayed hstate htarget =>
    rw [targetElsewhere, Bool.and_eq_false_iff, bne_eq_false_iff_eq, bne_eq_false_iff_eq] at htarget
    rcases htarget with hinvalid | hsame
    · -- no radio takes the invalid channel
      have hhigh : ¬channelHopInvalid ≤ (100 : UInt8) := by decide
      rw [hinvalid, if_neg (by simp [canSwitch, hhigh])]
    · rw [hsame, ite_self]
  | refused hstate htarget hno => rw [if_neg fun h => Bool.noConfusion (hno.symm.trans h.2)]
  | committed quarantine remaining candidate work hstate htarget hyes => rw [if_pos ⟨hstate, hyes⟩]

end EsbEndpoint
