import EsbEndpoint.Common.Run
import EsbEndpoint.Hop.Manager
import Mathlib.Data.List.Chain

/-!
# Reverting a hop

A hop that brings no acknowledged packet is taken back by the next one.
All that the manager keeps for it is the channel it came from, so that one
byte has to stand for the history of the link: it is set exactly as long
as the last channel change was a hop of `hop_work_fn`'s own choice and
nothing has been acknowledged since (`Revertible`). From this a revert
goes back where the last hop came from, once.
-/

namespace EsbEndpoint

variable (cfg : Config)

/-- The latest event that a hop to be taken back cannot have behind it. -/
def latestTurn (events : List ManagerEvent) : Option ManagerEvent :=
  events.find? fun ev => ev.hops || ev == .acked

/-- **A revert takes back the last channel change**, a normal hop by
`hop_work_fn` with nothing acknowledged since, and leaves the channel it
returns to out of quarantine. -/
def RevertsLastHop (s : ManagerRun) (op : ManagerOp) : Prop :=
  ∀ prev next, managerEvent cfg s.e op = some (.hopped .revert prev next) →
    latestTurn s.events = some (.hopped .normal next prev) ∧
      quarantineIs (managerStep cfg s.e op).hop.quarantine (managerStep cfg s.e op).now next = false

/-- No two consecutive hops by `hop_work_fn` are both reverts. -/
def RevertsApart (s : ManagerRun) : Prop :=
  (s.events.filterMap ManagerEvent.kind?).IsChain fun later earlier =>
    later = .revert → earlier ≠ .revert

/-- What the kept channel stands for. -/
def Revertible (s : ManagerRun) : Prop :=
  s.e.hop.prevChannel ≠ channelHopInvalid →
    latestTurn s.events = some (.hopped .normal s.e.hop.prevChannel s.e.tp.channel)

variable {cfg} {h h' : HopEp} {now : UInt32} {e : Endpoint} {s : ManagerRun}

/-! ## Quarantine -/

theorem quarantineIs_setExpiry_zero {q : QuarantineState} {channel : UInt8}
    (hband : channel.toNat < channelHopChannelCount) :
    quarantineIs (setExpiry q channel 0) now channel = false := by
  unfold quarantineIs setExpiry
  rw [if_neg (by omega), if_pos rfl]
  rfl

/-- A channel is quarantined on its own account. -/
theorem quarantineIs_quarantineAdd_of_ne {q : QuarantineState} {channel other : UInt8}
    {holdMs now' : UInt32} (hne : channel ≠ other) :
    quarantineIs (quarantineAdd q now other holdMs) now' channel = quarantineIs q now' channel := by
  have hother : quarantineAdd q now other holdMs channel = q channel := by
    unfold quarantineAdd
    split
    · rfl
    · dsimp only
      split
      · rw [setExpiry, if_neg hne]
      · rfl
  unfold quarantineIs
  rw [hother]

theorem quarantine_commitHop : (commitHop cfg now h).quarantine = h.quarantine := by
  unfold commitHop startPostHopBurst
  dsimp only
  split <;> rfl

theorem prevChannel_commitHop : (commitHop cfg now h).prevChannel = h.prevChannel := by
  unfold commitHop startPostHopBurst
  dsimp only
  split <;> rfl

/-- The channel a revert returns to is released, and the one it leaves is
another. -/
theorem quarantineIs_onHopped_revert {current target : UInt8} {now' : UInt32}
    (hband : target.toNat < channelHopChannelCount) (hne : target ≠ current) :
    quarantineIs (onHopped cfg now .revert current target h).quarantine now' target = false := by
  rw [onHopped, commitHopBookkeeping, quarantine_commitHop, quarantineIs_quarantineAdd_of_ne hne]
  exact quarantineIs_setExpiry_zero hband

/-- Only a normal hop is to be taken back. -/
theorem prevChannel_onHopped (kind : HopKind) {current target : UInt8} :
    (onHopped cfg now kind current target h).prevChannel =
      if kind = .normal then current else channelHopInvalid := by
  cases kind with
  | fallback =>
    rw [onHopped, prevChannel_commitHop]
    rfl
  | revert =>
    rw [onHopped, commitHopBookkeeping, prevChannel_commitHop]
    rfl
  | normal =>
    rw [onHopped, commitHopBookkeeping, prevChannel_commitHop]
    rfl

/-! ## The kept channel -/

/-- A step that neither changes the channel nor hears of a success. -/
def Unturned (cfg : Config) (e : Endpoint) (op : ManagerOp) : Prop :=
  (managerStep cfg e op).tp.channel = e.tp.channel ∧
    ∀ ev, managerEvent cfg e op = some ev → (ev.hops || ev == .acked) = false

/-- What a step may do to the channel a revert would return to. -/
inductive KeepsPrev (cfg : Config) (e : Endpoint) (op : ManagerOp) : Prop
  | forgotten (hprev : (managerStep cfg e op).hop.prevChannel = channelHopInvalid)
  | kept (hprev : (managerStep cfg e op).hop.prevChannel = e.hop.prevChannel)
      (hturn : Unturned cfg e op)
  | hopped (hprev : (managerStep cfg e op).hop.prevChannel = e.tp.channel)
      (hevent : managerEvent cfg e op =
        some (.hopped .normal e.tp.channel (managerStep cfg e op).tp.channel))

theorem prevChannel_onTxFailIsr :
    (channelHopEpOnTxFailIsr cfg now h).prevChannel = h.prevChannel := by
  have hfail := @onTxFail_onTxFailIsr cfg now h
  generalize channelHopEpOnTxFailIsr cfg now h = h' at hfail ⊢
  cases hfail <;> rfl

/-- A disconnect and a success forget the kept channel, and no other call
touches it. -/
theorem prevChannel_call {entry : HopCall} (hhop : cfg.channelHop = true) :
    (entry.apply cfg now h).prevChannel = channelHopInvalid ∨
      (entry.apply cfg now h).prevChannel = h.prevChannel ∧
        ∀ ev, entry.event cfg h = some ev → (ev.hops || ev == .acked) = false := by
  have hnone : ∀ ev : ManagerEvent, (none : Option ManagerEvent) = some ev →
      (ev.hops || ev == .acked) = false := fun _ h => absurd h (by simp)
  cases entry with
  | onConnected =>
    obtain ⟨_, hs⟩ := @onConnected_cases cfg h hhop
    exact Or.inr ⟨by rw [HopCall.apply, hs], hnone⟩
  | onDisconnected =>
    left
    rw [HopCall.apply, channelHopEpOnDisconnected, hhop, Bool.not_true,
      if_neg Bool.false_ne_true]
    dsimp only
    split <;> rfl
  | noteUserTx =>
    rcases @noteUserTx_cases cfg h with hs | ⟨-, _, hs⟩
    · exact Or.inr ⟨by rw [HopCall.apply, hs], hnone⟩
    · exact Or.inr ⟨by rw [HopCall.apply, hs], hnone⟩
  | onTxFailIsr => exact Or.inr ⟨prevChannel_onTxFailIsr, hnone⟩
  | onTxSuccessIsr =>
    left
    rw [HopCall.apply, channelHopEpOnTxSuccessIsr, hhop, Bool.not_true,
      if_neg Bool.false_ne_true]
  | onLinkDegradedIsr =>
    rcases @onLinkDegradedIsr_cases cfg now h with hs | ⟨-, -, -, -, hs⟩
    · exact Or.inr ⟨by rw [HopCall.apply, hs], hnone⟩
    · exact Or.inr ⟨by rw [HopCall.apply, hs], hnone⟩
  | onRx buf len =>
    obtain ⟨_, _, _, _, _, hs⟩ := @onRx_cases cfg h buf len
    refine Or.inr ⟨by rw [HopCall.apply, hs], fun ev hev => ?_⟩
    rw [HopCall.event] at hev
    split at hev
    · obtain rfl := Option.some.inj hev
      rfl
    · exact hnone ev hev
  | onRequest =>
    refine Or.inr ⟨?_, fun ev hev => ?_⟩
    · rcases @onRequest_cases cfg now h with hs | ⟨-, _, _, _, hs⟩
      · rw [HopCall.apply, hs]
      · rw [HopCall.apply, hs, prevChannel_onTxFailIsr]
    · obtain rfl := Option.some.inj hev
      rfl

theorem keepsPrev_hop : KeepsPrev cfg e .hop := by
  obtain ⟨_, _, hcases⟩ := @hopWorkFn_cases cfg (e.mapHop fun h => { h with hopWork := false })
  have hstep : managerStep cfg e .hop =
      hopWorkFn cfg (e.mapHop fun h => { h with hopWork := false }) := rfl
  rw [← hstep] at hcases
  have hstayed : (managerStep cfg e .hop).hop.prevChannel = e.hop.prevChannel →
      (managerStep cfg e .hop).tp.channel = e.tp.channel → KeepsPrev cfg e .hop := by
    intro hprev hchannel
    refine KeepsPrev.kept hprev ⟨hchannel, fun ev hev => ?_⟩
    rw [managerEvent, if_pos hchannel] at hev
    exact absurd hev (by simp)
  rcases hcases with ⟨-, hs, hchannel⟩ | ⟨target, hchoice, ⟨-, hs, hchannel⟩ | ⟨-, hs, hchannel⟩⟩
  · exact hstayed (by rw [hs]; rfl) hchannel
  · exact hstayed (by rw [hs]; rfl) hchannel
  · have hprev : (managerStep cfg e .hop).hop.prevChannel =
        if hopKind cfg e = .normal then e.tp.channel else channelHopInvalid := by
      rw [hs, prevChannel_onHopped]
      rfl
    by_cases hkind : hopKind cfg e = .normal
    · rw [if_pos hkind] at hprev
      refine KeepsPrev.hopped hprev ?_
      have hne := hopChoice_ne hchoice
      rw [← hchannel] at hne
      rw [managerEvent, if_neg (show ¬(managerStep cfg e .hop).tp.channel = e.tp.channel from hne),
        hkind]
    · rw [if_neg hkind] at hprev
      exact KeepsPrev.forgotten hprev

theorem keepsPrev_commit : KeepsPrev cfg e .commit := by
  have hcommit := @commitWork_coopHopCommitWorkFn cfg
    (e.mapHop fun h => { h with coopHopCommitWork := none })
  have hstep : managerStep cfg e .commit =
      coopHopCommitWorkFn cfg (e.mapHop fun h => { h with coopHopCommitWork := none }) := rfl
  rw [← hstep] at hcommit
  have hstayed : (managerStep cfg e .commit).hop.prevChannel = e.hop.prevChannel →
      (managerStep cfg e .commit).tp.channel = e.tp.channel → KeepsPrev cfg e .commit := by
    intro hprev hchannel
    refine KeepsPrev.kept hprev ⟨hchannel, fun ev hev => ?_⟩
    rw [managerEvent, if_pos hchannel] at hev
    exact absurd hev (by simp)
  generalize hh : (managerStep cfg e .commit).hop = h' at hcommit
  generalize hc : (managerStep cfg e .commit).tp.channel = c at hcommit
  cases hcommit with
  | unarmed hstate => exact hstayed (by rw [hh]; rfl) hc
  | stayed hstate htarget => exact hstayed (by rw [hh]; rfl) hc
  | refused hstate htarget hno => exact hstayed (by rw [hh]; rfl) hc
  | committed quarantine remaining candidate work hstate htarget hyes =>
    exact KeepsPrev.forgotten (by rw [hh])

/-- **Every step is one of the list.** -/
theorem keepsPrev_managerStep (op : ManagerOp) : KeepsPrev cfg e op := by
  have hquiet : op ≠ .hop → op ≠ .commit → managerEvent cfg e op = none →
      (managerStep cfg e op).hop.prevChannel = e.hop.prevChannel → KeepsPrev cfg e op := by
    intro hhop hcommit hevent hprev
    refine KeepsPrev.kept hprev ⟨channel_managerStep hhop hcommit, fun ev hev => ?_⟩
    exact absurd (hevent.symm.trans hev) (by simp)
  cases op with
  | init =>
    have hinit : (managerStep cfg e .init).hop.prevChannel = e.hop.prevChannel ∨
        (managerStep cfg e .init).hop.prevChannel = channelHopInvalid := by
      rw [managerStep, Endpoint.mapHop_hop, channelHopEpInit]
      split
      · exact Or.inl rfl
      · dsimp only
        split <;> exact Or.inr rfl
    rcases hinit with hprev | hprev
    · exact hquiet (by simp) (by simp) rfl hprev
    · exact KeepsPrev.forgotten hprev
  | call entry =>
    cases hhop : cfg.channelHop with
    | true =>
      rcases @prevChannel_call cfg e.hop e.now entry hhop with hprev | ⟨hprev, hturn⟩
      · exact KeepsPrev.forgotten hprev
      · refine KeepsPrev.kept hprev ⟨rfl, fun ev hev => hturn ev ?_⟩
        rw [managerEvent, hhop, if_pos rfl] at hev
        exact hev
    | false =>
      refine hquiet (by simp) (by simp) ?_ ?_
      · rw [managerEvent, hhop, if_neg Bool.false_ne_true]
      · rw [managerStep, Endpoint.mapHop_hop, apply_of_channelHop_eq_false hhop]
  | negotiate =>
    obtain ⟨_, _, _, _, hs⟩ := @hop_negotiateWorkFn cfg
      (e.mapHop fun h => { h with negotiateWork := none })
    exact hquiet (by simp) (by simp) rfl (by rw [managerStep, hs]; rfl)
  | idleCheck =>
    have hidle : ∀ h₁ : HopEp, (enterIdleBegin cfg h₁).prevChannel = h₁.prevChannel := by
      intro h₁
      unfold enterIdleBegin
      dsimp only
      split <;> rfl
    rcases @hop_idleCheckWorkFn cfg (e.mapHop fun h => { h with idleCheckWork := none }) with
      ⟨-, hs⟩ | ⟨-, hs⟩
    · exact hquiet (by simp) (by simp) rfl (by rw [managerStep, hs]; rfl)
    · exact hquiet (by simp) (by simp) rfl (by rw [managerStep, hs, hidle]; rfl)
  | postHopBurst ended =>
    obtain ⟨_, _, _, _, hs⟩ := @hop_postHopBurstRun cfg
      (e.mapHop fun h => { h with postHopBurstWork := none }) ended
    exact hquiet (by simp) (by simp) rfl (by rw [managerStep, hs]; rfl)
  | hop => exact keepsPrev_hop
  | hopRetry => exact hquiet (by simp) (by simp) rfl rfl
  | offer =>
    obtain ⟨_, _, _, _, _, hs⟩ := @hop_coopHopOfferWorkFn cfg
      (e.mapHop fun h => { h with coopHopOfferWork := none })
    exact hquiet (by simp) (by simp) rfl (by rw [managerStep, hs]; rfl)
  | commit => exact keepsPrev_commit
  | world rest => exact hquiet (by simp) (by simp) rfl rfl

/-! ## Steps and runs -/

/-- **Every step keeps what the kept channel stands for.** -/
theorem Revertible.step (hr : Revertible s) (op : ManagerOp) :
    Revertible (managerRunStep cfg s op) := by
  intro hset
  have hkeeps := @keepsPrev_managerStep cfg s.e op
  cases hkeeps with
  | forgotten hprev => exact absurd hprev hset
  | kept hprev hturn =>
    have hset' : s.e.hop.prevChannel ≠ channelHopInvalid := by
      rw [← hprev]
      exact hset
    have hlatest := hr hset'
    rw [managerRunStep, hprev, hturn.1]
    cases hevent : managerEvent cfg s.e op with
    | none => exact hlatest
    | some ev =>
      rw [latestTurn, Option.toList_some, List.singleton_append, List.find?_cons,
        hturn.2 ev hevent]
      exact hlatest
  | hopped hprev hevent =>
    rw [managerRunStep, hprev, hevent]
    rfl

/-- **A revert follows the discipline.** -/
theorem Revertible.revertsLastHop (hr : Revertible s) (op : ManagerOp) :
    RevertsLastHop cfg s op := by
  intro prev next hevent
  -- no other operation reports a revert
  obtain rfl : op = .hop := by
    cases op with
    | hop => rfl
    | call entry =>
      rw [managerEvent] at hevent
      split at hevent
      · cases entry with
        | onRx buf len =>
          rw [HopCall.event] at hevent
          split at hevent <;> exact absurd hevent (by simp)
        | _ => exact absurd hevent (by simp [HopCall.event])
      · exact absurd hevent (by simp)
    | commit =>
      rw [managerEvent] at hevent
      split at hevent <;> exact absurd hevent (by simp)
    | _ => exact absurd hevent (by simp [managerEvent])
  rw [managerEvent] at hevent
  split at hevent
  · exact absurd hevent (by simp)
  · rename_i hne
    simp only [Option.some.injEq, ManagerEvent.hopped.injEq] at hevent
    obtain ⟨hkind, rfl, rfl⟩ := hevent
    obtain ⟨_, _, hcases⟩ := @hopWorkFn_cases cfg (s.e.mapHop fun h => { h with hopWork := false })
    have hstep : managerStep cfg s.e .hop =
        hopWorkFn cfg (s.e.mapHop fun h => { h with hopWork := false }) := rfl
    rw [← hstep] at hcases
    rcases hcases with ⟨-, -, hchannel⟩ | ⟨target, hchoice, ⟨-, -, hchannel⟩ | ⟨hyes, hs, hchannel⟩⟩
    · exact absurd hchannel hne
    · exact absurd hchannel hne
    · have hkind' : hopKind cfg (s.e.mapHop fun h => { h with hopWork := false }) = .revert := hkind
      have hprev : s.e.hop.prevChannel = target := by
        unfold hopChoice at hchoice
        rw [hkind'] at hchoice
        exact Option.some.inj hchoice
      -- the byte was set, so it stands for the last hop
      have hset : s.e.hop.prevChannel ≠ channelHopInvalid := by
        unfold hopKind at hkind
        split at hkind
        · exact absurd hkind (by simp)
        · split at hkind
          · rename_i harmed
            rw [Bool.and_eq_true, bne_iff_ne] at harmed
            exact harmed.1
          · exact absurd hkind (by simp)
      have hlatest := hr hset
      rw [hchannel, hs, hkind']
      refine ⟨hprev ▸ hlatest, ?_⟩
      have hle := hyes
      simp only [canSwitch, Bool.and_eq_true, decide_eq_true_eq] at hle
      exact quarantineIs_onHopped_revert
        (Nat.lt_succ_of_le (UInt8.le_iff_toNat_le.1 hle.1.2)) (hopChoice_ne hchoice)

/-- The last hop by `hop_work_fn` is the last channel change, where that
is one. -/
theorem head?_kinds_of_latestTurn {events : List ManagerEvent} {kind : HopKind}
    {prev next : UInt8} (hlatest : latestTurn events = some (.hopped kind prev next)) :
    (events.filterMap ManagerEvent.kind?).head? = some kind := by
  induction events with
  | nil => exact absurd hlatest (by simp [latestTurn])
  | cons ev events ih =>
    rw [latestTurn, List.find?_cons] at hlatest
    split at hlatest
    · obtain rfl := Option.some.inj hlatest
      rfl
    · rename_i hturn
      have hnone : ev.kind? = none := by
        cases ev with
        | hopped kind' prev' next' => exact absurd hturn (by simp [ManagerEvent.hops])
        | _ => rfl
      rw [List.filterMap_cons, hnone]
      exact ih hlatest

theorem RevertsApart.step (ha : RevertsApart s) (hr : Revertible s) (op : ManagerOp) :
    RevertsApart (managerRunStep cfg s op) := by
  rw [RevertsApart, managerRunStep]
  cases hevent : managerEvent cfg s.e op with
  | none => exact ha
  | some ev =>
    rw [Option.toList_some, List.singleton_append, List.filterMap_cons]
    cases hkind : ev.kind? with
    | none => exact ha
    | some kind =>
      refine List.isChain_cons.2 ⟨fun earlier hhead hrevert => ?_, ha⟩
      obtain ⟨prev, next, rfl⟩ : ∃ prev next, ev = .hopped .revert prev next := by
        cases ev with
        | hopped kind' prev next =>
          obtain rfl := Option.some.inj hkind
          exact ⟨prev, next, by rw [hrevert]⟩
        | _ => exact absurd hkind (by simp [ManagerEvent.kind?])
      obtain ⟨hlatest, -⟩ := hr.revertsLastHop op prev next hevent
      have hnormal := head?_kinds_of_latestTurn hlatest
      rw [hnormal, Option.mem_some_iff] at hhead
      rw [← hhead]
      simp

/-- **The revert discipline**, in every run of the manager: a revert takes
back the last channel change, a hop of its own with nothing acknowledged
since, to a channel that is then out of quarantine, and no two consecutive
hops are both reverts. -/
theorem revertsLastHop_run (cfg : Config) (e : Endpoint) (ops : List ManagerOp)
    (hboot : e.hop = HopEp.statics) :
    Guarded (managerRunStep cfg) (RevertsLastHop cfg) ⟨e, []⟩ ops ∧
      Throughout (managerRunStep cfg) RevertsApart ⟨e, []⟩ ops := by
  have hrevertible : Revertible ⟨e, []⟩ := by
    intro hset
    rw [show (ManagerRun.mk e []).e.hop = HopEp.statics from hboot] at hset
    exact absurd rfl hset
  have hinv : Throughout (managerRunStep cfg) (fun s => Revertible s ∧ RevertsApart s)
      ⟨e, []⟩ ops :=
    Throughout.of_step (fun s op h => ⟨h.1.step op, h.2.step h.1 op⟩) ⟨hrevertible, .nil⟩
  refine ⟨?_, hinv.imp fun _ h => h.2⟩
  exact (Guarded.of_forall fun _ _ => trivial : Guarded (managerRunStep cfg)
    (fun _ _ => True) ⟨e, []⟩ ops).of_invariant (I := Revertible) (fun s op hr _ => hr.step op)
    (fun s op hr _ => hr.revertsLastHop op) hrevertible

/-- A hop that brings nothing, taken back. -/
theorem revertsLastHop_run_twice :
    (runFrom (managerRunStep .default) ⟨.booted .default, []⟩
        [.init, .call .onConnected, .hop, .hop]).events.filterMap ManagerEvent.kind? =
      [.revert, .normal] ∧
    Guarded (managerRunStep .default) (RevertsLastHop .default) ⟨.booted .default, []⟩
      [.init, .call .onConnected, .hop, .hop] :=
  ⟨by decide +kernel, (revertsLastHop_run .default (.booted .default) _ rfl).1⟩

end EsbEndpoint
