import EsbEndpoint.Hop.Clock

/-!
# When the channel is refused

`hop_work_fn` and `coop_hop_commit_work_fn` leave what they have not done
to a retry, and the retry decides anew, from the statics as they are by
then (`atRetry`). A hop that is refused has spent the fallback it was asked
for (`decisionKept_iff`), and a refused commit has given up the channel
that was agreed on (`landsAgreed_iff`).
-/

namespace EsbEndpoint

variable (cfg : Config) (e : Endpoint)

/-- The endpoint when `hop_work`, which `hop_retry_work_fn` has queued,
starts: some time later, with the cycle counter anywhere, and with the
radio as that time has left it. -/
def atRetry (ms : Nat) (cycle : UInt32) (radio : Radio) : Endpoint :=
  (hopRetryWorkFn ({ e with uptime := e.uptime + ms, cycle, radio }.mapHop fun h =>
    { h with hopRetryWork := none })).mapHop fun h => { h with hopWork := false }

/-- `m_committed_next` is a channel to go to. -/
def committedElsewhere : Bool :=
  e.hop.committedNext != channelHopInvalid && e.hop.committedNext != e.tp.channel

/-- `m_prev_channel` is. -/
def prevElsewhere : Bool :=
  e.hop.prevChannel != channelHopInvalid && e.hop.prevChannel != e.tp.channel

/-- A rendezvous fallback is asked for. -/
def fallbackAsked : Bool := cfg.rendezvous && e.hop.rendezvousFallbackPending

/-! ## A refused hop -/

/-- **The inputs of the decision are kept**, and the retry decides the
same: the kind of hop, and the channel where it is not picked on the fly. -/
structure DecisionKept : Prop where
  quarantine : (hopWorkFn cfg e).hop.quarantine = e.hop.quarantine
  prevChannel : (hopWorkFn cfg e).hop.prevChannel = e.hop.prevChannel
  committedNext : (hopWorkFn cfg e).hop.committedNext = e.hop.committedNext
  channel : (hopWorkFn cfg e).tp.channel = e.tp.channel
  fallback : (hopWorkFn cfg e).hop.rendezvousFallbackPending = e.hop.rendezvousFallbackPending
  retried : (hopWorkFn cfg e).hop.hopRetryWork = some cfg.hopRetryDelayMs
  kind : ∀ ms cycle radio,
    hopKind cfg (atRetry (hopWorkFn cfg e) ms cycle radio) = hopKind cfg e
  target : hopKind cfg e ≠ .normal ∨ committedElsewhere e = true → ∀ ms cycle radio,
    hopChoice cfg (atRetry (hopWorkFn cfg e) ms cycle radio) = hopChoice cfg e

variable {cfg e}

theorem hopKind_eq : hopKind cfg e =
    if fallbackAsked cfg e = true then .fallback
    else if prevElsewhere e = true then .revert else .normal := rfl

theorem hopKind_eq_fallback : hopKind cfg e = .fallback ↔ fallbackAsked cfg e = true := by
  rw [hopKind_eq]
  split
  · exact iff_of_true rfl ‹_›
  · refine iff_of_false ?_ ‹_›
    split <;> simp

/-- What a hop goes for, by its kind. -/
theorem hopChoice_of_fallback (hkind : hopKind cfg e = .fallback) : hopChoice cfg e =
    if e.tp.bootChannel = e.tp.channel then none else some e.tp.bootChannel := by
  rw [hopChoice, hkind, hopTarget]

theorem hopChoice_of_revert (hkind : hopKind cfg e = .revert) :
    hopChoice cfg e = some e.hop.prevChannel := by
  rw [hopChoice, hkind, hopTarget]

theorem hopChoice_of_committed (hkind : hopKind cfg e = .normal)
    (hnext : committedElsewhere e = true) : hopChoice cfg e = some e.hop.committedNext := by
  have hyes : (e.hop.committedNext != channelHopInvalid &&
      e.hop.committedNext != e.tp.channel) = true := hnext
  rw [hopChoice, hkind, hopTarget, if_pos hyes]

theorem hopChoice_of_picked (hkind : hopKind cfg e = .normal)
    (hnext : committedElsewhere e = false) : hopChoice cfg e =
      if (pickCandidate cfg e).2 = channelHopInvalid then none
      else some (pickCandidate cfg e).2 := by
  have hno : ¬ (e.hop.committedNext != channelHopInvalid &&
      e.hop.committedNext != e.tp.channel) = true := Bool.eq_false_iff.1 hnext
  rw [hopChoice, hkind, hopTarget, if_neg hno]
  by_cases hpick : (pickCandidate cfg e).2 = channelHopInvalid
  · simp only [hpick, beq_self_eq_true, if_true]
  · simp only [beq_iff_eq, hpick, if_false]

/-- The decision but for a pick on the fly reads the statics and the
channel alone. -/
theorem decision_congr {e' : Endpoint} (hprev : e'.hop.prevChannel = e.hop.prevChannel)
    (hnext : e'.hop.committedNext = e.hop.committedNext)
    (hpending : e'.hop.rendezvousFallbackPending = e.hop.rendezvousFallbackPending)
    (hchannel : e'.tp.channel = e.tp.channel) :
    fallbackAsked cfg e' = fallbackAsked cfg e ∧ prevElsewhere e' = prevElsewhere e ∧
      committedElsewhere e' = committedElsewhere e ∧ hopKind cfg e' = hopKind cfg e := by
  have hasked : fallbackAsked cfg e' = fallbackAsked cfg e := by
    rw [fallbackAsked, fallbackAsked, hpending]
  have hback : prevElsewhere e' = prevElsewhere e := by
    rw [prevElsewhere, prevElsewhere, hprev, hchannel]
  refine ⟨hasked, hback, ?_, ?_⟩
  · rw [committedElsewhere, committedElsewhere, hnext, hchannel]
  · rw [hopKind_eq, hopKind_eq, hasked, hback]

/-- The retry finds what was left. -/
theorem atRetry_frame (e : Endpoint) (ms : Nat) (cycle : UInt32) (radio : Radio) :
    (atRetry e ms cycle radio).hop.prevChannel = e.hop.prevChannel ∧
      (atRetry e ms cycle radio).hop.committedNext = e.hop.committedNext ∧
      (atRetry e ms cycle radio).hop.rendezvousFallbackPending =
        e.hop.rendezvousFallbackPending ∧
      (atRetry e ms cycle radio).tp = e.tp :=
  ⟨rfl, rfl, rfl, rfl⟩

/-- What a refused hop leaves. -/
theorem hopWorkFn_of_refused {target : UInt8} (hchoice : hopChoice cfg e = some target)
    (hno : canSwitch cfg e target = false) : ∃ prngState,
      (hopWorkFn cfg e).hop =
        { e.hop with
          rendezvousFallbackPending := pendingAfter cfg e
          prngState
          hopRetryWork := some cfg.hopRetryDelayMs } ∧
      (hopWorkFn cfg e).tp.channel = e.tp.channel := by
  obtain ⟨prngState, ⟨hnone, -⟩ | ⟨target', hsome, hmade⟩⟩ := @hopWorkFn_spec cfg e
  · exact absurd (hnone.symm.trans hchoice) (by simp)
  · obtain rfl := Option.some.inj (hsome.symm.trans hchoice)
    rcases hmade with ⟨-, hkept⟩ | ⟨hyes, -⟩
    · exact ⟨prngState, hkept⟩
    · exact Bool.noConfusion (hno.symm.trans hyes)

theorem canSwitch_of_refused {target : UInt8}
    (hfails : (esbTransportSetChannel cfg e target).2 ≠ none) : canSwitch cfg e target = false := by
  rw [Bool.eq_false_iff]
  exact fun hyes => hfails (esbTransportSetChannel_snd _ |>.2 hyes)

/-- **A refused hop keeps its decision** exactly if no fallback was asked
for: in every state in which there is a channel to go to and the transport
refuses it. -/
theorem decisionKept_iff (cfg : Config) (e : Endpoint) (target : UInt8)
    (hchoice : hopChoice cfg e = some target)
    (hfails : (esbTransportSetChannel cfg e target).2 ≠ none) :
    DecisionKept cfg e ↔ ¬ (cfg.rendezvous = true ∧ e.hop.rendezvousFallbackPending = true) := by
  obtain ⟨prngState, hhop, hchannel⟩ := hopWorkFn_of_refused hchoice (canSwitch_of_refused hfails)
  rw [← Bool.and_eq_true]
  constructor
  · intro hkept hasked
    have hpending := hkept.fallback
    rw [hhop] at hpending
    have hcleared : pendingAfter cfg e = false := if_pos (hopKind_eq_fallback.2 hasked)
    rw [Bool.and_eq_true] at hasked
    exact Bool.noConfusion (hcleared.symm.trans (hpending.trans hasked.2))
  · intro hasked
    have hkind : hopKind cfg e ≠ .fallback := fun h => hasked (hopKind_eq_fallback.1 h)
    have hprev : (hopWorkFn cfg e).hop.prevChannel = e.hop.prevChannel := by rw [hhop]
    have hnext : (hopWorkFn cfg e).hop.committedNext = e.hop.committedNext := by rw [hhop]
    have hpending : (hopWorkFn cfg e).hop.rendezvousFallbackPending =
        e.hop.rendezvousFallbackPending := by
      rw [hhop]
      exact if_neg hkind
    refine ⟨by rw [hhop], hprev, hnext, hchannel, hpending, by rw [hhop],
      fun ms cycle radio => ?_, fun hfixed ms cycle radio => ?_⟩
    -- the retry sees the same inputs, whenever it comes
    all_goals
      obtain ⟨hprevKept, hnextKept, hpendingKept, htp⟩ :=
        atRetry_frame (hopWorkFn cfg e) ms cycle radio
      obtain ⟨-, -, hcommitted, hkindSame⟩ := @decision_congr cfg e _ (hprevKept.trans hprev)
        (hnextKept.trans hnext) (hpendingKept.trans hpending) (by rw [htp, hchannel])
    · exact hkindSame
    · cases hk : hopKind cfg e with
      | fallback => exact absurd hk hkind
      | revert =>
        rw [hopChoice_of_revert hk, hopChoice_of_revert (hkindSame.trans hk), hprevKept, hprev]
      | normal =>
        have hvalid : committedElsewhere e = true := hfixed.resolve_left fun hne => hne hk
        rw [hopChoice_of_committed hk hvalid,
          hopChoice_of_committed (hkindSame.trans hk) (hcommitted.trans hvalid), hnextKept, hnext]

/-- A hop asked for while the answer to a `PAIR_REQ` is on the air. -/
theorem decisionKept_busy : DecisionKept .default
    (runFrom (hopStep .default) (HopTrace.start .default [] none)
      [.pairingStart, .rx [esbPktPairReq, 1, 2, 3, 4, 5, 6] 7,
        .rx [esbPktChannelHopRequest] 1]).e :=
  (decisionKept_iff .default _ 51 (by decide +kernel) (by decide +kernel)).2 (by decide +kernel)

/-- **A fallback that is refused is not made up for**: two hundred
milliseconds after a hop the dongle is still not found, and a packet is on
the air when the fallback is tried. -/
theorem not_decisionKept : ¬ ∀ (cfg : Config) (e : Endpoint) (target : UInt8),
    hopChoice cfg e = some target → (esbTransportSetChannel cfg e target).2 ≠ none →
      DecisionKept cfg e := by
  intro h
  have hkept := h .default (runFrom (hopStep .default) (HopTrace.start .default [] none)
    [.pairingStart, .rx [esbPktPairReq, 1, 2, 3, 4, 5, 6] 7, .txDone (.acked 0 []), .tick 5,
      .rx [esbPktChannelHopRequest] 1, .hop, .tick 200, .send 1 [1, 2, 3], .txDone .exhausted,
      .tick 40, .send 1 [1, 2, 3], .txDone .exhausted, .send 1 [1, 2, 3]]).e 78
    (by decide +kernel) (by decide +kernel)
  exact absurd hkept.fallback (by decide +kernel)

/-! ## A refused commit -/

section Commit

variable (cfg e) (ms : Nat) (cycle : UInt32) (radio : Radio)

/-- **The retry of a refused commit lands where the handshake agreed**, if
it lands anywhere. -/
def LandsAgreed : Prop :=
  let e' := hopWorkFn cfg (atRetry (coopHopCommitWorkFn cfg e) ms cycle radio)
  e'.tp.channel ≠ e.tp.channel → e'.tp.channel = e.hop.coopHopTarget

/-- What `channel_hop_pick` draws by then. -/
def drawnAtRetry : UInt8 :=
  (channelHopPick e.hop.quarantine (UInt32.ofNat (e.uptime + ms)) cycle e.hop.prngState
    cfg.channelQuarantineMinDistance e.tp.channel).1

/-- What `hop_work_fn` goes by happens to be the agreed channel, or is one
the radio does not take. -/
def AgreedByChance : Prop :=
  if fallbackAsked cfg e = true then
    e.tp.bootChannel ≠ e.tp.channel → e.tp.bootChannel ≤ 100 →
      e.tp.bootChannel = e.hop.coopHopTarget
  else if prevElsewhere e = true then
    e.hop.prevChannel ≤ 100 → e.hop.prevChannel = e.hop.coopHopTarget
  else if committedElsewhere e = true then
    e.hop.committedNext ≤ 100 → e.hop.committedNext = e.hop.coopHopTarget
  else
    drawnAtRetry cfg e ms cycle ≤ 100 → drawnAtRetry cfg e ms cycle = e.hop.coopHopTarget

instance : Decidable (AgreedByChance cfg e ms cycle) :=
  inferInstanceAs (Decidable (ite _ (_ → _ → _) (ite _ (_ → _) (ite _ (_ → _) (_ → _)))))

variable {cfg e ms cycle radio}

/-- A refused change of the channel keeps where the transport is. -/
theorem tp_setChannel_of_refused {channel : UInt8}
    (hfails : (esbTransportSetChannel cfg e channel).2 ≠ none) :
    (esbTransportSetChannel cfg e channel).1.tp.channel = e.tp.channel ∧
      (esbTransportSetChannel cfg e channel).1.tp.bootChannel = e.tp.bootChannel ∧
      (esbTransportSetChannel cfg e channel).1.tp.configured = e.tp.configured := by
  unfold esbTransportSetChannel at hfails ⊢
  split
  · exact ⟨rfl, rfl, rfl⟩
  · rename_i hconf
    rw [if_neg hconf] at hfails
    dsimp only at hfails ⊢
    split
    · exact ⟨rfl, rfl, rfl⟩
    · rename_i heq
      rw [heq] at hfails
      exact absurd rfl hfails

/-- What a refused commit leaves. -/
theorem coopHopCommitWorkFn_of_refused (harmed : e.hop.coopHopState = .armed)
    (htarget : targetElsewhere e = true)
    (hfails : (esbTransportSetChannel cfg e e.hop.coopHopTarget).2 ≠ none) :
    (coopHopCommitWorkFn cfg e).hop =
        { e.hop with coopHopState := .idle, hopRetryWork := some cfg.hopRetryDelayMs } ∧
      (coopHopCommitWorkFn cfg e).tp.channel = e.tp.channel ∧
      (coopHopCommitWorkFn cfg e).tp.bootChannel = e.tp.bootChannel ∧
      (coopHopCommitWorkFn cfg e).tp.configured = e.tp.configured := by
  have htp := tp_setChannel_of_refused hfails
  have hhop := @hop_esbTransportSetChannel cfg e e.hop.coopHopTarget
  rw [targetElsewhere, Bool.and_eq_true, bne_iff_ne, bne_iff_ne] at htarget
  unfold coopHopCommitWorkFn
  rw [if_neg (by rw [bne_iff_ne, not_not]; exact harmed)]
  dsimp only
  rw [if_neg (by rw [Bool.or_eq_true, beq_iff_eq, beq_iff_eq, not_or]; exact htarget)]
  split
  · rename_i heq
    rw [heq] at htp hhop
    refine ⟨?_, htp⟩
    rw [Endpoint.mapHop_hop, hhop]
  · rename_i heq
    rw [heq] at hfails
    exact absurd rfl hfails

/-- Where `hop_work_fn` lands. -/
theorem lands_iff {target : UInt8} :
    ((hopWorkFn cfg e).tp.channel ≠ e.tp.channel → (hopWorkFn cfg e).tp.channel = target) ↔
      ∀ c, hopChoice cfg e = some c → canSwitch cfg e c = true → c = target := by
  obtain ⟨-, ⟨hnone, -, hchannel⟩ | ⟨c, hsome, ⟨hno, -, hchannel⟩ | ⟨hyes, -, hchannel⟩⟩⟩ :=
    @hopWorkFn_spec cfg e
  · refine iff_of_true (fun hne => absurd hchannel hne) fun c hc => ?_
    exact absurd (hnone.symm.trans hc) (by simp)
  · refine iff_of_true (fun hne => absurd hchannel hne) fun c' hc hcan => ?_
    obtain rfl := Option.some.inj (hsome.symm.trans hc)
    exact Bool.noConfusion (hno.symm.trans hcan)
  · rw [hchannel]
    have hne := hopChoice_ne hsome
    refine ⟨fun h c' hc _ => ?_, fun h _ => h c hsome hyes⟩
    obtain rfl := Option.some.inj (hsome.symm.trans hc)
    exact h hne

/-- The retry of a refused commit finds what the commit found. -/
theorem atRetry_of_refused (harmed : e.hop.coopHopState = .armed)
    (htarget : targetElsewhere e = true)
    (hfails : (esbTransportSetChannel cfg e e.hop.coopHopTarget).2 ≠ none) :
    let e' := atRetry (coopHopCommitWorkFn cfg e) ms cycle radio
    e'.hop = { e.hop with coopHopState := .idle, hopRetryWork := none, hopWork := false } ∧
      e'.tp.channel = e.tp.channel ∧ e'.tp.bootChannel = e.tp.bootChannel ∧
      e'.tp.configured = e.tp.configured ∧ e'.now = UInt32.ofNat (e.uptime + ms) := by
  obtain ⟨hhop, htp⟩ := coopHopCommitWorkFn_of_refused harmed htarget hfails
  refine ⟨?_, htp.1, htp.2.1, htp.2.2, ?_⟩
  · rw [atRetry, hopRetryWorkFn]
    simp only [Endpoint.mapHop_hop, hhop]
  · rw [← @uptime_coopHopCommitWorkFn cfg e]
    rfl

/-- Where the retry goes for a channel, it lands where it can go there. -/
theorem landsAgreed_of_some {c : UInt8}
    (hchannel : (coopHopCommitWorkFn cfg e).tp.channel = e.tp.channel)
    (hconf : (coopHopCommitWorkFn cfg e).tp.configured = e.tp.configured)
    (hchoice : hopChoice cfg (atRetry (coopHopCommitWorkFn cfg e) ms cycle radio) = some c) :
    LandsAgreed cfg e ms cycle radio ↔
      (e.tp.configured = true → radio.state = .idle ∨ cfg.esbFastChannelSwitching = true →
        c ≤ 100 → c = e.hop.coopHopTarget) := by
  have hcan : canSwitch cfg (atRetry (coopHopCommitWorkFn cfg e) ms cycle radio) c = true ↔
      (e.tp.configured = true ∧ c ≤ 100) ∧
        (radio.state = .idle ∨ cfg.esbFastChannelSwitching = true) := by
    rw [← hconf, canSwitch, Bool.and_eq_true, Bool.and_eq_true, decide_eq_true_eq,
      Bool.or_eq_true, beq_iff_eq]
    rfl
  rw [LandsAgreed, ← hchannel]
  refine lands_iff.trans ⟨fun h hon hready hle => ?_, fun h c' hc hyes => ?_⟩
  · exact h c hchoice (hcan.2 ⟨⟨hon, hle⟩, hready⟩)
  · obtain rfl := Option.some.inj (hchoice.symm.trans hc)
    obtain ⟨⟨hon, hle⟩, hready⟩ := hcan.1 hyes
    exact h hon hready hle

/-- Where it goes for none, it stays. -/
theorem landsAgreed_of_none
    (hchannel : (coopHopCommitWorkFn cfg e).tp.channel = e.tp.channel)
    (hchoice : hopChoice cfg (atRetry (coopHopCommitWorkFn cfg e) ms cycle radio) = none) :
    LandsAgreed cfg e ms cycle radio := by
  rw [LandsAgreed, ← hchannel]
  exact lands_iff.2 fun c hc => absurd (hchoice.symm.trans hc) (by simp)

/-- **The retry of a refused commit lands on the agreed channel** exactly
if it cannot change the channel, or what it goes by is that channel by
chance: in every state in which an armed commit is refused, whenever the
retry comes and whatever the radio does until then. -/
theorem landsAgreed_iff (cfg : Config) (e : Endpoint) (ms : Nat) (cycle : UInt32) (radio : Radio)
    (harmed : e.hop.coopHopState = .armed) (htarget : targetElsewhere e = true)
    (hfails : (esbTransportSetChannel cfg e e.hop.coopHopTarget).2 ≠ none) :
    LandsAgreed cfg e ms cycle radio ↔
      (e.tp.configured = true → radio.state = .idle ∨ cfg.esbFastChannelSwitching = true →
        AgreedByChance cfg e ms cycle) := by
  obtain ⟨-, hkept, -, hconf⟩ := coopHopCommitWorkFn_of_refused harmed htarget hfails
  obtain ⟨hhop, hchannel, hboot, -, hnow⟩ :=
    @atRetry_of_refused cfg e ms cycle radio harmed htarget hfails
  have hsome := @landsAgreed_of_some cfg e ms cycle radio
  have hnone := @landsAgreed_of_none cfg e ms cycle radio hkept
  have hcycle : (atRetry (coopHopCommitWorkFn cfg e) ms cycle radio).cycle = cycle := rfl
  generalize atRetry (coopHopCommitWorkFn cfg e) ms cycle radio = e'
    at hhop hchannel hboot hnow hsome hnone hcycle
  obtain ⟨hasked, hprev, hcommitted, -⟩ := @decision_congr cfg e e' (by rw [hhop]) (by rw [hhop])
    (by rw [hhop]) hchannel
  have hkind := @hopKind_eq cfg e'
  rw [hasked, hprev] at hkind
  -- the four ways in which the retry decides
  unfold AgreedByChance
  split
  · rename_i hfallback
    rw [if_pos hfallback] at hkind
    have hchoice := hopChoice_of_fallback hkind
    rw [hchannel, hboot] at hchoice
    by_cases hsame : e.tp.bootChannel = e.tp.channel
    · rw [if_pos hsame] at hchoice
      exact iff_of_true (hnone hchoice) fun _ _ hne => absurd hsame hne
    · rw [if_neg hsame] at hchoice
      rw [hsome hkept hconf hchoice]
      exact ⟨fun h hon hready _ => h hon hready, fun h hon hready => h hon hready hsame⟩
  · rename_i hfallback
    rw [if_neg hfallback] at hkind
    split
    · rename_i hback
      rw [if_pos hback] at hkind
      refine hsome hkept hconf ((hopChoice_of_revert hkind).trans ?_)
      rw [hhop]
    · rename_i hback
      rw [if_neg hback] at hkind
      split
      · rename_i hnext
        refine hsome hkept hconf
          ((hopChoice_of_committed hkind (hcommitted.trans hnext)).trans ?_)
        rw [hhop]
      · rename_i hnext
        have hchoice := hopChoice_of_picked hkind (hcommitted.trans (Bool.eq_false_iff.2 hnext))
        have hdrawn : (pickCandidate cfg e').2 = drawnAtRetry cfg e ms cycle := by
          simp only [pickCandidate, drawnAtRetry, hhop, hnow, hcycle, hchannel]
        rw [hdrawn] at hchoice
        by_cases hinvalid : drawnAtRetry cfg e ms cycle = channelHopInvalid
        · rw [if_pos hinvalid] at hchoice
          have hhigh : ¬ channelHopInvalid ≤ (100 : UInt8) := by decide
          refine iff_of_true (hnone hchoice) fun _ _ hle => ?_
          rw [hinvalid] at hle
          exact absurd hle hhigh
        · rw [if_neg hinvalid] at hchoice
          exact hsome hkept hconf hchoice

/-- A run to an armed commit: the dongle has `answered` the endpoint's
proposals so far, the link degrades, the offer is acknowledged, and a key
is on the air when the commit is due. -/
def toRefusedCommit (answered : List HopOp) : List HopOp :=
  let press := [esbPktHidReport, esbReportKeyboard, 0, 0, 4, 0, 0, 0, 0, 0]
  let release := [esbPktHidReport, esbReportKeyboard, 0, 0, 0, 0, 0, 0, 0, 0]
  [.pairingStart, .rx [esbPktPairReq, 1, 2, 3, 4, 5, 6] 7, .txDone (.acked 0 [])] ++ answered ++
    [.send esbPipeData press, .txDone (.acked 1 []), .send esbPipeData release,
      .txDone (.acked 1 []), .send esbPipeData press, .txDone (.acked 1 []),
      .send esbPipeData release, .txDone (.acked 1 []), .offer, .offerSend,
      .txDone (.acked 0 []), .send esbPipeData press]

/-- The channel was confirmed beforehand, and is still what is confirmed. -/
theorem landsAgreed_confirmed :
    let s := runFrom (hopStep .default) (HopTrace.start .default [] none)
      (toRefusedCommit [.rx [esbPktChannelHopConfirm, 40, 0] 3])
    LandsAgreed .default s.e 5 0 { s.e.radio with state := .idle } :=
  (landsAgreed_iff .default _ 5 0 _ (by decide +kernel) (by decide +kernel)
    (by decide +kernel)).2 fun _ _ => by decide +kernel

/-- **The retry goes elsewhere** than to the channel that was offered and
acknowledged: it draws again. -/
theorem not_landsAgreed : ¬ ∀ (cfg : Config) (e : Endpoint) (ms : Nat) (cycle : UInt32)
    (radio : Radio), e.hop.coopHopState = .armed → targetElsewhere e = true →
      (esbTransportSetChannel cfg e e.hop.coopHopTarget).2 ≠ none →
        LandsAgreed cfg e ms cycle radio := by
  intro h
  have hlands := h .default (runFrom (hopStep .default) (HopTrace.start .default [] none)
    (toRefusedCommit [])).e 5 0 {} (by decide +kernel) (by decide +kernel) (by decide +kernel)
  exact absurd (hlands (by decide +kernel)) (by decide +kernel)

end Commit

end EsbEndpoint
