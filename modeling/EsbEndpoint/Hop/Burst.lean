import EsbEndpoint.Hop.Standing

/-!
# The post-hop burst

`start_post_hop_burst` gives a burst its ticks and `post_hop_burst_work_fn`
spends one each time it runs, until a disconnect ends it. The tick tests
the counter before its side-trip and decrements it after: the 8-bit counter
is right just as long as no disconnect comes in between
(`burstBounded_iff`).
-/

namespace EsbEndpoint

variable (cfg : Config)

/-! ## Runs -/

/-- `post_hop_burst_work_fn` runs. -/
def ticksBurst (s : HopTrace) (op : EpOp) : Bool :=
  op == .step .postHopBurst && s.workq == .free && s.e.hop.postHopBurstWork.isSome

/-- A run, with the ticks since the last burst was started, and whether a
disconnect has come since. -/
structure BurstTrace where
  s : HopTrace
  ticks : Nat := 0
  ended : Bool := false

def burstStep (t : BurstTrace) (op : EpOp) : BurstTrace where
  s := epStep cfg t.s op
  ticks :=
    if changesChannel cfg t.s op then 0
    else if ticksBurst t.s op then t.ticks + 1
    else t.ticks
  ended := !changesChannel cfg t.s op && (t.ended || epDisconnects cfg t.s op)

/-- **A burst is bounded**: its counter and its ticks by the configured
count, and it is over with the link. -/
structure BurstBounded (t : BurstTrace) : Prop where
  remaining_le : t.s.e.hop.postHopBurstRemaining.toNat ≤ cfg.channelHopPostBurstCount
  ticks_le : t.ticks ≤ cfg.channelHopPostBurstCount
  afterEnd : t.ended = true → t.s.e.hop.postHopBurstWork = none

/-- The condition: a side-trip ends in the burst it belongs to, with no
disconnect since. -/
def TripInBurst (t : BurstTrace) (op : EpOp) : Prop :=
  op = .step .sideTripEnd → t.s.workq = .sideTrip → t.ended = false

instance (t : BurstTrace) (op : EpOp) : Decidable (TripInBurst t op) :=
  inferInstanceAs (Decidable (_ → _ → _))

/-! ## The burst of a state -/

/-- The statics of a burst: the ticks left, the timer of the next and the
candidate it keeps to. -/
structure PostHopBurst where
  remaining : UInt8
  work : Delayable
  candidate : UInt8

def HopEp.burst (h : HopEp) : PostHopBurst :=
  ⟨h.postHopBurstRemaining, h.postHopBurstWork, h.pendingCandidate⟩

/-- What a disconnect makes of it, -/
def PostHopBurst.stopped (b : PostHopBurst) : PostHopBurst :=
  { b with remaining := 0, work := none }

/-- what `start_post_hop_burst` does, -/
def PostHopBurst.started (b : PostHopBurst) : PostHopBurst :=
  if cfg.channelHopPostBurstCount = 0 then b
  else
    { remaining := UInt8.ofNat cfg.channelHopPostBurstCount
      work := some cfg.channelHopPostQuietMs
      candidate := channelHopInvalid }

/-- and the end of a tick. -/
def PostHopBurst.counted (b : PostHopBurst) : PostHopBurst :=
  if 0 < b.remaining - 1 then
    { b with remaining := b.remaining - 1, work := some cfg.channelHopPostBurstIntervalMs }
  else { b with remaining := b.remaining - 1, candidate := channelHopInvalid }

variable {cfg} {s : HopTrace} {t : BurstTrace} {e : Endpoint} {h h' : HopEp} {now : UInt32}

/-! ## What leaves it alone -/

/-- A disconnect ends a burst. -/
theorem burst_onDisconnected :
    (channelHopEpOnDisconnected cfg h).burst =
      if cfg.channelHop then h.burst.stopped else h.burst := by
  cases hhop : cfg.channelHop with
  | false =>
    unfold channelHopEpOnDisconnected
    rw [hhop, Bool.not_false, if_pos rfl, if_neg Bool.false_ne_true]
  | true =>
    unfold channelHopEpOnDisconnected
    rw [hhop, Bool.not_true, if_neg Bool.false_ne_true, if_pos rfl]
    simp only []
    split <;> rfl

/-- What stands, stands. -/
theorem Stands.burst (hs : Stands h h') : h'.burst = h.burst :=
  congrArg (fun st : HopStanding =>
    PostHopBurst.mk st.postHopBurstRemaining st.postHopBurstWork st.pendingCandidate) hs

/-- **Off the burst, only a disconnect moves it**: it ends it. -/
theorem burst_epStep {op : EpOp} (hoff : op.offBurst = true) :
    (epStep cfg s op).e.hop.burst =
      if epDisconnects cfg s op then s.e.hop.burst.stopped else s.e.hop.burst := by
  split
  · rename_i hdis
    cases op with
    | call entry =>
      rw [epDisconnects, Bool.and_eq_true, beq_iff_eq] at hdis
      obtain ⟨hhop, rfl⟩ := hdis
      exact burst_onDisconnected.trans (if_pos hhop)
    | step op =>
      obtain ⟨hhop, hs⟩ := hop_of_disconnects hdis
      rw [epStep, hs, burst_onDisconnected, if_pos hhop]
  · rename_i hdis
    exact (stands_epStep (Bool.eq_false_iff.2 hdis) hoff).burst

/-- And the thread stays in its side-trip, or outside it. -/
theorem sideTrip_epStep {op : EpOp} (hburst : op ≠ .step .postHopBurst)
    (hend : op ≠ .step .sideTripEnd) :
    (epStep cfg s op).workq = .sideTrip ↔ s.workq = .sideTrip := by
  have hfire : ∀ (due : Bool) (next : HopTrace), (s.workq = .free → next.workq ≠ .sideTrip) →
      ((s.fire due next).workq = .sideTrip ↔ s.workq = .sideTrip) := by
    intro due next hnext
    unfold HopTrace.fire
    split
    · rename_i hrun
      exact iff_of_false (hnext hrun.1) (by rw [hrun.1]; simp)
    · exact Iff.rfl
  have hkept : s.workq = .free → s.workq ≠ .sideTrip := by
    intro hfree
    rw [hfree]
    simp
  cases op with
  | call entry => exact Iff.rfl
  | step op =>
    cases op with
    | postHopBurst => exact absurd rfl hburst
    | sideTripEnd => exact absurd rfl hend
    | offer =>
      refine hfire _ _ fun _ => ?_
      simp only []
      split <;> simp
    | offerSend =>
      rw [epStep, hopStep]
      split
      · rename_i hwq
        exact iff_of_false (by simp) (by rw [hwq]; simp)
      · exact Iff.rfl
    | rx | beacon | verify | negotiate | idleCheck | hop | hopRetry | commit =>
      exact hfire _ _ hkept
    | _ => exact Iff.rfl

/-! ## Starting a burst -/

theorem burst_commitHop : (commitHop cfg now h).burst = h.burst.started cfg := by
  simp only [commitHop, startPostHopBurst, PostHopBurst.started]
  split <;> rfl

theorem burst_onHopped (kind : HopKind) (current target : UInt8) :
    (onHopped cfg now kind current target h).burst = h.burst.started cfg := by
  cases kind <;> exact burst_commitHop

theorem burst_hopWorkFn :
    (hopWorkFn cfg e).tp.channel = e.tp.channel ∧ (hopWorkFn cfg e).hop.burst = e.hop.burst ∨
      (hopWorkFn cfg e).tp.channel ≠ e.tp.channel ∧
        (hopWorkFn cfg e).hop.burst = e.hop.burst.started cfg := by
  obtain ⟨pending, prngState, ⟨-, hs, hchannel⟩ |
    ⟨target, hchoice, ⟨-, hs, hchannel⟩ | ⟨-, hs, hchannel⟩⟩⟩ := @hopWorkFn_cases cfg e
  · rw [hs, hchannel]
    exact Or.inl ⟨rfl, rfl⟩
  · rw [hs, hchannel]
    exact Or.inl ⟨rfl, rfl⟩
  · rw [hs, hchannel, burst_onHopped]
    exact Or.inr ⟨hopChoice_ne hchoice, rfl⟩

theorem burst_coopHopCommitWorkFn :
    (coopHopCommitWorkFn cfg e).tp.channel = e.tp.channel ∧
        (coopHopCommitWorkFn cfg e).hop.burst = e.hop.burst ∨
      (coopHopCommitWorkFn cfg e).tp.channel ≠ e.tp.channel ∧
        (coopHopCommitWorkFn cfg e).hop.burst = e.hop.burst.started cfg := by
  have hsnd := @esbTransportSetChannel_snd cfg e e.hop.coopHopTarget
  have hhop := @hop_esbTransportSetChannel cfg e e.hop.coopHopTarget
  have hchannel := @channel_setChannel cfg e e.hop.coopHopTarget
  unfold coopHopCommitWorkFn
  split
  · exact Or.inl ⟨rfl, rfl⟩
  · simp only []
    split
    · exact Or.inl ⟨rfl, rfl⟩
    · rename_i hsame
      rw [Bool.or_eq_true, beq_iff_eq, beq_iff_eq, not_or] at hsame
      split
      · rename_i heq
        rw [heq] at hsnd hhop hchannel
        rw [if_neg fun hyes => absurd (hsnd.2 hyes) (by simp)] at hchannel
        simp only [Endpoint.mapHop_hop, Endpoint.mapHop_tp]
        rw [hhop, hchannel]
        exact Or.inl ⟨rfl, rfl⟩
      · rename_i heq
        rw [heq] at hsnd hhop hchannel
        rw [if_pos (hsnd.1 rfl)] at hchannel
        simp only [Endpoint.mapHop_hop, Endpoint.mapHop_tp]
        rw [hhop, hchannel]
        exact Or.inr ⟨hsame.2, burst_commitHop⟩

/-- **A hop starts a burst just when it changes the channel.** -/
theorem burst_of_hops {op : EpOp} (hop : op = .step .hop ∨ op = .step .commit) :
    changesChannel cfg s op = false ∧ (epStep cfg s op).e.hop.burst = s.e.hop.burst ∨
      changesChannel cfg s op = true ∧ s.workq = .free ∧
        (epStep cfg s op).e.hop.burst = s.e.hop.burst.started cfg := by
  rcases hop with rfl | rfl
  · simp only [changesChannel, epStep, hopStep, HopTrace.fire, beq_self_eq_true, Bool.true_or,
      Bool.true_and]
    split
    · rename_i hrun
      rcases @burst_hopWorkFn cfg (s.e.mapHop fun h => { h with hopWork := false }) with
        ⟨hsame, hs⟩ | ⟨hne, hs⟩
      · exact Or.inl ⟨bne_eq_false_iff_eq.2 hsame, hs⟩
      · exact Or.inr ⟨bne_iff_ne.2 hne, hrun.1, hs⟩
    · exact Or.inl ⟨bne_self_eq_false _, rfl⟩
  · simp only [changesChannel, epStep, hopStep, HopTrace.fire, beq_self_eq_true, Bool.or_true,
      Bool.true_and]
    split
    · rename_i hrun
      rcases @burst_coopHopCommitWorkFn cfg
          (s.e.mapHop fun h => { h with coopHopCommitWork := none }) with ⟨hsame, hs⟩ | ⟨hne, hs⟩
      · exact Or.inl ⟨bne_eq_false_iff_eq.2 hsame, hs⟩
      · exact Or.inr ⟨bne_iff_ne.2 hne, hrun.1, hs⟩
    · exact Or.inl ⟨bne_self_eq_false _, rfl⟩

/-! ## Ticks -/

/-- The end of a tick counts it. -/
theorem burst_postHopBurstTail :
    (postHopBurstTail cfg e).hop.burst = e.hop.burst.counted cfg := by
  simp only [postHopBurstTail]
  split
  · rename_i hmore
    rw [PostHopBurst.counted, if_pos (show 0 < e.hop.burst.remaining - 1 from hmore)]
    rfl
  · rename_i hlast
    rw [PostHopBurst.counted, if_neg (show ¬0 < e.hop.burst.remaining - 1 from hlast)]
    split
    · rw [hop_sendIdlePacket]
      rfl
    · rfl

theorem burst_postHopBurstResume :
    (postHopBurstResume cfg e).hop.burst = e.hop.burst.counted cfg := by
  rw [postHopBurstResume, burst_postHopBurstTail, hop_sendBlockingEnd]

/-- A tick waits with its counter as it was, or is counted. -/
theorem burst_postHopBurstTick (candidate : UInt8) :
    (postHopBurstTick cfg e candidate).1.hop.burst =
      if (postHopBurstTick cfg e candidate).2 then e.hop.burst else e.hop.burst.counted cfg := by
  have hbegin := @hop_sendBlockingBegin cfg e e.tp.bootChannel esbPipeData
    [esbPktChannelHopProposal, e.tp.channel, e.tp.channel]
  unfold postHopBurstTick
  split
  · split
    · rename_i heq
      rw [heq] at hbegin
      exact congrArg HopEp.burst hbegin
    · rename_i heq
      rw [heq] at hbegin
      rw [if_neg Bool.false_ne_true, burst_postHopBurstTail, hbegin]
  · split
    · rw [if_neg Bool.false_ne_true, burst_postHopBurstTail, hop_sendProposal]
    · rw [if_neg Bool.false_ne_true, burst_postHopBurstTail]

theorem burst_burstCandidate : (burstCandidate cfg e).1.hop.burst =
    { e.hop.burst with candidate := (burstCandidate cfg e).1.hop.pendingCandidate } := by
  obtain ⟨_, _, hs⟩ := @hop_burstCandidate cfg e
  rw [hs]
  rfl

theorem burst_postHopBurstWorkFn (hleft : 0 < e.hop.postHopBurstRemaining) :
    (postHopBurstWorkFn cfg e).1.hop.burst =
      if (postHopBurstWorkFn cfg e).2 then (burstCandidate cfg e).1.hop.burst
      else (burstCandidate cfg e).1.hop.burst.counted cfg := by
  have hne : ¬(e.hop.postHopBurstRemaining == 0) = true := by
    rw [beq_iff_eq]
    exact UInt8.pos_iff_ne_zero.1 hleft
  rw [postHopBurstWorkFn, if_neg hne, burst_postHopBurstTick]

/-- What `post_hop_burst_work_fn` finds. -/
def HopTrace.ticking (s : HopTrace) : Endpoint :=
  s.e.mapHop fun h => { h with postHopBurstWork := none }

theorem epStep_of_ticksBurst (htick : ticksBurst s (.step .postHopBurst) = true) :
    (epStep cfg s (.step .postHopBurst)).e = (postHopBurstWorkFn cfg s.ticking).1 ∧
      ((epStep cfg s (.step .postHopBurst)).workq == .sideTrip) =
        (postHopBurstWorkFn cfg s.ticking).2 := by
  simp only [ticksBurst, Bool.and_eq_true, beq_iff_eq] at htick
  simp only [epStep, hopStep, HopTrace.fire, if_pos (And.intro htick.1.2 htick.2)]
  refine ⟨rfl, ?_⟩
  cases hwaits : (postHopBurstWorkFn cfg s.ticking).2 with
  | true => exact beq_iff_eq.2 (if_pos hwaits)
  | false => exact beq_eq_false_iff_ne.2 (by rw [HopTrace.ticking] at hwaits; simp [hwaits])

theorem epStep_of_not_ticksBurst (htick : ticksBurst s (.step .postHopBurst) = false) :
    epStep cfg s (.step .postHopBurst) = s := by
  have hrun : ¬(s.workq = .free ∧ s.e.hop.postHopBurstWork.isSome = true) := by
    intro hrun
    simp only [ticksBurst, hrun.1, hrun.2, beq_self_eq_true, Bool.and_self,
      Bool.true_eq_false] at htick
  simp only [epStep, hopStep, HopTrace.fire, if_neg hrun]

/-! ## The counter -/

variable (cfg) in
/-- What is so of a burst between two steps. A tick that waits has run, and
its counter does not know yet. -/
structure BurstInv (ticks : Nat) (ended waiting : Bool) (burst : PostHopBurst) : Prop where
  remaining_le : burst.remaining.toNat ≤ cfg.channelHopPostBurstCount
  ticks_le : ticks ≤ cfg.channelHopPostBurstCount
  spent : ticks + burst.remaining.toNat ≤ cfg.channelHopPostBurstCount + waiting.toNat
  due : burst.work.isSome = true → 0 < burst.remaining
  undue : waiting = true → burst.work = none
  left : waiting = true → ended = false → 0 < burst.remaining
  afterEnd : ended = true → burst.remaining = 0

section Counter

variable {ticks : Nat} {ended waiting : Bool} {burst : PostHopBurst}

theorem BurstInv.bounded (hb : BurstInv cfg t.ticks t.ended waiting t.s.e.hop.burst) :
    BurstBounded cfg t where
  remaining_le := hb.remaining_le
  ticks_le := hb.ticks_le
  afterEnd hended := by
    by_contra hsome
    have hpos := hb.due (Option.isSome_iff_ne_none.2 hsome)
    exact absurd (hb.afterEnd hended) (UInt8.pos_iff_ne_zero.1 hpos)

/-- A disconnect ends it, with what is waiting left to wait. -/
theorem BurstInv.disconnect (hb : BurstInv cfg ticks ended waiting burst) :
    BurstInv cfg ticks true waiting burst.stopped where
  remaining_le := Nat.zero_le _
  ticks_le := hb.ticks_le
  spent := hb.ticks_le.trans (Nat.le_add_right _ _)
  due hsome := Bool.noConfusion hsome
  undue _ := rfl
  left _ hended := Bool.noConfusion hended
  afterEnd _ := rfl

/-- A new burst has all its ticks. -/
theorem BurstInv.start (hb : BurstInv cfg ticks ended false burst) :
    BurstInv cfg 0 false false (burst.started cfg) := by
  unfold PostHopBurst.started
  split
  · have hle := hb.remaining_le
    exact ⟨hle, Nat.zero_le _, by omega, hb.due, fun hw => Bool.noConfusion hw,
      fun hw => Bool.noConfusion hw, fun hended => Bool.noConfusion hended⟩
  · rename_i hcount
    have hle := cfg.postBurst_le
    have hval : (UInt8.ofNat cfg.channelHopPostBurstCount).toNat =
        cfg.channelHopPostBurstCount := by
      rw [UInt8.toNat_ofNat']
      exact Nat.mod_eq_of_lt (by omega)
    have hpos : 0 < UInt8.ofNat cfg.channelHopPostBurstCount := by
      rw [UInt8.lt_iff_toNat_lt, hval]
      exact Nat.pos_of_ne_zero hcount
    exact ⟨hval.le, Nat.zero_le _, by simp only [hval]; omega, fun _ => hpos,
      fun hw => Bool.noConfusion hw, fun hw => Bool.noConfusion hw,
      fun hended => Bool.noConfusion hended⟩

/-- The end of a tick that found some left. -/
theorem BurstInv.counted (hticks : ticks ≤ cfg.channelHopPostBurstCount)
    (hspent : ticks + burst.remaining.toNat ≤ cfg.channelHopPostBurstCount + 1)
    (hpos : 0 < burst.remaining) (hundue : burst.work = none) :
    BurstInv cfg ticks false false (burst.counted cfg) := by
  have hdec : (burst.remaining - 1).toNat = burst.remaining.toNat - 1 := toNat_sub_one hpos
  have hone : 0 < burst.remaining.toNat := UInt8.lt_iff_toNat_lt.1 hpos
  have hspent' : ticks + (burst.remaining.toNat - 1) ≤ cfg.channelHopPostBurstCount := by omega
  unfold PostHopBurst.counted
  split
  · rename_i hmore
    exact ⟨by dsimp only; omega, hticks, by dsimp only; omega, fun _ => hmore,
      fun hw => Bool.noConfusion hw, fun hw => Bool.noConfusion hw,
      fun hended => Bool.noConfusion hended⟩
  · refine ⟨by dsimp only; omega, hticks, by dsimp only; omega, fun hsome => ?_,
      fun hw => Bool.noConfusion hw, fun hw => Bool.noConfusion hw,
      fun hended => Bool.noConfusion hended⟩
    simp only [hundue, Option.isSome_none, Bool.false_eq_true] at hsome

/-- **A tick** waits or is counted. -/
theorem BurstInv.tick (hb : BurstInv cfg ticks ended false burst)
    (hdue : burst.work.isSome = true) (waits : Bool) (candidate : UInt8) :
    BurstInv cfg (ticks + 1) ended waits
      (if waits then { burst with work := none, candidate }
      else PostHopBurst.counted cfg { burst with work := none, candidate }) := by
  have hpos := hb.due hdue
  have hone : 0 < burst.remaining.toNat := UInt8.lt_iff_toNat_lt.1 hpos
  have hspent : ticks + burst.remaining.toNat ≤ cfg.channelHopPostBurstCount := hb.spent
  have hended : ended = false := by
    rw [Bool.eq_false_iff]
    exact fun hended => absurd (hb.afterEnd hended) (UInt8.pos_iff_ne_zero.1 hpos)
  subst hended
  cases waits with
  | true =>
    exact ⟨hb.remaining_le, by omega, by simp only [Bool.toNat_true, if_true]; omega,
      fun hsome => Bool.noConfusion hsome, fun _ => rfl, fun _ _ => hpos,
      fun hended => Bool.noConfusion hended⟩
  | false =>
    exact BurstInv.counted (by omega) (by dsimp only; omega) hpos rfl

/-- **The end of a side-trip** counts its tick, in the burst it belongs
to. -/
theorem BurstInv.resume (hb : BurstInv cfg ticks false true burst) :
    BurstInv cfg ticks false false (burst.counted cfg) :=
  BurstInv.counted hb.ticks_le hb.spent (hb.left rfl rfl) (hb.undue rfl)

end Counter

/-! ## Bounded bursts -/

/-- The invariant of a run. -/
def BurstTrace.Ok (cfg : Config) (t : BurstTrace) : Prop :=
  BurstInv cfg t.ticks t.ended (t.s.workq == .sideTrip) t.s.e.hop.burst

theorem not_ticksBurst {op : EpOp} (h : op ≠ .step .postHopBurst) : ticksBurst s op = false := by
  rw [ticksBurst, beq_eq_false_iff_ne.2 h, Bool.false_and, Bool.false_and]

/-- Off the burst. -/
theorem BurstTrace.Ok.off (hb : t.Ok cfg) {op : EpOp} (hoff : op.offBurst = true) :
    (burstStep cfg t op).Ok cfg := by
  obtain ⟨hhop, hcommit, hnotick, hnoend⟩ := EpOp.ne_of_offBurst hoff
  have hwait : ((epStep cfg t.s op).workq == .sideTrip) = (t.s.workq == .sideTrip) := by
    rw [Bool.eq_iff_iff, beq_iff_eq, beq_iff_eq]
    exact sideTrip_epStep hnotick hnoend
  have hstart : changesChannel cfg t.s op = false := changesChannel_eq_false hhop hcommit
  have htick : ticksBurst t.s op = false := not_ticksBurst hnotick
  have hburst := @burst_epStep cfg t.s op hoff
  simp only [BurstTrace.Ok, burstStep, hstart, htick, hwait, hburst, Bool.false_eq_true, if_false,
    Bool.not_false, Bool.true_and]
  cases epDisconnects cfg t.s op with
  | true =>
    rw [Bool.or_true, if_pos rfl]
    exact hb.disconnect
  | false =>
    rw [Bool.or_false, if_neg Bool.false_ne_true]
    exact hb

/-- A hop, or none. -/
theorem BurstTrace.Ok.hops (hb : t.Ok cfg) {op : EpOp}
    (hop : op = .step .hop ∨ op = .step .commit) :
    (burstStep cfg t op).Ok cfg := by
  have hwait : (epStep cfg t.s op).workq = .sideTrip ↔ t.s.workq = .sideTrip :=
    sideTrip_epStep (by rcases hop with rfl | rfl <;> simp) (by rcases hop with rfl | rfl <;> simp)
  have htick : ticksBurst t.s op = false :=
    not_ticksBurst (by rcases hop with rfl | rfl <;> simp)
  have hdis : epDisconnects cfg t.s op = false := by rcases hop with rfl | rfl <;> rfl
  rcases @burst_of_hops cfg t.s op hop with ⟨hstart, hburst⟩ | ⟨hstart, hfree, hburst⟩
  · have hsame : ((epStep cfg t.s op).workq == .sideTrip) = (t.s.workq == .sideTrip) := by
      rw [Bool.eq_iff_iff, beq_iff_eq, beq_iff_eq, hwait]
    simp only [BurstTrace.Ok, burstStep, hstart, htick, hsame, hburst, hdis, Bool.false_eq_true,
      if_false, Bool.not_false, Bool.true_and, Bool.or_false]
    exact hb
  · have hout : (t.s.workq == WorkqPhase.sideTrip) = false := by rw [hfree]; rfl
    have hout' : ((epStep cfg t.s op).workq == WorkqPhase.sideTrip) = false := by
      rw [beq_eq_false_iff_ne, Ne, hwait, hfree]
      simp
    have hold : BurstInv cfg t.ticks t.ended false t.s.e.hop.burst := hout ▸ hb
    simp only [BurstTrace.Ok, burstStep, hstart, if_true, hout', hburst, Bool.not_true,
      Bool.false_and]
    exact hold.start

/-- A tick that is due. -/
theorem BurstTrace.Ok.tick (hb : t.Ok cfg) : (burstStep cfg t (.step .postHopBurst)).Ok cfg := by
  have hstart : changesChannel cfg t.s (.step .postHopBurst) = false := rfl
  have hdis : epDisconnects cfg t.s (.step .postHopBurst) = false := rfl
  cases htick : ticksBurst t.s (.step .postHopBurst) with
  | true =>
    obtain ⟨hs, hwaits⟩ := @epStep_of_ticksBurst cfg t.s htick
    simp only [ticksBurst, Bool.and_eq_true, beq_iff_eq] at htick
    have hout : (t.s.workq == WorkqPhase.sideTrip) = false := by rw [htick.1.2]; rfl
    have hold : BurstInv cfg t.ticks t.ended false t.s.e.hop.burst := hout ▸ hb
    have hticked := hold.tick htick.2 (postHopBurstWorkFn cfg t.s.ticking).2
      (burstCandidate cfg t.s.ticking).1.hop.pendingCandidate
    have hwork := @burst_postHopBurstWorkFn cfg t.s.ticking (hold.due htick.2)
    rw [burst_burstCandidate] at hwork
    simp only [BurstTrace.Ok, burstStep, hstart, ticksBurst, htick, hdis, Bool.false_eq_true,
      if_false, beq_self_eq_true, Bool.and_self, if_true, Bool.not_false, Bool.true_and,
      Bool.or_false, hs, hwaits, hwork]
    exact hticked
  | false =>
    simp only [BurstTrace.Ok, burstStep, hstart, htick, hdis, Bool.false_eq_true, if_false,
      Bool.not_false, Bool.true_and, Bool.or_false, epStep_of_not_ticksBurst htick]
    exact hb

/-- The end of a side-trip. -/
theorem burstStep_sideTripEnd :
    t.s.workq ≠ .sideTrip ∧ burstStep cfg t (.step .sideTripEnd) = t ∨
      t.s.workq = .sideTrip ∧
        (burstStep cfg t (.step .sideTripEnd)).s.workq = .free ∧
        (burstStep cfg t (.step .sideTripEnd)).ticks = t.ticks ∧
        (burstStep cfg t (.step .sideTripEnd)).ended = t.ended ∧
        (burstStep cfg t (.step .sideTripEnd)).s.e.hop.burst =
          t.s.e.hop.burst.counted cfg := by
  have hstart : changesChannel cfg t.s (.step .sideTripEnd) = false := rfl
  have htick : ticksBurst t.s (.step .sideTripEnd) = false := rfl
  have hdis : epDisconnects cfg t.s (.step .sideTripEnd) = false := rfl
  by_cases htrip : t.s.workq = .sideTrip
  · have hstep : epStep cfg t.s (.step .sideTripEnd) =
        { t.s with e := postHopBurstResume cfg t.s.e, workq := .free } := by
      rw [epStep, hopStep, if_pos htrip]
    simp only [burstStep, hstart, htick, hdis, Bool.false_eq_true, if_false, Bool.not_false,
      Bool.true_and, Bool.or_false, hstep, burst_postHopBurstResume]
    exact Or.inr ⟨htrip, trivial, trivial, trivial, trivial⟩
  · have hstep : epStep cfg t.s (.step .sideTripEnd) = t.s := by
      rw [epStep, hopStep, if_neg htrip]
    refine Or.inl ⟨htrip, ?_⟩
    simp only [burstStep, hstart, htick, hdis, Bool.false_eq_true, if_false, Bool.not_false,
      Bool.true_and, Bool.or_false, hstep]

/-- **A step keeps the invariant**, unless a side-trip ends after the
disconnect that ended its burst. -/
theorem BurstTrace.Ok.step (hb : t.Ok cfg) {op : EpOp} (htrip : TripInBurst t op) :
    (burstStep cfg t op).Ok cfg := by
  rcases op.offBurst_cases with hoff | hop | rfl | rfl
  · exact hb.off hoff
  · exact hb.hops hop
  · exact hb.tick
  · rcases @burstStep_sideTripEnd cfg t with ⟨-, hs⟩ | ⟨hwait, hfree, hticks, hended, hburst⟩
    · rw [hs]
      exact hb
    · have hgoing := htrip rfl hwait
      have hold : BurstInv cfg t.ticks false true t.s.e.hop.burst := by
        have hwaits : (t.s.workq == WorkqPhase.sideTrip) = true := beq_iff_eq.2 hwait
        exact hwaits ▸ hgoing ▸ hb
      simp only [BurstTrace.Ok, hfree, hticks, hended, hburst, hgoing]
      exact hold.resume

/-- There the counter wraps. -/
theorem BurstTrace.Ok.not_bounded (hb : t.Ok cfg) {op : EpOp} (htrip : ¬ TripInBurst t op) :
    ¬ BurstBounded cfg (burstStep cfg t op) := by
  simp only [TripInBurst, Classical.not_imp, Bool.not_eq_false] at htrip
  obtain ⟨rfl, hwait, hended⟩ := htrip
  have hzero : t.s.e.hop.burst.remaining = 0 := hb.afterEnd hended
  rcases @burstStep_sideTripEnd cfg t with ⟨hout, -⟩ | ⟨-, -, -, -, hburst⟩
  · exact absurd hwait hout
  · intro hbounded
    have hle := hbounded.remaining_le
    have hwrapped : (burstStep cfg t (.step .sideTripEnd)).s.e.hop.postHopBurstRemaining = 255 := by
      have hspent := congrArg PostHopBurst.remaining hburst
      rw [PostHopBurst.counted, hzero] at hspent
      exact hspent
    have hmax := cfg.postBurst_le
    rw [hwrapped, show (255 : UInt8).toNat = 255 from rfl] at hle
    omega

theorem ok_start (cfg : Config) (deviceId : List UInt8) (saved : Option PairedRec) :
    BurstTrace.Ok cfg { s := HopTrace.start cfg deviceId saved } := by
  have hburst : (HopTrace.start cfg deviceId saved).e.hop.burst = ⟨0, none, channelHopInvalid⟩ := by
    rw [hop_start]
    rfl
  have hwait : ((HopTrace.start cfg deviceId saved).workq == WorkqPhase.sideTrip) = false := rfl
  simp only [BurstTrace.Ok, hburst, hwait]
  exact ⟨Nat.zero_le _, Nat.zero_le _, Nat.zero_le _, fun hsome => Bool.noConfusion hsome,
    fun _ => rfl, fun hw => Bool.noConfusion hw, fun hended => Bool.noConfusion hended⟩

/-- **Bursts are bounded in a run exactly when no side-trip outlives its
burst**: each that ends does so with no disconnect since the burst was
started. -/
theorem burstBounded_iff (cfg : Config) (deviceId : List UInt8) (saved : Option PairedRec)
    (ops : List EpOp) :
    Throughout (burstStep cfg) (BurstBounded cfg) { s := HopTrace.start cfg deviceId saved } ops ↔
      Guarded (burstStep cfg) TripInBurst { s := HopTrace.start cfg deviceId saved } ops :=
  throughout_iff_guarded_of_breaks (fun _ _ hb htrip => hb.step htrip) (fun _ hb => hb.bounded)
    (fun _ _ hb htrip => hb.not_bounded htrip) (ok_start cfg deviceId saved)

/-- `pairing_stop` in the side-trip of the last tick: the counter wraps to
255, and the next tick is armed. -/
theorem not_burstBounded : ¬ ∀ (cfg : Config) (deviceId : List UInt8) (saved : Option PairedRec)
    (ops : List EpOp),
    Throughout (burstStep cfg) (BurstBounded cfg) { s := HopTrace.start cfg deviceId saved }
      ops := by
  intro h
  have hrun := (h { channelHopPostBurstRendezvousEvery := 1 } [] none
    [.step .pairingStart, .step (.rx [esbPktPairReq, 1, 2, 3, 4, 5, 6] 7),
      .step (.txDone (.acked 0 [])), .step (.rx [esbPktChannelHopRequest] 1), .step .hop,
      .step (.tick 10), .step .postHopBurst, .step (.txDone (.acked 0 [])), .step .postHopBurst,
      .step .pairingStop, .step .sideTripEnd]).last
  exact absurd hrun.remaining_le (by decide +kernel)

end EsbEndpoint
