import EsbEndpoint.Common.Deadline
import EsbEndpoint.Common.Run
import EsbEndpoint.Hop.Dwell
import EsbEndpoint.Hop.Standing

/-!
# How long a cooldown lasts

`hop_cooldown_active` and `coop_hop_cooldown_active` compare a deadline
that is left in place when it has passed, and that stands for no cooldown
where it comes to zero. `cooldownsExact_run_iff` says which runs they tell
the cooldowns of: those in which no deadline of a cooldown is at a full
turn of the clock and no passed one comes back.
-/

namespace EsbEndpoint

variable (cfg : Config)

/-! ## Runs -/

/-- A run, with the times at which the channel was last changed, and last
changed by a cooperative hop, since the last disconnect. -/
structure CooldownTrace where
  s : HopTrace
  hopped : Option Nat := none
  coopHopped : Option Nat := none

/-- `coop_hop_commit_work_fn` changes the channel. -/
def commitsCoop (s : HopTrace) (op : EpOp) : Bool :=
  op == .step .commit && changesChannel cfg s op

def cooldownStep (t : CooldownTrace) (op : EpOp) : CooldownTrace where
  s := epStep cfg t.s op
  hopped :=
    if epDisconnects cfg t.s op then none
    else if changesChannel cfg t.s op then some t.s.e.uptime
    else t.hopped
  coopHopped :=
    if epDisconnects cfg t.s op then none
    else if commitsCoop cfg t.s op then some t.s.e.uptime
    else t.coopHopped

/-- **The cooldowns are exact**: each is active in its interval, and in no
other. -/
structure CooldownsExact (t : CooldownTrace) : Prop where
  hop : hopCooldownActive t.s.e.now t.s.e.hop = true ↔
    Within cfg.channelHopCooldownMs t.s.e.uptime t.hopped
  coop : cfg.coopHop = true →
    (coopHopCooldownActive t.s.e.now t.s.e.hop = true ↔
      Within cfg.coopHopCooldownMs t.s.e.uptime t.coopHopped)

/-- The times at which a cooldown reads right. -/
structure CooldownsReadRight (t : CooldownTrace) : Prop where
  hop : ReadsRight cfg.channelHopCooldownMs t.s.e.uptime t.hopped
  coop : cfg.coopHop = true → ReadsRight cfg.coopHopCooldownMs t.s.e.uptime t.coopHopped

instance (t : CooldownTrace) : Decidable (CooldownsExact cfg t) :=
  decidable_of_iff (_ ∧ (_ → _)) ⟨fun h => ⟨h.1, h.2⟩, fun h => ⟨h.hop, h.coop⟩⟩

/-- What every run satisfies: the deadlines kept are those of the last
hops, which have been. -/
structure CooldownTrace.Sound (t : CooldownTrace) : Prop where
  hop : t.s.e.hop.hopCooldownUntil = deadlineOf cfg.channelHopCooldownMs t.hopped
  coop : cfg.coopHop = true →
    t.s.e.hop.coopHopCooldownUntil = deadlineOf cfg.coopHopCooldownMs t.coopHopped
  hopPast : ∀ since ∈ t.hopped, since ≤ t.s.e.uptime
  coopPast : ∀ since ∈ t.coopHopped, since ≤ t.s.e.uptime

variable {cfg} {s : HopTrace} {t : CooldownTrace} {now : UInt32} {h : HopEp}

/-! ## What moves a deadline -/

/-- The two deadlines. -/
def HopEp.cooldowns (h : HopEp) : UInt32 × UInt32 := (h.hopCooldownUntil, h.coopHopCooldownUntil)

theorem Stands.cooldowns {h' : HopEp} (hs : Stands h h') : h'.cooldowns = h.cooldowns :=
  congrArg (fun st : HopStanding => (st.hopCooldownUntil, st.coopHopCooldownUntil)) hs

/-- A disconnect takes both back, where there is a manager. -/
theorem onDisconnected_cooldowns (hhop : cfg.channelHop = true) :
    (channelHopEpOnDisconnected cfg h).hopCooldownUntil = 0 ∧
      (cfg.coopHop = true → (channelHopEpOnDisconnected cfg h).coopHopCooldownUntil = 0) := by
  unfold channelHopEpOnDisconnected
  rw [hhop, Bool.not_true, if_neg Bool.false_ne_true]
  dsimp only
  split
  · exact ⟨rfl, fun _ => rfl⟩
  · rename_i hcoop
    exact ⟨rfl, fun hon => absurd hon hcoop⟩

/-- A tick of the burst moves neither. -/
theorem HopMoves.cooldowns_tick {op : HopOp} {h' : HopEp} (hmoves : HopMoves cfg s op h')
    (htick : op = .postHopBurst ∨ op = .sideTripEnd) : h'.cooldowns = s.e.hop.cooldowns := by
  rcases htick with rfl | rfl
  · cases hmoves <;> rfl
  · cases hmoves <;> rfl

/-- A hop starts the cooldown of hops. -/
theorem cooldowns_hop : (hopStep cfg s .hop).e.hop.cooldowns =
    (if changesChannel cfg s (.step .hop) = true then
        s.e.now + UInt32.ofNat cfg.channelHopCooldownMs
      else s.e.hop.hopCooldownUntil, s.e.hop.coopHopCooldownUntil) := by
  have hchanges : changesChannel cfg s (.step .hop) =
      ((hopStep cfg s .hop).e.tp.channel != s.e.tp.channel) := by
    rw [changesChannel, beq_self_eq_true, Bool.true_or, Bool.true_and, epStep]
  rw [hchanges]
  obtain ⟨-, hstep⟩ | ⟨-, hwork⟩ := @hopStep_hop_cases cfg s
  · rw [hstep, bne_self_eq_false, if_neg Bool.false_ne_true]
    rfl
  · generalize (hopStep cfg s .hop).e.tp.channel = c at hwork ⊢
    generalize (hopStep cfg s .hop).e.hop = h' at hwork ⊢
    cases hwork with
    | stayed pending prng hchoice =>
      rw [Endpoint.mapHop_tp, bne_self_eq_false, if_neg Bool.false_ne_true]
      rfl
    | refused pending prng hchoice hno =>
      rw [Endpoint.mapHop_tp, bne_self_eq_false, if_neg Bool.false_ne_true]
      rfl
    | hopped _ _ _ _ _ _ _ hchoice hyes =>
      have hne := hopChoice_ne hchoice
      rw [Endpoint.mapHop_tp] at hne
      rw [if_pos (bne_iff_ne.2 hne)]
      rfl

/-- A cooperative one starts both. -/
theorem cooldowns_commit : (hopStep cfg s .commit).e.hop.cooldowns =
    if changesChannel cfg s (.step .commit) = true then
      (s.e.now + UInt32.ofNat cfg.channelHopCooldownMs,
        s.e.now + UInt32.ofNat cfg.coopHopCooldownMs)
    else s.e.hop.cooldowns := by
  have hchanges : changesChannel cfg s (.step .commit) =
      ((hopStep cfg s .commit).e.tp.channel != s.e.tp.channel) := by
    rw [changesChannel, beq_self_eq_true, Bool.or_true, Bool.true_and, epStep]
  rw [hchanges]
  obtain ⟨-, hstep⟩ | ⟨-, hwork⟩ := @hopStep_commit_cases cfg s
  · rw [hstep, bne_self_eq_false, if_neg Bool.false_ne_true]
  · generalize (hopStep cfg s .commit).e.tp.channel = c at hwork ⊢
    generalize (hopStep cfg s .commit).e.hop = h' at hwork ⊢
    cases hwork with
    | unarmed hstate =>
      rw [Endpoint.mapHop_tp, bne_self_eq_false, if_neg Bool.false_ne_true]
      rfl
    | stayed hstate htarget =>
      rw [Endpoint.mapHop_tp, bne_self_eq_false, if_neg Bool.false_ne_true]
      rfl
    | refused hstate htarget hno =>
      rw [Endpoint.mapHop_tp, bne_self_eq_false, if_neg Bool.false_ne_true]
      rfl
    | committed _ _ _ _ hstate htarget hyes =>
      rw [targetElsewhere, Bool.and_eq_true, bne_iff_ne, bne_iff_ne] at htarget
      have hne : s.e.hop.coopHopTarget ≠ s.e.tp.channel := htarget.2
      rw [Endpoint.mapHop_hop, if_pos (bne_iff_ne.2 hne)]
      rfl

/-- **What a step leaves of the deadlines.** -/
theorem cooldowns_epStep {op : EpOp} (hdis : epDisconnects cfg s op = false) :
    (epStep cfg s op).e.hop.cooldowns =
      (if changesChannel cfg s op = true then s.e.now + UInt32.ofNat cfg.channelHopCooldownMs
        else s.e.hop.hopCooldownUntil,
        if commitsCoop cfg s op = true then s.e.now + UInt32.ofNat cfg.coopHopCooldownMs
        else s.e.hop.coopHopCooldownUntil) := by
  by_cases hhop : op = .step .hop
  · subst hhop
    rw [show commitsCoop cfg s (.step .hop) = false from rfl, if_neg Bool.false_ne_true]
    exact cooldowns_hop
  by_cases hcommit : op = .step .commit
  · subst hcommit
    rw [show commitsCoop cfg s (.step .commit) = changesChannel cfg s (.step .commit) from by
      rw [commitsCoop, beq_self_eq_true, Bool.true_and]]
    refine cooldowns_commit.trans ?_
    split <;> rfl
  · have hstay : changesChannel cfg s op = false := by
      rw [changesChannel, beq_eq_false_iff_ne.2 hhop, beq_eq_false_iff_ne.2 hcommit, Bool.or_self,
        Bool.false_and]
    rw [commitsCoop, hstay, Bool.and_false, if_neg Bool.false_ne_true, if_neg Bool.false_ne_true]
    rcases op.offBurst_cases with hoff | (rfl | rfl) | rfl | rfl
    · exact (stands_epStep hdis hoff).cooldowns
    · exact absurd rfl hhop
    · exact absurd rfl hcommit
    · exact (hopMoves_hopStep .postHopBurst).cooldowns_tick (Or.inl rfl)
    · exact (hopMoves_hopStep .sideTripEnd).cooldowns_tick (Or.inr rfl)

/-- And a disconnect. -/
theorem cooldowns_of_disconnects {op : EpOp} (hdis : epDisconnects cfg s op = true) :
    (epStep cfg s op).e.hop.hopCooldownUntil = 0 ∧
      (cfg.coopHop = true → (epStep cfg s op).e.hop.coopHopCooldownUntil = 0) := by
  cases op with
  | step op =>
    obtain ⟨hmanager, hhop⟩ := hop_of_disconnects hdis
    rw [epStep, hhop]
    exact onDisconnected_cooldowns hmanager
  | call entry =>
    rw [epDisconnects, Bool.and_eq_true, beq_iff_eq] at hdis
    obtain ⟨hmanager, rfl⟩ := hdis
    exact onDisconnected_cooldowns hmanager

/-! ## Runs -/

theorem deadlineOf_now (length : Nat) (e : Endpoint) :
    e.now + UInt32.ofNat length = deadlineOf length (some e.uptime) := (UInt32.ofNat_add _ _).symm

/-- **Every step keeps the deadlines those of the last hops.** -/
theorem CooldownTrace.Sound.step (h : t.Sound cfg) (op : EpOp) :
    (cooldownStep cfg t op).Sound cfg := by
  have htime := @uptime_epStep cfg t.s op
  have hlater : ∀ {last : Option Nat} (set : Bool), (∀ since ∈ last, since ≤ t.s.e.uptime) →
      ∀ since ∈ (if epDisconnects cfg t.s op = true then none
        else if set = true then some t.s.e.uptime else last),
        since ≤ (epStep cfg t.s op).e.uptime := by
    intro last set hlast since hmem
    split at hmem
    · exact absurd hmem (by simp)
    · split at hmem
      · obtain rfl := Option.some.inj hmem
        omega
      · have hpast := hlast since hmem
        omega
  refine ⟨?_, fun hcoop => ?_, hlater _ h.hopPast, hlater _ h.coopPast⟩
  · simp only [cooldownStep]
    cases hdis : epDisconnects cfg t.s op with
    | true => exact (cooldowns_of_disconnects hdis).1
    | false =>
      have hmoved := congrArg Prod.fst (cooldowns_epStep hdis)
      refine hmoved.trans ?_
      dsimp only
      rw [if_neg Bool.false_ne_true]
      split
      · exact deadlineOf_now _ _
      · exact h.hop
  · simp only [cooldownStep]
    cases hdis : epDisconnects cfg t.s op with
    | true => exact (cooldowns_of_disconnects hdis).2 hcoop
    | false =>
      have hmoved := congrArg Prod.snd (cooldowns_epStep hdis)
      refine hmoved.trans ?_
      dsimp only
      rw [if_neg Bool.false_ne_true]
      split
      · exact deadlineOf_now _ _
      · exact h.coop hcoop

theorem sound_cooldownStart (deviceId : List UInt8) (saved : Option PairedRec) :
    CooldownTrace.Sound cfg { s := HopTrace.start cfg deviceId saved } := by
  have hstart := @hop_start cfg deviceId saved
  refine ⟨?_, fun _ => ?_, fun _ hmem => absurd hmem (by simp),
    fun _ hmem => absurd hmem (by simp)⟩
  · rw [hstart]
    rfl
  · rw [hstart]
    rfl

theorem hopCooldownActive_iff : hopCooldownActive now h = true ↔
    h.hopCooldownUntil ≠ 0 ∧ after h.hopCooldownUntil now = true := by
  unfold hopCooldownActive
  split
  · rename_i hzero
    exact iff_of_false Bool.false_ne_true fun hset => hset.1 (beq_iff_eq.1 hzero)
  · rename_i hset
    exact (and_iff_right fun hzero => hset (beq_iff_eq.2 hzero)).symm

theorem coopHopCooldownActive_iff : coopHopCooldownActive now h = true ↔
    h.coopHopCooldownUntil ≠ 0 ∧ after h.coopHopCooldownUntil now = true := by
  unfold coopHopCooldownActive
  split
  · rename_i hzero
    exact iff_of_false Bool.false_ne_true fun hset => hset.1 (beq_iff_eq.1 hzero)
  · rename_i hset
    exact (and_iff_right fun hzero => hset (beq_iff_eq.2 hzero)).symm

/-- **In a sound state the cooldowns are exact** just when they read
right. -/
theorem CooldownTrace.Sound.exact_iff (h : t.Sound cfg) :
    CooldownsExact cfg t ↔ CooldownsReadRight cfg t := by
  have hlength := cfg.cooldown_le
  have hcoopLength := cfg.coopCooldown_le
  have hhop : (hopCooldownActive t.s.e.now t.s.e.hop = true ↔
      Within cfg.channelHopCooldownMs t.s.e.uptime t.hopped) ↔
        ReadsRight cfg.channelHopCooldownMs t.s.e.uptime t.hopped := by
    rw [hopCooldownActive_iff, h.hop]
    exact deadlineOf_within_iff h.hopPast (by omega)
  have hcoop : cfg.coopHop = true → ((coopHopCooldownActive t.s.e.now t.s.e.hop = true ↔
      Within cfg.coopHopCooldownMs t.s.e.uptime t.coopHopped) ↔
        ReadsRight cfg.coopHopCooldownMs t.s.e.uptime t.coopHopped) := by
    intro hon
    rw [coopHopCooldownActive_iff, h.coop hon]
    exact deadlineOf_within_iff h.coopPast (by omega)
  exact ⟨fun hexact => ⟨hhop.1 hexact.hop, fun hon => (hcoop hon).1 (hexact.coop hon)⟩,
    fun hright => ⟨hhop.2 hright.hop, fun hon => (hcoop hon).2 (hright.coop hon)⟩⟩

/-- **The cooldowns are exact throughout a run** exactly if they read right
throughout it: for every run of the endpoint, and every order of calls. -/
theorem cooldownsExact_run_iff (cfg : Config) (deviceId : List UInt8) (saved : Option PairedRec)
    (ops : List EpOp) :
    Throughout (cooldownStep cfg) (CooldownsExact cfg) { s := HopTrace.start cfg deviceId saved }
        ops ↔
      Throughout (cooldownStep cfg) (CooldownsReadRight cfg)
        { s := HopTrace.start cfg deviceId saved } ops :=
  throughout_congr (I := fun t => t.Sound cfg) (fun _ op hs => hs.step op)
    (fun _ hs => hs.exact_iff) (sound_cooldownStart deviceId saved)

/-- **A cooldown that has ended is back** half a turn of the clock later,
and one that ends at a full turn is none. -/
theorem not_cooldownsExact :
    ¬ Throughout (cooldownStep .default) (CooldownsExact .default)
        { s := HopTrace.start .default [] none }
        [.step .pairingStart, .step (.rx [esbPktPairReq, 1, 2, 3, 4, 5, 6] 7),
          .step (.txDone (.acked 0 [])), .step (.rx [esbPktChannelHopRequest] 1), .step .hop,
          .step (.tick 250), .step (.tick 2147483649)] ∧
      ¬ Throughout (cooldownStep .default) (CooldownsExact .default)
        { s := HopTrace.start .default [] none }
        [.step .pairingStart, .step (.rx [esbPktPairReq, 1, 2, 3, 4, 5, 6] 7),
          .step (.txDone (.acked 0 [])), .step (.tick 4294967046),
          .step (.rx [esbPktChannelHopRequest] 1), .step .hop] := by
  constructor <;> decide +kernel

end EsbEndpoint
