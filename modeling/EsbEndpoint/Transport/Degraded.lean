import EsbEndpoint.Common.Run
import EsbEndpoint.Transport.Health

/-!
# The cooperative-hop trigger

A flag keeps a degraded link from calling the hop manager on every
success. It is set by a call and cleared by the count alone, at or below
`LINK_DEGRADED_REARM`: no time is kept, and the manager, which may have
refused the call, has no say. `retriggers_iff` says when a link that stays
degraded is reported again.
-/

namespace EsbEndpoint

variable (cfg : Config)

/-! ## The call -/

/-- A `TX_SUCCESS` makes the transport call
`channel_hop_ep_on_link_degraded_isr`. -/
def linkDegradedCalls (e : Endpoint) (txAttempts : Nat) : Bool :=
  cfg.channelHop && !wasNoack cfg e &&
    (e.health.record cfg (UInt8.ofNat txAttempts) (1 < txAttempts)).callsDegraded cfg

theorem hop_checkLinkDegraded (e : Endpoint) :
    (checkLinkDegraded cfg e).hop =
      if e.health.callsDegraded cfg then channelHopEpOnLinkDegradedIsr cfg e.now e.hop
      else e.hop := by
  have hcalls : e.health.callsDegraded cfg = (cfg.coopHop && !e.tp.linkDegradedArmed &&
      decide (cfg.linkDegradedThreshold ≤ e.tp.linkQualityCount.toNat ∨
        cfg.linkDegradedFastThreshold ≤ popcount8 e.tp.linkQualityWindow)) := rfl
  rw [hcalls]
  unfold checkLinkDegraded
  cases cfg.coopHop with
  | false => rfl
  | true =>
    cases e.tp.linkDegradedArmed with
    | true =>
      rw [Bool.not_true, if_neg Bool.false_ne_true, if_pos rfl, apply_ite Endpoint.hop]
      exact ite_self _
    | false =>
      simp only [Bool.not_true, Bool.not_false, Bool.true_and, Bool.false_eq_true, if_false,
        decide_eq_true_eq]
      split <;> rfl

theorem hop_recordSuccess (e : Endpoint) (txAttempts : Nat) :
    (recordSuccess cfg e txAttempts).hop =
      if !wasNoack cfg e &&
          (e.health.record cfg (UInt8.ofNat txAttempts) (1 < txAttempts)).callsDegraded cfg then
        channelHopEpOnLinkDegradedIsr cfg e.now e.hop
      else e.hop := by
  have hpopped := health_consumeRecentNoack cfg e
  unfold recordSuccess wasNoack
  dsimp only
  cases (consumeRecentNoack cfg e.tp).2 with
  | true => rfl
  | false =>
    rw [if_neg Bool.false_ne_true, hop_checkLinkDegraded, health_linkQualityRecord]
    exact congrArg (fun h : LinkHealth =>
      if (h.record cfg (UInt8.ofNat txAttempts) (1 < txAttempts)).callsDegraded cfg then
        channelHopEpOnLinkDegradedIsr cfg e.now e.hop
      else e.hop) hpopped

/-- **A `TX_SUCCESS` and the hop manager**: it is noted, and then reported
if the transport calls. -/
theorem hop_onTxSuccess_eq (hhop : cfg.channelHop = true) (e : Endpoint) (txAttempts : Nat) :
    (onTxSuccess cfg e txAttempts).hop =
      if linkDegradedCalls cfg e txAttempts then
        channelHopEpOnLinkDegradedIsr cfg e.now (channelHopEpOnTxSuccessIsr cfg e.now e.hop)
      else channelHopEpOnTxSuccessIsr cfg e.now e.hop := by
  have hrecord : ∀ e' : Endpoint, wasNoack cfg e' = wasNoack cfg e →
      e'.health = { e.health with consecutiveTxFail := 0 } →
      (hopOnSuccess cfg e' txAttempts).hop =
        if linkDegradedCalls cfg e txAttempts then
          channelHopEpOnLinkDegradedIsr cfg e'.now (channelHopEpOnTxSuccessIsr cfg e'.now e'.hop)
        else channelHopEpOnTxSuccessIsr cfg e'.now e'.hop := by
    intro e' hnoack he'
    have hcalls : (LinkHealth.record cfg { e'.health with
          firstFailMs := 0, lastTxSuccessMs := stampOf e'.now }
        (UInt8.ofNat txAttempts) (1 < txAttempts)).callsDegraded cfg =
        (e.health.record cfg (UInt8.ofNat txAttempts) (1 < txAttempts)).callsDegraded cfg := by
      rw [he']
      rfl
    unfold hopOnSuccess linkDegradedCalls
    rw [hhop, Bool.not_true, if_neg Bool.false_ne_true, Bool.true_and, ← hnoack, ← hcalls]
    refine (hop_recordSuccess cfg _ txAttempts).trans ?_
    exact congrArg (fun noack : Bool =>
      if !noack && (LinkHealth.record cfg { e'.health with
          firstFailMs := 0, lastTxSuccessMs := stampOf e'.now }
          (UInt8.ofNat txAttempts) (1 < txAttempts)).callsDegraded cfg then
        channelHopEpOnLinkDegradedIsr cfg e'.now (channelHopEpOnTxSuccessIsr cfg e'.now e'.hop)
      else channelHopEpOnTxSuccessIsr cfg e'.now e'.hop) (wasNoack_congr rfl)
  simp only [onTxSuccess, hop_finishMotion, hop_finishCritical]
  split
  · exact hrecord (e.mapTp _) (wasNoack_congr rfl) rfl
  · exact hrecord (e.mapTp _) (wasNoack_congr rfl) rfl

/-! ## Runs -/

/-- An endpoint, with the uptime of the last call on this channel, whether
a counted success has left the count at or below `LINK_DEGRADED_REARM`
since, and whether the count has stayed at or above
`LINK_DEGRADED_THRESHOLD` since. -/
structure DegradedTrace where
  e : Endpoint
  lastCall : Option Nat := none
  rearmed : Bool := false
  stayed : Bool := false

/-- The attempts of a counted success. -/
def LinkMove.attempts? : LinkMove → Option Nat
  | .succeed false txAttempts => some txAttempts
  | _ => none

/-- The count is at or above the threshold. -/
def countHigh (e : Endpoint) : Bool := cfg.linkDegradedThreshold ≤ e.tp.linkQualityCount.toNat

/-- A step makes the transport call `channel_hop_ep_on_link_degraded_isr`. -/
def stepCallsDegraded (e : Endpoint) (op : HealthOp) : Bool :=
  (linkMove cfg e op).attempts?.any (linkDegradedCalls cfg e)

/-- **A counted success reaches the hop manager**, and a call after it. -/
def SuccessReaches (e : Endpoint) (op : HealthOp) : Prop :=
  (linkMove cfg e op).attempts?.isSome = true → (healthStep cfg e op).hop =
    if stepCallsDegraded cfg e op then
      channelHopEpOnLinkDegradedIsr cfg e.now (channelHopEpOnTxSuccessIsr cfg e.now e.hop)
    else channelHopEpOnTxSuccessIsr cfg e.now e.hop

def degradedStep (s : DegradedTrace) (op : HealthOp) : DegradedTrace :=
  let e := healthStep cfg s.e op
  if linkMove cfg s.e op = .newChannel then { e }
  else if stepCallsDegraded cfg s.e op then
    { e, lastCall := some s.e.uptime, stayed := countHigh cfg e }
  else
    { s with
      e
      rearmed := s.rearmed || (linkMove cfg s.e op).attempts?.isSome &&
        e.tp.linkQualityCount.toNat ≤ cfg.linkDegradedRearm
      stayed := s.stayed && countHigh cfg e }

/-- The step is a counted success that leaves the count high, as it has
been since the last call, `COOP_HOP_COOLDOWN_MS` ago or more. -/
def callDue (s : DegradedTrace) (op : HealthOp) : Bool :=
  (linkMove cfg s.e op).attempts?.isSome && s.stayed && countHigh cfg (healthStep cfg s.e op) &&
    s.lastCall.any fun call => call + cfg.coopHopCooldownMs ≤ s.e.uptime

/-- **A due call is made.** -/
def Retriggers (s : DegradedTrace) (op : HealthOp) : Prop :=
  callDue cfg s op = true → stepCallsDegraded cfg s.e op = true

/-- A due call finds that the count has been down to
`LINK_DEGRADED_REARM`. -/
def DueRearmed (s : DegradedTrace) (op : HealthOp) : Prop :=
  callDue cfg s op = true → s.rearmed = true

instance (s : DegradedTrace) (op : HealthOp) : Decidable (Retriggers cfg s op) :=
  inferInstanceAs (Decidable (_ = true → _ = true))

instance (s : DegradedTrace) (op : HealthOp) : Decidable (DueRearmed cfg s op) :=
  inferInstanceAs (Decidable (_ = true → _ = true))

/-! ## The flag -/

/-- What a run keeps: the flag is set by a call, until the count has been
down. -/
def Latched (s : DegradedTrace) : Prop :=
  s.e.tp.linkDegradedArmed = (s.lastCall.isSome && !s.rearmed)

namespace LinkHealth

variable (h : LinkHealth)

theorem checkDegraded_degradedArmed (hcoop : cfg.coopHop = true) :
    (h.checkDegraded cfg).degradedArmed =
      (!h.degradedArmed && h.degraded cfg ||
        h.degradedArmed && !decide (h.count.toNat ≤ cfg.linkDegradedRearm)) := by
  unfold checkDegraded
  rw [hcoop, Bool.not_true, if_neg Bool.false_ne_true]
  cases harmed : h.degradedArmed with
  | true =>
    rw [if_pos rfl]
    split
    · rename_i hdown
      rw [decide_eq_true hdown]
      rfl
    · rename_i hdown
      rw [decide_eq_false hdown]
      exact harmed
  | false =>
    rw [if_neg Bool.false_ne_true]
    split
    · rename_i hdegraded
      rw [hdegraded]
      rfl
    · rename_i hdegraded
      rw [Bool.not_eq_true] at hdegraded
      rw [hdegraded]
      exact harmed

/-- What a counted success makes of the flag. -/
theorem succeed_degradedArmed (hcoop : cfg.coopHop = true) (n : Nat) :
    (h.succeed cfg false n).degradedArmed =
        ((h.record cfg (UInt8.ofNat n) (1 < n)).callsDegraded cfg ||
          h.degradedArmed && !decide ((h.succeed cfg false n).count.toNat ≤ cfg.linkDegradedRearm)) ∧
      (h.succeed cfg false n).count = (h.record cfg (UInt8.ofNat n) (1 < n)).count := by
  have hhop := cfg.coopHop_dep hcoop
  have hsucceed : h.succeed cfg false n = LinkHealth.checkDegraded cfg (LinkHealth.record cfg
      { h with consecutiveTxFail := 0, firstFailMs := 0, lastTxSuccessMs := stampOf h.now }
      (UInt8.ofNat n) (1 < n)) := by
    rw [succeed, if_neg (by rw [hhop]; decide), noteSuccess, if_neg Bool.false_ne_true]
    rfl
  have hcalls : (h.record cfg (UInt8.ofNat n) (1 < n)).callsDegraded cfg =
      (!h.degradedArmed && (h.record cfg (UInt8.ofNat n) (1 < n)).degraded cfg) := by
    unfold callsDegraded
    rw [hcoop, Bool.true_and]
    rfl
  have hcount : (h.succeed cfg false n).count = (h.record cfg (UInt8.ofNat n) (1 < n)).count := by
    obtain ⟨armed, harmed⟩ := h.succeed_eq cfg hhop n
    rw [harmed]
  refine ⟨?_, hcount⟩
  rw [hcount, hcalls, hsucceed, checkDegraded_degradedArmed cfg _ hcoop]
  rfl

end LinkHealth

variable {cfg} {s : DegradedTrace}

/-- A counted success calls if it finds the flag clear and the link
degraded. -/
theorem linkDegradedCalls_eq (hhop : cfg.channelHop = true) {e : Endpoint} {op : HealthOp} {n : Nat}
    (h : linkMove cfg e op = .succeed false n) :
    linkDegradedCalls cfg e n =
      (e.health.record cfg (UInt8.ofNat n) (1 < n)).callsDegraded cfg := by
  obtain ⟨-, -, hnoack⟩ := linkMove_eq_succeed h
  rw [linkDegradedCalls, hhop, hnoack]
  rfl

theorem LinkMove.attempts?_eq_some {m : LinkMove} {n : Nat} (h : m.attempts? = some n) :
    m = .succeed false n := by
  cases m with
  | succeed noack txAttempts =>
    cases noack with
    | true => exact absurd h (by simp [LinkMove.attempts?])
    | false => rw [Option.some.inj h]
  | _ => exact absurd h (by simp [LinkMove.attempts?])

theorem successReaches (hhop : cfg.channelHop = true) (e : Endpoint) (op : HealthOp) :
    SuccessReaches cfg e op := by
  intro hsome
  obtain ⟨n, hn⟩ := Option.isSome_iff_exists.1 hsome
  obtain ⟨rfl, hsync, -⟩ := linkMove_eq_succeed (LinkMove.attempts?_eq_some hn)
  have hcalls : linkDegradedCalls cfg
      (e.mapTp fun tp => { tp with lastTxEventMs := stampOf e.now }) n =
        linkDegradedCalls cfg e n := by
    have hnoack : wasNoack cfg (e.mapTp fun tp => { tp with lastTxEventMs := stampOf e.now }) =
        wasNoack cfg e := wasNoack_congr rfl
    rw [linkDegradedCalls, linkDegradedCalls, hnoack]
    rfl
  rw [stepCallsDegraded, hn, Option.any_some, healthStep, evtCb_txSuccess hsync,
    hop_onTxSuccess_eq cfg hhop, hcalls]
  rfl

/-- Nothing else but a channel change moves the flag. -/
theorem LinkHealth.move_degradedArmed (hhop : cfg.channelHop = true) (h : LinkHealth)
    {m : LinkMove} (hm : m ≠ .newChannel) (hn : m.attempts? = none) :
    (h.move cfg m).degradedArmed = h.degradedArmed := by
  cases m with
  | succeed noack txAttempts =>
    cases noack with
    | true =>
      rw [LinkHealth.move, h.succeed_of_noack cfg hhop]
    | false => exact absurd hn (by simp [LinkMove.attempts?])
  | fail =>
    obtain ⟨first, stamp, hfail⟩ := h.fail_eq cfg hhop
    rw [LinkHealth.move, hfail]
    rfl
  | newChannel => exact absurd rfl hm
  | _ => rfl

theorem Latched.step (hcoop : cfg.coopHop = true) (hs : Latched s) (op : HealthOp) :
    Latched (degradedStep cfg s op) := by
  have hhop := cfg.coopHop_dep hcoop
  have hhealth := health_healthStep cfg s.e op
  unfold degradedStep stepCallsDegraded
  dsimp only
  -- a channel change clears the flag and forgets the call
  by_cases hnew : linkMove cfg s.e op = .newChannel
  · rw [if_pos hnew]
    refine (congrArg LinkHealth.degradedArmed hhealth).trans ?_
    rw [hnew, LinkHealth.move, LinkHealth.newChannel, hhop]
    exact if_pos hcoop
  · rw [if_neg hnew]
    cases hn : (linkMove cfg s.e op).attempts? with
    | none =>
      -- nothing but a counted success moves the flag
      have harmed : (healthStep cfg s.e op).tp.linkDegradedArmed = s.e.tp.linkDegradedArmed :=
        (congrArg LinkHealth.degradedArmed hhealth).trans
          (LinkHealth.move_degradedArmed hhop _ hnew hn)
      rw [Option.any_none, if_neg Bool.false_ne_true, Option.isSome_none, Bool.false_and,
        Bool.or_false]
      exact harmed.trans hs
    | some n =>
      have hm := LinkMove.attempts?_eq_some hn
      obtain ⟨harmed, -⟩ := s.e.health.succeed_degradedArmed cfg hcoop n
      rw [hm] at hhealth
      have hmoved : (healthStep cfg s.e op).health = s.e.health.succeed cfg false n := hhealth
      rw [← linkDegradedCalls_eq hhop hm, ← hmoved] at harmed
      rw [Option.any_some, Option.isSome_some, Bool.true_and]
      cases hcalls : linkDegradedCalls cfg s.e n with
      | true =>
        rw [hcalls, Bool.true_or] at harmed
        exact harmed
      | false =>
        rw [hcalls, Bool.false_or] at harmed
        rw [if_neg Bool.false_ne_true]
        refine harmed.trans ?_
        rw [show s.e.health.degradedArmed = s.e.tp.linkDegradedArmed from rfl,
          show s.e.tp.linkDegradedArmed = (s.lastCall.isSome && !s.rearmed) from hs,
          Bool.and_assoc, ← Bool.not_or]
        rfl

/-- **A due call is made just when the count has been down.** -/
theorem Latched.stepCallsDegraded_eq (hcoop : cfg.coopHop = true) (hs : Latched s) {op : HealthOp}
    (hdue : callDue cfg s op = true) : stepCallsDegraded cfg s.e op = s.rearmed := by
  have hhop := cfg.coopHop_dep hcoop
  have hhealth := health_healthStep cfg s.e op
  unfold callDue at hdue
  unfold stepCallsDegraded
  cases hn : (linkMove cfg s.e op).attempts? with
  | none =>
    rw [hn] at hdue
    exact absurd hdue (by simp)
  | some n =>
    have hm := LinkMove.attempts?_eq_some hn
    rw [hn, Bool.and_eq_true, Bool.and_eq_true, Bool.and_eq_true] at hdue
    obtain ⟨⟨⟨-, -⟩, hhigh⟩, hcall⟩ := hdue
    -- a due call finds the link degraded, so the flag alone decides
    have hsome : s.lastCall.isSome = true := by
      cases hlast : s.lastCall with
      | none =>
        rw [hlast] at hcall
        exact absurd hcall Bool.false_ne_true
      | some call => rfl
    have hcount : (healthStep cfg s.e op).tp.linkQualityCount =
        (s.e.health.record cfg (UInt8.ofNat n) (1 < n)).count := by
      rw [hm] at hhealth
      exact (congrArg LinkHealth.count hhealth).trans
        (s.e.health.succeed_degradedArmed cfg hcoop n).2
    have hdegraded : (s.e.health.record cfg (UInt8.ofNat n) (1 < n)).degraded cfg = true := by
      rw [countHigh, hcount] at hhigh
      exact decide_eq_true (Or.inl (of_decide_eq_true hhigh))
    have harmed : (s.e.health.record cfg (UInt8.ofNat n) (1 < n)).degradedArmed =
        (s.lastCall.isSome && !s.rearmed) := hs
    rw [Option.any_some, linkDegradedCalls_eq hhop hm, LinkHealth.callsDegraded, hcoop, harmed,
      hdegraded, hsome, Bool.true_and, Bool.true_and, Bool.not_not, Bool.and_true]

theorem latched_start (deviceId : List UInt8) (saved : Option PairedRec) :
    Latched { e := Endpoint.start cfg deviceId saved } :=
  congrArg LinkHealth.degradedArmed (health_start cfg deviceId saved)

/-- **A link that stays degraded is not reported again**, where the count
has to fall below the threshold to re-arm. -/
theorem not_dueRearmed_of_lt (hlt : cfg.linkDegradedRearm < cfg.linkDegradedThreshold)
    (deviceId : List UInt8) (saved : Option PairedRec) (ops : List HealthOp) :
    Guarded (degradedStep cfg) (fun s op => callDue cfg s op = true → s.rearmed = false)
      { e := Endpoint.start cfg deviceId saved } ops := by
  -- a count that has stayed high has not been down
  refine Guarded.of_invariant (I := fun s => s.stayed = true → s.rearmed = false)
    (C := fun _ _ => True) (fun s op hs _ => ?_) (fun s op hs _ hdue => ?_) (fun h => ?_)
    (Guarded.of_forall fun _ _ => trivial)
  · unfold degradedStep
    dsimp only
    split
    · exact fun h => absurd h Bool.false_ne_true
    · split
      · exact fun _ => rfl
      · intro hstayed
        obtain ⟨hstayed, hhigh⟩ := Bool.and_eq_true_iff.1 hstayed
        have habove := of_decide_eq_true hhigh
        have hdown :
            ¬ (healthStep cfg s.e op).tp.linkQualityCount.toNat ≤ cfg.linkDegradedRearm := by
          omega
        dsimp only
        rw [hs hstayed, decide_eq_false hdown, Bool.and_false, Bool.or_false]
  · unfold callDue at hdue
    rw [Bool.and_eq_true, Bool.and_eq_true, Bool.and_eq_true] at hdue
    exact hs hdue.1.1.2
  · exact absurd h Bool.false_ne_true

/-- **In every run** due calls are made just when each finds that the
count has been down to `LINK_DEGRADED_REARM` since the last, which none
does where that is below the threshold; and a call reaches the hop
manager. -/
theorem retriggers_iff (hcoop : cfg.coopHop = true) (deviceId : List UInt8)
    (saved : Option PairedRec) (ops : List HealthOp) :
    (Guarded (degradedStep cfg) (Retriggers cfg) { e := Endpoint.start cfg deviceId saved } ops ↔
      Guarded (degradedStep cfg) (DueRearmed cfg)
        { e := Endpoint.start cfg deviceId saved } ops) ∧
      (cfg.linkDegradedRearm < cfg.linkDegradedThreshold →
        Guarded (degradedStep cfg) (fun s op => callDue cfg s op = true → s.rearmed = false)
          { e := Endpoint.start cfg deviceId saved } ops) ∧
      Guarded (degradedStep cfg) (fun s => SuccessReaches cfg s.e)
        { e := Endpoint.start cfg deviceId saved } ops := by
  refine ⟨guarded_congr (I := Latched) (fun s op hs => hs.step hcoop op) (fun s op hs => ?_)
    (latched_start deviceId saved), fun hlt => not_dueRearmed_of_lt hlt deviceId saved ops,
    Guarded.of_forall fun s => successReaches (cfg.coopHop_dep hcoop) s.e⟩
  exact forall_congr' fun hdue => by rw [hs.stepCallsDegraded_eq hcoop hdue]

/-- A link of which every third packet is retried. -/
def everyThird (n : Nat) : List HealthOp :=
  (List.range n).map fun i => .txSuccess (if i % 3 = 0 then 2 else 1)

/-- Re-armed above the threshold, the trigger is not latched off. -/
theorem retriggers_highRearm :
    Guarded (degradedStep { linkDegradedRearm := 12 }) (Retriggers { linkDegradedRearm := 12 })
      { e := Endpoint.start { linkDegradedRearm := 12 } [] none }
      (everyThird 29 ++ [.tick 2500, .txSuccess 2]) :=
  (retriggers_iff rfl [] none _).1.2 (by decide +kernel)

/-- **With the defaults it is latched off**: the count is at ten, and the
cooldown has passed since the call. -/
theorem not_retriggers :
    ¬ Guarded (degradedStep Config.default) (Retriggers Config.default)
      { e := Endpoint.start Config.default [] none }
      (everyThird 30 ++ [.tick 2500, .txSuccess 2]) := by
  decide +kernel

end EsbEndpoint
