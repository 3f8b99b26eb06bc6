import EsbEndpoint.Common.Deadline
import EsbEndpoint.Transport.Health

/-!
# The fail-window trigger

A counter says whether a failure is the first of its streak and a time
stamp what the window is measured from: the first failure, or the last
call. A run keeps the failures of the streak and the calls themselves, and
the trigger fires just when they say, as long as the counter has not come
round: after `2^32` failures the next one is taken for the first.
-/

namespace EsbEndpoint

variable (cfg : Config)

/-! ## Runs -/

/-- An endpoint, with the uptimes of the failures of the current streak,
of the fail-window calls made in it, and of all of these calls, latest
first. -/
structure StreakTrace where
  e : Endpoint
  failures : List Nat := []
  streakCalls : List Nat := []
  calls : List Nat := []

/-- A streak is broken by a success, a channel change or a reset. -/
def streakStep (s : StreakTrace) (op : HealthOp) : StreakTrace :=
  let e := healthStep cfg s.e op
  match linkMove cfg s.e op with
  | .rest | .tick _ => { s with e }
  | .succeed _ _ | .newChannel | .reset => { s with e, failures := [], streakCalls := [] }
  | .fail =>
    { e
      failures := s.e.uptime :: s.failures
      streakCalls :=
        if failWindowCalls cfg s.e then s.e.uptime :: s.streakCalls else s.streakCalls
      calls := if failWindowCalls cfg s.e then s.e.uptime :: s.calls else s.calls }

/-- A failure now is not the first of its streak, and comes a window after
that one and after every call made in the streak. -/
def WindowPassed (s : StreakTrace) : Prop :=
  ∃ first, s.failures.getLast? = some first ∧
    first + cfg.channelHopTxFailWindowMs ≤ s.e.uptime ∧
      ∀ call ∈ s.streakCalls, call + cfg.channelHopTxFailWindowMs ≤ s.e.uptime

/-- **The trigger fires exactly when it should**, and a window after any
call before. -/
structure FiresExactly (s : StreakTrace) : Prop where
  exact : failWindowCalls cfg s.e = true ↔ WindowPassed cfg s
  spaced : failWindowCalls cfg s.e = true →
    ∀ call ∈ s.calls, call + cfg.channelHopTxFailWindowMs ≤ s.e.uptime

/-- What is asked of a failure, of its uptime, and of its streak. -/
def FiresRight (s : StreakTrace) (op : HealthOp) : Prop :=
  linkMove cfg s.e op = .fail → FiresExactly cfg s

def InFirstTurn (s : StreakTrace) (op : HealthOp) : Prop :=
  linkMove cfg s.e op = .fail → 1 ≤ s.e.uptime ∧ s.e.uptime < 4294967296

def StreakCounted (s : StreakTrace) (op : HealthOp) : Prop :=
  linkMove cfg s.e op = .fail → s.failures.length < 4294967296

instance (s : StreakTrace) (op : HealthOp) : Decidable (InFirstTurn cfg s op) :=
  inferInstanceAs (Decidable (_ = _ → _ ∧ _))

instance (s : StreakTrace) (op : HealthOp) : Decidable (StreakCounted cfg s op) :=
  inferInstanceAs (Decidable (_ = _ → _ < _))

/-! ## The statics -/

namespace LinkHealth

variable (h : LinkHealth)

theorem succeed_counter (wasNoack : Bool) (n : Nat) :
    (h.succeed cfg wasNoack n).consecutiveTxFail = 0 ∧
      (h.succeed cfg wasNoack n).uptime = h.uptime := by
  cases hhop : cfg.channelHop with
  | false =>
    rw [succeed, hhop]
    exact ⟨rfl, rfl⟩
  | true =>
    cases wasNoack with
    | true =>
      rw [h.succeed_of_noack cfg hhop]
      exact ⟨rfl, rfl⟩
    | false =>
      obtain ⟨armed, hsucceed⟩ := h.succeed_eq cfg hhop n
      rw [hsucceed]
      exact ⟨rfl, rfl⟩

theorem newChannel_counter :
    (h.newChannel cfg).consecutiveTxFail = 0 ∧ (h.newChannel cfg).uptime = h.uptime := by
  unfold newChannel
  split
  · exact ⟨rfl, rfl⟩
  · exact ⟨rfl, rfl⟩

theorem fail_counter :
    (h.fail cfg).consecutiveTxFail = h.consecutiveTxFail + 1 ∧ (h.fail cfg).uptime = h.uptime := by
  cases hhop : cfg.channelHop with
  | false =>
    rw [fail, hhop]
    exact ⟨rfl, rfl⟩
  | true =>
    obtain ⟨first, stamp, hfail⟩ := h.fail_eq cfg hhop
    rw [hfail]
    exact ⟨rfl, rfl⟩

/-- The stamp is taken anew by the first failure and by every call. -/
theorem fail_firstFailMs (hhop : cfg.channelHop = true) :
    (h.fail cfg).firstFailMs =
      if h.consecutiveTxFail + 1 == 1 || h.callsFailWindow cfg then stampOf h.now
      else h.firstFailMs := by
  obtain ⟨stamp, hstamp⟩ := LinkHealth.checkWeakLink_eq cfg (h.checkFailWindow cfg)
  rw [fail, if_neg (by rw [hhop]; decide), hstamp]
  show (h.checkFailWindow cfg).firstFailMs = _
  unfold checkFailWindow
  split
  · rfl
  · rfl

end LinkHealth

/-! ## The invariant -/

/-- What a run keeps: the counter is the length of the streak, and within
one the stamp is the later of its first failure and its calls, which is
no earlier than any call. -/
structure Anchored (s : StreakTrace) : Prop where
  count : s.e.tp.consecutiveTxFail = UInt32.ofNat s.failures.length
  past : ∀ call ∈ s.calls, call ≤ s.e.uptime
  broken_nil : s.failures = [] → s.streakCalls = []
  anchor : ∀ first, s.failures.getLast? = some first →
    ∃ anchor, s.e.tp.firstFailMs = UInt32.ofNat anchor ∧
      1 ≤ anchor ∧ anchor < 4294967296 ∧ anchor ≤ s.e.uptime ∧
      (anchor = first ∨ anchor ∈ s.streakCalls) ∧
      first ≤ anchor ∧ (∀ call ∈ s.streakCalls, call ≤ anchor) ∧ ∀ call ∈ s.calls, call ≤ anchor

variable {cfg} {s : StreakTrace}

/-- Short of coming round, the counter tells a later failure from the
first. -/
theorem counter_ne_one {n : Nat} (hpos : 0 < n) (hn : n < 4294967296) :
    (UInt32.ofNat n + 1 == 1) = false := by
  rw [beq_eq_false_iff_ne, ofNat_add_ofNat]
  intro heq
  have htoNat := congrArg UInt32.toNat heq
  rw [UInt32.toNat_ofNat'] at htoNat
  have hmod : (n + 1) % 4294967296 = 1 := htoNat
  omega

/-- **Within the counter's range**, the trigger fires exactly when it
should. -/
theorem Anchored.firesExactly (ha : Anchored s) (hturn : s.e.uptime < 4294967296)
    (hcount : s.failures.length < 4294967296) : FiresExactly cfg s := by
  have hcalls : failWindowCalls cfg s.e = (s.e.tp.consecutiveTxFail + 1 != 1 &&
      (s.e.tp.firstFailMs != 0 &&
        decide (cfg.channelHopTxFailWindowMs ≤ elapsed s.e.tp.firstFailMs s.e.now))) := rfl
  rw [ha.count] at hcalls
  cases hfirst : s.failures.getLast? with
  | none =>
    -- the first of its streak brings the counter to one
    have hnil : s.failures = [] := List.getLast?_eq_none_iff.1 hfirst
    rw [hnil] at hcalls
    have hnot : failWindowCalls cfg s.e = false := hcalls
    refine ⟨iff_of_false (by rw [hnot]; exact Bool.false_ne_true) ?_,
      fun h => absurd (hnot.symm.trans h) Bool.false_ne_true⟩
    rintro ⟨first, hsome, -⟩
    exact absurd (hfirst.symm.trans hsome) (by simp)
  | some first =>
    -- a later one is measured from the anchor
    obtain ⟨anchor, hstamp, hpos, hlt, hle, hanchor, hafter, hstreak, hall⟩ :=
      ha.anchor first hfirst
    have hlength : 0 < s.failures.length := by
      rw [List.length_pos_iff]
      rintro hnil
      rw [hnil] at hfirst
      exact absurd hfirst (by simp)
    have hone : (UInt32.ofNat s.failures.length + 1 != 1) = true := by
      rw [bne, counter_ne_one hlength hcount, Bool.not_false]
    have hset : (UInt32.ofNat anchor != 0) = true := by
      rw [bne_iff_ne, ne_eq, ofNat_eq_zero_iff]
      omega
    have hfires : failWindowCalls cfg s.e = true ↔
        anchor + cfg.channelHopTxFailWindowMs ≤ s.e.uptime := by
      rw [hcalls, hone, hstamp, hset, Bool.true_and, Bool.true_and, decide_eq_true_eq,
        Endpoint.now, elapsed_ofNat hle (by omega)]
      omega
    refine ⟨hfires.trans ⟨fun h => ⟨first, hfirst, by omega, fun call hc => ?_⟩, ?_⟩,
      fun h call hc => ?_⟩
    · have := hstreak call hc
      omega
    · rintro ⟨first', hfirst', hpassed, hcallsPassed⟩
      rw [hfirst, Option.some.injEq] at hfirst'
      obtain rfl | hmem := hanchor
      · omega
      · exact hcallsPassed anchor hmem
    · have := hall call hc
      have := hfires.1 h
      omega

/-- A step that leaves the streak alone. -/
theorem Anchored.rest {e' : Endpoint} (ha : Anchored s)
    (hcount : e'.tp.consecutiveTxFail = s.e.tp.consecutiveTxFail)
    (hstamp : e'.tp.firstFailMs = s.e.tp.firstFailMs) (htime : s.e.uptime ≤ e'.uptime) :
    Anchored { s with e := e' } where
  count := hcount.trans ha.count
  past call hc := Nat.le_trans (ha.past call hc) htime
  broken_nil := ha.broken_nil
  anchor first hfirst := by
    obtain ⟨anchor, hanchor, hpos, hlt, hle, hrest⟩ := ha.anchor first hfirst
    exact ⟨anchor, hstamp.trans hanchor, hpos, hlt, Nat.le_trans hle htime, hrest⟩

/-- One that breaks it. -/
theorem Anchored.broken {e' : Endpoint} (ha : Anchored s)
    (hcount : e'.tp.consecutiveTxFail = 0) (htime : e'.uptime = s.e.uptime) :
    Anchored { s with e := e', failures := [], streakCalls := [] } where
  count := hcount
  past call hc := htime ▸ ha.past call hc
  broken_nil _ := rfl
  anchor first hfirst := absurd hfirst (by simp)

/-- And a failure. -/
theorem Anchored.failure {e' : Endpoint} (hhop : cfg.channelHop = true) (ha : Anchored s)
    (hpos : 1 ≤ s.e.uptime) (hturn : s.e.uptime < 4294967296)
    (hlength : s.failures.length < 4294967296) (he : e'.health = s.e.health.fail cfg) :
    Anchored
      { e := e'
        failures := s.e.uptime :: s.failures
        streakCalls :=
          if failWindowCalls cfg s.e then s.e.uptime :: s.streakCalls else s.streakCalls
        calls := if failWindowCalls cfg s.e then s.e.uptime :: s.calls else s.calls } := by
  obtain ⟨hcounter, huptime⟩ := s.e.health.fail_counter cfg
  have hstamp := s.e.health.fail_firstFailMs cfg hhop
  rw [← he] at hcounter huptime hstamp
  have htime : e'.uptime = s.e.uptime := huptime
  have hnow : stampOf s.e.health.now = UInt32.ofNat s.e.uptime := stampOf_ofNat hpos hturn
  have hfires : s.e.health.callsFailWindow cfg = failWindowCalls cfg s.e := rfl
  have hpast : ∀ call ∈ (if failWindowCalls cfg s.e then s.e.uptime :: s.calls else s.calls),
      call ≤ s.e.uptime := by
    intro call hc
    split at hc
    · obtain rfl | hc := List.mem_cons.1 hc
      · exact le_refl _
      · exact ha.past call hc
    · exact ha.past call hc
  have hcount : s.e.health.consecutiveTxFail = UInt32.ofNat s.failures.length := ha.count
  rw [hnow, hfires] at hstamp
  refine ⟨?_, fun call hc => htime ▸ hpast call hc, fun hnil => absurd hnil (by simp), ?_⟩
  · refine hcounter.trans ?_
    rw [hcount]
    exact ofNat_add_ofNat _ 1
  · intro first hfirst
    cases hfailures : s.failures with
    | nil =>
      -- the first of its streak is its anchor
      have hone : (s.e.health.consecutiveTxFail + 1 == 1) = true := by
        rw [hcount, hfailures]
        rfl
      rw [hone, Bool.true_or, if_pos rfl] at hstamp
      rw [hfailures, List.getLast?_singleton, Option.some.injEq] at hfirst
      refine ⟨s.e.uptime, hstamp, hpos, hturn, htime ▸ le_refl _, Or.inl hfirst,
        hfirst ▸ le_refl _, fun call hc => ?_, hpast⟩
      rw [ha.broken_nil hfailures] at hc
      split at hc
      · exact Nat.le_of_eq (List.mem_singleton.1 hc)
      · exact absurd hc List.not_mem_nil
    | cons failure failures =>
      have hlater : s.failures.getLast? = some first := by
        rw [hfailures, List.getLast?_cons_cons] at hfirst
        rw [hfailures]
        exact hfirst
      obtain ⟨anchor, hanchor, hapos, halt, hale, hor, hafter, hstreak, hall⟩ :=
        ha.anchor first hlater
      have hone : (s.e.health.consecutiveTxFail + 1 == 1) = false := by
        rw [hcount]
        exact counter_ne_one (by rw [hfailures]; exact Nat.succ_pos _) hlength
      rw [hone, Bool.false_or] at hstamp
      by_cases hc : failWindowCalls cfg s.e = true
      · -- the call moves the anchor here
        rw [if_pos hc] at hstamp
        refine ⟨s.e.uptime, hstamp, hpos, hturn, htime ▸ le_refl _, Or.inr ?_,
          Nat.le_trans hafter hale, ?_, hpast⟩
        · rw [if_pos hc]
          exact List.mem_cons_self
        · intro call hcall
          rw [if_pos hc] at hcall
          obtain rfl | hcall := List.mem_cons.1 hcall
          · exact le_refl _
          · exact Nat.le_trans (hstreak call hcall) hale
      · -- without one it stays
        rw [if_neg hc] at hstamp
        simp only [if_neg hc]
        exact ⟨anchor, hstamp.trans hanchor, hapos, halt, htime ▸ hale, hor, hafter, hstreak, hall⟩

/-- **One step.** -/
theorem Anchored.step (hhop : cfg.channelHop = true) {op : HealthOp} (ha : Anchored s)
    (hturn : InFirstTurn cfg s op) (hcounted : StreakCounted cfg s op) :
    Anchored (streakStep cfg s op) := by
  have hhealth := health_healthStep cfg s.e op
  unfold InFirstTurn at hturn
  unfold StreakCounted at hcounted
  unfold streakStep
  dsimp only
  generalize hm : linkMove cfg s.e op = m at hhealth hturn hcounted
  have hcount := congrArg LinkHealth.consecutiveTxFail hhealth
  have hstamp := congrArg LinkHealth.firstFailMs hhealth
  have htime := congrArg LinkHealth.uptime hhealth
  cases m with
  | rest => exact ha.rest hcount hstamp (Nat.le_of_eq htime.symm)
  | tick ms => exact ha.rest hcount hstamp (Nat.le_trans (Nat.le_add_right _ ms) htime.ge)
  | succeed wasNoack n =>
    obtain ⟨hzero, hsame⟩ := s.e.health.succeed_counter cfg wasNoack n
    exact ha.broken (hcount.trans hzero) (htime.trans hsame)
  | newChannel =>
    obtain ⟨hzero, hsame⟩ := s.e.health.newChannel_counter cfg
    exact ha.broken (hcount.trans hzero) (htime.trans hsame)
  | reset => exact ha.broken hcount htime
  | fail =>
    obtain ⟨hpos, hlt⟩ := hturn rfl
    exact ha.failure hhop hpos hlt (hcounted rfl) hhealth

theorem anchored_start (deviceId : List UInt8) (saved : Option PairedRec) :
    Anchored { e := Endpoint.start cfg deviceId saved } where
  count := congrArg LinkHealth.consecutiveTxFail (health_start cfg deviceId saved)
  past call hc := absurd hc List.not_mem_nil
  broken_nil _ := rfl
  anchor first hfirst := absurd hfirst (by simp)

/-! ## Runs -/

/-- **In every run** whose streaks stay within the counter's range, the
fail-window trigger fires exactly when it should, and where it fires the
hop manager is called. -/
theorem firesExactly_run (hhop : cfg.channelHop = true) (deviceId : List UInt8)
    (saved : Option PairedRec) (ops : List HealthOp)
    (hturn : Guarded (streakStep cfg) (InFirstTurn cfg)
      { e := Endpoint.start cfg deviceId saved } ops)
    (hcounted : Guarded (streakStep cfg) (StreakCounted cfg)
      { e := Endpoint.start cfg deviceId saved } ops) :
    Guarded (streakStep cfg) (FiresRight cfg) { e := Endpoint.start cfg deviceId saved } ops ∧
      Guarded (streakStep cfg) (fun s => FailReaches cfg s.e)
        { e := Endpoint.start cfg deviceId saved } ops :=
  ⟨(hturn.and hcounted).of_invariant (fun _ _ ha hc => ha.step hhop hc.1 hc.2)
      (fun _ _ ha hc hm => ha.firesExactly (hc.1 hm).2 (hc.2 hm)) (anchored_start deviceId saved),
    Guarded.of_forall fun s => failReaches hhop s.e⟩

/-- With the defaults, the second of two failures a window apart. -/
theorem firesExactly_two :
    Guarded (streakStep Config.default) (FiresRight Config.default)
      { e := Endpoint.start Config.default [] none } [.tick 1, .txFailed, .tick 32, .txFailed] :=
  (firesExactly_run rfl [] none _ (by decide +kernel) (by decide +kernel)).1

/-! ## When the counter comes round -/

/-- Failures in one millisecond, and another a window later. -/
def failuresAtOnce (n : Nat) : List HealthOp :=
  .tick 1 :: (List.replicate n .txFailed ++ [.tick 32, .txFailed])

/-- What the failures of the first millisecond leave. -/
structure AtOnce (n : Nat) (s : StreakTrace) : Prop where
  uptime : s.e.uptime = 1
  quiet : syncing Config.default s.e = false
  length : s.failures.length = n
  failures : ∀ failure ∈ s.failures, failure = 1
  calls : ∀ call ∈ s.streakCalls, call = 1
  count : s.e.tp.consecutiveTxFail = UInt32.ofNat n

theorem linkMove_txFailed {e : Endpoint} (hquiet : syncing cfg e = false) :
    linkMove cfg e .txFailed = .fail :=
  if_neg (by rw [hquiet]; exact Bool.false_ne_true)

theorem syncing_txFailed {e : Endpoint} (hquiet : syncing cfg e = false) :
    syncing cfg (healthStep cfg e .txFailed) = false := by
  have hpath := path_onTxFailed cfg (e.mapTp fun tp => { tp with lastTxEventMs := stampOf e.now })
  have hstep : healthStep cfg e .txFailed =
      onTxFailed cfg (e.mapTp fun tp => { tp with lastTxEventMs := stampOf e.now }) :=
    if_neg (by
      show ¬ syncing cfg e = true
      rw [hquiet]
      exact Bool.false_ne_true)
  rw [hstep]
  refine (congrArg TxPath.syncing hpath).trans ?_
  dsimp only
  split
  · exact hquiet
  · exact hquiet

theorem AtOnce.step {n : Nat} {s : StreakTrace} (h : AtOnce n s) :
    AtOnce (n + 1) (streakStep Config.default s .txFailed) := by
  have hm := linkMove_txFailed h.quiet
  have hhealth := health_healthStep Config.default s.e .txFailed
  rw [hm] at hhealth
  obtain ⟨hcounter, huptime⟩ := s.e.health.fail_counter Config.default
  unfold streakStep
  rw [hm]
  refine ⟨(congrArg LinkHealth.uptime hhealth).trans (huptime.trans h.uptime),
    syncing_txFailed h.quiet, congrArg Nat.succ h.length, ?_, ?_, ?_⟩
  · intro failure hmem
    obtain rfl | hmem := List.mem_cons.1 hmem
    · exact h.uptime
    · exact h.failures failure hmem
  · intro call hmem
    dsimp only at hmem
    split at hmem
    · obtain rfl | hmem := List.mem_cons.1 hmem
      · exact h.uptime
      · exact h.calls call hmem
    · exact h.calls call hmem
  · refine (congrArg LinkHealth.consecutiveTxFail hhealth).trans (hcounter.trans ?_)
    rw [show s.e.health.consecutiveTxFail = UInt32.ofNat n from h.count]
    exact ofNat_add_ofNat n 1

theorem AtOnce.run {k n : Nat} {s : StreakTrace} (h : AtOnce k s) :
    AtOnce (k + n) (runFrom (streakStep Config.default) s (List.replicate n .txFailed)) ∧
      Guarded (streakStep Config.default) (InFirstTurn Config.default) s
        (List.replicate n .txFailed) := by
  induction n generalizing k s with
  | zero => exact ⟨h, trivial⟩
  | succ n ih =>
    obtain ⟨hrun, hturn⟩ := ih h.step
    rw [Nat.add_assoc, Nat.add_comm 1] at hrun
    refine ⟨hrun, fun _ => ?_, hturn⟩
    rw [h.uptime]
    decide

/-- **After as many failures as the counter has values**, the next is
taken for the first of its streak. -/
theorem not_firesRight_of_round {n : Nat} (hpos : 0 < n) (hround : UInt32.ofNat n = 0) :
    Guarded (streakStep Config.default) (InFirstTurn Config.default)
        { e := Endpoint.start Config.default [] none } (failuresAtOnce n) ∧
      ¬ Guarded (streakStep Config.default) (FiresRight Config.default)
        { e := Endpoint.start Config.default [] none } (failuresAtOnce n) := by
  have hstart : AtOnce 0 (streakStep Config.default
      { e := Endpoint.start Config.default [] none } (.tick 1)) :=
    ⟨rfl, rfl, rfl, fun _ h => absurd h List.not_mem_nil, fun _ h => absurd h List.not_mem_nil, rfl⟩
  obtain ⟨hrun, hturn⟩ := @AtOnce.run 0 n _ hstart
  rw [Nat.zero_add] at hrun
  -- the state a window after the last of them
  generalize hlast : runFrom (streakStep Config.default) (streakStep Config.default
    { e := Endpoint.start Config.default [] none } (.tick 1)) (List.replicate n .txFailed) = s
    at hrun
  have huptime : (streakStep Config.default s (.tick 32)).e.uptime = 33 :=
    congrArg (· + 32) hrun.uptime
  have hmove : linkMove Config.default (streakStep Config.default s (.tick 32)).e .txFailed =
      .fail := linkMove_txFailed hrun.quiet
  refine ⟨⟨fun h => absurd h (by decide), guarded_append.2 ⟨hturn, ?_⟩⟩, ?_⟩
  · rw [hlast]
    refine ⟨fun h => LinkMove.noConfusion h, fun _ => ?_, trivial⟩
    rw [huptime]
    decide
  · rintro ⟨-, hguarded⟩
    obtain ⟨-, hguarded⟩ := guarded_append.1 hguarded
    rw [hlast] at hguarded
    obtain ⟨-, hright, -⟩ := hguarded
    -- the counter reads zero, so this failure brings it to one
    have hquiet : failWindowCalls Config.default
        (streakStep Config.default s (.tick 32)).e = false := by
      have hone : ((streakStep Config.default s (.tick 32)).e.tp.consecutiveTxFail + 1 != 1) =
          false := by
        rw [show (streakStep Config.default s (.tick 32)).e.tp.consecutiveTxFail =
          UInt32.ofNat n from hrun.count, hround]
        rfl
      exact (congrArg (· && _) hone).trans rfl
    have hpassed : WindowPassed Config.default (streakStep Config.default s (.tick 32)) := by
      have hne : s.failures ≠ [] := List.length_pos_iff.1 (by rw [hrun.length]; exact hpos)
      obtain ⟨first, hfirst⟩ : ∃ first, s.failures.getLast? = some first :=
        ⟨_, List.getLast?_eq_some_getLast hne⟩
      have hone := hrun.failures first (List.mem_of_getLast? hfirst)
      refine ⟨first, hfirst, ?_, fun call hc => ?_⟩
      · rw [huptime, hone]
        decide
      · rw [huptime, hrun.calls call hc]
        decide
    exact absurd (hquiet.symm.trans ((hright hmove).exact.2 hpassed)) (by decide)

/-- **The trigger does not fire exactly when it should**: not on the
failure after `2^32` failures in one millisecond. -/
theorem not_firesExactly_run :
    Guarded (streakStep Config.default) (InFirstTurn Config.default)
        { e := Endpoint.start Config.default [] none } (failuresAtOnce 4294967296) ∧
      ¬ Guarded (streakStep Config.default) (FiresRight Config.default)
        { e := Endpoint.start Config.default [] none } (failuresAtOnce 4294967296) :=
  not_firesRight_of_round (by decide) rfl

end EsbEndpoint
