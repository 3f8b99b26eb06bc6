import EsbEndpoint.Transport.Health
import EsbEndpoint.Transport.Retry

/-!
# The adaptive retransmit controller

The controller steers by an average of the attempts a delivery took, times
ten: each counted success moves it an eighth of the way, rounded down, and
the target count is read off it between two breakpoints. Rounding down
pulls the average towards ten, which is where first-try deliveries leave
it.
-/

namespace EsbEndpoint

variable (cfg : Config)

/-- The attempts of a counted success lie between two bounds. -/
def LinkMove.AttemptsIn (lo hi : Nat) : LinkMove → Prop
  | .succeed false txAttempts => lo ≤ txAttempts ∧ txAttempts ≤ hi
  | _ => True

instance (lo hi : Nat) : (m : LinkMove) → Decidable (m.AttemptsIn lo hi)
  | .succeed false txAttempts => inferInstanceAs (Decidable (lo ≤ txAttempts ∧ txAttempts ≤ hi))
  | .succeed true _ => isTrue trivial
  | .rest => isTrue trivial
  | .fail => isTrue trivial
  | .newChannel => isTrue trivial
  | .reset => isTrue trivial
  | .tick _ => isTrue trivial

theorem LinkMove.AttemptsIn.mono {m : LinkMove} {lo hi hi' : Nat} (hm : m.AttemptsIn lo hi)
    (hle : hi ≤ hi') : m.AttemptsIn lo hi' := by
  cases m with
  | succeed wasNoack n =>
    cases wasNoack with
    | true => trivial
    | false => exact ⟨hm.1, Nat.le_trans hm.2 hle⟩
  | _ => trivial

/-- A success that is counted. -/
def LinkMove.counted : LinkMove → Bool
  | .succeed false _ => true
  | _ => false

/-- **The controller is bounded and recovers**: the average is that of
deliveries of one to sixteen attempts and is updated without a wrap, the
target lies between its bounds, and after enough first-try successes both
are at their lowest. -/
structure Adapts (e : Endpoint) : Prop where
  ewma : 10 ≤ e.tp.linkQualityEwmaX10.toNat ∧ e.tp.linkQualityEwmaX10.toNat ≤ 160
  update : ∀ n retryBit, 1 ≤ n → n ≤ 16 →
    (linkQualityRecord cfg (UInt8.ofNat n) retryBit e.tp).linkQualityEwmaX10.toNat =
      (e.tp.linkQualityEwmaX10.toNat * 7 + n * 10) / 8
  target : cfg.adaptiveRetryCountMin ≤ adaptiveRetryTarget cfg e.tp.linkQualityEwmaX10 ∧
    adaptiveRetryTarget cfg e.tp.linkQualityEwmaX10 ≤ cfg.adaptiveRetryCountMax
  recovers : ∀ ops : List HealthOp, (∀ m ∈ linkMoves cfg e ops, m.AttemptsIn 1 1) →
    150 ≤ (linkMoves cfg e ops).countP LinkMove.counted →
    (runFrom (healthStep cfg) e ops).tp.linkQualityEwmaX10 = 10 ∧
      adaptiveRetryTarget cfg (runFrom (healthStep cfg) e ops).tp.linkQualityEwmaX10 =
        cfg.adaptiveRetryCountMin

/-- **The target, in whole numbers**: no step of the interpolation wraps,
and none divides by zero. -/
structure Interpolates : Prop where
  span_pos : 0 < cfg.adaptiveRetryEwmaHigh - cfg.adaptiveRetryEwmaLow
  value : ∀ ewmaX10 : UInt16, adaptiveRetryTarget cfg ewmaX10 =
    if ewmaX10.toNat ≤ cfg.adaptiveRetryEwmaLow then cfg.adaptiveRetryCountMin
    else if cfg.adaptiveRetryEwmaHigh ≤ ewmaX10.toNat then cfg.adaptiveRetryCountMax
    else cfg.adaptiveRetryCountMin +
      (ewmaX10.toNat - cfg.adaptiveRetryEwmaLow) *
        (cfg.adaptiveRetryCountMax - cfg.adaptiveRetryCountMin) /
          (cfg.adaptiveRetryEwmaHigh - cfg.adaptiveRetryEwmaLow)
  mono : ∀ a b : UInt16, a ≤ b → adaptiveRetryTarget cfg a ≤ adaptiveRetryTarget cfg b

/-! ## The target -/

section Target

variable {cfg} (hlow : cfg.adaptiveRetryEwmaLow < cfg.adaptiveRetryEwmaHigh)
  (hmin : cfg.adaptiveRetryCountMin ≤ cfg.adaptiveRetryCountMax)

/-- What the interpolation adds stays below the span of the counts. -/
theorem interpolation_le {into span counts : Nat} (h : into ≤ span) :
    into * counts / span ≤ counts := by
  have hle : into * counts ≤ counts * span := by
    rw [Nat.mul_comm counts]
    exact Nat.mul_le_mul_right counts h
  exact Nat.div_le_of_le_mul (Nat.mul_comm counts span ▸ hle)

include hlow hmin in
theorem adaptiveRetryTarget_eq (ewmaX10 : UInt16) : adaptiveRetryTarget cfg ewmaX10 =
    if ewmaX10.toNat ≤ cfg.adaptiveRetryEwmaLow then cfg.adaptiveRetryCountMin
    else if cfg.adaptiveRetryEwmaHigh ≤ ewmaX10.toNat then cfg.adaptiveRetryCountMax
    else cfg.adaptiveRetryCountMin +
      (ewmaX10.toNat - cfg.adaptiveRetryEwmaLow) *
        (cfg.adaptiveRetryCountMax - cfg.adaptiveRetryCountMin) /
          (cfg.adaptiveRetryEwmaHigh - cfg.adaptiveRetryEwmaLow) := by
  have hhigh := cfg.ewmaHigh_le
  have hmax := cfg.adaptiveCountMax_le
  unfold adaptiveRetryTarget
  dsimp only
  split
  · rfl
  · split
    · rfl
    · rename_i habove hbelow
      -- the ranges of the options keep the product and the sum small
      have hproduct : (ewmaX10.toNat - cfg.adaptiveRetryEwmaLow) *
          (cfg.adaptiveRetryCountMax - cfg.adaptiveRetryCountMin) ≤ 200 * 15 :=
        Nat.mul_le_mul (by omega) (by omega)
      have hdelta := @interpolation_le (ewmaX10.toNat - cfg.adaptiveRetryEwmaLow)
        (cfg.adaptiveRetryEwmaHigh - cfg.adaptiveRetryEwmaLow)
        (cfg.adaptiveRetryCountMax - cfg.adaptiveRetryCountMin) (by omega)
      rw [← UInt32.ofNat_sub (Nat.le_of_lt hlow), ← UInt32.ofNat_sub (Nat.le_of_not_le habove),
        ← UInt32.ofNat_sub hmin, ← UInt32.ofNat_mul, ← UInt32.ofNat_div (by omega) (by omega),
        ← UInt32.ofNat_add, UInt32.toNat_toUInt8, UInt32.toNat_ofNat']
      generalize (ewmaX10.toNat - cfg.adaptiveRetryEwmaLow) *
        (cfg.adaptiveRetryCountMax - cfg.adaptiveRetryCountMin) /
          (cfg.adaptiveRetryEwmaHigh - cfg.adaptiveRetryEwmaLow) = delta at hdelta ⊢
      omega

include hlow hmin in
theorem adaptiveRetryTarget_bounds (ewmaX10 : UInt16) :
    cfg.adaptiveRetryCountMin ≤ adaptiveRetryTarget cfg ewmaX10 ∧
      adaptiveRetryTarget cfg ewmaX10 ≤ cfg.adaptiveRetryCountMax := by
  rw [adaptiveRetryTarget_eq hlow hmin]
  split
  · exact ⟨le_refl _, hmin⟩
  · split
    · exact ⟨hmin, le_refl _⟩
    · have hdelta := @interpolation_le (ewmaX10.toNat - cfg.adaptiveRetryEwmaLow)
        (cfg.adaptiveRetryEwmaHigh - cfg.adaptiveRetryEwmaLow)
        (cfg.adaptiveRetryCountMax - cfg.adaptiveRetryCountMin) (by omega)
      exact ⟨Nat.le_add_right _ _, by omega⟩

include hlow hmin in
theorem adaptiveRetryTarget_mono {a b : UInt16} (hab : a ≤ b) :
    adaptiveRetryTarget cfg a ≤ adaptiveRetryTarget cfg b := by
  have hle : a.toNat ≤ b.toNat := UInt16.le_iff_toNat_le.1 hab
  by_cases ha : a.toNat ≤ cfg.adaptiveRetryEwmaLow
  · have hfloor : adaptiveRetryTarget cfg a = cfg.adaptiveRetryCountMin := if_pos ha
    rw [hfloor]
    exact (adaptiveRetryTarget_bounds hlow hmin b).1
  · by_cases hb : cfg.adaptiveRetryEwmaHigh ≤ b.toNat
    · have hceiling : adaptiveRetryTarget cfg b = cfg.adaptiveRetryCountMax := by
        rw [adaptiveRetryTarget_eq hlow hmin, if_neg (by omega), if_pos hb]
      rw [hceiling]
      exact (adaptiveRetryTarget_bounds hlow hmin a).2
    · -- both lie between the breakpoints
      rw [adaptiveRetryTarget_eq hlow hmin, adaptiveRetryTarget_eq hlow hmin, if_neg ha,
        if_neg (by omega), if_neg (by omega), if_neg hb]
      refine Nat.add_le_add_left (Nat.div_le_div_right ?_) _
      exact Nat.mul_le_mul_right _ (by omega)

end Target

/-! ## The average -/

section Average

variable (h : LinkHealth)

theorem ewma_update (x : UInt16) {n : Nat} (hx : x.toNat ≤ 160) (hn : n ≤ 16) :
    ((x.toUInt32 * 7 + ((UInt8.ofNat n).toUInt16 * 10).toUInt32) / 8).toUInt16.toNat =
      (x.toNat * 7 + n * 10) / 8 := by
  have hattempts : ((UInt8.ofNat n).toUInt16 * 10).toUInt32.toNat = n * 10 := by
    have hbyte : n % 2 ^ 8 = n := Nat.mod_eq_of_lt (by omega)
    rw [UInt16.toNat_toUInt32, UInt16.toNat_mul, UInt8.toNat_toUInt16, UInt8.toNat_ofNat', hbyte]
    exact Nat.mod_eq_of_lt (by show n * 10 < 65536; omega)
  have hseven : (x.toUInt32 * 7).toNat = x.toNat * 7 := by
    rw [UInt32.toNat_mul, UInt16.toNat_toUInt32]
    exact Nat.mod_eq_of_lt (by show x.toNat * 7 < 4294967296; omega)
  have hsum : (x.toUInt32 * 7 + ((UInt8.ofNat n).toUInt16 * 10).toUInt32).toNat =
      x.toNat * 7 + n * 10 := by
    rw [UInt32.toNat_add, hseven, hattempts, Nat.mod_eq_of_lt (by omega)]
  rw [UInt32.toNat_toUInt16, UInt32.toNat_div, hsum]
  exact Nat.mod_eq_of_lt (by show (x.toNat * 7 + n * 10) / 8 < 65536; omega)

/-- What a move makes of the average: a counted success updates it and a
channel change resets it. -/
theorem move_ewmaX10 (hhop : cfg.channelHop = true) (m : LinkMove) :
    (h.move cfg m).ewmaX10 =
      match m with
      | .succeed false n =>
        ((h.ewmaX10.toUInt32 * 7 + ((UInt8.ofNat n).toUInt16 * 10).toUInt32) / 8).toUInt16
      | .newChannel => 10
      | _ => h.ewmaX10 := by
  cases m with
  | succeed wasNoack n =>
    cases wasNoack with
    | true => rw [LinkHealth.move, h.succeed_of_noack cfg hhop]
    | false =>
      obtain ⟨armed, hsucceed⟩ := h.succeed_eq cfg hhop n
      rw [LinkHealth.move, hsucceed]
      rfl
  | fail =>
    obtain ⟨first, stamp, hfail⟩ := h.fail_eq cfg hhop
    rw [LinkHealth.move, hfail]
    rfl
  | newChannel =>
    rw [LinkHealth.move, LinkHealth.newChannel, hhop]
    rfl
  | _ => rfl

/-- The average stays between that of first-try deliveries and that of
deliveries at the radio's ceiling, -/
theorem ewma_move_bounds (hhop : cfg.channelHop = true) {m : LinkMove}
    (hm : m.AttemptsIn 1 16) (hx : 10 ≤ h.ewmaX10.toNat ∧ h.ewmaX10.toNat ≤ 160) :
    10 ≤ (h.move cfg m).ewmaX10.toNat ∧ (h.move cfg m).ewmaX10.toNat ≤ 160 := by
  rw [move_ewmaX10 cfg h hhop]
  cases m with
  | succeed wasNoack n =>
    cases wasNoack with
    | true => exact hx
    | false =>
      obtain ⟨hlo, hhi⟩ : 1 ≤ n ∧ n ≤ 16 := hm
      dsimp only
      rw [ewma_update h.ewmaX10 hx.2 hhi]
      omega
  | newChannel =>
    show 10 ≤ (10 : UInt16).toNat ∧ (10 : UInt16).toNat ≤ 160
    decide
  | _ => exact hx

/-- and first-try deliveries lower it until it is that of first-try
deliveries. -/
theorem ewma_move_firstTry (hhop : cfg.channelHop = true) {m : LinkMove}
    (hm : m.AttemptsIn 1 1) (hx : 10 ≤ h.ewmaX10.toNat ∧ h.ewmaX10.toNat ≤ 160) :
    (h.move cfg m).ewmaX10.toNat - 10 ≤ h.ewmaX10.toNat - 10 - m.counted.toNat := by
  rw [move_ewmaX10 cfg h hhop]
  cases m with
  | succeed wasNoack n =>
    cases wasNoack with
    | true => exact le_refl _
    | false =>
      obtain ⟨hlo, hhi⟩ : 1 ≤ n ∧ n ≤ 1 := hm
      dsimp only
      rw [ewma_update h.ewmaX10 hx.2 (Nat.le_trans hhi (by decide))]
      -- `(7 * x + 10) / 8` is below `x` as long as `x` is above ten
      show (h.ewmaX10.toNat * 7 + n * 10) / 8 - 10 ≤ h.ewmaX10.toNat - 10 - 1
      omega
  | newChannel => exact Nat.zero_le _
  | _ => exact le_refl _

theorem ewma_run_bounds (hhop : cfg.channelHop = true) {ms : List LinkMove}
    (hms : ∀ m ∈ ms, m.AttemptsIn 1 16) (hx : 10 ≤ h.ewmaX10.toNat ∧ h.ewmaX10.toNat ≤ 160) :
    10 ≤ (runFrom (LinkHealth.move cfg) h ms).ewmaX10.toNat ∧
      (runFrom (LinkHealth.move cfg) h ms).ewmaX10.toNat ≤ 160 := by
  induction ms generalizing h with
  | nil => exact hx
  | cons m ms ih =>
    obtain ⟨hm, hms⟩ := List.forall_mem_cons.1 hms
    exact ih _ hms (ewma_move_bounds cfg h hhop hm hx)

theorem ewma_run_firstTry (hhop : cfg.channelHop = true) {ms : List LinkMove}
    (hms : ∀ m ∈ ms, m.AttemptsIn 1 1) (hx : 10 ≤ h.ewmaX10.toNat ∧ h.ewmaX10.toNat ≤ 160) :
    (runFrom (LinkHealth.move cfg) h ms).ewmaX10.toNat - 10 ≤
      h.ewmaX10.toNat - 10 - ms.countP LinkMove.counted := by
  induction ms generalizing h with
  | nil => exact le_refl _
  | cons m ms ih =>
    obtain ⟨hm, hms⟩ := List.forall_mem_cons.1 hms
    have hstep := ewma_move_firstTry cfg h hhop hm hx
    have hrest := ih _ hms (ewma_move_bounds cfg h hhop (hm.mono (by decide)) hx)
    rw [runFrom_cons, List.countP_cons]
    cases hc : m.counted with
    | true =>
      rw [hc, Bool.toNat_true] at hstep
      rw [if_pos rfl]
      omega
    | false =>
      rw [hc, Bool.toNat_false] at hstep
      rw [if_neg Bool.false_ne_true]
      omega

end Average

/-! ## Runs -/

/-- Enough first-try deliveries bring the average down to ten. -/
theorem ewma_recovers (hhop : cfg.channelHop = true) {e : Endpoint}
    (hx : 10 ≤ e.health.ewmaX10.toNat ∧ e.health.ewmaX10.toNat ≤ 160) {ops : List HealthOp}
    (hfirst : ∀ m ∈ linkMoves cfg e ops, m.AttemptsIn 1 1)
    (hcount : 150 ≤ (linkMoves cfg e ops).countP LinkMove.counted) :
    (runFrom (healthStep cfg) e ops).tp.linkQualityEwmaX10 = 10 := by
  have hbounds := ewma_run_bounds cfg e.health hhop
    (fun m hm => (hfirst m hm).mono (by decide)) hx
  have hlow := ewma_run_firstTry cfg e.health hhop hfirst hx
  rw [← health_run] at hbounds hlow
  refine UInt16.toNat_inj.1 ?_
  show (runFrom (healthStep cfg) e ops).health.ewmaX10.toNat = 10
  -- at most 150 above ten, and one less with each of them
  omega

/-- **In every run** the controller is bounded and recovers, and its
target is the interpolation, which is monotone. -/
theorem adapts_run (hlow : cfg.adaptiveRetryEwmaLow < cfg.adaptiveRetryEwmaHigh)
    (hmin : cfg.adaptiveRetryCountMin ≤ cfg.adaptiveRetryCountMax)
    (hhop : cfg.channelHop = true) (deviceId : List UInt8) (saved : Option PairedRec)
    (ops : List HealthOp)
    (hattempts : ∀ m ∈ linkMoves cfg (Endpoint.start cfg deviceId saved) ops,
      m.AttemptsIn 1 16) :
    Adapts cfg (runFrom (healthStep cfg) (Endpoint.start cfg deviceId saved) ops) ∧
      Interpolates cfg := by
  have hstart : 10 ≤ (LinkHealth.start cfg).ewmaX10.toNat ∧
      (LinkHealth.start cfg).ewmaX10.toNat ≤ 160 := by
    unfold LinkHealth.start
    rw [hhop]
    decide
  have hbounds := ewma_run_bounds cfg (Endpoint.start cfg deviceId saved).health hhop hattempts
    (health_start cfg deviceId saved ▸ hstart)
  rw [← health_run] at hbounds
  refine ⟨⟨hbounds, ?_, adaptiveRetryTarget_bounds hlow hmin _, ?_⟩,
    ⟨Nat.sub_pos_of_lt hlow, adaptiveRetryTarget_eq hlow hmin,
      fun a b hab => adaptiveRetryTarget_mono hlow hmin hab⟩⟩
  · intro n retryBit _ hn
    exact ewma_update _ hbounds.2 hn
  · intro later hfirst hcount
    have hten := ewma_recovers cfg hhop hbounds hfirst hcount
    refine ⟨hten, ?_⟩
    rw [hten]
    exact if_pos cfg.ewmaLow_ge

/-- With the defaults, after a delivery at the radio's ceiling, a failure
and a change of channel. -/
theorem adapts_default :
    Adapts Config.default (runFrom (healthStep Config.default)
      (Endpoint.start Config.default [] none)
      [.txSuccess 1, .txSuccess 16, .txFailed, .setChannel 40, .txSuccess 3]) ∧
      Interpolates Config.default :=
  adapts_run Config.default (by decide) (by decide) rfl [] none _ (by decide +kernel)

end EsbEndpoint
