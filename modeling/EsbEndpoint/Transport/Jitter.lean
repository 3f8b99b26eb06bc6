import EsbEndpoint.Common.Run
import EsbEndpoint.Common.Xorshift
import EsbEndpoint.Transport.Send

/-!
# The jittered retransmit delay

Each send moves the retransmit delay by up to an eighth of its base, by a
byte of `m_jitter_rng`. The floor below is 100, and the library refuses
what is below 435: a base that an eighth takes below that is refused on
some of the draws, and on none from 497 on (`delaysSound_iff`).
-/

namespace EsbEndpoint

/-! ## Scaled bytes -/

/-- A byte read as `int8_t`, 128 at most. -/
theorem natAbs_toInt8_le (x : Int8) : x.toInt.natAbs ≤ 128 := by
  have hle := x.le_toInt
  have hlt := x.toInt_lt
  omega

/-- `((int32_t)span * off) / 128` is `span` at most. -/
theorem natAbs_scaled_le {off : Int} (h : off.natAbs ≤ 128) (span : Nat) :
    ((span * off).tdiv 128).natAbs ≤ span := by
  rw [Int.natAbs_tdiv, Int.natAbs_mul, Int.natAbs_natCast]
  exact Nat.div_le_of_le_mul (by rw [Nat.mul_comm]; exact Nat.mul_le_mul_right span h)

variable (cfg : Config)

/-! ## The calls -/

/-- The delay a draw gives, before the cap of `uint16_t`. -/
def uncappedRetransmitDelay (rng : UInt32) : Int :=
  let off : Int := (rng &&& 0xFF).toUInt8.toInt8.toInt
  let d : Int := cfg.retransmitDelayUs + ((cfg.retransmitDelayUs / 8 : Nat) * off).tdiv 128
  if d < 100 then 100 else d

/-- `m_jitter_rng` after a call. -/
def jitterStep (rng now : UInt32) : UInt32 := (jitteredRetransmitDelay cfg now rng).2

/-- **A delay is sound**: the generator is not left at zero, the delay is
within an eighth of its base but for the cap, and an idle radio takes it. -/
structure DelaySound (rng now : UInt32) : Prop where
  rng_ne : jitterStep cfg rng now ≠ 0
  in_band : (uncappedRetransmitDelay cfg (jitterStep cfg rng now) -
    cfg.retransmitDelayUs).natAbs ≤ cfg.retransmitDelayUs / 8
  capped : ((jitteredRetransmitDelay cfg now rng).1 : Int) =
    min (uncappedRetransmitDelay cfg (jitterStep cfg rng now)) 65535
  accepted : ∀ r : Radio, r.state = .idle →
    (esbSetRetransmitDelay r (jitteredRetransmitDelay cfg now rng).1).2 = none

variable {cfg} {rng now : UInt32}

theorem jitterSeed_ne_zero (now : UInt32) : jitterSeed cfg now ≠ 0 := by
  unfold jitterSeed
  split
  · decide
  · rename_i hseed
    exact fun h => hseed (beq_iff_eq.2 h)

/-- **The generator is never left at zero**: it is seeded with another
state first. -/
theorem jitterStep_ne_zero (rng now : UInt32) : jitterStep cfg rng now ≠ 0 := by
  refine xorshift32_ne_zero ?_
  split
  · exact jitterSeed_ne_zero now
  · rename_i hseeded
    exact fun h => hseeded (beq_iff_eq.2 h)

/-- A state other than zero is stepped as it is. -/
theorem jitterStep_of_ne_zero (hrng : rng ≠ 0) (now : UInt32) :
    jitterStep cfg rng now = xorshift32 rng := by
  have hseeded : ¬(rng == 0) = true := fun h => hrng (beq_iff_eq.1 h)
  exact congrArg xorshift32 (if_neg hseeded)

theorem uncapped_ge (rng : UInt32) : 100 ≤ uncappedRetransmitDelay cfg rng := by
  unfold uncappedRetransmitDelay
  dsimp only
  split
  · exact Int.le_refl _
  · omega

theorem jitteredRetransmitDelay_fst (rng now : UInt32) :
    ((jitteredRetransmitDelay cfg now rng).1 : Int) =
      min (uncappedRetransmitDelay cfg (jitterStep cfg rng now)) 65535 := by
  have hge := @uncapped_ge cfg (jitterStep cfg rng now)
  have hcap : (jitteredRetransmitDelay cfg now rng).1 =
      (if 65535 < uncappedRetransmitDelay cfg (jitterStep cfg rng now) then 65535
        else uncappedRetransmitDelay cfg (jitterStep cfg rng now)).toNat := rfl
  rw [hcap]
  split
  · omega
  · omega

/-- **The band**: where an eighth below the base is no less than the floor,
no draw leaves it. -/
theorem uncapped_in_band (hbase : 114 ≤ cfg.retransmitDelayUs) (rng : UInt32) :
    (uncappedRetransmitDelay cfg rng - cfg.retransmitDelayUs).natAbs ≤
      cfg.retransmitDelayUs / 8 := by
  have hoff := natAbs_scaled_le (natAbs_toInt8_le (rng &&& 0xFF).toUInt8.toInt8)
    (cfg.retransmitDelayUs / 8)
  unfold uncappedRetransmitDelay
  dsimp only
  split
  · omega
  · omega

/-- The library's range check. -/
theorem accepted_iff (rng now : UInt32) :
    (∀ r : Radio, r.state = .idle →
      (esbSetRetransmitDelay r (jitteredRetransmitDelay cfg now rng).1).2 = none) ↔
      435 ≤ uncappedRetransmitDelay cfg (jitterStep cfg rng now) := by
  have hcapped := @jitteredRetransmitDelay_fst cfg rng now
  have hset : ∀ r : Radio, r.state = .idle → ∀ delay,
      (esbSetRetransmitDelay r delay).2 = none ↔ 435 ≤ delay := by
    intro r hidle delay
    unfold esbSetRetransmitDelay
    rw [hidle, if_neg (by decide)]
    split
    · rename_i hlow
      exact iff_of_false (by simp) (Nat.not_le.2 hlow)
    · rename_i hhigh
      exact iff_of_true rfl (Nat.le_of_not_lt hhigh)
  constructor
  · intro haccepted
    have hge := (hset { state := .idle } rfl _).1 (haccepted _ rfl)
    omega
  · intro hge r hidle
    refine (hset r hidle _).2 ?_
    omega

/-- From 497 on, an eighth less is still 435. -/
theorem DelaySound.of_le (hbase : 497 ≤ cfg.retransmitDelayUs) (rng now : UInt32) :
    DelaySound cfg rng now := by
  have hband := @uncapped_in_band cfg (by omega) (jitterStep cfg rng now)
  refine ⟨jitterStep_ne_zero rng now, hband, jitteredRetransmitDelay_fst rng now, ?_⟩
  refine (accepted_iff rng now).2 ?_
  omega

/-- The lowest draw takes off an eighth, down to the floor. -/
theorem uncapped_lowest :
    uncappedRetransmitDelay cfg 0x80 =
      max (cfg.retransmitDelayUs - (cfg.retransmitDelayUs / 8 : Nat)) 100 := by
  have hoff : (((0x80 : UInt32) &&& 0xFF).toUInt8.toInt8.toInt : Int) = -128 := by decide
  have hscaled : ((cfg.retransmitDelayUs / 8 : Nat) * (-128 : Int)).tdiv 128 =
      -(cfg.retransmitDelayUs / 8 : Nat) := by
    rw [Int.mul_neg, Int.neg_tdiv, Int.mul_tdiv_cancel _ (by decide)]
  unfold uncappedRetransmitDelay
  dsimp only
  rw [hoff, hscaled]
  split
  · omega
  · omega

/-- Below 497 a state draws a delay that the library refuses. -/
theorem exists_refused (hbase : cfg.retransmitDelayUs < 497) :
    ∃ rng, ∀ now, ¬ DelaySound cfg rng now := by
  obtain ⟨rng, hrng, hdraws⟩ := @exists_xorshift32_eq 0x80 (by decide)
  refine ⟨rng, fun now hsound => ?_⟩
  have hge := (accepted_iff rng now).1 hsound.accepted
  have hlowest := @uncapped_lowest cfg
  rw [jitterStep_of_ne_zero hrng, hdraws, hlowest] at hge
  omega

/-- What a send leaves in the radio: an idle one takes the delay, unless it
is below the library's minimum. -/
theorem retransmitDelay_jitterRetransmitDelay {e : Endpoint} (hidle : e.radio.state = .idle) :
    (jitterRetransmitDelay cfg e).radio.retransmitDelay =
      if 435 ≤ uncappedRetransmitDelay cfg (jitterStep cfg e.tp.jitterRng e.now) then
        (jitteredRetransmitDelay cfg e.now e.tp.jitterRng).1
      else e.radio.retransmitDelay := by
  have hcapped := @jitteredRetransmitDelay_fst cfg e.tp.jitterRng e.now
  have hset : (jitterRetransmitDelay cfg e).radio = (esbSetRetransmitDelay e.radio
      (jitteredRetransmitDelay cfg e.now e.tp.jitterRng).1).1 := rfl
  rw [hset]
  unfold esbSetRetransmitDelay
  rw [hidle, if_neg (by decide)]
  split
  · rw [if_neg (by omega)]
  · rw [if_pos (by omega)]

/-- **The delays of every sequence of calls, from any seed, are sound
exactly when** the base is 497 or more: the generator is never left at
zero, each delay is within an eighth of the base but for the cap, and an
idle radio takes it. -/
theorem delaysSound_iff (cfg : Config) :
    (∀ (rng : UInt32) (nows : List UInt32),
      Guarded (jitterStep cfg) (DelaySound cfg) rng nows) ↔ 497 ≤ cfg.retransmitDelayUs := by
  constructor
  · intro hsound
    by_contra hlow
    obtain ⟨rng, hrefused⟩ := @exists_refused cfg (Nat.lt_of_not_le hlow)
    exact hrefused 0 (hsound rng [0]).1
  · intro hbase rng nows
    exact Guarded.of_forall fun rng now => DelaySound.of_le hbase rng now

/-- At the library's own minimum, a first draw of 422 is refused. -/
theorem not_delaysSound : ¬ ∀ cfg : Config, 435 ≤ cfg.retransmitDelayUs →
    cfg.retransmitDelayUs ≤ 65535 → ∀ (rng : UInt32) (nows : List UInt32),
      Guarded (jitterStep cfg) (DelaySound cfg) rng nows := by
  intro h
  have hrun := h { retransmitDelayUs := 435, jitterRngAddr := 0x20001234 } (by decide) (by decide)
    0 [1000]
  have htaken := hrun.1.accepted { state := .idle } rfl
  exact absurd htaken (by decide)

end EsbEndpoint
