import EsbEndpoint.Common.Clock
import Mathlib.Algebra.Ring.Nat
import Mathlib.Logic.Function.Basic

/-!
# The generator's step is a permutation

`xorshift32` mixes a word with three shifts of itself. Mixing twice by `k`
is mixing once by `2 * k`, and mixing by the width or more is the
identity, so a mix is undone by mixing on and every word is the mix of
exactly one. Zero is the mix of zero, and of nothing else.
-/

namespace EsbEndpoint

namespace Xorshift

variable {w : Nat}

/-- `x ^= x << k` -/
def mixLeft (k : Nat) (x : BitVec w) : BitVec w := x ^^^ x <<< k

/-- `x ^= x >> k` -/
def mixRight (k : Nat) (x : BitVec w) : BitVec w := x ^^^ x >>> k

theorem xor_middle (a b c : BitVec w) : a ^^^ b ^^^ (b ^^^ c) = a ^^^ c := by
  rw [BitVec.xor_assoc, ← BitVec.xor_assoc b b c, BitVec.xor_self, BitVec.zero_xor]

theorem mixLeft_mixLeft (k : Nat) (x : BitVec w) : mixLeft k (mixLeft k x) = mixLeft (2 * k) x := by
  unfold mixLeft
  rw [BitVec.shiftLeft_xor_distrib, ← BitVec.shiftLeft_add, xor_middle, Nat.two_mul]

theorem mixRight_mixRight (k : Nat) (x : BitVec w) :
    mixRight k (mixRight k x) = mixRight (2 * k) x := by
  unfold mixRight
  rw [BitVec.ushiftRight_xor_distrib, ← BitVec.shiftRight_add, xor_middle, Nat.two_mul]

theorem mixLeft_of_le {k : Nat} (h : w ≤ k) (x : BitVec w) : mixLeft k x = x := by
  unfold mixLeft
  rw [BitVec.shiftLeft_eq_zero h, BitVec.xor_zero]

theorem mixRight_of_le {k : Nat} (h : w ≤ k) (x : BitVec w) : mixRight k x = x := by
  unfold mixRight
  rw [BitVec.ushiftRight_eq_zero h, BitVec.xor_zero]

/-- **A mix is a permutation**, by induction on how often its shift doubles
before it leaves the word. -/
theorem bijective_of_doubles {mix : Nat → BitVec w → BitVec w}
    (htwice : ∀ k x, mix k (mix k x) = mix (2 * k) x) (hwide : ∀ k, w ≤ k → ∀ x, mix k x = x)
    (n : Nat) : ∀ k, w ≤ 2 ^ n * k → Function.Bijective (mix k) := by
  induction n with
  | zero =>
    intro k hk
    have hid : mix k = id := funext (hwide k (by omega))
    rw [hid]
    exact Function.bijective_id
  | succ n ih =>
    intro k hk
    have hdouble : w ≤ 2 ^ n * (2 * k) := by
      rw [← Nat.mul_assoc, ← Nat.pow_succ]
      exact hk
    have hcomp : mix k ∘ mix k = mix (2 * k) := funext (htwice k)
    have hboth := ih (2 * k) hdouble
    rw [← hcomp] at hboth
    exact ⟨hboth.1.of_comp, hboth.2.of_comp⟩

theorem mixLeft_bijective (k : Nat) (hk : 0 < k) : Function.Bijective (@mixLeft w k) :=
  bijective_of_doubles mixLeft_mixLeft (fun _ h => mixLeft_of_le h) w k <|
    Nat.le_trans (Nat.le_of_lt Nat.lt_two_pow_self) (Nat.le_mul_of_pos_right _ hk)

theorem mixRight_bijective (k : Nat) (hk : 0 < k) : Function.Bijective (@mixRight w k) :=
  bijective_of_doubles mixRight_mixRight (fun _ h => mixRight_of_le h) w k <|
    Nat.le_trans (Nat.le_of_lt Nat.lt_two_pow_self) (Nat.le_mul_of_pos_right _ hk)

theorem xorshift32_toBitVec (x : UInt32) :
    (xorshift32 x).toBitVec = mixLeft 5 (mixRight 17 (mixLeft 13 x.toBitVec)) := rfl

theorem xorshift32_zero : xorshift32 0 = 0 := by decide

end Xorshift

/-- **Every word is drawn**, from one state: the step of the generator is a
permutation. -/
theorem xorshift32_bijective : Function.Bijective xorshift32 := by
  have hleft := @Xorshift.mixLeft_bijective 32
  have hmix := (hleft 5 (by omega)).comp
    ((@Xorshift.mixRight_bijective 32 17 (by omega)).comp (hleft 13 (by omega)))
  constructor
  · intro x x' h
    have hbits := congrArg UInt32.toBitVec h
    rw [Xorshift.xorshift32_toBitVec, Xorshift.xorshift32_toBitVec] at hbits
    exact UInt32.toBitVec_inj.1 (hmix.1 hbits)
  · intro y
    obtain ⟨c, hc⟩ := hmix.2 y.toBitVec
    exact ⟨⟨c⟩, UInt32.toBitVec_inj.1 ((Xorshift.xorshift32_toBitVec ⟨c⟩).trans hc)⟩

/-- **The generator does not stop**: a state other than zero goes to
another. -/
theorem xorshift32_ne_zero {x : UInt32} (hx : x ≠ 0) : xorshift32 x ≠ 0 := by
  intro h
  exact hx (xorshift32_bijective.1 (h.trans Xorshift.xorshift32_zero.symm))

/-- A word other than zero is drawn from a state other than zero. -/
theorem exists_xorshift32_eq {y : UInt32} (hy : y ≠ 0) : ∃ x, x ≠ 0 ∧ xorshift32 x = y := by
  obtain ⟨x, hx⟩ := xorshift32_bijective.2 y
  refine ⟨x, ?_, hx⟩
  rintro rfl
  exact hy (hx.symm.trans Xorshift.xorshift32_zero)

end EsbEndpoint
