import Mathlib.Data.Nat.Basic

/-!
# Words with their bits in another order

A function on words that moves bits is known by where each bit comes from.
`Takes` says so, composes, and makes two functions equal whose bits come
from the same places. Bit reversal, byte reversal and the exchange of
neighbouring groups under two masks are of this kind.
-/

namespace EsbEndpoint

variable {n : Nat}

/-- Bit `i` of `w'` is bit `σ i` of `w`. -/
def Takes (σ : Nat → Nat) (w' w : BitVec n) : Prop :=
  ∀ i, i < n → σ i < n ∧ w'.getLsbD i = w.getLsbD (σ i)

variable {σ τ : Nat → Nat} {w w' w'' : BitVec n}

theorem Takes.trans (h : Takes σ w'' w') (h' : Takes τ w' w) : Takes (fun i => τ (σ i)) w'' w := by
  intro i hi
  obtain ⟨hσ, hbit⟩ := h i hi
  obtain ⟨hτ, hbit'⟩ := h' (σ i) hσ
  exact ⟨hτ, hbit.trans hbit'⟩

/-- Where the bits come from is all there is to know. -/
theorem Takes.unique (h : Takes σ w' w) (h' : Takes τ w'' w) (hτ : ∀ i, i < n → σ i = τ i) :
    w' = w'' := by
  refine BitVec.eq_of_getLsbD_eq fun i hi => ?_
  rw [(h i hi).2, (h' i hi).2, hτ i hi]

/-- **A permutation of bits loses nothing.** -/
theorem Takes.injective {f : BitVec n → BitVec n} (hf : ∀ w, Takes σ (f w) w)
    (hσ : ∀ i, i < n → ∃ j, j < n ∧ σ j = i) : Function.Injective f := by
  intro w w' heq
  refine BitVec.eq_of_getLsbD_eq fun i hi => ?_
  obtain ⟨j, hj, rfl⟩ := hσ i hi
  rw [← (hf w j hj).2, ← (hf w' j hj).2, heq]

/-- All bits in reverse. -/
theorem takes_reverse (w : BitVec n) : Takes (fun i => n - 1 - i) w.reverse w := by
  intro i hi
  refine ⟨by dsimp only; omega, ?_⟩
  rw [BitVec.getLsbD_reverse, BitVec.getMsbD_eq_getLsbD, decide_eq_true hi, Bool.true_and]

/-- Neighbouring groups of `k` bits exchanged, the upper one under `hi`
and the lower one under `lo`. -/
def swapGroups (hi lo : BitVec n) (k : Nat) (w : BitVec n) : BitVec n :=
  (w &&& hi) >>> k ||| (w &&& lo) <<< k

/-- The place of a bit in the other group of its pair. -/
def otherGroup (k i : Nat) : Nat := if i / k % 2 = 0 then i + k else i - k

theorem otherGroup_div {k i : Nat} (hk : 0 < k) :
    otherGroup k i / k % 2 = 1 - i / k % 2 := by
  unfold otherGroup
  split
  · rename_i heven
    rw [Nat.add_div_right i hk]
    omega
  · rename_i hodd
    have hle : k ≤ i := by
      by_contra hlt
      rw [Nat.div_eq_of_lt (by omega)] at hodd
      exact hodd rfl
    obtain ⟨j, rfl⟩ := Nat.exists_eq_add_of_le' hle
    rw [Nat.add_sub_cancel]
    rw [Nat.add_div_right j hk] at hodd ⊢
    omega

theorem otherGroup_lt {k i : Nat} (hk : 0 < k) (hn : n % (2 * k) = 0) (hi : i < n) :
    otherGroup k i < n := by
  obtain ⟨m, rfl⟩ := Nat.dvd_of_mod_eq_zero hn
  have hm : 2 * k * m = 2 * m * k := by rw [Nat.mul_assoc, Nat.mul_comm k m, Nat.mul_assoc]
  rw [hm, ← Nat.div_lt_iff_lt_mul hk] at hi ⊢
  unfold otherGroup
  split
  · rw [Nat.add_div_right i hk]
    omega
  · exact Nat.lt_of_le_of_lt (Nat.div_le_div_right (Nat.sub_le i k)) hi

/-- **An exchange** takes each bit from the other group of its pair. -/
theorem takes_swapGroups {hi lo : BitVec n} {k : Nat} (hk : 0 < k) (hn : n % (2 * k) = 0)
    (hhi : ∀ i, i < n → hi.getLsbD i = decide (i / k % 2 = 1))
    (hlo : ∀ i, i < n → lo.getLsbD i = decide (i / k % 2 = 0)) (w : BitVec n) :
    Takes (otherGroup k) (swapGroups hi lo k w) w := by
  intro i hi'
  have hlt := otherGroup_lt hk hn hi'
  have hdiv := @otherGroup_div k i hk
  have hgroups : i / k % 2 < 2 := Nat.mod_lt _ Nat.zero_lt_two
  refine ⟨hlt, ?_⟩
  rw [swapGroups, BitVec.getLsbD_or, BitVec.getLsbD_ushiftRight, BitVec.getLsbD_and,
    BitVec.getLsbD_shiftLeft, BitVec.getLsbD_and, decide_eq_true hi', Bool.true_and,
    Nat.add_comm k i]
  by_cases heven : i / k % 2 = 0
  · have hother : otherGroup k i = i + k := if_pos heven
    rw [hother] at hlt hdiv ⊢
    have hdown : (!decide (i < k) && (w.getLsbD (i - k) && lo.getLsbD (i - k))) = false := by
      by_cases hik : i < k
      · simp [hik]
      · obtain ⟨j, rfl⟩ := Nat.exists_eq_add_of_le' (Nat.le_of_not_lt hik)
        rw [Nat.add_div_right j hk] at heven
        have hodd : ¬j / k % 2 = 0 := by omega
        rw [Nat.add_sub_cancel, hlo j (by omega), decide_eq_false hodd, Bool.and_false,
          Bool.and_false]
    rw [hdown, hhi _ hlt, hdiv, heven, Bool.or_false]
    exact Bool.and_true _
  · have hother : otherGroup k i = i - k := if_neg heven
    rw [hother] at hlt hdiv ⊢
    have hik : ¬i < k := fun hik => heven (by rw [Nat.div_eq_of_lt hik])
    have hup : (w.getLsbD (i + k) && hi.getLsbD (i + k)) = false := by
      by_cases hin : i + k < n
      · rw [hhi _ hin, Nat.add_div_right i hk, decide_eq_false (by omega), Bool.and_false]
      · rw [BitVec.getLsbD_of_ge w _ (Nat.le_of_not_lt hin), Bool.false_and]
    rw [hup, hlo _ hlt, hdiv, decide_eq_false hik, decide_eq_true (by omega)]
    simp

end EsbEndpoint
