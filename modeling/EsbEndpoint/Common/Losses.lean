import Mathlib.Data.List.Count

/-!
# Attempts with few losses in a row

The outcomes of a sender's attempts, in order: true for one that got
through. `LossesAtMost n k` bounds the losses in a row by `n`, where `k`
came before the first attempt, and then every `n + 1` attempts get
something through (`LossesAtMost.length_le`).
-/

namespace EsbEndpoint

/-- No more than `n` attempts in a row fail, `k` having failed before. -/
def LossesAtMost (n : Nat) : Nat → List Bool → Prop
  | _, [] => True
  | _, true :: outcomes => LossesAtMost n 0 outcomes
  | k, false :: outcomes => k < n ∧ LossesAtMost n (k + 1) outcomes

/-- How many attempts have failed in a row at the end. -/
def lossesAfter (k : Nat) (outcomes : List Bool) : Nat :=
  outcomes.foldl (fun k through => if through then 0 else k + 1) k

instance LossesAtMost.decidable (n : Nat) :
    (k : Nat) → (outcomes : List Bool) → Decidable (LossesAtMost n k outcomes)
  | _, [] => inferInstanceAs (Decidable True)
  | _, true :: outcomes => LossesAtMost.decidable n 0 outcomes
  | k, false :: outcomes =>
    haveI := LossesAtMost.decidable n (k + 1) outcomes
    inferInstanceAs (Decidable (k < n ∧ LossesAtMost n (k + 1) outcomes))

variable {n k : Nat} {outcomes : List Bool}

theorem lossesAtMost_append {outcomes' : List Bool} :
    LossesAtMost n k (outcomes ++ outcomes') ↔
      LossesAtMost n k outcomes ∧ LossesAtMost n (lossesAfter k outcomes) outcomes' := by
  induction outcomes generalizing k with
  | nil => exact (and_iff_right trivial).symm
  | cons through outcomes ih =>
    cases through with
    | true => exact ih
    | false => exact (and_congr_right fun _ => ih).trans and_assoc.symm

theorem lossesAfter_append {outcomes' : List Bool} :
    lossesAfter k (outcomes ++ outcomes') = lossesAfter (lossesAfter k outcomes) outcomes' :=
  List.foldl_append

theorem LossesAtMost.lossesAfter_le (h : LossesAtMost n k outcomes) (hk : k ≤ n) :
    lossesAfter k outcomes ≤ n := by
  induction outcomes generalizing k with
  | nil => exact hk
  | cons through outcomes ih =>
    cases through with
    | true => exact ih h (Nat.zero_le n)
    | false => exact ih h.2 h.1

/-- **Of every `n + 1` attempts one gets through.** -/
theorem LossesAtMost.length_le (h : LossesAtMost n k outcomes) (hk : k ≤ n) :
    outcomes.length + k ≤ (n + 1) * outcomes.count true + lossesAfter k outcomes := by
  induction outcomes generalizing k with
  | nil =>
    show 0 + k ≤ (n + 1) * 0 + k
    omega
  | cons through outcomes ih =>
    cases through with
    | true =>
      have hrest := @ih 0 h (Nat.zero_le n)
      have hlast : lossesAfter k (true :: outcomes) = lossesAfter 0 outcomes := rfl
      rw [List.length_cons, List.count_cons_self, hlast, Nat.mul_add]
      omega
    | false =>
      have hrest := @ih (k + 1) h.2 h.1
      have hlast : lossesAfter k (false :: outcomes) = lossesAfter (k + 1) outcomes := rfl
      rw [List.length_cons, List.count_cons_of_ne (by simp), hlast]
      omega

end EsbEndpoint
