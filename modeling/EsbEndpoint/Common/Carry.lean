import Mathlib.Algebra.BigOperators.Group.List.Basic
import Mathlib.Algebra.Order.Ring.Int

/-!
# Carrying what does not fit

A channel whose values lie between two bounds is given inputs and a debt:
each step sends as much of their sum as fits and carries the rest over.
Nothing is lost on the way (`conserve`), what is carried never grows
(`natAbs_carried_le`), and steps without input pay the debt off
(`carried_eq_zero`).
-/

namespace EsbEndpoint

namespace Carry

variable (lo hi : Int)

/-- What a step sends of a debt and an input. -/
def sent (debt input : Int) : Int := max lo (min hi (debt + input))

/-- And what it carries over. -/
def rest (debt input : Int) : Int := debt + input - sent lo hi debt input

/-- What a run sends. -/
def sentAll : Int → List Int → List Int
  | _, [] => []
  | debt, input :: inputs => sent lo hi debt input :: sentAll (rest lo hi debt input) inputs

/-- And what is left of the debt. -/
def carried (debt : Int) (inputs : List Int) : Int := inputs.foldl (rest lo hi) debt

variable {lo hi} {debt input : Int} {inputs : List Int}

/-- **Nothing is lost.** -/
theorem conserve :
    debt + inputs.sum = (sentAll lo hi debt inputs).sum + carried lo hi debt inputs := by
  induction inputs generalizing debt with
  | nil => exact (add_zero debt).trans (zero_add debt).symm
  | cons input inputs ih =>
    have hstep : debt + input = sent lo hi debt input + rest lo hi debt input :=
      (add_sub_cancel (sent lo hi debt input) (debt + input)).symm
    calc debt + (input :: inputs).sum
        = sent lo hi debt input + (rest lo hi debt input + inputs.sum) := by
          rw [List.sum_cons, ← add_assoc, hstep, add_assoc]
      _ = (sentAll lo hi debt (input :: inputs)).sum + carried lo hi debt (input :: inputs) := by
          rw [ih, sentAll, List.sum_cons, add_assoc]
          rfl

theorem sent_bounds (h : lo ≤ hi) : lo ≤ sent lo hi debt input ∧ sent lo hi debt input ≤ hi := by
  unfold sent
  omega

theorem sentAll_bounds (h : lo ≤ hi) :
    ∀ s ∈ sentAll lo hi debt inputs, lo ≤ s ∧ s ≤ hi := by
  induction inputs generalizing debt with
  | nil => exact fun s hs => absurd hs List.not_mem_nil
  | cons input inputs ih =>
    intro s hs
    obtain rfl | hs := List.mem_cons.1 hs
    · exact sent_bounds h
    · exact ih s hs

/-- **Something is carried over only past a full step**, in its sign. -/
theorem sent_of_rest : (0 < rest lo hi debt input → sent lo hi debt input = hi ∨ hi < lo) ∧
    (rest lo hi debt input < 0 → sent lo hi debt input = lo) := by
  unfold rest sent
  omega

/-- An input that fits does not make the debt larger. -/
theorem natAbs_rest_le (hlo : lo ≤ input) (hhi : input ≤ hi) :
    (rest lo hi debt input).natAbs ≤ debt.natAbs := by
  unfold rest sent
  omega

theorem natAbs_carried_le (h : ∀ input ∈ inputs, lo ≤ input ∧ input ≤ hi) :
    (carried lo hi debt inputs).natAbs ≤ debt.natAbs := by
  induction inputs generalizing debt with
  | nil => exact le_refl _
  | cons input inputs ih =>
    obtain ⟨⟨hlo, hhi⟩, h⟩ := List.forall_mem_cons.1 h
    exact (ih h).trans (natAbs_rest_le hlo hhi)

/-- The last step of a run tells the sign of what is left. -/
theorem getLast?_sentAll (hle : lo ≤ hi) {last : Int}
    (h : (sentAll lo hi debt inputs).getLast? = some last) :
    (0 < carried lo hi debt inputs → last = hi) ∧ (carried lo hi debt inputs < 0 → last = lo) := by
  induction inputs generalizing debt with
  | nil => exact absurd h (by simp [sentAll])
  | cons input inputs ih =>
    cases inputs with
    | nil =>
      have hlast : sent lo hi debt input = last := by
        rw [sentAll, sentAll, List.getLast?_singleton] at h
        exact Option.some.inj h
      obtain ⟨hpos, hneg⟩ := @sent_of_rest lo hi debt input
      rw [hlast] at hpos hneg
      exact ⟨fun hc => (hpos hc).resolve_right (not_lt.2 hle), hneg⟩
    | cons input' inputs =>
      rw [sentAll, sentAll, List.getLast?_cons_cons] at h
      exact ih (by rw [sentAll]; exact h)

/-- **A debt is paid off** by as many steps without input as it takes. -/
theorem carried_eq_zero (hlo : lo ≤ 0) (hhi : 0 ≤ hi) (h : ∀ input ∈ inputs, input = 0)
    (hle : debt ≤ inputs.length * hi) (hge : inputs.length * lo ≤ debt) :
    carried lo hi debt inputs = 0 := by
  induction inputs generalizing debt with
  | nil =>
    rw [List.length_nil, Nat.cast_zero, zero_mul] at hle hge
    exact le_antisymm hle hge
  | cons input inputs ih =>
    -- the first step pays off a full step, or all of it
    obtain ⟨rfl, hzero⟩ := List.forall_mem_cons.1 h
    rw [List.length_cons, Nat.cast_succ, add_mul, one_mul] at hle hge
    have hpos : 0 ≤ inputs.length * hi := mul_nonneg (Int.natCast_nonneg _) hhi
    have hneg : inputs.length * lo ≤ 0 := mul_nonpos_of_nonneg_of_nonpos (Int.natCast_nonneg _) hlo
    refine ih hzero ?_ ?_
    · unfold rest sent
      omega
    · unfold rest sent
      omega

end Carry

end EsbEndpoint
