import Mathlib.Data.List.Basic

/-!
# Runs of a deterministic step function

A component is a step function `step : σ → ι → σ` and a run is a list of
inputs folded over it. `Throughout` says a property holds in the first
state and after every input; `Guarded` says a condition holds of every
input at the state it meets. The two are related once and for all here:
a step lemma gives a run lemma (`Throughout.of_guarded`), and a step
lemma that is an equivalence gives an equivalence of runs
(`throughout_iff_guarded`).
-/

namespace EsbEndpoint

variable {σ ι : Type*}

/-- The state a run ends in. -/
def runFrom (step : σ → ι → σ) (s : σ) (is : List ι) : σ :=
  is.foldl step s

/-- `P` holds in the first state of the run and after each of its inputs. -/
def Throughout (step : σ → ι → σ) (P : σ → Prop) (s : σ) : List ι → Prop
  | [] => P s
  | i :: is => P s ∧ Throughout step P (step s i) is

/-- `C` holds of every input of the run, at the state it is applied to. -/
def Guarded (step : σ → ι → σ) (C : σ → ι → Prop) (s : σ) : List ι → Prop
  | [] => True
  | i :: is => C s i ∧ Guarded step C (step s i) is

/-- A property that can be tested of a state can be tested along a run, -/
instance Throughout.decidable (step : σ → ι → σ) (P : σ → Prop) [∀ s, Decidable (P s)] :
    (s : σ) → (is : List ι) → Decidable (Throughout step P s is)
  | s, [] => inferInstanceAs (Decidable (P s))
  | s, i :: is =>
    haveI := Throughout.decidable step P (step s i) is
    inferInstanceAs (Decidable (P s ∧ Throughout step P (step s i) is))

/-- and a guard that can be tested of a step. -/
instance Guarded.decidable (step : σ → ι → σ) (C : σ → ι → Prop) [∀ s i, Decidable (C s i)] :
    (s : σ) → (is : List ι) → Decidable (Guarded step C s is)
  | _, [] => inferInstanceAs (Decidable True)
  | s, i :: is =>
    haveI := Guarded.decidable step C (step s i) is
    inferInstanceAs (Decidable (C s i ∧ Guarded step C (step s i) is))

variable {step : σ → ι → σ} {P Q I : σ → Prop} {C D : σ → ι → Prop} {s : σ} {is : List ι}

@[simp] theorem runFrom_nil : runFrom step s [] = s := rfl

@[simp] theorem runFrom_cons {i : ι} : runFrom step s (i :: is) = runFrom step (step s i) is := rfl

theorem runFrom_append {js : List ι} :
    runFrom step s (is ++ js) = runFrom step (runFrom step s is) js :=
  List.foldl_append

/-- A property held throughout holds first. -/
theorem Throughout.first (h : Throughout step P s is) : P s := by
  cases is with
  | nil => exact h
  | cons i is => exact h.1

/-- And last. -/
theorem Throughout.last (h : Throughout step P s is) : P (runFrom step s is) := by
  induction is generalizing s with
  | nil => exact h
  | cons i is ih => exact ih h.2

theorem Throughout.imp (himp : ∀ s, P s → Q s) (h : Throughout step P s is) :
    Throughout step Q s is := by
  induction is generalizing s with
  | nil => exact himp s h
  | cons i is ih => exact ⟨himp s h.1, ih h.2⟩

/-- What holds throughout a run holds where each of its inputs is applied. -/
theorem Throughout.guarded (h : Throughout step P s is) : Guarded step (fun s _ => P s) s is := by
  induction is generalizing s with
  | nil => trivial
  | cons i is ih => exact ⟨h.1, ih h.2⟩

theorem Guarded.and (hC : Guarded step C s is) (hD : Guarded step D s is) :
    Guarded step (fun s i => C s i ∧ D s i) s is := by
  induction is generalizing s with
  | nil => trivial
  | cons i is ih => exact ⟨⟨hC.1, hD.1⟩, ih hC.2 hD.2⟩

/-- A run guarded in two parts. -/
theorem guarded_append {js : List ι} :
    Guarded step C s (is ++ js) ↔ Guarded step C s is ∧ Guarded step C (runFrom step s is) js := by
  induction is generalizing s with
  | nil => exact (and_iff_right trivial).symm
  | cons i is ih =>
    rw [List.cons_append, runFrom_cons]
    exact (and_congr_right fun _ => ih).trans and_assoc.symm

/-- **The run lemma.** What a step keeps under its guard, a guarded run
keeps throughout. -/
theorem Throughout.of_guarded (hstep : ∀ s i, P s → C s i → P (step s i)) (h0 : P s)
    (h : Guarded step C s is) : Throughout step P s is := by
  induction is generalizing s with
  | nil => exact h0
  | cons i is ih => exact ⟨h0, ih (hstep s i h0 h.1) h.2⟩

/-- The run lemma for an invariant no input can break. -/
theorem Throughout.of_step (hstep : ∀ s i, P s → P (step s i)) (h0 : P s) :
    Throughout step P s is := by
  induction is generalizing s with
  | nil => exact h0
  | cons i is ih => exact ⟨h0, ih (hstep s i h0)⟩

/-- **Runs, exactly.** Where, under an invariant, each step keeps `P`
just when its guard holds, a run keeps `P` throughout just when every
step meets its guard. -/
theorem throughout_iff_guarded (hinv : ∀ s i, I s → D s i → I (step s i))
    (hstep : ∀ s i, I s → D s i → P s → (P (step s i) ↔ C s i))
    (hI : I s) (h0 : P s) (hD : Guarded step D s is) :
    Throughout step P s is ↔ Guarded step C s is := by
  induction is generalizing s with
  | nil => exact ⟨fun _ => trivial, fun _ => h0⟩
  | cons i is ih =>
    have hs := hstep s i hI hD.1 h0
    constructor
    · rintro ⟨-, ht⟩
      exact ⟨hs.1 ht.first, (ih (hinv s i hI hD.1) ht.first hD.2).1 ht⟩
    · rintro ⟨hc, hg⟩
      exact ⟨h0, (ih (hinv s i hI hD.1) (hs.2 hc) hD.2).2 hg⟩

/-- **Runs, exactly, up to the first failure.** Where the guard keeps an
invariant that gives `P`, and a step that misses it breaks `P`, a run keeps
`P` throughout just when every step meets the guard. -/
theorem throughout_iff_guarded_of_breaks (hinv : ∀ s i, I s → C s i → I (step s i))
    (himp : ∀ s, I s → P s) (hbreaks : ∀ s i, I s → ¬ C s i → ¬ P (step s i)) (hI : I s) :
    Throughout step P s is ↔ Guarded step C s is := by
  induction is generalizing s with
  | nil => exact ⟨fun _ => trivial, fun _ => himp s hI⟩
  | cons i is ih =>
    constructor
    · rintro ⟨-, ht⟩
      have hc : C s i := by
        by_contra hno
        exact hbreaks s i hI hno ht.first
      exact ⟨hc, (ih (hinv s i hI hc)).1 ht⟩
    · rintro ⟨hc, hg⟩
      exact ⟨himp s hI, (ih (hinv s i hI hc)).2 hg⟩

/-- Two properties that agree wherever the invariant holds, hold throughout
the same runs. -/
theorem throughout_congr (hinv : ∀ s i, I s → I (step s i)) (h : ∀ s, I s → (P s ↔ Q s))
    (hI : I s) : Throughout step P s is ↔ Throughout step Q s is := by
  induction is generalizing s with
  | nil => exact h s hI
  | cons i is ih => exact and_congr (h s hI) (ih (hinv s i hI))

/-- Two conditions that agree wherever the invariant holds guard the same
runs. -/
theorem guarded_congr (hinv : ∀ s i, I s → I (step s i))
    (h : ∀ s i, I s → (C s i ↔ D s i)) (hI : I s) :
    Guarded step C s is ↔ Guarded step D s is := by
  induction is generalizing s with
  | nil => exact Iff.rfl
  | cons i is ih => exact and_congr (h s i hI) (ih (hinv s i hI))

/-- **The run lemma, for guards.** What a guarded step keeps, and what then
follows at each step, holds along a guarded run. -/
theorem Guarded.of_invariant (hinv : ∀ s i, I s → C s i → I (step s i))
    (himp : ∀ s i, I s → C s i → D s i) (hI : I s) (h : Guarded step C s is) :
    Guarded step D s is := by
  induction is generalizing s with
  | nil => trivial
  | cons i is ih => exact ⟨himp s i hI h.1, ih (hinv s i hI h.1) h.2⟩

/-- A guard that always holds guards every run. -/
theorem Guarded.of_forall (h : ∀ s i, C s i) : Guarded step C s is := by
  induction is generalizing s with
  | nil => trivial
  | cons i is ih => exact ⟨h s i, ih⟩

end EsbEndpoint
