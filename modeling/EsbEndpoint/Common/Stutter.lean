import Mathlib.Data.List.Destutter

/-!
# Lists with repeats

A producer that follows a sequence of values emits each of them once and,
whenever it likes, the latest of them again. `Stutters` says so of what it
emitted, and collapsing consecutive duplicates then tells the two apart no
more (`Stutters.collapse_eq`), whatever comes behind them.
-/

namespace EsbEndpoint

variable {α : Type*}

/-- One of each run of consecutive duplicates. -/
def collapse [DecidableEq α] (l : List α) : List α := l.destutter (· ≠ ·)

/-- **`m` is `l` with repeats**, each of the latest value, `a` to begin
with. -/
inductive Stutters (a : α) : List α → List α → Prop
  | start : Stutters a [] []
  | emit {l m : List α} (x : α) : Stutters a l m → Stutters a (l ++ [x]) (m ++ [x])
  | again {l m : List α} {x : α} :
    (a :: l).getLast? = some x → Stutters a l m → Stutters a l (m ++ [x])

theorem getLast?_cons_concat (a : α) (l : List α) (x : α) :
    (a :: (l ++ [x])).getLast? = some x := by
  rw [← List.cons_append, List.getLast?_concat]

namespace Stutters

variable {a : α} {l m : List α}

/-- Every value of a list is emitted, in order. -/
theorem append (h : Stutters a l m) (xs : List α) : Stutters a (l ++ xs) (m ++ xs) := by
  induction xs generalizing l m with
  | nil =>
    rw [List.append_nil, List.append_nil]
    exact h
  | cons x xs ih =>
    have hrest := ih (h.emit x)
    rw [List.append_assoc, List.append_assoc, List.singleton_append] at hrest
    exact hrest

/-- What was emitted ends on the latest value. -/
theorem latest (h : Stutters a l m) : (a :: m).getLast? = (a :: l).getLast? := by
  cases h with
  | start => rfl
  | emit x _ => rw [getLast?_cons_concat, getLast?_cons_concat]
  | again hlast _ => rw [getLast?_cons_concat, hlast]

/-- Nothing is emitted in place of something. -/
theorem eq_nil (h : Stutters a l m) (hm : m = []) : l = [] := by
  cases h with
  | start => rfl
  | emit x _ => exact absurd hm (List.concat_ne_nil x _)
  | again _ _ => exact absurd hm (List.concat_ne_nil _ _)

end Stutters

variable [DecidableEq α]

/-- A repeat of the latest value is collapsed. -/
theorem collapse_again {a x : α} {l : List α} (hlast : (a :: l).getLast? = some x)
    (rest : List α) : collapse (a :: (l ++ x :: rest)) = collapse (a :: (l ++ rest)) := by
  simp only [collapse, List.destutter_cons']
  induction l generalizing a with
  | nil =>
    obtain rfl : a = x := Option.some.inj hlast
    exact List.destutter'_cons_neg _ fun hne => hne rfl
  | cons b l ih =>
    rw [List.getLast?_cons_cons] at hlast
    rw [List.cons_append, List.cons_append, List.destutter'_cons, List.destutter'_cons, ih hlast]
    by_cases hab : a = b
    · rw [if_neg (not_not.2 hab), if_neg (not_not.2 hab), hab]
      exact ih hlast
    · rw [if_pos hab, if_pos hab]

/-- **Repeats are collapsed**, whatever comes behind them. -/
theorem Stutters.collapse_eq {a : α} {l m : List α} (h : Stutters a l m) (rest : List α) :
    collapse (a :: (m ++ rest)) = collapse (a :: (l ++ rest)) := by
  induction h generalizing rest with
  | start => rfl
  | emit x _ ih =>
    rw [List.append_assoc, List.append_assoc]
    exact ih _
  | again hlast _ ih =>
    rw [List.append_assoc, ih]
    exact collapse_again hlast rest

/-- Values that each differ from the one before are not collapsed. -/
theorem collapse_append {a x : α} {l rest : List α} (hlast : (a :: l).getLast? = some x)
    (hchain : (x :: rest).IsChain (· ≠ ·)) :
    collapse (a :: (l ++ rest)) = collapse (a :: l) ++ rest := by
  simp only [collapse, List.destutter_cons']
  induction l generalizing a with
  | nil =>
    obtain rfl : a = x := Option.some.inj hlast
    rw [List.nil_append, List.destutter'_of_isChain_cons _ _ hchain]
    rfl
  | cons b l ih =>
    rw [List.getLast?_cons_cons] at hlast
    rw [List.cons_append, List.destutter'_cons, List.destutter'_cons, ih hlast]
    by_cases hab : a = b
    · rw [if_neg (not_not.2 hab), if_neg (not_not.2 hab), hab]
      exact ih hlast
    · rw [if_pos hab, if_pos hab, List.cons_append]

end EsbEndpoint
