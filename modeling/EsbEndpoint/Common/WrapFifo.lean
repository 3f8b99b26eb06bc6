import Mathlib.Data.List.Basic
import Mathlib.Data.Nat.ModEq

/-!
# Circular buffers

A fixed number of slots, with the index of the slot to fill next, the index
of the oldest entry and the number of entries. Either index is stepped on
and set back to zero at the end of the slots. The entries in their order
are `contents`; a slot that holds none keeps what it held.
-/

namespace EsbEndpoint

structure WrapFifo (α : Type*) where
  slots : Nat → α
  back : Nat := 0
  front : Nat := 0
  count : Nat := 0

namespace WrapFifo

variable {α : Type*} (n : Nat) (f : WrapFifo α)

/-- The index after `i`. -/
def next (i : Nat) : Nat := if n ≤ i + 1 then 0 else i + 1

def push (a : α) : WrapFifo α :=
  { f with
    slots := Function.update f.slots f.back a
    back := next n f.back
    count := f.count + 1 }

/-- The oldest entry goes, if there is one. -/
def pop : WrapFifo α :=
  if f.count = 0 then f else { f with front := next n f.front, count := f.count - 1 }

def clear : WrapFifo α := { f with back := 0, front := 0, count := 0 }

/-- The slot of the oldest entry. -/
def peek : α := f.slots f.front

/-- The entries, oldest first. -/
def contents : List α := (List.range f.count).map fun i => f.slots ((f.front + i) % n)

/-- The entries fit, and `back` is where they end. -/
structure Sound : Prop where
  count_le : f.count ≤ n
  front_lt : f.front < n
  back_eq : f.back = (f.front + f.count) % n

variable {n f} {a : α}

theorem next_eq {i : Nat} (h : i < n) : next n i = (i + 1) % n := by
  unfold next
  split
  · obtain rfl : n = i + 1 := by omega
    exact (Nat.mod_self _).symm
  · exact (Nat.mod_eq_of_lt (by omega)).symm

@[simp] theorem length_contents : (f.contents n).length = f.count := by
  rw [contents, List.length_map, List.length_range]

theorem contents_eq_nil_iff : f.contents n = [] ↔ f.count = 0 := by
  rw [← List.length_eq_zero_iff, length_contents]

/-! ## The operations on the entries -/

@[simp] theorem contents_clear : f.clear.contents n = [] := rfl

theorem Sound.clear (hn : 0 < n) : f.clear.Sound n := ⟨Nat.zero_le n, hn, (Nat.zero_mod n).symm⟩

theorem Sound.pos (h : f.Sound n) : 0 < n := Nat.zero_lt_of_lt h.front_lt

theorem Sound.push (h : f.Sound n) (hroom : f.count < n) (a : α) : (f.push n a).Sound n := by
  have hback : f.back < n := h.back_eq ▸ Nat.mod_lt _ h.pos
  refine ⟨hroom, h.front_lt, ?_⟩
  show next n f.back = (f.front + (f.count + 1)) % n
  rw [next_eq hback, h.back_eq, Nat.mod_add_mod, Nat.add_assoc]

theorem Sound.pop (h : f.Sound n) : (f.pop n).Sound n := by
  unfold WrapFifo.pop
  split
  · exact h
  · rename_i hcount
    have hle := h.count_le
    refine ⟨by simp only; omega, ?_, ?_⟩
    · show next n f.front < n
      rw [next_eq h.front_lt]
      exact Nat.mod_lt _ h.pos
    · show f.back = (next n f.front + (f.count - 1)) % n
      have hsum : f.front + 1 + (f.count - 1) = f.front + f.count := by omega
      rw [next_eq h.front_lt, Nat.mod_add_mod, hsum]
      exact h.back_eq

/-- An entry is not in the slot to fill next. -/
theorem Sound.slot_ne (h : f.Sound n) (hroom : f.count < n) {i : Nat} (hi : i < f.count) :
    (f.front + i) % n ≠ f.back := by
  have hfront := h.front_lt
  rw [h.back_eq]
  intro heq
  have hmod : f.front + i ≡ f.front + f.count [MOD n] := heq
  have hi' := (Nat.ModEq.add_left_cancel' f.front hmod).eq_of_lt_of_lt (by omega) hroom
  omega

/-- **A push appends.** -/
theorem Sound.contents_push (h : f.Sound n) (hroom : f.count < n) (a : α) :
    (f.push n a).contents n = f.contents n ++ [a] := by
  have hcount : (f.push n a).count = f.count + 1 := rfl
  rw [WrapFifo.contents, hcount, List.range_succ, List.map_append, List.map_singleton]
  congr 1
  · refine List.map_congr_left fun i hi => ?_
    exact Function.update_of_ne (h.slot_ne hroom (List.mem_range.1 hi)) _ _
  · show [Function.update f.slots f.back a ((f.front + f.count) % n)] = [a]
    rw [← h.back_eq, Function.update_self]

/-- The oldest entry is in front. -/
theorem Sound.contents_cons (h : f.Sound n) (hcount : f.count ≠ 0) :
    f.contents n = f.peek :: (f.pop n).contents n := by
  obtain ⟨k, hk⟩ := Nat.exists_eq_succ_of_ne_zero hcount
  have hpop : f.pop n = { f with front := next n f.front, count := k } := by
    rw [WrapFifo.pop, if_neg hcount, hk]
    rfl
  rw [hpop, WrapFifo.contents, hk, List.range_succ_eq_map, List.map_cons, List.map_map]
  congr 1
  · show f.slots ((f.front + 0) % n) = f.slots f.front
    rw [Nat.add_zero, Nat.mod_eq_of_lt h.front_lt]
  · refine List.map_congr_left fun i _ => ?_
    show f.slots ((f.front + (i + 1)) % n) = f.slots ((next n f.front + i) % n)
    rw [next_eq h.front_lt, Nat.mod_add_mod, Nat.add_assoc, Nat.add_comm 1 i]

/-- **A pop takes it away.** -/
theorem Sound.contents_pop (h : f.Sound n) : (f.pop n).contents n = (f.contents n).tail := by
  by_cases hcount : f.count = 0
  · have hpop : f.pop n = f := if_pos hcount
    rw [hpop, contents_eq_nil_iff.2 hcount, List.tail_nil]
  · rw [h.contents_cons hcount, List.tail_cons]

theorem Sound.head? (h : f.Sound n) (hcount : f.count ≠ 0) :
    (f.contents n).head? = some f.peek := by
  rw [h.contents_cons hcount, List.head?_cons]

end WrapFifo

end EsbEndpoint
