import Mathlib.Algebra.BigOperators.Group.Finset.Basic
import Mathlib.Algebra.Order.BigOperators.Group.Finset
import Mathlib.Data.Finset.Card
import Mathlib.Data.List.Basic

/-!
# Linked queues in one pool of cells

Queues whose cells come from a common pool: a cell says whether it is in
use and which cell is behind it, and each queue says which cell it starts
with. A cell is appended by walking to the last one. `Holds` is the meaning
of the links, a list of cells for each queue, no cell in two places and
none of the others in use; an append and the removal of a head are then
what they are on the lists.
-/

namespace EsbEndpoint

structure Pool where
  inUse : Nat → Bool := fun _ => false
  next : Nat → Option Nat := fun _ => none
  head : Nat → Option Nat := fun _ => none

namespace Pool

variable (p : Pool)

/-- The first of the `n` cells that is not in use. -/
def findFree (n : Nat) : Option Nat := (List.range n).find? fun i => !p.inUse i

/-- The last cell of a chain, walking from `i` at most `fuel` cells on. -/
def lastFrom (next : Nat → Option Nat) : Nat → Nat → Nat
  | 0, i => i
  | fuel + 1, i =>
    match next i with
    | none => i
    | some j => lastFrom next fuel j

/-- A free cell goes behind the last one of a queue. -/
def append (n q i : Nat) : Pool :=
  let p := { p with inUse := Function.update p.inUse i true, next := Function.update p.next i none }
  match p.head q with
  | none => { p with head := Function.update p.head q (some i) }
  | some j => { p with next := Function.update p.next (lastFrom p.next n j) (some i) }

/-- The first cell of a queue is free again. -/
def dropHead (q : Nat) : Pool :=
  match p.head q with
  | none => p
  | some i =>
    { p with
      inUse := Function.update p.inUse i false
      head := Function.update p.head q (p.next i) }

/-- The cells from a link on, at most `fuel` of them. -/
def cellsFrom (next : Nat → Option Nat) : Nat → Option Nat → List Nat
  | 0, _ => []
  | _ + 1, none => []
  | fuel + 1, some i => i :: cellsFrom next fuel (next i)

/-- The cells of a queue. -/
def cellsOf (n q : Nat) : List Nat := cellsFrom p.next n (p.head q)

/-! ## Chains -/

/-- The cells from a link on. -/
def Chain (next : Nat → Option Nat) : Option Nat → List Nat → Prop
  | link, [] => link = none
  | link, i :: is => link = some i ∧ Chain next (next i) is

variable {p} {next next' : Nat → Option Nat} {link : Option Nat} {i j q n m : Nat} {is : List Nat}

theorem Chain.head? (h : Chain next link is) : link = is.head? := by
  cases is with
  | nil => exact h
  | cons i is => exact h.1

/-- A chain is what walking it finds. -/
theorem Chain.cellsFrom_eq (h : Chain next link is) {fuel : Nat} (hfuel : is.length ≤ fuel) :
    cellsFrom next fuel link = is := by
  induction is generalizing link fuel with
  | nil =>
    obtain rfl : link = none := h
    cases fuel <;> rfl
  | cons i is ih =>
    obtain ⟨rfl, hrest⟩ := h
    cases fuel with
    | zero => exact absurd hfuel (Nat.not_succ_le_zero _)
    | succ fuel =>
      rw [cellsFrom, ih hrest (Nat.le_of_succ_le_succ hfuel)]

/-- A chain does not see what is behind other cells. -/
theorem Chain.congr (hsame : ∀ i ∈ is, next' i = next i) (h : Chain next link is) :
    Chain next' link is := by
  induction is generalizing link with
  | nil => exact h
  | cons i is ih =>
    have htail : ∀ j ∈ is, next' j = next j := fun j hj => hsame j (List.mem_cons_of_mem i hj)
    refine ⟨h.1, ?_⟩
    rw [hsame i List.mem_cons_self]
    exact ih htail h.2

/-- The walk ends on the last cell. -/
theorem Chain.lastFrom_eq (h : Chain next (some j) (is ++ [i])) {fuel : Nat}
    (hfuel : is.length ≤ fuel) : lastFrom next fuel j = i := by
  induction is generalizing j fuel with
  | nil =>
    obtain ⟨hj, hend⟩ := h
    obtain rfl := Option.some.inj hj
    cases fuel with
    | zero => rfl
    | succ fuel =>
      have hnone : next j = none := hend
      rw [lastFrom, hnone]
  | cons k is ih =>
    obtain ⟨hj, hrest⟩ := h
    obtain rfl := Option.some.inj hj
    cases fuel with
    | zero => exact absurd hfuel (Nat.not_succ_le_zero _)
    | succ fuel =>
      obtain ⟨l, hl⟩ : ∃ l, next j = some l := by
        rw [Chain.head? hrest]
        cases is with
        | nil => exact ⟨i, rfl⟩
        | cons l is => exact ⟨l, rfl⟩
      rw [hl] at hrest
      rw [lastFrom, hl]
      exact ih hrest (Nat.le_of_succ_le_succ hfuel)

/-- A cell behind the last one makes the chain longer. -/
theorem Chain.snoc (h : Chain next link (is ++ [i])) (hnodup : (is ++ [i]).Nodup)
    (hfresh : j ∉ is ++ [i]) (hend : next j = none) :
    Chain (Function.update next i (some j)) link (is ++ [i, j]) := by
  have hij : j ≠ i := fun heq => hfresh (by rw [heq]; simp)
  induction is generalizing link with
  | nil =>
    refine ⟨h.1, ?_, ?_⟩
    · rw [Function.update_self]
    · show Function.update next i (some j) j = none
      rw [Function.update_of_ne hij, hend]
  | cons k is ih =>
    rw [List.cons_append, List.nodup_cons] at hnodup
    have hki : k ≠ i := fun heq => hnodup.1 (by rw [heq]; simp)
    refine ⟨h.1, ?_⟩
    rw [Function.update_of_ne hki]
    exact ih h.2 hnodup.2 fun hmem => hfresh (List.mem_cons_of_mem k hmem)

/-! ## What the links hold -/

/-- **The meaning of the links**: the `m` queues are the lists `cells`, of
cells below `n`, and what is in use is in one of them, in one place. -/
structure Holds (p : Pool) (n m : Nat) (cells : Nat → List Nat) : Prop where
  chain : ∀ q, Chain p.next (p.head q) (cells q)
  nodup : ∀ q, (cells q).Nodup
  disjoint : ∀ q q' i, i ∈ cells q → i ∈ cells q' → q = q'
  inUse_iff : ∀ i, p.inUse i = true ↔ ∃ q, i ∈ cells q
  cell_lt : ∀ q i, i ∈ cells q → i < n
  queue_lt : ∀ q i, i ∈ cells q → q < m

/-- How many cells the `m` queues hold. -/
def size (m : Nat) (cells : Nat → List Nat) : Nat := ∑ q ∈ Finset.range m, (cells q).length

variable {cells : Nat → List Nat}

theorem size_update (hq : q < m) (l : List Nat) :
    size m (Function.update cells q l) + (cells q).length = size m cells + l.length := by
  have hmem : q ∈ Finset.range m := Finset.mem_range.2 hq
  have hrest : ∑ q' ∈ (Finset.range m).erase q, (Function.update cells q l q').length =
      ∑ q' ∈ (Finset.range m).erase q, (cells q').length := by
    refine Finset.sum_congr rfl fun q' hq' => ?_
    rw [Function.update_of_ne (Finset.ne_of_mem_erase hq')]
  unfold size
  rw [← Finset.sum_erase_add _ _ hmem, ← Finset.sum_erase_add _ (fun q' => (cells q').length) hmem,
    hrest, Function.update_self]
  omega

theorem holds_empty (n m : Nat) : Holds {} n m fun _ => [] where
  chain _ := rfl
  nodup _ := List.nodup_nil
  disjoint _ _ _ h := absurd h List.not_mem_nil
  inUse_iff _ := ⟨fun h => Bool.noConfusion h, fun ⟨_, h⟩ => absurd h List.not_mem_nil⟩
  cell_lt _ _ h := absurd h List.not_mem_nil
  queue_lt _ _ h := absurd h List.not_mem_nil

@[simp] theorem size_empty : size m (fun _ => []) = 0 := by
  rw [size, List.length_nil, Finset.sum_const_zero]

/-- **There is a free cell** as long as the queues hold fewer than there
are. -/
theorem Holds.exists_free (h : Holds p n m cells) (hsize : size m cells < n) :
    ∃ i, p.findFree n = some i ∧ i < n ∧ p.inUse i = false := by
  cases hfind : p.findFree n with
  | some i =>
    have hfree : p.inUse i = false := by simpa using List.find?_some hfind
    exact ⟨i, rfl, List.mem_range.1 (List.mem_of_find?_eq_some hfind), hfree⟩
  | none =>
    -- every cell is in some queue, so there are at most as many cells as places
    have hall : ∀ i < n, ∃ q, i ∈ cells q := by
      intro i hi
      have hused := List.find?_eq_none.1 hfind i (List.mem_range.2 hi)
      rw [Bool.not_eq_true', Bool.not_eq_false] at hused
      exact (h.inUse_iff i).1 hused
    have hsub : Finset.range n ⊆
        (Finset.range m).biUnion fun q => (cells q).toFinset := by
      intro i hi
      obtain ⟨q, hmem⟩ := hall i (Finset.mem_range.1 hi)
      exact Finset.mem_biUnion.2
        ⟨q, Finset.mem_range.2 (h.queue_lt q i hmem), List.mem_toFinset.2 hmem⟩
    have hcard : n ≤ size m cells :=
      calc n = (Finset.range n).card := (Finset.card_range n).symm
        _ ≤ _ := Finset.card_le_card hsub
        _ ≤ ∑ q ∈ Finset.range m, (cells q).toFinset.card := Finset.card_biUnion_le
        _ ≤ size m cells := Finset.sum_le_sum fun q _ => List.toFinset_card_le (cells q)
    omega

/-- A queue holds no more cells than there are. -/
theorem Holds.length_le (h : Holds p n m cells) (q : Nat) : (cells q).length ≤ n := by
  have hsub : (cells q).toFinset ⊆ Finset.range n := fun i hi =>
    Finset.mem_range.2 (h.cell_lt q i (List.mem_toFinset.1 hi))
  have hcard := Finset.card_le_card hsub
  rw [List.toFinset_card_of_nodup (h.nodup q), Finset.card_range] at hcard
  exact hcard

theorem Holds.cellsOf_eq (h : Holds p n m cells) (q : Nat) : p.cellsOf n q = cells q :=
  (h.chain q).cellsFrom_eq (h.length_le q)

/-- The parts of `Holds` that are about the lists, after one of them has
changed by cells of no other queue. -/
theorem Holds.of_update {p' : Pool} (h : Holds p n m cells) {l : List Nat}
    (hchain : ∀ q', Chain p'.next (p'.head q') (Function.update cells q l q'))
    (hinUse : ∀ i, p'.inUse i = true ↔ ∃ q', i ∈ Function.update cells q l q')
    (hnodup : l.Nodup) (hown : ∀ i ∈ l, ∀ q', i ∈ cells q' → q' = q) (hlt : ∀ i ∈ l, i < n)
    (hq : l ≠ [] → q < m) : Holds p' n m (Function.update cells q l) := by
  have hmem : ∀ {q' i}, i ∈ Function.update cells q l q' →
      q' = q ∧ i ∈ l ∨ q' ≠ q ∧ i ∈ cells q' := by
    intro q' i hi
    by_cases heq : q' = q
    · subst heq
      rw [Function.update_self] at hi
      exact Or.inl ⟨rfl, hi⟩
    · rw [Function.update_of_ne heq] at hi
      exact Or.inr ⟨heq, hi⟩
  refine ⟨hchain, fun q' => ?_, fun q₁ q₂ i h₁ h₂ => ?_, hinUse, fun q' i hi => ?_,
    fun q' i hi => ?_⟩
  · by_cases heq : q' = q
    · subst heq
      rw [Function.update_self]
      exact hnodup
    · rw [Function.update_of_ne heq]
      exact h.nodup q'
  · rcases hmem h₁ with ⟨rfl, hl₁⟩ | ⟨hne₁, hc₁⟩
    · rcases hmem h₂ with ⟨rfl, -⟩ | ⟨-, hc₂⟩
      · rfl
      · exact (hown i hl₁ q₂ hc₂).symm
    · rcases hmem h₂ with ⟨rfl, hl₂⟩ | ⟨-, hc₂⟩
      · exact hown i hl₂ q₁ hc₁
      · exact h.disjoint q₁ q₂ i hc₁ hc₂
  · rcases hmem hi with ⟨rfl, hl⟩ | ⟨-, hc⟩
    · exact hlt i hl
    · exact h.cell_lt q' i hc
  · rcases hmem hi with ⟨rfl, hl⟩ | ⟨-, hc⟩
    · exact hq (List.ne_nil_of_mem hl)
    · exact h.queue_lt q' i hc

/-- **An append is one on the list.** -/
theorem Holds.append (h : Holds p n m cells) (hq : q < m) (hi : i < n)
    (hfree : p.inUse i = false) :
    Holds (p.append n q i) n m (Function.update cells q (cells q ++ [i])) := by
  have hfresh : ∀ q', i ∉ cells q' := fun q' hmem =>
    Bool.noConfusion (hfree.symm.trans ((h.inUse_iff i).2 ⟨q', hmem⟩))
  -- taking the cell out of the pool leaves every chain alone
  have htaken : ∀ q', Chain (Function.update p.next i none) (p.head q') (cells q') := fun q' =>
    Chain.congr
      (fun j hj => Function.update_of_ne (fun heq : j = i => hfresh q' (heq ▸ hj)) _ _) (h.chain q')
  have hinUse : (p.append n q i).inUse = Function.update p.inUse i true := by
    unfold Pool.append
    dsimp only
    split <;> rfl
  have hchain : ∀ q', Chain (p.append n q i).next ((p.append n q i).head q')
      (Function.update cells q (cells q ++ [i]) q') := by
    intro q'
    unfold Pool.append
    dsimp only
    cases hhead : p.head q with
    | none =>
      have hnil : cells q = [] := by
        rw [← List.head?_eq_none_iff, ← (h.chain q).head?]
        exact hhead
      dsimp only
      by_cases heq : q' = q
      · subst heq
        rw [Function.update_self, Function.update_self, hnil]
        exact ⟨rfl, Function.update_self _ _ _⟩
      · rw [Function.update_of_ne heq, Function.update_of_ne heq]
        exact htaken q'
    | some j =>
      obtain ⟨is, k, hcells⟩ : ∃ is k, cells q = is ++ [k] := by
        rcases List.eq_nil_or_concat (cells q) with hnil | ⟨is, k, hcells⟩
        · have hnone := (h.chain q).head?
          rw [hhead, hnil] at hnone
          exact absurd hnone (by simp)
        · exact ⟨is, k, hcells.trans List.concat_eq_append⟩
      have hown := htaken q
      rw [hhead, hcells] at hown
      have hlength := h.length_le q
      rw [hcells, List.length_append, List.length_singleton] at hlength
      have hlast : lastFrom (Function.update p.next i none) n j = k :=
        hown.lastFrom_eq (by omega)
      have hnodup := h.nodup q
      rw [hcells] at hnodup
      dsimp only
      rw [hlast]
      by_cases heq : q' = q
      · subst heq
        have hnew := hcells ▸ hfresh q'
        rw [Function.update_self, hcells, hhead, List.append_assoc, List.singleton_append]
        exact hown.snoc hnodup hnew (Function.update_self _ _ _)
      · rw [Function.update_of_ne heq]
        refine Chain.congr (fun l hl => Function.update_of_ne (fun hlk => heq ?_) _ _) (htaken q')
        exact h.disjoint q' q l hl (by rw [hcells, hlk]; simp)
  refine h.of_update hchain (fun j => ?_) ?_ ?_ ?_ (fun _ => hq)
  · rw [hinUse]
    by_cases hj : j = i
    · subst hj
      rw [Function.update_self]
      exact iff_of_true rfl ⟨q, by rw [Function.update_self]; simp⟩
    · rw [Function.update_of_ne hj, h.inUse_iff j]
      refine exists_congr fun q' => ?_
      by_cases heq : q' = q
      · subst heq
        rw [Function.update_self, List.mem_append, List.mem_singleton]
        exact (or_iff_left hj).symm
      · rw [Function.update_of_ne heq]
  · refine List.nodup_append.2 ⟨h.nodup q, List.nodup_singleton i, fun j hj k hk hjk => ?_⟩
    obtain rfl := List.mem_singleton.1 hk
    exact hfresh q (hjk ▸ hj)
  · intro j hj q' hmem
    rcases List.mem_append.1 hj with hj | hj
    · exact h.disjoint q' q j hmem hj
    · obtain rfl := List.mem_singleton.1 hj
      exact absurd hmem (hfresh q')
  · intro j hj
    rcases List.mem_append.1 hj with hj | hj
    · exact h.cell_lt q j hj
    · obtain rfl := List.mem_singleton.1 hj
      exact hi

/-- **And the removal of a head.** -/
theorem Holds.dropHead (h : Holds p n m cells) (hcells : cells q = i :: is) :
    Holds (p.dropHead q) n m (Function.update cells q is) := by
  have hown := h.chain q
  rw [hcells] at hown
  have hnodup := h.nodup q
  rw [hcells, List.nodup_cons] at hnodup
  have hdrop : p.dropHead q =
      { p with
        inUse := Function.update p.inUse i false
        head := Function.update p.head q (p.next i) } := by
    rw [Pool.dropHead, hown.1]
  have hin : ∀ j ∈ is, j ∈ cells q := fun j hj => hcells ▸ List.mem_cons_of_mem i hj
  rw [hdrop]
  refine h.of_update (fun q' => ?_) (fun j => ?_) hnodup.2
    (fun j hj q' hmem => h.disjoint q' q j hmem (hin j hj)) (fun j hj => h.cell_lt q j (hin j hj))
    (fun _ => h.queue_lt q i (hcells ▸ List.mem_cons_self))
  · by_cases heq : q' = q
    · subst heq
      dsimp only
      rw [Function.update_self, Function.update_self]
      exact hown.2
    · dsimp only
      rw [Function.update_of_ne heq, Function.update_of_ne heq]
      exact h.chain q'
  · dsimp only
    by_cases hj : j = i
    · subst hj
      rw [Function.update_self]
      refine iff_of_false Bool.false_ne_true fun ⟨q', hmem⟩ => ?_
      by_cases heq : q' = q
      · subst heq
        rw [Function.update_self] at hmem
        exact hnodup.1 hmem
      · rw [Function.update_of_ne heq] at hmem
        exact heq (h.disjoint q' q j hmem (hcells ▸ List.mem_cons_self))
    · rw [Function.update_of_ne hj, h.inUse_iff j]
      refine exists_congr fun q' => ?_
      by_cases heq : q' = q
      · subst heq
        rw [Function.update_self, hcells, List.mem_cons]
        exact or_iff_right hj
      · rw [Function.update_of_ne heq]

end Pool

end EsbEndpoint
