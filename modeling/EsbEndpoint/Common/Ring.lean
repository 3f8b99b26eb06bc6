import Mathlib.Data.List.Range
import Mathlib.Data.Nat.ModEq

/-!
# Rings with free-running counters

A ring buffer whose two counters are machine words that only ever count
up: `head` is bumped by a push and `tail` by a pop, both wrap at `2 ^ w`,
and a slot is found by an index map such as `· % n`. The unconsumed
entries are the slots from `tail` up to `head`, and the ring is a queue
just as long as a push never lands on one of them: `contents_push_iff` is
that condition, exactly, and `room_of_dvd` the usual way to meet it.
-/

namespace EsbEndpoint

/-- The storage and the two counters. Slots are a function, read and
written only where the index map points. -/
structure Ring (w : Nat) (α : Type*) where
  slots : Nat → α
  head : BitVec w
  tail : BitVec w

namespace Ring

variable {w : Nat} {α : Type*} (index : BitVec w → Nat) (r : Ring w α) (a : α)

/-- The empty ring over a constant storage. -/
def empty (a : α) : Ring w α := ⟨fun _ => a, 0, 0⟩

def isEmpty : Bool := r.tail == r.head

/-- Write the slot `head` points at and step past it. -/
def push : Ring w α :=
  { r with
    slots := fun j => if j = index r.head then a else r.slots j
    head := r.head + 1 }

/-- The oldest unconsumed entry, if there is one. -/
def front : α := r.slots (index r.tail)

def pop : Ring w α := { r with tail := r.tail + 1 }

/-- A pop that an empty ring ignores. -/
def consume : Ring w α := if r.isEmpty then r else r.pop

/-- Forget every unconsumed entry. -/
def reset : Ring w α := { r with tail := r.head }

@[simp] theorem isEmpty_reset : r.reset.isEmpty = true := by rw [isEmpty, reset, beq_self_eq_true]

/-- The number of unconsumed entries. -/
def live : Nat := (r.head - r.tail).toNat

/-- The entry `i` places after the tail. -/
def entry (i : Nat) : α := r.slots (index (r.tail + BitVec.ofNat w i))

/-- The unconsumed entries, oldest first. -/
def contents : List α := (List.range r.live).map (r.entry index)

@[simp] theorem length_contents : (r.contents index).length = r.live := by
  simp only [contents, List.length_map, List.length_range]

theorem isEmpty_iff : r.isEmpty = true ↔ r.live = 0 := by
  simp only [isEmpty, live, beq_iff_eq]
  constructor
  · intro h
    simp only [h, BitVec.sub_self, BitVec.toNat_ofNat, Nat.zero_mod]
  · intro h
    have hz : r.head - r.tail = 0#w := BitVec.eq_of_toNat_eq (by simpa using h)
    rw [BitVec.sub_eq_iff_eq_add.1 hz, BitVec.zero_add]

theorem reset_of_isEmpty (h : r.isEmpty = true) : r.reset = r := by
  obtain ⟨slots, head, tail⟩ := r
  have hsame : tail = head := by simpa only [isEmpty, beq_iff_eq] using h
  subst hsame
  rfl

theorem live_pos (h : r.isEmpty = false) : 0 < r.live := by
  rcases Nat.eq_zero_or_pos r.live with h0 | hpos
  · rw [(isEmpty_iff r).2 h0] at h
    exact Bool.noConfusion h
  · exact hpos

theorem contents_eq_nil_iff : r.contents index = [] ↔ r.isEmpty = true := by
  rw [isEmpty_iff, ← List.length_eq_zero_iff, length_contents]

@[simp] theorem contents_reset : r.reset.contents index = [] := by
  rw [contents_eq_nil_iff, isEmpty_reset]

@[simp] theorem contents_empty : (empty a : Ring w α).contents index = [] := by
  rw [contents_eq_nil_iff, isEmpty, empty, beq_self_eq_true]

/-! ## Popping -/

theorem live_pop (h : r.isEmpty = false) : r.live = r.pop.live + 1 := by
  have hpos : 0 < (r.head - r.tail).toNat := live_pos r h
  have hlt : (r.head - r.tail).toNat < 2 ^ w := (r.head - r.tail).isLt
  have hone : (1#w).toNat = 1 := by
    rw [BitVec.toNat_ofNat]
    exact Nat.mod_eq_of_lt (by omega)
  have hpop : r.pop.head - r.pop.tail = (r.head - r.tail) - 1#w :=
    (BitVec.sub_sub r.head r.tail 1#w).symm
  have hle : 1#w ≤ r.head - r.tail := BitVec.le_def.2 (by omega)
  have hlive : r.pop.live = (r.head - r.tail).toNat - 1 := by
    rw [live, hpop, BitVec.toNat_sub_of_le hle, hone]
  rw [hlive, live]
  omega

theorem entry_pop (i : Nat) : r.pop.entry index i = r.entry index (i + 1) := by
  have hofNat : (BitVec.ofNat w (i + 1)) = 1 + BitVec.ofNat w i := by
    rw [Nat.add_comm, BitVec.ofNat_add, BitVec.ofNat_eq_ofNat]
  rw [entry, entry, pop, hofNat, BitVec.add_assoc]

theorem front_eq_entry : r.front index = r.entry index 0 := by
  rw [front, entry, BitVec.add_zero]

/-- **A pop takes the oldest entry.** -/
theorem contents_eq_cons (h : r.isEmpty = false) :
    r.contents index = r.front index :: r.pop.contents index := by
  rw [contents, live_pop r h, List.range_succ_eq_map, List.map_cons, List.map_map, contents,
    front_eq_entry]
  congr 1
  exact List.map_congr_left fun i _ => (entry_pop index r i).symm

variable {index} {r} {a} in
/-- So a ring whose contents are known pops their head. -/
theorem of_contents_eq_cons {as : List α} (h : r.contents index = a :: as) :
    r.isEmpty = false ∧ r.front index = a ∧ r.consume.contents index = as := by
  have hempty : r.isEmpty = false := by
    rw [← Bool.not_eq_true, ← contents_eq_nil_iff index, h]
    exact List.cons_ne_nil a as
  rw [contents_eq_cons index r hempty, List.cons.injEq] at h
  refine ⟨hempty, h.1, ?_⟩
  rw [consume, hempty, if_neg Bool.false_ne_true]
  exact h.2

/-! ## Pushing -/

/-- The slot `a` goes to is free, or holds `a` already. -/
def Room : Prop :=
  ∀ i < r.live, index (r.tail + BitVec.ofNat w i) = index r.head → r.entry index i = a

instance [DecidableEq α] : Decidable (r.Room index a) :=
  inferInstanceAs (Decidable (∀ i < r.live, _ → _))

theorem room_of_isEmpty (h : r.isEmpty = true) : r.Room index a := by
  intro i hi
  rw [(isEmpty_iff r).1 h] at hi
  exact absurd hi (Nat.not_lt_zero i)

theorem head_eq : r.head = r.tail + BitVec.ofNat w r.live := by
  rw [live, BitVec.ofNat_toNat, BitVec.setWidth_eq, BitVec.add_comm]
  exact (BitVec.sub_add_cancel r.head r.tail).symm

theorem live_push (h : r.live + 1 < 2 ^ w) : (r.push index a).live = r.live + 1 := by
  have hpush : (r.push index a).head - (r.push index a).tail = BitVec.ofNat w (r.live + 1) := by
    simp only [push]
    rw [head_eq r, BitVec.ofNat_add, BitVec.add_assoc, BitVec.add_comm r.tail,
      BitVec.add_sub_cancel, BitVec.ofNat_eq_ofNat]
  rw [live, hpush, BitVec.toNat_ofNat, Nat.mod_eq_of_lt h]

theorem entry_push (i : Nat) : (r.push index a).entry index i =
    if index (r.tail + BitVec.ofNat w i) = index r.head then a else r.entry index i := rfl

theorem entry_push_live : (r.push index a).entry index r.live = a := by
  rw [entry_push, ← head_eq r, if_pos rfl]

/-- **A push is an append, exactly when there is room for it.** -/
theorem contents_push_iff (h : r.live + 1 < 2 ^ w) :
    (r.push index a).contents index = r.contents index ++ [a] ↔ r.Room index a := by
  rw [contents, live_push index r a h, List.range_succ, List.map_append, List.map_cons,
    List.map_nil, entry_push_live, List.append_left_inj, contents, List.map_inj_left]
  constructor
  · intro heq i hi hidx
    have := heq i (List.mem_range.2 hi)
    rw [entry_push, if_pos hidx] at this
    exact this.symm
  · intro hroom i hi
    rw [entry_push]
    split
    · rename_i hidx
      exact (hroom i (List.mem_range.1 hi) hidx).symm
    · rfl

theorem contents_reset_push (hw : 1 < 2 ^ w) : (r.reset.push index a).contents index = [a] := by
  have hempty := isEmpty_reset r
  have hlive : r.reset.live + 1 < 2 ^ w := by
    rw [(isEmpty_iff _).1 hempty]
    exact hw
  rw [(contents_push_iff index r.reset a hlive).2 (room_of_isEmpty index _ a hempty),
    contents_reset, List.nil_append]

variable {index} {r} in
/-- The same for a ring that holds the images of a queue. -/
theorem contents_push_map_iff {β : Type*} {g : β → α} {xs : List β} {x : β}
    (h : r.contents index = xs.map g) (hlen : xs.length + 1 < 2 ^ w) :
    (r.push index (g x)).contents index = (xs ++ [x]).map g ↔ r.Room index (g x) := by
  have hlive : r.live = xs.length := by
    rw [← length_contents index, h, List.length_map]
  rw [List.map_append, List.map_cons, List.map_nil, ← h]
  exact contents_push_iff index r (g x) (by omega)

/-- Fewer than `n` consecutive counts fall on distinct residues. -/
theorem add_mod_ne {t i j n : Nat} (hij : i < j) (hj : j < n) : (t + i) % n ≠ (t + j) % n := by
  intro h
  have hmod : i % n = j % n := Nat.ModEq.add_left_cancel' t h
  rw [Nat.mod_eq_of_lt hj, Nat.mod_eq_of_lt (hij.trans hj)] at hmod
  omega

theorem toNat_add_ofNat (t : BitVec w) {i : Nat} (hi : i < 2 ^ w) :
    (t + BitVec.ofNat w i).toNat = (t.toNat + i) % 2 ^ w := by
  rw [BitVec.toNat_add, BitVec.toNat_ofNat, Nat.mod_eq_of_lt hi]

/-- **Room, the usual way**: indexing by `· % n` where `n` divides the
counter's range, with fewer than `n` entries unconsumed. -/
theorem room_of_dvd {n : Nat} (hn : n ∣ 2 ^ w) (hindex : ∀ c, index c = c.toNat % n)
    (hlive : r.live < n) : r.Room index a := by
  intro i hi hidx
  have hlt : r.live < 2 ^ w := (r.head - r.tail).isLt
  rw [head_eq r, hindex, hindex, toNat_add_ofNat _ hlt, toNat_add_ofNat _ (hi.trans hlt),
    Nat.mod_mod_of_dvd _ hn, Nat.mod_mod_of_dvd _ hn] at hidx
  exact absurd hidx (add_mod_ne hi hlive)

/-- A mask of `k` ones takes the residue of `2 ^ k`. -/
theorem toNat_and_mask (c : BitVec w) {k : Nat} (hk : k ≤ w) :
    (c &&& BitVec.ofNat w (2 ^ k - 1)).toNat = c.toNat % 2 ^ k := by
  have hpow : 2 ^ k ≤ 2 ^ w := Nat.pow_le_pow_right (by decide) hk
  have hpos : 0 < 2 ^ k := Nat.two_pow_pos k
  rw [BitVec.toNat_and, BitVec.toNat_ofNat, Nat.mod_eq_of_lt (by omega),
    Nat.and_two_pow_sub_one_eq_mod]

/-- **Room under a mask**: fewer than `2 ^ k` entries are unconsumed. -/
theorem room_of_mask {k : Nat} (hk : k ≤ w)
    (hindex : ∀ c, index c = (c &&& BitVec.ofNat w (2 ^ k - 1)).toNat) (hlive : r.live < 2 ^ k) :
    r.Room index a :=
  room_of_dvd index r a (Nat.pow_dvd_pow 2 hk)
    (fun c => (hindex c).trans (toNat_and_mask c hk)) hlive

end Ring

end EsbEndpoint
