import EsbEndpoint.Common.Ring
import EsbEndpoint.Common.Run

/-!
# Rings as queues, over runs

A ring beside the list of records pushed and not yet consumed. A ring
indexed by `· % n` is that queue as long as its counters have not wrapped,
and for good if `n` divides their range. If it does not, the counts on the
two sides of a wrap are out of step: for the first `2 ^ w % n` counts after
it, a push lands on a slot that may still be outstanding
(`room_mod_iff`), and the ring is a queue just when what it overwrites
there makes no difference (`isQueue_iff_keepsOldest`).
-/

namespace EsbEndpoint

namespace Ring

variable {w n : Nat} {α : Type*} {index : BitVec w → Nat} {r : Ring w α} {a : α}

/-- Residues on the two sides of a wrap are `W % n` out of step. -/
theorem mod_wrap_iff {t l i n W : Nat} (hwrap : W ≤ t + l) (hi : i < l) (hl : l < n) :
    (t + i) % n = (t + l - W) % n ↔ i + W % n = l := by
  have hrest : W % n < n := Nat.mod_lt _ (Nat.zero_lt_of_lt hl)
  have hmod : i + W % n ≡ i + W [MOD n] := (Nat.mod_modEq W n).add_left i
  have hsum : t + l - W + W = t + l := Nat.sub_add_cancel hwrap
  constructor
  · intro h
    have hadd : t + i + W ≡ t + l [MOD n] := hsum ▸ Nat.ModEq.add_right W h
    rw [Nat.add_assoc] at hadd
    have hstep : i + W % n ≡ l [MOD n] := hmod.trans (Nat.ModEq.add_left_cancel' t hadd)
    rcases Nat.lt_or_ge (i + W % n) n with hlt | hge
    · exact hstep.eq_of_lt_of_lt hlt hl
    · -- one turn further it would be below `i`
      have hturn := (Nat.sub_modulus_modEq_iff hge).2 hstep
      have := hturn.eq_of_lt_of_lt (by omega) hl
      omega
  · intro h
    have hadd : t + (i + W) ≡ t + l [MOD n] := (hmod.symm.trans (congrArg (· % n) h)).add_left t
    rw [← hsum, ← Nat.add_assoc] at hadd
    exact Nat.ModEq.add_right_cancel' W hadd

/-- **Which entry a push lands on**: none but the one pushed `2 ^ w % n`
counts before it, and that only as long after a wrap. -/
theorem index_eq_head_iff (hnw : n ≤ 2 ^ w) (hindex : ∀ c, index c = c.toNat % n)
    (hlive : r.live < n) {i : Nat} (hi : i < r.live) :
    index (r.tail + BitVec.ofNat w i) = index r.head ↔
      r.head.toNat < 2 ^ w % n ∧ i + 2 ^ w % n = r.live := by
  have htail : r.tail.toNat < 2 ^ w := r.tail.isLt
  have hslot : (r.tail + BitVec.ofNat w i).toNat = (r.tail.toNat + i) % 2 ^ w :=
    toNat_add_ofNat _ ((hi.trans hlive).trans_le hnw)
  have hhead : r.head.toNat = (r.tail.toNat + r.live) % 2 ^ w :=
    (congrArg BitVec.toNat (head_eq r)).trans (toNat_add_ofNat _ (hlive.trans_le hnw))
  rw [hindex, hindex, hslot, hhead]
  rcases Nat.lt_or_ge (r.tail.toNat + r.live) (2 ^ w) with hflat | hwrap
  · -- no wrap between tail and head
    have hbefore : r.tail.toNat + i < 2 ^ w := (Nat.add_lt_add_left hi _).trans hflat
    rw [Nat.mod_eq_of_lt hflat, Nat.mod_eq_of_lt hbefore]
    exact iff_of_false (add_mod_ne hi hlive) (by omega)
  · have hpast : (r.tail.toNat + r.live) % 2 ^ w = r.tail.toNat + r.live - 2 ^ w := by
      rw [Nat.mod_eq_sub_mod hwrap]
      exact Nat.mod_eq_of_lt (by omega)
    rw [hpast]
    rcases Nat.lt_or_ge (r.tail.toNat + i) (2 ^ w) with hbefore | hafter
    · -- the entry is before the wrap
      rw [Nat.mod_eq_of_lt hbefore, mod_wrap_iff hwrap hi hlive]
      exact ⟨fun h => ⟨by omega, h⟩, fun h => h.2⟩
    · -- both are past it
      have hpast' : (r.tail.toNat + i) % 2 ^ w = r.tail.toNat + i - 2 ^ w := by
        rw [Nat.mod_eq_sub_mod hafter]
        exact Nat.mod_eq_of_lt (by omega)
      have hne := @add_mod_ne (r.tail.toNat + i - 2 ^ w) 0 (r.live - i) n (by omega) (by omega)
      have hsum : r.tail.toNat + i - 2 ^ w + (r.live - i) = r.tail.toNat + r.live - 2 ^ w := by
        omega
      rw [Nat.add_zero, hsum] at hne
      rw [hpast']
      exact iff_of_false hne (by omega)

/-- **Room under a residue**: past a wrap, the entry `2 ^ w % n` counts back
is not lost. -/
theorem room_mod_iff (hnw : n ≤ 2 ^ w) (hindex : ∀ c, index c = c.toNat % n)
    (hlive : r.live < n) :
    r.Room index a ↔ (r.head.toNat < 2 ^ w % n → 2 ^ w % n ≤ r.live →
      r.entry index (r.live - 2 ^ w % n) = a) := by
  constructor
  · intro h hwrapped hle
    exact h _ (by omega) ((index_eq_head_iff hnw hindex hlive (by omega)).2 ⟨hwrapped, by omega⟩)
  · intro h i hi hlands
    obtain ⟨hwrapped, heq⟩ := (index_eq_head_iff hnw hindex hlive hi).1 hlands
    have hi' : r.live - 2 ^ w % n = i := by omega
    exact hi' ▸ h hwrapped (by omega)

end Ring

/-! ## Runs -/

inductive RingOp (α : Type*) where
  | push (a : α)
  | consume

/-- A ring, and the records pushed and not yet consumed. -/
structure QueueTrace (w : Nat) (α : Type*) where
  ring : Ring w α
  outstanding : List α := []

section Queue

variable {w : Nat} {α : Type*} (index : BitVec w → Nat) (n : Nat)

def queueStep (t : QueueTrace w α) : RingOp α → QueueTrace w α
  | .push a => ⟨t.ring.push index a, t.outstanding ++ [a]⟩
  | .consume => ⟨t.ring.consume, t.outstanding.tail⟩

/-- **The ring is the queue of the records outstanding**: it is seen as
empty when there are none, the next consume returns the oldest, and the
consumes after it return the rest in order. -/
structure IsQueue (t : QueueTrace w α) : Prop where
  empty_iff : t.ring.isEmpty = true ↔ t.outstanding = []
  front : ∀ a ∈ t.outstanding.head?, t.ring.front index = a
  contents : t.ring.contents index = t.outstanding

/-- At most `n` records are outstanding. -/
def AtMost (t : QueueTrace w α) : RingOp α → Prop
  | .push _ => t.outstanding.length < n
  | .consume => True

instance (t : QueueTrace w α) : (op : RingOp α) → Decidable (AtMost n t op)
  | .push _ => inferInstanceAs (Decidable (_ < _))
  | .consume => inferInstanceAs (Decidable True)

/-- The condition on a push: in the first `2 ^ w % n` counts after a wrap,
the record pushed that many counts before, if it is still outstanding, is
the same. -/
def KeepsOldest (t : QueueTrace w α) : RingOp α → Prop
  | .push a =>
    t.ring.head.toNat < 2 ^ w % n → 2 ^ w % n ≤ t.outstanding.length →
      t.outstanding[t.outstanding.length - 2 ^ w % n]? = some a
  | .consume => True

variable {index n} {t : QueueTrace w α}

theorem isQueue_iff : IsQueue index t ↔ t.ring.contents index = t.outstanding := by
  refine ⟨IsQueue.contents, fun h => ⟨?_, fun a ha => ?_, h⟩⟩
  · rw [← h, Ring.contents_eq_nil_iff]
  · obtain ⟨as, has⟩ := List.head?_eq_some_iff.1 ha
    exact (Ring.of_contents_eq_cons (h.trans has)).2.1

/-- A consume keeps the queue. -/
theorem IsQueue.consume (h : IsQueue index t) : IsQueue index (queueStep index t .consume) := by
  rw [isQueue_iff]
  show t.ring.consume.contents index = t.outstanding.tail
  cases hout : t.outstanding with
  | nil =>
    rw [Ring.consume, if_pos (h.empty_iff.2 hout), h.contents, hout, List.tail_nil]
  | cons a as => exact (Ring.of_contents_eq_cons (h.contents.trans hout)).2.2

/-- **A push keeps the queue exactly on its condition.** -/
theorem isQueue_push_iff (hnw : n < 2 ^ w) (hindex : ∀ c, index c = c.toNat % n)
    (h : IsQueue index t) {a : α} (hlen : t.outstanding.length < n) :
    IsQueue index (queueStep index t (.push a)) ↔ KeepsOldest n t (.push a) := by
  have hlive : t.outstanding.length = t.ring.live := by
    rw [← h.contents, Ring.length_contents]
  rw [isQueue_iff]
  show (t.ring.push index a).contents index = t.outstanding ++ [a] ↔ _
  rw [← h.contents, Ring.contents_push_iff index t.ring a (by omega),
    Ring.room_mod_iff hnw.le hindex (by omega), KeepsOldest, hlive]
  refine forall_congr' fun hwrapped => forall_congr' fun hle => ?_
  have hlt : t.ring.live - 2 ^ w % n < t.ring.live := by omega
  rw [← h.contents, Ring.contents, List.getElem?_map, List.getElem?_range hlt, Option.map_some,
    Option.some_inj]

/-- **Runs of a ring, exactly**: it stays the queue of the records
outstanding just when every push meets its condition. -/
theorem isQueue_iff_keepsOldest (hnw : n < 2 ^ w) (hindex : ∀ c, index c = c.toNat % n)
    {ops : List (RingOp α)} (h : IsQueue index t)
    (hwithin : Guarded (queueStep index) (AtMost n) t ops) :
    Throughout (queueStep index) (IsQueue index) t ops ↔
      Guarded (queueStep index) (KeepsOldest n) t ops := by
  refine throughout_iff_guarded (I := fun _ => True) (fun _ _ _ _ => trivial) ?_ trivial h hwithin
  intro t op _ hop ht
  cases op with
  | push a => exact isQueue_push_iff hnw hindex ht hop
  | consume => exact iff_of_true ht.consume trivial

/-- So it stays one for good if `n` divides the range. -/
theorem isQueue_of_dvd (hnw : n < 2 ^ w) (hindex : ∀ c, index c = c.toNat % n)
    (hn : n ∣ 2 ^ w) {ops : List (RingOp α)} (h : IsQueue index t)
    (hwithin : Guarded (queueStep index) (AtMost n) t ops) :
    Throughout (queueStep index) (IsQueue index) t ops := by
  refine (isQueue_iff_keepsOldest hnw hindex h hwithin).2 (Guarded.of_forall fun t op => ?_)
  cases op with
  | push a =>
    intro hwrapped
    rw [Nat.mod_eq_zero_of_dvd hn] at hwrapped
    exact absurd hwrapped (Nat.not_lt_zero _)
  | consume => trivial

/-- An empty ring is the empty queue. -/
theorem isQueue_empty (a : α) : IsQueue index ⟨Ring.empty a, []⟩ :=
  isQueue_iff.2 (Ring.contents_empty index a)

/-- Records that are consumed as they come move the counters only. -/
theorem run_pairs (hn : 0 < n) (a : α) (k : Nat) (h : t.outstanding = []) :
    Guarded (queueStep index) (AtMost n) t (List.replicate k [.push a, .consume]).flatten ∧
      (runFrom (queueStep index) t (List.replicate k [.push a, .consume]).flatten).outstanding =
        [] ∧
      (runFrom (queueStep index) t (List.replicate k [.push a, .consume]).flatten).ring.head =
        t.ring.head + BitVec.ofNat w k := by
  induction k generalizing t with
  | zero => exact ⟨trivial, h, (BitVec.add_zero _).symm⟩
  | succ k ih =>
    have hhead : ∀ r : Ring w α, r.consume.head = r.head := fun r => by
      rw [Ring.consume]
      split
      · rfl
      · rfl
    have houtstanding : (queueStep index (queueStep index t (.push a)) .consume).outstanding =
        [] := by
      show (t.outstanding ++ [a]).tail = []
      rw [h]
      rfl
    obtain ⟨hguarded, hout, hcount⟩ := ih houtstanding
    rw [List.replicate_succ, List.flatten_cons, List.cons_append, List.cons_append, List.nil_append,
      runFrom_cons, runFrom_cons]
    refine ⟨⟨?_, trivial, hguarded⟩, hout, ?_⟩
    · show t.outstanding.length < n
      rw [h]
      exact hn
    · rw [hcount]
      show (t.ring.push index a).consume.head + _ = _
      rw [hhead, Ring.push, BitVec.add_assoc, Nat.add_comm k 1, BitVec.ofNat_add]
      rfl

/-- Records that pile up. -/
theorem run_pushes (a : α) (k : Nat) (h : t.outstanding.length + k ≤ n) :
    Guarded (queueStep index) (AtMost n) t (List.replicate k (.push a)) ∧
      (runFrom (queueStep index) t (List.replicate k (.push a))).outstanding =
        t.outstanding ++ List.replicate k a ∧
      (runFrom (queueStep index) t (List.replicate k (.push a))).ring.head =
        t.ring.head + BitVec.ofNat w k := by
  induction k generalizing t with
  | zero => exact ⟨trivial, (List.append_nil _).symm, (BitVec.add_zero _).symm⟩
  | succ k ih =>
    have hlength : (queueStep index t (.push a)).outstanding.length + k ≤ n := by
      show (t.outstanding ++ [a]).length + k ≤ n
      rw [List.length_append, List.length_singleton]
      omega
    obtain ⟨hguarded, hout, hcount⟩ := ih hlength
    rw [List.replicate_succ, runFrom_cons]
    refine ⟨⟨?_, hguarded⟩, ?_, ?_⟩
    · show t.outstanding.length < n
      omega
    · rw [hout]
      show t.outstanding ++ [a] ++ _ = _
      rw [List.append_assoc, List.replicate_succ]
      rfl
    · rw [hcount]
      show t.ring.head + 1 + _ = _
      rw [BitVec.add_assoc, Nat.add_comm k 1, BitVec.ofNat_add]
      rfl

end Queue

end EsbEndpoint
