import Mathlib.Algebra.Ring.Nat
import Mathlib.Data.List.Range
import Mathlib.Order.Basic

/-!
# A window of recent bits

A shift register that shows the last `W` bits of a stream in the low bits
of a word, the newest in bit zero. Its population is kept beside it by
counting the bit that comes in and the one that goes out:
`recentSet_cons` is what makes that exact.
-/

namespace EsbEndpoint

variable {n : Nat}

/-- Shift a bit into a window of `W`. -/
def shiftIn (W : Nat) (w : BitVec n) (b : Bool) : BitVec n :=
  ((w <<< 1) ||| (if b then 1#n else 0#n)) &&& BitVec.ofNat n (2 ^ W - 1)

/-- The bits of a window are the last of a history, newest first, and
zero where it is shorter. -/
def Shows (W : Nat) (w : BitVec n) (history : List Bool) : Prop :=
  ∀ i, w.getLsbD i = (decide (i < W) && history.getD i false)

/-- The number of bits set. -/
def setBits (w : BitVec n) : Nat := (List.range n).countP w.getLsbD

/-- How many of the last `W` bits of a history are set. -/
def recentSet (W : Nat) (history : List Bool) : Nat :=
  (List.range W).countP fun i => history.getD i false

variable {W : Nat} {w : BitVec n} {history : List Bool} {b : Bool}

theorem shows_zero : Shows W 0#n [] := by
  intro i
  rw [BitVec.getLsbD_zero, List.getD_nil, Bool.and_false]

theorem getLsbD_mask (hW : W ≤ n) (i : Nat) :
    (BitVec.ofNat n (2 ^ W - 1)).getLsbD i = decide (i < W) := by
  rw [BitVec.getLsbD_ofNat, Nat.testBit_two_pow_sub_one]
  by_cases hi : i < W
  · rw [decide_eq_true hi, decide_eq_true (Nat.lt_of_lt_of_le hi hW), Bool.and_self]
  · rw [decide_eq_false hi, Bool.and_false]

theorem getLsbD_shiftIn (hW : W ≤ n) (i : Nat) :
    (shiftIn W w b).getLsbD i =
      (decide (i < W) && if i = 0 then b else w.getLsbD (i - 1)) := by
  rw [shiftIn, BitVec.getLsbD_and, getLsbD_mask hW, BitVec.getLsbD_or, BitVec.getLsbD_shiftLeft]
  by_cases hi : i < W
  · have hin : i < n := Nat.lt_of_lt_of_le hi hW
    cases i with
    | zero =>
      have hone : (1#n).getLsbD 0 = true := by
        rw [BitVec.getLsbD_one]
        simpa using hin
      cases b <;> simp [hone, hi]
    | succ i =>
      cases b <;> simp [hi, hin]
  · rw [decide_eq_false hi, Bool.and_false, Bool.false_and]

/-- **A bit shifted in is the newest.** -/
theorem Shows.shiftIn (h : Shows W w history) (hW : W ≤ n) (b : Bool) :
    Shows W (shiftIn W w b) (b :: history) := by
  intro i
  rw [getLsbD_shiftIn hW]
  cases i with
  | zero => rfl
  | succ i =>
    rw [if_neg (Nat.succ_ne_zero i), Nat.add_sub_cancel, h i, List.getD_cons_succ]
    by_cases hi : i + 1 < W
    · rw [decide_eq_true hi, decide_eq_true (Nat.lt_of_succ_lt hi), Bool.true_and]
    · rw [decide_eq_false hi, Bool.false_and, Bool.false_and]

/-- The population of a window is that of the history it shows. -/
theorem Shows.setBits (h : Shows W w history) (hW : W ≤ n) : setBits w = recentSet W history := by
  obtain ⟨k, rfl⟩ := Nat.exists_eq_add_of_le hW
  have hhigh : (List.map (W + ·) (List.range k)).countP w.getLsbD = 0 := by
    rw [List.countP_eq_zero]
    intro i hi
    obtain ⟨j, -, rfl⟩ := List.mem_map.1 hi
    rw [h, decide_eq_false (by omega), Bool.false_and]
    exact Bool.false_ne_true
  rw [EsbEndpoint.setBits, List.range_add, List.countP_append, hhigh, Nat.add_zero, recentSet]
  refine List.countP_congr fun i hi => ?_
  rw [h, decide_eq_true (List.mem_range.1 hi), Bool.true_and]

theorem recentSet_le : recentSet W history ≤ W := by
  have hle := List.countP_le_length (p := fun i => history.getD i false) (l := List.range W)
  rwa [List.length_range] at hle

/-- **What comes in and what goes out.** -/
theorem recentSet_cons (hW : 0 < W) :
    recentSet W (b :: history) + (history.getD (W - 1) false).toNat =
      recentSet W history + b.toNat := by
  obtain ⟨W, rfl⟩ := Nat.exists_eq_succ_of_ne_zero (Nat.pos_iff_ne_zero.1 hW)
  have hin : recentSet (W + 1) (b :: history) = recentSet W history + b.toNat := by
    rw [recentSet, List.range_succ_eq_map, List.countP_cons, List.countP_map, recentSet]
    cases b <;> rfl
  have hout : recentSet (W + 1) history =
      recentSet W history + (history.getD W false).toNat := by
    rw [recentSet, List.range_succ, List.countP_append, recentSet, List.countP_singleton]
    cases history.getD W false <;> rfl
  rw [Nat.succ_eq_add_one, hin, hout, Nat.add_sub_cancel]
  omega

end EsbEndpoint
