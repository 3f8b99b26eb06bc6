import EsbEndpoint.Common.Clock

/-!
# Deadlines on the true time

A deadline is kept as the low word of a true time and compared with the
low word of the uptime. Up to half a turn of the clock ahead the
comparison says what it should. A deadline that has passed is reported so
for half a turn, and then reads as ahead for the other half, in every turn
there is (`ComesBack`). Where zero stands for no deadline, one that falls
on a full turn is none (`ReadsRight`).
-/

namespace EsbEndpoint

/-- A deadline this many milliseconds past reads as ahead. -/
def ComesBack (past : Nat) : Prop := 2147483648 < past % 4294967296

instance (past : Nat) : Decidable (ComesBack past) :=
  inferInstanceAs (Decidable (2147483648 < past % 4294967296))

theorem after_iff {deadline now : UInt32} :
    after deadline now = true ↔
      0 < (deadline - now).toNat ∧ (deadline - now).toNat < 2147483648 := by
  have hhalf : (0x80000000 : UInt32).toNat = 2147483648 := rfl
  have hzero : (0 : UInt32).toNat = 0 := rfl
  unfold after
  rw [Bool.and_eq_true, bne_iff_ne, decide_eq_true_eq, UInt32.lt_iff_toNat_lt, hhalf,
    Nat.pos_iff_ne_zero]
  refine and_congr (not_congr ⟨fun h => ?_, fun h => ?_⟩) Iff.rfl
  · rw [h, hzero]
  · exact UInt32.toNat_inj.1 (h.trans hzero.symm)

theorem toNat_ofNat_sub_ofNat (deadline uptime : Nat) :
    (UInt32.ofNat deadline - UInt32.ofNat uptime).toNat =
      (4294967296 - uptime % 4294967296 + deadline % 4294967296) % 4294967296 := by
  rw [UInt32.toNat_sub, UInt32.toNat_ofNat', UInt32.toNat_ofNat']

/-- **Ahead by less than a turn**, a deadline reads as ahead in the half
turn before it. -/
theorem after_ofNat_of_le {deadline uptime : Nat} (hle : uptime ≤ deadline)
    (hturn : deadline < uptime + 4294967296) :
    after (UInt32.ofNat deadline) (UInt32.ofNat uptime) = true ↔
      uptime < deadline ∧ deadline < uptime + 2147483648 := by
  rw [after_iff, toNat_ofNat_sub_ofNat]
  omega

/-- **Once past**, it reads as ahead just when it comes back. -/
theorem after_ofNat_of_past {deadline uptime : Nat} (hpast : deadline ≤ uptime) :
    after (UInt32.ofNat deadline) (UInt32.ofNat uptime) = true ↔
      ComesBack (uptime - deadline) := by
  rw [after_iff, toNat_ofNat_sub_ofNat]
  unfold ComesBack
  omega

theorem ofNat_add_ofNat (uptime : Nat) (ms : UInt32) :
    UInt32.ofNat uptime + ms = UInt32.ofNat (uptime + ms.toNat) := by
  rw [UInt32.ofNat_add, UInt32.ofNat_toNat]

/-- A deadline stored as zero is one at a full turn. -/
theorem ofNat_eq_zero_iff {deadline : Nat} :
    UInt32.ofNat deadline = 0 ↔ deadline % 4294967296 = 0 := by
  rw [← UInt32.toNat_inj, UInt32.toNat_ofNat']
  exact Iff.rfl

/-! ## Time stamps -/

/-- In the first turn of the clock, past its first tick, a stamp is the
time itself, -/
theorem stampOf_ofNat {uptime : Nat} (hpos : 1 ≤ uptime) (hturn : uptime < 4294967296) :
    stampOf (UInt32.ofNat uptime) = UInt32.ofNat uptime := by
  have hne : (UInt32.ofNat uptime == 0) = false := by
    rw [beq_eq_false_iff_ne, ne_eq, ofNat_eq_zero_iff]
    omega
  rw [stampOf, hne]
  rfl

/-- and within a turn of it the time since is the difference. -/
theorem elapsed_ofNat {start uptime : Nat} (hle : start ≤ uptime)
    (hturn : uptime < start + 4294967296) :
    elapsed (UInt32.ofNat start) (UInt32.ofNat uptime) = uptime - start := by
  rw [elapsed, toNat_ofNat_sub_ofNat]
  omega

/-! ## Intervals that end at a deadline -/

/-- The deadline kept for an interval of `length` from the last event on,
and zero before the first. -/
def deadlineOf (length : Nat) : Option Nat → UInt32
  | none => 0
  | some since => UInt32.ofNat (since + length)

/-- The last event is less than `length` back. -/
def Within (length uptime : Nat) (last : Option Nat) : Prop :=
  ∃ since ∈ last, uptime < since + length

instance (length uptime : Nat) : (last : Option Nat) → Decidable (Within length uptime last)
  | none => isFalse fun h => absurd h.choose_spec.1 (by simp)
  | some since =>
    decidable_of_iff (uptime < since + length)
      ⟨fun h => ⟨since, rfl, h⟩, fun ⟨_, hsince, h⟩ => by rwa [Option.some.inj hsince]⟩

/-- In its interval a deadline does not fall on a full turn, and once past
it does, or does not come back. -/
def ReadsRight (length uptime : Nat) (last : Option Nat) : Prop :=
  ∀ since ∈ last,
    if uptime < since + length then (since + length) % 4294967296 ≠ 0
    else (since + length) % 4294967296 = 0 ∨ ¬ ComesBack (uptime - (since + length))

instance (length uptime : Nat) (last : Option Nat) : Decidable (ReadsRight length uptime last) :=
  inferInstanceAs (Decidable (∀ since ∈ last,
    if uptime < since + length then (since + length) % 4294967296 ≠ 0
    else (since + length) % 4294967296 = 0 ∨ ¬ ComesBack (uptime - (since + length))))

/-- **A deadline reads as its interval** just when it reads right. -/
theorem deadlineOf_within_iff {length uptime : Nat} {last : Option Nat}
    (hlast : ∀ since ∈ last, since ≤ uptime) (hhalf : length < 2147483648) :
    ((deadlineOf length last ≠ 0 ∧
        after (deadlineOf length last) (UInt32.ofNat uptime) = true) ↔
      Within length uptime last) ↔ ReadsRight length uptime last := by
  cases last with
  | none =>
    refine iff_of_true (iff_of_false (fun h => h.1 rfl) ?_) fun _ h => absurd h (by simp)
    rintro ⟨_, hsince, -⟩
    exact absurd hsince (by simp)
  | some since =>
    have hpast := hlast since rfl
    have hwithin : Within length uptime (some since) ↔ uptime < since + length :=
      ⟨fun ⟨_, hsince, h⟩ => by rwa [Option.some.inj hsince], fun h => ⟨since, rfl, h⟩⟩
    have hright : ReadsRight length uptime (some since) ↔
        if uptime < since + length then (since + length) % 4294967296 ≠ 0
        else (since + length) % 4294967296 = 0 ∨ ¬ ComesBack (uptime - (since + length)) :=
      ⟨fun h => h since rfl, fun h _ hsince => by rwa [← Option.some.inj hsince]⟩
    have hzero := @ofNat_eq_zero_iff (since + length)
    have hdeadline : deadlineOf length (some since) = UInt32.ofNat (since + length) := rfl
    rw [hwithin, hright, hdeadline, ne_eq, hzero]
    by_cases hlt : uptime < since + length
    · -- within its interval it is less than half a turn ahead
      rw [if_pos hlt, after_ofNat_of_le (by omega) (by omega)]
      omega
    · rw [if_neg hlt, after_ofNat_of_past (by omega)]
      rw [iff_false_right hlt, Classical.not_and_iff_not_or_not, Classical.not_not]

end EsbEndpoint
