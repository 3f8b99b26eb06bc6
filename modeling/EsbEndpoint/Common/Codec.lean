import Mathlib.Data.Int.Init
import Mathlib.Algebra.Order.Ring.Int

/-!
# Machine integers as integers

A fixed-width signed field is read into `Int` and written back from it.
Reading is total, writing reduces modulo the width, and the two are
inverse on the values the width holds. `sat16` clamps instead of
wrapping; what it cuts off is what the caller has to keep.
-/

namespace EsbEndpoint

/-- A value an `int16_t` holds. -/
def IsInt16 (v : Int) : Prop := -32768 ≤ v ∧ v ≤ 32767

/-- A value an `int32_t` holds. -/
def IsInt32 (v : Int) : Prop := -2147483648 ≤ v ∧ v ≤ 2147483647

instance : DecidablePred IsInt16 := fun _ => inferInstanceAs (Decidable (_ ∧ _))

instance : DecidablePred IsInt32 := fun _ => inferInstanceAs (Decidable (_ ∧ _))

theorem isInt16_zero : IsInt16 0 := ⟨by decide, by decide⟩

theorem isInt32_zero : IsInt32 0 := ⟨by decide, by decide⟩

/-- Wrapping to 32 bits. -/
def i32 (v : Int) : Int := v.bmod 4294967296

theorem i32_eq_iff {v : Int} : i32 v = v ↔ IsInt32 v := by
  simp only [i32, IsInt32, Int.bmod_eq_iff (by omega : 0 < 4294967296)]
  omega

theorem isInt32_i32 (v : Int) : IsInt32 (i32 v) :=
  ⟨@Int.le_bmod v 4294967296 (by omega),
    Int.le_of_lt_add_one (@Int.bmod_lt v 4294967296 (by omega))⟩

/-- Wrapping is the identity up to a multiple of the range. -/
theorem exists_i32 (v : Int) : ∃ k, i32 v = v + 4294967296 * k :=
  ⟨-v.bdiv 4294967296, by
    have hsub := Int.bmod_eq_self_sub_mul_bdiv v 4294967296
    simp only [Nat.cast_ofNat] at hsub
    rw [i32]
    omega⟩

/-- **A wrapped sum is the sum of what was meant** just when the summand is
and nothing wrapped, summands being short. -/
theorem i32_add_eq_iff {v d d' : Int} (hd : IsInt16 d) (hd' : IsInt16 d') :
    i32 (v + d) = v + d' ↔ d = d' ∧ IsInt32 (v + d) := by
  constructor
  · intro h
    obtain ⟨k, hk⟩ := exists_i32 (v + d)
    have hdd : d = d' := by
      simp only [IsInt16] at hd hd'
      omega
    subst hdd
    exact ⟨rfl, i32_eq_iff.1 h⟩
  · rintro ⟨rfl, h⟩
    exact i32_eq_iff.2 h

/-- Clamping to 16 bits. -/
def sat16 (v : Int) : Int := max (-32768) (min 32767 v)

theorem isInt16_sat16 (v : Int) : IsInt16 (sat16 v) := by
  simp only [IsInt16, sat16]
  omega

/-- What clamping cuts off is no longer than what was clamped. -/
theorem isInt32_sub_sat16 {v : Int} (h : IsInt32 v) : IsInt32 (v - sat16 v) := by
  simp only [IsInt32, sat16] at h ⊢
  omega

theorem sat16_of_isInt16 {v : Int} (h : IsInt16 v) : sat16 v = v := by
  simp only [IsInt16, sat16] at h ⊢
  omega

/-- Clamping cuts off nothing just when there is nothing to cut off. -/
theorem sat16_eq_iff {v : Int} : sat16 v = v ↔ IsInt16 v := by
  refine ⟨fun h => ?_, sat16_of_isInt16⟩
  rw [← h]
  exact isInt16_sat16 v

/-! ## Little-endian 16-bit fields -/

/-- An `int16_t` stored low byte first. -/
def readLe16 (lo hi : UInt8) : Int := Int.bmod (lo.toNat + 256 * hi.toNat : Nat) 65536

/-- The low byte of a 16-bit field. -/
def lowByte (v : Int) : UInt8 := UInt8.ofNat (v % 256).toNat

/-- The high byte of a 16-bit field. -/
def highByte (v : Int) : UInt8 := UInt8.ofNat (v / 256 % 256).toNat

theorem isInt16_bmod (v : Int) : IsInt16 (v.bmod 65536) :=
  ⟨@Int.le_bmod v 65536 (by omega), Int.le_of_lt_add_one (@Int.bmod_lt v 65536 (by omega))⟩

theorem isInt16_readLe16 (lo hi : UInt8) : IsInt16 (readLe16 lo hi) :=
  isInt16_bmod _

theorem toNat_lowByte (v : Int) : ((lowByte v).toNat : Int) = v % 256 := by
  rw [lowByte, UInt8.toNat_ofNat']
  omega

theorem toNat_highByte (v : Int) : ((highByte v).toNat : Int) = v / 256 % 256 := by
  rw [highByte, UInt8.toNat_ofNat']
  omega

theorem bmod_emod_int16 {v : Int} (h : IsInt16 v) : (v % 65536).bmod 65536 = v :=
  (@Int.emod_bmod v 65536).trans (@Int.bmod_eq_of_le v 65536 h.1 (Int.lt_add_one_of_le h.2))

/-- **Reading back what was written.** -/
theorem readLe16_write {v : Int} (h : IsInt16 v) : readLe16 (lowByte v) (highByte v) = v := by
  have hsum : (((lowByte v).toNat + 256 * (highByte v).toNat : Nat) : Int) = v % 65536 := by
    have hlow := toNat_lowByte v
    have hhigh := toNat_highByte v
    omega
  have hread : readLe16 (lowByte v) (highByte v) = (v % 65536).bmod 65536 :=
    congrArg (fun n => Int.bmod n 65536) hsum
  exact hread.trans (bmod_emod_int16 h)

end EsbEndpoint
