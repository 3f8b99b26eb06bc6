import Mathlib.Algebra.Ring.Nat
import Mathlib.Data.List.GetD
import Mathlib.Data.List.Basic

/-!
# HID report descriptors

A report descriptor is a list of short items over a small machine: global
items set the running usage page, range, size, count and report ID, local
items collect usages, and an `Input` lays out as many fields as the count
says, one behind the other in the report of the running ID. `hidFields`
is that machine, and a field is read from a report's payload as the bits
it was laid out on.
-/

namespace EsbEndpoint

/-! ## Items -/

/-- A short item: its tag and type as the upper six bits of its prefix
have them, and its data. -/
structure HidItem where
  tag : Nat
  data : List UInt8
  deriving DecidableEq

/-- Bytes as a number, low byte first. -/
def leNat : List UInt8 → Nat
  | [] => 0
  | b :: bs => b.toNat + 256 * leNat bs

/-- The data of an item, unsigned. -/
def HidItem.value (item : HidItem) : Nat := leNat item.data

/-- The data of an item, signed. -/
def HidItem.signed (item : HidItem) : Int :=
  Int.bmod (leNat item.data) (256 ^ item.data.length)

/-- The bytes of data a prefix announces. -/
def itemSize (p : UInt8) : Nat := if p.toNat % 4 = 3 then 4 else p.toNat % 4

/-- The items of a descriptor, each taking a step of `fuel`. A long item
or one cut short has no reading. -/
def hidItemsFrom : Nat → List UInt8 → Option (List HidItem)
  | _, [] => some []
  | 0, _ :: _ => none
  | fuel + 1, p :: rest =>
    if p = 0xFE ∨ rest.length < itemSize p then none
    else
      (hidItemsFrom fuel (rest.drop (itemSize p))).map
        (⟨p.toNat / 4, rest.take (itemSize p)⟩ :: ·)

/-- The items of a descriptor, which has no more of them than bytes. -/
def hidItems (desc : List UInt8) : Option (List HidItem) := hidItemsFrom desc.length desc

/-! ## Fields -/

/-- One field of an input report. A field of padding, or of an array, has
no usage of its own. -/
structure HidField where
  reportId : Nat
  usagePage : Nat
  usage : Option Nat
  bitOffset : Nat
  bitSize : Nat
  logicalMinimum : Int
  logicalMaximum : Int
  deriving DecidableEq

/-- The running values of a descriptor, and the fields so far. -/
structure HidState where
  usagePage : Nat := 0
  logicalMinimum : Int := 0
  logicalMaximum : Int := 0
  reportSize : Nat := 0
  reportId : Nat := 0
  reportCount : Nat := 0
  usages : List Nat := []
  usageMinimum : Nat := 0
  fields : List HidField := []

/-- The bits the report of this ID has been given. -/
def reportBits (id : Nat) (fields : List HidField) : Nat :=
  ((fields.filter fun f => f.reportId == id).map HidField.bitSize).sum

/-- The usage of the `i`th field of a variable: the last one collected
goes on to the end. -/
def usageAt (usages : List Nat) (i : Nat) : Option Nat :=
  match usages[i]? with
  | some u => some u
  | none => usages.getLast?

/-- A main item leaves no local behind. -/
def HidState.clearLocals (s : HidState) : HidState := { s with usages := [], usageMinimum := 0 }

/-- `Input`: bit 0 of its flags is constant, bit 1 variable. -/
def HidState.input (s : HidState) (flags : Nat) : HidState :=
  let start := reportBits s.reportId s.fields
  let field (i : Nat) : HidField :=
    { reportId := s.reportId
      usagePage := s.usagePage
      usage := if flags % 4 = 2 then usageAt s.usages i else none
      bitOffset := start + i * s.reportSize
      bitSize := s.reportSize
      logicalMinimum := s.logicalMinimum
      logicalMaximum := s.logicalMaximum }
  { s.clearLocals with fields := s.fields ++ (List.range s.reportCount).map field }

/-- What an item does. Collections and their ends only clear the locals. -/
def HidState.item (s : HidState) (item : HidItem) : Option HidState :=
  match item.tag with
  | 0x01 => some { s with usagePage := item.value }
  | 0x02 => some { s with usages := s.usages ++ [item.value] }
  | 0x05 => some { s with logicalMinimum := item.signed }
  | 0x06 => some { s with usageMinimum := item.value }
  | 0x09 => some { s with logicalMaximum := item.signed }
  | 0x0A =>
    some { s with
      usages := s.usages ++
        (List.range (item.value + 1 - s.usageMinimum)).map (s.usageMinimum + ·) }
  | 0x1D => some { s with reportSize := item.value }
  | 0x20 => some (s.input item.value)
  | 0x21 => some { s with reportId := item.value }
  | 0x25 => some { s with reportCount := item.value }
  | 0x28 => some s.clearLocals
  | 0x30 => some s.clearLocals
  | _ => none

/-- **The fields a descriptor lays out.** -/
def hidFields (desc : List UInt8) : Option (List HidField) := do
  let items ← hidItems desc
  let s ← items.foldlM HidState.item {}
  return s.fields

/-! ## Reading a field -/

/-- A field's value in a payload: its bits, signed where its range is. -/
def HidField.read (f : HidField) (payload : List UInt8) : Int :=
  let raw := leNat payload / 2 ^ f.bitOffset % 2 ^ f.bitSize
  if f.logicalMinimum < 0 then Int.bmod raw (2 ^ f.bitSize) else raw

/-- The value of a usage in the report whose fields these are. -/
def hidUsage (fields : List HidField) (usagePage usage : Nat) (payload : List UInt8) :
    Option Int :=
  (fields.find? fun f => f.usagePage == usagePage && f.usage == some usage).map fun f =>
    f.read payload

/-- Whole bytes below an offset are skipped. -/
theorem leNat_div (bs : List UInt8) (k : Nat) : leNat bs / 256 ^ k = leNat (bs.drop k) := by
  induction k generalizing bs with
  | zero => rw [Nat.pow_zero, Nat.div_one, List.drop_zero]
  | succ k ih =>
    cases bs with
    | nil => simp [leNat]
    | cons b bs =>
      have hb : b.toNat < 256 := UInt8.toNat_lt b
      have hhead : leNat (b :: bs) / 256 = leNat bs := by
        rw [leNat]
        omega
      rw [Nat.pow_succ', ← Nat.div_div_eq_div_mul, hhead, ih, List.drop_succ_cons]

/-- The lowest byte is the first. -/
theorem leNat_mod (bs : List UInt8) : leNat bs % 256 = (bs.getD 0 0).toNat := by
  cases bs with
  | nil => rfl
  | cons b bs =>
    have hb : b.toNat < 256 := UInt8.toNat_lt b
    rw [leNat, List.getD_cons_zero]
    omega

/-- **A field inside one byte** is read from that byte. -/
theorem leNat_bits (bs : List UInt8) {k i size : Nat} (h : i + size ≤ 8) :
    leNat bs / 2 ^ (8 * k + i) % 2 ^ size = (bs.getD k 0).toNat / 2 ^ i % 2 ^ size := by
  have hbyte : leNat (bs.drop k) % 256 = (bs.getD k 0).toNat := by
    rw [leNat_mod, List.getD_eq_getElem?_getD, List.getD_eq_getElem?_getD, List.getElem?_drop,
      Nat.add_zero]
  have hpow : (256 : Nat) = 2 ^ i * 2 ^ (8 - i) := by
    rw [← Nat.pow_add, Nat.add_sub_cancel' (by omega)]
  have hdvd : 2 ^ size ∣ 2 ^ (8 - i) := Nat.pow_dvd_pow 2 (by omega)
  rw [Nat.pow_add, Nat.pow_mul, ← Nat.div_div_eq_div_mul, show (2 : Nat) ^ 8 = 256 from rfl,
    leNat_div, ← hbyte, hpow, Nat.mod_mul_right_div_self, Nat.mod_mod_of_dvd _ hdvd]

/-! ## Arrays -/

/-- An array: each of its elements selects one of the usages, or none. -/
structure HidArray where
  reportId : Nat
  usagePage : Nat
  usages : List Nat
  bitOffset : Nat
  bitSize : Nat
  count : Nat
  logicalMinimum : Int
  logicalMaximum : Int
  deriving DecidableEq

/-- The array an item lays out: that of an `Input` which is neither
constant nor variable. -/
def HidState.arrays (s : HidState) (item : HidItem) : List HidArray :=
  if item.tag = 0x20 ∧ item.value % 4 = 0 then
    [{ reportId := s.reportId
       usagePage := s.usagePage
       usages := s.usages
       bitOffset := reportBits s.reportId s.fields
       bitSize := s.reportSize
       count := s.reportCount
       logicalMinimum := s.logicalMinimum
       logicalMaximum := s.logicalMaximum }]
  else []

def hidArraysFrom (s : HidState) : List HidItem → Option (List HidArray)
  | [] => some []
  | item :: items => do
    let rest ← hidArraysFrom (← s.item item) items
    return s.arrays item ++ rest

/-- The arrays a descriptor lays out. -/
def hidArrays (desc : List UInt8) : Option (List HidArray) := do
  hidArraysFrom {} (← hidItems desc)

/-- The usage an element selects, if its value is in the range. -/
def HidArray.select (a : HidArray) (value : Int) : Option Nat :=
  if a.logicalMinimum ≤ value ∧ value ≤ a.logicalMaximum then
    a.usages[(value - a.logicalMinimum).toNat]?
  else none

/-- The usages an array's elements select in a payload. -/
def HidArray.read (a : HidArray) (payload : List UInt8) : List Nat :=
  (List.range a.count).filterMap fun i =>
    let raw := leNat payload / 2 ^ (a.bitOffset + i * a.bitSize) % 2 ^ a.bitSize
    a.select (if a.logicalMinimum < 0 then Int.bmod raw (2 ^ a.bitSize) else raw)

end EsbEndpoint
