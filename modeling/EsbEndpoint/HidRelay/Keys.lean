import EsbEndpoint.HidRelay.Modifiers
import Mathlib.Data.Finset.Card

/-!
# The key arrays as sets

The boot-protocol keyboard report and the consumer report are short arrays
of keys, zero where no key is: a press fills the first free slot unless a
slot has the key, and a release frees every slot that has it. Whatever
holes this leaves, **the arrays are sets** (`keysFaithful`) as long as no
more keys are held than there are slots.
-/

namespace EsbEndpoint

/-! ## Slots in use -/

section Slots

variable {α : Type} [DecidableEq α] {zero key : α} {keys : List α}

/-- The slots that have a key. -/
def occupied (zero : α) (keys : List α) : List α := keys.filter fun k => decide (k ≠ zero)

theorem occupied_cons_zero : occupied zero (zero :: keys) = occupied zero keys :=
  List.filter_cons_of_neg (by simp)

theorem occupied_cons {k : α} (hk : k ≠ zero) :
    occupied zero (k :: keys) = k :: occupied zero keys :=
  List.filter_cons_of_pos (decide_eq_true hk)

theorem occupied_replicate (n : Nat) : occupied zero (List.replicate n zero) = [] := by
  induction n with
  | zero => rfl
  | succ n ih => rw [List.replicate_succ, occupied_cons_zero, ih]

/-- A free slot filled adds the key. -/
theorem occupied_fillFree (hkey : key ≠ zero) (hfree : zero ∈ keys) :
    (occupied zero (fillFree zero key keys)).Perm (key :: occupied zero keys) := by
  induction keys with
  | nil => exact absurd hfree List.not_mem_nil
  | cons k keys ih =>
    rw [fillFree]
    by_cases hk : k = zero
    · subst hk
      rw [if_pos rfl, occupied_cons hkey, occupied_cons_zero]
    · rw [if_neg hk, occupied_cons hk, occupied_cons hk]
      have hrest : zero ∈ keys := (List.mem_cons.1 hfree).resolve_left (Ne.symm hk)
      exact ((ih hrest).cons k).trans (List.Perm.swap key k _)

/-- A release takes the slots it frees out. -/
theorem occupied_slotRelease (isKey : α → Bool) :
    occupied zero (slotRelease zero isKey keys) =
      (occupied zero keys).filter fun k => !isKey k := by
  induction keys with
  | nil => rfl
  | cons k keys ih =>
    rw [slotRelease, List.map_cons, ← slotRelease]
    by_cases hk : k = zero
    · -- a free slot stays free
      subst hk
      rw [ite_self, occupied_cons_zero, occupied_cons_zero, ih]
    · rw [occupied_cons hk, List.filter_cons]
      cases hkey : isKey k with
      | true => rw [if_pos rfl, occupied_cons_zero, ih, Bool.not_true, if_neg Bool.false_ne_true]
      | false =>
        rw [if_neg Bool.false_ne_true, occupied_cons hk, ih, Bool.not_false, if_pos rfl]

/-- There is a free slot if fewer are in use. -/
theorem mem_of_occupied_lt (h : (occupied zero keys).length < keys.length) : zero ∈ keys := by
  by_contra hnone
  have hall : occupied zero keys = keys := List.filter_eq_self.2 fun k hk =>
    decide_eq_true fun heq => hnone (heq ▸ hk)
  exact Nat.lt_irrefl _ (hall ▸ h)

theorem length_fillFree : (fillFree zero key keys).length = keys.length := by
  induction keys with
  | nil => rfl
  | cons k keys ih =>
    rw [fillFree]
    split
    · rfl
    · rw [List.length_cons, ih, List.length_cons]

theorem length_slotPress (isKey : α → Bool) :
    (slotPress zero key isKey keys).length = keys.length := by
  rw [slotPress]
  split
  · rfl
  · exact length_fillFree

end Slots

/-! ## Keys held -/

/-- The keys held after a press or a release of one. -/
def heldBy (down : Bool) (keycode : UInt32) (held : Finset UInt32) : Finset UInt32 :=
  if down then insert keycode held else held.erase keycode

/-- **A faithful set**: no key is in it twice, and the keys in it are those
held. -/
def Faithful (entries : List UInt32) (held : Finset UInt32) : Prop :=
  entries.Nodup ∧ ∀ k, k ∈ entries ↔ k ∈ held

instance (entries : List UInt32) (held : Finset UInt32) : Decidable (Faithful entries held) :=
  decidable_of_iff (entries.Nodup ∧ entries.toFinset = held)
    (and_congr_right fun _ => Finset.ext_iff.trans
      (forall_congr' fun _ => iff_congr List.mem_toFinset Iff.rfl))

section Entries

variable {α : Type} [DecidableEq α] {code : α → UInt32} {isKey : α → Bool} {zero key : α}
  {keys : List α} {keycode : UInt32} {held : Finset UInt32}

/-- The keycodes in an array. -/
def entries (code : α → UInt32) (zero : α) (keys : List α) : List UInt32 :=
  (occupied zero keys).map code

/-- As many keys are held as slots are in use. -/
theorem Faithful.card_eq (h : Faithful (entries code zero keys) held) :
    held.card = (occupied zero keys).length := by
  have heq : held = (entries code zero keys).toFinset :=
    Finset.ext fun k => by rw [List.mem_toFinset, h.2]
  rw [heq, List.toFinset_card_of_nodup h.1, entries, List.length_map]

/-- **A press keeps the set faithful** if there are slots for all keys. -/
theorem Faithful.press (h : Faithful (entries code zero keys) held) (hzero : code zero = 0)
    (hisKey : ∀ k, isKey k = true ↔ code k = keycode) (hkey : code key = keycode)
    (hne : keycode ≠ 0) (hroom : (insert keycode held).card ≤ keys.length) :
    Faithful (entries code zero (slotPress zero key isKey keys)) (insert keycode held) := by
  have hslot : ∀ k, isKey k = true → k ≠ zero := fun k hk heq =>
    hne (((hisKey k).1 hk).symm.trans (heq ▸ hzero))
  have hany : keys.any isKey = true ↔ keycode ∈ held := by
    rw [List.any_eq_true, ← h.2, entries, List.mem_map]
    constructor
    · rintro ⟨k, hk, hmatch⟩
      exact ⟨k, List.mem_filter.2 ⟨hk, decide_eq_true (hslot k hmatch)⟩, (hisKey k).1 hmatch⟩
    · rintro ⟨k, hk, hcode⟩
      exact ⟨k, (List.mem_filter.1 hk).1, (hisKey k).2 hcode⟩
  rw [slotPress]
  by_cases hheld : keycode ∈ held
  · -- a slot has the key
    rw [if_pos (hany.2 hheld), Finset.insert_eq_of_mem hheld]
    exact h
  · rw [if_neg (mt hany.1 hheld)]
    rw [Finset.card_insert_of_notMem hheld, h.card_eq] at hroom
    have hfill := (occupied_fillFree (hslot key ((hisKey key).2 hkey))
      (mem_of_occupied_lt hroom)).map code
    rw [List.map_cons, hkey] at hfill
    constructor
    · rw [entries, hfill.nodup_iff, List.nodup_cons]
      exact ⟨fun hin => hheld ((h.2 keycode).1 hin), h.1⟩
    · intro k
      rw [entries, hfill.mem_iff, List.mem_cons, Finset.mem_insert]
      exact or_congr_right (h.2 k)

/-- **A release keeps the set faithful.** -/
theorem Faithful.release (h : Faithful (entries code zero keys) held)
    (hisKey : ∀ k, isKey k = true ↔ code k = keycode) :
    Faithful (entries code zero (slotRelease zero isKey keys)) (held.erase keycode) := by
  have hfreed : entries code zero (slotRelease zero isKey keys) =
      (entries code zero keys).filter fun k => decide (k ≠ keycode) := by
    rw [entries, occupied_slotRelease, entries, List.filter_map]
    refine congrArg (List.map code) (List.filter_congr fun k _ => ?_)
    rw [Function.comp_apply, Bool.eq_iff_iff, Bool.not_eq_true', ← Bool.not_eq_true, hisKey,
      decide_eq_true_eq]
  rw [hfreed]
  refine ⟨h.1.filter _, fun k => ?_⟩
  rw [List.mem_filter, Finset.mem_erase, decide_eq_true_eq, h.2, and_comm]

end Entries

/-! ## Runs -/

/-- A keycode of 8 bits survives its slot, -/
theorem toUInt32_toUInt8 {keycode : UInt32} (h : keycode < 256) :
    keycode.toUInt8.toUInt32 = keycode := by
  have hlt : keycode.toNat < 256 := h
  refine UInt32.toNat_inj.1 ?_
  rw [UInt8.toNat_toUInt32, UInt32.toNat_toUInt8]
  omega

/-- and one of 16 bits. -/
theorem toUInt32_toUInt16 {usage : UInt32} (h : usage < 65536) :
    usage.toUInt16.toUInt32 = usage := by
  have hlt : usage.toNat < 65536 := h
  refine UInt32.toNat_inj.1 ?_
  rw [UInt16.toNat_toUInt32, UInt32.toNat_toUInt16]
  omega

theorem toUInt8_eq_iff {keycode : UInt32} (h : keycode < 256) (k : UInt8) :
    (k == keycode.toUInt8) = true ↔ k.toUInt32 = keycode := by
  rw [beq_iff_eq]
  constructor
  · rintro rfl
    exact toUInt32_toUInt8 h
  · rintro rfl
    exact (UInt8.toUInt8_toUInt32 k).symm

/-- A press or a release in one of the arrays. -/
inductive KeyCall where
  | kb (down : Bool) (keycode : UInt32)
  | cons (down : Bool) (keycode : UInt32)

/-- The two bodies, and the keys held. -/
structure KeysTrace where
  kb : KbBody
  cons : ConsBody
  kbHeld : Finset UInt32 := ∅
  consHeld : Finset UInt32 := ∅

variable (cfg : Config)

def keysStep (t : KeysTrace) : KeyCall → KeysTrace
  | .kb down keycode =>
    { t with
      kb := (if down then kbKeysPress cfg else kbKeysRelease cfg) keycode t.kb
      kbHeld := heldBy down keycode t.kbHeld }
  | .cons down keycode =>
    { t with
      cons := (if down then consKeysPress else consKeysRelease) keycode t.cons
      consHeld := heldBy down keycode t.consHeld }

/-- The condition on a call: the key is one that the array's elements can
be, and no more keys are held than it has. -/
def KeyFits (t : KeysTrace) : KeyCall → Prop
  | .kb down keycode =>
    keycode ≠ 0 ∧ keycode < 256 ∧
      (heldBy down keycode t.kbHeld).card ≤ cfg.hidKeyboardReportSize
  | .cons down keycode =>
    keycode ≠ 0 ∧ keycode < 65536 ∧
      (heldBy down keycode t.consHeld).card ≤ cfg.hidConsumerReportSize

instance (t : KeysTrace) : (call : KeyCall) → Decidable (KeyFits cfg t call)
  | .kb _ _ => inferInstanceAs (Decidable (_ ∧ _))
  | .cons _ _ => inferInstanceAs (Decidable (_ ∧ _))

/-- **The arrays are the sets of the keys held.** -/
def KeysFaithful (t : KeysTrace) : Prop :=
  Faithful (entries UInt8.toUInt32 0 t.kb.keys) t.kbHeld ∧
    Faithful (entries UInt16.toUInt32 0 t.cons.keys) t.consHeld

instance (t : KeysTrace) : Decidable (KeysFaithful t) := inferInstanceAs (Decidable (_ ∧ _))

/-- The arrays at boot. -/
def KeysTrace.start : KeysTrace where
  kb := (HidRelay.boot cfg).kb.body
  cons := (HidRelay.boot cfg).cons.body

/-- The invariant: faithful arrays of the configured lengths. -/
structure KeysTrace.Sound (t : KeysTrace) : Prop where
  faithful : KeysFaithful t
  kbLength : t.kb.keys.length = cfg.hidKeyboardReportSize
  consLength : t.cons.keys.length = cfg.hidConsumerReportSize

variable {cfg}

theorem KeysTrace.sound_start (hnkro : cfg.hidReportTypeNkro = false) :
    (KeysTrace.start cfg).Sound cfg where
  faithful := by
    have hnone : Faithful [] ∅ := ⟨List.nodup_nil, fun k =>
      iff_of_false List.not_mem_nil (Finset.notMem_empty k)⟩
    constructor
    · show Faithful (List.map _ (occupied 0 (List.replicate (kbKeysLength cfg) 0))) ∅
      rw [occupied_replicate]
      exact hnone
    · show Faithful (List.map _ (occupied 0 (List.replicate cfg.hidConsumerReportSize 0))) ∅
      rw [occupied_replicate]
      exact hnone
  kbLength := by
    show (List.replicate (kbKeysLength cfg) 0).length = _
    rw [List.length_replicate, kbKeysLength, hnkro, if_neg Bool.false_ne_true]
  consLength := List.length_replicate

/-- **A call that fits keeps the arrays faithful.** -/
theorem KeysTrace.Sound.step (hnkro : cfg.hidReportTypeNkro = false) {t : KeysTrace}
    (h : t.Sound cfg) {call : KeyCall} (hfits : KeyFits cfg t call) :
    (keysStep cfg t call).Sound cfg := by
  cases call with
  | kb down keycode =>
    obtain ⟨hne, hsmall, hroom⟩ := hfits
    cases down with
    | false =>
      have hkeys : (kbKeysRelease cfg keycode t.kb).keys =
          slotRelease 0 (· == keycode.toUInt8) t.kb.keys := by
        rw [kbKeysRelease, hnkro, if_neg Bool.false_ne_true]
      refine ⟨⟨?_, h.faithful.2⟩, ?_, h.consLength⟩
      · show Faithful (entries _ 0 (kbKeysRelease cfg keycode t.kb).keys) _
        rw [hkeys]
        exact h.faithful.1.release (toUInt8_eq_iff hsmall)
      · show (kbKeysRelease cfg keycode t.kb).keys.length = _
        rw [hkeys, slotRelease, List.length_map, h.kbLength]
    | true =>
      have hkeys : (kbKeysPress cfg keycode t.kb).keys =
          slotPress 0 keycode.toUInt8 (· == keycode.toUInt8) t.kb.keys := by
        rw [kbKeysPress, hnkro, if_neg Bool.false_ne_true]
      refine ⟨⟨?_, h.faithful.2⟩, ?_, h.consLength⟩
      · show Faithful (entries _ 0 (kbKeysPress cfg keycode t.kb).keys) _
        rw [hkeys]
        exact h.faithful.1.press rfl (toUInt8_eq_iff hsmall) (toUInt32_toUInt8 hsmall) hne
          (h.kbLength.symm ▸ hroom)
      · show (kbKeysPress cfg keycode t.kb).keys.length = _
        rw [hkeys, length_slotPress, h.kbLength]
  | cons down keycode =>
    obtain ⟨hne, hsmall, hroom⟩ := hfits
    have hisKey : ∀ k : UInt16, (k.toUInt32 == keycode) = true ↔ k.toUInt32 = keycode :=
      fun _ => beq_iff_eq
    cases down with
    | false =>
      exact ⟨⟨h.faithful.1, h.faithful.2.release hisKey⟩, h.kbLength,
        (List.length_map _).trans h.consLength⟩
    | true =>
      exact ⟨⟨h.faithful.1, h.faithful.2.press rfl hisKey (toUInt32_toUInt16 hsmall) hne
        (h.consLength.symm ▸ hroom)⟩, h.kbLength, (length_slotPress _).trans h.consLength⟩

/-- **The key arrays are faithful sets**: as long as every key is one that
its array can hold and no more are held than it has slots, its entries are
distinct and are the keys held. -/
theorem keysFaithful (cfg : Config) (hnkro : cfg.hidReportTypeNkro = false)
    (calls : List KeyCall) (h : Guarded (keysStep cfg) (KeyFits cfg) (KeysTrace.start cfg) calls) :
    Throughout (keysStep cfg) KeysFaithful (KeysTrace.start cfg) calls :=
  (Throughout.of_guarded (P := KeysTrace.Sound cfg) (fun _ _ ht hfits => ht.step hnkro hfits)
    (KeysTrace.sound_start hnkro) h).imp fun _ ht => ht.faithful

/-- Keys that leave a hole, fill it, and are pressed again. -/
theorem keysFaithful_holes :
    Throughout (keysStep .default) KeysFaithful (KeysTrace.start .default)
      [.kb true 4, .kb true 5, .cons true 0x223, .kb false 4, .kb true 6, .kb true 5,
        .cons true 0xCD, .cons false 0x223, .kb false 5, .cons true 0xCD] :=
  keysFaithful .default rfl _ (by decide +kernel)

/-! ## The relay's calls -/

/-- The calls an event makes. -/
def keyCalls (ev : KeycodeEvent) : List KeyCall :=
  if ev.usagePage = hidUsageKey then
    if isMod ev then [] else [.kb ev.state ev.keycode]
  else if ev.usagePage = hidUsageConsumer then [.cons ev.state ev.keycode]
  else []

/-- One at most. -/
theorem keyCalls_cases (ev : KeycodeEvent) : keyCalls ev = [] ∨ ∃ call, keyCalls ev = [call] := by
  rw [keyCalls]
  split
  · split
    · exact Or.inl rfl
    · exact Or.inr ⟨_, rfl⟩
  · split
    · exact Or.inr ⟨_, rfl⟩
    · exact Or.inl rfl

variable (cfg)

/-- The relay, and what its calls make of the arrays. -/
def relayKeysStep (t : HidEndpoint × KeysTrace) (op : HidOp) : HidEndpoint × KeysTrace :=
  (hidStep cfg t.1 op,
    match op with
    | .event _ ev => runFrom (keysStep cfg) t.2 (keyCalls ev)
    | _ => t.2)

/-- The condition on an event: the call it makes fits. -/
def RelayKeysFit (t : HidEndpoint × KeysTrace) : HidOp → Prop
  | .event _ ev => ∀ call ∈ keyCalls ev, KeyFits cfg t.2 call
  | _ => True

/-- The relay's arrays are what the calls make of them. -/
def RelayKeysAgree (t : HidEndpoint × KeysTrace) : Prop :=
  t.1.hid.kb.body.keys = t.2.kb.keys ∧ t.1.hid.cons.body.keys = t.2.cons.keys

variable {cfg}

/-- **The arrays move by the calls of events alone**, sent or not. -/
theorem RelayKeysAgree.step {t : HidEndpoint × KeysTrace} (h : RelayKeysAgree t) (op : HidOp) :
    RelayKeysAgree (relayKeysStep cfg t op) := by
  have hkept := @keyState_hidStep cfg t.1 op
  obtain ⟨hkb, hcons⟩ := h
  cases op with
  | event endpointActive ev =>
    have hkbKeys : (hidStep cfg t.1 (.event endpointActive ev)).hid.kb.body.keys =
        (t.1.hid.keyState.after cfg ev).kbKeys := congrArg KeyState.kbKeys hkept
    have hconsKeys : (hidStep cfg t.1 (.event endpointActive ev)).hid.cons.body.keys =
        (t.1.hid.keyState.after cfg ev).consKeys := congrArg KeyState.consKeys hkept
    rw [RelayKeysAgree, relayKeysStep, hkbKeys, hconsKeys]
    simp only [KeyState.after, HidRelay.keyState, keyCalls, hkb, hcons]
    by_cases hkey : ev.usagePage = hidUsageKey
    · have hpage : ev.usagePage ≠ hidUsageConsumer := fun h => (isMod_of_consumer h).2 hkey
      cases isMod ev with
      | true =>
        simp only [if_pos hkey, if_neg hpage, Bool.true_eq_false, and_false, if_false, if_true]
        exact ⟨rfl, rfl⟩
      | false =>
        simp only [hkey, and_self, if_true, Bool.false_eq_true, if_false]
        exact ⟨(@keys_kbKeys cfg ev.state ev.keycode t.2.kb).symm, rfl⟩
    · rw [if_neg fun h => hkey h.1, if_neg hkey]
      split
      · exact ⟨rfl, rfl⟩
      · exact ⟨rfl, rfl⟩
  | retry =>
    exact ⟨(congrArg KeyState.kbKeys hkept).trans hkb,
      (congrArg KeyState.consKeys hkept).trans hcons⟩
  | world rest => exact ⟨hkb, hcons⟩

/-- **The relay's arrays are faithful sets** along every run whose events
fit, whatever else goes on. -/
theorem relayKeys_faithful (hnkro : cfg.hidReportTypeNkro = false) (e : Endpoint)
    {ops : List HidOp} (h : Guarded (relayKeysStep cfg) (RelayKeysFit cfg)
      (⟨e, HidRelay.boot cfg⟩, KeysTrace.start cfg) ops) :
    Throughout (relayKeysStep cfg) (fun t => RelayKeysAgree t ∧ KeysFaithful t.2)
      (⟨e, HidRelay.boot cfg⟩, KeysTrace.start cfg) ops := by
  refine (Throughout.of_guarded (P := fun t => RelayKeysAgree t ∧ t.2.Sound cfg) ?_
    ⟨⟨rfl, rfl⟩, KeysTrace.sound_start hnkro⟩ h).imp fun _ ht => ⟨ht.1, ht.2.faithful⟩
  rintro t op ⟨hagree, hsound⟩ hfits
  refine ⟨hagree.step op, ?_⟩
  cases op with
  | event endpointActive ev =>
    have hcalls : ∀ call ∈ keyCalls ev, KeyFits cfg t.2 call := hfits
    show (runFrom (keysStep cfg) t.2 (keyCalls ev)).Sound cfg
    rcases keyCalls_cases ev with hnone | ⟨call, hone⟩
    · rw [hnone]
      exact hsound
    · rw [hone] at hcalls ⊢
      exact hsound.step hnkro (hcalls call List.mem_cons_self)
  | retry => exact hsound
  | world rest => exact hsound

end EsbEndpoint
