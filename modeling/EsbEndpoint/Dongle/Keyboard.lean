import EsbEndpoint.Dongle.Mouse
import EsbEndpoint.HidRelay.Keys

/-!
# Keys, from the keyboard to the host

The keyboard's report is its modifiers, a reserved byte and an array of
keys; the dongle copies the first eight bytes behind the report ID, and its
descriptor reads eight flags and an array of six usages up to 0x65. So the
modifiers arrive, and the keys do as far as they are in the first six slots
and below that limit (`keyboardSurvives_iff`).
-/

namespace EsbEndpoint

/-! ## What the host reads -/

/-- The arrays of the keyboard's report. -/
def keyboardArrays : List HidArray :=
  ((hidArrays hidReportDesc).getD []).filter fun a => a.reportId == 1

/-- The keys a report of ID 1 says are held. Usage 0 is no key. -/
def pressedKeys : List UInt8 → Option (List Nat)
  | [] => none
  | reportId :: payload => do
    guard (reportId = 1)
    return (keyboardArrays.flatMap fun a => a.read payload).filter fun usage => usage != 0

/-- A modifier in a report of ID 1. -/
def pressedModifier (b : Fin 8) : List UInt8 → Option Int
  | [] => none
  | reportId :: payload => do
    guard (reportId = 1)
    hidUsage (reportFields reportId) 0x07 (0xE0 + b) payload

/-- One array, behind the modifiers and the reserved byte. -/
theorem keyboardArrays_eq :
    keyboardArrays = [⟨1, 7, List.range 0x66, 16, 8, 6, 0, 0x65⟩] := by
  decide +kernel

/-- The modifiers are the first eight fields. -/
theorem reportFields_one :
    (reportFields 1).take 8 = (List.range 8).map fun i => ⟨1, 7, some (0xE0 + i), i, 1, 0, 1⟩ := by
  decide +kernel

/-- **The keys the host reads** in a payload behind ID 1. -/
theorem pressedKeys_report (payload : List UInt8) :
    pressedKeys (1 :: payload) = some (((List.range 6).filterMap fun i =>
      if (payload.getD (i + 2) 0).toNat ≤ 0x65 then some (payload.getD (i + 2) 0).toNat
      else none).filter fun usage => usage != 0) := by
  have helement : ∀ i, (HidArray.mk 1 7 (List.range 0x66) 16 8 6 0 0x65).select
      (leNat payload / 2 ^ (16 + i * 8) % 2 ^ 8 : Nat) =
        if (payload.getD (i + 2) 0).toNat ≤ 0x65 then some (payload.getD (i + 2) 0).toNat
        else none := by
    intro i
    have hbits := @leNat_bits payload (i + 2) 0 8 (Nat.le_refl 8)
    have hoffset : 8 * (i + 2) + 0 = 16 + i * 8 := by omega
    have hlt := UInt8.toNat_lt (payload.getD (i + 2) 0)
    rw [hoffset, Nat.pow_zero, Nat.div_one, Nat.mod_eq_of_lt hlt] at hbits
    rw [hbits, HidArray.select]
    by_cases hrange : (payload.getD (i + 2) 0).toNat ≤ 0x65
    · rw [if_pos hrange, if_pos ⟨Int.natCast_nonneg _, Int.ofNat_le.2 hrange⟩, Int.sub_zero,
        Int.toNat_natCast, List.getElem?_range (by omega)]
    · rw [if_neg hrange, if_neg fun h => hrange (Int.ofNat_le.1 h.2)]
  have hread : (HidArray.mk 1 7 (List.range 0x66) 16 8 6 0 0x65).read payload =
      (List.range 6).filterMap fun i =>
        if (payload.getD (i + 2) 0).toNat ≤ 0x65 then some (payload.getD (i + 2) 0).toNat
        else none := by
    rw [HidArray.read]
    exact List.filterMap_congr fun i _ => helement i
  simp only [pressedKeys, guard, if_true, keyboardArrays_eq, List.flatMap_cons, List.flatMap_nil,
    List.append_nil, hread]
  rfl

/-- The field of a modifier. -/
theorem hidUsage_modifier {i : Nat} (hi : i < 8) (payload : List UInt8) :
    hidUsage (reportFields 1) 0x07 (0xE0 + i) payload =
      some ((HidField.mk 1 7 (some (0xE0 + i)) i 1 0 1).read payload) := by
  have hsplit : reportFields 1 = (reportFields 1).take 8 ++ (reportFields 1).drop 8 :=
    (List.take_append_drop 8 _).symm
  rw [hsplit, reportFields_one]
  obtain rfl | rfl | rfl | rfl | rfl | rfl | rfl | rfl :
      i = 0 ∨ i = 1 ∨ i = 2 ∨ i = 3 ∨ i = 4 ∨ i = 5 ∨ i = 6 ∨ i = 7 := by omega
  all_goals rfl

/-- **A modifier the host reads** is its bit in the first byte. -/
theorem pressedModifier_report (b : Fin 8) (payload : List UInt8) :
    pressedModifier b (1 :: payload) = some (if hasMod (payload.getD 0 0) b then 1 else 0) := by
  have hbit : hasMod (payload.getD 0 0) b =
      decide ((payload.getD 0 0).toNat / 2 ^ b.val % 2 = 1) := by
    rw [hasMod_eq, BitVec.getLsbD, Nat.testBit_eq_decide_div_mod_eq]
    rfl
  have hread : (HidField.mk 1 7 (some (0xE0 + b)) b 1 0 1).read payload =
      ((payload.getD 0 0).toNat / 2 ^ b.val % 2 : Nat) := by
    rw [@read_of_byte _ payload 0 b.val (by simp) (by simp only; omega)]
    rfl
  simp only [pressedModifier, guard, if_true, Option.pure_def, Option.bind_eq_bind,
    Option.bind_some]
  rw [hidUsage_modifier b.isLt, hread, hbit]
  rcases Nat.mod_two_eq_zero_or_one ((payload.getD 0 0).toNat / 2 ^ b.val) with h | h
  · rw [h]
    rfl
  · rw [h]
    rfl

/-! ## What the dongle sends -/

variable {cfg : Config}

/-- The report of a body: its modifiers and its first six keys. -/
def keyboardReport (body : KbBody) : List UInt8 :=
  1 :: body.modifiers :: 0 :: (body.keys.take 6 ++ List.replicate (6 - body.keys.length) 0)

/-- **The dongle forwards the modifiers and six slots**, whatever the
keyboard's array is. -/
theorem forwardKeyboard_packet (body : KbBody) :
    forwardKeyboard (((kbLane cfg).packet cfg body).drop 2) = keyboardReport body := by
  have hroom : 9 ≤ cfg.esbPktDataMax := by
    have hfits := cfg.mouse_fits
    rw [Config.esbPktDataMax]
    omega
  obtain ⟨n, hn⟩ := Nat.exists_eq_add_of_le' (Nat.le_of_succ_le hroom)
  have hdrop : ((kbLane cfg).packet cfg body).drop 2 =
      body.bytes.take (n + 8) ++ List.replicate (n + 8 - body.bytes.length) 0 := by
    rw [← hn]
    rfl
  have hlength : 8 ≤ (body.bytes.take (n + 8) ++
      List.replicate (n + 8 - body.bytes.length) (0 : UInt8)).length := by
    rw [List.length_append, List.length_take, List.length_replicate]
    omega
  rw [hdrop, forwardKeyboard, forward, Nat.sub_eq_zero_of_le hlength, List.replicate_zero,
    List.append_nil, List.take_append, List.take_take, List.take_replicate, List.length_take,
    keyboardReport, KbBody.bytes]
  have hmin : min 8 (n + 8) = 8 := by omega
  have hpad : min (8 - min (n + 8) (body.modifiers :: 0 :: body.keys).length)
      (n + 8 - (body.modifiers :: 0 :: body.keys).length) = 6 - body.keys.length := by
    rw [List.length_cons, List.length_cons]
    omega
  rw [hmin, hpad]
  rfl

/-- The dongle's history, one keyboard packet later. -/
theorem hidReports_kbPacket {d : Dongle} (h : d.Forwards) (pipe : Nat) (body : KbBody) :
    (dongleOnPacket d pipe ((kbLane cfg).packet cfg body)).hidReports =
      d.hidReports ++ [keyboardReport body] := by
  have hstate : ¬(d.state ≠ .connected ∧ d.state ≠ .verifying) := fun hne =>
    h.elim hne.1 hne.2
  have hlen : 2 ≤ ((kbLane cfg).packet cfg body).length := by
    simp [HidLane.packet, hidPacket]
  have hpacket : dongleOnPacket d pipe ((kbLane cfg).packet cfg body) =
      onHidReport d ((kbLane cfg).packet cfg body) := rfl
  have hkb : onHidReport d ((kbLane cfg).packet cfg body) =
      sendHidReport d (forwardKeyboard (((kbLane cfg).packet cfg body).drop 2)) := by
    rw [onHidReport, if_neg hstate, if_pos hlen]
    rfl
  rw [hpacket, hkb, sendHidReport, forwardKeyboard_packet]

/-! ## What arrives -/

/-- A key the host reads is one of the first six slots, within the range
the descriptor gives. -/
theorem mem_pressedKeys (body : KbBody) {usage : Nat} :
    (∃ pressed, pressedKeys (keyboardReport body) = some pressed ∧ usage ∈ pressed) ↔
      ∃ k ∈ body.keys.take 6, k ≠ 0 ∧ k.toNat ≤ 0x65 ∧ k.toNat = usage := by
  have hslot : ∀ i, i < 6 → (body.modifiers :: 0 :: (body.keys.take 6 ++
      List.replicate (6 - body.keys.length) 0)).getD (i + 2) 0 = body.keys.getD i 0 := by
    intro i hi
    rw [List.getD_cons_succ, List.getD_cons_succ]
    rcases Nat.lt_or_ge i body.keys.length with hlt | hge
    · rw [List.getD_append _ _ _ _ (by rw [List.length_take]; omega), List.getD_eq_getElem?_getD,
        List.getD_eq_getElem?_getD, List.getElem?_take_of_lt hi]
    · rw [List.getD_append_right _ _ _ _ (by rw [List.length_take]; omega),
        List.getD_eq_default _ _ hge]
      rw [List.getD_eq_getElem?_getD]
      exact List.getElem?_getD_replicate_default_eq _ _ _
  rw [keyboardReport, pressedKeys_report]
  simp only [Option.some.injEq, exists_eq_left', List.mem_filter, List.mem_filterMap,
    List.mem_range, bne_iff_ne]
  constructor
  · rintro ⟨⟨i, hi, hselect⟩, hne⟩
    rw [hslot i hi] at hselect
    split at hselect
    · rename_i hrange
      obtain rfl := Option.some.inj hselect
      have hlt : i < body.keys.length := by
        by_contra hge
        rw [List.getD_eq_default _ _ (Nat.le_of_not_lt hge)] at hne
        exact hne rfl
      refine ⟨body.keys.getD i 0, ?_, fun hzero => hne (by rw [hzero]; rfl), hrange, rfl⟩
      rw [List.getD_eq_getElem _ _ hlt]
      exact List.mem_take_iff_getElem.2 ⟨i, by omega, rfl⟩
    · exact absurd hselect (by simp)
  · rintro ⟨k, hk, hne, hrange, rfl⟩
    obtain ⟨i, hi, rfl⟩ := List.mem_take_iff_getElem.1 hk
    refine ⟨⟨i, by omega, ?_⟩, fun hzero => hne (UInt8.toNat_inj.1 hzero)⟩
    rw [hslot i (by omega), List.getD_eq_getElem _ _ (by omega), if_pos hrange]

/-- **Keys survive**: the dongle sends one report for the packet, and it
says that the keys held are pressed, and no others. -/
def KeyboardSurvives (cfg : Config) (d : Dongle) (pipe : Nat) (body : KbBody)
    (held : Finset UInt32) : Prop :=
  ∃ report pressed,
    (dongleOnPacket d pipe ((kbLane cfg).packet cfg body)).hidReports = d.hidReports ++ [report] ∧
      pressedKeys report = some pressed ∧ ∀ k : UInt32, k.toNat ∈ pressed ↔ k ∈ held

/-- What of a faithful array arrives. -/
theorem keyboardSurvives_iff_slots {d : Dongle} (h : d.Forwards) (pipe : Nat) {body : KbBody}
    {held : Finset UInt32} (hfaithful : Faithful (entries UInt8.toUInt32 0 body.keys) held) :
    KeyboardSurvives cfg d pipe body held ↔
      ∀ k ∈ held, k ≤ 0x65 ∧ k.toUInt8 ∈ body.keys.take 6 := by
  have hentry : ∀ k : UInt32, k ∈ held ↔ ∃ k' ∈ body.keys, k' ≠ 0 ∧ k'.toUInt32 = k := by
    intro k
    rw [← hfaithful.2 k, entries, List.mem_map]
    constructor
    · rintro ⟨k', hk', heq⟩
      obtain ⟨hmem, hne⟩ := List.mem_filter.1 hk'
      exact ⟨k', hmem, of_decide_eq_true hne, heq⟩
    · rintro ⟨k', hmem, hne, heq⟩
      exact ⟨k', List.mem_filter.2 ⟨hmem, decide_eq_true hne⟩, heq⟩
  obtain ⟨pressed, hpressed⟩ : ∃ pressed, pressedKeys (keyboardReport body) = some pressed :=
    ⟨_, pressedKeys_report _⟩
  have hmem : ∀ k : UInt32, k.toNat ∈ pressed ↔
      ∃ k' ∈ body.keys.take 6, k' ≠ 0 ∧ k'.toNat ≤ 0x65 ∧ k'.toUInt32 = k := by
    intro k
    have hread := @mem_pressedKeys body k.toNat
    simp only [hpressed, Option.some.injEq, exists_eq_left'] at hread
    rw [hread]
    simp only [← UInt32.toNat_inj, UInt8.toNat_toUInt32]
  have hsent := @hidReports_kbPacket cfg d h pipe body
  have hsurvives : KeyboardSurvives cfg d pipe body held ↔
      ∀ k : UInt32, k.toNat ∈ pressed ↔ k ∈ held := by
    constructor
    · rintro ⟨report, pressed', hreport, hpressed', hheld⟩
      have heq : keyboardReport body = report :=
        List.singleton_inj.1 (List.append_cancel_left (hsent.symm.trans hreport))
      rw [← heq, hpressed, Option.some.injEq] at hpressed'
      exact hpressed' ▸ hheld
    · exact fun hheld => ⟨_, pressed, hsent, hpressed, hheld⟩
  rw [hsurvives]
  constructor
  · intro hall k hk
    obtain ⟨k', hin, hne, hrange, rfl⟩ := (hmem k).1 ((hall k).2 hk)
    refine ⟨?_, ?_⟩
    · rw [UInt32.le_iff_toNat_le, UInt8.toNat_toUInt32]
      exact hrange
    · rw [UInt8.toUInt8_toUInt32]
      exact hin
  · intro hall k
    rw [hmem, hentry]
    constructor
    · rintro ⟨k', hin, hne, -, heq⟩
      exact ⟨k', List.mem_of_mem_take hin, hne, heq⟩
    · rintro ⟨k', hin, hne, rfl⟩
      obtain ⟨hrange, hslot⟩ := hall _ ((hentry _).2 ⟨k', hin, hne, rfl⟩)
      rw [UInt32.le_iff_toNat_le, UInt8.toNat_toUInt32] at hrange
      rw [UInt8.toUInt8_toUInt32] at hslot
      exact ⟨k', hslot, hne, hrange, rfl⟩

/-- **What the host sees of the keyboard**, after any run of key events
that the array has room for. The modifiers arrive as the report has them,
and the keys held do exactly when each of them is at most 0x65 and in one
of the first six slots. -/
theorem keyboardSurvives_iff (cfg : Config) (hnkro : cfg.hidReportTypeNkro = false)
    {d : Dongle} (hforwards : d.Forwards) (pipe : Nat) (e : Endpoint) {ops : List HidOp}
    (h : Guarded (relayKeysStep cfg) (RelayKeysFit cfg)
      (⟨e, HidRelay.boot cfg⟩, KeysTrace.start cfg) ops) :
    let t := runFrom (relayKeysStep cfg) (⟨e, HidRelay.boot cfg⟩, KeysTrace.start cfg) ops
    let body := t.1.hid.kb.body
    (∃ report, (dongleOnPacket d pipe ((kbLane cfg).packet cfg body)).hidReports =
        d.hidReports ++ [report] ∧
      ∀ b, pressedModifier b report = some (if hasMod body.modifiers b then 1 else 0)) ∧
    (KeyboardSurvives cfg d pipe body t.2.kbHeld ↔
      ∀ k ∈ t.2.kbHeld, k ≤ 0x65 ∧ k.toUInt8 ∈ body.keys.take 6) := by
  intro t body
  have ht : RelayKeysAgree t ∧ KeysFaithful t.2 := (relayKeys_faithful hnkro e h).last
  have hfaithful : Faithful (entries UInt8.toUInt32 0 body.keys) t.2.kbHeld := by
    rw [show body.keys = t.2.kb.keys from ht.1.1]
    exact ht.2.1
  exact ⟨⟨_, hidReports_kbPacket hforwards pipe body, fun b => pressedModifier_report b _⟩,
    keyboardSurvives_iff_slots hforwards pipe hfaithful⟩

instance (t : HidEndpoint × KeysTrace) : (op : HidOp) → Decidable (RelayKeysFit cfg t op)
  | .event _ ev => inferInstanceAs (Decidable (∀ call ∈ keyCalls ev, KeyFits cfg t.2 call))
  | .retry => inferInstanceAs (Decidable True)
  | .world _ => inferInstanceAs (Decidable True)

/-- A shift and two keys. -/
def shiftedKeys : List HidOp :=
  [.event true ⟨0x07, 0xE1, 0, 0, true⟩, .event true ⟨0x07, 4, 0, 0, true⟩,
    .event true ⟨0x07, 0x68, 0, 0, true⟩]

theorem keyboardSurvives_iff_shiftedKeys :
    let t := runFrom (relayKeysStep .default)
      (⟨Endpoint.bootConnected .default, HidRelay.boot .default⟩, KeysTrace.start .default)
      shiftedKeys
    let body := t.1.hid.kb.body
    body.modifiers = 2 ∧
    (∃ report, (dongleOnPacket { state := .connected, myDeviceId := [] } 1
        ((kbLane .default).packet .default body)).hidReports =
          (Dongle.hidReports { state := .connected, myDeviceId := [] }) ++ [report] ∧
      ∀ b, pressedModifier b report = some (if hasMod body.modifiers b then 1 else 0)) ∧
    (KeyboardSurvives .default { state := .connected, myDeviceId := [] } 1 body t.2.kbHeld ↔
      ∀ k ∈ t.2.kbHeld, k ≤ 0x65 ∧ k.toUInt8 ∈ body.keys.take 6) :=
  ⟨by decide +kernel, keyboardSurvives_iff .default rfl (Or.inl rfl) 1
    (Endpoint.bootConnected .default) (by decide +kernel)⟩

end EsbEndpoint
