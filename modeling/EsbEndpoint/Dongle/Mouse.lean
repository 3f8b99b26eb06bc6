import EsbEndpoint.Dongle.Main
import EsbEndpoint.InputProcessor

/-!
# A mouse report, from the keyboard to the host

The keyboard packs four 16-bit deltas; the dongle copies six bytes of the
body behind the report ID, and its descriptor reads the first five as the
buttons and four 8-bit deltas. So the host reads the halves of the first
two deltas where it looks for all four, and the report survives only where
these happen to be the deltas sent (`mouseSurvives_iff`).
-/

namespace EsbEndpoint

/-! ## What the host reads -/

/-- A mouse report as the host decodes it. -/
structure HostMouse where
  buttons : Int
  x : Int
  y : Int
  wheel : Int
  acPan : Int
  deriving DecidableEq

/-- The fields of a report under `hid_report_desc`. -/
def reportFields (reportId : UInt8) : List HidField :=
  ((hidFields hidReportDesc).getD []).filter fun f => f.reportId == reportId.toNat

/-- Button `i` of the page `Button`, in the mask's place. -/
def buttonBit (fields : List HidField) (payload : List UInt8) (i : Nat) : Option Int :=
  (hidUsage fields 0x09 (i + 1) payload).map (2 ^ i * ·)

/-- A report of ID 3, decoded as `hid_report_desc` lays it out. -/
def decodeMouse : List UInt8 → Option HostMouse
  | [] => none
  | reportId :: payload => do
    guard (reportId = 3)
    let fields := reportFields reportId
    let bits ← (List.range 5).mapM (buttonBit fields payload)
    return {
      buttons := bits.sum
      x := ← hidUsage fields 0x01 0x30 payload
      y := ← hidUsage fields 0x01 0x31 payload
      wheel := ← hidUsage fields 0x01 0x38 payload
      acPan := ← hidUsage fields 0x0C 0x238 payload }

/-- The layout of report ID 3: five buttons, padding, and four signed
bytes. -/
theorem reportFields_three :
    reportFields 3 =
      [⟨3, 9, some 1, 0, 1, 0, 1⟩, ⟨3, 9, some 2, 1, 1, 0, 1⟩, ⟨3, 9, some 3, 2, 1, 0, 1⟩,
        ⟨3, 9, some 4, 3, 1, 0, 1⟩, ⟨3, 9, some 5, 4, 1, 0, 1⟩,
        ⟨3, 9, none, 5, 1, 0, 1⟩, ⟨3, 9, none, 6, 1, 0, 1⟩, ⟨3, 9, none, 7, 1, 0, 1⟩,
        ⟨3, 1, some 0x30, 8, 8, -127, 127⟩, ⟨3, 1, some 0x31, 16, 8, -127, 127⟩,
        ⟨3, 1, some 0x38, 24, 8, -127, 127⟩, ⟨3, 12, some 0x238, 32, 8, -127, 127⟩] := by
  decide +kernel

/-- A field that lies in byte `k`. -/
theorem read_of_byte {f : HidField} {payload : List UInt8} {k i : Nat}
    (hoff : f.bitOffset = 8 * k + i) (hfits : i + f.bitSize ≤ 8) :
    f.read payload =
      if f.logicalMinimum < 0 then
        Int.bmod ((payload.getD k 0).toNat / 2 ^ i % 2 ^ f.bitSize : Nat) (2 ^ f.bitSize)
      else ((payload.getD k 0).toNat / 2 ^ i % 2 ^ f.bitSize : Nat) := by
  simp only [HidField.read, hoff, leNat_bits payload hfits]

/-- A button is its bit. -/
theorem buttonBit_eq {payload : List UInt8} {i : Nat} (h : i < 5) :
    buttonBit (reportFields 3) payload i =
      some (2 ^ i * (((payload.getD 0 0).toNat / 2 ^ i % 2 : Nat) : Int)) := by
  have hfield : buttonBit (reportFields 3) payload i =
      some (2 ^ i * (HidField.mk 3 9 (some (i + 1)) i 1 0 1).read payload) := by
    rw [reportFields_three]
    obtain rfl | rfl | rfl | rfl | rfl : i = 0 ∨ i = 1 ∨ i = 2 ∨ i = 3 ∨ i = 4 := by omega
    all_goals rfl
  rw [hfield, @read_of_byte _ payload 0 i (by simp) (by simp only; omega)]
  rfl

/-- A delta is its byte, signed. -/
theorem delta_eq {payload : List UInt8} {page usage k : Nat}
    (h : hidUsage (reportFields 3) page usage payload =
      some ((HidField.mk 3 page (some usage) (8 * k) 8 (-127) 127).read payload)) :
    hidUsage (reportFields 3) page usage payload =
      some (Int.bmod (payload.getD k 0).toNat 256) := by
  have hbyte : (payload.getD k 0).toNat / 2 ^ 0 % 2 ^ 8 = (payload.getD k 0).toNat := by
    have hlt := UInt8.toNat_lt (payload.getD k 0)
    omega
  rw [h, @read_of_byte _ payload k 0 rfl (by simp), hbyte, if_pos (by decide : (-127 : Int) < 0)]
  simp only [Nat.reducePow]

/-- **What the host reads** in a payload behind ID 3. -/
theorem decodeMouse_report (payload : List UInt8) :
    decodeMouse (3 :: payload) =
      some {
        buttons := ((payload.getD 0 0).toNat % 32 : Nat)
        x := Int.bmod (payload.getD 1 0).toNat 256
        y := Int.bmod (payload.getD 2 0).toNat 256
        wheel := Int.bmod (payload.getD 3 0).toNat 256
        acPan := Int.bmod (payload.getD 4 0).toNat 256 } := by
  have hx := @delta_eq payload 0x01 0x30 1 (by rw [reportFields_three]; rfl)
  have hy := @delta_eq payload 0x01 0x31 2 (by rw [reportFields_three]; rfl)
  have hwheel := @delta_eq payload 0x01 0x38 3 (by rw [reportFields_three]; rfl)
  have hpan := @delta_eq payload 0x0C 0x238 4 (by rw [reportFields_three]; rfl)
  have hbits : (List.range 5).mapM (buttonBit (reportFields 3) payload) =
      some ((List.range 5).map fun i =>
        2 ^ i * (((payload.getD 0 0).toNat / 2 ^ i % 2 : Nat) : Int)) := by
    have hrange : List.range 5 = [0, 1, 2, 3, 4] := rfl
    simp only [hrange, List.mapM_cons, List.mapM_nil, buttonBit_eq (by decide : 0 < 5),
      buttonBit_eq (by decide : 1 < 5), buttonBit_eq (by decide : 2 < 5),
      buttonBit_eq (by decide : 3 < 5), buttonBit_eq (by decide : 4 < 5)]
    rfl
  have hsum : ((List.range 5).map fun i =>
      2 ^ i * (((payload.getD 0 0).toNat / 2 ^ i % 2 : Nat) : Int)).sum =
        ((payload.getD 0 0).toNat % 32 : Nat) := by
    have hrange : List.range 5 = [0, 1, 2, 3, 4] := rfl
    simp only [hrange, List.map_cons, List.map_nil, List.sum_cons, List.sum_nil]
    omega
  simp only [decodeMouse, guard, if_true, hbits, hx, hy, hwheel, hpan]
  rw [← hsum]
  rfl

/-! ## What the dongle sends -/

variable (cfg : Config) (d : Dongle) (pipe : Nat) (buttons : UInt8) (deltas : Deltas)

/-- **The dongle sends the first six bytes of the body** behind ID 3. -/
theorem hidReports_mousePacket (h : d.Forwards) :
    (dongleOnPacket d pipe (mousePacket cfg buttons deltas)).hidReports =
      d.hidReports ++ [3 :: (mouseReportBody buttons deltas).bytes.take 6] := by
  have hstate : ¬(d.state ≠ .connected ∧ d.state ≠ .verifying) := fun hne =>
    h.elim hne.1 hne.2
  have hlen : 2 ≤ (mousePacket cfg buttons deltas).length := by simp [mousePacket]
  have hfits : 6 - ((mousePacket cfg buttons deltas).drop 2).length = 0 := by
    simp [mousePacket, MouseBody.bytes]
  have hforward : forwardMouse ((mousePacket cfg buttons deltas).drop 2) =
      3 :: (mouseReportBody buttons deltas).bytes.take 6 := by
    rw [forwardMouse, forward, hfits]
    rfl
  have hpacket : dongleOnPacket d pipe (mousePacket cfg buttons deltas) =
      onHidReport d (mousePacket cfg buttons deltas) := rfl
  have hmouse : onHidReport d (mousePacket cfg buttons deltas) =
      sendHidReport d (forwardMouse ((mousePacket cfg buttons deltas).drop 2)) := by
    rw [onHidReport, if_neg hstate, if_pos hlen]
    rfl
  rw [hpacket, hmouse, sendHidReport, hforward]

/-- **A mouse report survives**: the dongle sends one report for it, which
the host decodes to its buttons and its four deltas. -/
def MouseSurvives : Prop :=
  ∃ report, (dongleOnPacket d pipe (mousePacket cfg buttons deltas)).hidReports =
      d.hidReports ++ [report] ∧
    decodeMouse report =
      some {
        buttons := buttons.toNat
        x := deltas .dX
        y := deltas .dY
        wheel := deltas .scrollY
        acPan := deltas .scrollX }

/-- A small delta is its own low byte, -/
theorem bmod_lowByte {v : Int} (h : -127 ≤ v ∧ v ≤ 127) :
    Int.bmod (lowByte v).toNat 256 = v := by
  rw [toNat_lowByte]
  exact (@Int.emod_bmod v 256).trans (@Int.bmod_eq_of_le v 256 (by omega) (by omega))

/-- and its high byte is its sign. -/
theorem bmod_highByte {v : Int} (h : -127 ≤ v ∧ v ≤ 127) :
    Int.bmod (highByte v).toNat 256 = if v < 0 then -1 else 0 := by
  rw [toNat_highByte]
  split
  · have hdiv : v / 256 % 256 = 255 := by omega
    rw [hdiv]
    rfl
  · have hdiv : v / 256 % 256 = 0 := by omega
    rw [hdiv]
    rfl

variable {buttons : UInt8} {deltas : Deltas}

/-- **What reaches the host**: the halves of the first two deltas. -/
theorem decodeMouse_body (hbuttons : buttons < 32)
    (hdeltas : ∀ a, -127 ≤ deltas a ∧ deltas a ≤ 127) :
    decodeMouse (3 :: (mouseReportBody buttons deltas).bytes.take 6) =
      some {
        buttons := buttons.toNat
        x := deltas .dX
        y := if deltas .dX < 0 then -1 else 0
        wheel := deltas .dY
        acPan := if deltas .dY < 0 then -1 else 0 } := by
  have hsat : ∀ a, sat16 (deltas a) = deltas a := fun a =>
    sat16_of_isInt16 ⟨by have := hdeltas a; omega, by have := hdeltas a; omega⟩
  have hmask : buttons.toNat % 32 = buttons.toNat := Nat.mod_eq_of_lt hbuttons
  rw [decodeMouse_report]
  simp only [mouseReportBody, MouseBody.bytes, hsat, List.take_succ_cons, List.getD_cons_zero,
    List.getD_cons_succ, hmask, bmod_lowByte (hdeltas _), bmod_highByte (hdeltas _)]

/-- **A mouse report survives the path, exactly when** its vertical delta
is the sign of its horizontal one, its wheel repeats the vertical delta
and its pan is the sign of that. -/
theorem mouseSurvives_iff (cfg : Config) (d : Dongle) (pipe : Nat) (buttons : UInt8)
    (deltas : Deltas) (hforwards : d.Forwards) (hbuttons : buttons < 32)
    (hdeltas : ∀ a, -127 ≤ deltas a ∧ deltas a ≤ 127) :
    MouseSurvives cfg d pipe buttons deltas ↔
      deltas .dY = (if deltas .dX < 0 then -1 else 0) ∧ deltas .scrollY = deltas .dY ∧
        deltas .scrollX = if deltas .dY < 0 then -1 else 0 := by
  have hsent := hidReports_mousePacket cfg d pipe buttons deltas hforwards
  have hread := decodeMouse_body hbuttons hdeltas
  constructor
  · rintro ⟨report, hreport, hdecode⟩
    have heq : 3 :: (mouseReportBody buttons deltas).bytes.take 6 = report :=
      List.singleton_inj.1 (List.append_cancel_left (hsent.symm.trans hreport))
    rw [← heq, hread] at hdecode
    simp only [Option.some.injEq, HostMouse.mk.injEq, true_and] at hdecode
    exact ⟨hdecode.1.symm, hdecode.2.1.symm, hdecode.2.2.symm⟩
  · rintro ⟨hy, hwheel, hpan⟩
    exact ⟨_, hsent, by rw [hread, hwheel, hpan, hy]⟩

/-- A report that moves right alone. -/
theorem mouseSurvives_iff_right :
    MouseSurvives .default { state := .connected, myDeviceId := [] } 1 1
        (fun a => if a = .dX then 5 else 0) ↔
      (0 : Int) = (if (5 : Int) < 0 then -1 else 0) ∧ (0 : Int) = 0 ∧
        (0 : Int) = if (0 : Int) < 0 then -1 else 0 :=
  mouseSurvives_iff .default { state := .connected, myDeviceId := [] } 1 1
    (fun a => if a = .dX then 5 else 0) (Or.inl rfl) (by decide)
    (fun a => by cases a <;> exact ⟨by decide, by decide⟩)

/-- A report that moves down does not survive. -/
theorem not_mouseSurvives : ¬ ∀ (cfg : Config) (d : Dongle) (pipe : Nat) (buttons : UInt8)
    (deltas : Deltas), d.Forwards → buttons < 32 → (∀ a, -127 ≤ deltas a ∧ deltas a ≤ 127) →
    MouseSurvives cfg d pipe buttons deltas := by
  intro h
  obtain ⟨report, hreport, hdecode⟩ := h .default { state := .connected, myDeviceId := [] } 1 0
    (fun a => if a = .dY then 2 else 0) (Or.inl rfl) (by decide)
    (fun a => by cases a <;> exact ⟨by decide, by decide⟩)
  have hsent := hidReports_mousePacket .default { state := .connected, myDeviceId := [] } 1 0
    (fun a => if a = .dY then 2 else 0) (Or.inl rfl)
  have heq := List.singleton_inj.1 (List.append_cancel_left (hsent.symm.trans hreport))
  rw [← heq] at hdecode
  exact absurd hdecode (by decide +kernel)

end EsbEndpoint
