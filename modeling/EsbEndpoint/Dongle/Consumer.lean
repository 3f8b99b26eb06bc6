import EsbEndpoint.Dongle.Mouse
import EsbEndpoint.HidRelay.Keys
import Mathlib.Data.List.Dedup

/-!
# Consumer keys, from the keyboard to the host

The keyboard's consumer report is an array of usages; the dongle copies
its first two bytes behind the report ID, and its descriptor reads them as
sixteen flags. So the host reads the bits of the usage in the first slot,
whatever else is held, and what is held survives only in a few lucky cases
(`consumerSurvives_iff`).
-/

namespace EsbEndpoint

/-! ## What the host reads -/

/-- The usages of the consumer report, field by field: the last one named
goes on to the sixteenth. -/
theorem reportFields_two :
    (reportFields 2).map (fun f => (f.usagePage, f.usage, f.bitOffset, f.bitSize)) =
      (List.range 16).map fun i =>
        (0x0C, [0xCD, 0x200, 0x201, 0x223, 0x26F, 0x270][i]?.or (some 0x1EA), i, 1) := by
  decide +kernel

/-- The usages the consumer collection declares. -/
def consumerUsages : List Nat := (reportFields 2).filterMap HidField.usage |>.dedup

/-- The usages a report of ID 2 asserts: those of the fields that are
set. -/
def assertedUsages : List UInt8 → Option (List Nat)
  | [] => none
  | reportId :: payload => do
    guard (reportId = 2)
    return ((reportFields reportId).filter fun f =>
      f.usagePage == 0x0C && f.read payload != 0).filterMap HidField.usage

/-- The seven usages of the collection. -/
theorem consumerUsages_eq :
    consumerUsages = [0xCD, 0x200, 0x201, 0x223, 0x26F, 0x270, 0x1EA] := by
  decide +kernel

/-! ## What is held -/

variable (cfg : Config)

/-- A consumer key pressed or released, in the report. -/
def consEvent (body : ConsBody) (ev : UInt32 × Bool) : ConsBody :=
  if ev.2 then consKeysPress ev.1 body else consKeysRelease ev.1 body

/-- The report after these events. -/
def consBodyAfter (events : List (UInt32 × Bool)) : ConsBody :=
  events.foldl consEvent (HidRelay.boot cfg).cons.body

/-- Whether a usage is held: its latest event was a press. -/
def heldAfter (events : List (UInt32 × Bool)) : UInt32 → Bool :=
  events.foldl (fun held ev usage => if usage = ev.1 then ev.2 else held usage) fun _ => false

theorem heldAfter_append (events : List (UInt32 × Bool)) (ev : UInt32 × Bool) (usage : UInt32) :
    heldAfter (events ++ [ev]) usage = if usage = ev.1 then ev.2 else heldAfter events usage := by
  rw [heldAfter, List.foldl_append]
  rfl

/-- A free slot filled holds the key, and nothing else is new. -/
theorem mem_fillFree {α : Type} [DecidableEq α] {zero key k : α} {keys : List α}
    (h : k ∈ fillFree zero key keys) : k = key ∨ k ∈ keys := by
  induction keys with
  | nil => exact absurd h List.not_mem_nil
  | cons k₀ keys ih =>
    rw [fillFree] at h
    split at h
    · rcases List.mem_cons.1 h with rfl | hmem
      · exact Or.inl rfl
      · exact Or.inr (List.mem_cons_of_mem _ hmem)
    · rcases List.mem_cons.1 h with rfl | hmem
      · exact Or.inr List.mem_cons_self
      · rcases ih hmem with heq | hin
        · exact Or.inl heq
        · exact Or.inr (List.mem_cons_of_mem _ hin)

/-- **Every slot is free or holds a key that is held.** -/
theorem held_of_mem {events : List (UInt32 × Bool)} (h16 : ∀ ev ∈ events, ev.1 < 65536)
    {k : UInt16} (hk : k ∈ (consBodyAfter cfg events).keys) :
    k = 0 ∨ heldAfter events k.toUInt32 = true := by
  induction events using List.reverseRecOn generalizing k with
  | nil => exact Or.inl (List.eq_of_mem_replicate hk)
  | append_singleton events ev ih =>
    have hold := @ih fun ev' hev' => h16 ev' (List.mem_append_left _ hev')
    have hev : ev.1 < 65536 := h16 ev (List.mem_append_right _ List.mem_cons_self)
    rw [heldAfter_append]
    rw [consBodyAfter, List.foldl_append] at hk
    change k ∈ (consEvent (consBodyAfter cfg events) ev).keys at hk
    rw [consEvent] at hk
    split at hk
    · rename_i hpress
      -- a press fills a free slot, or finds none
      have hcases : k = ev.1.toUInt16 ∨ k ∈ (consBodyAfter cfg events).keys := by
        rw [consKeysPress, slotPress] at hk
        split at hk
        · exact Or.inr hk
        · exact mem_fillFree hk
      rcases hcases with rfl | hin
      · refine Or.inr ?_
        rw [if_pos (toUInt32_toUInt16 hev), hpress]
      · rcases hold hin with rfl | hheld
        · exact Or.inl rfl
        · refine Or.inr ?_
          split
          · exact hpress
          · exact hheld
    · rw [consKeysRelease, slotRelease] at hk
      -- a release frees the slots of its own usage alone
      obtain ⟨k', hk', hfreed⟩ := List.mem_map.1 hk
      split at hfreed
      · exact Or.inl hfreed.symm
      · rename_i hother
        subst hfreed
        rcases hold hk' with rfl | hheld
        · exact Or.inl rfl
        · refine Or.inr ?_
          rw [if_neg]
          · exact hheld
          · intro heq
            exact hother (beq_iff_eq.2 heq)

/-! ## What the dongle sends -/

/-- The first slot. -/
def ConsBody.first (body : ConsBody) : UInt16 := body.keys.headD 0

/-- The report of a usage in the first slot. -/
def firstReport (k : UInt16) : List UInt8 := [2, k.toUInt8, (k >>> 8).toUInt8]

variable {cfg}

/-- **The dongle forwards the first slot** and nothing else. -/
theorem forwardConsumer_packet (body : ConsBody) :
    forwardConsumer (((consLane cfg).packet cfg body).drop 2) = firstReport body.first := by
  have hroom : 2 ≤ cfg.esbPktDataMax := by
    have hfits := cfg.mouse_fits
    rw [Config.esbPktDataMax]
    omega
  obtain ⟨n, hn⟩ := Nat.exists_eq_add_of_le' hroom
  have hdrop : ((consLane cfg).packet cfg body).drop 2 =
      body.bytes.take (n + 2) ++ List.replicate (n + 2 - body.bytes.length) 0 := by
    rw [← hn]
    rfl
  rw [hdrop, forwardConsumer, forward, firstReport, ConsBody.first]
  cases hkeys : body.keys with
  | nil =>
    rw [ConsBody.bytes, hkeys]
    simp [List.replicate_succ]
  | cons k keys =>
    rw [ConsBody.bytes, hkeys]
    simp [List.flatMap_cons]

/-- The dongle's history, one consumer packet later. -/
theorem hidReports_consPacket {d : Dongle} (h : d.Forwards) (pipe : Nat) (body : ConsBody) :
    (dongleOnPacket d pipe ((consLane cfg).packet cfg body)).hidReports =
      d.hidReports ++ [firstReport body.first] := by
  have hstate : ¬(d.state ≠ .connected ∧ d.state ≠ .verifying) := fun hne =>
    h.elim hne.1 hne.2
  have hlen : 2 ≤ ((consLane cfg).packet cfg body).length := by
    simp [HidLane.packet, hidPacket]
  have hpacket : dongleOnPacket d pipe ((consLane cfg).packet cfg body) =
      onHidReport d ((consLane cfg).packet cfg body) := rfl
  have hcons : onHidReport d ((consLane cfg).packet cfg body) =
      sendHidReport d (forwardConsumer (((consLane cfg).packet cfg body).drop 2)) := by
    rw [onHidReport, if_neg hstate, if_pos hlen]
    rfl
  rw [hpacket, hcons, sendHidReport, forwardConsumer_packet]

/-- **Consumer keys survive**: the dongle sends one report for the packet,
and it asserts what is held and nothing else. -/
def ConsumerSurvives (cfg : Config) (d : Dongle) (pipe : Nat) (events : List (UInt32 × Bool)) :
    Prop :=
  ∃ report asserted,
    (dongleOnPacket d pipe ((consLane cfg).packet cfg (consBodyAfter cfg events))).hidReports =
        d.hidReports ++ [report] ∧
      assertedUsages report = some asserted ∧
      ∀ usage : UInt32, usage.toNat ∈ asserted ↔ heldAfter events usage = true

/-- The usages the bits of a declared usage stand for. -/
def bitUsages (first : UInt16) : List UInt32 :=
  if first = 0xCD then [0xCD, 0x201, 0x223, 0x1EA]
  else if first = 0x200 then [0x1EA]
  else if first = 0x201 then [0xCD, 0x1EA]
  else if first = 0x223 then [0xCD, 0x200, 0x270, 0x1EA]
  else if first = 0x26F then [0xCD, 0x200, 0x201, 0x223, 0x270, 0x1EA]
  else if first = 0x270 then [0x26F, 0x270, 0x1EA]
  else if first = 0x1EA then [0x200, 0x223, 0x270, 0x1EA]
  else []

/-- What the first slot can be. -/
abbrev slotUsages : List UInt16 := [0, 0xCD, 0x200, 0x201, 0x223, 0x26F, 0x270, 0x1EA]

theorem assertedUsages_first {first : UInt16} (h : first ∈ slotUsages) :
    (assertedUsages (firstReport first)).map List.dedup =
      some ((bitUsages first).map UInt32.toNat) := by
  simp only [slotUsages, List.mem_cons, List.not_mem_nil, or_false] at h
  obtain rfl | rfl | rfl | rfl | rfl | rfl | rfl | rfl := h <;> decide +kernel

/-- Exactly these usages are held. -/
def HeldExactly (events : List (UInt32 × Bool)) (usages : List UInt32) : Prop :=
  ∀ usage, heldAfter events usage = true ↔ usage ∈ usages

/-- **The report survives just when** what the bits of the first slot stand
for is held. -/
theorem consumerSurvives_iff_first {d : Dongle} {pipe : Nat} {events : List (UInt32 × Bool)}
    (hforwards : d.Forwards) (hfirst : (consBodyAfter cfg events).first ∈ slotUsages) :
    ConsumerSurvives cfg d pipe events ↔
      HeldExactly events (bitUsages (consBodyAfter cfg events).first) := by
  have hsent := @hidReports_consPacket cfg d hforwards pipe (consBodyAfter cfg events)
  have hread := assertedUsages_first hfirst
  rw [Option.map_eq_some_iff] at hread
  obtain ⟨asserted, hasserted, hdedup⟩ := hread
  have hmem : ∀ usage : UInt32, usage.toNat ∈ asserted ↔
      usage ∈ bitUsages (consBodyAfter cfg events).first := by
    intro usage
    rw [← List.mem_dedup, hdedup, List.mem_map]
    constructor
    · rintro ⟨usage', hin, heq⟩
      rwa [← UInt32.toNat_inj.1 heq]
    · exact fun hin => ⟨usage, hin, rfl⟩
  constructor
  · rintro ⟨report, asserted', hreport, hasserted', hheld⟩
    have heq : firstReport (consBodyAfter cfg events).first = report :=
      List.singleton_inj.1 (List.append_cancel_left (hsent.symm.trans hreport))
    rw [← heq, hasserted, Option.some.injEq] at hasserted'
    subst hasserted'
    exact fun usage => (hheld usage).symm.trans (hmem usage)
  · intro hheld
    exact ⟨_, asserted, hsent, hasserted, fun usage => (hmem usage).trans (hheld usage).symm⟩

/-- **When the report says what is held**: nothing is, or the usage in the
first slot is held along with just those its bits stand for. -/
inductive BitsHeld (first : UInt16) (events : List (UInt32 × Bool)) : Prop
  | nothing (h : HeldExactly events [])
  | playPause (hfirst : first = 0xCD) (h : HeldExactly events [0xCD, 0x201, 0x223, 0x1EA])
  | scanPrevious (hfirst : first = 0x270) (h : HeldExactly events [0x26F, 0x270, 0x1EA])
  | wheel (hfirst : first = 0x1EA) (h : HeldExactly events [0x200, 0x223, 0x270, 0x1EA])

/-- The first slot is free, or its usage is held. -/
theorem first_cases {events : List (UInt32 × Bool)} (h16 : ∀ ev ∈ events, ev.1 < 65536) :
    (consBodyAfter cfg events).first = 0 ∨
      heldAfter events (consBodyAfter cfg events).first.toUInt32 = true := by
  have hheld := fun k => @held_of_mem cfg events h16 k
  rw [ConsBody.first]
  cases hkeys : (consBodyAfter cfg events).keys with
  | nil => exact Or.inl rfl
  | cons k keys =>
    refine hheld k ?_
    rw [hkeys]
    exact List.mem_cons_self

/-- A declared usage, as a slot holds it. -/
theorem mem_slotUsages {first : UInt16} (h : first.toUInt32.toNat ∈ consumerUsages) :
    first ∈ slotUsages := by
  have hmem : first.toNat ∈ (slotUsages.map UInt16.toNat) := by
    rw [consumerUsages_eq, UInt16.toNat_toUInt32] at h
    exact List.mem_cons_of_mem _ h
  obtain ⟨usage, hin, heq⟩ := List.mem_map.1 hmem
  rwa [← UInt16.toNat_inj.1 heq]

/-- **Consumer keys survive the path, exactly when** nothing is held, or
what is held is what the bits of the first slot's usage stand for. -/
theorem consumerSurvives_iff (cfg : Config) (d : Dongle) (pipe : Nat)
    (events : List (UInt32 × Bool)) (hforwards : d.Forwards)
    (h16 : ∀ ev ∈ events, ev.1 < 65536)
    (hdeclared : ∀ usage, heldAfter events usage = true → usage.toNat ∈ consumerUsages) :
    ConsumerSurvives cfg d pipe events ↔ BitsHeld (consBodyAfter cfg events).first events := by
  have hcases := @first_cases cfg events h16
  have hslot : (consBodyAfter cfg events).first ∈ slotUsages := by
    rcases hcases with hfree | hheld
    · rw [hfree]
      exact List.mem_cons_self
    · exact mem_slotUsages (hdeclared _ hheld)
  rw [consumerSurvives_iff_first hforwards hslot]
  generalize (consBodyAfter cfg events).first = first at hcases hslot ⊢
  constructor
  · intro h
    -- the usage in the slot must be among those its own bits stand for
    have hself : first = 0 ∨ first.toUInt32 ∈ bitUsages first :=
      hcases.imp_right (h _).1
    simp only [slotUsages, List.mem_cons, List.not_mem_nil, or_false] at hslot
    rcases hslot with rfl | rfl | rfl | rfl | rfl | rfl | rfl | rfl
    · exact .nothing h
    · exact .playPause rfl h
    · exact absurd hself (by decide)
    · exact absurd hself (by decide)
    · exact absurd hself (by decide)
    · exact absurd hself (by decide)
    · exact .scanPrevious rfl h
    · exact .wheel rfl h
  · intro h
    cases h with
    | nothing h =>
      rcases hcases with rfl | hheld
      · exact h
      · exact absurd ((h _).1 hheld) List.not_mem_nil
    | playPause hfirst h => rwa [hfirst]
    | scanPrevious hfirst h => rwa [hfirst]
    | wheel hfirst h => rwa [hfirst]

/-- Play/Pause, held alone, is a usage of the collection. -/
theorem declared_playPause (usage : UInt32) (h : heldAfter [(0xCD, true)] usage = true) :
    usage.toNat ∈ consumerUsages := by
  have hheld : heldAfter [(0xCD, true)] usage = if usage = 0xCD then true else false := rfl
  rw [hheld] at h
  split at h
  · rename_i heq
    rw [heq, consumerUsages_eq]
    decide
  · exact absurd h Bool.false_ne_true

/-- Play/Pause alone. -/
theorem consumerSurvives_iff_playPause :
    ConsumerSurvives .default { state := .connected, myDeviceId := [] } 1 [(0xCD, true)] ↔
      BitsHeld (consBodyAfter .default [(0xCD, true)]).first [(0xCD, true)] :=
  consumerSurvives_iff .default { state := .connected, myDeviceId := [] } 1 [(0xCD, true)]
    (Or.inl rfl) (List.forall_mem_singleton.2 (by decide)) declared_playPause

/-- It does not survive: the host reads Mute beside it. -/
theorem not_consumerSurvives : ¬ ∀ (cfg : Config) (d : Dongle) (pipe : Nat)
    (events : List (UInt32 × Bool)), d.Forwards → (∀ ev ∈ events, ev.1 < 65536) →
    (∀ usage, heldAfter events usage = true → usage.toNat ∈ consumerUsages) →
    ConsumerSurvives cfg d pipe events := by
  intro h
  obtain ⟨report, asserted, hreport, hasserted, hiff⟩ := h .default
    { state := .connected, myDeviceId := [] } 1 [(0xCD, true)] (Or.inl rfl)
    (List.forall_mem_singleton.2 (by decide)) declared_playPause
  have hsent := @hidReports_consPacket .default { state := .connected, myDeviceId := [] }
    (Or.inl rfl) 1 (consBodyAfter .default [(0xCD, true)])
  have heq := List.singleton_inj.1 (List.append_cancel_left (hsent.symm.trans hreport))
  have hmute : (0x223 : UInt32).toNat ∈ asserted := by
    have hread : assertedUsages (firstReport (consBodyAfter .default [(0xCD, true)]).first) =
        some [0xCD, 0x201, 0x223, 0x1EA, 0x1EA] := by decide +kernel
    rw [← heq, hread, Option.some.injEq] at hasserted
    rw [← hasserted]
    decide
  exact absurd ((hiff 0x223).1 hmute) (by decide)

end EsbEndpoint
