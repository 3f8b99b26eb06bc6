import EsbEndpoint.HidRelay.Replay
import Mathlib.Data.List.FinRange

/-!
# What the modifier flags count

`mods_inc` and `mods_dec` keep a reference count for each modifier, and its
flag is to be set as long as a press of it is outstanding. The counts are
bytes: the 256th press that is outstanding at once takes one back to zero,
and from then on the flag and the presses part (`not_modsCounted`). Short
of that they agree, whatever the events (`modsCounted_of_noOverflow`).
-/

namespace EsbEndpoint

/-! ## Bits of a mask -/

theorem toBitVec_modBit (b : Fin 8) : (modBit b).toBitVec = BitVec.twoPow 8 b.val := by
  revert b
  decide

theorem hasMod_eq (mods : UInt8) (b : Fin 8) : hasMod mods b = mods.toBitVec.getLsbD b.val := by
  have hbit : (mods &&& modBit b).toBitVec =
      if mods.toBitVec.getLsbD b.val then BitVec.twoPow 8 b.val else 0#8 := by
    rw [UInt8.toBitVec_and, toBitVec_modBit, BitVec.and_twoPow]
  have hne : ∀ b : Fin 8, BitVec.twoPow 8 b.val ≠ 0#8 := by decide
  rw [hasMod, Bool.eq_iff_iff, bne_iff_ne, ne_eq, ← UInt8.toBitVec_inj, hbit]
  split
  · rename_i hset
    exact iff_of_true (hne b) hset
  · rename_i hset
    exact iff_of_false (fun h => h rfl) hset

@[simp] theorem hasMod_zero (b : Fin 8) : hasMod 0 b = false := by
  rw [hasMod, UInt8.zero_and, bne_self_eq_false]

/-- Setting a bit's flag, or not. -/
theorem hasMod_setIf (z : Bool) (mods : UInt8) (b b' : Fin 8) :
    hasMod (if z then mods ||| modBit b else mods) b' =
      if b' = b then hasMod mods b || z else hasMod mods b' := by
  have hset : hasMod (mods ||| modBit b) b' = (hasMod mods b' || decide (b.val = b'.val)) := by
    rw [hasMod_eq, hasMod_eq, UInt8.toBitVec_or, toBitVec_modBit, BitVec.getLsbD_or,
      BitVec.getLsbD_twoPow, decide_eq_true b.isLt, Bool.true_and]
  by_cases hb : b' = b
  · subst hb
    cases z with
    | true => rw [if_pos rfl, if_pos rfl, hset, decide_eq_true rfl]
    | false => rw [if_neg Bool.false_ne_true, if_pos rfl, Bool.or_false]
  · rw [if_neg hb]
    split
    · rw [hset, decide_eq_false fun h => hb (Fin.ext h.symm), Bool.or_false]
    · rfl

/-- Clearing it, or not. -/
theorem hasMod_clearIf (z : Bool) (mods : UInt8) (b b' : Fin 8) :
    hasMod (if z then mods &&& ~~~modBit b else mods) b' =
      if b' = b then hasMod mods b && !z else hasMod mods b' := by
  have hclear : hasMod (mods &&& ~~~modBit b) b' =
      (hasMod mods b' && !decide (b.val = b'.val)) := by
    rw [hasMod_eq, hasMod_eq, UInt8.toBitVec_and, UInt8.toBitVec_not, toBitVec_modBit,
      BitVec.getLsbD_and, BitVec.getLsbD_not, BitVec.getLsbD_twoPow, decide_eq_true b.isLt,
      decide_eq_true b'.isLt, Bool.true_and, Bool.true_and]
  by_cases hb : b' = b
  · subst hb
    cases z with
    | true => rw [if_pos rfl, if_pos rfl, hclear, decide_eq_true rfl]
    | false => rw [if_neg Bool.false_ne_true, if_pos rfl, Bool.not_false, Bool.and_true]
  · rw [if_neg hb]
    split
    · rw [hclear, decide_eq_false fun h => hb (Fin.ext h.symm), Bool.not_false, Bool.and_true]
    · rfl

/-! ## One bit at a time -/

/-- A modifier's count, and its flag. -/
def ModState.bit (m : ModState) (b : Fin 8) : UInt8 × Bool := (m.refcount b, hasMod m.flags b)

/-- A turn of a loop that writes one bit's count and flag. -/
theorem bit_set {m : ModState} {b : Fin 8} {count flags : UInt8} {set : Bool}
    (hflags : ∀ b', hasMod flags b' = if b' = b then set else hasMod m.flags b') (b' : Fin 8) :
    ModState.bit ⟨fun b' => if b' = b then count else m.refcount b', flags⟩ b' =
      if b' = b then (count, set) else m.bit b' := by
  rw [ModState.bit, hflags]
  split
  · rename_i hb
    exact congrArg (·, set) (if_pos hb)
  · rename_i hb
    exact congrArg (·, hasMod m.flags b') (if_neg hb)

/-- A loop over the bits whose turns keep to their own. -/
theorem bit_foldl {turn : ModState → Fin 8 → ModState} {g : Fin 8 → UInt8 × Bool → UInt8 × Bool}
    (hturn : ∀ m b b', (turn m b).bit b' = if b' = b then g b (m.bit b) else m.bit b')
    {bs : List (Fin 8)} (hnodup : bs.Nodup) (m : ModState) (b : Fin 8) :
    (bs.foldl turn m).bit b = if b ∈ bs then g b (m.bit b) else m.bit b := by
  induction bs generalizing m with
  | nil => rfl
  | cons b' bs ih =>
    obtain ⟨hnot, hrest⟩ := List.nodup_cons.1 hnodup
    rw [List.foldl_cons, ih hrest, hturn]
    by_cases hb : b = b'
    · subst hb
      rw [if_neg hnot, if_pos rfl, if_pos List.mem_cons_self]
    · rw [if_neg hb]
      simp only [List.mem_cons, hb, false_or]

/-- A turn that is not taken. -/
theorem bit_skip (m : ModState) (b b' : Fin 8) :
    m.bit b' = if b' = b then m.bit b else m.bit b' := by
  split
  · rename_i hb
    rw [hb]
  · rfl

/-- **A press counts each of its bits**, and sets those it finds at zero. -/
theorem bit_modsInc (mods : UInt8) (m : ModState) (b : Fin 8) :
    (modsInc mods m).bit b =
      if hasMod mods b then (m.refcount b + 1, hasMod m.flags b || m.refcount b == 0)
      else m.bit b := by
  refine (bit_foldl (g := fun b p => if hasMod mods b then (p.1 + 1, p.2 || p.1 == 0) else p)
    (fun m b b' => ?_) (List.nodup_finRange 8) m b).trans (if_pos (List.mem_finRange b))
  cases hasMod mods b with
  | false => exact bit_skip m b b'
  | true => exact bit_set (hasMod_setIf _ m.flags b) b'

/-- **A release gives back those it finds counted**, and clears those that
come to zero. -/
theorem bit_modsDec (mods : UInt8) (m : ModState) (b : Fin 8) :
    (modsDec mods m).bit b =
      if hasMod mods b && 0 < m.refcount b then
        (m.refcount b - 1, hasMod m.flags b && !(m.refcount b - 1 == 0))
      else m.bit b := by
  refine (bit_foldl
    (g := fun b p => if hasMod mods b && 0 < p.1 then (p.1 - 1, p.2 && !(p.1 - 1 == 0)) else p)
    (fun m b b' => ?_) (List.nodup_finRange 8) m b).trans (if_pos (List.mem_finRange b))
  simp only [show (m.bit b).1 = m.refcount b from rfl]
  cases hasMod mods b && decide (0 < m.refcount b) with
  | false => exact bit_skip m b b'
  | true => exact bit_set (hasMod_clearIf _ m.flags b) b'

/-! ## Presses outstanding -/

/-- The presses outstanding of each modifier. -/
abbrev PressCount := Fin 8 → Nat

/-- After an event with these modifiers: one more of each, or one less of
those there are. -/
def outstandingAfter (down : Bool) (mods : UInt8) (n : PressCount) : PressCount := fun b =>
  if hasMod mods b then (if down then n b + 1 else n b - 1) else n b

/-- `mods_inc` or `mods_dec`. -/
def trackBits (down : Bool) (mods : UInt8) (m : ModState) : ModState :=
  (if down then modsInc else modsDec) mods m

/-- The counts are the presses outstanding, and the flags say of which
there are any. -/
def Counted (m : ModState) (n : PressCount) : Prop :=
  ∀ b, (m.refcount b).toNat = n b ∧ (hasMod m.flags b = true ↔ 0 < n b)

/-- A press finds no count of its modifiers at its limit. -/
def BelowLimit (down : Bool) (mods : UInt8) (m : ModState) : Prop :=
  down = true → ∀ b, hasMod mods b = true → m.refcount b ≠ 255

instance (down : Bool) (mods : UInt8) (m : ModState) : Decidable (BelowLimit down mods m) :=
  inferInstanceAs (Decidable (_ → _))

theorem trackBits_zero (down : Bool) (m : ModState) : trackBits down 0 m = m := by
  have hkept : ∀ bs : List (Fin 8), bs.foldl (fun m _ => m) m = m := by
    intro bs
    induction bs with
    | nil => rfl
    | cons b bs ih => exact ih
  cases down with
  | false =>
    show modsDec 0 m = m
    simp only [modsDec, hasMod_zero, Bool.false_and, Bool.false_eq_true, if_false]
    exact hkept _
  | true =>
    show modsInc 0 m = m
    simp only [modsInc, hasMod_zero, Bool.false_eq_true, if_false]
    exact hkept _

variable {m : ModState} {n : PressCount} {mods : UInt8}

/-- A count and its flag after the presses of an event. -/
theorem Counted.press (h : Counted m n) (hlimit : BelowLimit true mods m) :
    Counted (modsInc mods m) (outstandingAfter true mods n) := by
  intro b
  obtain ⟨hcount, hflag⟩ := h b
  have hbit := bit_modsInc mods m b
  rw [ModState.bit] at hbit
  rw [outstandingAfter]
  by_cases hmod : hasMod mods b = true
  · rw [if_pos hmod, Prod.mk.injEq] at hbit
    rw [hbit.1, hbit.2, if_pos hmod, if_pos rfl]
    have hne : (m.refcount b).toNat ≠ 255 := fun heq =>
      hlimit rfl b hmod (UInt8.toNat_inj.1 heq)
    have hlt := (m.refcount b).toNat_lt
    refine ⟨?_, iff_of_true ?_ (Nat.succ_pos _)⟩
    · rw [UInt8.toNat_add, UInt8.toNat_one, hcount, Nat.mod_eq_of_lt (by omega)]
    · -- a bit found at zero is set, and one found counted is set already
      cases hzero : m.refcount b == 0 with
      | true => exact Bool.or_true _
      | false =>
        have hpos : 0 < n b := by
          rw [← hcount]
          exact Nat.pos_of_ne_zero fun h0 => beq_eq_false_iff_ne.1 hzero (UInt8.toNat_inj.1 h0)
        rw [hflag.2 hpos]
        rfl
  · rw [if_neg hmod, ModState.bit, Prod.mk.injEq] at hbit
    rw [hbit.1, hbit.2, if_neg hmod]
    exact ⟨hcount, hflag⟩

/-- And after its releases. -/
theorem Counted.release (h : Counted m n) :
    Counted (modsDec mods m) (outstandingAfter false mods n) := by
  intro b
  obtain ⟨hcount, hflag⟩ := h b
  have hbit := bit_modsDec mods m b
  rw [ModState.bit] at hbit
  rw [outstandingAfter, if_neg Bool.false_ne_true]
  by_cases hgiven : (hasMod mods b && decide (0 < m.refcount b)) = true
  · rw [if_pos hgiven, Prod.mk.injEq] at hbit
    rw [Bool.and_eq_true, decide_eq_true_eq, UInt8.lt_iff_toNat_lt, hcount] at hgiven
    obtain ⟨hmod, hpos⟩ := hgiven
    have hless : (m.refcount b - 1).toNat = n b - 1 := by
      have hle : (1 : UInt8) ≤ m.refcount b := UInt8.le_iff_toNat_le.2 (by rw [hcount]; exact hpos)
      rw [UInt8.toNat_sub_of_le _ _ hle, hcount]
      rfl
    rw [hbit.1, hbit.2, if_pos hmod, hless]
    refine ⟨rfl, ?_⟩
    rw [hflag.2 hpos, Bool.true_and, Bool.not_eq_true', beq_eq_false_iff_ne, ne_eq,
      ← UInt8.toNat_inj, hless]
    exact Nat.pos_iff_ne_zero.symm
  · rw [if_neg hgiven, ModState.bit, Prod.mk.injEq] at hbit
    rw [Bool.and_eq_true, decide_eq_true_eq, UInt8.lt_iff_toNat_lt, hcount] at hgiven
    rw [hbit.1, hbit.2]
    by_cases hmod : hasMod mods b = true
    · -- nothing is outstanding, and nothing is given back
      have hnone : n b = 0 := Nat.eq_zero_of_not_pos fun hpos => hgiven ⟨hmod, hpos⟩
      rw [if_pos hmod]
      rw [hnone] at hcount hflag ⊢
      exact ⟨hcount, hflag⟩
    · rw [if_neg hmod]
      exact ⟨hcount, hflag⟩

theorem Counted.track (h : Counted m n) {down : Bool} (hlimit : BelowLimit down mods m) :
    Counted (trackBits down mods m) (outstandingAfter down mods n) := by
  cases down with
  | false => exact h.release
  | true => exact h.press hlimit

/-! ## What an event tracks -/

/-- The explicit modifiers an event presses or releases: its own bit for a
modifier key, and those it carries for any other key of a page the relay
takes. -/
def explicitMask (ev : KeycodeEvent) : UInt8 :=
  if isMod ev then 1 <<< (ev.keycode - 0xE0).toUInt8
  else if ev.usagePage = hidUsageKey ∨ ev.usagePage = hidUsageConsumer then ev.explicitModifiers
  else 0

/-- And the implicit ones, which a modifier key has none of. -/
def implicitMask (ev : KeycodeEvent) : UInt8 :=
  if isMod ev then 0
  else if ev.usagePage = hidUsageKey ∨ ev.usagePage = hidUsageConsumer then ev.implicitModifiers
  else 0

/-- The report state that events move and no send does. -/
structure KeyState where
  explicitMods : ModState
  implicitMods : ModState
  kbKeys : List UInt8
  consKeys : List UInt16

/-- The report state of a relay. -/
def HidRelay.keyState (hid : HidRelay) : KeyState :=
  ⟨hid.explicitMods, hid.implicitMods, hid.kb.body.keys, hid.cons.body.keys⟩

variable (cfg : Config)

/-- What an event does to it. -/
def KeyState.after (ev : KeycodeEvent) (k : KeyState) : KeyState where
  explicitMods := trackBits ev.state (explicitMask ev) k.explicitMods
  implicitMods := trackBits ev.state (implicitMask ev) k.implicitMods
  kbKeys :=
    if ev.usagePage = hidUsageKey ∧ isMod ev = false then
      ((if ev.state then kbKeysPress cfg else kbKeysRelease cfg) ev.keycode ⟨0, k.kbKeys⟩).keys
    else k.kbKeys
  consKeys :=
    if ev.usagePage = hidUsageConsumer then
      ((if ev.state then consKeysPress else consKeysRelease) ev.keycode ⟨k.consKeys⟩).keys
    else k.consKeys

section Frame

variable {cfg} {s : HidEndpoint}

/-- A drain sends the queue and not the report. -/
theorem HidLane.body_drainPending {β : Type} (lane : HidLane β) (s : Endpoint × HidReports β) :
    (lane.drainPending cfg s).2.body = s.2.body := by
  have hfold : ∀ (queue : List (Snapshot β)) (s : Endpoint × HidReports β),
      (queue.foldl (lane.sendBody cfg) s).2.body = s.2.body := by
    intro queue
    induction queue with
    | nil => exact fun _ => rfl
    | cons snapshot queue ih => exact fun s => ih (lane.sendBody cfg s snapshot)
  exact hfold s.2.backlog.pending s

theorem HidLane.body_sendLive {β : Type} (lane : HidLane β) (s : Endpoint × HidReports β) :
    (lane.sendLive cfg s).2.body = s.2.body := lane.body_drainPending s

theorem keyState_sendKeyboard : (sendKeyboard cfg s).hid.keyState = s.hid.keyState := by
  unfold sendKeyboard
  dsimp only
  split
  · rfl
  · have hbody := @HidLane.body_sendLive cfg _ (kbLane cfg) (s.e, (setModifiers s.hid).kb)
    simp only [HidEndpoint.onKb, HidRelay.keyState, HidEndpoint.mapHid]
    rw [hbody]
    rfl

theorem keyState_sendConsumer : (sendConsumer cfg s).hid.keyState = s.hid.keyState := by
  unfold sendConsumer
  split
  · rfl
  · have hbody := @HidLane.body_sendLive cfg _ (consLane cfg) (s.e, s.hid.cons)
    simp only [HidEndpoint.onCons, HidRelay.keyState]
    rw [hbody]

theorem keyState_hidRetryWorkFn : (hidRetryWorkFn cfg s).hid.keyState = s.hid.keyState := by
  unfold hidRetryWorkFn
  dsimp only
  split
  · rfl
  · simp only [drainPendingCons, drainPendingKb, HidEndpoint.onKb, HidEndpoint.onCons,
      HidRelay.keyState, HidLane.body_drainPending, HidEndpoint.mapHid]

/-- The two pages the relay takes have different numbers. -/
theorem isMod_of_consumer {ev : KeycodeEvent} (h : ev.usagePage = hidUsageConsumer) :
    isMod ev = false ∧ ev.usagePage ≠ hidUsageKey := by
  have hne : hidUsageConsumer ≠ hidUsageKey := by decide
  refine ⟨?_, fun hkey => hne (h.symm.trans hkey)⟩
  rw [isMod, h, beq_eq_false_iff_ne.2 hne, Bool.false_and, Bool.false_and]

/-- The keys move by themselves. -/
theorem keys_kbKeys (down : Bool) (keycode : UInt32) (body : KbBody) :
    ((if down then kbKeysPress cfg else kbKeysRelease cfg) keycode body).keys =
      ((if down then kbKeysPress cfg else kbKeysRelease cfg) keycode ⟨0, body.keys⟩).keys := by
  cases down with
  | true =>
    show (kbKeysPress cfg keycode body).keys = (kbKeysPress cfg keycode ⟨0, body.keys⟩).keys
    unfold kbKeysPress
    split
    · split <;> rfl
    · rfl
  | false =>
    show (kbKeysRelease cfg keycode body).keys = (kbKeysRelease cfg keycode ⟨0, body.keys⟩).keys
    unfold kbKeysRelease
    split
    · split <;> rfl
    · rfl

theorem keyState_trackKey {ev : KeycodeEvent} (hkey : ev.usagePage = hidUsageKey)
    (hid : HidRelay) : (trackKey cfg ev hid).keyState = hid.keyState.after cfg ev := by
  have hpage : ev.usagePage ≠ hidUsageConsumer := fun h => (isMod_of_consumer h).2 hkey
  unfold trackKey KeyState.after explicitMask implicitMask
  cases hmod : isMod ev with
  | true =>
    simp only [if_true, if_neg hpage, trackBits_zero, Bool.true_eq_false, and_false, if_false]
    rfl
  | false =>
    simp only [Bool.false_eq_true, if_false, hkey, true_or, if_true, and_self]
    have hkeys := @keys_kbKeys cfg ev.state ev.keycode hid.kb.body
    simp only [HidRelay.keyState, trackMods, hkeys]
    rfl

theorem keyState_trackConsumer {ev : KeycodeEvent} (hcons : ev.usagePage = hidUsageConsumer)
    (hid : HidRelay) : (trackConsumer ev hid).keyState = hid.keyState.after cfg ev := by
  obtain ⟨hmod, hpage⟩ := isMod_of_consumer hcons
  unfold trackConsumer KeyState.after explicitMask implicitMask
  simp only [hmod, Bool.false_eq_true, if_false, hcons, or_true, if_true]
  rfl

/-- **An event moves what is tracked**, active or not, and nothing else
does. -/
theorem keyState_hidStep (op : HidOp) :
    (hidStep cfg s op).hid.keyState =
      match op with
      | .event _ ev => s.hid.keyState.after cfg ev
      | _ => s.hid.keyState := by
  cases op with
  | event endpointActive ev =>
    -- the falling edge empties the rings and leaves the rest
    generalize hs : s.mapHid (fun hid =>
      { (if hid.wasActive && !(endpointActive && s.e.pairingIsConnected) then onInactive hid
          else hid) with
        wasActive := endpointActive && s.e.pairingIsConnected }) = s₁
    have hstate : s₁.hid.keyState = s.hid.keyState := by
      rw [← hs]
      simp only [HidEndpoint.mapHid]
      split <;> rfl
    have hstep : hidStep cfg s (.event endpointActive ev) =
        (relayEvent cfg (endpointActive && s.e.pairingIsConnected) ev s₁).1 := by
      rw [← hs]
      rfl
    rw [hstep, ← hstate]
    unfold relayEvent
    split
    · rename_i hkey
      dsimp only
      split
      · rw [keyState_sendKeyboard]
        exact keyState_trackKey hkey s₁.hid
      · exact keyState_trackKey hkey s₁.hid
    · split
      · rename_i hcons
        dsimp only
        split
        · rw [keyState_sendConsumer]
          split
          · rw [keyState_sendKeyboard]
            exact keyState_trackConsumer hcons s₁.hid
          · exact keyState_trackConsumer hcons s₁.hid
        · exact keyState_trackConsumer hcons s₁.hid
      · -- another page bubbles
        rename_i hkey hcons
        have hmod : isMod ev = false := by
          rw [isMod, beq_eq_false_iff_ne.2 hkey, Bool.false_and, Bool.false_and]
        simp only [KeyState.after, explicitMask, implicitMask, hmod, hkey, hcons, or_self, if_false,
          false_and, Bool.false_eq_true, trackBits_zero]
  | retry => exact keyState_hidRetryWorkFn
  | world rest => rfl

end Frame

/-! ## Runs -/

/-- The relay, and the presses outstanding of the explicit and of the
implicit modifiers. -/
structure ModTrace where
  s : HidEndpoint
  explicit : PressCount := fun _ => 0
  implicit : PressCount := fun _ => 0

def modStep (t : ModTrace) (op : HidOp) : ModTrace where
  s := hidStep cfg t.s op
  explicit :=
    match op with
    | .event _ ev => outstandingAfter ev.state (explicitMask ev) t.explicit
    | _ => t.explicit
  implicit :=
    match op with
    | .event _ ev => outstandingAfter ev.state (implicitMask ev) t.implicit
    | _ => t.implicit

/-- **The flags are exact**: one is set just when a press of its modifier
is outstanding. -/
def ModsCounted (t : ModTrace) : Prop :=
  ∀ b, (hasMod t.s.hid.explicitMods.flags b = true ↔ 0 < t.explicit b) ∧
    (hasMod t.s.hid.implicitMods.flags b = true ↔ 0 < t.implicit b)

/-- The condition on an event: it presses no modifier whose count is at
its limit. -/
def NoOverflow (t : ModTrace) : HidOp → Prop
  | .event _ ev =>
    BelowLimit ev.state (explicitMask ev) t.s.hid.explicitMods ∧
      BelowLimit ev.state (implicitMask ev) t.s.hid.implicitMods
  | _ => True

instance (t : ModTrace) : (op : HidOp) → Decidable (NoOverflow t op)
  | .event _ _ => inferInstanceAs (Decidable (_ ∧ _))
  | .retry => inferInstanceAs (Decidable True)
  | .world _ => inferInstanceAs (Decidable True)

/-- The relay at boot, with nothing pressed. -/
def ModTrace.start (e : Endpoint) : ModTrace where
  s := ⟨e, HidRelay.boot cfg⟩

variable {cfg} {t : ModTrace}

/-- The counts of a run. -/
def ModTrace.Counted (t : ModTrace) : Prop :=
  EsbEndpoint.Counted t.s.hid.explicitMods t.explicit ∧
    EsbEndpoint.Counted t.s.hid.implicitMods t.implicit

theorem mods_hidStep (s : HidEndpoint) (endpointActive : Bool) (ev : KeycodeEvent) :
    (hidStep cfg s (.event endpointActive ev)).hid.explicitMods =
        trackBits ev.state (explicitMask ev) s.hid.explicitMods ∧
      (hidStep cfg s (.event endpointActive ev)).hid.implicitMods =
        trackBits ev.state (implicitMask ev) s.hid.implicitMods :=
  ⟨congrArg KeyState.explicitMods (keyState_hidStep _),
    congrArg KeyState.implicitMods (keyState_hidStep _)⟩

/-- **An event below the limit keeps the counts.** -/
theorem ModTrace.Counted.step (h : t.Counted) {op : HidOp} (hlimit : NoOverflow t op) :
    (modStep cfg t op).Counted := by
  cases op with
  | event endpointActive ev =>
    obtain ⟨hexplicit, himplicit⟩ := @mods_hidStep cfg t.s endpointActive ev
    rw [ModTrace.Counted, modStep, hexplicit, himplicit]
    exact ⟨h.1.track hlimit.1, h.2.track hlimit.2⟩
  | retry =>
    have hkept := @keyState_hidStep cfg t.s .retry
    have hexplicit : (hidStep cfg t.s .retry).hid.explicitMods = t.s.hid.explicitMods :=
      congrArg KeyState.explicitMods hkept
    have himplicit : (hidStep cfg t.s .retry).hid.implicitMods = t.s.hid.implicitMods :=
      congrArg KeyState.implicitMods hkept
    show EsbEndpoint.Counted (hidStep cfg t.s .retry).hid.explicitMods t.explicit ∧
      EsbEndpoint.Counted (hidStep cfg t.s .retry).hid.implicitMods t.implicit
    rw [hexplicit, himplicit]
    exact h
  | world rest => exact h

theorem ModTrace.counted_start (e : Endpoint) : (ModTrace.start cfg e).Counted := by
  have hnone : ∀ b, hasMod 0 b = true ↔ 0 < 0 := fun b =>
    iff_of_false (by rw [hasMod_zero]; exact Bool.false_ne_true) (Nat.lt_irrefl 0)
  exact ⟨fun b => ⟨rfl, hnone b⟩, fun b => ⟨rfl, hnone b⟩⟩

/-- **Modifier flags are exact reference counts** in every run in which no
event presses a modifier that 255 presses outstanding hold already; so no
release clears one that a press outstanding still holds. -/
theorem modsCounted_of_noOverflow (cfg : Config) (e : Endpoint) (ops : List HidOp)
    (h : Guarded (modStep cfg) NoOverflow (ModTrace.start cfg e) ops) :
    Throughout (modStep cfg) ModsCounted (ModTrace.start cfg e) ops :=
  (Throughout.of_guarded (P := ModTrace.Counted) (fun _ _ ht hlimit => ht.step hlimit)
    (ModTrace.counted_start e) h).imp fun _ ht b => ⟨(ht.1 b).2, (ht.2 b).2⟩

/-- Left shift held under a key that carries it, and released first. -/
theorem modsCounted_shift :
    Throughout (modStep .default) ModsCounted
      (ModTrace.start .default (Endpoint.bootConnected .default))
      [.event true ⟨hidUsageKey, 0xE1, 0, 0, true⟩, .event true ⟨hidUsageKey, 4, 0, 2, true⟩,
        .event true ⟨hidUsageKey, 0xE1, 0, 0, false⟩, .retry,
        .event true ⟨hidUsageKey, 4, 0, 2, false⟩] :=
  modsCounted_of_noOverflow .default _ _ (by decide +kernel)

theorem explicit_modStep (t : ModTrace) (endpointActive : Bool) (ev : KeycodeEvent) :
    (modStep cfg t (.event endpointActive ev)).explicit =
      outstandingAfter ev.state (explicitMask ev) t.explicit := rfl

/-- Left control pressed over and over. -/
theorem run_presses (n : Nat) (t : ModTrace) :
    (runFrom (modStep cfg) t
        (List.replicate n (.event false ⟨hidUsageKey, 0xE0, 0, 0, true⟩))).explicit 0 =
      t.explicit 0 + n ∧
    (runFrom (modStep cfg) t
        (List.replicate n (.event false ⟨hidUsageKey, 0xE0, 0, 0, true⟩))).s.hid.explicitMods.refcount
        0 = t.s.hid.explicitMods.refcount 0 + UInt8.ofNat n := by
  induction n generalizing t with
  | zero => exact ⟨rfl, (UInt8.add_zero _).symm⟩
  | succ n ih =>
    obtain ⟨hcount, hrefcount⟩ := ih (modStep cfg t (.event false ⟨hidUsageKey, 0xE0, 0, 0, true⟩))
    obtain ⟨hexplicit, -⟩ := @mods_hidStep cfg t.s false ⟨hidUsageKey, 0xE0, 0, 0, true⟩
    have hbit := congrArg Prod.fst (bit_modsInc 1 t.s.hid.explicitMods 0)
    rw [List.replicate_succ, runFrom_cons, hcount, hrefcount]
    refine ⟨Nat.succ_add_eq_add_succ _ _, ?_⟩
    rw [modStep, hexplicit]
    refine (congrArg (· + UInt8.ofNat n) hbit).trans ?_
    show t.s.hid.explicitMods.refcount 0 + 1 + UInt8.ofNat n = _
    rw [UInt8.add_assoc, UInt8.add_comm 1, ← UInt8.ofNat_one, ← UInt8.ofNat_add]

/-- With 257 presses outstanding, one release clears the flag. -/
theorem not_modsCounted : ¬ ∀ (cfg : Config) (e : Endpoint) (ops : List HidOp),
    Throughout (modStep cfg) ModsCounted (ModTrace.start cfg e) ops := by
  intro h
  have hrun := (h .default (Endpoint.bootConnected .default)
    (List.replicate 257 (.event false ⟨hidUsageKey, 0xE0, 0, 0, true⟩) ++
      [.event false ⟨hidUsageKey, 0xE0, 0, 0, false⟩])).last
  obtain ⟨hcount, hrefcount⟩ := @run_presses .default 257
    (ModTrace.start .default (Endpoint.bootConnected .default))
  rw [runFrom_append, runFrom_cons, runFrom_nil] at hrun
  generalize runFrom (modStep .default) (ModTrace.start .default (Endpoint.bootConnected .default))
    (List.replicate 257 (.event false ⟨hidUsageKey, 0xE0, 0, 0, true⟩)) = t at *
  have hone : t.s.hid.explicitMods.refcount 0 = 1 :=
    hrefcount.trans (by decide : (0 : UInt8) + UInt8.ofNat 257 = 1)
  have hpressed : hasMod (explicitMask ⟨hidUsageKey, 0xE0, 0, 0, false⟩) 0 = true := by decide
  have hout : 0 < (modStep .default t
      (.event false ⟨hidUsageKey, 0xE0, 0, 0, false⟩)).explicit 0 := by
    rw [explicit_modStep, outstandingAfter, if_pos hpressed, if_neg Bool.false_ne_true, hcount,
      Nat.add_sub_assoc (Nat.le_of_ble_eq_true rfl)]
    exact Nat.lt_of_lt_of_le (by decide) (Nat.le_add_left (257 - 1) _)
  obtain ⟨hexplicit, -⟩ := @mods_hidStep .default t.s false ⟨hidUsageKey, 0xE0, 0, 0, false⟩
  have hbit := bit_modsDec 1 t.s.hid.explicitMods 0
  rw [hone, if_pos (by decide), ModState.bit, Prod.mk.injEq] at hbit
  have hcleared : hasMod (hidStep .default t.s
      (.event false ⟨hidUsageKey, 0xE0, 0, 0, false⟩)).hid.explicitMods.flags 0 = false := by
    rw [hexplicit]
    exact hbit.2.trans (Bool.and_false _)
  have hset := (hrun 0).1.2 hout
  exact Bool.noConfusion (hcleared.symm.trans hset)

end EsbEndpoint
