import EsbEndpoint.Control
import EsbEndpoint.Transport.Handover

/-!
# The control thread and the hardware

The two layers together: the thread of `src/esb/esb_endpoint.c` starts and
stops the slot, and `Transport.Handover` says what that does to the
hardware. `esb_transport_on_slot_stop` may not be called twice in a row,
and nothing but the thread's queue sees to it.
-/

namespace EsbEndpoint

variable {σ : Type} (cfg : Config) (n : Nrfx σ)

structure Ownership (σ : Type) where
  c : Control
  h : Handover σ

/-- What a step of the thread does to the hardware. -/
def slotOp (c : Control) (hfxo : Bool) : CtrlOp → Option HandoverOp
  | .thread =>
    match c.pc with
    | .pairingStarted => some (.slotStart hfxo)
    | .released => some .slotStop
    | _ => none
  | _ => none

/-- Whether this is the thread's to do. -/
def HandoverOp.isSlot : HandoverOp → Bool
  | .slotStart _ | .slotStop => true
  | _ => false

inductive OwnershipOp
  | ctrl (op : CtrlOp) (hfxo : Bool)
  /-- the driver, the controller, and others -/
  | other (op : HandoverOp)

def ownershipStep (s : Ownership σ) : OwnershipOp → Ownership σ
  | .ctrl op hfxo =>
    { c := ctrlStep cfg s.c op
      h := (slotOp s.c hfxo op).elim s.h (handoverStep cfg n s.h) }
  | .other op => if op.isSlot then s else { s with h := handoverStep cfg n s.h op }

/-- The thread at work, the crystal running. -/
def Ownership.threads (k : Nat) (s : Ownership σ) : Ownership σ :=
  runFrom (ownershipStep cfg n) s (List.replicate k (.ctrl .thread true))

/-- **The hardware is in order**: nothing was freed that is not allocated,
no `__ASSERT(false)` was met, and the controller finds its channels as it
left them. -/
def InOrder (h : Handover σ) : Prop :=
  h.ppi.stray = false ∧ h.asserted = false ∧ LlKept h

/-- **The hardware is handed over properly**, now and while the thread
finishes what it has to do. -/
def HandedProperly (s : Ownership σ) : Prop := ∀ k, InOrder (s.threads cfg n k).h

/-- The controller leaves its channels alone while they are suspended. -/
def OwnershipPassive (s : Ownership σ) : OwnershipOp → Prop
  | .ctrl _ _ => True
  | .other op => LlPassive s.h op

instance (s : Ownership σ) : (op : OwnershipOp) → Decidable (OwnershipPassive s op)
  | .ctrl _ _ => inferInstanceAs (Decidable True)
  | .other op => inferInstanceAs (Decidable (LlPassive s.h op))

/-- The condition on an event: one that puts DEACTIVATE finds the
outstanding commands to leave `esb_active` set. -/
def DeactivatesOnce (c : Control) (op : CtrlOp) : Prop :=
  op.command cfg c = some .deactivate → c.esbCtrlMsgq.length < cfg.ctrlMsgqDepth →
    c.settles = true

instance (c : Control) (op : CtrlOp) : Decidable (DeactivatesOnce cfg c op) :=
  inferInstanceAs (Decidable (_ → _ → _))

/-- The condition on an operation of the system. -/
def StopsOnce (s : Ownership σ) : OwnershipOp → Prop
  | .ctrl op _ => DeactivatesOnce cfg s.c op
  | .other _ => True

instance (s : Ownership σ) : (op : OwnershipOp) → Decidable (StopsOnce cfg s op)
  | .ctrl op _ => inferInstanceAs (Decidable (DeactivatesOnce cfg s.c op))
  | .other _ => inferInstanceAs (Decidable True)

/-! ## The commands ahead -/

/-- The command in progress, as long as its start or stop is to come. -/
def CtrlPc.ahead : CtrlPc → List EsbCmd
  | .fetched cmd => [cmd]
  | .quiescing | .pairingStarted => [.activate]
  | .relayStopped | .released => [.deactivate]
  | .waiting | .slotStarted | .activated => []

/-- The starts and stops to come. -/
def Control.ahead (c : Control) : List EsbCmd := c.pc.ahead ++ c.esbCtrlMsgq

/-- Every stop meets a slot. -/
def StopsMeetSlot : Bool → List EsbCmd → Prop
  | _, [] => True
  | _, .activate :: cmds => StopsMeetSlot true cmds
  | running, .deactivate :: cmds => running = true ∧ StopsMeetSlot false cmds

/-- Whether the slot runs after them. -/
def slotAfter (running : Bool) (cmds : List EsbCmd) : Bool :=
  (cmds.getLast?.map EsbCmd.target).getD running

/-- What the thread knows of the slot, at each of its steps. -/
def Aligned (s : Ownership σ) : Prop :=
  match s.c.pc with
  | .slotStarted => s.h.esbInitialized = true
  | .released => s.c.esbActive = false
  | _ => s.c.esbActive = s.h.esbInitialized

/-- All is well and stays so. -/
def WellAhead (s : Ownership σ) : Prop :=
  s.h.ppi.stray = false ∧ s.h.asserted = false ∧ StopsMeetSlot s.h.esbInitialized s.c.ahead

variable {cfg n} {s : Ownership σ}

theorem slotAfter_cons (running : Bool) (cmd : EsbCmd) (cmds : List EsbCmd) :
    slotAfter running (cmd :: cmds) = slotAfter cmd.target cmds := by
  rw [slotAfter, slotAfter, List.getLast?_cons]
  cases cmds.getLast? <;> rfl

/-- **One more command**: a stop, after a start. -/
theorem stopsMeetSlot_append (running : Bool) (cmds : List EsbCmd) (cmd : EsbCmd) :
    StopsMeetSlot running (cmds ++ [cmd]) ↔
      StopsMeetSlot running cmds ∧ (cmd = .deactivate → slotAfter running cmds = true) := by
  induction cmds generalizing running with
  | nil => cases cmd <;> simp [StopsMeetSlot, slotAfter]
  | cons cmd' cmds ih =>
    rw [List.cons_append, slotAfter_cons]
    cases cmd' with
    | activate => exact ih true
    | deactivate =>
      rw [StopsMeetSlot, StopsMeetSlot, and_assoc]
      exact and_congr_right fun _ => ih false

/-- Where the slot ends up is where `esb_active` does. -/
theorem settles_eq_slotAfter (h : Aligned s) :
    s.c.settles = slotAfter s.h.esbInitialized s.c.ahead := by
  rw [Control.settles, slotAfter, Control.ahead, List.getLast?_append]
  cases hq : s.c.esbCtrlMsgq.getLast? with
  | some cmd => rfl
  | none =>
    rw [Aligned] at h
    cases hpc : s.c.pc <;> rw [hpc] at h <;> simp [CtrlPc.target, CtrlPc.ahead, EsbCmd.target, h]

/-! ## The thread -/

theorem handover_slotStart (hn : n.Documented) {h : Handover σ} (hs : h.Sound cfg n)
    (hfxo : Bool) :
    (handoverStep cfg n h (.slotStart hfxo)).ppi.stray = h.ppi.stray ∧
      (handoverStep cfg n h (.slotStart hfxo)).asserted = h.asserted ∧
      (handoverStep cfg n h (.slotStart hfxo)).esbInitialized = true := by
  obtain ⟨hinit, -, hassert, hstray, -⟩ := @slotStart_spec σ cfg n h hn hs.pool hfxo
  exact ⟨hstray, hassert, hinit⟩

theorem handover_slotStop (hn : n.Documented) {h : Handover σ} (hs : h.Sound cfg n) :
    (handoverStep cfg n h .slotStop).esbInitialized = false ∧
      ((handoverStep cfg n h .slotStop).ppi.stray = false ∧
          (handoverStep cfg n h .slotStop).asserted = false ↔
        h.ppi.stray = false ∧ h.asserted = false ∧ h.esbInitialized = true) := by
  obtain ⟨ppi, asserted, heq, -⟩ :=
    @slotStop_outside σ cfg n h hn.toKeepsToPool hs.toBorrows
  obtain ⟨-, hstray, hassert⟩ := @slotStop_spec σ cfg n h hn hs.pool
  refine ⟨by rw [handoverStep, heq], ?_⟩
  rw [handoverStep, hstray, Bool.or_eq_false_iff, Bool.not_eq_false']
  constructor
  · rintro ⟨⟨hnone, hinit⟩, hno⟩
    exact ⟨hnone, (hassert hinit).symm.trans hno, hinit⟩
  · rintro ⟨hnone, hno, hinit⟩
    exact ⟨⟨hnone, hinit⟩, (hassert hinit).trans hno⟩

/-- Nobody else starts or stops the slot. -/
theorem handover_other {h : Handover σ} {op : HandoverOp} (hslot : op.isSlot = false) :
    (handoverStep cfg n h op).ppi.stray = h.ppi.stray ∧
      (handoverStep cfg n h op).asserted = h.asserted ∧
      (handoverStep cfg n h op).esbInitialized = h.esbInitialized := by
  cases op with
  | slotStart | slotStop => exact absurd hslot (by simp [HandoverOp.isSlot])
  | hfRequest | ll => exact ⟨rfl, rfl, rfl⟩
  | hfRelease =>
    rw [handoverStep]
    split <;> exact ⟨rfl, rfl, rfl⟩
  | set u =>
    obtain ⟨chen, ends, heq⟩ := @handoverStep_use σ cfg n h u (.set u) (Or.inl rfl)
    rw [heq]
    exact ⟨rfl, rfl, rfl⟩
  | clear u =>
    obtain ⟨chen, ends, heq⟩ := @handoverStep_use σ cfg n h u (.clear u) (Or.inr rfl)
    rw [heq]
    exact ⟨rfl, rfl, rfl⟩

/-- **A step of the thread** knows where the slot is, and changes nothing
of what is ahead. -/
theorem thread_spec (hn : n.Documented) (hs : s.h.Sound cfg n) (ha : Aligned s) (hfxo : Bool) :
    Aligned (ownershipStep cfg n s (.ctrl .thread hfxo)) ∧
      (WellAhead (ownershipStep cfg n s (.ctrl .thread hfxo)) ↔ WellAhead s) := by
  obtain ⟨c, h⟩ := s
  rw [Aligned] at ha
  rw [ownershipStep, WellAhead, WellAhead, Control.ahead, Control.ahead, Aligned]
  cases hpc : c.pc with
  | waiting =>
    rw [hpc] at ha
    dsimp only at ha
    cases hq : c.esbCtrlMsgq with
    | nil => simp [ctrlStep, slotOp, esbCtrlThreadFn, hpc, hq, ha, CtrlPc.ahead]
    | cons cmd rest => simp [ctrlStep, slotOp, esbCtrlThreadFn, hpc, hq, ha, CtrlPc.ahead]
  | fetched cmd =>
    rw [hpc] at ha
    dsimp only at ha
    cases cmd <;> simp [ctrlStep, slotOp, esbCtrlThreadFn, hpc, ha, CtrlPc.ahead]
  | quiescing =>
    rw [hpc] at ha
    dsimp only at ha
    simp [ctrlStep, slotOp, esbCtrlThreadFn, hpc, ha, CtrlPc.ahead]
  | pairingStarted =>
    obtain ⟨hstray, hassert, hinit⟩ := @handover_slotStart σ cfg n hn h hs hfxo
    simp [ctrlStep, slotOp, esbCtrlThreadFn, hpc, CtrlPc.ahead, hstray, hassert, hinit,
      StopsMeetSlot]
  | slotStarted =>
    rw [hpc] at ha
    dsimp only at ha
    simp [ctrlStep, slotOp, esbCtrlThreadFn, hpc, ha, CtrlPc.ahead]
  | activated =>
    rw [hpc] at ha
    dsimp only at ha
    simp [ctrlStep, slotOp, esbCtrlThreadFn, hpc, ha, CtrlPc.ahead]
  | relayStopped => simp [ctrlStep, slotOp, esbCtrlThreadFn, hpc, CtrlPc.ahead]
  | released =>
    rw [hpc] at ha
    dsimp only at ha
    obtain ⟨hinit, hiff⟩ := @handover_slotStop σ cfg n hn h hs
    simp only [ctrlStep, slotOp, esbCtrlThreadFn, hpc, CtrlPc.ahead, Option.elim_some, hinit,
      List.nil_append, List.cons_append, StopsMeetSlot, ← and_assoc]
    refine ⟨ha, and_congr_left fun _ => ?_⟩
    rw [and_assoc]
    exact hiff

/-- **A step of the thread** keeps the controller's channels where all is
well ahead: the stop it makes meets a slot. -/
theorem llKept_thread (hn : n.Documented) (hs : s.h.Sound cfg n) (hwell : WellAhead s)
    (hkept : LlKept s.h) (hfxo : Bool) :
    LlKept (ownershipStep cfg n s (.ctrl .thread hfxo)).h := by
  have hahead := hwell.2.2
  rw [Control.ahead] at hahead
  rw [ownershipStep, slotOp]
  cases hpc : s.c.pc with
  | pairingStarted =>
    exact (@llKept_step_iff σ cfg n s.h hn.toKeepsToPool hs.toBorrows (.slotStart hfxo) trivial
      hkept).2 trivial
  | released =>
    rw [hpc] at hahead
    exact (@llKept_step_iff σ cfg n s.h hn.toKeepsToPool hs.toBorrows .slotStop trivial hkept).2
      (Or.inl (hs.suspended.trans hahead.1))
  | _ => exact hkept

/-- The work of the thread, one step first. -/
theorem threads_succ (k : Nat) (s : Ownership σ) :
    s.threads cfg n (k + 1) =
      (ownershipStep cfg n s (.ctrl .thread true)).threads cfg n k := rfl

theorem sound_thread (hn : n.Documented) (hs : s.h.Sound cfg n) (hfxo : Bool) :
    (ownershipStep cfg n s (.ctrl .thread hfxo)).h.Sound cfg n := by
  rw [ownershipStep]
  cases hslot : slotOp s.c hfxo .thread with
  | none => exact hs
  | some op =>
    have hpassive : LlPassive s.h op := by
      rw [slotOp] at hslot
      split at hslot
      · rw [← Option.some.inj hslot]
        trivial
      · rw [← Option.some.inj hslot]
        trivial
      · exact absurd hslot (by simp)
    exact hs.step hn hpassive

theorem c_threads (k : Nat) (s : Ownership σ) :
    (s.threads cfg n k).c = runFrom (ctrlStep cfg) s.c (List.replicate k .thread) := by
  induction k generalizing s with
  | zero => rfl
  | succ k ih => exact ih _

theorem wellAhead_threads_iff (hn : n.Documented) (hs : s.h.Sound cfg n) (ha : Aligned s)
    (k : Nat) : WellAhead (s.threads cfg n k) ↔ WellAhead s := by
  induction k generalizing s with
  | zero => exact Iff.rfl
  | succ k ih =>
    obtain ⟨ha', hiff⟩ := @thread_spec σ cfg n s hn hs ha true
    rw [threads_succ]
    exact (ih (sound_thread hn hs true) ha').trans hiff

/-- **The commands decide**: what the thread will make of them is proper
just when every stop meets a slot. -/
theorem handedProperly_iff (hn : n.Documented) (hs : s.h.Sound cfg n) (ha : Aligned s) :
    HandedProperly cfg n s ↔ WellAhead s ∧ LlKept s.h := by
  constructor
  · intro h
    obtain ⟨k, hk⟩ := exists_atRest cfg s.c
    refine ⟨(wellAhead_threads_iff hn hs ha k).1 ⟨(h k).1, (h k).2.1, ?_⟩, (h 0).2.2⟩
    rw [Control.ahead, c_threads, hk.1, hk.2]
    trivial
  · rintro ⟨hwell, hkept⟩ k
    obtain ⟨hstray, hassert, -⟩ := (wellAhead_threads_iff hn hs ha k).2 hwell
    refine ⟨hstray, hassert, ?_⟩
    clear hstray hassert
    induction k generalizing s with
    | zero => exact hkept
    | succ k ih =>
      obtain ⟨ha', hiff⟩ := @thread_spec σ cfg n s hn hs ha true
      exact ih (sound_thread hn hs true) ha' (hiff.2 hwell) (llKept_thread hn hs hwell hkept true)

/-! ## Events -/

/-- **What an event does**: it puts its command, where there is room. -/
theorem event_spec {c : Control} {op : CtrlOp} (hop : op ≠ .thread) :
    (ctrlStep cfg c op).pc = c.pc ∧ (ctrlStep cfg c op).esbActive = c.esbActive ∧
      (ctrlStep cfg c op).esbCtrlMsgq = c.esbCtrlMsgq ++
        if c.esbCtrlMsgq.length < cfg.ctrlMsgqDepth then (op.command cfg c).toList else [] := by
  have hput : ∀ (c' : Control) (cmd : Option EsbCmd), c'.esbCtrlMsgq = c.esbCtrlMsgq →
      (putCommand cfg c' cmd).pc = c'.pc ∧ (putCommand cfg c' cmd).esbActive = c'.esbActive ∧
        (putCommand cfg c' cmd).esbCtrlMsgq = c.esbCtrlMsgq ++
          if c.esbCtrlMsgq.length < cfg.ctrlMsgqDepth then cmd.toList else [] := by
    intro c' cmd hq
    cases cmd with
    | none => exact ⟨rfl, rfl, by simp [putCommand, hq]⟩
    | some cmd =>
      simp only [putCommand, msgqPut, hq]
      split <;> exact ⟨rfl, rfl, by simp [hq]⟩
  cases op with
  | profileEvent index => exact hput _ _ rfl
  | bootCheck =>
    simp only [ctrlStep, bootProfileCheckFn, CtrlOp.command]
    split
    · exact hput _ _ rfl
    · rename_i hdone
      have hnone : bootCommand cfg c = none := by simp [bootCommand, hdone]
      exact ⟨rfl, rfl, by simp [hnone]⟩
  | thread => exact absurd rfl hop

/-- What the thread and the hardware are, at each step of a run. -/
structure OwnershipSound (cfg : Config) (n : Nrfx σ) (s : Ownership σ) : Prop where
  sound : s.h.Sound cfg n
  aligned : Aligned s

/-- A step keeps what is known of the slot. -/
theorem OwnershipSound.step (hn : n.Documented) (h : OwnershipSound cfg n s) {op : OwnershipOp}
    (hpassive : OwnershipPassive s op) : OwnershipSound cfg n (ownershipStep cfg n s op) := by
  obtain ⟨hs, ha⟩ := h
  cases op with
  | ctrl op hfxo =>
    by_cases hop : op = .thread
    · subst hop
      exact ⟨sound_thread hn hs hfxo, (thread_spec hn hs ha hfxo).1⟩
    · have hslot : slotOp s.c hfxo op = none := by
        cases op <;> first | rfl | exact absurd rfl hop
      obtain ⟨hpc, hactive, -⟩ := @event_spec cfg s.c op hop
      rw [ownershipStep, hslot]
      refine ⟨hs, ?_⟩
      rw [Aligned] at ha ⊢
      rw [hpc, hactive]
      exact ha
  | other op =>
    rw [ownershipStep]
    split
    · exact ⟨hs, ha⟩
    · rename_i hslot
      rw [Bool.not_eq_true] at hslot
      refine ⟨hs.step hn hpassive, ?_⟩
      rw [Aligned] at ha ⊢
      rw [(@handover_other σ cfg n s.h op hslot).2.2]
      exact ha

/-- **One step** leaves all well ahead just when it meets the condition. -/
theorem wellAhead_step_iff (hn : n.Documented) (hsound : OwnershipSound cfg n s)
    {op : OwnershipOp} (hpassive : OwnershipPassive s op) (h : WellAhead s ∧ LlKept s.h) :
    WellAhead (ownershipStep cfg n s op) ∧ LlKept (ownershipStep cfg n s op).h ↔
      StopsOnce cfg s op := by
  obtain ⟨hs, ha⟩ := hsound
  obtain ⟨hwell, hkept⟩ := h
  cases op with
  | ctrl op hfxo =>
    by_cases hop : op = .thread
    · subst hop
      exact iff_of_true
        ⟨(thread_spec hn hs ha hfxo).2.2 hwell, llKept_thread hn hs hwell hkept hfxo⟩
        (fun hput => absurd hput (by simp [CtrlOp.command]))
    · have hslot : slotOp s.c hfxo op = none := by
        cases op <;> first | rfl | exact absurd rfl hop
      obtain ⟨hpc, -, hqueue⟩ := @event_spec cfg s.c op hop
      have hahead : (ctrlStep cfg s.c op).ahead = s.c.ahead ++
          if s.c.esbCtrlMsgq.length < cfg.ctrlMsgqDepth then (op.command cfg s.c).toList
          else [] := by
        rw [Control.ahead, hpc, hqueue, ← List.append_assoc, ← Control.ahead]
      obtain ⟨hstray, hassert, hmeet⟩ := hwell
      rw [ownershipStep, hslot, StopsOnce, DeactivatesOnce, settles_eq_slotAfter ha, WellAhead,
        hahead]
      by_cases hroom : s.c.esbCtrlMsgq.length < cfg.ctrlMsgqDepth
      · rw [if_pos hroom]
        cases hcmd : op.command cfg s.c with
        | none => simpa [hstray, hassert] using ⟨hmeet, hkept⟩
        | some cmd =>
          have hone := stopsMeetSlot_append s.h.esbInitialized s.c.ahead cmd
          rw [Option.toList_some, Option.elim_none, hone]
          simp [hstray, hassert, hmeet, hkept, hroom]
      · rw [if_neg hroom, List.append_nil]
        exact iff_of_true ⟨⟨hstray, hassert, hmeet⟩, hkept⟩ (fun _ h => absurd h hroom)
  | other op =>
    refine iff_of_true ?_ trivial
    rw [ownershipStep]
    split
    · exact ⟨hwell, hkept⟩
    · rename_i hslot
      rw [Bool.not_eq_true] at hslot
      obtain ⟨hstray, hassert, hinit⟩ := @handover_other σ cfg n s.h op hslot
      refine ⟨?_, (llKept_step_iff hn.toKeepsToPool hs.toBorrows hpassive hkept).2 ?_⟩
      · rw [WellAhead, hstray, hassert, hinit]
        exact hwell
      · cases op with
        | slotStop => exact absurd hslot (by decide)
        | _ => trivial

/-- The thread and the hardware at boot. -/
def Ownership.boot (cfg : Config) (n : Nrfx σ) (deviceId : List UInt8)
    (saved : Option PairedRec) (selected : Nat) : Ownership σ where
  c := esbEndpointInit cfg deviceId saved selected
  h := .boot n

/-- **The hardware is handed over properly** in every run in which the
controller leaves its channels alone in a slot, and in what the thread
makes of it, exactly when every event that puts DEACTIVATE finds the
outstanding commands to leave `esb_active` set: of two profiles selected
before the thread comes to the first, the second stops a slot that has
stopped. -/
theorem handedProperly_iff_stopsOnce (cfg : Config) (n : Nrfx σ) (hn : n.Documented)
    (deviceId : List UInt8) (saved : Option PairedRec) (selected : Nat) (ops : List OwnershipOp)
    (hpassive : Guarded (ownershipStep cfg n) OwnershipPassive
      (.boot cfg n deviceId saved selected) ops) :
    Throughout (ownershipStep cfg n) (HandedProperly cfg n)
        (.boot cfg n deviceId saved selected) ops ↔
      Guarded (ownershipStep cfg n) (StopsOnce cfg) (.boot cfg n deviceId saved selected) ops := by
  have hboot : OwnershipSound cfg n (.boot cfg n deviceId saved selected) :=
    ⟨sound_boot hn, rfl⟩
  have hproper : ∀ s, OwnershipSound cfg n s →
      (HandedProperly cfg n s ↔ WellAhead s ∧ LlKept s.h) :=
    fun s h => handedProperly_iff hn h.sound h.aligned
  refine throughout_iff_guarded (I := OwnershipSound cfg n) (D := OwnershipPassive)
    (fun _ _ h hop => h.step hn hop) (fun s op h hop hP => ?_) hboot ?_ hpassive
  · rw [hproper _ (h.step hn hop)]
    exact wellAhead_step_iff hn h hop ((hproper s h).1 hP)
  · exact (hproper _ hboot).2 ⟨⟨rfl, rfl, trivial⟩, fun i _ => ⟨by simp [Ownership.boot,
      Handover.boot], fun _ => rfl⟩⟩

/-- The thread comes to ACTIVATE, then to DEACTIVATE. -/
def selectedOnce : List OwnershipOp :=
  .ctrl .bootCheck true :: List.replicate 6 (.ctrl .thread true) ++
    [.other (.set .waitForRx), .ctrl (.profileEvent 0) true] ++
    List.replicate 4 (.ctrl .thread true)

theorem handedProperly_iff_selectedOnce :
    Throughout (ownershipStep .default .flags) (HandedProperly .default .flags)
      (.boot .default .flags [] none 4) selectedOnce :=
  (handedProperly_iff_stopsOnce .default .flags Nrfx.flags_documented [] none 4 selectedOnce
    (by decide +kernel)).2 (by decide +kernel)

/-- Two profiles selected in a row: the controller, back with the first
stop, loses channel 6 to the second. -/
example : ¬ LlKept (runFrom (ownershipStep .default .flags)
    (.boot .default .flags [] none 4)
    (.ctrl .bootCheck true :: List.replicate 6 (.ctrl .thread true) ++
      [.ctrl (.profileEvent 0) true, .ctrl (.profileEvent 1) true] ++
      List.replicate 4 (.ctrl .thread true) ++ [.other (.ll 0x40 fun _ => .others 1 2)] ++
      List.replicate 4 (.ctrl .thread true))).h :=
  fun h => absurd (h 6 (by decide)).1 (by decide +kernel)

end EsbEndpoint
