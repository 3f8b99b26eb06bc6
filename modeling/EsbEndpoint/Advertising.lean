import EsbEndpoint.Control

/-!
# Who has the radio

`src/esb/esb_endpoint.c`: while ESB has the radio the BLE stack must not
use it. An activation stops advertising before it starts the slot, and the
wrapped `bt_le_adv_start` does nothing while `esb_active` is set. Between
the stop and the flag, and between the flag's reset and the slot's end, a
start goes through. The stack itself is not part of the model: it calls the
wrapper, or stops advertising, whenever it likes, and a real start succeeds.
-/

namespace EsbEndpoint

variable (cfg : Config)

/-- The control thread, and what the controller does for BLE. -/
structure SharedRadio where
  c : Control
  advertising : Bool := false

/-- `__wrap_bt_le_adv_start` and `__wrap_bt_le_adv_start_legacy` -/
def wrapBtLeAdvStart (s : SharedRadio) : SharedRadio :=
  if s.c.esbActive then s else { s with advertising := true }

inductive AdvOp
  | ctrl (op : CtrlOp)
  | advStart
  | advStop
  /-- anything else that happens to the endpoint, in its slot or out of it -/
  | world (e : Endpoint)

/-- The step of the thread that calls `bt_le_adv_stop`. -/
def quiescesBle (c : Control) : CtrlOp → Bool
  | .thread => c.pc == .fetched .activate
  | _ => false

def advStep (s : SharedRadio) : AdvOp → SharedRadio
  | .ctrl op => { c := ctrlStep cfg s.c op, advertising := s.advertising && !quiescesBle s.c op }
  | .advStart => wrapBtLeAdvStart s
  | .advStop => { s with advertising := false }
  | .world e =>
    if e.radio.initialized = s.c.e.radio.initialized then { s with c := { s.c with e } } else s

/-- The slot runs. -/
def Control.slotRuns (c : Control) : Bool := c.e.radio.initialized

/-- The thread is on its way from the stop of advertising to the slot. -/
def Control.slotComes (c : Control) : Bool := c.pc == .quiescing || c.pc == .pairingStarted

/-- **One of the two has the radio.** -/
def Exclusive (s : SharedRadio) : Prop := s.advertising = true → s.c.slotRuns = false

/-- It stays so while the thread finishes what it has to do. -/
def ExclusiveAhead (s : SharedRadio) : Prop :=
  ∀ n, Exclusive (runFrom (advStep cfg) s (List.replicate n (.ctrl .thread)))

/-- The condition on a start of advertising: the wrapper refuses it, or
the slot neither runs nor comes. -/
def NoContention (s : SharedRadio) : AdvOp → Prop
  | .advStart => s.c.esbActive = true ∨ s.c.slotRuns = false ∧ s.c.slotComes = false
  | _ => True

instance (s : SharedRadio) : (op : AdvOp) → Decidable (NoContention s op)
  | .advStart => inferInstanceAs (Decidable (_ ∨ _))
  | .ctrl _ | .advStop | .world _ => inferInstanceAs (Decidable True)

/-- No advertising goes into a slot. -/
def Quiesced (s : SharedRadio) : Prop :=
  s.advertising = true → s.c.slotRuns = false ∧ s.c.slotComes = false

variable {cfg} {s : SharedRadio}

/-! ## The thread -/

/-- **A step of the thread** starts no slot where none comes, and stops
advertising where one comes afterwards. -/
theorem slot_thread {c : Control} (hruns : c.slotRuns = false) (hcomes : c.slotComes = false) :
    (esbCtrlThreadFn cfg c).slotRuns = false ∧
      ((esbCtrlThreadFn cfg c).slotComes = true → quiescesBle c .thread = true) := by
  rw [Control.slotComes, Bool.or_eq_false_iff, beq_eq_false_iff_ne, beq_eq_false_iff_ne] at hcomes
  rw [esbCtrlThreadFn]
  split
  · split
    · refine ⟨hruns, fun h => ?_⟩
      simp_all [Control.slotComes]
    · exact ⟨hruns, fun h => by simp [Control.slotComes] at h⟩
  · rename_i hpc
    exact ⟨hruns, fun _ => by rw [quiescesBle, hpc, beq_self_eq_true]⟩
  · exact absurd ‹_› hcomes.1
  · exact absurd ‹_› hcomes.2
  · exact ⟨hruns, fun h => by simp [Control.slotComes] at h⟩
  · exact ⟨hruns, fun h => by simp [Control.slotComes] at h⟩
  · exact ⟨hruns, fun h => by simp [Control.slotComes] at h⟩
  · exact ⟨hruns, fun h => by simp [Control.slotComes] at h⟩
  · refine ⟨?_, fun h => by simp [Control.slotComes] at h⟩
    simp only [Control.slotRuns, esbTransportDeinit, pairingStop, notifyDisconnected]
    split <;> rfl

/-- Commands are put without a word to the slot. -/
theorem slot_putCommand {c : Control} (cmd : Option EsbCmd) :
    (putCommand cfg c cmd).slotRuns = c.slotRuns ∧
      (putCommand cfg c cmd).slotComes = c.slotComes := by
  cases cmd with
  | none => exact ⟨rfl, rfl⟩
  | some cmd =>
    simp only [putCommand, msgqPut]
    split <;> exact ⟨rfl, rfl⟩

theorem Quiesced.exclusive (h : Quiesced s) : Exclusive s := fun hadv => (h hadv).1

/-- **One operation** keeps advertising out of the slot just when it meets
the condition. -/
theorem quiesced_step_iff (h : Quiesced s) (op : AdvOp) :
    Quiesced (advStep cfg s op) ↔ NoContention s op := by
  cases op with
  | ctrl op =>
    refine iff_of_true (fun hadv => ?_) trivial
    obtain ⟨hadv, hkeeps⟩ := Bool.and_eq_true_iff.1 hadv
    obtain ⟨hruns, hcomes⟩ := h hadv
    cases op with
    | profileEvent index =>
      obtain ⟨hr, hc⟩ := @slot_putCommand cfg { s.c with selected := index, latest := some index }
        (profileCommand cfg s.c index)
      exact ⟨hr.trans hruns, hc.trans hcomes⟩
    | bootCheck =>
      simp only [advStep, ctrlStep, bootProfileCheckFn]
      split
      · obtain ⟨hr, hc⟩ := @slot_putCommand cfg
          { s.c with bootProfileCheckWork := false, latest := some s.c.selected }
          (bootCommand cfg s.c)
        exact ⟨hr.trans hruns, hc.trans hcomes⟩
      · exact ⟨hruns, hcomes⟩
    | thread =>
      obtain ⟨hr, hc⟩ := @slot_thread cfg s.c hruns hcomes
      refine ⟨hr, Bool.eq_false_iff.2 fun hcome => ?_⟩
      rw [hc hcome] at hkeeps
      exact absurd hkeeps (by simp)
  | advStart =>
    simp only [advStep, wrapBtLeAdvStart, NoContention]
    cases hactive : s.c.esbActive with
    | true => simpa using h
    | false => simp [Quiesced]
  | advStop => exact iff_of_true (fun hadv => absurd hadv (by simp [advStep])) trivial
  | world e =>
    refine iff_of_true ?_ trivial
    simp only [advStep]
    split
    · rename_i heq
      exact fun hadv => ⟨heq.trans (h hadv).1, (h hadv).2⟩
    · exact h

/-! ## Looking ahead -/

/-- A slot that comes is two steps away at most, and advertising stays. -/
theorem slot_starts (hadv : s.advertising = true) (hcomes : s.c.slotComes = true) :
    ∃ n, (runFrom (advStep cfg) s (List.replicate n (.ctrl .thread))).advertising = true ∧
      (runFrom (advStep cfg) s (List.replicate n (.ctrl .thread))).c.slotRuns = true := by
  have hinit : ∀ e, (esbTransportOnSlotStart cfg e).radio.initialized = true := fun e =>
    congrArg TxPath.initialized (path_esbTransportOnSlotStart cfg e)
  rcases Bool.or_eq_true_iff.1 hcomes with hpc | hpc
  · have hpc : s.c.pc = .quiescing := beq_iff_eq.1 hpc
    refine ⟨2, ?_, ?_⟩
    · simp [List.replicate, advStep, ctrlStep, quiescesBle, esbCtrlThreadFn, hpc, hadv]
    · simp [List.replicate, advStep, ctrlStep, esbCtrlThreadFn, hpc, Control.slotRuns, hinit]
  · have hpc : s.c.pc = .pairingStarted := beq_iff_eq.1 hpc
    refine ⟨1, ?_, ?_⟩
    · simp [List.replicate, advStep, quiescesBle, hpc, hadv]
    · simp [List.replicate, advStep, ctrlStep, esbCtrlThreadFn, hpc, Control.slotRuns, hinit]

/-- **Advertising before a slot is advertising in it**: the thread stops
it at the start of an activation and never again. -/
theorem exclusiveAhead_iff : ExclusiveAhead cfg s ↔ Quiesced s := by
  constructor
  · intro h hadv
    refine ⟨h 0 hadv, Bool.eq_false_iff.2 fun hcomes => ?_⟩
    obtain ⟨n, hadv', hruns⟩ := @slot_starts cfg s hadv hcomes
    exact absurd ((h n hadv').symm.trans hruns) (by simp)
  · intro h n
    refine Quiesced.exclusive ?_
    induction n generalizing s with
    | zero => exact h
    | succ n ih => exact ih ((quiesced_step_iff h (.ctrl .thread)).2 trivial)

/-- **Advertising and ESB share the radio** in some run, or in what the
thread makes of it, exactly when advertising is started while `esb_active`
is not set and the slot runs or comes: in the sleep after the stop, before
the flag is set, or after its reset and before the slot's end. -/
theorem exclusiveAhead_iff_noContention (cfg : Config) (deviceId : List UInt8)
    (saved : Option PairedRec) (selected : Nat) (ops : List AdvOp) :
    Throughout (advStep cfg) (ExclusiveAhead cfg)
        { c := esbEndpointInit cfg deviceId saved selected } ops ↔
      Guarded (advStep cfg) NoContention
        { c := esbEndpointInit cfg deviceId saved selected } ops := by
  refine (throughout_congr (I := fun _ => True) (fun _ _ _ => trivial)
    (fun _ _ => exclusiveAhead_iff) trivial).trans ?_
  exact throughout_iff_guarded (I := fun _ => True) (D := fun _ _ => True)
    (fun _ _ _ _ => trivial) (fun _ op _ _ h => quiesced_step_iff h op) trivial
    (fun hadv => absurd hadv (by simp)) (Guarded.of_forall fun _ _ => trivial)

/-- A disconnect of the quiesced host starts advertising again, and the
slot starts with it. -/
example : ¬ Exclusive (runFrom (advStep .default) { c := esbEndpointInit .default [] none 4 }
    [.ctrl .bootCheck, .advStart, .ctrl .thread, .ctrl .thread, .advStart, .ctrl .thread,
      .ctrl .thread, .ctrl .thread]) :=
  fun h => absurd (h rfl) (by decide +kernel)

end EsbEndpoint
