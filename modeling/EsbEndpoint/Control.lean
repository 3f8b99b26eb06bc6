import EsbEndpoint.Common.Run
import EsbEndpoint.Pairing
import EsbEndpoint.Transport.Slot

/-!
# The control thread

`src/esb/esb_endpoint.c`: profile events put commands into a queue, and a
thread takes them off and moves the radio between BLE and ESB. The
listener decides by `esb_active`, which the thread writes only some steps
after it has taken a command, so an event that comes in between may find
nothing to do. `settles` is where the outstanding commands will leave
`esb_active`, and the endpoint follows the selected profile exactly as
long as every event that puts no command agrees with it.
-/

namespace EsbEndpoint

variable (cfg : Config)

/-! ## The thread, its queue and its listener -/

inductive EsbCmd
  | activate
  | deactivate
  deriving DecidableEq

/-- Where `esb_ctrl_thread_fn` is: in `k_msgq_get`, with a command
fetched, or between two of the command's steps. -/
inductive CtrlPc
  | waiting
  | fetched (cmd : EsbCmd)
  | quiescing
  | pairingStarted
  | slotStarted
  | activated
  | relayStopped
  | released
  deriving DecidableEq

/-- The statics of `src/esb/esb_endpoint.c` with the endpoint they
control. `selected` is `zmk_ble_active_profile_index()`; `latest` is
history, the profile the latest event or the boot check found. -/
structure Control where
  e : Endpoint
  esbActive : Bool := false
  esbCtrlMsgq : List EsbCmd := []
  pc : CtrlPc := .waiting
  stdoutHook : Bool := false
  bootProfileCheckWork : Bool := true
  selected : Nat
  latest : Option Nat := none

/-- `esb_endpoint_init`, with the profile the settings hold. -/
def esbEndpointInit (deviceId : List UInt8) (saved : Option PairedRec) (selected : Nat) :
    Control where
  e := pairingInit (esbTransportInit cfg (Endpoint.boot cfg deviceId saved))
  selected

variable (c : Control)

/-- `k_msgq_put(&esb_ctrl_msgq, &cmd, K_NO_WAIT)`: a full queue drops it. -/
def msgqPut (cmd : EsbCmd) : Control :=
  if c.esbCtrlMsgq.length < cfg.ctrlMsgqDepth then
    { c with esbCtrlMsgq := c.esbCtrlMsgq ++ [cmd] }
  else c

/-- `index == (ZMK_BLE_PROFILE_COUNT - 1)` -/
def isEsbProfile (index : Nat) : Bool := index == cfg.bleProfileCount - 1

/-- The command an event puts for this profile, if any. -/
def profileCommand (index : Nat) : Option EsbCmd :=
  let shouldBeActive := isEsbProfile cfg index
  if shouldBeActive && !c.esbActive then some .activate
  else if !shouldBeActive && c.esbActive then some .deactivate
  else none

/-- The command the boot check puts, if any. -/
def bootCommand : Option EsbCmd :=
  if c.bootProfileCheckWork && isEsbProfile cfg c.selected && !c.esbActive then some .activate
  else none

/-- A command, put where there is one. -/
def putCommand : Option EsbCmd → Control
  | none => c
  | some cmd => msgqPut cfg c cmd

/-- `profile_listener_cb`, for an event that names this profile. -/
def profileListenerCb (index : Nat) : Control :=
  putCommand cfg { c with selected := index, latest := some index } (profileCommand cfg c index)

/-- `boot_profile_check_fn`, which runs once. -/
def bootProfileCheckFn : Control :=
  if c.bootProfileCheckWork then
    putCommand cfg { c with bootProfileCheckWork := false, latest := some c.selected }
      (bootCommand cfg c)
  else c

/-- `esb_transport_deinit` -/
def esbTransportDeinit (e : Endpoint) : Endpoint :=
  e.mapTp fun tp => { tp with configured := false }

/-- The next step of `esb_ctrl_thread_fn`. What it asks of the BLE stack
is not part of the model. -/
def esbCtrlThreadFn : Control :=
  match c.pc with
  | .waiting =>
    match c.esbCtrlMsgq with
    | [] => c
    | cmd :: rest => { c with esbCtrlMsgq := rest, pc := .fetched cmd }
  | .fetched .activate => { c with pc := .quiescing }
  | .quiescing =>
    { c with e := pairingStart cfg (esbTransportSetAddresses c.e cfg.esbChannel)
             pc := .pairingStarted }
  | .pairingStarted => { c with e := esbTransportOnSlotStart cfg c.e, pc := .slotStarted }
  | .slotStarted => { c with esbActive := true, pc := .activated }
  | .activated =>
    { c with stdoutHook := c.stdoutHook || (cfg.shellRelay && c.esbActive), pc := .waiting }
  | .fetched .deactivate =>
    { c with stdoutHook := c.stdoutHook && !cfg.shellRelay, pc := .relayStopped }
  | .relayStopped => { c with esbActive := false, pc := .released }
  | .released =>
    { c with e := esbTransportDeinit (pairingStop cfg (esbTransportOnSlotStop cfg c.e))
             pc := .waiting }

inductive CtrlOp
  | profileEvent (index : Nat)
  | bootCheck
  | thread
  deriving DecidableEq

def ctrlStep : CtrlOp → Control
  | .profileEvent index => profileListenerCb cfg c index
  | .bootCheck => bootProfileCheckFn cfg c
  | .thread => esbCtrlThreadFn cfg c

/-! ## Following the profile -/

/-- The latest event asked for ESB. -/
def wantsEsb : Bool := c.latest.any (isEsbProfile cfg)

/-- Nothing is outstanding. -/
def Control.AtRest : Prop := c.esbCtrlMsgq = [] ∧ c.pc = .waiting

/-- **At rest the endpoint follows the profile.** -/
def FollowsProfile : Prop := c.AtRest → c.esbActive = wantsEsb cfg c

instance : Decidable (FollowsProfile cfg c) :=
  inferInstanceAs (Decidable (c.esbCtrlMsgq = [] ∧ c.pc = .waiting → c.esbActive = wantsEsb cfg c))

/-- What a command sets `esb_active` to. -/
def EsbCmd.target : EsbCmd → Bool
  | .activate => true
  | .deactivate => false

/-- What the command in progress has yet to set it to. -/
def CtrlPc.target : CtrlPc → Option Bool
  | .fetched cmd => some cmd.target
  | .quiescing | .pairingStarted | .slotStarted => some true
  | .relayStopped => some false
  | .waiting | .activated | .released => none

/-- Where the outstanding commands leave `esb_active`: the last of them
has it. -/
def Control.settles : Bool :=
  match c.esbCtrlMsgq.getLast? with
  | some cmd => cmd.target
  | none => c.pc.target.getD c.esbActive

/-- The command an operation puts. -/
def CtrlOp.command : CtrlOp → Option EsbCmd
  | .profileEvent index => profileCommand cfg c index
  | .bootCheck => bootCommand cfg c
  | .thread => none

/-- The queue has room for what an operation puts. -/
def NeverOverflows (op : CtrlOp) : Prop :=
  (op.command cfg c).isSome = true → c.esbCtrlMsgq.length < cfg.ctrlMsgqDepth

instance (op : CtrlOp) : Decidable (NeverOverflows cfg c op) :=
  inferInstanceAs (Decidable (_ → _))

/-- The condition on an event: where `esb_active` is already what it asks
for, the outstanding commands leave it so. -/
def NothingContrary : CtrlOp → Prop
  | .profileEvent index => isEsbProfile cfg index = c.esbActive → c.settles = c.esbActive
  | _ => True

instance : (op : CtrlOp) → Decidable (NothingContrary cfg c op)
  | .profileEvent index =>
    inferInstanceAs (Decidable (isEsbProfile cfg index = c.esbActive → c.settles = c.esbActive))
  | .bootCheck => inferInstanceAs (Decidable True)
  | .thread => inferInstanceAs (Decidable True)

/-! ## What an operation does to the outcome -/

variable {cfg} {c}

theorem settles_of_atRest (h : c.AtRest) : c.settles = c.esbActive := by
  rw [Control.settles, h.1, h.2]
  rfl

theorem settles_msgqPut {cmd : EsbCmd} (hroom : c.esbCtrlMsgq.length < cfg.ctrlMsgqDepth) :
    (msgqPut cfg c cmd).settles = cmd.target := by
  rw [msgqPut, if_pos hroom]
  simp only [Control.settles, List.getLast?_concat]

/-- **A command decides the outcome**; without one it stays. -/
theorem settles_putCommand {cmd : Option EsbCmd}
    (hroom : cmd.isSome = true → c.esbCtrlMsgq.length < cfg.ctrlMsgqDepth) :
    (putCommand cfg c cmd).settles = (cmd.map EsbCmd.target).getD c.settles := by
  cases cmd with
  | none => rfl
  | some cmd => exact settles_msgqPut (hroom rfl)

theorem latest_putCommand (cmd : Option EsbCmd) : (putCommand cfg c cmd).latest = c.latest := by
  cases cmd with
  | none => rfl
  | some cmd =>
    simp only [putCommand, msgqPut]
    split <;> rfl

/-- **The thread moves towards the outcome** and never changes it. -/
theorem settles_thread : (esbCtrlThreadFn cfg c).settles = c.settles := by
  have hqueue : ∀ c' : Control, c'.esbCtrlMsgq = c.esbCtrlMsgq →
      c'.pc.target.getD c'.esbActive = c.pc.target.getD c.esbActive → c'.settles = c.settles := by
    intro c' hq hpc
    rw [Control.settles, Control.settles, hq, hpc]
  rw [esbCtrlThreadFn]
  split
  · rename_i hpc
    split
    · rfl
    · rename_i cmd rest hq
      rw [Control.settles, Control.settles, hq, hpc]
      cases rest with
      | nil => rfl
      | cons cmd' rest => simp only [List.getLast?_cons_cons, List.getLast?_eq_some_getLast
          (List.cons_ne_nil cmd' rest)]
  all_goals
    rename_i hpc
    exact hqueue _ rfl (by rw [hpc]; rfl)

theorem latest_thread : (esbCtrlThreadFn cfg c).latest = c.latest := by
  rw [esbCtrlThreadFn]
  split
  · split <;> rfl
  all_goals rfl

/-! ## Runs -/

/-- The outcome is the one asked for. -/
def Follows (cfg : Config) (c : Control) : Prop := c.settles = wantsEsb cfg c

/-- What every state satisfies: until the first event or the boot check
nothing is asked of the thread, and afterwards the selected profile is the
latest one named. -/
structure Control.Sound (c : Control) : Prop where
  quiet : c.latest = none → c.AtRest ∧ c.esbActive = false
  selected : ∀ index, c.latest = some index → c.selected = index

theorem sound_esbEndpointInit (cfg : Config) (deviceId : List UInt8) (saved : Option PairedRec)
    (selected : Nat) : (esbEndpointInit cfg deviceId saved selected).Sound :=
  ⟨fun _ => ⟨⟨rfl, rfl⟩, rfl⟩, fun _ h => by simp [esbEndpointInit] at h⟩

theorem selected_putCommand (cmd : Option EsbCmd) :
    (putCommand cfg c cmd).selected = c.selected := by
  cases cmd with
  | none => rfl
  | some cmd =>
    simp only [putCommand, msgqPut]
    split <;> rfl

theorem selected_thread : (esbCtrlThreadFn cfg c).selected = c.selected := by
  rw [esbCtrlThreadFn]
  split
  · split <;> rfl
  all_goals rfl

/-- At rest the thread has nothing to do. -/
theorem thread_of_atRest (h : c.AtRest) : esbCtrlThreadFn cfg c = c := by
  rw [esbCtrlThreadFn, h.2]
  simp only [h.1]

theorem Control.Sound.step (h : c.Sound) (op : CtrlOp) : (ctrlStep cfg c op).Sound := by
  cases op with
  | profileEvent index =>
    refine ⟨fun hnone => ?_, fun index' hsome => ?_⟩
    · rw [ctrlStep, profileListenerCb, latest_putCommand] at hnone
      exact absurd hnone (by simp)
    · rw [ctrlStep, profileListenerCb, latest_putCommand] at hsome
      rw [ctrlStep, profileListenerCb, selected_putCommand]
      exact Option.some.inj hsome
  | bootCheck =>
    rw [ctrlStep, bootProfileCheckFn]
    split
    · refine ⟨fun hnone => ?_, fun index' hsome => ?_⟩
      · rw [latest_putCommand] at hnone
        exact absurd hnone (by simp)
      · rw [latest_putCommand] at hsome
        rw [selected_putCommand]
        exact Option.some.inj hsome
    · exact h
  | thread =>
    refine ⟨fun hnone => ?_, fun index hsome => ?_⟩
    · rw [ctrlStep, latest_thread] at hnone
      rw [ctrlStep, thread_of_atRest (h.quiet hnone).1]
      exact h.quiet hnone
    · rw [ctrlStep, latest_thread] at hsome
      rw [ctrlStep, selected_thread]
      exact h.selected index hsome

/-- **What an operation does to following.** -/
theorem follows_step_iff (hs : c.Sound) (op : CtrlOp) (hroom : NeverOverflows cfg c op)
    (h : Follows cfg c) : Follows cfg (ctrlStep cfg c op) ↔ NothingContrary cfg c op := by
  cases op with
  | profileEvent index =>
    have hafter : Follows cfg (ctrlStep cfg c (.profileEvent index)) ↔
        ((profileCommand cfg c index).map EsbCmd.target).getD c.settles =
          isEsbProfile cfg index := by
      rw [Follows, wantsEsb, ctrlStep, profileListenerCb, latest_putCommand,
        @settles_putCommand cfg { c with selected := index, latest := some index }
          (profileCommand cfg c index) hroom]
      exact Iff.rfl
    rw [hafter, NothingContrary, profileCommand]
    cases isEsbProfile cfg index <;> cases c.esbActive <;>
      simp [EsbCmd.target]
  | bootCheck =>
    refine iff_of_true ?_ trivial
    rw [ctrlStep, bootProfileCheckFn]
    split
    · rename_i hpending
      have hafter : (isEsbProfile cfg c.selected && !c.esbActive) = true ∨
          c.settles = isEsbProfile cfg c.selected := by
        cases hlatest : c.latest with
        | none =>
          -- the check is the first to ask
          obtain ⟨hrest, hactive⟩ := hs.quiet hlatest
          rw [settles_of_atRest hrest, hactive]
          cases isEsbProfile cfg c.selected <;> simp
        | some index =>
          rw [Follows, wantsEsb, hlatest] at h
          exact Or.inr (by rw [hs.selected index hlatest]; exact h)
      rw [Follows, wantsEsb, latest_putCommand,
        @settles_putCommand cfg { c with bootProfileCheckWork := false, latest := some c.selected }
          (bootCommand cfg c) hroom, bootCommand, hpending, Bool.true_and]
      by_cases hput : (isEsbProfile cfg c.selected && !c.esbActive) = true
      · rw [if_pos hput]
        exact (Bool.and_eq_true _ _ ▸ hput).1.symm
      · rw [if_neg hput]
        exact hafter.resolve_left hput
    · exact h
  | thread =>
    refine iff_of_true ?_ trivial
    rw [Follows, wantsEsb, ctrlStep, latest_thread, settles_thread]
    exact h

/-- **The outcome stays the one asked for, exactly when** no event finds
`esb_active` as it wants it and an outstanding command against it. -/
theorem follows_iff (cfg : Config) (deviceId : List UInt8) (saved : Option PairedRec)
    (selected : Nat) (ops : List CtrlOp)
    (hroom : Guarded (ctrlStep cfg) (NeverOverflows cfg)
      (esbEndpointInit cfg deviceId saved selected) ops) :
    Throughout (ctrlStep cfg) (Follows cfg) (esbEndpointInit cfg deviceId saved selected) ops ↔
      Guarded (ctrlStep cfg) (NothingContrary cfg)
        (esbEndpointInit cfg deviceId saved selected) ops :=
  throughout_iff_guarded (fun _ op hs _ => hs.step op)
    (fun _ op hs hr h => follows_step_iff hs op hr h)
    (sound_esbEndpointInit cfg deviceId saved selected) rfl hroom

/-! ## Coming to rest -/

/-- The steps a command's rest takes. -/
def CtrlPc.load : CtrlPc → Nat
  | .waiting => 0
  | .activated | .released => 1
  | .slotStarted | .relayStopped => 2
  | .pairingStarted => 3
  | .fetched .deactivate => 3
  | .quiescing => 4
  | .fetched .activate => 5

/-- A bound on the steps until the thread is at rest. -/
def Control.load (c : Control) : Nat := 6 * c.esbCtrlMsgq.length + c.pc.load

theorem load_thread (h : ¬c.AtRest) : (esbCtrlThreadFn cfg c).load < c.load := by
  rw [esbCtrlThreadFn]
  split
  · rename_i hpc
    split
    · rename_i hq
      exact absurd ⟨hq, hpc⟩ h
    · rename_i cmd rest hq
      rw [Control.load, Control.load, hq, hpc]
      cases cmd <;> simp [CtrlPc.load] <;> omega
  all_goals
    rename_i hpc
    simp only [Control.load, hpc, CtrlPc.load]
    omega

/-- **The thread comes to rest**, at the outcome. -/
theorem exists_atRest (cfg : Config) (c : Control) :
    ∃ n, (runFrom (ctrlStep cfg) c (List.replicate n .thread)).AtRest := by
  induction hload : c.load using Nat.strong_induction_on generalizing c with
  | _ load ih =>
    by_cases hrest : c.AtRest
    · exact ⟨0, hrest⟩
    · obtain ⟨n, hn⟩ := ih _ (hload ▸ @load_thread cfg c hrest) (esbCtrlThreadFn cfg c) rfl
      exact ⟨n + 1, hn⟩

theorem followsProfile_of_follows (h : Follows cfg c) : FollowsProfile cfg c :=
  fun hrest => (settles_of_atRest hrest).symm.trans h

/-- **The active endpoint follows the selected profile** in every run
whose events all find nothing contrary outstanding. -/
theorem followsProfile_of_nothingContrary (cfg : Config) (deviceId : List UInt8)
    (saved : Option PairedRec) (selected : Nat) (ops : List CtrlOp)
    (hroom : Guarded (ctrlStep cfg) (NeverOverflows cfg)
      (esbEndpointInit cfg deviceId saved selected) ops)
    (h : Guarded (ctrlStep cfg) (NothingContrary cfg)
      (esbEndpointInit cfg deviceId saved selected) ops) :
    Throughout (ctrlStep cfg) (FollowsProfile cfg)
      (esbEndpointInit cfg deviceId saved selected) ops :=
  Throughout.imp (fun _ => followsProfile_of_follows)
    ((follows_iff cfg deviceId saved selected ops hroom).2 h)

/-- One switch to ESB and back, the second after the first is done. -/
theorem followsProfile_switch :
    Throughout (ctrlStep .default) (FollowsProfile .default) (esbEndpointInit .default [] none 0)
      [.bootCheck, .profileEvent 4, .thread, .thread, .thread, .thread, .thread, .thread,
        .profileEvent 1, .thread, .thread, .thread, .thread] :=
  followsProfile_of_nothingContrary .default [] none 0 _ (by decide +kernel) (by decide +kernel)

/-- A profile selected during the quiesce sleep is forgotten. -/
theorem not_followsProfile : ¬ ∀ (cfg : Config) (deviceId : List UInt8)
    (saved : Option PairedRec) (selected : Nat) (ops : List CtrlOp),
    Guarded (ctrlStep cfg) (NeverOverflows cfg)
        (esbEndpointInit cfg deviceId saved selected) ops →
      Throughout (ctrlStep cfg) (FollowsProfile cfg)
        (esbEndpointInit cfg deviceId saved selected) ops := by
  intro h
  have hrun := h .default [] none 0
    [.profileEvent 4, .thread, .thread, .profileEvent 0, .thread, .thread, .thread, .thread]
    (by decide +kernel)
  exact absurd hrun.last (by decide +kernel)

end EsbEndpoint
