import EsbEndpoint.Vendor.Refine

/-!
# The transmitter's runs

The operations of `Radio`, and the run of them that a run of the driver in
PTX mode is. The driver raises its events as flags and hands them out when
the event interrupt is served, so two events of a kind raised in between
are one, and an initialisation forgets those still flagged: `Loses` is when
that happens.
-/

namespace EsbEndpoint

/-! ## The operations of `Radio` -/

inductive RadioOp
  | write (p : EsbPayload)
  | read
  | flushTx
  | setRfChannel (channel : UInt8)
  | setRetransmitDelay (delay : Nat)
  | setRetransmitCount (count : Nat)
  | disable
  | init
  | done (outcome : TxOutcome)

inductive RadioOut
  | result (err : Option Errno)
  | payload (data : Option (List UInt8))
  | events (events : List EsbEvtId)

def radioStep (cfg : Config) (r : Radio) : RadioOp → Option (Radio × RadioOut)
  | .write p => some ((esbWritePayload cfg r p).1, .result (esbWritePayload cfg r p).2)
  | .read =>
    match esbReadRxPayload r with
    | none => some (r, .payload none)
    | some (data, r) => some (r, .payload (some data))
  | .flushTx => some (esbFlushTx r, .result (if r.initialized then none else some .eacces))
  | .setRfChannel channel =>
    some ((esbSetRfChannel cfg r channel).1, .result (esbSetRfChannel cfg r channel).2)
  | .setRetransmitDelay delay =>
    some ((esbSetRetransmitDelay r delay).1, .result (esbSetRetransmitDelay r delay).2)
  | .setRetransmitCount count =>
    some ((esbSetRetransmitCount r count).1, .result (esbSetRetransmitCount r count).2)
  | .disable => some (esbDisable r, .result none)
  | .init => some (esbInit cfg r, .result none)
  | .done outcome => (radioDone cfg r outcome).map fun out => (out.1, .events out.2)

/-- A run of `Radio`, if it has it. -/
def radioRun (cfg : Config) (r : Radio) : List RadioOp → Option (Radio × List RadioOut)
  | [] => some (r, [])
  | op :: ops =>
    (radioStep cfg r op).bind fun out =>
      (radioRun cfg out.1 ops).map fun rest => (rest.1, out.2 :: rest.2)

theorem radioRun_append {cfg : Config} {r r₁ r₂ : Radio} {ops₁ ops₂ : List RadioOp}
    {outs₁ outs₂ : List RadioOut} (h₁ : radioRun cfg r ops₁ = some (r₁, outs₁))
    (h₂ : radioRun cfg r₁ ops₂ = some (r₂, outs₂)) :
    radioRun cfg r (ops₁ ++ ops₂) = some (r₂, outs₁ ++ outs₂) := by
  induction ops₁ generalizing r outs₁ with
  | nil =>
    obtain ⟨rfl, rfl⟩ := Prod.mk.inj (Option.some.inj h₁)
    exact h₂
  | cons op ops₁ ih =>
    obtain ⟨out, hstep, hrest⟩ := Option.bind_eq_some_iff.1 h₁
    obtain ⟨rest, hrun, hout⟩ := Option.map_eq_some_iff.1 hrest
    obtain ⟨rfl, rfl⟩ := Prod.mk.inj hout
    refine Option.bind_eq_some_iff.2 ⟨out, hstep, ?_⟩
    exact Option.map_eq_some_iff.2 ⟨_, ih hrun, rfl⟩

/-- What a caller is told. -/
inductive Reply
  | result (err : Option Errno)
  | payload (data : Option (List UInt8))
  deriving DecidableEq

def RadioOut.reply : RadioOut → Option Reply
  | .result err => some (.result err)
  | .payload data => some (.payload data)
  | .events _ => none

def DriverOut.reply : DriverOut → Option Reply
  | .result err => some (.result err)
  | .payload slot => some (.payload (slot.map fun p => p.data))
  | .events _ => none

def RadioOut.raised : RadioOut → List EsbEvtId
  | .result _ | .payload _ => []
  | .events raised => raised

def DriverOut.handed : DriverOut → List EsbEvtId
  | .result _ | .payload _ => []
  | .events handed => handed

namespace Driver

/-! ## What a step of the driver is to `Radio` -/

/-- What the radio's interrupt is: the end of a transmission, or nothing. -/
def radioOutcome (d : Driver) (received : Option (Nat × Pdu)) : Option TxOutcome :=
  match d.state, received with
  | .ptxTx, _ => some .sent
  | .ptxRxAck, some (_, pdu) =>
    some (.acked (d.esbCfg.retransmitCount - d.retransmitsRemaining) pdu.data)
  | .ptxRxAck, none => if d.retransmitsRemaining = 0 then some .exhausted else none
  | _, _ => none

def radioOps (d : Driver) : DriverOp → List RadioOp
  | .write p => [.write p]
  | .read => [.read]
  | .flushTx => [.flushTx]
  | .setRfChannel channel => [.setRfChannel channel]
  | .setRetransmitDelay delay => [.setRetransmitDelay delay]
  | .setRetransmitCount count => [.setRetransmitCount count]
  | .startRx => []
  | .disable => [.disable]
  | .init _ => [.init]
  | .radio received => (d.radioOutcome received).toList.map .done
  | .evt => []

/-- The events the radio's interrupt raises. -/
def raises (cfg : Config) (d : Driver) (received : Option (Nat × Pdu)) : List EsbEvtId :=
  match d.state, received with
  | .ptxTx, _ => [.txSuccess]
  | .ptxRxAck, some (_, pdu) => .txSuccess :: if TakesReply cfg d pdu then [.rxReceived] else []
  | .ptxRxAck, none => if d.retransmitsRemaining = 0 then [.txFailed] else []
  | _, _ => []

end Driver

/-- The operations of a transmitter: it is brought up as
`esb_init_and_configure` does it and never told to listen. -/
def DriverOp.Transmits (cfg : Config) : DriverOp → Prop
  | .init esbCfg => esbCfg.mode = .ptx ∧ esbCfg.selectiveAutoAck = cfg.hidNoack ∧
      esbCfg.retransmitCount = cfg.retransmitCount ∧
      esbCfg.retransmitDelay = cfg.retransmitDelayUs
  | .startRx => False
  | _ => True

/-- The events of the flags, in the order they are handed out. -/
def Interrupts.events (f : Interrupts) : List EsbEvtId :=
  (if f.txSuccess then [.txSuccess] else []) ++ (if f.txFailed then [.txFailed] else []) ++
    if f.rxDataReceived then [.rxReceived] else []

namespace Driver

variable {cfg : Config} {crc : Nat → Nat → Bool → List UInt8 → UInt16} {d : Driver}

/-- The flags a step leaves. -/
def flagsAfter (cfg : Config) (d : Driver) : DriverOp → Interrupts
  | .init _ | .evt => {}
  | .radio received => (d.raises cfg received).foldl Interrupts.note d.interruptFlags
  | _ => d.interruptFlags

/-- **A step of the driver and what it is to `Radio`**: the same run of it,
the same replies, and flags for its events. -/
structure Refines (cfg : Config) (d : Driver) (op : DriverOp) (d' : Driver) (out : DriverOut) :
    Prop where
  sound : d'.PtxSound cfg
  run : ∃ outs, radioRun cfg (d.radio cfg) (d.radioOps op) = some (d'.radio cfg, outs) ∧
    outs.filterMap RadioOut.reply = out.reply.toList ∧
    outs.flatMap RadioOut.raised =
      match op with
      | .radio received => d.raises cfg received
      | _ => []
  flags : d'.interruptFlags = d.flagsAfter cfg op
  handed : out.handed =
    match op with
    | .evt => d.interruptFlags.events
    | _ => []

/-- A call is one operation of `Radio`. -/
theorem Refines.of_call {op : DriverOp} {rop : RadioOp} {rout : RadioOut} {d' : Driver}
    {out : DriverOut} (hops : d.radioOps op = [rop]) (hsound : d'.PtxSound cfg)
    (hstep : radioStep cfg (d.radio cfg) rop = some (d'.radio cfg, rout))
    (hreply : rout.reply = out.reply) (hcall : out.reply.isSome = true)
    (hflags : d'.interruptFlags = d.flagsAfter cfg op)
    (hradio : ∀ received, op ≠ .radio received) (hevt : op ≠ .evt) :
    Refines cfg d op d' out := by
  have hraised : rout.raised = [] := by
    rw [← hreply] at hcall
    cases rout with
    | events events => exact absurd hcall Bool.false_ne_true
    | _ => rfl
  have hhanded : out.handed = [] := by
    cases out with
    | events events => exact absurd hcall Bool.false_ne_true
    | _ => rfl
  refine ⟨hsound, ⟨[rout], ?_, ?_, ?_⟩, hflags, ?_⟩
  · rw [hops, radioRun, hstep]
    rfl
  · obtain ⟨reply, hsome⟩ := Option.isSome_iff_exists.1 hcall
    rw [hsome] at hreply
    rw [List.filterMap_cons, hreply, hsome]
    rfl
  · rw [List.flatMap_singleton, hraised]
    cases op with
    | radio received => exact absurd rfl (hradio received)
    | _ => rfl
  · rw [hhanded]
    cases op with
    | evt => exact absurd rfl hevt
    | _ => rfl

/-- A call that gives an error code. -/
theorem Refines.of_result {op : DriverOp} {rop : RadioOp} {d' : Driver} {err : Option Errno}
    {out : Radio × Option Errno} (hops : d.radioOps op = [rop]) (hsound : d'.PtxSound cfg)
    (heq : (d'.radio cfg, err) = out)
    (hstep : radioStep cfg (d.radio cfg) rop = some (out.1, .result out.2))
    (hflags : d'.interruptFlags = d.flagsAfter cfg op)
    (hradio : ∀ received, op ≠ .radio received) (hevt : op ≠ .evt) :
    Refines cfg d op d' (.result err) := by
  subst heq
  exact Refines.of_call hops hsound hstep rfl rfl hflags hradio hevt

/-- The end of a transmission is one. -/
theorem Refines.of_endsAs {received : Option (Nat × Pdu)} {outcome : TxOutcome}
    {events : List EsbEvtId} {d' : Driver} (houtcome : d.radioOutcome received = some outcome)
    (hraises : d.raises cfg received = events) (hends : EndsAs cfg d outcome events d')
    (hsound : d'.PtxSound cfg) : Refines cfg d (.radio received) d' (.events []) := by
  refine ⟨hsound, ⟨[.events events], ?_, rfl, ?_⟩, ?_, rfl⟩
  · have hops : d.radioOps (.radio received) = [.done outcome] := by
      show (d.radioOutcome received).toList.map RadioOp.done = _
      rw [houtcome]
      rfl
    have hstep : radioStep cfg (d.radio cfg) (.done outcome) =
        some (d'.radio cfg, .events events) := by
      rw [radioStep, hends.1]
      rfl
    rw [hops, radioRun, hstep]
    rfl
  · rw [List.flatMap_singleton]
    exact hraises.symm
  · show _ = (d.raises cfg received).foldl Interrupts.note d.interruptFlags
    rw [hraises]
    exact hends.2

/-- An interrupt that ends no transmission is nothing. -/
theorem Refines.of_nothing {received : Option (Nat × Pdu)} {d' : Driver}
    (houtcome : d.radioOutcome received = none) (hraises : d.raises cfg received = [])
    (hradio : d'.radio cfg = d.radio cfg) (hflags : d'.interruptFlags = d.interruptFlags)
    (hsound : d'.PtxSound cfg) : Refines cfg d (.radio received) d' (.events []) := by
  refine ⟨hsound, ⟨[], ?_, rfl, ?_⟩, ?_, rfl⟩
  · have hops : d.radioOps (.radio received) = [] := by
      show (d.radioOutcome received).toList.map RadioOp.done = _
      rw [houtcome]
      rfl
    rw [hops, hradio]
    rfl
  · exact hraises.symm
  · show _ = (d.raises cfg received).foldl Interrupts.note d.interruptFlags
    rw [hraises]
    exact hflags

/-- A packet has left, and the ACK is waited for. -/
theorem radio_onRadioDisabledTx (hstate : d.state = .ptxTxAck) :
    d.onRadioDisabledTx.radio cfg = d.radio cfg := by
  unfold radio esbState
  rw [hstate]
  rfl

/-- **The radio's interrupt** in PTX mode. -/
theorem refines_onRadioDisabled (h : d.PtxSound cfg) (received : Option (Nat × Pdu)) :
    Refines cfg d (.radio received) (d.onRadioDisabled cfg crc received) (.events []) := by
  unfold onRadioDisabled
  cases hstate : d.state with
  | prx => exact absurd hstate h.state_ne.1
  | prxSendAck => exact absurd hstate h.state_ne.2
  | idle =>
    refine Refines.of_nothing ?_ ?_ rfl rfl h
    · simp only [radioOutcome, hstate]
    · simp only [raises, hstate]
  | ptxTxidle =>
    refine Refines.of_nothing ?_ ?_ rfl rfl h
    · simp only [radioOutcome, hstate]
    · simp only [raises, hstate]
  | ptxTx =>
    refine Refines.of_endsAs ?_ ?_ (endsAs_sent h hstate) h.onRadioDisabledTxNoack
    · simp only [radioOutcome, hstate]
    · simp only [raises, hstate]
  | ptxTxAck =>
    refine Refines.of_nothing ?_ ?_ (radio_onRadioDisabledTx hstate) rfl ?_
    · simp only [radioOutcome, hstate]
    · simp only [raises, hstate]
    · exact ⟨h.mode, by simp [onRadioDisabledTx], h.txFifo, h.rxFifo,
        fun _ => h.remaining_le (Or.inl hstate)⟩
  | ptxRxAck =>
    have hsound := h.onRadioDisabledTxWaitForAck hstate (received.map Prod.snd)
    cases received with
    | some arrived =>
      refine Refines.of_endsAs ?_ ?_ (endsAs_acked h hstate arrived.2) hsound
      · simp only [radioOutcome, hstate]
      · simp only [raises, hstate]
    | none =>
      by_cases hspent : d.retransmitsRemaining = 0
      · refine Refines.of_endsAs ?_ ?_ (endsAs_exhausted hstate hspent) hsound
        · simp only [radioOutcome, hstate, hspent, if_true]
        · simp only [raises, hstate, hspent, if_true]
      · obtain ⟨hradio, hflags⟩ := @radio_retransmit cfg d hstate hspent
        refine Refines.of_nothing ?_ ?_ hradio hflags hsound
        · simp only [radioOutcome, hstate, hspent, if_false]
        · simp only [raises, hstate, hspent, if_false]

/-- No call but `esb_init` touches the flags. -/
theorem interruptFlags_esbWritePayload (h : d.PtxSound cfg) (p : EsbPayload) :
    (d.esbWritePayload cfg p).1.interruptFlags = d.interruptFlags := by
  unfold esbWritePayload
  split
  · rfl
  · rw [h.mode]
    dsimp only
    split
    · unfold startTxTransaction
      dsimp only
      split <;> rfl
    · rfl

theorem interruptFlags_esbReadRxPayload {slot : Slot} {d' : Driver}
    (hread : d.esbReadRxPayload cfg = some (slot, d')) :
    d'.interruptFlags = d.interruptFlags := by
  unfold esbReadRxPayload at hread
  split at hread
  · exact absurd hread (by simp)
  · split at hread
    · exact absurd hread (by simp)
    · rw [← (Prod.mk.inj (Option.some.inj hread)).2]

theorem interruptFlags_esbFlushTx : d.esbFlushTx.interruptFlags = d.interruptFlags := by
  unfold esbFlushTx
  split <;> rfl

theorem interruptFlags_esbSetRfChannel (channel : UInt8) :
    (d.esbSetRfChannel cfg channel).1.interruptFlags = d.interruptFlags := by
  unfold esbSetRfChannel
  split
  · rfl
  · split <;> rfl

theorem interruptFlags_esbSetRetransmitDelay (delay : Nat) :
    (d.esbSetRetransmitDelay delay).1.interruptFlags = d.interruptFlags := by
  unfold esbSetRetransmitDelay
  split
  · rfl
  · split <;> rfl

theorem interruptFlags_esbSetRetransmitCount (count : Nat) :
    (d.esbSetRetransmitCount count).1.interruptFlags = d.interruptFlags := by
  unfold esbSetRetransmitCount
  split <;> rfl

theorem refines_read (h : d.PtxSound cfg) :
    Refines cfg d .read (driverStep cfg crc d .read).1 (driverStep cfg crc d .read).2 := by
  have heq := radio_esbReadRxPayload h
  cases hread : d.esbReadRxPayload cfg with
  | none =>
    rw [hread] at heq
    have hstep : driverStep cfg crc d .read = (d, .payload none) := by
      rw [driverStep, hread]
    rw [hstep]
    refine @Refines.of_call cfg d _ .read (.payload none) _ _ rfl h ?_ rfl rfl rfl (by simp)
      (by simp)
    rw [radioStep, ← heq]
    rfl
  | some out =>
    rw [hread] at heq
    have hstep : driverStep cfg crc d .read = (out.2, .payload (some out.1)) := by
      rw [driverStep, hread]
    rw [hstep]
    refine @Refines.of_call cfg d _ .read (.payload (some out.1.data)) _ _ rfl
      (h.esbReadRxPayload hread) ?_ rfl rfl (interruptFlags_esbReadRxPayload hread) (by simp)
      (by simp)
    rw [radioStep, ← heq]
    rfl

/-- **Every step of the driver is at most one of `Radio`'s.** -/
theorem refines_driverStep (h : d.PtxSound cfg) {op : DriverOp} (hop : op.Transmits cfg) :
    Refines cfg d op (driverStep cfg crc d op).1 (driverStep cfg crc d op).2 := by
  cases op with
  | write p =>
    obtain ⟨heq, hsound⟩ := radio_esbWritePayload h p
    exact Refines.of_result rfl hsound heq rfl (interruptFlags_esbWritePayload h p) (by simp)
      (by simp)
  | read => exact refines_read h
  | flushTx =>
    obtain ⟨hradio, hsound⟩ := radio_esbFlushTx h
    exact Refines.of_result rfl hsound (congrArg (Prod.mk · _) hradio) rfl
      interruptFlags_esbFlushTx (by simp) (by simp)
  | setRfChannel channel =>
    obtain ⟨heq, hsound⟩ := radio_esbSetRfChannel h channel
    exact Refines.of_result rfl hsound heq rfl (interruptFlags_esbSetRfChannel channel) (by simp)
      (by simp)
  | setRetransmitDelay delay =>
    obtain ⟨heq, hsound⟩ := radio_esbSetRetransmitDelay h delay
    exact Refines.of_result rfl hsound heq rfl (interruptFlags_esbSetRetransmitDelay delay)
      (by simp) (by simp)
  | setRetransmitCount count =>
    obtain ⟨heq, hsound⟩ := radio_esbSetRetransmitCount h count
    exact Refines.of_result rfl hsound heq rfl (interruptFlags_esbSetRetransmitCount count)
      (by simp) (by simp)
  | startRx => exact absurd hop (fun hno => hno)
  | disable =>
    obtain ⟨hradio, hsound⟩ := radio_esbDisable h
    exact Refines.of_result rfl hsound (congrArg (Prod.mk · _) hradio) rfl rfl (by simp) (by simp)
  | init esbCfg =>
    obtain ⟨hmode, hack, hcount, hdelay⟩ := hop
    obtain ⟨hradio, hsound⟩ := radio_esbInit h hmode hack hcount hdelay
    exact Refines.of_result rfl hsound (congrArg (Prod.mk · _) hradio) rfl rfl (by simp) (by simp)
  | radio received => exact refines_onRadioDisabled h received
  | evt => exact ⟨⟨h.mode, h.state_ne, h.txFifo, h.rxFifo, h.remaining_le⟩,
      ⟨[], rfl, rfl, rfl⟩, rfl, rfl⟩

/-! ## Runs -/

theorem ptxSound_boot (cfg : Config) : boot.PtxSound cfg :=
  ⟨rfl, by simp [boot], ⟨Nat.zero_le _, cfg.txFifo_pos, (Nat.zero_mod _).symm⟩,
    ⟨Nat.zero_le _, cfg.rxFifo_pos, (Nat.zero_mod _).symm⟩, by simp [boot]⟩

/-- The run of `Radio` that a run of the driver is. -/
def radioOpsOf (cfg : Config) (crc : Nat → Nat → Bool → List UInt8 → UInt16) (d : Driver) :
    List DriverOp → List RadioOp
  | [] => []
  | op :: ops => d.radioOps op ++ radioOpsOf cfg crc (driverStep cfg crc d op).1 ops

/-- The events raised in a step, -/
def raisedBy (cfg : Config) (d : Driver) : DriverOp → List EsbEvtId
  | .radio received => d.raises cfg received
  | _ => []

/-- and in a run. -/
def raisedIn (cfg : Config) (crc : Nat → Nat → Bool → List UInt8 → UInt16) (d : Driver) :
    List DriverOp → List EsbEvtId
  | [] => []
  | op :: ops => d.raisedBy cfg op ++ raisedIn cfg crc (driverStep cfg crc d op).1 ops

theorem driverRun_cons (op : DriverOp) (ops : List DriverOp) :
    driverRun cfg crc d (op :: ops) =
      ((driverRun cfg crc (driverStep cfg crc d op).1 ops).1,
        (driverStep cfg crc d op).2 :: (driverRun cfg crc (driverStep cfg crc d op).1 ops).2) := rfl

theorem Refines.raised_eq {op : DriverOp} {d' : Driver} {out : DriverOut}
    (h : Refines cfg d op d' out) : ∃ outs, radioRun cfg (d.radio cfg) (d.radioOps op) =
      some (d'.radio cfg, outs) ∧ outs.filterMap RadioOut.reply = out.reply.toList ∧
      outs.flatMap RadioOut.raised = d.raisedBy cfg op := by
  obtain ⟨outs, hrun, hreply, hraised⟩ := h.run
  refine ⟨outs, hrun, hreply, hraised.trans ?_⟩
  cases op <;> rfl

/-- **The run lemma.** -/
theorem refines_driverRun (h : d.PtxSound cfg) {ops : List DriverOp}
    (hops : ∀ op ∈ ops, op.Transmits cfg) :
    ∃ outs, radioRun cfg (d.radio cfg) (d.radioOpsOf cfg crc ops) =
        some ((driverRun cfg crc d ops).1.radio cfg, outs) ∧
      outs.filterMap RadioOut.reply = (driverRun cfg crc d ops).2.filterMap DriverOut.reply ∧
      outs.flatMap RadioOut.raised = d.raisedIn cfg crc ops := by
  induction ops generalizing d with
  | nil => exact ⟨[], rfl, rfl, rfl⟩
  | cons op ops ih =>
    have hstep := @refines_driverStep cfg crc d h op (hops op List.mem_cons_self)
    obtain ⟨outs, hrun, hreply, hraised⟩ := hstep.raised_eq
    obtain ⟨rest, hrest, hreplies, hraisedRest⟩ :=
      ih hstep.sound fun op' hop' => hops op' (List.mem_cons_of_mem op hop')
    refine ⟨outs ++ rest, radioRun_append hrun hrest, ?_, ?_⟩
    · rw [List.filterMap_append, hreply, hreplies, driverRun_cons, List.filterMap_cons]
      cases (driverStep cfg crc d op).2.reply <;> rfl
    · rw [List.flatMap_append, hraised, hraisedRest]
      rfl

/-- **The driver refines `Radio`.** Whatever a transmitter is told after a
reset and whatever the air does, its statics are at every end what `Radio`
is after its own run, and every caller was told the same. -/
theorem driverRun_refines_radio {ops : List DriverOp} (hops : ∀ op ∈ ops, op.Transmits cfg) :
    ∃ outs, radioRun cfg {} (boot.radioOpsOf cfg crc ops) =
        some ((driverRun cfg crc boot ops).1.radio cfg, outs) ∧
      outs.filterMap RadioOut.reply =
        (driverRun cfg crc boot ops).2.filterMap DriverOut.reply := by
  obtain ⟨outs, hrun, hreply, -⟩ := @refines_driverRun cfg crc boot (ptxSound_boot cfg) ops hops
  exact ⟨outs, hrun, hreply⟩

/-- A packet that is repeated twice before its ACK comes, with a payload. -/
def repeatedTwice : List DriverOp :=
  [.init ⟨.ptx, false, 5, 570⟩, .write ⟨1, false, [7]⟩, .radio none, .radio none, .radio none,
    .radio none, .radio none, .radio (some (1, ⟨1, true, [9], 0⟩)), .evt, .read]

theorem transmits_repeatedTwice : ∀ op ∈ repeatedTwice, op.Transmits Config.default := by
  simp only [repeatedTwice, List.forall_mem_cons, DriverOp.Transmits]
  simp [Config.default]

theorem driverRun_refines_radio_repeatedTwice :
    ∃ outs, radioRun Config.default {}
        (boot.radioOpsOf Config.default (fun _ _ _ _ => 0) repeatedTwice) =
        some ((driverRun Config.default (fun _ _ _ _ => 0) boot repeatedTwice).1.radio
          Config.default, outs) ∧
      outs.filterMap RadioOut.reply =
        (driverRun Config.default (fun _ _ _ _ => 0) boot repeatedTwice).2.filterMap
          DriverOut.reply :=
  driverRun_refines_radio transmits_repeatedTwice

end Driver

/-! ## The events of a run -/

/-- Whether the flag of an event is set. -/
def Interrupts.has (f : Interrupts) : EsbEvtId → Bool
  | .txSuccess => f.txSuccess
  | .txFailed => f.txFailed
  | .rxReceived => f.rxDataReceived

theorem Interrupts.has_note (f : Interrupts) (e e' : EsbEvtId) :
    (f.note e).has e' = (f.has e' || e' == e) := by
  cases e <;> cases e' <;> simp [Interrupts.note, Interrupts.has]

theorem Interrupts.has_foldl_note (f : Interrupts) (es : List EsbEvtId) (e : EsbEvtId) :
    (es.foldl Interrupts.note f).has e = (f.has e || es.contains e) := by
  induction es generalizing f with
  | nil => simp
  | cons e' es ih =>
    rw [List.foldl_cons, ih, Interrupts.has_note, List.contains_cons, Bool.or_assoc]

theorem Interrupts.count_events (f : Interrupts) (e : EsbEvtId) :
    f.events.count e = (f.has e).toNat := by
  obtain ⟨s, x, r⟩ := f
  cases e <;> cases s <;> cases x <;> cases r <;> rfl

namespace Driver

variable {cfg : Config} {crc : Nat → Nat → Bool → List UInt8 → UInt16} {d : Driver}

/-- **An event is lost**: it is raised while its flag is up, or its flag is
up when the radio is initialised. -/
def Loses (cfg : Config) (e : EsbEvtId) (d : Driver) : DriverOp → Prop
  | .init _ => d.interruptFlags.has e = true
  | .radio received => d.interruptFlags.has e = true ∧ e ∈ d.raises cfg received
  | _ => False

/-- An interrupt raises an event once. -/
theorem nodup_raises (received : Option (Nat × Pdu)) : (d.raises cfg received).Nodup := by
  unfold raises
  split
  · exact List.nodup_singleton _
  · split <;> simp
  · split <;> simp
  · exact List.nodup_nil

/-- What a step does to the number of an event's flags and hand-outs. -/
theorem count_step (h : d.PtxSound cfg) {op : DriverOp} (hop : op.Transmits cfg) (e : EsbEvtId) :
    let out := driverStep cfg crc d op
    out.2.handed.count e + (out.1.interruptFlags.has e).toNat ≤
        (d.raisedBy cfg op).count e + (d.interruptFlags.has e).toNat ∧
      (out.2.handed.count e + (out.1.interruptFlags.has e).toNat =
          (d.raisedBy cfg op).count e + (d.interruptFlags.has e).toNat ↔ ¬ Loses cfg e d op) := by
  intro out
  have hstep := @refines_driverStep cfg crc d h op hop
  have hflags : out.1.interruptFlags = d.flagsAfter cfg op := hstep.flags
  have hhanded := hstep.handed
  rw [hflags]
  cases op with
  | init esbCfg =>
    have hnone : out.2.handed = [] := hhanded
    rw [hnone]
    show ([] : List EsbEvtId).count e + (Interrupts.has {} e).toNat ≤
        ([] : List EsbEvtId).count e + _ ∧
      (([] : List EsbEvtId).count e + (Interrupts.has {} e).toNat =
        ([] : List EsbEvtId).count e + _ ↔ ¬ d.interruptFlags.has e = true)
    have hempty : Interrupts.has {} e = false := by cases e <;> rfl
    rw [hempty]
    cases d.interruptFlags.has e <;> simp
  | evt =>
    have hall : out.2.handed = d.interruptFlags.events := hhanded
    rw [hall, Interrupts.count_events]
    have hempty : (d.flagsAfter cfg .evt).has e = false := by cases e <;> rfl
    rw [hempty]
    show _ ≤ ([] : List EsbEvtId).count e + _ ∧ (_ = ([] : List EsbEvtId).count e + _ ↔ ¬ False)
    cases d.interruptFlags.has e <;> simp
  | radio received =>
    have hnone : out.2.handed = [] := hhanded
    rw [hnone]
    show ([] : List EsbEvtId).count e +
        (((d.raises cfg received).foldl Interrupts.note d.interruptFlags).has e).toNat ≤
        (d.raises cfg received).count e + _ ∧
      (([] : List EsbEvtId).count e +
        (((d.raises cfg received).foldl Interrupts.note d.interruptFlags).has e).toNat =
        (d.raises cfg received).count e + _ ↔
          ¬ (d.interruptFlags.has e = true ∧ e ∈ d.raises cfg received))
    rw [Interrupts.has_foldl_note, List.count_nil, Nat.zero_add]
    by_cases hmem : e ∈ d.raises cfg received
    · have hone := List.count_eq_one_of_mem (@nodup_raises cfg d received) hmem
      rw [hone, List.contains_iff_mem.2 hmem]
      cases d.interruptFlags.has e <;> simp [hmem]
    · rw [List.count_eq_zero.2 hmem]
      have hno : (d.raises cfg received).contains e = false := by simpa using hmem
      rw [hno]
      cases d.interruptFlags.has e <;> simp [hmem]
  | startRx => exact absurd hop (fun hno => hno)
  | _ =>
    rw [hhanded]
    exact ⟨Nat.le_refl _, iff_of_true rfl fun hno => hno⟩

theorem count_run (h : d.PtxSound cfg) {ops : List DriverOp} (hops : ∀ op ∈ ops, op.Transmits cfg)
    (e : EsbEvtId) :
    let out := driverRun cfg crc d ops
    (out.2.flatMap DriverOut.handed).count e + (out.1.interruptFlags.has e).toNat ≤
        (d.raisedIn cfg crc ops).count e + (d.interruptFlags.has e).toNat ∧
      ((out.2.flatMap DriverOut.handed).count e + (out.1.interruptFlags.has e).toNat =
          (d.raisedIn cfg crc ops).count e + (d.interruptFlags.has e).toNat ↔
        Guarded (fun d op => (driverStep cfg crc d op).1) (fun d op => ¬ Loses cfg e d op) d
          ops) := by
  induction ops generalizing d with
  | nil => exact ⟨Nat.le_refl _, iff_of_true rfl trivial⟩
  | cons op ops ih =>
    intro out
    have hop := hops op List.mem_cons_self
    obtain ⟨hle, hiff⟩ := @count_step cfg crc d h op hop e
    obtain ⟨hleRest, hiffRest⟩ := ih (@refines_driverStep cfg crc d h op hop).sound
      fun op' hop' => hops op' (List.mem_cons_of_mem op hop')
    have hhanded : (out.2.flatMap DriverOut.handed).count e =
        (driverStep cfg crc d op).2.handed.count e +
          ((driverRun cfg crc (driverStep cfg crc d op).1 ops).2.flatMap
            DriverOut.handed).count e := by
      show (List.flatMap DriverOut.handed ((driverStep cfg crc d op).2 ::
        (driverRun cfg crc (driverStep cfg crc d op).1 ops).2)).count e = _
      rw [List.flatMap_cons, List.count_append]
    have hlast : out.1 = (driverRun cfg crc (driverStep cfg crc d op).1 ops).1 := rfl
    have hraised : (d.raisedIn cfg crc (op :: ops)).count e = (d.raisedBy cfg op).count e +
        (raisedIn cfg crc (driverStep cfg crc d op).1 ops).count e := by
      rw [raisedIn, List.count_append]
    rw [hhanded, hlast, hraised]
    refine ⟨by omega, ?_⟩
    rw [Guarded, ← hiff, ← hiffRest]
    omega

/-- **No event is made up, and when one is lost**: of every kind no more
events are handed to the handler than ends of transmissions raised, and as
many, up to the one that may wait, exactly in the runs in which none is
raised over its own flag and no initialisation finds it up. -/
theorem count_handed_le {ops : List DriverOp} (hops : ∀ op ∈ ops, op.Transmits cfg)
    (e : EsbEvtId) :
    ∃ outs, radioRun cfg {} (boot.radioOpsOf cfg crc ops) =
        some ((driverRun cfg crc boot ops).1.radio cfg, outs) ∧
      ((driverRun cfg crc boot ops).2.flatMap DriverOut.handed).count e +
          ((driverRun cfg crc boot ops).1.interruptFlags.has e).toNat ≤
        (outs.flatMap RadioOut.raised).count e ∧
      (((driverRun cfg crc boot ops).2.flatMap DriverOut.handed).count e +
          ((driverRun cfg crc boot ops).1.interruptFlags.has e).toNat =
        (outs.flatMap RadioOut.raised).count e ↔
          Guarded (fun d op => (driverStep cfg crc d op).1) (fun d op => ¬ Loses cfg e d op) boot
            ops) := by
  obtain ⟨outs, hrun, -, hraised⟩ := @refines_driverRun cfg crc boot (ptxSound_boot cfg) ops hops
  have hcount := @count_run cfg crc boot (ptxSound_boot cfg) ops hops e
  have hclear : (boot.interruptFlags.has e).toNat = 0 := by cases e <;> rfl
  dsimp only at hcount
  rw [hclear, Nat.add_zero] at hcount
  refine ⟨outs, hrun, ?_⟩
  rw [hraised]
  exact hcount

theorem count_handed_le_repeatedTwice :
    ∃ outs, radioRun Config.default {}
        (boot.radioOpsOf Config.default (fun _ _ _ _ => 0) repeatedTwice) =
        some ((driverRun Config.default (fun _ _ _ _ => 0) boot repeatedTwice).1.radio
          Config.default, outs) ∧
      ((driverRun Config.default (fun _ _ _ _ => 0) boot repeatedTwice).2.flatMap
          DriverOut.handed).count .txSuccess +
          ((driverRun Config.default (fun _ _ _ _ => 0) boot repeatedTwice).1.interruptFlags.has
            .txSuccess).toNat ≤
        (outs.flatMap RadioOut.raised).count .txSuccess ∧
      (((driverRun Config.default (fun _ _ _ _ => 0) boot repeatedTwice).2.flatMap
          DriverOut.handed).count .txSuccess +
          ((driverRun Config.default (fun _ _ _ _ => 0) boot repeatedTwice).1.interruptFlags.has
            .txSuccess).toNat =
        (outs.flatMap RadioOut.raised).count .txSuccess ↔
          Guarded (fun d op => (driverStep Config.default (fun _ _ _ _ => 0) d op).1)
            (fun d op => ¬ Loses Config.default .txSuccess d op) boot repeatedTwice) :=
  count_handed_le transmits_repeatedTwice .txSuccess

/-! ## Events served at once -/

/-- A run in which the event interrupt is served after every one of the
radio. -/
def served (ops : List DriverOp) : List DriverOp :=
  ops.flatMap fun op =>
    match op with
    | .radio received => [.radio received, .evt]
    | op => [op]

theorem driverRun_append (ops₁ ops₂ : List DriverOp) :
    driverRun cfg crc d (ops₁ ++ ops₂) =
      ((driverRun cfg crc (driverRun cfg crc d ops₁).1 ops₂).1,
        (driverRun cfg crc d ops₁).2 ++
          (driverRun cfg crc (driverRun cfg crc d ops₁).1 ops₂).2) := by
  induction ops₁ generalizing d with
  | nil => rfl
  | cons op ops₁ ih =>
    rw [List.cons_append, driverRun_cons, ih, driverRun_cons]
    rfl

theorem raisedIn_append (ops₁ ops₂ : List DriverOp) :
    d.raisedIn cfg crc (ops₁ ++ ops₂) =
      d.raisedIn cfg crc ops₁ ++ (driverRun cfg crc d ops₁).1.raisedIn cfg crc ops₂ := by
  induction ops₁ generalizing d with
  | nil => rfl
  | cons op ops₁ ih =>
    rw [List.cons_append, raisedIn, ih, raisedIn, List.append_assoc, driverRun_cons]

/-- The flags of the events an interrupt raises, handed out, are those
events. -/
theorem events_foldl_raises (received : Option (Nat × Pdu)) :
    ((d.raises cfg received).foldl Interrupts.note {}).events = d.raises cfg received := by
  unfold raises
  split
  · rfl
  · split <;> rfl
  · split <;> rfl
  · rfl

/-- A step with its events served: they are handed out as they are raised,
and no flag is left up. -/
theorem served_step (h : d.PtxSound cfg) (hflags : d.interruptFlags = {}) {op : DriverOp}
    (hop : op.Transmits cfg) :
    let out := driverRun cfg crc d (served [op])
    out.1.PtxSound cfg ∧ out.1.interruptFlags = {} ∧
      out.2.flatMap DriverOut.handed = d.raisedIn cfg crc (served [op]) := by
  have hstep := @refines_driverStep cfg crc d h op hop
  have hleft : (driverStep cfg crc d op).1.interruptFlags = d.flagsAfter cfg op := hstep.flags
  have hhanded := hstep.handed
  cases op with
  | radio received =>
    have hafter : (d.onRadioDisabled cfg crc received).interruptFlags =
        (d.raises cfg received).foldl Interrupts.note {} :=
      hleft.trans (congrArg ((d.raises cfg received).foldl Interrupts.note) hflags)
    have hserve := @refines_driverStep cfg crc _ hstep.sound .evt trivial
    refine ⟨hserve.sound, rfl, ?_⟩
    show (d.onRadioDisabled cfg crc received).interruptFlags.events ++ [] =
      d.raises cfg received ++ []
    rw [hafter, events_foldl_raises]
  | startRx => exact absurd hop (fun hno => hno)
  | evt =>
    refine ⟨hstep.sound, rfl, ?_⟩
    show d.interruptFlags.events ++ [] = []
    rw [hflags]
    rfl
  | init esbCfg => exact ⟨hstep.sound, rfl, rfl⟩
  | _ =>
    refine ⟨hstep.sound, hleft.trans hflags, ?_⟩
    refine Eq.trans (List.append_nil _) ?_
    exact hhanded

theorem served_run (h : d.PtxSound cfg) (hflags : d.interruptFlags = {}) {ops : List DriverOp}
    (hops : ∀ op ∈ ops, op.Transmits cfg) :
    (driverRun cfg crc d (served ops)).1.interruptFlags = {} ∧
      (driverRun cfg crc d (served ops)).2.flatMap DriverOut.handed =
        d.raisedIn cfg crc (served ops) := by
  induction ops generalizing d with
  | nil => exact ⟨hflags, rfl⟩
  | cons op ops ih =>
    obtain ⟨hsound, hclear, hhanded⟩ :=
      @served_step cfg crc d h hflags op (hops op List.mem_cons_self)
    obtain ⟨hlast, hrest⟩ :=
      ih hsound hclear fun op' hop' => hops op' (List.mem_cons_of_mem op hop')
    have hsplit : served (op :: ops) = served [op] ++ served ops :=
      @List.flatMap_append _ _ [op] ops _
    rw [hsplit, driverRun_append]
    refine ⟨hlast, ?_⟩
    rw [List.flatMap_append, hhanded, hrest, raisedIn_append]

theorem transmits_served {ops : List DriverOp} (hops : ∀ op ∈ ops, op.Transmits cfg) :
    ∀ op ∈ served ops, op.Transmits cfg := by
  intro op hop
  obtain ⟨op', hmem, hin⟩ := List.mem_flatMap.1 hop
  cases op' with
  | radio received =>
    rcases List.mem_pair.1 hin with rfl | rfl
    · trivial
    · trivial
  | _ =>
    obtain rfl := List.mem_singleton.1 hin
    exact hops _ hmem

/-- **Served at once, the driver is `Radio`**, events and all: where the
event interrupt follows every one of the radio, the handler is given exactly
what the ends of transmissions raise, in that order. -/
theorem handed_eq_raised {ops : List DriverOp} (hops : ∀ op ∈ ops, op.Transmits cfg) :
    ∃ outs, radioRun cfg {} (boot.radioOpsOf cfg crc (served ops)) =
        some ((driverRun cfg crc boot (served ops)).1.radio cfg, outs) ∧
      outs.filterMap RadioOut.reply =
        (driverRun cfg crc boot (served ops)).2.filterMap DriverOut.reply ∧
      (driverRun cfg crc boot (served ops)).2.flatMap DriverOut.handed =
        outs.flatMap RadioOut.raised := by
  obtain ⟨outs, hrun, hreply, hraised⟩ :=
    @refines_driverRun cfg crc boot (ptxSound_boot cfg) (served ops) (transmits_served hops)
  refine ⟨outs, hrun, hreply, ?_⟩
  rw [hraised]
  exact (@served_run cfg crc boot (ptxSound_boot cfg) rfl ops hops).2

theorem handed_eq_raised_repeatedTwice :
    ∃ outs, radioRun Config.default {}
        (boot.radioOpsOf Config.default (fun _ _ _ _ => 0) (served repeatedTwice)) =
        some ((driverRun Config.default (fun _ _ _ _ => 0) boot (served repeatedTwice)).1.radio
          Config.default, outs) ∧
      outs.filterMap RadioOut.reply =
        (driverRun Config.default (fun _ _ _ _ => 0) boot (served repeatedTwice)).2.filterMap
          DriverOut.reply ∧
      (driverRun Config.default (fun _ _ _ _ => 0) boot (served repeatedTwice)).2.flatMap
        DriverOut.handed = outs.flatMap RadioOut.raised :=
  handed_eq_raised transmits_repeatedTwice

end Driver

end EsbEndpoint
