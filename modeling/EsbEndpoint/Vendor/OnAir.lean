import EsbEndpoint.Vendor.Transmitter

/-!
# The packet on the air

Which payload the transmitter's buffer holds, and what a step does to it
and to the FIFO: a call appends or empties and leaves a packet on the air
alone, or starts the head; the radio's interrupt repeats the packet, or
takes the head away and starts the next one.
-/

namespace EsbEndpoint

/-- The packet a payload is sent as. -/
def Slot.pdu (w : Slot) : Pdu := ⟨w.pid, !w.noack, w.data, w.serial⟩

namespace Driver

variable (cfg : Config) (d : Driver)

/-- The payloads in the transmit FIFO. -/
def txQueue : List Slot := d.txFifo.contents cfg.esbTxFifoSize

/-- A packet is being transmitted. -/
def Active : Prop := d.state = .ptxTx ∨ d.state = .ptxTxAck ∨ d.state = .ptxRxAck

/-- The buffer holds the packet of a payload. -/
def Sends (w : Slot) : Prop := d.txAddress = w.pipe ∧ d.txPayloadBuffer = w.pdu

/-- A transmission of the head has begun. -/
structure Starts (w : Slot) : Prop where
  head : (d.txQueue cfg).head? = some w
  sends : d.Sends w
  state : d.state = if !w.noack || !d.esbCfg.selectiveAutoAck then .ptxTxAck else .ptxTx

/-- **What a call can do to the packet on the air.** -/
inductive AirStep (d' : Driver) : Prop
  | quiet (h : ¬ d'.Active)
  | goesOn (hstate : d'.state = d.state) (haddress : d'.txAddress = d.txAddress)
      (hbuffer : d'.txPayloadBuffer = d.txPayloadBuffer)
  | starts (w : Slot) (h : d'.Starts cfg w)

variable {cfg d} {crc : Nat → Nat → Bool → List UInt8 → UInt16}

theorem starts_startTxTransaction (htx : d.txFifo.Sound cfg.esbTxFifoSize)
    (hcount : d.txFifo.count ≠ 0) : d.startTxTransaction.Starts cfg d.txFifo.peek := by
  have hhead : (d.txQueue cfg).head? = some d.txFifo.peek := htx.head? hcount
  unfold startTxTransaction
  dsimp only
  split
  · rename_i hack
    exact ⟨hhead, ⟨rfl, rfl⟩, (if_pos hack).symm⟩
  · rename_i hack
    exact ⟨hhead, ⟨rfl, rfl⟩, (if_neg hack).symm⟩

theorem startTxTransaction_frame' :
    d.startTxTransaction.txFifo = d.txFifo ∧ d.startTxTransaction.pids = d.pids ∧
      d.startTxTransaction.written = d.written ∧ d.startTxTransaction.rxFifo = d.rxFifo ∧
      d.startTxTransaction.esbCfg = d.esbCfg := by
  unfold startTxTransaction
  dsimp only
  split <;> exact ⟨rfl, rfl, rfl, rfl, rfl⟩

end Driver

/-- The calls that empty nothing and reset nothing. -/
def DriverOp.Keeps : DriverOp → Prop
  | .flushTx | .init _ | .disable | .radio _ => False
  | _ => True

namespace Driver

variable {cfg : Config} {d : Driver} {crc : Nat → Nat → Bool → List UInt8 → UInt16}

/-- The packet ids after some payloads. -/
def pidsAfter (pids : Nat → Nat) (ws : List Slot) : Nat → Nat :=
  ws.foldl (fun pids w => Function.update pids w.pipe w.pid) pids

/-- **What a call does to a transmitter**: its FIFO is empty, or keeps what
it had with the payload the call brought behind it. -/
structure Called (cfg : Config) (d : Driver) (op : DriverOp) (d' : Driver) (out : DriverOut) :
    Prop where
  queue : d'.txQueue cfg = [] ∧ DriverOp.accepted d op out = [] ∨
    d'.txQueue cfg = d.txQueue cfg ++ DriverOp.accepted d op out
  written : d'.written = d.written + (DriverOp.accepted d op out).length
  air : d.AirStep cfg d'
  keeps : op.Keeps → d'.txQueue cfg = d.txQueue cfg ++ DriverOp.accepted d op out ∧
    d'.pids = pidsAfter d.pids (DriverOp.accepted d op out) ∧
    d'.esbCfg.selectiveAutoAck = d.esbCfg.selectiveAutoAck ∧
    d.rxFifo.contents cfg.esbRxFifoSize = out.read ++ d'.rxFifo.contents cfg.esbRxFifoSize

/-- A call that leaves all this alone. -/
theorem Called.of_same {op : DriverOp} {d' : Driver} {out : DriverOut}
    (haccepted : DriverOp.accepted d op out = []) (hread : out.read = [])
    (hfifo : d'.txFifo = d.txFifo) (hrx : d'.rxFifo = d.rxFifo) (hpids : d'.pids = d.pids)
    (hwritten : d'.written = d.written)
    (hack : d'.esbCfg.selectiveAutoAck = d.esbCfg.selectiveAutoAck) (hstate : d'.state = d.state)
    (haddress : d'.txAddress = d.txAddress) (hbuffer : d'.txPayloadBuffer = d.txPayloadBuffer) :
    Called cfg d op d' out := by
  have hqueue : d'.txQueue cfg = d.txQueue cfg ++ DriverOp.accepted d op out := by
    rw [haccepted, List.append_nil, txQueue, hfifo]
    rfl
  refine ⟨Or.inr hqueue, ?_, .goesOn hstate haddress hbuffer, fun _ => ⟨hqueue, ?_, hack, ?_⟩⟩
  · rw [haccepted]
    exact hwritten
  · rw [haccepted]
    exact hpids
  · rw [hread, hrx]
    rfl

/-- A call that empties the FIFO. -/
theorem Called.of_cleared {op : DriverOp} {d' : Driver} {out : DriverOut}
    (haccepted : DriverOp.accepted d op out = []) (hkeeps : ¬ op.Keeps)
    (hqueue : d'.txQueue cfg = []) (hwritten : d'.written = d.written)
    (hair : d.AirStep cfg d') : Called cfg d op d' out :=
  ⟨Or.inl ⟨hqueue, haccepted⟩, by rw [haccepted]; exact hwritten, hair,
    fun hyes => absurd hyes hkeeps⟩

/-- A write. -/
theorem called_write (h : d.PtxSound cfg) (p : EsbPayload) :
    Called cfg d (.write p) (d.esbWritePayload cfg p).1 (.result (d.esbWritePayload cfg p).2) := by
  unfold esbWritePayload
  cases herr : d.writeError cfg p with
  | some err => exact Called.of_same rfl rfl rfl rfl rfl rfl rfl rfl rfl rfl
  | none =>
    have hroom := room_of_writeError herr
    obtain ⟨-, hsound⟩ := @radio_enqueue cfg d h p hroom
    have hpush : (d.enqueue cfg p).txQueue cfg = d.txQueue cfg ++ [d.stored p] :=
      h.txFifo.contents_push hroom (d.stored p)
    rw [h.mode]
    dsimp only
    split
    · obtain ⟨hfifo, hpids, hwritten, hrx, hcfg⟩ := @startTxTransaction_frame' (d.enqueue cfg p)
      have hqueue : (d.enqueue cfg p).startTxTransaction.txQueue cfg =
          d.txQueue cfg ++ [d.stored p] := by
        rw [txQueue, hfifo]
        exact hpush
      refine ⟨Or.inr hqueue, hwritten, .starts _ (starts_startTxTransaction hsound.txFifo
        (Nat.succ_ne_zero _)), fun _ => ⟨hqueue, hpids, ?_, ?_⟩⟩
      · rw [hcfg]
        rfl
      · rw [hrx]
        rfl
    · exact ⟨Or.inr hpush, rfl, .goesOn rfl rfl rfl, fun _ => ⟨hpush, rfl, rfl, rfl⟩⟩

/-- **What a call does to a transmitter.** -/
theorem called_driverStep (h : d.PtxSound cfg) {op : DriverOp} (hop : op.Transmits cfg)
    (hcall : ∀ received, op ≠ .radio received) :
    Called cfg d op (driverStep cfg crc d op).1 (driverStep cfg crc d op).2 := by
  cases op with
  | write p => exact called_write h p
  | read =>
    show Called cfg d .read (driverStep cfg crc d .read).1 (driverStep cfg crc d .read).2
    unfold driverStep
    cases hread : d.esbReadRxPayload cfg with
    | none => exact Called.of_same rfl rfl rfl rfl rfl rfl rfl rfl rfl rfl
    | some out =>
      unfold esbReadRxPayload at hread
      split at hread
      · exact absurd hread (by simp)
      · split at hread
        · exact absurd hread (by simp)
        · rename_i hcount
          obtain rfl := Option.some.inj hread
          exact ⟨Or.inr (List.append_nil _).symm, rfl, .goesOn rfl rfl rfl,
            fun _ => ⟨(List.append_nil _).symm, rfl, rfl, h.rxFifo.contents_cons hcount⟩⟩
  | flushTx =>
    show Called cfg d .flushTx d.esbFlushTx _
    unfold esbFlushTx
    split
    · exact Called.of_cleared rfl (fun hno => hno) rfl rfl (.goesOn rfl rfl rfl)
    · exact Called.of_same rfl rfl rfl rfl rfl rfl rfl rfl rfl rfl
  | setRfChannel channel =>
    show Called cfg d _ (d.esbSetRfChannel cfg channel).1
      (.result (d.esbSetRfChannel cfg channel).2)
    unfold esbSetRfChannel
    split
    · exact Called.of_same rfl rfl rfl rfl rfl rfl rfl rfl rfl rfl
    · split
      · exact Called.of_same rfl rfl rfl rfl rfl rfl rfl rfl rfl rfl
      · exact Called.of_same rfl rfl rfl rfl rfl rfl rfl rfl rfl rfl
  | setRetransmitDelay delay =>
    show Called cfg d _ (d.esbSetRetransmitDelay delay).1
      (.result (d.esbSetRetransmitDelay delay).2)
    unfold esbSetRetransmitDelay
    split
    · exact Called.of_same rfl rfl rfl rfl rfl rfl rfl rfl rfl rfl
    · split
      · exact Called.of_same rfl rfl rfl rfl rfl rfl rfl rfl rfl rfl
      · exact Called.of_same rfl rfl rfl rfl rfl rfl rfl rfl rfl rfl
  | setRetransmitCount count =>
    show Called cfg d _ (d.esbSetRetransmitCount count).1
      (.result (d.esbSetRetransmitCount count).2)
    unfold esbSetRetransmitCount
    split
    · exact Called.of_same rfl rfl rfl rfl rfl rfl rfl rfl rfl rfl
    · exact Called.of_same rfl rfl rfl rfl rfl rfl rfl rfl rfl rfl
  | startRx => exact absurd hop (fun hno => hno)
  | disable =>
    exact Called.of_cleared rfl (fun hno => hno) rfl rfl
      (.quiet (by simp [driverStep, esbDisable, Active]))
  | init esbCfg =>
    exact Called.of_cleared rfl (fun hno => hno) rfl rfl
      (.quiet (by simp [driverStep, esbInit, Active]))
  | radio received => exact absurd rfl (hcall received)
  | evt =>
    exact ⟨Or.inr (List.append_nil _).symm, rfl, .goesOn rfl rfl rfl,
      fun _ => ⟨(List.append_nil _).symm, rfl, rfl, rfl⟩⟩

/-! ## The radio's interrupt -/

/-- The head has left the FIFO, and the next payload is sent, if any. -/
structure Left (cfg : Config) (d d' : Driver) : Prop where
  queue : d'.txQueue cfg = (d.txQueue cfg).tail
  air : ¬ d'.Active ∨ ∃ w, d'.Starts cfg w
  frame : d'.pids = d.pids ∧ d'.written = d.written ∧
    d'.esbCfg.selectiveAutoAck = d.esbCfg.selectiveAutoAck

theorem left_startNextOr {d₁ : Driver} {settled : DriverState}
    (htx : d₁.txFifo.Sound cfg.esbTxFifoSize) (hqueue : d₁.txQueue cfg = (d.txQueue cfg).tail)
    (hpids : d₁.pids = d.pids) (hwritten : d₁.written = d.written) (hcfg : d₁.esbCfg = d.esbCfg)
    (hsettled : settled = .idle ∨ settled = .ptxTxidle) :
    (d₁.startNextOr settled).rxFifo = d₁.rxFifo ∧ Left cfg d (d₁.startNextOr settled) := by
  unfold startNextOr
  split
  · refine ⟨rfl, hqueue, Or.inl ?_, hpids, hwritten, congrArg EsbConfig.selectiveAutoAck hcfg⟩
    rcases hsettled with rfl | rfl <;> simp [Active]
  · rename_i hcount
    obtain ⟨hfifo, hpids', hwritten', hrx, hcfg'⟩ := @startTxTransaction_frame' d₁
    refine ⟨hrx, ?_, Or.inr ⟨_, starts_startTxTransaction htx hcount⟩, hpids'.trans hpids,
      hwritten'.trans hwritten, congrArg EsbConfig.selectiveAutoAck (hcfg'.trans hcfg)⟩
    rw [txQueue, hfifo]
    exact hqueue

/-- A packet that asks for no ACK has left. -/
theorem left_onRadioDisabledTxNoack (h : d.PtxSound cfg) :
    (d.onRadioDisabledTxNoack cfg).rxFifo = d.rxFifo ∧
      Left cfg d (d.onRadioDisabledTxNoack cfg) := by
  refine left_startNextOr h.txFifo.pop h.txFifo.contents_pop rfl rfl rfl ?_
  split
  · exact Or.inr rfl
  · exact Or.inl rfl

/-- What an ACK's payload does to the receive FIFO. -/
theorem takeReply_spec (h : d.PtxSound cfg) (pdu : Pdu) :
    (d.takeReply cfg pdu).PtxSound cfg ∧
      (d.takeReply cfg pdu).rxFifo.contents cfg.esbRxFifoSize =
        d.rxFifo.contents cfg.esbRxFifoSize ++
          (if TakesReply cfg d pdu then [received d.txAddress pdu] else []) ∧
      ∃ rxFifo flags,
        d.takeReply cfg pdu = { d with rxFifo := rxFifo, interruptFlags := flags } := by
  refine ⟨h.takeReply pdu, ?_⟩
  unfold takeReply
  by_cases hlength : 0 < pdu.data.length
  · rw [if_pos hlength]
    unfold rxFifoPushRfbuf
    by_cases hfull : cfg.esbRxFifoSize ≤ d.rxFifo.count
    · have hno : ¬ TakesReply cfg d pdu := fun htakes => Nat.not_le_of_lt htakes.2.1 hfull
      rw [if_pos hfull, if_neg hno]
      exact ⟨(List.append_nil _).symm, _, _, rfl⟩
    · by_cases hlong : cfg.esbMaxPayloadLength < pdu.data.length
      · have hno : ¬ TakesReply cfg d pdu := fun htakes => Nat.not_lt_of_le htakes.2.2 hlong
        rw [if_neg hfull, if_pos hlong, if_neg hno]
        exact ⟨(List.append_nil _).symm, _, _, rfl⟩
      · have hyes : TakesReply cfg d pdu :=
          ⟨hlength, Nat.lt_of_not_le hfull, Nat.le_of_not_lt hlong⟩
        rw [if_neg hfull, if_neg hlong, if_pos hyes]
        exact ⟨h.rxFifo.contents_push (Nat.lt_of_not_le hfull) _, _, _, rfl⟩
  · have hno : ¬ TakesReply cfg d pdu := fun htakes => hlength htakes.1
    rw [if_neg hlength, if_neg hno]
    exact ⟨(List.append_nil _).symm, _, _, rfl⟩

/-- **An ACK has come.** -/
theorem left_acked (h : d.PtxSound cfg) (pdu : Pdu) :
    (d.onRadioDisabledTxWaitForAck cfg (some pdu)).rxFifo.contents cfg.esbRxFifoSize =
        d.rxFifo.contents cfg.esbRxFifoSize ++
          (if TakesReply cfg d pdu then [received d.txAddress pdu] else []) ∧
      Left cfg d (d.onRadioDisabledTxWaitForAck cfg (some pdu)) := by
  have hacked : (d.ackReceived cfg).txQueue cfg = (d.txQueue cfg).tail := h.txFifo.contents_pop
  obtain ⟨hsound, hcontents, rxFifo, flags, heq⟩ :=
    @takeReply_spec cfg (d.ackReceived cfg) h.ackReceived pdu
  have hdef : d.onRadioDisabledTxWaitForAck cfg (some pdu) =
      ((d.ackReceived cfg).takeReply cfg pdu).startNextOr .idle := rfl
  have hfields : ((d.ackReceived cfg).takeReply cfg pdu).txQueue cfg = (d.txQueue cfg).tail ∧
      ((d.ackReceived cfg).takeReply cfg pdu).pids = d.pids ∧
      ((d.ackReceived cfg).takeReply cfg pdu).written = d.written ∧
      ((d.ackReceived cfg).takeReply cfg pdu).esbCfg = d.esbCfg := by
    rw [heq]
    exact ⟨hacked, rfl, rfl, rfl⟩
  obtain ⟨hqueue, hpids, hwritten, hcfg⟩ := hfields
  obtain ⟨hrx, hleft⟩ :=
    left_startNextOr hsound.txFifo hqueue hpids hwritten hcfg (Or.inl (Eq.refl DriverState.idle))
  rw [hdef, hrx]
  exact ⟨hcontents, hleft⟩

/-- **No ACK has come**: the packet is sent again, or the radio halts with
it in the FIFO. -/
theorem lost_spec :
    (¬ (d.onRadioDisabledTxWaitForAck cfg none).Active ∨
      (d.onRadioDisabledTxWaitForAck cfg none).state = .ptxTxAck) ∧
    ∃ state flags remaining attempts, d.onRadioDisabledTxWaitForAck cfg none =
      { d with
        state := state
        interruptFlags := flags
        retransmitsRemaining := remaining
        lastTxAttempts := attempts } := by
  unfold onRadioDisabledTxWaitForAck
  dsimp only
  split
  · exact ⟨Or.inl (by simp [Active]), _, _, _, _, rfl⟩
  · exact ⟨Or.inr rfl, _, _, _, _, rfl⟩

end Driver

end EsbEndpoint
