import EsbEndpoint.Common.Pool
import EsbEndpoint.Common.WrapFifo
import EsbEndpoint.Vendor.Esb

/-!
# The vendored radio, at the level of its statics

`vendor/nrf-esb/subsys/esb.c` with dynamic payload length and automatic
start, in both modes: the payload FIFOs with their indices, the packet ids,
the retransmission counter, the interrupt flags, and in PRX mode what each
pipe last received and the queues of ACK payloads, which are linked through
one pool over the slots of the transmit FIFO. The function the radio's
interrupt runs follows from `esb_state`, so each is a definition here that
`driverStep` dispatches to.

The air is outside: a packet that comes with a wrong CRC, or not at all, is
no input, and `crc` gives the CRC the radio computes over address and
packet. `serial` and `written` are history.
-/

namespace EsbEndpoint

/-! ## The statics -/

/-- `enum esb_state` -/
inductive DriverState
  | idle
  | ptxTx
  | ptxTxAck
  | ptxRxAck
  | prx
  | prxSendAck
  | ptxTxidle
  deriving DecidableEq

/-- `enum esb_mode` -/
inductive EsbMode
  | ptx
  | prx
  deriving DecidableEq

/-- `PID_MAX` -/
abbrev pidMax : Nat := 3

/-- `struct esb_payload` in a FIFO. -/
structure Slot extends Queued where
  pid : Nat
  deriving DecidableEq

/-- What a FIFO's memory holds before it is written. -/
def Slot.blank : Slot := ⟨⟨⟨0, false, []⟩, 0⟩, 0⟩

/-- `struct esb_radio_pdu` with a dynamic length. The bit `no_ack` is set
in a packet that asks for an ACK. -/
structure Pdu where
  pid : Nat
  noAck : Bool
  data : List UInt8
  serial : Nat
  deriving DecidableEq

/-- `struct pipe_info` -/
structure PipeInfo where
  crc : UInt16 := 0
  pid : Nat := 0
  ackPayload : Bool := false
  deriving DecidableEq

/-- `interrupt_flags` -/
structure Interrupts where
  txSuccess : Bool := false
  txFailed : Bool := false
  rxDataReceived : Bool := false
  deriving DecidableEq

/-- The fields of `struct esb_config` the modelled functions read. -/
structure EsbConfig where
  mode : EsbMode
  selectiveAutoAck : Bool
  retransmitCount : Nat
  retransmitDelay : Nat

structure Driver where
  initialized : Bool := false
  esbCfg : EsbConfig
  state : DriverState := .idle
  txFifo : WrapFifo Slot := ⟨fun _ => .blank, 0, 0, 0⟩
  rxFifo : WrapFifo Slot := ⟨fun _ => .blank, 0, 0, 0⟩
  /-- `ack_pl_wrap` and `ack_pl_wrap_pipe` -/
  ackPlWrap : Pool := {}
  pids : Nat → Nat := fun _ => 0
  rxPipeInfo : Nat → PipeInfo := fun _ => {}
  interruptFlags : Interrupts := {}
  retransmitsRemaining : Nat := 0
  lastTxAttempts : Nat := 0
  /-- `esb_addr.rf_channel` -/
  rfChannel : UInt8 := 2
  /-- `tx_payload_buffer`, what the radio sends -/
  txPayloadBuffer : Pdu := ⟨0, false, [], 0⟩
  /-- the pipe the radio sends on -/
  txAddress : Nat := 0
  written : Nat := 0

namespace Driver

/-- The statics after a reset. -/
def boot : Driver := { esbCfg := ⟨.ptx, false, 0, 0⟩ }

variable (cfg : Config) (d : Driver)

def raise (f : Interrupts → Interrupts) : Driver := { d with interruptFlags := f d.interruptFlags }

/-! ## Transmitting -/

/-- `start_tx_transaction` -/
def startTxTransaction : Driver :=
  let currentPayload := d.txFifo.peek
  let ack := !currentPayload.noack || !d.esbCfg.selectiveAutoAck
  let d :=
    { d with
      lastTxAttempts := 1
      txPayloadBuffer :=
        ⟨currentPayload.pid, !currentPayload.noack, currentPayload.data, currentPayload.serial⟩
      txAddress := currentPayload.pipe }
  if ack then
    { d with retransmitsRemaining := d.esbCfg.retransmitCount, state := .ptxTxAck }
  else { d with state := .ptxTx }

/-- `tx_fifo_remove_last` -/
def txFifoRemoveLast : Driver := { d with txFifo := d.txFifo.pop cfg.esbTxFifoSize }

/-- A packet as it lies in the receive FIFO. -/
def received (pipe : Nat) (pdu : Pdu) : Slot :=
  ⟨⟨⟨pipe, !pdu.noAck, pdu.data⟩, pdu.serial⟩, pdu.pid⟩

/-- `rx_fifo_push_rfbuf`: the packet in the receive buffer. -/
def rxFifoPushRfbuf (pipe : Nat) (pdu : Pdu) : Option Driver :=
  if cfg.esbRxFifoSize ≤ d.rxFifo.count then none
  else if cfg.esbMaxPayloadLength < pdu.data.length then none
  else
    some { d with rxFifo := d.rxFifo.push cfg.esbRxFifoSize (received pipe pdu) }

/-- After a packet has left the FIFO: start the next one, or settle. -/
def startNextOr (settled : DriverState) : Driver :=
  if d.txFifo.count = 0 then { d with state := settled } else d.startTxTransaction

/-- `on_radio_end_tx_noack` or, with `ESB_NEVER_DISABLE_TX` off,
`on_radio_disabled_tx_noack`. -/
def onRadioDisabledTxNoack : Driver :=
  let d := d.raise fun f => { f with txSuccess := true }
  (d.txFifoRemoveLast cfg).startNextOr (if cfg.esbNeverDisableTx then .ptxTxidle else .idle)

/-- `on_radio_disabled_tx` -/
def onRadioDisabledTx : Driver := { d with state := .ptxRxAck }

/-- The packet an ACK came for goes. -/
def ackReceived : Driver :=
  let d := d.raise fun f => { f with txSuccess := true }
  let d := { d with lastTxAttempts := d.esbCfg.retransmitCount - d.retransmitsRemaining + 1 }
  d.txFifoRemoveLast cfg

/-- The payload of an ACK, if it has one. -/
def takeReply (pdu : Pdu) : Driver :=
  if 0 < pdu.data.length then
    match d.rxFifoPushRfbuf cfg d.txAddress pdu with
    | some d => d.raise fun f => { f with rxDataReceived := true }
    | none => d
  else d

/-- `on_radio_disabled_tx_wait_for_ack`, with the ACK that came, if one
did. -/
def onRadioDisabledTxWaitForAck (reply : Option Pdu) : Driver :=
  match reply with
  | some pdu => ((d.ackReceived cfg).takeReply cfg pdu).startNextOr .idle
  | none =>
    if d.retransmitsRemaining = 0 then
      let d := { d with lastTxAttempts := d.esbCfg.retransmitCount + 1 }
      { d.raise fun f => { f with txFailed := true } with state := .idle }
    else { d with retransmitsRemaining := d.retransmitsRemaining - 1, state := .ptxTxAck }

/-! ## Receiving -/

/-- The pipe whose last packet is known. -/
def setPipeInfo (pipe : Nat) (info : PipeInfo) : Driver :=
  { d with rxPipeInfo := Function.update d.rxPipeInfo pipe info }

/-- The slot of the first ACK payload of a pipe. -/
def ackPayloadOf (pipe : Nat) : Option Slot := (d.ackPlWrap.head pipe).map d.txFifo.slots

/-- The ACK payload of a pipe that the peer has got goes. -/
def dropAckPayload (pipe : Nat) : Driver :=
  { d with
    ackPlWrap := d.ackPlWrap.dropHead pipe
    txFifo := { d.txFifo with count := d.txFifo.count - 1 } }

/-- `on_radio_disabled_rx_dpl`: the ACK to the packet `pdu`. -/
def onRadioDisabledRxDpl (retransmitPayload : Bool) (pipe : Nat) (pdu : Pdu) : Driver :=
  let answer (d : Driver) (currentPayload : Option Slot) : Driver :=
    { d.setPipeInfo pipe
        { d.rxPipeInfo pipe with ackPayload := currentPayload.isSome } with
      txPayloadBuffer :=
        ⟨pdu.pid, pdu.noAck, (currentPayload.map fun p => p.data).getD [],
          (currentPayload.map fun p => p.serial).getD 0⟩ }
  if 0 < d.txFifo.count ∧ (d.ackPlWrap.head pipe).isSome then
    if (d.rxPipeInfo pipe).ackPayload && !retransmitPayload then
      let d := (d.dropAckPayload pipe).raise fun f => { f with txSuccess := true }
      answer d (if 0 < d.txFifo.count then d.ackPayloadOf pipe else none)
    else answer d (d.ackPayloadOf pipe)
  else answer d none

variable (crc : Nat → Nat → Bool → List UInt8 → UInt16)

/-- Whether a packet repeats the last one of its pipe. -/
def repeats (pipe : Nat) (pdu : Pdu) : Bool :=
  crc pipe pdu.pid pdu.noAck pdu.data == (d.rxPipeInfo pipe).crc &&
    pdu.pid == (d.rxPipeInfo pipe).pid

/-- `on_radio_disabled_rx` -/
def onRadioDisabledRx (pipe : Nat) (pdu : Pdu) : Driver :=
  if cfg.esbRxFifoSize ≤ d.rxFifo.count then d
  else
    let retransmitPayload := d.repeats crc pipe pdu
    let d := d.setPipeInfo pipe
      { d.rxPipeInfo pipe with pid := pdu.pid, crc := crc pipe pdu.pid pdu.noAck pdu.data }
    let d :=
      if !d.esbCfg.selectiveAutoAck || pdu.noAck then
        { d.onRadioDisabledRxDpl retransmitPayload pipe pdu with
          txAddress := pipe
          state := .prxSendAck }
      else d
    if retransmitPayload then d
    else
      match d.rxFifoPushRfbuf cfg pipe pdu with
      | some d => d.raise fun f => { f with rxDataReceived := true }
      | none => d

/-- `on_radio_disabled_rx_ack` -/
def onRadioDisabledRxAck : Driver := { d with state := .prx }

/-- `on_radio_disabled`, with the packet in the receive buffer and the pipe
it came on, if one came with a right CRC. -/
def onRadioDisabled (received : Option (Nat × Pdu)) : Driver :=
  match d.state, received with
  | .ptxTx, _ => d.onRadioDisabledTxNoack cfg
  | .ptxTxAck, _ => d.onRadioDisabledTx
  | .ptxRxAck, _ => d.onRadioDisabledTxWaitForAck cfg (received.map Prod.snd)
  | .prx, some (pipe, pdu) => d.onRadioDisabledRx cfg crc pipe pdu
  | .prxSendAck, _ => d.onRadioDisabledRxAck
  | _, _ => d

/-! ## Events -/

/-- `esb_evt_irq_handler`: the events given to the handler. -/
def esbEvtIrqHandler : Driver × List EsbEvtId :=
  ({ d with interruptFlags := {} },
    (if d.interruptFlags.txSuccess then [.txSuccess] else []) ++
      (if d.interruptFlags.txFailed then [.txFailed] else []) ++
      if d.interruptFlags.rxDataReceived then [.rxReceived] else [])

/-! ## The calls of the library -/

/-- `esb_disable` -/
def esbDisable : Driver :=
  { d with
    state := .idle
    initialized := false
    txFifo := d.txFifo.clear
    rxFifo := d.rxFifo.clear
    rxPipeInfo := fun _ => {}
    pids := fun _ => 0 }

/-- `esb_init` -/
def esbInit (esbCfg : EsbConfig) : Driver :=
  { d with
    esbCfg
    interruptFlags := {}
    rxPipeInfo := fun _ => {}
    pids := fun _ => 0
    txFifo := d.txFifo.clear
    rxFifo := d.rxFifo.clear
    ackPlWrap := {}
    state := .idle
    initialized := true }

/-- The checks of `esb_write_payload`, in its order. -/
def writeError (p : EsbPayload) : Option Errno :=
  if !d.initialized then some .eacces
  else if p.data.length = 0 ∨ cfg.esbMaxPayloadLength < p.data.length then some .emsgsize
  else if cfg.esbTxFifoSize ≤ d.txFifo.count then some .enomem
  else if cfg.esbPipeCount ≤ p.pipe then some .einval
  else none

/-- The packet id a payload gets. -/
def nextPid (pipe : Nat) : Nat := (d.pids pipe + 1) % (pidMax + 1)

/-- A payload as `esb_write_payload` stores it. -/
def stored (p : EsbPayload) : Slot := ⟨⟨p, d.written⟩, d.nextPid p.pipe⟩

/-- `esb_write_payload` in PTX mode, up to the start. -/
def enqueue (p : EsbPayload) : Driver :=
  { d with
    txFifo := d.txFifo.push cfg.esbTxFifoSize (d.stored p)
    pids := Function.update d.pids p.pipe (d.nextPid p.pipe)
    written := d.written + 1 }

/-- `esb_write_payload` in PRX mode. -/
def enqueueAck (p : EsbPayload) : Driver :=
  match d.ackPlWrap.findFree cfg.esbTxFifoSize with
  | none => d
  | some i =>
    { d with
      ackPlWrap := d.ackPlWrap.append cfg.esbTxFifoSize p.pipe i
      txFifo := { d.txFifo with
        slots := Function.update d.txFifo.slots i (d.stored p)
        count := d.txFifo.count + 1 }
      pids := Function.update d.pids p.pipe (d.nextPid p.pipe)
      written := d.written + 1 }

/-- Whether a write finds the radio ready to start. -/
def readyToStart : Bool :=
  d.state == .idle || (cfg.esbNeverDisableTx && d.state == .ptxTxidle)

/-- `esb_write_payload` -/
def esbWritePayload (p : EsbPayload) : Driver × Option Errno :=
  match d.writeError cfg p with
  | some err => (d, some err)
  | none =>
    match d.esbCfg.mode with
    | .ptx =>
      let d := d.enqueue cfg p
      (if d.readyToStart cfg then d.startTxTransaction else d, none)
    | .prx => (d.enqueueAck cfg p, none)

/-- `esb_read_rx_payload` -/
def esbReadRxPayload : Option (Slot × Driver) :=
  if !d.initialized then none
  else if d.rxFifo.count = 0 then none
  else some (d.rxFifo.peek, { d with rxFifo := d.rxFifo.pop cfg.esbRxFifoSize })

/-- `esb_flush_tx` -/
def esbFlushTx : Driver :=
  if d.initialized then { d with txFifo := d.txFifo.clear, ackPlWrap := {} } else d

/-- `esb_start_rx` -/
def esbStartRx : Driver × Option Errno :=
  if d.state ≠ .idle then (d, some .ebusy) else ({ d with state := .prx }, none)

/-- `esb_set_rf_channel`, with fast switching off. -/
def esbSetRfChannel (channel : UInt8) : Driver × Option Errno :=
  if 100 < channel then (d, some .einval)
  else if d.state != .idle && !cfg.esbFastChannelSwitching then (d, some .ebusy)
  else ({ d with rfChannel := channel }, none)

/-- `esb_set_retransmit_delay` -/
def esbSetRetransmitDelay (delay : Nat) : Driver × Option Errno :=
  if d.state != .idle then (d, some .ebusy)
  else if delay < 435 then (d, some .einval)
  else ({ d with esbCfg := { d.esbCfg with retransmitDelay := delay } }, none)

/-- `esb_set_retransmit_count` -/
def esbSetRetransmitCount (count : Nat) : Driver × Option Errno :=
  if d.state != .idle then (d, some .ebusy)
  else ({ d with esbCfg := { d.esbCfg with retransmitCount := count } }, none)

end Driver

/-! ## Steps -/

/-- A call of the library, or an interrupt. -/
inductive DriverOp
  | write (p : EsbPayload)
  | read
  | flushTx
  | setRfChannel (channel : UInt8)
  | setRetransmitDelay (delay : Nat)
  | setRetransmitCount (count : Nat)
  | startRx
  | disable
  | init (esbCfg : EsbConfig)
  /-- the radio's, when a packet has left or a window has ended -/
  | radio (received : Option (Nat × Pdu))
  /-- the one that hands events to the handler -/
  | evt

/-- What a step gives back. -/
inductive DriverOut
  | result (err : Option Errno)
  | payload (slot : Option Slot)
  | events (events : List EsbEvtId)

/-- The payload a step of the driver has accepted. -/
def DriverOp.accepted (d : Driver) : DriverOp → DriverOut → List Slot
  | .write p, .result none => [d.stored p]
  | _, _ => []

/-- The payload a step has read. -/
def DriverOut.read : DriverOut → List Slot
  | .payload slot => slot.toList
  | _ => []

def driverStep (cfg : Config) (crc : Nat → Nat → Bool → List UInt8 → UInt16) (d : Driver) :
    DriverOp → Driver × DriverOut
  | .write p => ((d.esbWritePayload cfg p).1, .result (d.esbWritePayload cfg p).2)
  | .read =>
    match d.esbReadRxPayload cfg with
    | none => (d, .payload none)
    | some (slot, d) => (d, .payload (some slot))
  | .flushTx => (d.esbFlushTx, .result (if d.initialized then none else some .eacces))
  | .setRfChannel channel =>
    ((d.esbSetRfChannel cfg channel).1, .result (d.esbSetRfChannel cfg channel).2)
  | .setRetransmitDelay delay =>
    ((d.esbSetRetransmitDelay delay).1, .result (d.esbSetRetransmitDelay delay).2)
  | .setRetransmitCount count =>
    ((d.esbSetRetransmitCount count).1, .result (d.esbSetRetransmitCount count).2)
  | .startRx => (d.esbStartRx.1, .result d.esbStartRx.2)
  | .disable => (d.esbDisable, .result none)
  | .init esbCfg => (d.esbInit esbCfg, .result none)
  | .radio received => (d.onRadioDisabled cfg crc received, .events [])
  | .evt => (d.esbEvtIrqHandler.1, .events d.esbEvtIrqHandler.2)

/-- A run, with what each step gave back. -/
def driverRun (cfg : Config) (crc : Nat → Nat → Bool → List UInt8 → UInt16) (d : Driver) :
    List DriverOp → Driver × List DriverOut
  | [] => (d, [])
  | op :: ops =>
    let (d, out) := driverStep cfg crc d op
    let (d, outs) := driverRun cfg crc d ops
    (d, out :: outs)

end EsbEndpoint
