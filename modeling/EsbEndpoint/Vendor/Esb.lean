import EsbEndpoint.Config
import EsbEndpoint.Protocol

/-!
# The vendored radio, as a transmitter

`vendor/nrf-esb/subsys/esb.c` in PTX mode with dynamic payload length and
automatic start. The FIFO is a list and a packet on the air is a copy of
its head, which is why a flush does not stop it. A transmission ends in
one of three ways (`TxOutcome`); what the radio then does to its FIFO and
which events it raises is `radioDone`. Retries between the first attempt
and the end leave no trace but their number.

`serial` and `written` are history: they number the accepted payloads, so
that two queued packets of equal bytes are still two packets.
-/

namespace EsbEndpoint

/-- `struct esb_payload`, with `length` the length of `data`. -/
structure EsbPayload where
  pipe : Nat
  noack : Bool
  data : List UInt8
  deriving DecidableEq

/-- A payload in the FIFO, with the number of its write. -/
structure Queued extends EsbPayload where
  serial : Nat
  deriving DecidableEq

/-- `esb_state`, with the packet on the air. `ptxTxAck` stands for both
`ESB_STATE_PTX_TX_ACK` and `ESB_STATE_PTX_RX_ACK`, and carries the
retransmissions the transmission was started with. -/
inductive EsbState
  | idle
  | ptxTx (q : Queued)
  | ptxTxAck (q : Queued) (retransmits : Nat)
  | ptxTxidle
  deriving DecidableEq

/-- The packet being transmitted. -/
def EsbState.onAir : EsbState → Option Queued
  | .ptxTx q => some q
  | .ptxTxAck q _ => some q
  | _ => none

structure Radio where
  initialized : Bool := false
  state : EsbState := .idle
  txFifo : List Queued := []
  rxFifo : List (List UInt8) := []
  /-- `esb_addr.rf_channel` -/
  rfChannel : UInt8 := 2
  retransmitCount : Nat := 0
  retransmitDelay : Nat := 0
  selectiveAutoAck : Bool := false
  lastTxAttempts : Nat := 0
  written : Nat := 0

inductive EsbEvtId
  | txSuccess
  | txFailed
  | rxReceived
  deriving DecidableEq

/-- How a transmission ends: a packet that asks for no ACK has left, an
ACK came back after some retries, with or without a payload in it, or the
retries ran out. -/
inductive TxOutcome
  | sent
  | acked (retries : Nat) (reply : List UInt8)
  | exhausted
  deriving DecidableEq

variable (cfg : Config) (r : Radio)

/-! ## Transmitting -/

def startTxTransaction : Radio :=
  match r.txFifo with
  | [] => r
  | q :: _ =>
    let ack := !q.noack || !r.selectiveAutoAck
    { r with
      lastTxAttempts := 1
      state := if ack then .ptxTxAck q r.retransmitCount else .ptxTx q }

def txFifoRemoveLast : Radio := { r with txFifo := r.txFifo.tail }

/-- After a packet has left the FIFO: start the next one, or settle. -/
def startNextOr (settled : EsbState) : Radio :=
  if r.txFifo.isEmpty then { r with state := settled } else startTxTransaction r

/-- `on_radio_end_tx_noack` or, with `ESB_NEVER_DISABLE_TX` off,
`on_radio_disabled_tx_noack`. -/
def onRadioEndTxNoack : Radio × List EsbEvtId :=
  (startNextOr (txFifoRemoveLast r) (if cfg.esbNeverDisableTx then .ptxTxidle else .idle),
    [.txSuccess])

/-- `rx_fifo_push_rfbuf`: the ACK's payload, if there is room for it. -/
def rxFifoPushRfbuf (data : List UInt8) : Option Radio :=
  if cfg.esbRxFifoSize ≤ r.rxFifo.length ∨ cfg.esbMaxPayloadLength < data.length then none
  else some { r with rxFifo := r.rxFifo ++ [data] }

/-- The branch of `on_radio_disabled_tx_wait_for_ack` that got an ACK
after `retries` of the `retransmits` it had. -/
def onAckReceived (retransmits retries : Nat) (reply : List UInt8) : Radio × List EsbEvtId :=
  let r := { r with lastTxAttempts := r.retransmitCount - (retransmits - retries) + 1 }
  let r := txFifoRemoveLast r
  match (if reply.isEmpty then none else rxFifoPushRfbuf cfg r reply) with
  | some r => (startNextOr r .idle, [.txSuccess, .rxReceived])
  | none => (startNextOr r .idle, [.txSuccess])

/-- The branch of `on_radio_disabled_tx_wait_for_ack` with every
retransmission expended: the FIFO keeps the packet and the radio halts. -/
def onRetransmitsExpended : Radio × List EsbEvtId :=
  ({ r with lastTxAttempts := r.retransmitCount + 1, state := .idle }, [.txFailed])

/-- **The end of a transmission**, where the radio is in one that can end
this way. -/
def radioDone (outcome : TxOutcome) : Option (Radio × List EsbEvtId) :=
  match r.state, outcome with
  | .ptxTx _, .sent => some (onRadioEndTxNoack cfg r)
  | .ptxTxAck _ retransmits, .acked retries reply =>
    if retries ≤ retransmits then some (onAckReceived cfg r retransmits retries reply) else none
  | .ptxTxAck _ _, .exhausted => some (onRetransmitsExpended r)
  | _, _ => none

/-! ## The calls of the library -/

def esbTxFull : Bool := cfg.esbTxFifoSize ≤ r.txFifo.length

/-- `esb_flush_tx`: the FIFO is emptied and the radio left as it is. -/
def esbFlushTx : Radio := if r.initialized then { r with txFifo := [] } else r

/-- Whether a write finds the radio ready to start. -/
def readyToStart : Bool :=
  r.state == .idle || (cfg.esbNeverDisableTx && r.state == .ptxTxidle)

/-- The checks of `esb_write_payload`, in its order. -/
def writeError (p : EsbPayload) : Option Errno :=
  if !r.initialized then some .eacces
  else if p.data.length = 0 ∨ cfg.esbMaxPayloadLength < p.data.length then some .emsgsize
  else if esbTxFull cfg r then some .enomem
  else if cfg.esbPipeCount ≤ p.pipe then some .einval
  else none

/-- The append of `esb_write_payload`. -/
def enqueue (p : EsbPayload) : Radio :=
  { r with txFifo := r.txFifo ++ [{ p with serial := r.written }], written := r.written + 1 }

/-- `esb_write_payload`. -/
def esbWritePayload (p : EsbPayload) : Radio × Option Errno :=
  match writeError cfg r p with
  | some err => (r, some err)
  | none =>
    let r := enqueue r p
    (if readyToStart cfg r then startTxTransaction r else r, none)

/-- `esb_read_rx_payload` -/
def esbReadRxPayload : Option (List UInt8 × Radio) :=
  if !r.initialized then none
  else match r.rxFifo with
    | [] => none
    | data :: rest => some (data, { r with rxFifo := rest })

/-- `esb_set_rf_channel`: with fast switching off it is refused unless
the radio is idle. -/
def esbSetRfChannel (channel : UInt8) : Radio × Option Errno :=
  if 100 < channel then (r, some .einval)
  else if r.state != .idle && !cfg.esbFastChannelSwitching then (r, some .ebusy)
  else ({ r with rfChannel := channel }, none)

/-- `esb_set_retransmit_delay` -/
def esbSetRetransmitDelay (delay : Nat) : Radio × Option Errno :=
  if r.state != .idle then (r, some .ebusy)
  else if delay < 435 then (r, some .einval)
  else ({ r with retransmitDelay := delay }, none)

/-- `esb_set_retransmit_count` -/
def esbSetRetransmitCount (count : Nat) : Radio × Option Errno :=
  if r.state != .idle then (r, some .ebusy) else ({ r with retransmitCount := count }, none)

/-- `esb_disable` -/
def esbDisable : Radio :=
  { r with state := .idle, initialized := false, txFifo := [], rxFifo := [] }

/-- `esb_init` with the configuration `esb_init_and_configure` builds. -/
def esbInit : Radio :=
  { r with
    initialized := true
    state := .idle
    txFifo := []
    rxFifo := []
    retransmitCount := cfg.retransmitCount
    retransmitDelay := cfg.retransmitDelayUs
    selectiveAutoAck := cfg.hidNoack }

/-! ## What a start does -/

variable {r}

/-- A start puts the head on the air and leaves the FIFO to its end. -/
theorem startTxTransaction_frame {q : Queued} {qs : List Queued} (h : r.txFifo = q :: qs) :
    ∃ (state : EsbState) (attempts : Nat),
      startTxTransaction r = { r with state, lastTxAttempts := attempts } ∧
        state.onAir = some q ∧ state ≠ .idle ∧ state ≠ .ptxTxidle := by
  simp only [startTxTransaction, h]
  refine ⟨_, 1, rfl, ?_⟩
  split
  · exact ⟨rfl, by simp, by simp⟩
  · exact ⟨rfl, by simp, by simp⟩

/-- A radio with a packet on the air is not ready. -/
theorem readyToStart_eq_false (hidle : r.state ≠ .idle) (htxidle : r.state ≠ .ptxTxidle) :
    readyToStart cfg r = false := by
  simp only [readyToStart, Bool.or_eq_false_iff, Bool.and_eq_false_iff, beq_eq_false_iff_ne]
  exact ⟨hidle, Or.inr htxidle⟩

/-- A payload has been accepted: what a write does to the radio. -/
structure Appended (payload : EsbPayload) (r r' : Radio) : Prop where
  initialized : r'.initialized = r.initialized
  written : r'.written = r.written + 1
  txFifo : r'.txFifo = r.txFifo ++ [{ payload with serial := r.written }]
  onAir : r'.state.onAir = if readyToStart cfg r then r'.txFifo.head? else r.state.onAir
  ready : readyToStart cfg r' = false

/-- **An accepted write** appends, and starts the head where the radio is
ready. -/
theorem esbWritePayload_appended {payload : EsbPayload} (h : writeError cfg r payload = none) :
    (esbWritePayload cfg r payload).2 = none ∧
      Appended cfg payload r (esbWritePayload cfg r payload).1 := by
  have hsame : readyToStart cfg (enqueue r payload) = readyToStart cfg r := rfl
  obtain ⟨q, qs, hfifo⟩ : ∃ q qs, (enqueue r payload).txFifo = q :: qs :=
    List.exists_cons_of_ne_nil (List.append_ne_nil_of_right_ne_nil _ (List.cons_ne_nil _ _))
  simp only [esbWritePayload, h, hsame, true_and]
  cases hready : readyToStart cfg r with
  | true =>
    obtain ⟨state, attempts, hstart, hq, hidle, htxidle⟩ := startTxTransaction_frame hfifo
    rw [if_pos rfl, hstart]
    refine ⟨rfl, rfl, rfl, ?_, readyToStart_eq_false cfg hidle htxidle⟩
    rw [hready, if_pos rfl, hq]
    exact (congrArg List.head? hfifo).symm
  | false =>
    rw [if_neg Bool.false_ne_true]
    refine ⟨rfl, rfl, rfl, ?_, hsame.trans hready⟩
    rw [hready, if_neg Bool.false_ne_true]
    rfl

/-- The head has left: what a successful end does to the radio. -/
structure HeadLeft (r r' : Radio) : Prop where
  initialized : r'.initialized = r.initialized
  written : r'.written = r.written
  txFifo : r'.txFifo = r.txFifo.tail
  onAir : r'.state.onAir = r.txFifo.tail.head?
  ready : readyToStart cfg r' = r.txFifo.tail.isEmpty

/-- The radio settles in a state it can start from, or starts the next
packet. -/
theorem startNextOr_headLeft {r₁ : Radio} {settled : EsbState}
    (hi : r₁.initialized = r.initialized) (hw : r₁.written = r.written)
    (hf : r₁.txFifo = r.txFifo.tail) (hon : settled.onAir = none)
    (hready : readyToStart cfg { r₁ with state := settled } = true) :
    HeadLeft cfg r (startNextOr r₁ settled) := by
  rw [startNextOr]
  cases hfifo : r₁.txFifo with
  | nil =>
    rw [List.isEmpty_nil, if_pos rfl]
    rw [hfifo] at hf
    exact ⟨hi, hw, hf, by rw [← hf]; exact hon, by rw [← hf]; exact hready⟩
  | cons q qs =>
    obtain ⟨state, attempts, hstart, hq, hidle, htxidle⟩ := startTxTransaction_frame hfifo
    rw [List.isEmpty_cons, if_neg Bool.false_ne_true, hstart]
    rw [hfifo] at hf
    exact ⟨hi, hw, hfifo.trans hf, by rw [← hf]; exact hq,
      by rw [← hf]; exact readyToStart_eq_false cfg hidle htxidle⟩

theorem rxFifoPushRfbuf_frame {r₁ : Radio} {reply : List UInt8}
    (h : (if reply.isEmpty then none else rxFifoPushRfbuf cfg r reply) = some r₁) :
    r₁.initialized = r.initialized ∧ r₁.written = r.written ∧ r₁.txFifo = r.txFifo ∧
      r₁.retransmitCount = r.retransmitCount := by
  split at h
  · exact absurd h (by simp)
  · rw [rxFifoPushRfbuf] at h
    split at h
    · exact absurd h (by simp)
    · obtain rfl := Option.some.inj h
      exact ⟨rfl, rfl, rfl, rfl⟩

/-- **How a transmission ends**, seen from the FIFO: a success takes the
head away and raises `TX_SUCCESS` first; running out of retries halts the
radio and takes nothing. -/
theorem radioDone_cases {outcome : TxOutcome} {r' : Radio} {events : List EsbEvtId}
    (h : radioDone cfg r outcome = some (r', events)) :
    (∃ q, r.state.onAir = some q ∧ outcome ≠ .exhausted ∧ HeadLeft cfg r r' ∧
        (events = [.txSuccess] ∨ events = [.txSuccess, .rxReceived])) ∨
      (∃ q, r.state.onAir = some q ∧ outcome = .exhausted ∧ events = [.txFailed] ∧
        r' = { r with lastTxAttempts := r.retransmitCount + 1, state := .idle }) := by
  have hidle : ∀ r₁ : Radio, readyToStart cfg { r₁ with state := .idle } = true := fun _ => rfl
  unfold radioDone at h
  split at h
  · rename_i q hstate
    obtain ⟨rfl, rfl⟩ : _ ∧ _ := by
      simpa only [onRadioEndTxNoack, Option.some.injEq, Prod.mk.injEq] using h
    refine Or.inl ⟨q, by rw [hstate]; rfl, by simp,
      startNextOr_headLeft cfg rfl rfl rfl ?_ ?_, Or.inl rfl⟩
    · split <;> rfl
    · cases hnever : cfg.esbNeverDisableTx <;> simp [readyToStart, hnever]
  · rename_i q n retries reply hstate
    split at h
    · rw [onAckReceived] at h
      split at h
      · rename_i r₁ hpush
        obtain ⟨rfl, rfl⟩ : _ ∧ _ := by simpa only [Option.some.injEq, Prod.mk.injEq] using h
        obtain ⟨hi, hw, hf, -⟩ := rxFifoPushRfbuf_frame cfg hpush
        exact Or.inl ⟨q, by rw [hstate]; rfl, by simp,
          startNextOr_headLeft cfg hi hw hf rfl (hidle _), Or.inr rfl⟩
      · obtain ⟨rfl, rfl⟩ : _ ∧ _ := by simpa only [Option.some.injEq, Prod.mk.injEq] using h
        exact Or.inl ⟨q, by rw [hstate]; rfl, by simp,
          startNextOr_headLeft cfg rfl rfl rfl rfl (hidle _), Or.inl rfl⟩
    · exact absurd h (by simp)
  · rename_i q n hstate
    obtain ⟨rfl, rfl⟩ : _ ∧ _ := by
      simpa only [onRetransmitsExpended, Option.some.injEq, Prod.mk.injEq] using h
    exact Or.inr ⟨q, by rw [hstate]; rfl, rfl, rfl, rfl⟩
  · exact absurd h (by simp)

end EsbEndpoint
