import EsbEndpoint.Transport.Events

/-!
# The transmit path

What the accounting results see of the endpoint: the radio's FIFO and the
packet on the air, and the motion statics. Everything else a send or an
event touches (counters, link quality, the hop manager, retransmit
settings) leaves the path alone, so each operation of the transport is
one of a handful of operations on paths: `flush`, `queue`, `advance`,
`halt` and the handler's `consume`.
-/

namespace EsbEndpoint

/-- The transmit path. -/
structure TxPath where
  now : UInt32
  syncing : Bool
  initialized : Bool
  /-- a write would start transmitting -/
  ready : Bool
  fifo : List Queued
  onAir : Option Queued
  written : Nat
  motion : Motion

variable (cfg : Config)

/-- The transmit path of an endpoint. -/
def Endpoint.path (e : Endpoint) : TxPath where
  now := e.now
  syncing := cfg.rendezvous && e.tp.syncTxInProgress
  initialized := e.radio.initialized
  ready := readyToStart cfg e.radio
  fifo := e.radio.txFifo
  onAir := e.radio.state.onAir
  written := e.radio.written
  motion := e.tp.motion

namespace TxPath

variable (p : TxPath)

/-- `esb_tx_full` -/
def full : Bool := cfg.esbTxFifoSize ≤ p.fifo.length

/-- `esb_flush_tx_and_reset`: the packet on the air stays there. -/
def flush : TxPath :=
  { p with fifo := if p.initialized then [] else p.fifo, motion := p.motion.flush }

/-- A change of the motion statics alone. -/
def withMotion (motion : Motion) : TxPath := { p with motion }

/-- A channel change, after its flush. -/
def dropRefund : TxPath := p.withMotion p.motion.dropRefund

/-- The motion statics and the payload a send ends up with. -/
def outgoing (pipe : Nat) (data : List UInt8) : Motion × EsbPayload :=
  let noack := sendNoack cfg pipe data
  if isMouseReport data then
    let (refund, body) := motionRefundApply cfg p.now p.motion.refund (mouseBodyOf data)
    let pointerOverride := !body.deltas.isZero && body.buttons == 0 && !noack
    (motionRingPush cfg (some body) pointerOverride { p.motion with refund },
      ⟨pipe, noack, putMouseBody body data⟩)
  else (motionRingPush cfg none false p.motion, ⟨pipe, noack, data⟩)

/-- What `esb_write_payload` refuses. -/
def refuses (payload : EsbPayload) : Option Errno :=
  if !p.initialized then some .eacces
  else if payload.data.length = 0 ∨ cfg.esbMaxPayloadLength < payload.data.length then
    some .emsgsize
  else if p.full cfg then some .enomem
  else if cfg.esbPipeCount ≤ payload.pipe then some .einval
  else none

/-- An accepted write: appended, and started where the radio is ready. -/
def put (payload : EsbPayload) : TxPath :=
  let fifo := p.fifo ++ [{ payload with serial := p.written }]
  { p with
    fifo
    written := p.written + 1
    ready := false
    onAir := if p.ready then fifo.head? else p.onAir }

/-- `esb_write_payload` -/
def tryPut (payload : EsbPayload) : TxPath × Option Errno :=
  match p.refuses cfg payload with
  | some err => (p, some err)
  | none => (p.put payload, none)

/-- A send that gets as far as the motion ring. -/
def queue (pipe : Nat) (data : List UInt8) : TxPath × Option Errno :=
  let (motion, payload) := p.outgoing cfg pipe data
  (p.withMotion motion).tryPut cfg payload

/-- A packet has left: the head goes, and the next starts. -/
def advance : TxPath :=
  { p with
    fifo := p.fifo.tail
    ready := p.fifo.tail.isEmpty
    onAir := p.fifo.tail.head? }

/-- The retries have run out: nothing leaves, and nothing is on the air. -/
def halt : TxPath := { p with ready := true, onAir := none }

/-- The handler's use of the motion ring. -/
def consume (failed : Bool) : TxPath :=
  p.withMotion (motionRingConsume cfg p.now failed p.motion).1

/-- `ESB_EVENT_TX_FAILED`, outside a side-trip. -/
def fail : TxPath :=
  let p := p.halt.consume cfg true
  if p.full cfg then p.flush else p

/-! ### A send, part by part -/

variable {cfg p} {pipe : Nat} {data : List UInt8}

theorem fifo_flush (h : p.initialized = true) : p.flush.fifo = [] := if_pos h

theorem outgoing_pipe : (p.outgoing cfg pipe data).2.pipe = pipe := by
  simp only [outgoing]
  split <;> rfl

theorem outgoing_noack : (p.outgoing cfg pipe data).2.noack = sendNoack cfg pipe data := by
  simp only [outgoing]
  split <;> rfl

theorem outgoing_length : (p.outgoing cfg pipe data).2.data.length = data.length := by
  simp only [outgoing]
  split
  · rename_i h
    exact length_putMouseBody h
  · rfl

/-- A send rewrites no packet but a mouse report, and of that only the
body. -/
theorem outgoing_data : pktType (p.outgoing cfg pipe data).2.data = pktType data ∧
    (isMouseReport data = false → (p.outgoing cfg pipe data).2.data = data) := by
  simp only [outgoing]
  split
  · rename_i h
    obtain ⟨a, b, rest, rfl⟩ := exists_of_isMouseReport h
    exact ⟨rfl, fun hnot => absurd (h.symm.trans hnot) (by simp)⟩
  · exact ⟨rfl, fun _ => rfl⟩

/-- A queued send whose write is taken. -/
theorem queue_accepted (h : (p.queue cfg pipe data).2 = none) :
    (p.queue cfg pipe data).1 =
      (p.withMotion (p.outgoing cfg pipe data).1).put (p.outgoing cfg pipe data).2 := by
  simp only [queue, tryPut] at h ⊢
  split at h
  · exact absurd h (by simp)
  · rfl

/-- A queued send whose write is refused: the motion ring has been pushed
all the same. -/
theorem queue_refused (h : (p.queue cfg pipe data).2 ≠ none) :
    (p.queue cfg pipe data).1 = p.withMotion (p.outgoing cfg pipe data).1 := by
  simp only [queue, tryPut] at h ⊢
  split at h
  · rfl
  · exact absurd rfl h

/-- What `esb_write_payload` takes from a send. -/
theorem queue_eq_none_iff (hi : p.initialized = true)
    (hlen : data.length ≤ cfg.esbMaxPayloadLength) :
    (p.queue cfg pipe data).2 = none ↔
      data ≠ [] ∧ p.full cfg = false ∧ pipe < cfg.esbPipeCount := by
  have hrefuses : (p.queue cfg pipe data).2 =
      (p.withMotion (p.outgoing cfg pipe data).1).refuses cfg (p.outgoing cfg pipe data).2 := by
    simp only [queue, tryPut]
    split
    · rename_i heq
      exact heq.symm
    · rename_i heq
      exact heq.symm
  rw [hrefuses]
  simp only [refuses, full, withMotion, hi, Bool.not_true, Bool.false_eq_true, if_false,
    outgoing_length, outgoing_pipe, List.length_eq_zero_iff, decide_eq_true_eq,
    decide_eq_false_iff_not]
  by_cases hnil : data = []
  · simp only [hnil, true_or, if_true, reduceCtorEq, ne_eq, not_true_eq_false, false_and]
  · rw [if_neg (not_or.2 ⟨hnil, Nat.not_lt.2 hlen⟩)]
    by_cases hfull : cfg.esbTxFifoSize ≤ p.fifo.length
    · simp only [hfull, if_true, reduceCtorEq, not_true_eq_false, false_and, and_false]
    · rw [if_neg hfull]
      by_cases hpipe : cfg.esbPipeCount ≤ pipe
      · simp only [hpipe, if_true, reduceCtorEq, Nat.not_lt.2 hpipe, and_false]
      · rw [if_neg hpipe]
        exact iff_of_true rfl ⟨hnil, hfull, Nat.lt_of_not_le hpipe⟩

end TxPath

variable (e : Endpoint)

/-! ## What leaves the path alone -/

section Frame

theorem esbSetRetransmitDelay_frame (r : Radio) (d : Nat) :
    ∃ d', (esbSetRetransmitDelay r d).1 = { r with retransmitDelay := d' } := by
  rw [esbSetRetransmitDelay]
  split
  · exact ⟨r.retransmitDelay, rfl⟩
  · split
    · exact ⟨r.retransmitDelay, rfl⟩
    · exact ⟨d, rfl⟩

theorem esbSetRetransmitCount_frame (r : Radio) (n : Nat) :
    ∃ n', (esbSetRetransmitCount r n).1 = { r with retransmitCount := n' } := by
  rw [esbSetRetransmitCount]
  split
  · exact ⟨r.retransmitCount, rfl⟩
  · exact ⟨n, rfl⟩

theorem path_mapRadio_eq {f : Radio → Radio}
    (h : (f e.radio).initialized = e.radio.initialized ∧ (f e.radio).state = e.radio.state ∧
      (f e.radio).txFifo = e.radio.txFifo ∧ (f e.radio).written = e.radio.written) :
    (e.mapRadio f).path cfg = e.path cfg := by
  obtain ⟨hi, hs, hf, hw⟩ := h
  simp only [Endpoint.path, Endpoint.mapRadio_radio, Endpoint.mapRadio_tp, Endpoint.mapRadio_now,
    readyToStart, hi, hs, hf, hw]

theorem path_mapTp_eq {f : Transport → Transport}
    (h : (f e.tp).syncTxInProgress = e.tp.syncTxInProgress ∧ (f e.tp).motion = e.tp.motion) :
    (e.mapTp f).path cfg = e.path cfg := by
  simp only [Endpoint.path, Endpoint.mapTp_radio, Endpoint.mapTp_tp, Endpoint.mapTp_now, h.1, h.2]

@[simp] theorem path_mapHop (f : HopEp → HopEp) : (e.mapHop f).path cfg = e.path cfg := rfl

@[simp] theorem path_mapShell (f : ShellRelay → ShellRelay) :
    (e.mapShell f).path cfg = e.path cfg := rfl

@[simp] theorem path_noteHanded (pipe : Nat) (data : List UInt8) :
    (noteHanded e pipe data).path cfg = e.path cfg := rfl

@[simp] theorem path_jitterRetransmitDelay :
    (jitterRetransmitDelay cfg e).path cfg = e.path cfg := by
  rw [jitterRetransmitDelay, path_mapRadio_eq, path_mapTp_eq]
  · exact ⟨rfl, rfl⟩
  · obtain ⟨d', hd'⟩ := esbSetRetransmitDelay_frame e.radio
      (jitteredRetransmitDelay cfg e.now e.tp.jitterRng).1
    rw [Endpoint.mapTp_radio, hd']
    exact ⟨rfl, rfl, rfl, rfl⟩

@[simp] theorem path_trySetRetransmitCount (n : Nat) :
    (trySetRetransmitCount e n).path cfg = e.path cfg := by
  obtain ⟨n', hn'⟩ := esbSetRetransmitCount_frame e.radio n
  rw [trySetRetransmitCount, path_mapRadio_eq]
  rw [hn']
  exact ⟨rfl, rfl, rfl, rfl⟩

@[simp] theorem path_restoreRetransmitCount :
    (restoreRetransmitCount cfg e).path cfg = e.path cfg := by
  rw [restoreRetransmitCount, path_trySetRetransmitCount]

@[simp] theorem path_endQuietWindow : (endQuietWindow cfg e).path cfg = e.path cfg := by
  rw [endQuietWindow]
  split <;> rfl

@[simp] theorem path_pushNoack (noack : Bool) : (pushNoack cfg e noack).path cfg = e.path cfg := by
  rw [pushNoack]
  split <;> rfl

theorem countHidTx_frame (now : UInt32) (tp : Transport) :
    (countHidTx now tp).syncTxInProgress = tp.syncTxInProgress ∧
      (countHidTx now tp).motion = tp.motion := by
  simp only [countHidTx]
  split
  · exact ⟨rfl, rfl⟩
  · split <;> exact ⟨rfl, rfl⟩

@[simp] theorem path_noteSend (data : List UInt8) :
    (noteSend cfg e data).path cfg = e.path cfg := by
  have hact :
      (if isType esbPktShellBgPoll data then e else noteActivity e).path cfg = e.path cfg := by
    split <;> rfl
  simp only [noteSend]
  generalize (if isType esbPktShellBgPoll data then e else noteActivity e) = e₁ at hact ⊢
  have hhid : (if isType esbPktHidReport data then e₁.mapTp (countHidTx e₁.now) else e₁).path cfg =
      e₁.path cfg := by
    split
    · exact path_mapTp_eq cfg e₁ (countHidTx_frame _ _)
    · rfl
  generalize (if isType esbPktHidReport data then e₁.mapTp (countHidTx e₁.now) else e₁) = e₂
    at hhid ⊢
  split
  · rw [path_mapHop, hhid, hact]
  · rw [hhid, hact]

@[simp] theorem path_overrideCritical (data : List UInt8) :
    (overrideCritical cfg e data).path cfg = e.path cfg := by
  simp only [overrideCritical]
  split
  · rfl
  · split
    · rw [path_trySetRetransmitCount]
      rfl
    · rfl

theorem linkQualityRecord_frame (n : UInt8) (retryBit : Bool) (tp : Transport) :
    (linkQualityRecord cfg n retryBit tp).syncTxInProgress = tp.syncTxInProgress ∧
      (linkQualityRecord cfg n retryBit tp).motion = tp.motion :=
  ⟨rfl, rfl⟩

theorem consumeRecentNoack_frame (tp : Transport) :
    (consumeRecentNoack cfg tp).1.syncTxInProgress = tp.syncTxInProgress ∧
      (consumeRecentNoack cfg tp).1.motion = tp.motion := by
  rw [consumeRecentNoack]
  split <;> exact ⟨rfl, rfl⟩

theorem consumeRecentOverride_frame (tp : Transport) :
    (consumeRecentOverride cfg tp).1.syncTxInProgress = tp.syncTxInProgress ∧
      (consumeRecentOverride cfg tp).1.motion = tp.motion := by
  rw [consumeRecentOverride]
  split <;> exact ⟨rfl, rfl⟩

@[simp] theorem path_finishCritical : (finishCritical cfg e).path cfg = e.path cfg := by
  have htp : (e.mapTp fun _ => (consumeRecentOverride cfg e.tp).1).path cfg = e.path cfg :=
    path_mapTp_eq cfg e (consumeRecentOverride_frame cfg e.tp)
  simp only [finishCritical]
  split
  · rfl
  · split
    · rw [path_restoreRetransmitCount, htp]
    · exact htp

@[simp] theorem path_checkLinkDegraded : (checkLinkDegraded cfg e).path cfg = e.path cfg := by
  rw [checkLinkDegraded]
  split
  · rfl
  · split
    · split <;> rfl
    · split <;> rfl

@[simp] theorem path_recordSuccess (n : Nat) : (recordSuccess cfg e n).path cfg = e.path cfg := by
  have htp : (e.mapTp fun _ => (consumeRecentNoack cfg e.tp).1).path cfg = e.path cfg :=
    path_mapTp_eq cfg e (consumeRecentNoack_frame cfg e.tp)
  simp only [recordSuccess]
  split
  · exact htp
  · rw [path_checkLinkDegraded, path_mapTp_eq cfg _ (linkQualityRecord_frame cfg _ _ _), htp]

@[simp] theorem path_hopOnSuccess (n : Nat) : (hopOnSuccess cfg e n).path cfg = e.path cfg := by
  rw [hopOnSuccess]
  split
  · rfl
  · rw [path_recordSuccess]
    rfl

@[simp] theorem path_checkFailWindow : (checkFailWindow cfg e).path cfg = e.path cfg := by
  rw [checkFailWindow]
  split
  · exact path_mapTp_eq cfg e ⟨rfl, rfl⟩
  · split <;> rfl

@[simp] theorem path_checkWeakLink : (checkWeakLink cfg e).path cfg = e.path cfg := by
  rw [checkWeakLink]
  split <;> rfl

@[simp] theorem path_hopOnFailure : (hopOnFailure cfg e).path cfg = e.path cfg := by
  rw [hopOnFailure]
  split
  · rfl
  · rw [path_mapTp_eq cfg _ (consumeRecentNoack_frame cfg _), path_checkWeakLink,
      path_checkFailWindow]

end Frame

/-! ## What moves the path -/

/-- **A flush of the endpoint is a flush of its path.** -/
@[simp] theorem path_esbFlushTxAndReset :
    (esbFlushTxAndReset cfg e).path cfg = (e.path cfg).flush := by
  simp only [esbFlushTxAndReset, path_restoreRetransmitCount]
  simp only [Endpoint.path, TxPath.flush, Endpoint.mapMotion, Endpoint.mapTp, Endpoint.mapRadio,
    Endpoint.now, esbFlushTx]
  split
  · rename_i h
    simp only [h, readyToStart, if_true]
  · rename_i h
    simp only [h, if_false, Bool.false_eq_true]

/-- It leaves the radio in its state, and on its channel. -/
theorem esbFlushTxAndReset_radio :
    (esbFlushTxAndReset cfg e).radio.state = e.radio.state ∧
      (esbFlushTxAndReset cfg e).radio.rfChannel = e.radio.rfChannel := by
  simp only [esbFlushTxAndReset, restoreRetransmitCount, trySetRetransmitCount,
    Endpoint.mapRadio_radio, esbSetRetransmitCount, Endpoint.mapMotion_radio,
    Endpoint.mapTp_radio, esbFlushTx]
  split <;> split <;> exact ⟨rfl, rfl⟩

@[simp] theorem path_finishMotion (failed : Bool) :
    (finishMotion cfg e failed).path cfg = (e.path cfg).consume cfg failed := by
  simp only [finishMotion]
  split
  · rw [path_restoreRetransmitCount]
    rfl
  · rfl

theorem path_onTxSuccess (n : Nat) :
    (onTxSuccess cfg e n).path cfg = (e.path cfg).consume cfg false := by
  simp only [onTxSuccess, path_finishMotion, path_finishCritical]
  congr 1
  split
  · rw [esbShellRelayNotifyTx, path_mapShell, path_hopOnSuccess]
    rfl
  · rw [path_hopOnSuccess]
    rfl

theorem path_full : esbTxFull cfg e.radio = (e.path cfg).full cfg := rfl

theorem path_onTxFailed :
    (onTxFailed cfg e).path cfg =
      (let p := (e.path cfg).consume cfg true
      if p.full cfg then p.flush else p) := by
  have hpath : (finishMotion cfg (finishCritical cfg (hopOnFailure cfg (e.mapTp fun tp =>
      { tp with
        txFailCount := tp.txFailCount + 1
        txExhaustedCount := tp.txExhaustedCount + 1
        consecutiveTxFail := tp.consecutiveTxFail + 1 }))) true).path cfg =
      (e.path cfg).consume cfg true := by
    rw [path_finishMotion, path_finishCritical, path_hopOnFailure]
    rfl
  simp only [onTxFailed, path_full, hpath]
  split
  · rw [path_esbFlushTxAndReset, hpath]
  · exact hpath

/-! ### Sending -/

/-- A send that is neither too long nor dropped. -/
def sendReaches (data : List UInt8) : Bool :=
  data.length ≤ cfg.esbMaxPayloadLength && !(cfg.rendezvous && e.tp.syncTxInProgress) &&
    !(cfg.channelHop && inQuietWindow e)

/-- A send that flushes the FIFO first. -/
def sendFlushes (data : List UInt8) : Bool :=
  sendReaches cfg e data && esbTxFull cfg e.radio && !isShell data

/-- A send that gets as far as the per-send rings. -/
def sendQueues (data : List UInt8) : Bool :=
  sendReaches cfg e data && !(esbTxFull cfg e.radio && isShell data)

/-- The path after the radio alone has changed. -/
theorem path_mapRadio_const (r : Radio) :
    (e.mapRadio fun _ => r).path cfg =
      { e.path cfg with
        initialized := r.initialized
        ready := readyToStart cfg r
        fifo := r.txFifo
        onAir := r.state.onAir
        written := r.written } := rfl

theorem path_mapMotion (f : Motion → Motion) :
    (e.mapMotion f).path cfg = { e.path cfg with motion := f (e.path cfg).motion } := rfl

theorem path_appended {payload : EsbPayload} {r : Radio} (h : Appended cfg payload e.radio r) :
    (e.mapRadio fun _ => r).path cfg = (e.path cfg).put payload := by
  rw [path_mapRadio_const, h.initialized, h.ready, h.onAir, h.written, h.txFifo]
  rfl

theorem path_headLeft {r : Radio} (h : HeadLeft cfg e.radio r) :
    (e.mapRadio fun _ => r).path cfg = (e.path cfg).advance := by
  rw [path_mapRadio_const, h.initialized, h.ready, h.onAir, h.written, h.txFifo]
  rfl

theorem path_writeOut (payload : EsbPayload) :
    ((writeOut cfg e payload).1.path cfg, (writeOut cfg e payload).2) =
      (e.path cfg).tryPut cfg payload := by
  have hrefuses : writeError cfg e.radio payload = (e.path cfg).refuses cfg payload := rfl
  rw [TxPath.tryPut, ← hrefuses]
  cases h : writeError cfg e.radio payload with
  | some err =>
    simp only [writeOut, esbWritePayload, h]
    rfl
  | none =>
    obtain ⟨hok, happ⟩ := esbWritePayload_appended cfg h
    simp only [writeOut]
    rw [path_appended cfg e happ, hok]

theorem path_sendMotion (pipe : Nat) (data : List UInt8) :
    ((sendMotion cfg e pipe (sendNoack cfg pipe data) data).1.path cfg,
        (sendMotion cfg e pipe (sendNoack cfg pipe data) data).2) =
      (e.path cfg).queue cfg pipe data := by
  simp only [sendMotion, TxPath.queue, TxPath.outgoing]
  split
  · rw [path_writeOut]
    congr 1
    split
    · rw [path_mapMotion, path_trySetRetransmitCount, path_mapMotion]
      rfl
    · rfl
  · rw [path_writeOut]
    rfl

theorem path_sendQueued (pipe : Nat) (data : List UInt8) :
    ((sendQueued cfg e pipe data).1.path cfg, (sendQueued cfg e pipe data).2) =
      (e.path cfg).queue cfg pipe data := by
  simp only [sendQueued]
  rw [path_sendMotion, path_overrideCritical, path_noteSend, path_pushNoack]

/-- What a send returns without touching the path. -/
def sendRefusal (data : List UInt8) : Option Errno :=
  if cfg.esbMaxPayloadLength < data.length then some .emsgsize
  else if sendReaches cfg e data then some .enomem
  else none

/-- A send that queues flushes a full FIFO, and goes through its rings. -/
theorem esbTransportSend_of_queues {pipe : Nat} {data : List UInt8}
    (h : sendQueues cfg e data = true) :
    esbTransportSend cfg e pipe data =
      sendQueued cfg
        (if sendFlushes cfg e data then
          esbFlushTxAndReset cfg
            (endQuietWindow cfg (jitterRetransmitDelay cfg (noteHanded e pipe data)))
        else endQuietWindow cfg (jitterRetransmitDelay cfg (noteHanded e pipe data)))
        pipe data := by
  have hsync : (noteHanded e pipe data).tp = e.tp := rfl
  have hquiet : inQuietWindow (jitterRetransmitDelay cfg (noteHanded e pipe data)) =
      inQuietWindow e := rfl
  have hfull : esbTxFull cfg
        (endQuietWindow cfg (jitterRetransmitDelay cfg (noteHanded e pipe data))).radio =
      esbTxFull cfg e.radio := by
    rw [path_full, path_full, path_endQuietWindow, path_jitterRetransmitDelay, path_noteHanded]
  simp only [sendQueues, sendReaches, Bool.and_eq_true, Bool.not_eq_true', decide_eq_true_eq] at h
  obtain ⟨⟨⟨hlen, hnosync⟩, hnoquiet⟩, hshell⟩ := h
  simp only [esbTransportSend, hsync, hquiet, hfull, sendFlushes, sendReaches, hnosync, hnoquiet,
    Nat.not_lt.2 hlen, hlen, decide_true, Bool.not_false, Bool.and_self, Bool.true_and, if_false,
    Bool.false_eq_true]
  cases hf : esbTxFull cfg e.radio with
  | false => simp only [Bool.false_and, Bool.false_eq_true, if_false]
  | true =>
    rw [hf, Bool.true_and] at hshell
    simp only [hshell, Bool.not_false, Bool.and_self, Bool.false_eq_true, if_false, if_true]

/-- One that does not has at most drawn its jitter and ended the quiet
window. -/
theorem esbTransportSend_of_not_queues {pipe : Nat} {data : List UInt8}
    (h : sendQueues cfg e data = false) :
    ∃ e', esbTransportSend cfg e pipe data = (e', sendRefusal cfg e data) ∧
      (e' = noteHanded e pipe data ∨ e' = jitterRetransmitDelay cfg (noteHanded e pipe data) ∨
        e' = endQuietWindow cfg (jitterRetransmitDelay cfg (noteHanded e pipe data))) := by
  have hsync : (noteHanded e pipe data).tp = e.tp := rfl
  have hquiet : inQuietWindow (jitterRetransmitDelay cfg (noteHanded e pipe data)) =
      inQuietWindow e := rfl
  have hfull : esbTxFull cfg
        (endQuietWindow cfg (jitterRetransmitDelay cfg (noteHanded e pipe data))).radio =
      esbTxFull cfg e.radio := by
    rw [path_full, path_full, path_endQuietWindow, path_jitterRetransmitDelay, path_noteHanded]
  simp only [esbTransportSend, hsync, hquiet, hfull, sendRefusal]
  split
  · exact ⟨_, rfl, Or.inl rfl⟩
  · rename_i hlen
    have hle : data.length ≤ cfg.esbMaxPayloadLength := Nat.not_lt.1 hlen
    split
    · rename_i hbusy
      refine ⟨_, ?_, Or.inl rfl⟩
      simp only [sendReaches, hbusy, Bool.not_true, Bool.and_false, Bool.false_and,
        Bool.false_eq_true, if_false]
    · rename_i hnosync
      rw [Bool.not_eq_true] at hnosync
      split
      · rename_i hopen
        refine ⟨_, ?_, Or.inr (Or.inl rfl)⟩
        simp only [sendReaches, hopen, Bool.not_true, Bool.and_false, Bool.false_eq_true, if_false]
      · rename_i hshut
        rw [Bool.not_eq_true] at hshut
        have hreach : sendReaches cfg e data = true := by
          simp only [sendReaches, decide_eq_true hle, hnosync, hshut, Bool.not_false, Bool.and_self]
        -- all that is left is a shell packet and a full FIFO
        rw [sendQueues, hreach, Bool.true_and, Bool.not_eq_false', Bool.and_eq_true] at h
        rw [if_pos h.1, if_pos h.2, if_pos hreach]
        exact ⟨_, rfl, Or.inr (Or.inr rfl)⟩

/-- **A send of the endpoint, on its path**: refused or dropped, or
queued after a flush where the FIFO is full. -/
theorem path_esbTransportSend (pipe : Nat) (data : List UInt8) :
    ((esbTransportSend cfg e pipe data).1.path cfg, (esbTransportSend cfg e pipe data).2) =
      if sendQueues cfg e data then
        (if sendFlushes cfg e data then (e.path cfg).flush else e.path cfg).queue cfg pipe data
      else (e.path cfg, sendRefusal cfg e data) := by
  have hclear : (endQuietWindow cfg (jitterRetransmitDelay cfg (noteHanded e pipe data))).path cfg =
      e.path cfg := by
    rw [path_endQuietWindow, path_jitterRetransmitDelay, path_noteHanded]
  cases hq : sendQueues cfg e data with
  | true =>
    rw [if_pos rfl, esbTransportSend_of_queues cfg e hq, path_sendQueued]
    split
    · rw [path_esbFlushTxAndReset, hclear]
    · rw [hclear]
  | false =>
    rw [if_neg Bool.false_ne_true]
    obtain ⟨e', hsend, rfl | rfl | rfl⟩ := @esbTransportSend_of_not_queues cfg e pipe data hq
    · rw [hsend, path_noteHanded]
    · rw [hsend, path_jitterRetransmitDelay, path_noteHanded]
    · rw [hsend, hclear]

theorem esbSetRfChannel_frame {r r' : Radio} {channel : UInt8}
    (h : esbSetRfChannel cfg r channel = (r', none)) : r' = { r with rfChannel := channel } := by
  rw [esbSetRfChannel] at h
  split at h
  · exact absurd (congrArg Prod.snd h) (by simp)
  · split at h
    · exact absurd (congrArg Prod.snd h) (by simp)
    · exact (congrArg Prod.fst h).symm

/-- **A channel change of the endpoint, on its path.** -/
theorem path_esbTransportSetChannel (channel : UInt8) :
    (esbTransportSetChannel cfg e channel).1.path cfg =
      if !e.tp.configured then e.path cfg
      else if (esbTransportSetChannel cfg e channel).2 = none ∧ cfg.channelHop then
        (e.path cfg).flush.dropRefund
      else (e.path cfg).flush := by
  rw [esbTransportSetChannel]
  cases hconf : e.tp.configured with
  | false => rfl
  | true =>
  simp only [Bool.not_true, Bool.false_eq_true, if_false]
  cases hset : esbSetRfChannel cfg (esbFlushTxAndReset cfg e).radio channel with
  | mk r err =>
  cases err with
  | some err => exact path_esbFlushTxAndReset cfg e
  | none =>
    obtain rfl := esbSetRfChannel_frame cfg hset
    have hflush := path_esbFlushTxAndReset cfg e
    generalize esbFlushTxAndReset cfg e = e₁ at hflush
    cases hhop : cfg.channelHop with
    | true =>
      simp only [true_and, if_true, ← hflush]
      simp only [Endpoint.path, Endpoint.mapTp, Endpoint.mapRadio, Endpoint.now, onNewChannel, hhop,
        Bool.not_true, Bool.false_eq_true, if_false, readyToStart, TxPath.dropRefund,
        TxPath.withMotion]
    | false =>
      simp only [true_and, Bool.false_eq_true, if_false, ← hflush]
      simp only [Endpoint.path, Endpoint.mapTp, Endpoint.mapRadio, Endpoint.now, onNewChannel, hhop,
        Bool.not_false, if_true, readyToStart]

/-! ### Events -/

theorem path_onRxReceived : (onRxReceived cfg e).path cfg = e.path cfg := by
  have hframe : ∀ (fifo : List (List UInt8)) (tp : Transport),
      (fifo.foldl (takeRxPayload cfg) tp).syncTxInProgress = tp.syncTxInProgress ∧
        (fifo.foldl (takeRxPayload cfg) tp).motion = tp.motion := by
    intro fifo
    induction fifo with
    | nil => exact fun tp => ⟨rfl, rfl⟩
    | cons data fifo ih =>
      intro tp
      obtain ⟨hsync, hmotion⟩ := ih (takeRxPayload cfg tp data)
      rw [List.foldl_cons, hsync, hmotion, takeRxPayload]
      split <;> exact ⟨rfl, rfl⟩
  rw [onRxReceived]
  split
  · rfl
  · rw [path_mapRadio_eq]
    · exact path_mapTp_eq cfg e (hframe _ _)
    · exact ⟨rfl, rfl, rfl, rfl⟩

/-- Outside a side-trip the handler of `TX_SUCCESS` pops the motion ring. -/
theorem path_evtCb_txSuccess (n : Nat) (h : (e.path cfg).syncing = false) :
    (zmkEsbTransportEvtCb cfg e .txSuccess n).path cfg = (e.path cfg).consume cfg false := by
  have hsync : (cfg.rendezvous && e.tp.syncTxInProgress) = false := h
  simp only [zmkEsbTransportEvtCb, Endpoint.mapTp_tp, hsync, Bool.false_eq_true, if_false]
  exact path_onTxSuccess cfg _ n

/-- And the handler of `TX_FAILED` also flushes a full FIFO. -/
theorem path_evtCb_txFailed (n : Nat) (h : (e.path cfg).syncing = false) :
    (zmkEsbTransportEvtCb cfg e .txFailed n).path cfg =
      (let p := (e.path cfg).consume cfg true
      if p.full cfg then p.flush else p) := by
  have hsync : (cfg.rendezvous && e.tp.syncTxInProgress) = false := h
  simp only [zmkEsbTransportEvtCb, Endpoint.mapTp_tp, hsync, Bool.false_eq_true, if_false]
  exact path_onTxFailed cfg _

/-- Whether the transmission going on can end this way. -/
def canEnd (outcome : TxOutcome) : Bool := (radioDone cfg e.radio outcome).isSome

/-- **The end of a transmission, on its path**, outside a side-trip: the
FIFO advances and the ring is popped, or the radio halts and the ring is
popped all the same. -/
theorem path_txDone (outcome : TxOutcome) (h : (e.path cfg).syncing = false) :
    (txDone cfg e outcome).path cfg =
      if canEnd cfg e outcome then
        if outcome = .exhausted then (e.path cfg).fail cfg
        else (e.path cfg).advance.consume cfg false
      else e.path cfg := by
  rw [txDone, canEnd]
  cases hdone : radioDone cfg e.radio outcome with
  | none => rfl
  | some out =>
  obtain ⟨r, events⟩ := out
  rw [Option.isSome_some, if_pos rfl]
  rcases radioDone_cases cfg hdone with
    ⟨q, -, hout, hleft, hevents⟩ | ⟨q, -, rfl, rfl, rfl⟩
  · rw [if_neg hout, ← path_headLeft cfg e hleft]
    rcases hevents with rfl | rfl
    · exact path_evtCb_txSuccess cfg _ _ h
    · exact (path_onRxReceived cfg _).trans (path_evtCb_txSuccess cfg _ _ h)
  · rw [if_pos rfl]
    exact path_evtCb_txFailed cfg _ (e.radio.retransmitCount + 1) h

/-- What is on the air when a transmission ends. -/
theorem onAir_of_canEnd {outcome : TxOutcome} (h : canEnd cfg e outcome = true) :
    ∃ q, (e.path cfg).onAir = some q := by
  obtain ⟨⟨r, events⟩, hdone⟩ := Option.isSome_iff_exists.1 h
  rcases radioDone_cases cfg hdone with ⟨q, hq, -⟩ | ⟨q, hq, -⟩
  · exact ⟨q, hq⟩
  · exact ⟨q, hq⟩

/-- A packet on the air can end. -/
theorem exists_canEnd {q : Queued} (hair : e.radio.state.onAir = some q) :
    ∃ outcome, canEnd cfg e outcome = true := by
  cases hstate : e.radio.state with
  | ptxTx q =>
    refine ⟨.sent, ?_⟩
    simp only [canEnd, radioDone, hstate, Option.isSome_some]
  | ptxTxAck q retransmits =>
    refine ⟨.acked 0 [], ?_⟩
    simp only [canEnd, radioDone, hstate, Nat.zero_le, if_true, Option.isSome_some]
  | idle => exact absurd (hstate ▸ hair) (by simp [EsbState.onAir])
  | ptxTxidle => exact absurd (hstate ▸ hair) (by simp [EsbState.onAir])

end EsbEndpoint
