import EsbEndpoint.Transport.Atomic
import EsbEndpoint.Transport.Flags

/-!
# A flush with a packet on the air

`esb_flush_tx` empties the FIFO and leaves the transmission going on to
end as it may. The rings are reset with the FIFO, on the ground that what
is dropped has no event to come; the packet on the air has. When it ends,
the radio removes the head of the FIFO and the handler pops the rings, and
by then both may be those of the next send (`flushSparesNext_iff`).
-/

namespace EsbEndpoint

variable (cfg : Config) (e : Endpoint) (pipe : Nat) (data : List UInt8)

/-- The end of the transmission going on leaves what is queued, and the
slots of the rings. -/
structure SparesQueued (outcome : TxOutcome) : Prop where
  fifo : ∀ q ∈ e.radio.txFifo, q ∈ (txDone cfg e outcome).radio.txFifo
  noack : (txDone cfg e outcome).tp.recentNoack = e.tp.recentNoack
  critical : (txDone cfg e outcome).tp.recentCritical = e.tp.recentCritical
  motion : (txDone cfg e outcome).tp.motion.recent = e.tp.motion.recent

/-- The state after a flush and one further send. -/
def flushedSend : Endpoint := (esbTransportSend cfg (esbFlushTxAndReset cfg e) pipe data).1

/-- **A flush spares the next send**: where the radio has taken a packet
since, the end of the transmission that was going on at the flush takes
neither that packet nor its slots. -/
def FlushSparesNext : Prop :=
  (flushedSend cfg e pipe data).radio.written ≠ e.radio.written →
    ∀ outcome, canEnd cfg (flushedSend cfg e pipe data) outcome = true →
      SparesQueued cfg (flushedSend cfg e pipe data) outcome

/-- The radio is given a packet, and takes it. -/
def SendWrites : Prop :=
  sendReaches cfg e data = true ∧ e.radio.initialized = true ∧ data ≠ [] ∧ pipe < cfg.esbPipeCount

variable {cfg e pipe data}

/-! ## What the send leaves -/

/-- One packet is queued, and the rings hold its slots alone. -/
structure Fresh (cfg : Config) (e : Endpoint) (q : Queued) : Prop where
  syncing : (e.path cfg).syncing = false
  fifo : e.radio.txFifo = [q]
  motion : e.tp.motion.recent.contents (motionSlot cfg) = [recordOf q.toEsbPayload]
  flags : e.flags.Mirror cfg [q]

/-- **A packet written on a FIFO just flushed** is the only one there is a
trace of. -/
theorem Fresh.of_flushed {e' : Endpoint} (hsync : (e.path cfg).syncing = false)
    (hi : e.radio.initialized = true)
    (hpath : e'.path cfg = ((e.path cfg).flush.withMotion
      ((e.path cfg).flush.outgoing cfg pipe data).1).put
        ((e.path cfg).flush.outgoing cfg pipe data).2)
    (hflags : e'.flags = (e.flags.reset cfg).push cfg (sendNoack cfg pipe data) (isCritical data)) :
    ∃ q, Fresh cfg e' q := by
  obtain ⟨hnoack, hcritical⟩ := @flags_outgoing cfg (e.path cfg).flush pipe data
  have hfifo : (e.path cfg).flush.fifo = [] := TxPath.fifo_flush hi
  refine ⟨{ ((e.path cfg).flush.outgoing cfg pipe data).2 with serial := e.radio.written }, ?_, ?_,
    ?_, ?_⟩
  · exact (congrArg TxPath.syncing hpath).trans hsync
  · refine (congrArg TxPath.fifo hpath).trans ?_
    show (e.path cfg).flush.fifo ++ [_] = [_]
    rw [hfifo]
    rfl
  · have hrecent : e'.tp.motion.recent = e.tp.motion.recent.reset.push (motionSlot cfg)
        (recordOf ((e.path cfg).flush.outgoing cfg pipe data).2) :=
      (congrArg (fun p : TxPath => p.motion.recent) hpath).trans TxPath.outgoing_recent
    rw [hrecent]
    exact Ring.contents_reset_push _ _ _ (by decide)
  · rw [hflags, ← hnoack, ← hcritical]
    constructor
    · intro hhop
      rw [Flags.push, Flags.reset, if_pos hhop, if_pos hhop]
      exact Ring.contents_reset_push _ _ _ (by decide)
    · intro hmax
      rw [Flags.push, Flags.reset, if_pos hmax, if_pos hmax]
      exact Ring.contents_reset_push _ _ _ (by decide)

/-- What a send after a flush finds. -/
theorem sendQueues_flushed (h : SendWrites cfg e pipe data) :
    sendQueues cfg (esbFlushTxAndReset cfg e) data = true ∧
      sendFlushes cfg (esbFlushTxAndReset cfg e) data = false ∧
      (esbTransportSend cfg (esbFlushTxAndReset cfg e) pipe data).2 = none := by
  obtain ⟨hreach, hi, hnonempty, hpipe⟩ := h
  have hpath := path_esbFlushTxAndReset cfg e
  have hreach' : sendReaches cfg (esbFlushTxAndReset cfg e) data = true := hreach
  have hfull : esbTxFull cfg (esbFlushTxAndReset cfg e).radio = false := by
    rw [path_full, hpath, TxPath.full, TxPath.fifo_flush hi]
    exact decide_eq_false (Nat.not_le.2 cfg.txFifo_pos)
  have hq : sendQueues cfg (esbFlushTxAndReset cfg e) data = true := by
    rw [sendQueues, hreach', hfull, Bool.false_and, Bool.not_false, Bool.and_self]
  refine ⟨hq, ?_, (send_taken_iff hq).2 ⟨?_, hnonempty, hpipe⟩⟩
  · rw [sendFlushes, hfull, Bool.and_false, Bool.false_and]
  · exact (congrArg TxPath.initialized hpath).trans hi

/-- Which sends leave something after a flush. -/
theorem flushedSend_written_iff :
    (flushedSend cfg e pipe data).radio.written ≠ e.radio.written ↔
      SendWrites cfg e pipe data := by
  have hpath := path_esbFlushTxAndReset cfg e
  have hwritten : (esbFlushTxAndReset cfg e).radio.written = e.radio.written :=
    congrArg TxPath.written hpath
  have hinit : (esbFlushTxAndReset cfg e).radio.initialized = e.radio.initialized :=
    congrArg TxPath.initialized hpath
  unfold flushedSend
  rw [← hwritten]
  constructor
  · intro hnew
    have htaken : sendQueues cfg (esbFlushTxAndReset cfg e) data = true ∧
        (esbTransportSend cfg (esbFlushTxAndReset cfg e) pipe data).2 = none := by
      by_contra hnot
      rw [not_and_or, Bool.not_eq_true] at hnot
      exact hnew (written_send_of_not_taken hnot)
    obtain ⟨hq, hok⟩ := htaken
    obtain ⟨hi, hpacket⟩ := (send_taken_iff hq).1 hok
    have hreach : sendReaches cfg (esbFlushTxAndReset cfg e) data = true :=
      sendReaches_of_queues hq
    exact ⟨hreach, hinit.symm.trans hi, hpacket⟩
  · intro hwrites
    obtain ⟨hq, -, hok⟩ := sendQueues_flushed hwrites
    rw [written_send_of_taken hq hok]
    exact Nat.succ_ne_self _

/-- **After a flush, what the send writes is all there is.** -/
theorem fresh_flushedSend (h : SendWrites cfg e pipe data) :
    ∃ q, Fresh cfg (flushedSend cfg e pipe data) q := by
  obtain ⟨hq, hflush, hok⟩ := sendQueues_flushed h
  have hsync : (e.path cfg).syncing = false := by
    have hreach := h.1
    simp only [sendReaches, Bool.and_eq_true, Bool.not_eq_true'] at hreach
    exact hreach.1.2
  have hbase : sendBase cfg (esbFlushTxAndReset cfg e) data = (e.path cfg).flush := by
    rw [sendBase, hflush, if_neg Bool.false_ne_true, path_esbFlushTxAndReset]
  have hpath := path_send_of_taken hq hok
  have hflags := flags_esbTransportSend cfg (esbFlushTxAndReset cfg e) pipe data
  rw [hbase] at hpath
  rw [hq, if_pos rfl, hflush, if_neg Bool.false_ne_true] at hflags
  exact Fresh.of_flushed hsync h.2.1 hpath hflags

/-! ## What the late event takes -/

/-- **The end of a transmission that is not the new packet's**, or is:
all the rings held is popped, and a success has taken the packet, never
sent, out of the FIFO. -/
theorem Fresh.after_txDone {q : Queued} (h : Fresh cfg e q) {outcome : TxOutcome}
    (hend : canEnd cfg e outcome = true) :
    (txDone cfg e outcome).tp.motion.recent.isEmpty = true ∧
      (txDone cfg e outcome).flags.Mirror cfg [] ∧
      (txDone cfg e outcome).radio.state.onAir = none ∧
      (outcome ≠ .exhausted → (txDone cfg e outcome).radio.txFifo = []) := by
  have hpath := path_txDone cfg e outcome h.syncing
  have hflags := flags_txDone cfg e outcome h.syncing
  rw [hend, if_pos rfl] at hpath hflags
  obtain ⟨hempty, -, hrest⟩ := Ring.of_contents_eq_cons h.motion
  rw [Ring.contents_eq_nil_iff, Ring.consume, hempty, if_neg Bool.false_ne_true] at hrest
  have hpopped : (txDone cfg e outcome).flags.Mirror cfg [] := by
    rw [hflags]
    split
    · exact Flags.mirror_nil_reset
    · exact h.flags.pop
  -- a failure leaves the packet in the FIFO, unless it flushes
  have hfifo : (e.path cfg).fifo = [q] := h.fifo
  by_cases hout : outcome = .exhausted
  · rw [if_pos hout] at hpath
    have hrecent : (((e.path cfg).halt).consume cfg true).motion.recent =
        e.tp.motion.recent.pop := TxPath.consume_recent hempty
    refine ⟨?_, hpopped, ?_, fun hnot => absurd hout hnot⟩
    · refine (congrArg (fun p : TxPath => p.motion.recent.isEmpty) hpath).trans ?_
      unfold TxPath.fail
      dsimp only
      split
      · exact Ring.isEmpty_reset _
      · rw [hrecent]
        exact hrest
    · refine (congrArg TxPath.onAir hpath).trans ?_
      unfold TxPath.fail
      dsimp only
      split <;> rfl
  · rw [if_neg hout] at hpath
    have hrecent : ((e.path cfg).advance.consume cfg false).motion.recent =
        e.tp.motion.recent.pop := TxPath.consume_recent hempty
    have htail : (e.path cfg).fifo.tail = [] := by rw [hfifo]; rfl
    refine ⟨?_, hpopped, ?_, fun _ => ?_⟩
    · refine (congrArg (fun p : TxPath => p.motion.recent.isEmpty) hpath).trans ?_
      rw [hrecent]
      exact hrest
    · refine (congrArg TxPath.onAir hpath).trans ?_
      show (e.path cfg).fifo.tail.head? = none
      rw [htail]
      rfl
    · exact (congrArg TxPath.fifo hpath).trans htail

/-- The event spares nothing of it. -/
theorem Fresh.not_spares {q : Queued} (h : Fresh cfg e q) {outcome : TxOutcome}
    (hend : canEnd cfg e outcome = true) : ¬ SparesQueued cfg e outcome := by
  intro hspares
  have hpopped := (h.after_txDone hend).1
  rw [hspares.motion] at hpopped
  exact Bool.noConfusion ((Ring.of_contents_eq_cons h.motion).1.symm.trans hpopped)

/-- A send leaves on the air what is on the air. -/
theorem onAir_esbTransportSend {q : Queued} (hair : e.radio.state.onAir = some q) :
    (esbTransportSend cfg e pipe data).1.radio.state.onAir = some q := by
  have hbusy : readyToStart cfg e.radio = false := by
    refine readyToStart_eq_false cfg ?_ ?_ <;>
    · intro hstate
      rw [hstate] at hair
      exact absurd hair (by simp [EsbState.onAir])
  have hbase : (sendBase cfg e data).onAir = some q ∧ (sendBase cfg e data).ready = false := by
    unfold sendBase
    split <;> exact ⟨hair, hbusy⟩
  cases hq : sendQueues cfg e data with
  | false =>
    have hpath := congrArg Prod.fst (path_esbTransportSend cfg e pipe data)
    rw [hq, if_neg Bool.false_ne_true] at hpath
    exact (congrArg TxPath.onAir hpath).trans hair
  | true =>
    by_cases htaken : (esbTransportSend cfg e pipe data).2 = none
    · refine (congrArg TxPath.onAir (path_send_of_taken hq htaken)).trans ?_
      show (if (sendBase cfg e data).ready then _ else (sendBase cfg e data).onAir) = some q
      rw [hbase.2, if_neg Bool.false_ne_true, hbase.1]
    · exact (congrArg TxPath.onAir (path_send_of_refused hq htaken)).trans hbase.1

/-- So do a flush and a send. -/
theorem onAir_flushedSend {q : Queued} (hair : e.radio.state.onAir = some q) :
    (flushedSend cfg e pipe data).radio.state.onAir = some q := by
  refine onAir_esbTransportSend ?_
  rw [(esbFlushTxAndReset_radio cfg e).1]
  exact hair

/-- **A flush with a packet on the air spares the next send** exactly if
that send writes nothing. -/
theorem flushSparesNext_iff {q : Queued} (hair : e.radio.state.onAir = some q) :
    FlushSparesNext cfg e pipe data ↔ ¬ SendWrites cfg e pipe data := by
  unfold FlushSparesNext
  rw [flushedSend_written_iff]
  constructor
  · intro h hwrites
    obtain ⟨q', hfresh⟩ := fresh_flushedSend hwrites
    obtain ⟨outcome, hend⟩ := exists_canEnd cfg _ (onAir_flushedSend hair)
    exact hfresh.not_spares hend (h hwrites outcome hend)
  · exact fun hnot hwrites => absurd hwrites hnot

/-- The first key report of a slot is on the air; a shell packet with no
byte in it is not taken. -/
theorem flushSparesNext_empty :
    FlushSparesNext .default
      (runFrom (txStep .default) (Endpoint.start .default [] none)
        [.send esbPipeData [esbPktHidReport, esbReportKeyboard, 0, 0, 4, 0, 0, 0, 0, 0]])
      esbPipeData [] :=
  (flushSparesNext_iff (q := ⟨⟨esbPipeData, false,
    [esbPktHidReport, esbReportKeyboard, 0, 0, 4, 0, 0, 0, 0, 0]⟩, 0⟩) (by decide +kernel)).2
    fun hwrites => hwrites.2.2.1 rfl

/-- **A key pressed, a flush, and the key released**: the ACK of the press
takes the release. -/
theorem not_flushSparesNext : ¬ ∀ (cfg : Config) (deviceId : List UInt8)
    (saved : Option PairedRec) (ops : List TxOp) (pipe : Nat) (data : List UInt8),
    (runFrom (txStep cfg) (Endpoint.start cfg deviceId saved) ops).radio.state.onAir ≠ none →
      FlushSparesNext cfg (runFrom (txStep cfg) (Endpoint.start cfg deviceId saved) ops) pipe
        data := by
  intro h
  have hspares := h .default [] none
    [.send esbPipeData [esbPktHidReport, esbReportKeyboard, 0, 0, 4, 0, 0, 0, 0, 0]] esbPipeData
    [esbPktHidReport, esbReportKeyboard, 0, 0, 0, 0, 0, 0, 0, 0] (by decide +kernel)
    (by decide +kernel) (.acked 0 []) (by decide +kernel)
  have hcount : (flushedSend .default
      (runFrom (txStep .default) (Endpoint.start .default [] none)
        [.send esbPipeData [esbPktHidReport, esbReportKeyboard, 0, 0, 4, 0, 0, 0, 0, 0]])
      esbPipeData [esbPktHidReport, esbReportKeyboard, 0, 0, 0, 0, 0, 0, 0, 0]).radio.txFifo =
      [⟨⟨esbPipeData, false, [esbPktHidReport, esbReportKeyboard, 0, 0, 0, 0, 0, 0, 0, 0]⟩, 1⟩] := by
    decide +kernel
  have hkept := hspares.fifo _ (by rw [hcount]; exact List.mem_singleton_self _)
  exact absurd hkept (by decide +kernel)

end EsbEndpoint
