import EsbEndpoint.Transport.Mirror

/-!
# The motion ledger

What callers hand to a send comes out again once: in a packet reported
sent, in a packet still queued, in the refund pool, or in the account of
what flushes, staleness and channel changes discard. `Balanced` is that
for one step, and `Accounted` is when a step balances. The refund goes
wrong where a failure gives back motion whose packet stays queued, or the
motion of another packet; a success, where the packet it takes off the
FIFO is not the one that was sent.
-/

namespace EsbEndpoint

/-- The deltas a packet carries. -/
def deltasOf (q : Queued) : Deltas := (recordOf q.toEsbPayload).deltas

/-- The deltas of the packets in a FIFO. -/
def queuedDeltas (fifo : List Queued) (a : Axis) : Int := (fifo.map fun q => deltasOf q a).sum

/-- The deltas of a packet that may be absent. -/
def deltasOfOption (q : Option Queued) : Deltas := (q.map deltasOf).getD 0

@[simp] theorem queuedDeltas_nil (a : Axis) : queuedDeltas [] a = 0 := rfl

theorem queuedDeltas_append_singleton (fifo : List Queued) (q : Queued) (a : Axis) :
    queuedDeltas (fifo ++ [q]) a = queuedDeltas fifo a + deltasOf q a := by
  simp only [queuedDeltas, List.map_append, List.map_cons, List.map_nil, List.sum_append,
    List.sum_cons, List.sum_nil, add_zero]

theorem queuedDeltas_eq_head_add (fifo : List Queued) (a : Axis) :
    queuedDeltas fifo a = deltasOfOption fifo.head? a + queuedDeltas fifo.tail a := by
  cases fifo with
  | nil => rfl
  | cons q qs =>
    simp only [queuedDeltas, List.map_cons, List.sum_cons, List.head?_cons, List.tail_cons,
      deltasOfOption, Option.map_some, Option.getD_some]

/-- The record the next TX event pops, or nothing. -/
def Motion.popped (cfg : Config) (m : Motion) : Deltas :=
  if m.recent.isEmpty then 0 else (m.recent.front (motionSlot cfg)).deltas

/-- A refund too old to be applied. -/
def MotionRefund.stale (cfg : Config) (now : UInt32) (refund : MotionRefund) : Bool :=
  refund.stampMs != 0 && cfg.pointerRefundStaleMs ≤ elapsed refund.stampMs now

variable (cfg : Config)

/-! ## The entries of a step -/

section Entries

variable (e : Endpoint)

/-- What a caller hands over. -/
def handedBy : TxOp → Deltas
  | .send _ data =>
    if sendQueues cfg e data && isMouseReport data then (mouseBodyOf data).deltas else 0
  | _ => 0

/-- What a packet reported `TX_SUCCESS` carried. -/
def deliveredBy : TxOp → Deltas
  | .txDone outcome =>
    if canEnd cfg e outcome && outcome != .exhausted then deltasOfOption e.radio.state.onAir else 0
  | _ => 0

/-- What a flush, staleness or a channel change drops. A failure that
flushes has taken its packet's motion back before. -/
def discardedBy : TxOp → Axis → Int
  | .send _ data, a =>
    (if sendFlushes cfg e data then queuedDeltas e.radio.txFifo a else 0) +
      (if sendQueues cfg e data && isMouseReport data && e.motion.refund.stale cfg e.now then
        e.motion.refund.pool a else 0)
  | .txDone .exhausted, a =>
    if canEnd cfg e .exhausted && esbTxFull cfg e.radio then queuedDeltas e.radio.txFifo.tail a
    else 0
  | .setChannel channel, a =>
    if e.tp.configured then
      queuedDeltas e.radio.txFifo a +
        (if (esbTransportSetChannel cfg e channel).2.isNone && cfg.channelHop then
          e.motion.refund.pool a else 0)
    else 0
  | .flushTx, a => queuedDeltas e.radio.txFifo a
  | _, _ => 0

/-- The packet whose failure gives motion back. -/
def refundedBy : TxOp → Option Nat
  | .txDone .exhausted =>
    if canEnd cfg e .exhausted && !(e.motion.popped cfg).isZero then
      e.radio.state.onAir.map Queued.serial
    else none
  | _ => none

/-- The packet reported `TX_SUCCESS`. -/
def reportedBy : TxOp → Option Nat
  | .txDone outcome =>
    if canEnd cfg e outcome && outcome != .exhausted then e.radio.state.onAir.map Queued.serial
    else none
  | _ => none

end Entries

/-- The endpoint with its ledger. -/
structure MotionTrace where
  e : Endpoint
  handed : Deltas := 0
  delivered : Deltas := 0
  discarded : Deltas := 0
  refunded : List Nat := []
  reported : List Nat := []

def motionStep (s : MotionTrace) (op : TxOp) : MotionTrace where
  e := txStep cfg s.e op
  handed := s.handed + handedBy cfg s.e op
  delivered := s.delivered + deliveredBy cfg s.e op
  discarded := s.discarded + discardedBy cfg s.e op
  refunded := (refundedBy cfg s.e op).toList ++ s.refunded
  reported := (reportedBy cfg s.e op).toList ++ s.reported

/-- **Motion is accounted for**, on every axis. -/
def Conserved (s : MotionTrace) : Prop :=
  ∀ a, s.handed a = s.delivered a + queuedDeltas s.e.radio.txFifo a + s.e.motion.refund.pool a +
    s.discarded a

/-- **And exactly once**: no packet whose motion was given back is also
reported sent. -/
def AccountedOnce (s : MotionTrace) : Prop :=
  Conserved s ∧ ∀ n ∈ s.refunded, n ∉ s.reported

/-- A send that returns no error. -/
def NoSendError (e : Endpoint) : TxOp → Prop
  | .send pipe data => (esbTransportSend cfg e pipe data).2 = none
  | _ => True

instance (e : Endpoint) : (op : TxOp) → Decidable (NoSendError cfg e op)
  | .send pipe data => inferInstanceAs (Decidable ((esbTransportSend cfg e pipe data).2 = none))
  | .txDone _ | .setChannel _ | .flushTx | .idleBegin | .connected | .tick _ =>
    inferInstanceAs (Decidable True)

/-- The condition on an operation: the pool does not overflow; a failure
gives back the motion of the packet at the head, which the flush then
drops, or gives nothing back; and a success takes off the FIFO a packet
with the motion of the one that was sent. -/
def Accounted (e : Endpoint) : TxOp → Prop
  | .send _ data =>
    sendQueues cfg e data = true → isMouseReport data = true →
      e.motion.refund.stale cfg e.now = false →
        ∀ a, IsInt32 ((mouseBodyOf data).deltas a + e.motion.refund.pool a)
  | .txDone .exhausted =>
    canEnd cfg e .exhausted = true →
      if esbTxFull cfg e.radio then
        e.motion.popped cfg = deltasOfOption e.radio.txFifo.head? ∧
          ∀ a, IsInt32 (e.motion.refund.pool a + e.motion.popped cfg a)
      else e.motion.popped cfg = 0
  | .txDone outcome =>
    canEnd cfg e outcome = true →
      deltasOfOption e.radio.state.onAir = deltasOfOption e.radio.txFifo.head?
  | _ => True

/-! ## Balance, step by step -/

/-- What a path holds of the motion handed over. -/
def TxPath.held (p : TxPath) (a : Axis) : Int := queuedDeltas p.fifo a + p.motion.refund.pool a

/-- A step balances: what comes in is sent, kept or discarded. -/
def Balanced (e : Endpoint) (op : TxOp) : Prop :=
  ∀ a, handedBy cfg e op a + (e.path cfg).held a =
    deliveredBy cfg e op a + ((txStep cfg e op).path cfg).held a + discardedBy cfg e op a

variable {cfg} {s : MotionTrace} {e : Endpoint}

theorem conserved_step_iff (h : Conserved s) (op : TxOp) :
    Conserved (motionStep cfg s op) ↔ Balanced cfg s.e op := by
  have hadd : ∀ (d d' : Deltas) (a : Axis), (d + d') a = d a + d' a := fun _ _ _ => rfl
  refine forall_congr' fun a => ?_
  have ha := h a
  have hheld : (s.e.path cfg).held a =
      queuedDeltas s.e.radio.txFifo a + s.e.motion.refund.pool a := rfl
  have hheld' : ((txStep cfg s.e op).path cfg).held a =
      queuedDeltas (txStep cfg s.e op).radio.txFifo a +
        (txStep cfg s.e op).motion.refund.pool a := rfl
  simp only [motionStep, hadd]
  omega

/-- What the statics of the motion hold: a pool that fits its fields, and
records that fit theirs. -/
structure Motion.Fits (m : Motion) : Prop where
  pool : ∀ a, IsInt32 (m.refund.pool a)
  slots : ∀ j a, IsInt16 ((m.recent.slots j).deltas a)

theorem Motion.Fits.popped {m : Motion} (h : m.Fits) (a : Axis) : IsInt16 (m.popped cfg a) := by
  rw [Motion.popped]
  split
  · exact isInt16_zero
  · exact h.slots _ a

theorem isInt16_deltasOf (q : Queued) (a : Axis) : IsInt16 (deltasOf q a) := by
  rw [deltasOf, recordOf]
  split
  · exact isInt16_mouseBodyOf _ a
  · exact isInt16_zero

theorem isInt16_deltasOfOption (q : Option Queued) (a : Axis) : IsInt16 (deltasOfOption q a) := by
  cases q with
  | none => exact isInt16_zero
  | some q => exact isInt16_deltasOf q a

/-! ### A send -/

/-- **A refund moves motion from the pool into the body**, where it is
fresh, unless the sum overflows. -/
theorem motionRefundApply_balance_iff {now : UInt32} {refund : MotionRefund} {body : MouseBody}
    (hbody : ∀ a, IsInt16 (body.deltas a)) (a : Axis) :
    body.deltas a + refund.pool a =
        (motionRefundApply cfg now refund body).2.deltas a +
          (motionRefundApply cfg now refund body).1.pool a +
          (if refund.stale cfg now then refund.pool a else 0) ↔
      (refund.stale cfg now = false → IsInt32 (body.deltas a + refund.pool a)) := by
  have hstale : (refund.stampMs != 0 && decide (cfg.pointerRefundStaleMs ≤
      elapsed refund.stampMs now)) = refund.stale cfg now := rfl
  simp only [motionRefundApply, hstale]
  cases refund.stale cfg now with
  | true =>
    refine iff_of_true ?_ fun h => Bool.noConfusion h
    simp only [if_true, Pi.zero_apply]
    omega
  | false =>
    simp only [Bool.false_eq_true, if_false, forall_const]
    cases hzero : refund.pool.isZero with
    | true =>
      have hpool : refund.pool a = 0 := congrFun (Deltas.isZero_iff.1 hzero) a
      have hb := hbody a
      simp only [if_true, hpool, IsInt16, IsInt32] at hb ⊢
      omega
    | false =>
      rw [← i32_eq_iff]
      simp only [Bool.false_eq_true, if_false]
      omega

theorem deltasOf_outgoing_add_pool (p : TxPath) (pipe : Nat) (data : List UInt8) (n : Nat)
    (a : Axis) :
    deltasOf { (p.outgoing cfg pipe data).2 with serial := n } a +
        (p.outgoing cfg pipe data).1.refund.pool a =
      if isMouseReport data then
        (motionRefundApply cfg p.now p.motion.refund (mouseBodyOf data)).2.deltas a +
          (motionRefundApply cfg p.now p.motion.refund (mouseBodyOf data)).1.pool a
      else p.motion.refund.pool a := by
  simp only [TxPath.outgoing]
  split
  · rename_i h
    have hbody := mouseBodyOf_putMouseBody h
      (@isInt16_motionRefundApply cfg p.now p.motion.refund _ (isInt16_mouseBodyOf data))
    simp only [deltasOf, recordOf, isMouseReport_putMouseBody h, if_true, hbody]
    rfl
  · rename_i h
    simp only [deltasOf, recordOf, h, Bool.false_eq_true, if_false]
    exact zero_add _

theorem sendBase_now : (sendBase cfg e data).now = e.now := by
  rw [sendBase]
  split <;> rfl

theorem sendBase_refund : (sendBase cfg e data).motion.refund = e.motion.refund := by
  rw [sendBase]
  split <;> rfl

/-- **A send without an error balances just when the pool does not
overflow.** -/
theorem balanced_send_iff (h : (e.path cfg).Sound) {pipe : Nat} {data : List UInt8}
    (hok : (esbTransportSend cfg e pipe data).2 = none) :
    Balanced cfg e (.send pipe data) ↔ Accounted cfg e (.send pipe data) := by
  cases hq : sendQueues cfg e data with
  | false =>
    -- nothing is queued, and nothing flushed
    have hnot := sendFlushes_of_not_queues hq
    refine iff_of_true (fun a => ?_) fun hc => Bool.noConfusion (hq.symm.trans hc)
    simp only [handedBy, deliveredBy, discardedBy, hq, hnot, path_send_of_not_queues h hq,
      Bool.false_and, Bool.false_eq_true, if_false, Pi.zero_apply]
    omega
  | true =>
    rw [send_error_of_queues hq] at hok
    have hpath := (@path_send_of_queues cfg e pipe data h hq).trans (TxPath.queue_accepted hok)
    have hfifo : ∀ a, queuedDeltas (sendBase cfg e data).fifo a +
        (if sendFlushes cfg e data then queuedDeltas e.radio.txFifo a else 0) =
        queuedDeltas e.radio.txFifo a := by
      intro a
      rw [sendBase_fifo h]
      split
      · exact zero_add _
      · exact add_zero _
    have hheld : ∀ a, ((txStep cfg e (.send pipe data)).path cfg).held a =
        queuedDeltas (sendBase cfg e data).fifo a +
          if isMouseReport data then
            (motionRefundApply cfg e.now e.motion.refund (mouseBodyOf data)).2.deltas a +
              (motionRefundApply cfg e.now e.motion.refund (mouseBodyOf data)).1.pool a
          else e.motion.refund.pool a := by
      intro a
      have hout := @deltasOf_outgoing_add_pool cfg (sendBase cfg e data) pipe data
        (sendBase cfg e data).written a
      rw [sendBase_now, sendBase_refund] at hout
      rw [hpath, ← hout, TxPath.held, ← add_assoc, ← queuedDeltas_append_singleton]
      rfl
    have hpool : ∀ a, (e.path cfg).held a =
        queuedDeltas e.radio.txFifo a + e.motion.refund.pool a := fun _ => rfl
    simp only [Balanced, Accounted, handedBy, deliveredBy, discardedBy, hq, hheld, hpool,
      Bool.true_and, forall_const]
    cases hmouse : isMouseReport data with
    | false =>
      -- no mouse body: the pool stays as it is
      refine iff_of_true (fun a => ?_) fun hc => Bool.noConfusion hc
      have := hfifo a
      simp only [Bool.false_and, Bool.false_eq_true, if_false, Pi.zero_apply]
      omega
    | true =>
      -- a mouse body takes from the pool, which balances unless it was stale
      simp only [Bool.true_and, if_true, forall_const, Pi.zero_apply]
      rw [forall_comm]
      refine forall_congr' fun a => ?_
      rw [← motionRefundApply_balance_iff (isInt16_mouseBodyOf data) a]
      have := hfifo a
      constructor
      · intro heq
        omega
      · intro heq
        omega

/-! ### The end of a transmission -/

/-- **A success balances just when the packet it takes off the FIFO carried
what was sent.** -/
theorem balanced_success_iff (h : (e.path cfg).Sound) {outcome : TxOutcome}
    (hout : outcome ≠ .exhausted) :
    Balanced cfg e (.txDone outcome) ↔
      (canEnd cfg e outcome = true →
        deltasOfOption e.radio.state.onAir = deltasOfOption e.radio.txFifo.head?) := by
  have hne : (outcome != .exhausted) = true := bne_iff_ne.2 hout
  have hdiscarded : ∀ a, discardedBy cfg e (.txDone outcome) a = 0 := by
    intro a
    cases outcome with
    | exhausted => exact absurd rfl hout
    | _ => rfl
  simp only [Balanced, handedBy, deliveredBy, hdiscarded, path_txStep cfg e _ h.syncing, TxOp.move,
    hne, Bool.and_true, if_neg hout]
  cases canEnd cfg e outcome with
  | false =>
    refine iff_of_true (fun a => ?_) fun hc => Bool.noConfusion hc
    have hrest : ((TxMove.rest e.now).apply cfg (e.path cfg)).held a = (e.path cfg).held a := rfl
    simp only [Bool.false_eq_true, if_false, Pi.zero_apply, hrest]
    omega
  | true =>
    have hrefund : (TxMove.advance.apply cfg (e.path cfg)).motion.refund = e.motion.refund := by
      simp only [TxMove.apply, TxPath.consume, TxPath.withMotion, motionRingConsume]
      split <;> rfl
    have hheld : ∀ a, (TxMove.advance.apply cfg (e.path cfg)).held a =
        queuedDeltas e.radio.txFifo.tail a + e.motion.refund.pool a := by
      intro a
      rw [TxPath.held, hrefund]
      rfl
    have hpool : ∀ a, (e.path cfg).held a =
        queuedDeltas e.radio.txFifo a + e.motion.refund.pool a := fun _ => rfl
    simp only [if_true, forall_const, hheld, hpool, Pi.zero_apply]
    rw [funext_iff]
    refine forall_congr' fun a => ?_
    have := queuedDeltas_eq_head_add e.radio.txFifo a
    omega

/-- What a failure does to the pool. -/
theorem pool_consume_failed (p : TxPath) (a : Axis) :
    (p.consume cfg true).motion.refund.pool a =
      if (p.motion.popped cfg).isZero then p.motion.refund.pool a
      else i32 (p.motion.refund.pool a + p.motion.popped cfg a) := by
  simp only [TxPath.consume, TxPath.withMotion, motionRingConsume, Motion.popped]
  split
  · rfl
  · simp only [if_true, MotionRefund.give]
    split <;> rfl

theorem pool_consume_failed_eq {m : Motion} (hm : m.Fits) (a : Axis) :
    (if (m.popped cfg).isZero then m.refund.pool a
      else i32 (m.refund.pool a + m.popped cfg a)) = i32 (m.refund.pool a + m.popped cfg a) := by
  split
  · rename_i hzero
    rw [Deltas.isZero_iff.1 hzero, Pi.zero_apply, add_zero]
    exact (i32_eq_iff.2 (hm.pool a)).symm
  · rfl

/-- **A failure balances just when what it gives back is dropped by the
flush, or is nothing.** -/
theorem balanced_fail_iff (h : (e.path cfg).Sound) (hm : e.motion.Fits) :
    Balanced cfg e (.txDone .exhausted) ↔ Accounted cfg e (.txDone .exhausted) := by
  simp only [Balanced, Accounted, handedBy, deliveredBy, discardedBy,
    path_txStep cfg e _ h.syncing, TxOp.move, bne_self_eq_false, Bool.and_false, if_true]
  cases canEnd cfg e .exhausted with
  | false =>
    refine iff_of_true (fun a => ?_) fun hc => Bool.noConfusion hc
    have hrest : ((TxMove.rest e.now).apply cfg (e.path cfg)).held a = (e.path cfg).held a := rfl
    simp only [Bool.false_and, Bool.false_eq_true, if_false, Pi.zero_apply, hrest]
    omega
  | true =>
    have hfull : ((e.path cfg).halt.consume cfg true).full cfg = esbTxFull cfg e.radio := rfl
    have hpool : ∀ a, ((e.path cfg).halt.consume cfg true).motion.refund.pool a =
        i32 (e.motion.refund.pool a + e.motion.popped cfg a) := by
      intro a
      rw [pool_consume_failed]
      exact pool_consume_failed_eq hm a
    have hheld : ∀ a, (e.path cfg).held a =
        queuedDeltas e.radio.txFifo a + e.motion.refund.pool a := fun _ => rfl
    simp only [Bool.true_and, if_true, forall_const, TxMove.apply, TxPath.fail, hfull, hheld,
      Bool.false_eq_true, if_false, Pi.zero_apply]
    cases esbTxFull cfg e.radio with
    | true =>
      -- the pool gains what was popped, and the flush drops the head's
      have hafter : ∀ a, ((e.path cfg).halt.consume cfg true).flush.held a =
          i32 (e.motion.refund.pool a + e.motion.popped cfg a) := by
        intro a
        have hfifo : ((e.path cfg).halt.consume cfg true).flush.fifo = [] :=
          TxPath.fifo_flush h.initialized
        rw [TxPath.held, hfifo, queuedDeltas_nil, zero_add, ← hpool]
        rfl
      simp only [if_true, hafter]
      rw [funext_iff, ← forall_and]
      refine forall_congr' fun a => ?_
      rw [← i32_add_eq_iff (hm.popped a) (isInt16_deltasOfOption _ a)]
      have := queuedDeltas_eq_head_add e.radio.txFifo a
      omega
    | false =>
      have hafter : ∀ a, ((e.path cfg).halt.consume cfg true).held a =
          queuedDeltas e.radio.txFifo a + i32 (e.motion.refund.pool a + e.motion.popped cfg a) := by
        intro a
        rw [TxPath.held, hpool]
        rfl
      simp only [Bool.false_eq_true, if_false, hafter]
      rw [funext_iff]
      refine forall_congr' fun a => ?_
      have hiff := @i32_add_eq_iff (e.motion.refund.pool a) _ _ (@Motion.Fits.popped cfg _ hm a)
        isInt16_zero
      have hpool' := hm.pool a
      rw [add_zero] at hiff
      constructor
      · intro heq
        exact (hiff.1 (by omega)).1
      · intro hzero
        have := hiff.2 ⟨hzero, by rw [hzero, Pi.zero_apply, add_zero]; exact hpool'⟩
        omega

theorem held_flush (h : (e.path cfg).Sound) (a : Axis) :
    (e.path cfg).flush.held a = e.motion.refund.pool a := by
  rw [TxPath.held, TxPath.fifo_flush h.initialized, queuedDeltas_nil, zero_add]
  rfl

theorem balanced_setChannel (h : (e.path cfg).Sound) (channel : UInt8) :
    Balanced cfg e (.setChannel channel) := by
  intro a
  have hheld : (e.path cfg).held a =
      queuedDeltas e.radio.txFifo a + e.motion.refund.pool a := rfl
  simp only [handedBy, deliveredBy, discardedBy, path_txStep cfg e _ h.syncing, TxOp.move, hheld,
    Pi.zero_apply]
  cases e.tp.configured with
  | false =>
    have hrest : ((TxMove.rest e.now).apply cfg (e.path cfg)).held a = (e.path cfg).held a := rfl
    simp only [Bool.not_false, if_true, Bool.false_eq_true, if_false, hrest, hheld]
    omega
  | true =>
    have hflush := held_flush h a
    have hdrop : (e.path cfg).flush.dropRefund.held a = 0 := by
      rw [TxPath.held, TxPath.dropRefund, TxPath.withMotion]
      simp only [TxPath.fifo_flush h.initialized, queuedDeltas_nil]
      rfl
    simp only [Bool.not_true, Bool.false_eq_true, if_false, if_true, TxMove.apply]
    split
    · rw [hdrop]
      omega
    · rw [hflush]
      omega

/-- **When a step balances.** -/
theorem balanced_iff (h : (e.path cfg).Sound) (hm : e.motion.Fits) {op : TxOp}
    (hok : NoSendError cfg e op) : Balanced cfg e op ↔ Accounted cfg e op := by
  cases op with
  | send pipe data => exact balanced_send_iff h hok
  | txDone outcome =>
    cases outcome with
    | exhausted => exact balanced_fail_iff h hm
    | sent => exact balanced_success_iff h (by simp)
    | acked retries reply => exact balanced_success_iff h (by simp)
  | setChannel channel => exact iff_of_true (balanced_setChannel h channel) trivial
  | flushTx =>
    refine iff_of_true (fun a => ?_) trivial
    have hflush : ((TxMove.flush false).apply cfg (e.path cfg)).held a =
      e.motion.refund.pool a := held_flush h a
    have hheld : (e.path cfg).held a =
        queuedDeltas e.radio.txFifo a + e.motion.refund.pool a := rfl
    simp only [handedBy, deliveredBy, discardedBy, path_txStep cfg e _ h.syncing, TxOp.move,
      hflush, hheld, Pi.zero_apply]
    omega
  | _ =>
    refine iff_of_true (fun a => ?_) trivial
    rw [path_txStep cfg e _ h.syncing]
    have hrest : ∀ now, ((TxMove.rest now).apply cfg (e.path cfg)).held a =
        (e.path cfg).held a := fun _ => rfl
    simp only [handedBy, deliveredBy, discardedBy, TxOp.move, hrest, Pi.zero_apply]
    omega

/-! ## What every run keeps -/

theorem Motion.fits_boot : Motion.boot.Fits := ⟨fun _ => isInt32_zero, fun _ _ => isInt16_zero⟩

theorem isInt32_motionRefundApply {now : UInt32} {refund : MotionRefund} {body : MouseBody}
    (h : ∀ a, IsInt32 (refund.pool a)) (a : Axis) :
    IsInt32 ((motionRefundApply cfg now refund body).1.pool a) := by
  simp only [motionRefundApply]
  split
  · exact isInt32_zero
  · split
    · exact h a
    · exact isInt32_sub_sat16 (isInt32_i32 _)

theorem isInt32_give {now : UInt32} {refund : MotionRefund} {d : Deltas}
    (h : ∀ a, IsInt32 (refund.pool a)) (a : Axis) : IsInt32 ((refund.give now d).pool a) := by
  rw [MotionRefund.give]
  split
  · exact h a
  · exact isInt32_i32 _

theorem Motion.Fits.outgoing {p : TxPath} (h : p.motion.Fits) (pipe : Nat) (data : List UInt8) :
    (p.outgoing cfg pipe data).1.Fits := by
  constructor
  · intro a
    simp only [TxPath.outgoing]
    split
    · exact isInt32_motionRefundApply h.pool a
    · exact h.pool a
  · intro j a
    rw [TxPath.outgoing_recent]
    simp only [Ring.push]
    split
    · exact isInt16_deltasOf ⟨(p.outgoing cfg pipe data).2, 0⟩ a
    · exact h.slots j a

theorem Motion.Fits.consume {p : TxPath} (h : p.motion.Fits) (failed : Bool) :
    (p.consume cfg failed).motion.Fits := by
  simp only [TxPath.consume, TxPath.withMotion, motionRingConsume]
  split
  · exact h
  · refine ⟨fun a => ?_, h.slots⟩
    cases failed with
    | false => exact h.pool a
    | true => exact isInt32_give h.pool a

theorem Motion.Fits.flush {m : Motion} (h : m.Fits) : m.flush.Fits := ⟨h.pool, h.slots⟩

theorem Motion.Fits.apply {p : TxPath} (h : p.motion.Fits) (move : TxMove) :
    (move.apply cfg p).motion.Fits := by
  have hqueue : ∀ {p : TxPath} (pipe : Nat) (data : List UInt8), p.motion.Fits →
      (p.queue cfg pipe data).1.motion.Fits := by
    intro p pipe data hp
    simp only [TxPath.queue, TxPath.tryPut]
    split
    · exact hp.outgoing pipe data
    · exact hp.outgoing pipe data
  cases move with
  | rest now => exact h
  | flush newChannel =>
    rw [TxMove.apply]
    split
    · exact ⟨fun _ => isInt32_zero, h.slots⟩
    · exact h.flush
  | queue flushed pipe data =>
    rw [TxMove.apply]
    split
    · exact hqueue (p := p.flush) pipe data h.flush
    · exact hqueue pipe data h
  | advance => exact Motion.Fits.consume (p := p.advance) h false
  | fail =>
    simp only [TxMove.apply, TxPath.fail]
    split
    · exact (Motion.Fits.consume (p := p.halt) h true).flush
    · exact Motion.Fits.consume (p := p.halt) h true

/-- **What was reported sent is gone.** -/
theorem TxPath.gone_of_success {p : TxPath} (h : p.Sound) {q : Queued} (hq : p.onAir = some q) :
    (TxMove.advance.apply cfg p).Gone q.serial := by
  refine ⟨h.onAir_below q hq, ?_⟩
  have htail : ∀ x ∈ p.fifo.tail, x.serial ≠ q.serial := by
    intro x hx
    rcases h.onAir_head q hq with hhead | hlt
    · have hordered := h.ordered
      rw [← List.cons_head?_tail hhead] at hordered
      have := List.rel_of_pairwise_cons hordered hx
      omega
    · have := hlt x (List.mem_of_mem_tail hx)
      omega
  rintro x (hx | hx)
  · exact htail x hx
  · exact htail x (List.mem_of_head? hx)

/-- So is all that was queued when a failure flushed. -/
theorem TxPath.gone_of_flush {p : TxPath} (h : p.Sound) (hfull : p.full cfg = true) {n : Nat}
    (hn : n < p.written) : (TxMove.fail.apply cfg p).Gone n := by
  have hfull' : (p.halt.consume cfg true).full cfg = true := hfull
  have hfifo : (p.halt.consume cfg true).flush.fifo = [] := TxPath.fifo_flush h.initialized
  simp only [TxMove.apply, TxPath.fail, hfull', if_true]
  refine ⟨hn, ?_⟩
  rintro x (hx | hx)
  · rw [hfifo] at hx
    exact absurd hx List.not_mem_nil
  · exact absurd hx (by simp [TxPath.flush, TxPath.consume, TxPath.withMotion, TxPath.halt])

variable (cfg) in
/-- What every trace keeps. -/
structure MotionTrace.Sound (s : MotionTrace) : Prop where
  path : (s.e.path cfg).Sound
  fits : s.e.motion.Fits
  reported : ∀ n ∈ s.reported, (s.e.path cfg).Gone n

/-- A report of success names the packet on the air, and takes the head. -/
theorem reportedBy_spec {op : TxOp} {n : Nat} (h : reportedBy cfg e op = some n) :
    op.move cfg e = .advance ∧ ∃ q, (e.path cfg).onAir = some q ∧ q.serial = n := by
  cases op with
  | txDone outcome =>
    rw [reportedBy] at h
    split at h
    · rename_i hend
      rw [Bool.and_eq_true, bne_iff_ne] at hend
      rw [TxOp.move, if_pos hend.1, if_neg hend.2]
      exact ⟨rfl, Option.map_eq_some_iff.1 h⟩
    · exact absurd h (by simp)
  | _ => exact absurd h (by simp [reportedBy])

/-- A refund names the packet on the air, and is not of nothing. -/
theorem refundedBy_spec {op : TxOp} {n : Nat} (h : refundedBy cfg e op = some n) :
    op = .txDone .exhausted ∧ canEnd cfg e .exhausted = true ∧ e.motion.popped cfg ≠ 0 ∧
      ∃ q, (e.path cfg).onAir = some q ∧ q.serial = n := by
  cases op with
  | txDone outcome =>
    cases outcome with
    | exhausted =>
      rw [refundedBy] at h
      split at h
      · rename_i hend
        rw [Bool.and_eq_true, Bool.not_eq_true', Deltas.isZero_eq_false_iff] at hend
        exact ⟨rfl, hend.1, hend.2, Option.map_eq_some_iff.1 h⟩
      · exact absurd h (by simp)
    | _ => exact absurd h (by simp [refundedBy])
  | _ => exact absurd h (by simp [refundedBy])

theorem MotionTrace.Sound.step (h : s.Sound cfg) (op : TxOp) : (motionStep cfg s op).Sound cfg := by
  have hmove := path_txStep cfg s.e op h.path.syncing
  refine ⟨sound_txStep cfg h.path op, ?_, ?_⟩
  · have hmotion : (motionStep cfg s op).e.motion = ((txStep cfg s.e op).path cfg).motion := rfl
    rw [hmotion, hmove]
    exact Motion.Fits.apply (p := s.e.path cfg) h.fits _
  · intro n hn
    have hpath : (motionStep cfg s op).e.path cfg = (op.move cfg s.e).apply cfg (s.e.path cfg) :=
      hmove
    rw [hpath]
    rcases List.mem_append.1 hn with hnew | hold
    · obtain ⟨hadvance, q, hq, rfl⟩ := reportedBy_spec (Option.mem_toList.1 hnew)
      rw [hadvance]
      exact TxPath.gone_of_success h.path hq
    · exact (h.reported n hold).apply _

theorem MotionTrace.sound_start (deviceId : List UInt8) (saved : Option PairedRec) :
    MotionTrace.Sound cfg { e := Endpoint.start cfg deviceId saved } := by
  refine ⟨sound_of_start cfg deviceId saved, ?_, fun _ hn => absurd hn List.not_mem_nil⟩
  have hmotion : (Endpoint.start cfg deviceId saved).motion =
      ((Endpoint.start cfg deviceId saved).path cfg).motion := rfl
  rw [hmotion, path_start]
  exact Motion.fits_boot

variable (cfg) in
/-- What was given back is gone for good, and was never reported sent. -/
def RefundsGone (s : MotionTrace) : Prop :=
  ∀ n ∈ s.refunded, n ∉ s.reported ∧ (s.e.path cfg).Gone n

theorem RefundsGone.step (h : s.Sound cfg) (hg : RefundsGone cfg s) {op : TxOp}
    (hop : Accounted cfg s.e op) : RefundsGone cfg (motionStep cfg s op) := by
  have hpath : (motionStep cfg s op).e.path cfg = (op.move cfg s.e).apply cfg (s.e.path cfg) :=
    path_txStep cfg s.e op h.path.syncing
  intro n hn
  rcases List.mem_append.1 hn with hnew | hold
  · -- the failure that gives back has flushed
    obtain ⟨rfl, hend, hpopped, q, hq, rfl⟩ := refundedBy_spec (Option.mem_toList.1 hnew)
    have hfull : esbTxFull cfg s.e.radio = true := by
      have hacc := hop hend
      split at hacc
      · assumption
      · exact absurd hacc hpopped
    refine ⟨fun hmem => ?_, ?_⟩
    · rcases List.mem_append.1 hmem with hreported | hreported
      · simp only [reportedBy, bne_self_eq_false, Bool.and_false, Bool.false_eq_true, if_false,
          Option.toList_none, List.not_mem_nil] at hreported
      · exact (h.reported _ hreported).2 q (Or.inr hq) rfl
    · rw [hpath, TxOp.move, if_pos hend, if_pos rfl]
      exact TxPath.gone_of_flush h.path hfull (h.path.onAir_below q hq)
  · obtain ⟨hnot, hgone⟩ := hg n hold
    refine ⟨fun hmem => ?_, ?_⟩
    · rcases List.mem_append.1 hmem with hreported | hreported
      · obtain ⟨-, q, hq, rfl⟩ := reportedBy_spec (Option.mem_toList.1 hreported)
        exact hgone.2 q (Or.inr hq) rfl
      · exact hnot hreported
    · rw [hpath]
      exact hgone.apply _

/-- **Motion is accounted for exactly once, exactly when every failure and
every success is.** -/
theorem accountedOnce_iff (cfg : Config) (deviceId : List UInt8) (saved : Option PairedRec)
    (ops : List TxOp)
    (h : Guarded (motionStep cfg) (fun s => NoSendError cfg s.e)
      { e := Endpoint.start cfg deviceId saved } ops) :
    Throughout (motionStep cfg) AccountedOnce { e := Endpoint.start cfg deviceId saved } ops ↔
      Guarded (motionStep cfg) (fun s => Accounted cfg s.e)
        { e := Endpoint.start cfg deviceId saved } ops := by
  have hstart := @MotionTrace.sound_start cfg deviceId saved
  have hzero : Conserved { e := Endpoint.start cfg deviceId saved } := by
    intro a
    have hfifo : (Endpoint.start cfg deviceId saved).radio.txFifo =
        ((Endpoint.start cfg deviceId saved).path cfg).fifo := rfl
    have hmotion : (Endpoint.start cfg deviceId saved).motion =
        ((Endpoint.start cfg deviceId saved).path cfg).motion := rfl
    rw [hfifo, hmotion, path_start]
    rfl
  have hconserved := throughout_iff_guarded (I := MotionTrace.Sound cfg) (P := Conserved)
    (C := fun s => Accounted cfg s.e) (fun s op hs _ => hs.step op)
    (fun s op hs hok hc => (conserved_step_iff hc op).trans (balanced_iff hs.path hs.fits hok))
    hstart hzero h
  constructor
  · exact fun hall => hconserved.1 (hall.imp fun _ hs => hs.1)
  · intro hguard
    have hrun : Throughout (motionStep cfg)
        (fun s => s.Sound cfg ∧ Conserved s ∧ RefundsGone cfg s)
        { e := Endpoint.start cfg deviceId saved } ops := by
      refine Throughout.of_guarded ?_ ⟨hstart, hzero, fun _ hn => absurd hn List.not_mem_nil⟩
        (h.and hguard)
      rintro s op ⟨hs, hc, hg⟩ ⟨hok, hacc⟩
      exact ⟨hs.step op,
        ((conserved_step_iff hc op).trans (balanced_iff hs.path hs.fits hok)).2 hacc,
        hg.step hs hacc⟩
    exact hrun.imp fun _ hs => ⟨hs.2.1, fun n hn => (hs.2.2 n hn).1⟩

/-- A move of the pointer, acknowledged. -/
theorem accountedOnce_iff_acked :
    Throughout (motionStep .default) AccountedOnce { e := Endpoint.start .default [] none }
        [.send esbPipeData [esbPktHidReport, esbReportMouse, 0, 5, 0, 0, 0, 0, 0, 0, 0],
          .txDone (.acked 0 [])] ↔
      Guarded (motionStep .default) (fun s => Accounted .default s.e)
        { e := Endpoint.start .default [] none }
        [.send esbPipeData [esbPktHidReport, esbReportMouse, 0, 5, 0, 0, 0, 0, 0, 0, 0],
          .txDone (.acked 0 [])] :=
  accountedOnce_iff .default [] none _
    ⟨of_decide_eq_true (by decide +kernel), trivial, trivial⟩

/-- A move that runs out of retries is given back and stays queued. -/
theorem not_accountedOnce : ¬ ∀ (cfg : Config) (deviceId : List UInt8) (saved : Option PairedRec)
    (ops : List TxOp),
    Guarded (motionStep cfg) (fun s => NoSendError cfg s.e)
        { e := Endpoint.start cfg deviceId saved } ops →
      Throughout (motionStep cfg) AccountedOnce { e := Endpoint.start cfg deviceId saved } ops := by
  intro h
  have hrun := h .default [] none
    [.send esbPipeData [esbPktHidReport, esbReportMouse, 0, 5, 0, 0, 0, 0, 0, 0, 0],
      .txDone .exhausted]
    ⟨of_decide_eq_true (by decide +kernel), trivial, trivial⟩
  exact absurd (hrun.2.2.1 .dX) (by decide +kernel)

end EsbEndpoint
