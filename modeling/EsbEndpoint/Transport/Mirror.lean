import EsbEndpoint.Transport.Step

/-!
# The motion ring and the FIFO

Every queued send pushes one record on the motion ring and every TX event
pops one, and the records are meant to be those of the packets in the
FIFO. A success and a flush keep the two in step. A failure pops a record
but leaves its packet queued, unless the FIFO is full and flushed; a send
whose write is refused pushes a record for a packet that is not queued;
and where the ring size does not divide the counters' range, a push can
overwrite an unconsumed slot as they wrap.
-/

namespace EsbEndpoint

/-! ## The record of a packet -/

/-- What the ring is to hold for a packet. -/
def recordOf (payload : EsbPayload) : MotionRecord :=
  if isMouseReport payload.data then
    let body := mouseBodyOf payload.data
    ⟨body.deltas, !body.deltas.isZero && body.buttons == 0 && !payload.noack⟩
  else ⟨0, false⟩

namespace TxPath

variable {cfg : Config} {p : TxPath} {pipe : Nat} {data : List UInt8}

/-- **A send pushes the record of the packet it writes.** -/
theorem outgoing_recent :
    (p.outgoing cfg pipe data).1.recent =
      p.motion.recent.push (motionSlot cfg) (recordOf (p.outgoing cfg pipe data).2) := by
  simp only [outgoing]
  split
  · rename_i h
    have hbody := mouseBodyOf_putMouseBody h
      (@isInt16_motionRefundApply cfg p.now p.motion.refund _ (isInt16_mouseBodyOf data))
    simp only [recordOf, isMouseReport_putMouseBody h, if_true, hbody]
    rfl
  · rename_i h
    simp only [recordOf, h, Bool.false_eq_true, if_false]
    rfl

theorem outgoing_inflight :
    (p.outgoing cfg pipe data).1.pointerInflightCount =
      if !(recordOf (p.outgoing cfg pipe data).2).deltas.isZero &&
          p.motion.pointerInflightCount < 255 then p.motion.pointerInflightCount + 1
      else p.motion.pointerInflightCount := by
  simp only [outgoing]
  split
  · rename_i h
    have hbody := mouseBodyOf_putMouseBody h
      (@isInt16_motionRefundApply cfg p.now p.motion.refund _ (isInt16_mouseBodyOf data))
    simp only [recordOf, isMouseReport_putMouseBody h, if_true, hbody]
    rfl
  · rename_i h
    simp only [recordOf, h, Bool.false_eq_true, if_false]
    rfl

/-! ## The mirror -/

/-- A packet whose record has a delta that is not zero. -/
def carriesMotion (q : Queued) : Bool := !(recordOf q.toEsbPayload).deltas.isZero

/-- The packet on the air is the FIFO's head. -/
def AirHead (p : TxPath) : Prop := ∀ q, p.onAir = some q → p.fifo.head? = some q

variable (cfg) in
/-- **The ring mirrors the FIFO**: slot by slot it holds the records of
the queued packets, the next pop is the record of the packet on the air,
and the count is that of the packets with motion. -/
structure Mirror (p : TxPath) : Prop where
  contents : p.motion.recent.contents (motionSlot cfg) =
    p.fifo.map fun q => recordOf q.toEsbPayload
  pops : ∀ q, p.onAir = some q → p.motion.recent.isEmpty = false ∧
    p.motion.recent.front (motionSlot cfg) = recordOf q.toEsbPayload
  inflight : p.motion.pointerInflightCount = p.fifo.countP carriesMotion

/-- What is popped follows from the contents. -/
theorem mirror_of_contents (hair : p.AirHead)
    (hcontents : p.motion.recent.contents (motionSlot cfg) =
      p.fifo.map fun q => recordOf q.toEsbPayload)
    (hinflight : p.motion.pointerInflightCount = p.fifo.countP carriesMotion) :
    p.Mirror cfg := by
  refine ⟨hcontents, fun q hq => ?_, hinflight⟩
  have hhead := hair q hq
  cases hempty : p.motion.recent.isEmpty with
  | true =>
    have hnil := (Ring.contents_eq_nil_iff (motionSlot cfg) _).2 hempty
    rw [hcontents, List.map_eq_nil_iff] at hnil
    rw [hnil] at hhead
    exact absurd hhead (by simp)
  | false =>
    have hcons := Ring.contents_eq_cons (motionSlot cfg) _ hempty
    rw [hcontents] at hcons
    refine ⟨rfl, ?_⟩
    have hfront := congrArg List.head? hcons
    rw [List.head?_map, hhead] at hfront
    exact (Option.some.inj hfront).symm

theorem Mirror.live (h : p.Mirror cfg) : p.motion.recent.live = p.fifo.length := by
  rw [← Ring.length_contents (motionSlot cfg), h.contents, List.length_map]

theorem countP_carriesMotion_le (fifo : List Queued) : fifo.countP carriesMotion ≤ fifo.length :=
  List.countP_le_length

theorem mirror_flush (hi : p.initialized = true) (hair : p.onAir = none) :
    p.flush.Mirror cfg := by
  have hfifo : p.flush.fifo = [] := fifo_flush hi
  refine mirror_of_contents ?_ ?_ ?_
  · intro q hq
    exact absurd (hair.symm.trans hq) (by simp)
  · rw [hfifo]
    exact Ring.contents_reset _ _
  · rw [hfifo]
    rfl

/-- **An accepted send keeps the mirror just when there is room for its
record.** -/
theorem mirror_put_iff (h : p.Mirror cfg)
    (hair : ((p.withMotion (p.outgoing cfg pipe data).1).put (p.outgoing cfg pipe data).2).AirHead)
    (hlen : p.fifo.length + 1 ≤ cfg.pointerMotionRingSize) :
    ((p.withMotion (p.outgoing cfg pipe data).1).put (p.outgoing cfg pipe data).2).Mirror cfg ↔
      p.motion.recent.Room (motionSlot cfg) (recordOf (p.outgoing cfg pipe data).2) := by
  have hring := cfg.motionRing_le
  rw [← Ring.contents_push_map_iff (g := fun q : Queued => recordOf q.toEsbPayload)
    (x := { (p.outgoing cfg pipe data).2 with serial := p.written }) h.contents (by omega)]
  have hrecent : ((p.withMotion (p.outgoing cfg pipe data).1).put
      (p.outgoing cfg pipe data).2).motion.recent =
      p.motion.recent.push (motionSlot cfg) (recordOf (p.outgoing cfg pipe data).2) :=
    outgoing_recent
  have hfifo : ((p.withMotion (p.outgoing cfg pipe data).1).put
      (p.outgoing cfg pipe data).2).fifo =
      p.fifo ++ [({ (p.outgoing cfg pipe data).2 with serial := p.written } : Queued)] := rfl
  constructor
  · intro hm
    rw [← hfifo]
    refine Eq.trans ?_ hm.contents
    rw [hrecent]
  · intro hpush
    refine mirror_of_contents hair ?_ ?_
    · rw [hrecent, hfifo]
      exact hpush
    · have hcount := countP_carriesMotion_le p.fifo
      have hinflight := h.inflight
      rw [hfifo, List.countP_append, ← hinflight]
      refine outgoing_inflight.trans ?_
      have hlt : decide (p.motion.pointerInflightCount < 255) = true := by
        rw [decide_eq_true_eq]
        omega
      simp only [hlt, Bool.and_true, List.countP_singleton]
      split
      · rename_i hz
        exact congrArg (p.motion.pointerInflightCount + ·) (if_pos hz).symm
      · rename_i hz
        exact (Nat.add_zero _).symm.trans
          (congrArg (p.motion.pointerInflightCount + ·) (if_neg hz).symm)

/-- A refused send has pushed a record for no packet. -/
theorem not_mirror_refused (h : p.Mirror cfg) (hlen : p.fifo.length ≤ cfg.pointerMotionRingSize) :
    ¬ (p.withMotion (p.outgoing cfg pipe data).1).Mirror cfg := by
  intro hm
  have hring := cfg.motionRing_le
  have hlive := h.live
  have hlive' := hm.live
  have hpush := Ring.live_push (motionSlot cfg) p.motion.recent
    (recordOf (p.outgoing cfg pipe data).2) (by omega)
  rw [← outgoing_recent] at hpush
  have hsame : (p.outgoing cfg pipe data).1.recent.live = p.fifo.length := hlive'
  omega

/-- What a pop does to a ring that is not empty. -/
theorem consume_recent {failed : Bool} (h : p.motion.recent.isEmpty = false) :
    (p.consume cfg failed).motion.recent = p.motion.recent.pop := by
  simp only [consume, withMotion, motionRingConsume, h, Bool.false_eq_true, if_false]

theorem consume_inflight {failed : Bool} (h : p.motion.recent.isEmpty = false) :
    (p.consume cfg failed).motion.pointerInflightCount =
      if !(p.motion.recent.front (motionSlot cfg)).deltas.isZero &&
          0 < p.motion.pointerInflightCount then p.motion.pointerInflightCount - 1
      else p.motion.pointerInflightCount := by
  simp only [consume, withMotion, motionRingConsume, h, Bool.false_eq_true, if_false]

/-- **A success keeps the mirror.** -/
theorem mirror_advance (h : p.Mirror cfg) {q : Queued} (hq : p.onAir = some q) :
    (TxMove.advance.apply cfg p).Mirror cfg := by
  obtain ⟨hempty, hfront⟩ := h.pops q hq
  have hcons := Ring.contents_eq_cons (motionSlot cfg) _ hempty
  rw [h.contents] at hcons
  have hrecent : (TxMove.advance.apply cfg p).motion.recent = p.motion.recent.pop :=
    consume_recent hempty
  refine mirror_of_contents (fun _ hx => hx) ?_ ?_
  · rw [hrecent]
    have htail := congrArg List.tail hcons
    rw [List.tail_cons, ← List.map_tail] at htail
    exact htail.symm
  · have hinflight := h.inflight
    cases hfifo : p.fifo with
    | nil =>
      rw [hfifo] at hcons
      exact absurd hcons (by simp)
    | cons x xs =>
      rw [hfifo, List.map_cons, List.cons.injEq] at hcons
      have htail : (TxMove.advance.apply cfg p).fifo = xs := congrArg List.tail hfifo
      rw [hfifo, List.countP_cons, carriesMotion] at hinflight
      refine (consume_inflight (p := p.advance) hempty).trans ?_
      have hfrontx : p.advance.motion.recent.front (motionSlot cfg) = recordOf x.toEsbPayload :=
        hcons.1.symm
      have hsame : p.advance.motion.pointerInflightCount = p.motion.pointerInflightCount := rfl
      rw [hfrontx, hsame, htail, hinflight]
      cases (recordOf x.toEsbPayload).deltas.isZero <;> simp

/-- **A failure keeps it just when the FIFO is full**, and flushed. -/
theorem mirror_fail_iff (hs : p.Sound) (h : p.Mirror cfg) {q : Queued}
    (hq : p.onAir = some q) :
    (TxMove.fail.apply cfg p).Mirror cfg ↔ p.full cfg = true := by
  have hfull : (p.halt.consume cfg true).full cfg = p.full cfg := rfl
  simp only [TxMove.apply, fail, hfull]
  cases p.full cfg with
  | true => exact iff_of_true (mirror_flush hs.initialized rfl) rfl
  | false =>
    refine iff_of_false ?_ Bool.false_ne_true
    intro hm
    rw [if_neg Bool.false_ne_true] at hm
    -- the record is popped, and the packet still queued
    have hempty := (h.pops q hq).1
    have hrecent : (p.halt.consume cfg true).motion.recent = p.motion.recent.pop :=
      consume_recent hempty
    have hlive := h.live
    have hlive' := hm.live
    have hpop := Ring.live_pop p.motion.recent hempty
    have hfifo : (p.halt.consume cfg true).fifo = p.fifo := rfl
    rw [hrecent, hfifo] at hlive'
    omega

end TxPath

/-! ## Runs -/

variable (cfg : Config)

/-- The moves that empty the FIFO. -/
def TxMove.flushes : TxMove → Bool
  | .flush _ => true
  | .queue flushed _ _ => flushed
  | _ => false

/-- The runs the mirror is about: nothing is on the air at a flush, and
at most `POINTER_MOTION_RING_SIZE` packets are queued. -/
def Outstanding (e : Endpoint) (op : TxOp) : Prop :=
  ((op.move cfg e).flushes = true → e.radio.state.onAir = none) ∧
    (txStep cfg e op).radio.txFifo.length ≤ cfg.pointerMotionRingSize

/-- The ring of an endpoint mirrors its FIFO. -/
def RingMirrors (e : Endpoint) : Prop := (e.path cfg).Mirror cfg

/-- The condition on an operation: what a send queues, the radio takes,
and its record overwrites no other that is still to be consumed; and no
packet fails on a FIFO that is not full. -/
def MirrorKept (e : Endpoint) : TxOp → Prop
  | .send pipe data => sendQueues cfg e data = true →
      (data ≠ [] ∧ pipe < cfg.esbPipeCount) ∧
        (sendBase cfg e data).motion.recent.Room (motionSlot cfg)
          (recordOf ((sendBase cfg e data).outgoing cfg pipe data).2)
  | .txDone .exhausted => canEnd cfg e .exhausted = true → esbTxFull cfg e.radio = true
  | _ => True

/-- What the runs keep, whatever becomes of the mirror. -/
structure AirSound (e : Endpoint) : Prop where
  path : (e.path cfg).Sound
  air : (e.path cfg).AirHead

variable {cfg} {e : Endpoint}

theorem airHead_put {p : TxPath} (h : p.AirHead) (payload : EsbPayload) :
    (p.put payload).AirHead := by
  intro q hq
  simp only [TxPath.put] at hq ⊢
  split at hq
  · exact hq
  · rw [List.head?_append, h q hq]
    rfl

theorem airHead_of_onAir {p : TxPath} (h : p.onAir = none) : p.AirHead :=
  fun _ hq => absurd (h.symm.trans hq) (by simp)

theorem airHead_queue {p : TxPath} (h : p.AirHead) (pipe : Nat) (data : List UInt8) :
    (p.queue cfg pipe data).1.AirHead := by
  simp only [TxPath.queue, TxPath.tryPut]
  split
  · exact h
  · exact airHead_put (p := p.withMotion _) h _

theorem airHead_apply {p : TxPath} (h : p.AirHead) {move : TxMove}
    (hquiet : move.flushes = true → p.onAir = none) : (move.apply cfg p).AirHead := by
  cases move with
  | rest now => exact h
  | flush newChannel =>
    rw [TxMove.apply]
    split <;> exact airHead_of_onAir (hquiet rfl)
  | queue flushed pipe data =>
    rw [TxMove.apply]
    split
    · rename_i hf
      exact airHead_queue (p := p.flush) (airHead_of_onAir (hquiet hf)) pipe data
    · exact airHead_queue h pipe data
  | advance => exact fun _ hq => hq
  | fail =>
    simp only [TxMove.apply, TxPath.fail]
    split <;> exact airHead_of_onAir rfl

theorem AirSound.step (h : AirSound cfg e) {op : TxOp}
    (hquiet : (op.move cfg e).flushes = true → e.radio.state.onAir = none) :
    AirSound cfg (txStep cfg e op) := by
  refine ⟨sound_txStep cfg h.path op, ?_⟩
  rw [path_txStep cfg e op h.path.syncing]
  exact airHead_apply h.air hquiet

theorem airSound_start (deviceId : List UInt8) (saved : Option PairedRec) :
    AirSound cfg (Endpoint.start cfg deviceId saved) := by
  refine ⟨sound_of_start cfg deviceId saved, ?_⟩
  rw [path_start]
  exact airHead_of_onAir rfl

theorem ringMirrors_start (deviceId : List UInt8) (saved : Option PairedRec) :
    RingMirrors cfg (Endpoint.start cfg deviceId saved) := by
  rw [RingMirrors, path_start]
  exact TxPath.mirror_of_contents (airHead_of_onAir rfl) (Ring.contents_empty _ _) rfl

theorem ringMirrors_send_iff (h : AirSound cfg e) (hm : RingMirrors cfg e) {pipe : Nat}
    {data : List UInt8} (hop : Outstanding cfg e (.send pipe data)) :
    RingMirrors cfg (txStep cfg e (.send pipe data)) ↔ MirrorKept cfg e (.send pipe data) := by
  have hair := (h.step hop.1).air
  have hlen : ((txStep cfg e (.send pipe data)).path cfg).fifo.length ≤
      cfg.pointerMotionRingSize := hop.2
  have hbase : sendQueues cfg e data = true → (sendBase cfg e data).Mirror cfg := by
    intro hq
    rw [sendBase]
    split
    · rename_i hf
      refine TxPath.mirror_flush h.path.initialized (hop.1 ?_)
      rw [TxOp.move, if_pos hq]
      exact hf
    · exact hm
  rw [RingMirrors, MirrorKept]
  rcases send_cases h.path pipe data with ⟨hq, hpath⟩ | ⟨hq, hrefused, hpath⟩ | ⟨hq, hacc, hpath⟩
  · rw [hpath, hq]
    exact iff_of_true hm fun hc => Bool.noConfusion hc
  · rw [hpath] at hlen ⊢
    exact iff_of_false (TxPath.not_mirror_refused (hbase hq) hlen) fun hc => hrefused (hc hq).1
  · rw [hpath] at hlen hair ⊢
    rw [TxPath.mirror_put_iff (hbase hq) hair (by simpa [TxPath.put, TxPath.withMotion] using hlen)]
    exact ⟨fun hroom _ => ⟨hacc, hroom⟩, fun hc => (hc hq).2⟩

/-- **What a step does to the mirror.** -/
theorem ringMirrors_step_iff (h : AirSound cfg e) (hm : RingMirrors cfg e) {op : TxOp}
    (hop : Outstanding cfg e op) :
    RingMirrors cfg (txStep cfg e op) ↔ MirrorKept cfg e op := by
  have hflush : ∀ new, (op.move cfg e) = .flush new →
      ((TxMove.flush new).apply cfg (e.path cfg)).Mirror cfg := by
    intro new hmove
    have hquiet := hop.1 (by rw [hmove]; rfl)
    have hmirror := @TxPath.mirror_flush cfg _ h.path.initialized hquiet
    rw [TxMove.apply]
    split
    · exact ⟨hmirror.1, hmirror.2, hmirror.3⟩
    · exact hmirror
  cases op with
  | send pipe data => exact ringMirrors_send_iff h hm hop
  | txDone outcome =>
    have hstep := path_txStep cfg e (.txDone outcome) h.path.syncing
    rw [TxOp.move] at hstep
    rw [RingMirrors, hstep]
    cases hend : canEnd cfg e outcome with
    | false =>
      refine iff_of_true hm ?_
      cases outcome with
      | exhausted => exact fun hc => Bool.noConfusion (hend.symm.trans hc)
      | _ => trivial
    | true =>
      -- a success takes both heads, a failure the ring's alone, unless it flushes
      obtain ⟨q, hq⟩ := onAir_of_canEnd cfg e hend
      cases outcome with
      | exhausted =>
        rw [if_pos rfl, if_pos rfl, TxPath.mirror_fail_iff h.path hm hq]
        exact ⟨fun hf _ => hf, fun hc => hc hend⟩
      | sent => exact iff_of_true (TxPath.mirror_advance hm hq) trivial
      | acked retries reply => exact iff_of_true (TxPath.mirror_advance hm hq) trivial
  | setChannel channel =>
    refine iff_of_true ?_ trivial
    rw [RingMirrors, path_txStep cfg e _ h.path.syncing]
    simp only [TxOp.move] at hflush ⊢
    split at hflush
    · rename_i hconf
      rw [if_pos hconf]
      exact hm
    · rename_i hconf
      rw [if_neg hconf]
      exact hflush _ rfl
  | flushTx =>
    refine iff_of_true ?_ trivial
    rw [RingMirrors, path_txStep cfg e _ h.path.syncing]
    exact hflush false rfl
  | _ =>
    refine iff_of_true ?_ trivial
    rw [RingMirrors, path_txStep cfg e _ h.path.syncing]
    exact ⟨hm.1, hm.2, hm.3⟩

/-- **The motion ring mirrors the FIFO throughout a run, exactly when every
queued send is taken and finds room for its record, and every failure
finds the FIFO full.** -/
theorem ringMirrors_iff (cfg : Config) (deviceId : List UInt8) (saved : Option PairedRec)
    (ops : List TxOp)
    (h : Guarded (txStep cfg) (Outstanding cfg) (Endpoint.start cfg deviceId saved) ops) :
    Throughout (txStep cfg) (RingMirrors cfg) (Endpoint.start cfg deviceId saved) ops ↔
      Guarded (txStep cfg) (MirrorKept cfg) (Endpoint.start cfg deviceId saved) ops :=
  throughout_iff_guarded (I := AirSound cfg) (fun _ _ hi hop => hi.step hop.1)
    (fun _ _ hi hop hm => ringMirrors_step_iff hi hm hop) (airSound_start deviceId saved)
    (ringMirrors_start deviceId saved) h

/-- A move of the pointer, acknowledged. -/
theorem ringMirrors_iff_acked :
    Throughout (txStep .default) (RingMirrors .default) (Endpoint.start .default [] none)
        [.send esbPipeData [esbPktHidReport, esbReportMouse, 0, 5, 0, 0, 0, 0, 0, 0, 0],
          .txDone (.acked 0 [])] ↔
      Guarded (txStep .default) (MirrorKept .default) (Endpoint.start .default [] none)
        [.send esbPipeData [esbPktHidReport, esbReportMouse, 0, 5, 0, 0, 0, 0, 0, 0, 0],
          .txDone (.acked 0 [])] :=
  ringMirrors_iff .default [] none _
    ⟨⟨by decide +kernel, by decide +kernel⟩, ⟨by decide +kernel, by decide +kernel⟩, trivial⟩

/-- A move that runs out of retries leaves a packet without its record. -/
theorem not_ringMirrors : ¬ ∀ (cfg : Config) (deviceId : List UInt8) (saved : Option PairedRec)
    (ops : List TxOp),
    Guarded (txStep cfg) (Outstanding cfg) (Endpoint.start cfg deviceId saved) ops →
      Throughout (txStep cfg) (RingMirrors cfg) (Endpoint.start cfg deviceId saved) ops := by
  intro h
  have hrun := h .default [] none
    [.send esbPipeData [esbPktHidReport, esbReportMouse, 0, 5, 0, 0, 0, 0, 0, 0, 0],
      .txDone .exhausted]
    ⟨⟨by decide +kernel, by decide +kernel⟩, ⟨by decide +kernel, by decide +kernel⟩, trivial⟩
  exact absurd hrun.2.2.live (by decide +kernel)

end EsbEndpoint
