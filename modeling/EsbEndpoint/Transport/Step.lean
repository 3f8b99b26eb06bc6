import EsbEndpoint.Common.Run
import EsbEndpoint.Hop.Work
import EsbEndpoint.Transport.Slot

/-!
# Runs of the transport

The operations a slot's traffic is made of, one step each, and what each
does to the transmit path (`path_txStep`): it rests, is flushed, queues a
packet, advances or fails. Entering idle is three of them in a row, so
that anything may come between (`enterIdleState_eq_run`). `Sound` is what
every reachable path satisfies, whatever the order of operations.
-/

namespace EsbEndpoint

/-- An operation of the transport, or of the world on it. -/
inductive TxOp
  /-- `esb_transport_send` -/
  | send (pipe : Nat) (data : List UInt8)
  /-- a transmission ends and its events are handled -/
  | txDone (outcome : TxOutcome)
  /-- `esb_transport_set_channel` -/
  | setChannel (channel : UInt8)
  /-- `esb_transport_flush_tx` -/
  | flushTx
  /-- `enter_idle_state`, up to its flush -/
  | idleBegin
  /-- `channel_hop_ep_on_connected` -/
  | connected
  /-- time passes -/
  | tick (ms : Nat)

variable (cfg : Config) (e : Endpoint)

def txStep : TxOp → Endpoint
  | .send pipe data => (esbTransportSend cfg e pipe data).1
  | .txDone outcome => txDone cfg e outcome
  | .setChannel channel => (esbTransportSetChannel cfg e channel).1
  | .flushTx => esbTransportFlushTx cfg e
  | .idleBegin => if e.hop.active then e.mapHop (enterIdleBegin cfg) else e
  | .connected => e.mapHop (channelHopEpOnConnected cfg)
  | .tick ms => { e with uptime := e.uptime + ms }

/-- **An idle transition is a run**: the state change, the flush and the
`IDLE` packet. -/
theorem enterIdleState_eq_run (h : e.hop.active = true) :
    enterIdleState cfg e =
      runFrom (txStep cfg) e [.idleBegin, .flushTx, .send esbPipeData [esbPktIdle]] := by
  simp only [enterIdleState, h, Bool.not_true, Bool.false_eq_true, if_false, sendIdlePacket,
    runFrom, List.foldl_cons, List.foldl_nil, txStep, if_true]

/-! ## Moves -/

/-- What an operation does to the transmit path. -/
inductive TxMove
  | rest (now : UInt32)
  | flush (newChannel : Bool)
  | queue (flushed : Bool) (pipe : Nat) (data : List UInt8)
  | advance
  | fail
  deriving DecidableEq

def TxMove.apply (p : TxPath) : TxMove → TxPath
  | .rest now => { p with now }
  | .flush newChannel => if newChannel then p.flush.dropRefund else p.flush
  | .queue flushed pipe data => ((if flushed then p.flush else p).queue cfg pipe data).1
  | .advance => p.advance.consume cfg false
  | .fail => p.fail cfg

/-- A packet that is still queued or on the air after a move: a flush
spares what is on the air, a success what is behind the head, and a
failure what is queued, if the FIFO is not full. -/
def TxMove.Spares (p : TxPath) (q : Queued) : TxMove → Prop
  | .rest _ => True
  | .flush _ => p.onAir = some q
  | .queue flushed _ _ => flushed = true → p.onAir = some q
  | .advance => q ∈ p.fifo.tail
  | .fail => q ∈ p.fifo ∧ p.full cfg = false

instance (p : TxPath) (q : Queued) : (move : TxMove) → Decidable (move.Spares cfg p q)
  | .rest _ => inferInstanceAs (Decidable True)
  | .flush _ => inferInstanceAs (Decidable (p.onAir = some q))
  | .queue flushed _ _ => inferInstanceAs (Decidable (flushed = true → p.onAir = some q))
  | .advance => inferInstanceAs (Decidable (q ∈ p.fifo.tail))
  | .fail => inferInstanceAs (Decidable (q ∈ p.fifo ∧ p.full cfg = false))

/-- What a packet brought by a move says: what the send was given. -/
def Queued.SentAs (q : Queued) (pipe : Nat) (data : List UInt8) : Prop :=
  q.pipe = pipe ∧ pktType q.data = pktType data ∧ q.data.length = data.length ∧
    (isMouseReport data = false → q.data = data)

/-- The move an operation makes in a state. -/
def TxOp.move : TxOp → TxMove
  | .send pipe data =>
    if sendQueues cfg e data then .queue (sendFlushes cfg e data) pipe data else .rest e.now
  | .txDone outcome =>
    if canEnd cfg e outcome then (if outcome = .exhausted then .fail else .advance)
    else .rest e.now
  | .setChannel channel =>
    if !e.tp.configured then .rest e.now
    else
      .flush ((esbTransportSetChannel cfg e channel).2.isNone && cfg.channelHop)
  | .flushTx => .flush false
  | .idleBegin => .rest e.now
  | .connected => .rest e.now
  | .tick ms => .rest (UInt32.ofNat (e.uptime + ms))

theorem path_txStep_of_ne (op : TxOp) (h : ∀ outcome, op ≠ .txDone outcome) :
    (txStep cfg e op).path cfg = (op.move cfg e).apply cfg (e.path cfg) := by
  cases op with
  | send pipe data =>
    have hsend := congrArg Prod.fst (path_esbTransportSend cfg e pipe data)
    refine hsend.trans ?_
    rw [TxOp.move]
    split <;> rfl
  | txDone outcome => exact absurd rfl (h outcome)
  | setChannel channel =>
    simp only [txStep, TxOp.move]
    rw [path_esbTransportSetChannel]
    split
    · rfl
    · simp only [TxMove.apply, Bool.and_eq_true, Option.isNone_iff_eq_none]
  | flushTx => exact path_esbFlushTxAndReset cfg e
  | idleBegin =>
    simp only [txStep, TxOp.move]
    split <;> rfl
  | connected => rfl
  | tick ms => rfl

/-- **What a step can do to the path.** -/
theorem path_txStep (op : TxOp) (h : (e.path cfg).syncing = false) :
    (txStep cfg e op).path cfg = (op.move cfg e).apply cfg (e.path cfg) := by
  cases op with
  | txDone outcome =>
    simp only [txStep, TxOp.move]
    rw [path_txDone cfg e outcome h]
    split
    · split <;> rfl
    · rfl
  | _ => exact path_txStep_of_ne cfg e _ (by simp)

/-! ## Sound paths -/

namespace TxPath

/-- What every path of a slot satisfies outside side-trips: the radio is
on, it is at rest just when nothing is on the air, the FIFO is in order
of writing, and the packet on the air is the FIFO's head or one written
before everything in it. -/
structure Sound (p : TxPath) : Prop where
  syncing : p.syncing = false
  initialized : p.initialized = true
  ready : p.ready = p.onAir.isNone
  ordered : p.fifo.Pairwise fun a b => a.serial < b.serial
  below : ∀ q ∈ p.fifo, q.serial < p.written
  onAir_below : ∀ q, p.onAir = some q → q.serial < p.written
  onAir_head : ∀ q, p.onAir = some q → p.fifo.head? = some q ∨ ∀ x ∈ p.fifo, q.serial < x.serial

variable {cfg} {p : TxPath}

theorem sound_start : Sound start :=
  ⟨rfl, rfl, rfl, List.Pairwise.nil, by simp [start], by simp [start], by simp [start]⟩

theorem Sound.withMotion (h : p.Sound) (motion : Motion) : (p.withMotion motion).Sound :=
  ⟨h.1, h.2, h.3, h.4, h.5, h.6, h.7⟩

theorem Sound.flush (h : p.Sound) : p.flush.Sound := by
  have hfifo : p.flush.fifo = [] := by rw [TxPath.flush, h.initialized, if_pos rfl]
  refine ⟨h.syncing, h.initialized, h.ready, ?_, ?_, h.onAir_below, ?_⟩
  · rw [hfifo]
    exact List.Pairwise.nil
  · rw [hfifo]
    exact fun q hq => absurd hq List.not_mem_nil
  · intro q _
    rw [hfifo]
    exact Or.inr fun x hx => absurd hx List.not_mem_nil

/-- An accepted write keeps the path sound. -/
theorem Sound.put (h : p.Sound) (payload : EsbPayload) : (p.put payload).Sound := by
  have hmem : ∀ q ∈ p.fifo ++ [({ payload with serial := p.written } : Queued)],
      q ∈ p.fifo ∨ q.serial = p.written := by
    intro q hq
    rcases List.mem_append.1 hq with hq | hq
    · exact Or.inl hq
    · exact Or.inr (by rw [List.mem_singleton.1 hq])
  have hbelow : ∀ q ∈ p.fifo ++ [({ payload with serial := p.written } : Queued)],
      q.serial < p.written + 1 := by
    intro q hq
    rcases hmem q hq with hq | hq
    · exact Nat.lt_succ_of_lt (h.below q hq)
    · omega
  refine ⟨h.syncing, h.initialized, ?_, ?_, hbelow, ?_, ?_⟩
  · -- something is on the air: the new head, or what was there
    simp only [TxPath.put]
    cases hready : p.ready with
    | true =>
      cases p.fifo with
      | nil => rfl
      | cons q qs => rfl
    | false =>
      rw [h.ready] at hready
      exact hready.symm
  · refine List.pairwise_append.2 ⟨h.ordered, List.pairwise_singleton _ _, ?_⟩
    intro a ha b hb
    rw [List.mem_singleton.1 hb]
    exact h.below a ha
  · intro q hq
    simp only [TxPath.put] at hq
    split at hq
    · exact hbelow q (List.mem_of_head? hq)
    · exact Nat.lt_succ_of_lt (h.onAir_below q hq)
  · intro q hq
    simp only [TxPath.put] at hq ⊢
    split at hq
    · exact Or.inl hq
    · rcases h.onAir_head q hq with hhead | hlt
      · exact Or.inl (by rw [List.head?_append, hhead]; rfl)
      · refine Or.inr fun x hx => ?_
        rcases hmem x hx with hx | hx
        · exact hlt x hx
        · rw [hx]
          exact h.onAir_below q hq

theorem Sound.queue (h : p.Sound) (pipe : Nat) (data : List UInt8) :
    (p.queue cfg pipe data).1.Sound := by
  simp only [TxPath.queue, TxPath.tryPut]
  split
  · exact h.withMotion _
  · exact (h.withMotion _).put _

theorem Sound.advance (h : p.Sound) : p.advance.Sound := by
  refine ⟨h.syncing, h.initialized, ?_, h.ordered.tail,
    fun q hq => h.below q (List.mem_of_mem_tail hq),
    fun q hq => h.below q (List.mem_of_mem_tail (List.mem_of_head? hq)), fun q hq => Or.inl hq⟩
  simp only [TxPath.advance]
  cases p.fifo.tail <;> rfl

theorem Sound.halt (h : p.Sound) : p.halt.Sound :=
  ⟨h.syncing, h.initialized, rfl, h.ordered, h.below, by simp [TxPath.halt], by simp [TxPath.halt]⟩

theorem Sound.fail (h : p.Sound) : (p.fail cfg).Sound := by
  simp only [TxPath.fail]
  split
  · exact (h.halt.withMotion _).flush
  · exact h.halt.withMotion _

/-- **Every move keeps a path sound.** -/
theorem Sound.apply (h : p.Sound) (move : TxMove) : (move.apply cfg p).Sound := by
  cases move with
  | rest now => exact ⟨h.1, h.2, h.3, h.4, h.5, h.6, h.7⟩
  | flush newChannel =>
    rw [TxMove.apply]
    split
    · exact h.flush.withMotion _
    · exact h.flush
  | queue flushed pipe data =>
    rw [TxMove.apply]
    split
    · exact h.flush.queue pipe data
    · exact h.queue pipe data
  | advance => exact h.advance.withMotion _
  | fail => exact h.fail

/-! ## Where packets come from -/

/-- A packet is queued or on the air. -/
def Has (p : TxPath) (q : Queued) : Prop := q ∈ p.fifo ∨ p.onAir = some q

variable {q : Queued}

theorem Sound.lt_written (h : p.Sound) (hq : p.Has q) : q.serial < p.written :=
  hq.elim (h.below q) (h.onAir_below q)

theorem Has.of_flush (h : p.flush.Has q) : p.Has q := by
  refine h.imp_left fun hmem => ?_
  rw [TxPath.flush] at hmem
  split at hmem
  · exact absurd hmem List.not_mem_nil
  · exact hmem

theorem Has.of_put {payload : EsbPayload} (h : (p.put payload).Has q) :
    p.Has q ∨ q = { payload with serial := p.written } := by
  have hmem : q ∈ p.fifo ++ [({ payload with serial := p.written } : Queued)] →
      p.Has q ∨ q = { payload with serial := p.written } := by
    intro hmem
    rcases List.mem_append.1 hmem with hmem | hmem
    · exact Or.inl (Or.inl hmem)
    · exact Or.inr (List.mem_singleton.1 hmem)
  rcases h with h | h
  · exact hmem h
  · simp only [TxPath.put] at h
    split at h
    · exact hmem (List.mem_of_head? h)
    · exact Or.inl (Or.inr h)

theorem Has.of_queue {pipe : Nat} {data : List UInt8} (h : (p.queue cfg pipe data).1.Has q) :
    p.Has q ∨ q.serial = p.written ∧ q.noack = sendNoack cfg pipe data := by
  cases hacc : (p.queue cfg pipe data).2 with
  | none =>
    rw [TxPath.queue_accepted hacc] at h
    refine (Has.of_put h).imp_right ?_
    rintro rfl
    exact ⟨rfl, TxPath.outgoing_noack⟩
  | some err =>
    rw [TxPath.queue_refused (by rw [hacc]; exact Option.some_ne_none err)] at h
    exact Or.inl h

theorem Has.of_advance (h : p.advance.Has q) : p.Has q :=
  Or.inl (List.mem_of_mem_tail (h.elim id List.mem_of_head?))

theorem Has.of_halt (h : p.halt.Has q) : p.Has q :=
  h.imp_right fun hnone => absurd hnone (by simp [TxPath.halt])

/-- **A move brings no packet but the one it queues.** -/
theorem Has.of_apply {move : TxMove} (h : (move.apply cfg p).Has q) :
    p.Has q ∨ ∃ flushed pipe data, move = .queue flushed pipe data ∧ q.serial = p.written ∧
      q.noack = sendNoack cfg pipe data := by
  cases move with
  | rest now => exact Or.inl h
  | flush newChannel =>
    rw [TxMove.apply] at h
    split at h
    · exact Or.inl (Has.of_flush h)
    · exact Or.inl (Has.of_flush h)
  | queue flushed pipe data =>
    rw [TxMove.apply] at h
    split at h
    · exact (Has.of_queue h).imp Has.of_flush fun hnew => ⟨flushed, pipe, data, rfl, hnew⟩
    · exact (Has.of_queue h).imp_right fun hnew => ⟨flushed, pipe, data, rfl, hnew⟩
  | advance => exact Or.inl (Has.of_advance h)
  | fail =>
    simp only [TxMove.apply, TxPath.fail] at h
    split at h
    · exact Or.inl (Has.of_halt (Has.of_flush h))
    · exact Or.inl (Has.of_halt h)

theorem Has.sentAs_of_queue {pipe : Nat} {data : List UInt8}
    (h : (p.queue cfg pipe data).1.Has q) : p.Has q ∨ q.SentAs pipe data := by
  cases hacc : (p.queue cfg pipe data).2 with
  | none =>
    rw [TxPath.queue_accepted hacc] at h
    refine (Has.of_put h).imp_right ?_
    rintro rfl
    exact ⟨TxPath.outgoing_pipe, TxPath.outgoing_data.1, TxPath.outgoing_length,
      TxPath.outgoing_data.2⟩
  | some err =>
    rw [TxPath.queue_refused (by rw [hacc]; exact Option.some_ne_none err)] at h
    exact Or.inl h

/-- **A move brings no packet but what its send was given.** -/
theorem Has.sentAs_of_apply {move : TxMove} (h : (move.apply cfg p).Has q) :
    p.Has q ∨ ∃ flushed pipe data, move = .queue flushed pipe data ∧ q.SentAs pipe data := by
  cases move with
  | queue flushed pipe data =>
    rw [TxMove.apply] at h
    split at h
    · exact (Has.sentAs_of_queue h).imp Has.of_flush fun hnew => ⟨flushed, pipe, data, rfl, hnew⟩
    · exact (Has.sentAs_of_queue h).imp_right fun hnew => ⟨flushed, pipe, data, rfl, hnew⟩
  | rest now => exact Or.inl ((Has.of_apply h).resolve_right (by simp))
  | flush newChannel => exact Or.inl ((Has.of_apply h).resolve_right (by simp))
  | advance => exact Or.inl ((Has.of_apply h).resolve_right (by simp))
  | fail => exact Or.inl ((Has.of_apply h).resolve_right (by simp))

/-- **What a move spares, it keeps.** -/
theorem Has.apply_of_spares {move : TxMove} (hs : p.Sound) (h : p.Has q)
    (hspares : move.Spares cfg p q) : (move.apply cfg p).Has q := by
  have hput : ∀ {p' : TxPath} (payload : EsbPayload), p'.ready = p'.onAir.isNone → p'.Has q →
      (p'.put payload).Has q := by
    intro p' payload hready hq
    rcases hq with hq | hq
    · exact Or.inl (List.mem_append_left _ hq)
    · refine Or.inr ?_
      have hbusy : p'.ready = false := by rw [hready, hq]; rfl
      unfold put
      rw [hbusy]
      exact hq
  have hqueue : ∀ {p' : TxPath} (pipe : Nat) (data : List UInt8), p'.ready = p'.onAir.isNone →
      p'.Has q → (p'.queue cfg pipe data).1.Has q := by
    intro p' pipe data hready hq
    cases hacc : (p'.queue cfg pipe data).2 with
    | none =>
      rw [TxPath.queue_accepted hacc]
      exact hput _ hready hq
    | some err =>
      rw [TxPath.queue_refused (by rw [hacc]; exact Option.some_ne_none err)]
      exact hq
  cases move with
  | rest now => exact h
  | flush newChannel =>
    have hair : p.flush.Has q := Or.inr hspares
    rw [TxMove.apply]
    split
    · exact hair
    · exact hair
  | queue flushed pipe data =>
    rw [TxMove.apply]
    split
    · rename_i hflushed
      exact hqueue pipe data hs.flush.ready (Or.inr (hspares hflushed))
    · exact hqueue pipe data hs.ready h
  | advance => exact Or.inl hspares
  | fail =>
    -- the failed packet stays at the head, unless the FIFO was full
    obtain ⟨hq, hroom⟩ := hspares
    have hroom' : (p.halt.consume cfg true).full cfg = false := hroom
    simp only [TxMove.apply, TxPath.fail, hroom', Bool.false_eq_true, if_false]
    exact Or.inl hq

theorem written_queue_le (pipe : Nat) (data : List UInt8) :
    p.written ≤ (p.queue cfg pipe data).1.written := by
  simp only [TxPath.queue, TxPath.tryPut]
  split
  · exact Nat.le_refl _
  · exact Nat.le_succ _

/-- The count of writes never goes back. -/
theorem written_apply_le (move : TxMove) : p.written ≤ (move.apply cfg p).written := by
  cases move with
  | rest now => exact Nat.le_refl _
  | flush newChannel =>
    rw [TxMove.apply]
    split <;> exact Nat.le_refl _
  | queue flushed pipe data =>
    rw [TxMove.apply]
    split
    · exact @written_queue_le cfg p.flush pipe data
    · exact written_queue_le pipe data
  | advance => exact Nat.le_refl _
  | fail =>
    simp only [TxMove.apply, TxPath.fail]
    split <;> exact Nat.le_refl _

/-! ## Packets that are gone -/

/-- A packet that has left the FIFO and the air for good. -/
def Gone (p : TxPath) (n : Nat) : Prop := n < p.written ∧ ∀ q, p.Has q → q.serial ≠ n

variable {n : Nat}

theorem Gone.of_has {p' : TxPath} (h : p.Gone n) (hwritten : p.written ≤ p'.written)
    (hhas : ∀ q, p'.Has q → p.Has q ∨ q.serial = p.written) : p'.Gone n := by
  obtain ⟨hlt, hleft⟩ := h
  refine ⟨by omega, fun q hq => ?_⟩
  rcases hhas q hq with hold | hnew
  · exact hleft q hold
  · omega

/-- **What is gone stays gone.** -/
theorem Gone.apply (h : p.Gone n) (move : TxMove) : (move.apply cfg p).Gone n := by
  refine h.of_has (written_apply_le move) fun q hq => ?_
  rcases Has.of_apply hq with hold | ⟨-, -, -, -, hserial, -⟩
  · exact Or.inl hold
  · exact Or.inr hserial

/-- Where nothing is, all is gone. -/
theorem Gone.of_empty (hfifo : p.fifo = []) (hair : p.onAir = none) (hwritten : n < p.written) :
    p.Gone n := by
  refine ⟨hwritten, fun q hq => ?_⟩
  rcases hq with hq | hq
  · rw [hfifo] at hq
    exact absurd hq List.not_mem_nil
  · rw [hair] at hq
    exact absurd hq (by simp)

end TxPath

/-- A sound endpoint stays sound. -/
theorem sound_txStep {e : Endpoint} (h : (e.path cfg).Sound) (op : TxOp) :
    ((txStep cfg e op).path cfg).Sound := by
  rw [path_txStep cfg e op h.syncing]
  exact h.apply _

theorem sound_of_start (deviceId : List UInt8) (saved : Option PairedRec) :
    ((Endpoint.start cfg deviceId saved).path cfg).Sound := by
  rw [path_start]
  exact TxPath.sound_start

/-! ## Sends -/

/-- The path a queued send finds, after its flush if it makes one. -/
def sendBase (data : List UInt8) : TxPath :=
  if sendFlushes cfg e data then (e.path cfg).flush else e.path cfg

variable {cfg} {e}
variable {pipe : Nat} {data : List UInt8}

theorem sendReaches_length (h : sendReaches cfg e data = true) :
    data.length ≤ cfg.esbMaxPayloadLength := by
  simp only [sendReaches, Bool.and_eq_true, decide_eq_true_eq] at h
  exact h.1.1

theorem sendQueues_of_flushes (h : sendFlushes cfg e data = true) :
    sendQueues cfg e data = true := by
  simp only [sendFlushes, sendQueues, Bool.and_eq_true, Bool.not_eq_true'] at h ⊢
  exact ⟨h.1.1, by rw [h.2, Bool.and_false]⟩

theorem sendReaches_of_queues (h : sendQueues cfg e data = true) :
    sendReaches cfg e data = true := by
  simp only [sendQueues, Bool.and_eq_true] at h
  exact h.1

/-- A queued send finds room: it flushes whenever the FIFO is full. -/
theorem full_sendBase (hi : e.radio.initialized = true) (hq : sendQueues cfg e data = true) :
    (sendBase cfg e data).full cfg = false := by
  rw [sendBase]
  split
  · rw [TxPath.full, TxPath.fifo_flush (show (e.path cfg).initialized = true from hi)]
    exact decide_eq_false (Nat.not_le.2 cfg.txFifo_pos)
  · rename_i hflush
    simp only [sendFlushes, sendQueues, Bool.and_eq_true, Bool.not_eq_true'] at hflush hq
    cases hfull : esbTxFull cfg e.radio with
    | false => exact hfull
    | true =>
      rw [hfull, Bool.true_and] at hq
      exact absurd ⟨⟨hq.1, hfull⟩, hq.2⟩ hflush

theorem sendBase_initialized : (sendBase cfg e data).initialized = e.radio.initialized := by
  rw [sendBase]
  split <;> rfl

/-- What a queued send writes, it writes unless it is empty or names a
pipe the radio does not have. -/
theorem send_accepted_iff (hi : e.radio.initialized = true) (hq : sendQueues cfg e data = true) :
    ((sendBase cfg e data).queue cfg pipe data).2 = none ↔
      data ≠ [] ∧ pipe < cfg.esbPipeCount := by
  rw [TxPath.queue_eq_none_iff (sendBase_initialized.trans hi)
    (sendReaches_length (sendReaches_of_queues hq)), full_sendBase hi hq]
  simp only [true_and]

theorem path_send_of_queues (h : (e.path cfg).Sound) (hq : sendQueues cfg e data = true) :
    (txStep cfg e (.send pipe data)).path cfg = ((sendBase cfg e data).queue cfg pipe data).1 := by
  rw [path_txStep cfg e _ h.syncing, TxOp.move, if_pos hq]
  rfl

theorem path_send_of_not_queues (h : (e.path cfg).Sound) (hq : sendQueues cfg e data = false) :
    (txStep cfg e (.send pipe data)).path cfg = e.path cfg := by
  rw [path_txStep cfg e _ h.syncing, TxOp.move, if_neg (by rw [hq]; exact Bool.false_ne_true)]
  rfl

/-- **What a send does**: it leaves the path alone, or it queues and its
write is refused, or it queues and its packet is appended. -/
theorem send_cases (h : (e.path cfg).Sound) (pipe : Nat) (data : List UInt8) :
    sendQueues cfg e data = false ∧
        (txStep cfg e (.send pipe data)).path cfg = e.path cfg ∨
      sendQueues cfg e data = true ∧ ¬(data ≠ [] ∧ pipe < cfg.esbPipeCount) ∧
        (txStep cfg e (.send pipe data)).path cfg =
          (sendBase cfg e data).withMotion ((sendBase cfg e data).outgoing cfg pipe data).1 ∨
      sendQueues cfg e data = true ∧ (data ≠ [] ∧ pipe < cfg.esbPipeCount) ∧
        (txStep cfg e (.send pipe data)).path cfg =
          ((sendBase cfg e data).withMotion ((sendBase cfg e data).outgoing cfg pipe data).1).put
            ((sendBase cfg e data).outgoing cfg pipe data).2 := by
  cases hq : sendQueues cfg e data with
  | false => exact Or.inl ⟨rfl, path_send_of_not_queues h hq⟩
  | true =>
    refine Or.inr ?_
    rw [path_send_of_queues h hq]
    by_cases hacc : data ≠ [] ∧ pipe < cfg.esbPipeCount
    · exact Or.inr ⟨rfl, hacc, TxPath.queue_accepted ((send_accepted_iff h.initialized hq).2 hacc)⟩
    · exact Or.inl ⟨rfl, hacc, TxPath.queue_refused (mt (send_accepted_iff h.initialized hq).1 hacc)⟩

/-- A queued send returns what the radio returns. -/
theorem send_error_of_queues (hq : sendQueues cfg e data = true) :
    (esbTransportSend cfg e pipe data).2 = ((sendBase cfg e data).queue cfg pipe data).2 := by
  have hsend := congrArg Prod.snd (path_esbTransportSend cfg e pipe data)
  rw [if_pos hq] at hsend
  exact hsend

theorem sendFlushes_of_not_queues (h : sendQueues cfg e data = false) :
    sendFlushes cfg e data = false := by
  cases hf : sendFlushes cfg e data with
  | false => rfl
  | true => exact (sendQueues_of_flushes hf).symm.trans h

theorem sendBase_written : (sendBase cfg e data).written = e.radio.written := by
  rw [sendBase]
  split <;> rfl

theorem sendBase_fifo (h : (e.path cfg).Sound) :
    (sendBase cfg e data).fifo = if sendFlushes cfg e data then [] else e.radio.txFifo := by
  rw [sendBase]
  split
  · exact TxPath.fifo_flush h.initialized
  · rfl

end EsbEndpoint
