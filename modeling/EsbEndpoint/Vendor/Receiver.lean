import EsbEndpoint.Common.Run
import EsbEndpoint.Vendor.Driver

/-!
# The radio as a receiver

What `esb.c` does in PRX mode, in terms of its queues: the ACK payloads of
a pipe are a FIFO (`ackQueue`), whatever slots of the shared pool they are
in. `Heard` is all a packet that reaches the receiver can do to it, and the
rest of the development takes it from there.
-/

namespace EsbEndpoint

namespace Driver

variable (cfg : Config) (d : Driver)

/-- The ACK payloads that wait on a pipe, the first one first. -/
def ackQueue (pipe : Nat) : List Slot :=
  (d.ackPlWrap.cellsOf cfg.esbTxFifoSize pipe).map d.txFifo.slots

/-- **The receiver's statics fit together**: the pool holds its queues, and
`tx_fifo.count` counts what is in them. -/
structure PrxSound : Prop where
  initialized : d.initialized = true
  mode : d.esbCfg.mode = .prx
  state : d.state = .idle ∨ d.state = .prx ∨ d.state = .prxSendAck
  rxFifo : d.rxFifo.Sound cfg.esbRxFifoSize
  pool : ∃ cells, d.ackPlWrap.Holds cfg.esbTxFifoSize cfg.esbPipeCount cells ∧
    d.txFifo.count = Pool.size cfg.esbPipeCount cells

variable {cfg d}

/-- The slots a pool that holds `cells` gives its queues. -/
theorem ackQueue_eq {cells : Nat → List Nat}
    (h : d.ackPlWrap.Holds cfg.esbTxFifoSize cfg.esbPipeCount cells) (pipe : Nat) :
    d.ackQueue cfg pipe = (cells pipe).map d.txFifo.slots := by
  rw [ackQueue, h.cellsOf_eq]

/-- **The count is that of all queues.** -/
theorem PrxSound.count_eq (h : d.PrxSound cfg) :
    d.txFifo.count = ∑ pipe ∈ Finset.range cfg.esbPipeCount, (d.ackQueue cfg pipe).length := by
  obtain ⟨cells, hholds, hcount⟩ := h.pool
  rw [hcount, Pool.size]
  refine Finset.sum_congr rfl fun pipe _ => ?_
  rw [ackQueue_eq hholds, List.length_map]

/-- A queue that holds something is one of the pipes', and is counted. -/
theorem PrxSound.pipe_of_ne_nil (h : d.PrxSound cfg) {pipe : Nat} (hne : d.ackQueue cfg pipe ≠ []) :
    pipe < cfg.esbPipeCount ∧ 0 < d.txFifo.count := by
  obtain ⟨cells, hholds, -⟩ := h.pool
  have hpipe : pipe < cfg.esbPipeCount := by
    rw [ackQueue_eq hholds, Ne, List.map_eq_nil_iff] at hne
    obtain ⟨i, is, hcells⟩ := List.exists_cons_of_ne_nil hne
    exact hholds.queue_lt pipe i (by rw [hcells]; exact List.mem_cons_self)
  refine ⟨hpipe, ?_⟩
  rw [h.count_eq]
  exact Finset.sum_pos' (fun _ _ => Nat.zero_le _)
    ⟨pipe, Finset.mem_range.2 hpipe, List.length_pos_iff.2 hne⟩

/-- The first payload of a pipe is where its link says. -/
theorem PrxSound.ackPayloadOf_eq (h : d.PrxSound cfg) (pipe : Nat) :
    d.ackPayloadOf pipe = (d.ackQueue cfg pipe).head? := by
  obtain ⟨cells, hholds, -⟩ := h.pool
  rw [ackQueue_eq hholds, List.head?_map, ackPayloadOf, (hholds.chain pipe).head?]

theorem PrxSound.head_isSome (h : d.PrxSound cfg) (pipe : Nat) :
    (d.ackPlWrap.head pipe).isSome = true ↔ d.ackQueue cfg pipe ≠ [] := by
  have hhead := h.ackPayloadOf_eq pipe
  have hsome : (d.ackPlWrap.head pipe).isSome = (d.ackQueue cfg pipe).head?.isSome := by
    rw [← hhead, ackPayloadOf, Option.isSome_map]
  rw [hsome]
  cases d.ackQueue cfg pipe <;> simp

/-! ## Writing and dropping -/

/-- **An ACK payload goes behind those of its pipe.** Once there is room
there is a free slot. -/
theorem PrxSound.enqueueAck (h : d.PrxSound cfg) {p : EsbPayload}
    (hroom : d.txFifo.count < cfg.esbTxFifoSize) (hpipe : p.pipe < cfg.esbPipeCount) :
    (d.enqueueAck cfg p).PrxSound cfg ∧
      (∀ pipe, (d.enqueueAck cfg p).ackQueue cfg pipe =
        if pipe = p.pipe then d.ackQueue cfg pipe ++ [d.stored p] else d.ackQueue cfg pipe) ∧
      ∃ txFifo ackPlWrap, d.enqueueAck cfg p =
        { d with
          txFifo := txFifo
          ackPlWrap := ackPlWrap
          pids := Function.update d.pids p.pipe (d.nextPid p.pipe)
          written := d.written + 1 } := by
  obtain ⟨cells, hholds, hcount⟩ := h.pool
  obtain ⟨i, hfind, hi, hfree⟩ := hholds.exists_free (hcount ▸ hroom)
  have happend := hholds.append hpipe hi hfree
  have hdef : d.enqueueAck cfg p =
      { d with
        ackPlWrap := d.ackPlWrap.append cfg.esbTxFifoSize p.pipe i
        txFifo := { d.txFifo with
          slots := Function.update d.txFifo.slots i (d.stored p)
          count := d.txFifo.count + 1 }
        pids := Function.update d.pids p.pipe (d.nextPid p.pipe)
        written := d.written + 1 } := by
    rw [Driver.enqueueAck, hfind]
  have hsize := @Pool.size_update _ _ cells hpipe (cells p.pipe ++ [i])
  rw [List.length_append, List.length_singleton] at hsize
  rw [hdef]
  refine ⟨⟨h.initialized, h.mode, h.state, h.rxFifo, _, happend, ?_⟩, fun pipe => ?_, _, _, rfl⟩
  · show d.txFifo.count + 1 = _
    omega
  · -- the slot was free, so no other queue sees it written
    have hfresh : ∀ q, ∀ j ∈ cells q, Function.update d.txFifo.slots i (d.stored p) j =
        d.txFifo.slots j := by
      intro q j hj
      refine Function.update_of_ne (fun heq => ?_) _ _
      exact Bool.noConfusion (hfree.symm.trans ((hholds.inUse_iff i).2 ⟨q, heq ▸ hj⟩))
    rw [ackQueue_eq happend, ackQueue_eq hholds]
    show List.map (Function.update d.txFifo.slots i (d.stored p)) _ = _
    split
    · rename_i heq
      rw [heq, Function.update_self, List.map_append, List.map_congr_left (hfresh _),
        List.map_singleton, Function.update_self]
    · rename_i hne
      rw [Function.update_of_ne hne, List.map_congr_left (hfresh _)]

/-- **The first payload of a pipe goes**, and of no other. -/
theorem PrxSound.dropAckPayload (h : d.PrxSound cfg) {pipe : Nat}
    (hne : d.ackQueue cfg pipe ≠ []) :
    (d.dropAckPayload pipe).PrxSound cfg ∧
      ∀ q, (d.dropAckPayload pipe).ackQueue cfg q =
        if q = pipe then (d.ackQueue cfg q).tail else d.ackQueue cfg q := by
  obtain ⟨hpipe, -⟩ := h.pipe_of_ne_nil hne
  obtain ⟨cells, hholds, hcount⟩ := h.pool
  obtain ⟨i, is, hcells⟩ : ∃ i is, cells pipe = i :: is := by
    rw [ackQueue_eq hholds, Ne, List.map_eq_nil_iff] at hne
    exact List.exists_cons_of_ne_nil hne
  have hdrop := hholds.dropHead hcells
  have hsize := @Pool.size_update _ _ cells hpipe is
  rw [hcells, List.length_cons] at hsize
  refine ⟨⟨h.initialized, h.mode, h.state, h.rxFifo, _, hdrop, ?_⟩, fun q => ?_⟩
  · show d.txFifo.count - 1 = _
    omega
  · have hqueue : (d.dropAckPayload pipe).ackQueue cfg q =
        (Function.update cells pipe is q).map d.txFifo.slots :=
      @ackQueue_eq cfg (d.dropAckPayload pipe) _ hdrop q
    rw [hqueue, ackQueue_eq hholds]
    split
    · rename_i heq
      rw [heq, Function.update_self, hcells, List.map_cons, List.tail_cons]
    · rename_i hne'
      rw [Function.update_of_ne hne']

/-! ## A packet arrives -/

/-- Whether an ACK is sent to a packet. -/
def answers (d : Driver) (pdu : Pdu) : Bool := !d.esbCfg.selectiveAutoAck || pdu.noAck

/-- Whether a packet shows that the ACK payload sent last has been got. -/
def drops (cfg : Config) (crc : Nat → Nat → Bool → List UInt8 → UInt16) (d : Driver) (pipe : Nat)
    (pdu : Pdu) : Bool :=
  d.answers pdu && (d.rxPipeInfo pipe).ackPayload && !d.repeats crc pipe pdu &&
    !(d.ackQueue cfg pipe).isEmpty

/-- Whether a packet is put into the receive FIFO. -/
def takes (cfg : Config) (crc : Nat → Nat → Bool → List UInt8 → UInt16) (d : Driver) (pipe : Nat)
    (pdu : Pdu) : Bool :=
  !d.repeats crc pipe pdu && decide (pdu.data.length ≤ cfg.esbMaxPayloadLength)

/-- The ACK with the payload of a slot, or with none. -/
def ackWith (pdu : Pdu) (slot : Option Slot) : Pdu :=
  ⟨pdu.pid, pdu.noAck, (slot.map fun p => p.data).getD [], (slot.map fun p => p.serial).getD 0⟩

/-- **What a packet does to a receiver that has room for it.** -/
structure Heard (cfg : Config) (crc : Nat → Nat → Bool → List UInt8 → UInt16) (pipe : Nat)
    (pdu : Pdu) (d d' : Driver) : Prop where
  sound : d'.PrxSound cfg
  state : d'.state = if d.answers pdu then .prxSendAck else d.state
  rxFifo : d'.rxFifo.contents cfg.esbRxFifoSize = d.rxFifo.contents cfg.esbRxFifoSize ++
    if d.takes cfg crc pipe pdu then [received pipe pdu] else []
  queue : ∀ q, d'.ackQueue cfg q =
    if q = pipe ∧ d.drops cfg crc pipe pdu then (d.ackQueue cfg q).tail else d.ackQueue cfg q
  rxPipeInfo : d'.rxPipeInfo = Function.update d.rxPipeInfo pipe
    ⟨crc pipe pdu.pid pdu.noAck pdu.data, pdu.pid,
      if d.answers pdu then !(d'.ackQueue cfg pipe).isEmpty else (d.rxPipeInfo pipe).ackPayload⟩
  answer : d.answers pdu = true → d'.txAddress = pipe ∧
    d'.txPayloadBuffer = ackWith pdu (d'.ackQueue cfg pipe).head?
  frame : d'.esbCfg = d.esbCfg ∧ d'.pids = d.pids ∧ d'.written = d.written

/-- What the ACK to a packet does to the queues. -/
structure Answered (cfg : Config) (retransmitPayload : Bool) (pipe : Nat) (pdu : Pdu)
    (d d' : Driver) : Prop where
  sound : d'.PrxSound cfg
  queue : ∀ q, d'.ackQueue cfg q =
    if q = pipe ∧ ((d.rxPipeInfo pipe).ackPayload && !retransmitPayload &&
        !(d.ackQueue cfg pipe).isEmpty) = true
      then (d.ackQueue cfg q).tail else d.ackQueue cfg q
  rxPipeInfo : d'.rxPipeInfo = Function.update d.rxPipeInfo pipe
    { d.rxPipeInfo pipe with ackPayload := !(d'.ackQueue cfg pipe).isEmpty }
  answer : d'.txPayloadBuffer = ackWith pdu (d'.ackQueue cfg pipe).head?
  frame : d'.rxFifo = d.rxFifo ∧ d'.state = d.state ∧ d'.esbCfg = d.esbCfg ∧ d'.pids = d.pids ∧
    d'.written = d.written

theorem PrxSound.setPipeInfo (h : d.PrxSound cfg) (pipe : Nat) (info : PipeInfo) :
    (d.setPipeInfo pipe info).PrxSound cfg := ⟨h.initialized, h.mode, h.state, h.rxFifo, h.pool⟩

/-- There is a head unless the list is empty. -/
theorem isSome_head?_eq {α : Type*} (l : List α) : l.head?.isSome = !l.isEmpty := by
  cases l <;> rfl

theorem PrxSound.onRadioDisabledRxDpl (h : d.PrxSound cfg) (retransmitPayload : Bool) (pipe : Nat)
    (pdu : Pdu) :
    Answered cfg retransmitPayload pipe pdu d
      (d.onRadioDisabledRxDpl retransmitPayload pipe pdu) := by
  unfold Driver.onRadioDisabledRxDpl
  dsimp only
  by_cases hoffer : 0 < d.txFifo.count ∧ (d.ackPlWrap.head pipe).isSome
  · have hne : d.ackQueue cfg pipe ≠ [] := (h.head_isSome pipe).1 hoffer.2
    have hempty : (d.ackQueue cfg pipe).isEmpty = false := by simpa using hne
    rw [if_pos hoffer]
    by_cases hdrop : ((d.rxPipeInfo pipe).ackPayload && !retransmitPayload) = true
    · rw [if_pos hdrop]
      obtain ⟨hsound, hqueue⟩ := h.dropAckPayload hne
      -- what is left of the queue is offered, or nothing if it was the last
      have hleft : (if 0 < (d.dropAckPayload pipe).txFifo.count then
          (d.dropAckPayload pipe).ackPayloadOf pipe else none) =
            ((d.dropAckPayload pipe).ackQueue cfg pipe).head? := by
        split
        · exact hsound.ackPayloadOf_eq pipe
        · rename_i hcount
          have hnil : (d.dropAckPayload pipe).ackQueue cfg pipe = [] := by
            by_contra hne'
            exact hcount (hsound.pipe_of_ne_nil hne').2
          rw [hnil, List.head?_nil]
      have hslot : (if 0 < ((d.dropAckPayload pipe).raise fun f =>
          { f with txSuccess := true }).txFifo.count then
            ((d.dropAckPayload pipe).raise fun f => { f with txSuccess := true }).ackPayloadOf pipe
          else none) = ((d.dropAckPayload pipe).ackQueue cfg pipe).head? := hleft
      rw [hslot]
      refine ⟨⟨hsound.initialized, hsound.mode, hsound.state, hsound.rxFifo, hsound.pool⟩,
        fun q => ?_, ?_, rfl, rfl, rfl, rfl, rfl, rfl⟩
      · rw [hdrop, hempty]
        refine Eq.trans (hqueue q) ?_
        by_cases hq : q = pipe <;> simp [hq]
      · rw [isSome_head?_eq]
        rfl
    · rw [if_neg hdrop, h.ackPayloadOf_eq]
      refine ⟨⟨h.initialized, h.mode, h.state, h.rxFifo, h.pool⟩, fun q => ?_, ?_, rfl, rfl, rfl,
        rfl, rfl, rfl⟩
      · rw [Bool.not_eq_true] at hdrop
        rw [hdrop, Bool.false_and, if_neg (by simp)]
        rfl
      · rw [isSome_head?_eq]
        rfl
  · have hnil : d.ackQueue cfg pipe = [] := by
      by_contra hne
      exact hoffer ⟨(h.pipe_of_ne_nil hne).2, (h.head_isSome pipe).2 hne⟩
    rw [if_neg hoffer]
    have hsame : ∀ (info : PipeInfo) (buffer : Pdu) (q : Nat),
        { d.setPipeInfo pipe info with txPayloadBuffer := buffer }.ackQueue cfg q =
          d.ackQueue cfg q := fun _ _ _ => rfl
    refine ⟨⟨h.initialized, h.mode, h.state, h.rxFifo, h.pool⟩, fun q => ?_, ?_, ?_, rfl, rfl, rfl,
      rfl, rfl⟩
    · rw [hsame, hnil, List.isEmpty_nil, Bool.not_true, Bool.and_false, if_neg (by simp)]
    · rw [hsame, hnil]
      rfl
    · rw [hsame, hnil]
      rfl

variable {crc : Nat → Nat → Bool → List UInt8 → UInt16} {pipe : Nat} {pdu : Pdu}

/-- What is left to do with a packet once its ACK is on the way. -/
def deliver (cfg : Config) (d : Driver) (retransmitPayload : Bool) (pipe : Nat) (pdu : Pdu) :
    Driver :=
  if retransmitPayload then d
  else
    match d.rxFifoPushRfbuf cfg pipe pdu with
    | some d => d.raise fun f => { f with rxDataReceived := true }
    | none => d

/-- The receiver that has noted a packet, and answers it. -/
def noted (crc : Nat → Nat → Bool → List UInt8 → UInt16) (d : Driver) (pipe : Nat) (pdu : Pdu) :
    Driver :=
  let noted := d.setPipeInfo pipe
    { d.rxPipeInfo pipe with pid := pdu.pid, crc := crc pipe pdu.pid pdu.noAck pdu.data }
  if d.answers pdu then
    { noted.onRadioDisabledRxDpl (d.repeats crc pipe pdu) pipe pdu with
      txAddress := pipe
      state := .prxSendAck }
  else noted

theorem onRadioDisabledRx_eq (hroom : d.rxFifo.count < cfg.esbRxFifoSize) :
    d.onRadioDisabledRx cfg crc pipe pdu =
      (d.noted crc pipe pdu).deliver cfg (d.repeats crc pipe pdu) pipe pdu := by
  unfold onRadioDisabledRx
  rw [if_neg (Nat.not_le_of_lt hroom)]
  rfl

/-- A packet is put into the receive FIFO unless it repeats the last. -/
theorem deliver_spec (h : d.PrxSound cfg) (hroom : d.rxFifo.count < cfg.esbRxFifoSize)
    (retransmitPayload : Bool) :
    (d.deliver cfg retransmitPayload pipe pdu).PrxSound cfg ∧
      (d.deliver cfg retransmitPayload pipe pdu).rxFifo.contents cfg.esbRxFifoSize =
        d.rxFifo.contents cfg.esbRxFifoSize ++
          (if !retransmitPayload && decide (pdu.data.length ≤ cfg.esbMaxPayloadLength) then
            [received pipe pdu] else []) ∧
      ∃ rxFifo flags, d.deliver cfg retransmitPayload pipe pdu =
        { d with rxFifo := rxFifo, interruptFlags := flags } := by
  unfold deliver
  cases retransmitPayload with
  | true => exact ⟨h, (List.append_nil _).symm, _, _, rfl⟩
  | false =>
    unfold rxFifoPushRfbuf
    rw [if_neg Bool.false_ne_true, if_neg (Nat.not_le_of_lt hroom)]
    by_cases hlong : cfg.esbMaxPayloadLength < pdu.data.length
    · rw [if_pos hlong, decide_eq_false (Nat.not_le_of_lt hlong)]
      exact ⟨h, (List.append_nil _).symm, _, _, rfl⟩
    · rw [if_neg hlong, decide_eq_true (Nat.le_of_not_lt hlong)]
      exact ⟨⟨h.initialized, h.mode, h.state, h.rxFifo.push hroom _, h.pool⟩,
        h.rxFifo.contents_push hroom _, _, _, rfl⟩

/-- The pipe's last packet is noted, and where it is to be answered, so is
what the ACK offers. -/
theorem noted_spec (h : d.PrxSound cfg) (pipe : Nat) (pdu : Pdu) :
    let d' := d.noted crc pipe pdu
    d'.PrxSound cfg ∧ d'.state = (if d.answers pdu then .prxSendAck else d.state) ∧
      d'.rxFifo = d.rxFifo ∧
      (∀ q, d'.ackQueue cfg q =
        if q = pipe ∧ d.drops cfg crc pipe pdu then (d.ackQueue cfg q).tail
        else d.ackQueue cfg q) ∧
      d'.rxPipeInfo = Function.update d.rxPipeInfo pipe
        ⟨crc pipe pdu.pid pdu.noAck pdu.data, pdu.pid,
          if d.answers pdu then !(d'.ackQueue cfg pipe).isEmpty
          else (d.rxPipeInfo pipe).ackPayload⟩ ∧
      (d.answers pdu = true → d'.txAddress = pipe ∧
        d'.txPayloadBuffer = ackWith pdu (d'.ackQueue cfg pipe).head?) ∧
      d'.esbCfg = d.esbCfg ∧ d'.pids = d.pids ∧ d'.written = d.written := by
  intro d'
  have hnoted := h.setPipeInfo pipe
    { d.rxPipeInfo pipe with pid := pdu.pid, crc := crc pipe pdu.pid pdu.noAck pdu.data }
  have hinfo : (d.setPipeInfo pipe { d.rxPipeInfo pipe with
      pid := pdu.pid, crc := crc pipe pdu.pid pdu.noAck pdu.data }).rxPipeInfo pipe =
        ⟨crc pipe pdu.pid pdu.noAck pdu.data, pdu.pid, (d.rxPipeInfo pipe).ackPayload⟩ :=
    Function.update_self _ _ _
  by_cases hanswers : d.answers pdu = true
  · have hdef : d' =
        { (d.setPipeInfo pipe { d.rxPipeInfo pipe with
            pid := pdu.pid, crc := crc pipe pdu.pid pdu.noAck pdu.data }).onRadioDisabledRxDpl
              (d.repeats crc pipe pdu) pipe pdu with
          txAddress := pipe
          state := .prxSendAck } := if_pos hanswers
    have hans := hnoted.onRadioDisabledRxDpl (d.repeats crc pipe pdu) pipe pdu
    have hqueue := hans.queue
    have hrx := hans.rxPipeInfo
    obtain ⟨hrxFifo, -, hcfg, hpids, hwritten⟩ := hans.frame
    rw [hinfo] at hqueue hrx
    rw [if_pos hanswers, if_pos hanswers, hdef]
    refine ⟨⟨hans.sound.initialized, hans.sound.mode, Or.inr (Or.inr rfl), hans.sound.rxFifo,
      hans.sound.pool⟩, rfl, hrxFifo, fun q => ?_, ?_, fun _ => ⟨rfl, hans.answer⟩, hcfg, hpids,
      hwritten⟩
    · refine Eq.trans (hqueue q) ?_
      rw [drops, hanswers, Bool.true_and]
      rfl
    · refine hrx.trans ?_
      show Function.update (Function.update d.rxPipeInfo pipe _) pipe _ = _
      rw [Function.update_idem]
      rfl
  · have hdef : d' = d.setPipeInfo pipe { d.rxPipeInfo pipe with
        pid := pdu.pid, crc := crc pipe pdu.pid pdu.noAck pdu.data } := if_neg hanswers
    have hno : d.drops cfg crc pipe pdu = false := by
      rw [Bool.not_eq_true] at hanswers
      rw [drops, hanswers, Bool.false_and, Bool.false_and, Bool.false_and]
    rw [if_neg hanswers, if_neg hanswers, hdef]
    refine ⟨hnoted, rfl, rfl, fun q => ?_, rfl, fun hyes => absurd hyes hanswers, rfl, rfl, rfl⟩
    rw [hno, if_neg (by simp)]
    rfl

/-- **A packet that comes while the receiver has room** is heard. -/
theorem PrxSound.heard (h : d.PrxSound cfg) (hroom : d.rxFifo.count < cfg.esbRxFifoSize)
    (pipe : Nat) (pdu : Pdu) :
    Heard cfg crc pipe pdu d (d.onRadioDisabledRx cfg crc pipe pdu) := by
  obtain ⟨hsound, hstate, hrxFifo, hqueue, hrx, hanswer, hcfg, hpids, hwritten⟩ :=
    @noted_spec cfg d crc h pipe pdu
  rw [onRadioDisabledRx_eq hroom]
  obtain ⟨hdelivered, hcontents, rxFifo, flags, heq⟩ :=
    @deliver_spec cfg (d.noted crc pipe pdu) pipe pdu hsound (hrxFifo ▸ hroom)
      (d.repeats crc pipe pdu)
  rw [hrxFifo] at hcontents
  rw [heq] at hdelivered hcontents ⊢
  exact ⟨hdelivered, hstate, hcontents, hqueue, hrx, hanswer, hcfg, hpids, hwritten⟩

/-! ## The other operations -/

theorem PrxSound.esbInit (hpos : 0 < cfg.esbRxFifoSize) {esbCfg : EsbConfig}
    (hmode : esbCfg.mode = .prx) : (d.esbInit esbCfg).PrxSound cfg :=
  ⟨rfl, hmode, Or.inl rfl, WrapFifo.Sound.clear hpos, _, Pool.holds_empty _ _, Pool.size_empty.symm⟩

theorem ackQueue_esbInit (esbCfg : EsbConfig) (pipe : Nat) :
    (d.esbInit esbCfg).ackQueue cfg pipe = [] := by
  have hpool : (d.esbInit esbCfg).ackPlWrap.Holds cfg.esbTxFifoSize cfg.esbPipeCount fun _ => [] :=
    Pool.holds_empty _ _
  rw [ackQueue_eq hpool]
  rfl

theorem PrxSound.esbFlushTx (h : d.PrxSound cfg) :
    d.esbFlushTx.PrxSound cfg ∧ ∀ pipe, d.esbFlushTx.ackQueue cfg pipe = [] := by
  have hdef : d.esbFlushTx = { d with txFifo := d.txFifo.clear, ackPlWrap := {} } :=
    if_pos h.initialized
  have hpool : d.esbFlushTx.ackPlWrap.Holds cfg.esbTxFifoSize cfg.esbPipeCount fun _ => [] := by
    rw [hdef]
    exact Pool.holds_empty _ _
  refine ⟨?_, fun pipe => by rw [ackQueue_eq hpool]; rfl⟩
  rw [hdef] at hpool ⊢
  exact ⟨h.initialized, h.mode, h.state, h.rxFifo, _, hpool, Pool.size_empty.symm⟩

/-- **A write** that passes its checks goes into the queue of its pipe. -/
theorem PrxSound.esbWritePayload (h : d.PrxSound cfg) (p : EsbPayload) :
    (d.esbWritePayload cfg p).1 = (if d.writeError cfg p = none then d.enqueueAck cfg p else d) ∧
      (d.esbWritePayload cfg p).2 = d.writeError cfg p := by
  unfold Driver.esbWritePayload
  cases d.writeError cfg p with
  | some err => exact ⟨rfl, rfl⟩
  | none =>
    rw [h.mode]
    exact ⟨rfl, rfl⟩

/-- What a write that passes its checks has passed. -/
theorem writeError_eq_none {p : EsbPayload} (h : d.writeError cfg p = none) :
    (p.data.length ≠ 0 ∧ p.data.length ≤ cfg.esbMaxPayloadLength) ∧
      d.txFifo.count < cfg.esbTxFifoSize ∧ p.pipe < cfg.esbPipeCount := by
  unfold writeError at h
  split at h
  · exact absurd h (by simp)
  · split at h
    · exact absurd h (by simp)
    · rename_i hlength
      split at h
      · exact absurd h (by simp)
      · rename_i hfull
        split at h
        · exact absurd h (by simp)
        · rename_i hpipe
          obtain ⟨hne, hle⟩ := not_or.1 hlength
          exact ⟨⟨hne, Nat.le_of_not_lt hle⟩, Nat.lt_of_not_le hfull, Nat.lt_of_not_le hpipe⟩

theorem PrxSound.esbReadRxPayload (h : d.PrxSound cfg) {slot : Slot} {d' : Driver}
    (hread : d.esbReadRxPayload cfg = some (slot, d')) :
    d'.PrxSound cfg ∧
      d.rxFifo.contents cfg.esbRxFifoSize = slot :: d'.rxFifo.contents cfg.esbRxFifoSize ∧
      d' = { d with rxFifo := d.rxFifo.pop cfg.esbRxFifoSize } := by
  unfold Driver.esbReadRxPayload at hread
  rw [if_neg (by rw [h.initialized]; simp)] at hread
  split at hread
  · exact absurd hread (by simp)
  · rename_i hcount
    obtain ⟨rfl, rfl⟩ := Prod.mk.inj (Option.some.inj hread)
    exact ⟨⟨h.initialized, h.mode, h.state, h.rxFifo.pop, h.pool⟩, h.rxFifo.contents_cons hcount,
      rfl⟩

/-! ## The queues over whole runs -/

end Driver

/-- The operations of a receiver: it is brought up in PRX mode, and never
put down. -/
def DriverOp.Listens : DriverOp → Prop
  | .init esbCfg => esbCfg.mode = .prx
  | .disable => False
  | _ => True

/-- What can happen to FIFOs of payloads, one a pipe. -/
inductive AckOp
  | append (pipe : Nat) (slot : Slot)
  | drop (pipe : Nat)
  | clear

def ackStep (queues : Nat → List Slot) : AckOp → Nat → List Slot
  | .append pipe slot => fun q => if q = pipe then queues q ++ [slot] else queues q
  | .drop pipe => fun q => if q = pipe then (queues q).tail else queues q
  | .clear => fun _ => []

namespace Driver

variable {cfg : Config} {crc : Nat → Nat → Bool → List UInt8 → UInt16} {d : Driver}

/-- What a step of the driver is to its queues. -/
def ackOps (cfg : Config) (crc : Nat → Nat → Bool → List UInt8 → UInt16) (d : Driver) :
    DriverOp → List AckOp
  | .write p => if d.writeError cfg p = none then [.append p.pipe (d.stored p)] else []
  | .flushTx | .init _ => [.clear]
  | .radio (some (pipe, pdu)) =>
    if d.state = .prx ∧ d.rxFifo.count < cfg.esbRxFifoSize ∧ d.drops cfg crc pipe pdu then
      [.drop pipe]
    else []
  | _ => []

def ackOpsOf (cfg : Config) (crc : Nat → Nat → Bool → List UInt8 → UInt16) (d : Driver) :
    List DriverOp → List AckOp
  | [] => []
  | op :: ops => d.ackOps cfg crc op ++ ackOpsOf cfg crc (driverStep cfg crc d op).1 ops

/-- **The radio's interrupt** in PRX mode. -/
theorem PrxSound.onRadioDisabled (h : d.PrxSound cfg) (received : Option (Nat × Pdu)) :
    (d.onRadioDisabled cfg crc received).PrxSound cfg ∧
      ∀ q, (d.onRadioDisabled cfg crc received).ackQueue cfg q =
        (d.ackOps cfg crc (.radio received)).foldl ackStep (d.ackQueue cfg) q := by
  unfold Driver.onRadioDisabled
  rcases h.state with hidle | hprx | hsend
  · rw [hidle]
    refine ⟨h, fun q => ?_⟩
    have hno : d.ackOps cfg crc (.radio received) = [] := by
      cases received with
      | none => rfl
      | some arrived => exact if_neg (by simp [hidle])
    rw [hno]
    rfl
  · rw [hprx]
    cases received with
    | none => exact ⟨h, fun q => rfl⟩
    | some arrived =>
      obtain ⟨pipe, pdu⟩ := arrived
      dsimp only
      by_cases hroom : d.rxFifo.count < cfg.esbRxFifoSize
      · have hheard := @PrxSound.heard cfg d crc h hroom pipe pdu
        refine ⟨hheard.sound, fun q => ?_⟩
        by_cases hdrops : d.drops cfg crc pipe pdu = true
        · have hop : d.ackOps cfg crc (.radio (some (pipe, pdu))) = [.drop pipe] :=
            if_pos ⟨hprx, hroom, hdrops⟩
          rw [hheard.queue q, hop]
          simp only [hdrops, and_true]
          rfl
        · have hop : d.ackOps cfg crc (.radio (some (pipe, pdu))) = [] :=
            if_neg fun hall => hdrops hall.2.2
          rw [hheard.queue q, hop, if_neg fun hall => hdrops hall.2]
          rfl
      · have hsame : d.onRadioDisabledRx cfg crc pipe pdu = d := if_pos (Nat.le_of_not_lt hroom)
        rw [hsame, ackOps, if_neg fun hall => hroom hall.2.1]
        exact ⟨h, fun q => rfl⟩
  · rw [hsend]
    have hno : d.ackOps cfg crc (.radio received) = [] := by
      cases received with
      | none => rfl
      | some arrived => exact if_neg (by simp [hsend])
    rw [hno]
    exact ⟨⟨h.initialized, h.mode, Or.inr (Or.inl rfl), h.rxFifo, h.pool⟩, fun q => rfl⟩

/-- **A step keeps the pool and is what it should be to the queues.** -/
theorem PrxSound.driverStep (h : d.PrxSound cfg) {op : DriverOp} (hop : op.Listens) :
    (driverStep cfg crc d op).1.PrxSound cfg ∧
      ∀ q, (EsbEndpoint.driverStep cfg crc d op).1.ackQueue cfg q =
        (d.ackOps cfg crc op).foldl ackStep (d.ackQueue cfg) q := by
  cases op with
  | write p =>
    show (d.esbWritePayload cfg p).1.PrxSound cfg ∧
      ∀ q, (d.esbWritePayload cfg p).1.ackQueue cfg q = _
    rw [(h.esbWritePayload p).1, ackOps]
    split
    · rename_i hok
      obtain ⟨-, hroom, hpipe⟩ := writeError_eq_none hok
      obtain ⟨hsound, hqueue, -⟩ := h.enqueueAck hroom hpipe
      exact ⟨hsound, hqueue⟩
    · exact ⟨h, fun q => rfl⟩
  | read =>
    unfold EsbEndpoint.driverStep
    dsimp only
    cases hread : d.esbReadRxPayload cfg with
    | none => exact ⟨h, fun q => rfl⟩
    | some out =>
      obtain ⟨hsound, -, heq⟩ := h.esbReadRxPayload hread
      refine ⟨hsound, fun q => ?_⟩
      show out.2.ackQueue cfg q = _
      rw [heq]
      rfl
  | flushTx => exact h.esbFlushTx
  | setRfChannel channel =>
    unfold EsbEndpoint.driverStep esbSetRfChannel
    dsimp only
    split
    · exact ⟨h, fun q => rfl⟩
    · split
      · exact ⟨h, fun q => rfl⟩
      · exact ⟨⟨h.initialized, h.mode, h.state, h.rxFifo, h.pool⟩, fun q => rfl⟩
  | setRetransmitDelay delay =>
    unfold EsbEndpoint.driverStep esbSetRetransmitDelay
    dsimp only
    split
    · exact ⟨h, fun q => rfl⟩
    · split
      · exact ⟨h, fun q => rfl⟩
      · exact ⟨⟨h.initialized, h.mode, h.state, h.rxFifo, h.pool⟩, fun q => rfl⟩
  | setRetransmitCount count =>
    unfold EsbEndpoint.driverStep esbSetRetransmitCount
    dsimp only
    split
    · exact ⟨h, fun q => rfl⟩
    · exact ⟨⟨h.initialized, h.mode, h.state, h.rxFifo, h.pool⟩, fun q => rfl⟩
  | startRx =>
    unfold EsbEndpoint.driverStep esbStartRx
    dsimp only
    split
    · exact ⟨h, fun q => rfl⟩
    · exact ⟨⟨h.initialized, h.mode, Or.inr (Or.inl rfl), h.rxFifo, h.pool⟩, fun q => rfl⟩
  | disable => exact absurd hop fun hno => hno
  | init esbCfg =>
    exact ⟨PrxSound.esbInit h.rxFifo.pos hop, fun q => ackQueue_esbInit esbCfg q⟩
  | radio received => exact h.onRadioDisabled received
  | evt => exact ⟨⟨h.initialized, h.mode, h.state, h.rxFifo, h.pool⟩, fun q => rfl⟩

theorem ackOps_run (h : d.PrxSound cfg) {ops : List DriverOp} (hops : ∀ op ∈ ops, op.Listens) :
    (driverRun cfg crc d ops).1.PrxSound cfg ∧
      (driverRun cfg crc d ops).1.ackQueue cfg =
        (d.ackOpsOf cfg crc ops).foldl ackStep (d.ackQueue cfg) := by
  induction ops generalizing d with
  | nil => exact ⟨h, rfl⟩
  | cons op ops ih =>
    obtain ⟨hsound, hqueue⟩ :=
      @PrxSound.driverStep cfg crc d h op (hops op List.mem_cons_self)
    obtain ⟨hlast, hrest⟩ := ih hsound fun op' hop' => hops op' (List.mem_cons_of_mem op hop')
    refine ⟨hlast, hrest.trans ?_⟩
    rw [ackOpsOf, List.foldl_append, ← funext hqueue]

/-- **The pool of ACK payloads is one FIFO a pipe.** In every run of a
receiver, through flushes and new starts, what waits on a pipe is what was
written to it and not yet dropped, in order, and the common count is that of
all pipes: no slot is lost, shared, or handed to two queues. -/
theorem ackQueue_run {esbCfg : EsbConfig} (hmode : esbCfg.mode = .prx) {ops : List DriverOp}
    (hops : ∀ op ∈ ops, op.Listens) :
    let d := (driverRun cfg crc (boot.esbInit esbCfg) ops).1
    d.ackQueue cfg =
        ((boot.esbInit esbCfg).ackOpsOf cfg crc ops).foldl ackStep (fun _ => []) ∧
      d.txFifo.count = ∑ pipe ∈ Finset.range cfg.esbPipeCount, (d.ackQueue cfg pipe).length := by
  intro d
  obtain ⟨hsound, hqueue⟩ := @ackOps_run cfg crc (boot.esbInit esbCfg)
    (PrxSound.esbInit cfg.rxFifo_pos hmode) ops hops
  have hempty : (boot.esbInit esbCfg).ackQueue cfg = fun _ => [] :=
    funext fun q => ackQueue_esbInit esbCfg q
  exact ⟨hempty ▸ hqueue, hsound.count_eq⟩

/-- A packet, the ACK payload it brings back, and the packet after it. -/
def answeredOnce : List DriverOp :=
  [.startRx, .write ⟨1, false, [9]⟩, .radio (some (1, ⟨1, true, [7], 0⟩)), .radio none,
    .radio (some (1, ⟨2, true, [8], 1⟩))]

theorem ackQueue_run_answeredOnce :
    let d := (driverRun Config.default (fun _ pid _ _ => pid.toUInt16)
      (boot.esbInit ⟨.prx, true, 5, 570⟩) answeredOnce).1
    d.ackQueue Config.default =
        ((boot.esbInit ⟨.prx, true, 5, 570⟩).ackOpsOf Config.default
          (fun _ pid _ _ => pid.toUInt16) answeredOnce).foldl ackStep (fun _ => []) ∧
      d.txFifo.count = ∑ pipe ∈ Finset.range Config.default.esbPipeCount,
        (d.ackQueue Config.default pipe).length :=
  ackQueue_run rfl (by simp [answeredOnce, DriverOp.Listens])

/-! ## The calls of a receiver that is up -/

end Driver

/-- The calls of a receiver that stays up. -/
def DriverOp.Serves : DriverOp → Prop
  | .init _ | .disable | .radio _ => False
  | _ => True

namespace Driver

variable {cfg : Config} {crc : Nat → Nat → Bool → List UInt8 → UInt16} {d : Driver}

/-- **What a call leaves alone**: what the pipes last received, the ACK on
the way, and what is in the receive FIFO, but for the payload it reads. -/
structure Served (cfg : Config) (d d' : Driver) (out : DriverOut) : Prop where
  rxPipeInfo : d'.rxPipeInfo = d.rxPipeInfo
  esbCfg : d'.esbCfg.selectiveAutoAck = d.esbCfg.selectiveAutoAck
  state : d'.state = d.state ∨ d'.state = .prx
  txAddress : d'.txAddress = d.txAddress
  txPayloadBuffer : d'.txPayloadBuffer = d.txPayloadBuffer
  rx : d.rxFifo.contents cfg.esbRxFifoSize = out.read ++ d'.rxFifo.contents cfg.esbRxFifoSize

theorem served_refl (d : Driver) {out : DriverOut} (hout : out.read = []) : Served cfg d d out :=
  ⟨rfl, rfl, Or.inl rfl, rfl, rfl, by rw [hout]; rfl⟩

theorem PrxSound.served (h : d.PrxSound cfg) {op : DriverOp} (hop : op.Serves) :
    Served cfg d (EsbEndpoint.driverStep cfg crc d op).1
      (EsbEndpoint.driverStep cfg crc d op).2 := by
  cases op with
  | write p =>
    show Served cfg d (d.esbWritePayload cfg p).1 (.result (d.esbWritePayload cfg p).2)
    rw [(h.esbWritePayload p).1]
    split
    · rename_i hok
      obtain ⟨-, hroom, hpipe⟩ := writeError_eq_none hok
      obtain ⟨-, -, txFifo, ackPlWrap, heq⟩ := h.enqueueAck hroom hpipe
      rw [heq]
      exact ⟨rfl, rfl, Or.inl rfl, rfl, rfl, rfl⟩
    · exact served_refl d rfl
  | read =>
    unfold EsbEndpoint.driverStep
    cases hread : d.esbReadRxPayload cfg with
    | none => exact served_refl d rfl
    | some out =>
      obtain ⟨-, hcontents, heq⟩ := h.esbReadRxPayload hread
      have hfields : out.2.rxPipeInfo = d.rxPipeInfo ∧ out.2.esbCfg = d.esbCfg ∧
          out.2.state = d.state ∧ out.2.txAddress = d.txAddress ∧
          out.2.txPayloadBuffer = d.txPayloadBuffer := by
        rw [heq]
        exact ⟨rfl, rfl, rfl, rfl, rfl⟩
      obtain ⟨hinfo, hcfg, hstate, haddress, hbuffer⟩ := hfields
      exact ⟨hinfo, congrArg _ hcfg, Or.inl hstate, haddress, hbuffer, hcontents⟩
  | flushTx =>
    show Served cfg d d.esbFlushTx _
    unfold Driver.esbFlushTx
    split
    · exact ⟨rfl, rfl, Or.inl rfl, rfl, rfl, rfl⟩
    · exact served_refl d rfl
  | setRfChannel channel =>
    show Served cfg d (d.esbSetRfChannel cfg channel).1 (.result (d.esbSetRfChannel cfg channel).2)
    unfold esbSetRfChannel
    split
    · exact served_refl d rfl
    · split
      · exact served_refl d rfl
      · exact ⟨rfl, rfl, Or.inl rfl, rfl, rfl, rfl⟩
  | setRetransmitDelay delay =>
    show Served cfg d (d.esbSetRetransmitDelay delay).1 (.result (d.esbSetRetransmitDelay delay).2)
    unfold esbSetRetransmitDelay
    split
    · exact served_refl d rfl
    · split
      · exact served_refl d rfl
      · exact ⟨rfl, rfl, Or.inl rfl, rfl, rfl, rfl⟩
  | setRetransmitCount count =>
    show Served cfg d (d.esbSetRetransmitCount count).1 (.result (d.esbSetRetransmitCount count).2)
    unfold esbSetRetransmitCount
    split
    · exact served_refl d rfl
    · exact ⟨rfl, rfl, Or.inl rfl, rfl, rfl, rfl⟩
  | startRx =>
    show Served cfg d d.esbStartRx.1 (.result d.esbStartRx.2)
    unfold esbStartRx
    split
    · exact served_refl d rfl
    · exact ⟨rfl, rfl, Or.inr rfl, rfl, rfl, rfl⟩
  | disable => exact absurd hop fun hno => hno
  | init esbCfg => exact absurd hop fun hno => hno
  | radio received => exact absurd hop fun hno => hno
  | evt => exact ⟨rfl, rfl, Or.inl rfl, rfl, rfl, rfl⟩

theorem listens_of_serves {op : DriverOp} (h : op.Serves) : op.Listens := by
  cases op with
  | init esbCfg => exact absurd h fun hno => hno
  | disable => exact absurd h fun hno => hno
  | _ => trivial

/-- The ACK, if one is on the way, is sent. -/
theorem PrxSound.settled (h : d.PrxSound cfg) :
    (d.onRadioDisabled cfg crc none).PrxSound cfg ∧
      (d.onRadioDisabled cfg crc none).state = (if d.state = .idle then .idle else .prx) ∧
      ∃ state, d.onRadioDisabled cfg crc none = { d with state := state } := by
  unfold Driver.onRadioDisabled
  rcases h.state with hstate | hstate | hstate
  · rw [hstate]
    exact ⟨h, hstate, d.state, rfl⟩
  · rw [hstate]
    exact ⟨h, hstate, d.state, rfl⟩
  · rw [hstate]
    exact ⟨⟨h.initialized, h.mode, Or.inr (Or.inl rfl), h.rxFifo, h.pool⟩, rfl, .prx, rfl⟩

end Driver

end EsbEndpoint
