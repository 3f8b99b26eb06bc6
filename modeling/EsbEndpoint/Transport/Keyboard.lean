import EsbEndpoint.Transport.Step

/-!
# The latest keyboard report

A keyboard report carries an edge, and the host sees no second edge when
the same report is sent again, so the latest one must not disappear
before it is acknowledged. The FIFO is emptied by a channel change, by
the public flush (which entering idle uses), by a send that finds it full
and by a failure that finds it full; and a packet that was flushed while
on the air takes the new head with it when it is acknowledged.
`KeyTrace` follows the latest keyboard report written and the reports
acknowledged; `KeyKept` says when an operation leaves it alone.
-/

namespace EsbEndpoint

/-- A keyboard report. -/
def isKeyboardReport (data : List UInt8) : Bool := isHidReport esbReportKeyboard data

theorem sendNoack_of_keyboard {cfg : Config} {pipe : Nat} {data : List UInt8}
    (h : isKeyboardReport data = true) : sendNoack cfg pipe data = false := by
  simp only [isKeyboardReport, isHidReport, Bool.and_eq_true, beq_iff_eq] at h
  simp only [sendNoack, isHidReport, h.1, h.2, Bool.and_eq_false_iff]
  exact Or.inr (Or.inr (by decide))

/-- The endpoint with the history that says which packet an event is for:
the number of the latest keyboard report written, and the numbers of the
packets that asked for an ACK and got one. -/
structure KeyTrace where
  e : Endpoint
  latest : Option Nat := none
  acked : List Nat := []

variable (cfg : Config)

/-- The packet an operation sees acknowledged. -/
def ackedBy (e : Endpoint) : TxOp → Option Nat
  | .txDone outcome =>
    if canEnd cfg e outcome && outcome != .exhausted then
      (e.radio.state.onAir.filter fun q => !q.noack).map Queued.serial
    else none
  | _ => none

/-- The keyboard report an operation writes to the FIFO. -/
def keyWrittenBy (e : Endpoint) : TxOp → Option Nat
  | .send pipe data =>
    if isKeyboardReport data && (txStep cfg e (.send pipe data)).radio.written != e.radio.written
    then some e.radio.written
    else none
  | _ => none

def keyStep (s : KeyTrace) (op : TxOp) : KeyTrace where
  e := txStep cfg s.e op
  latest := (keyWrittenBy cfg s.e op).or s.latest
  acked := (ackedBy cfg s.e op).toList ++ s.acked

/-- **No stranded key**: the latest keyboard report written is
acknowledged or still queued. -/
def NotStranded (s : KeyTrace) : Prop :=
  ∀ n, s.latest = some n → n ∈ s.acked ∨ n ∈ s.e.radio.txFifo.map Queued.serial

/-- A keyboard report that `esb_write_payload` takes once the FIFO has
room. -/
def writesKeyboard (pipe : Nat) (data : List UInt8) : Bool :=
  isKeyboardReport data && pipe < cfg.esbPipeCount

/-- What an operation must not do while the report `n` is queued and
unacknowledged: flush, unless it is the send of a newer keyboard report;
fail on a full FIFO; or take `n` off the FIFO's head in the name of
another packet. -/
def Keeps (e : Endpoint) (n : Nat) : TxOp → Prop
  | .send pipe data => sendFlushes cfg e data = true → writesKeyboard cfg pipe data = true
  | .txDone .exhausted => canEnd cfg e .exhausted = true → esbTxFull cfg e.radio = false
  | .txDone outcome =>
    canEnd cfg e outcome = true → e.radio.txFifo.head?.map Queued.serial = some n →
      e.radio.state.onAir.map Queued.serial = some n
  | .setChannel _ => e.tp.configured = false
  | .flushTx => False
  | _ => True

/-- The condition on an operation of a run. -/
def KeyKept (s : KeyTrace) (op : TxOp) : Prop :=
  ∀ n, s.latest = some n → n ∉ s.acked → Keeps cfg s.e n op

/-! ## Runs -/

/-- What every reachable trace satisfies. -/
structure KeyTrace.Sound (s : KeyTrace) : Prop where
  path : (s.e.path cfg).Sound
  latest_lt : ∀ n, s.latest = some n → n < s.e.radio.written
  asks : ∀ q, q ∈ s.e.radio.txFifo ∨ s.e.radio.state.onAir = some q →
    s.latest = some q.serial → q.noack = false

variable {cfg} {s : KeyTrace}

/-- A send writes a keyboard report just when it queues one to a pipe the
radio has. -/
theorem keyWrittenBy_send {e : Endpoint} (h : (e.path cfg).Sound) (pipe : Nat)
    (data : List UInt8) :
    keyWrittenBy cfg e (.send pipe data) =
      if sendQueues cfg e data && writesKeyboard cfg pipe data then some e.radio.written
      else none := by
  have hwritten : (txStep cfg e (.send pipe data)).radio.written =
      ((txStep cfg e (.send pipe data)).path cfg).written := rfl
  rw [keyWrittenBy, hwritten]
  rcases send_cases h pipe data with ⟨hq, hpath⟩ | ⟨hq, hrefused, hpath⟩ | ⟨hq, hacc, hpath⟩
  · have hsame : (e.path cfg).written = e.radio.written := rfl
    simp only [hpath, hq, hsame, bne_self_eq_false, Bool.and_false, Bool.false_and]
  · have hnot : writesKeyboard cfg pipe data = false := by
      rw [writesKeyboard, Bool.and_eq_false_iff, decide_eq_false_iff_not]
      by_contra hk
      obtain ⟨hk, hp⟩ := not_or.1 hk
      refine hrefused ⟨?_, not_not.1 hp⟩
      rintro rfl
      exact hk rfl
    simp only [hpath, TxPath.withMotion, sendBase_written, hnot, bne_self_eq_false,
      Bool.and_false]
  · have hne : (e.radio.written + 1 != e.radio.written) = true := by
      simp only [bne_iff_ne, ne_eq, Nat.succ_ne_self, not_false_eq_true]
    simp only [hpath, TxPath.put, TxPath.withMotion, sendBase_written, hne, Bool.and_true, hq,
      Bool.true_and, writesKeyboard, hacc.2, decide_true]

/-- **The trace stays sound.** -/
theorem KeyTrace.Sound.step (h : s.Sound cfg) (op : TxOp) : (keyStep cfg s op).Sound cfg := by
  have hmove := path_txStep cfg s.e op h.path.syncing
  have hle : s.e.radio.written ≤ (txStep cfg s.e op).radio.written := by
    have := @TxPath.written_apply_le cfg (s.e.path cfg) (op.move cfg s.e)
    rw [← hmove] at this
    exact this
  have hwrites : ∀ n, keyWrittenBy cfg s.e op = some n → n = s.e.radio.written ∧
      (∃ pipe data, op = .send pipe data ∧ isKeyboardReport data = true) ∧
      s.e.radio.written < (txStep cfg s.e op).radio.written := by
    intro n hn
    cases op with
    | send pipe data =>
      simp only [keyWrittenBy] at hn
      split at hn
      · rename_i hk
        rw [Bool.and_eq_true, bne_iff_ne] at hk
        exact ⟨(Option.some.inj hn).symm, ⟨pipe, data, rfl, hk.1⟩, by omega⟩
      · exact absurd hn (by simp)
    | _ => exact absurd hn (by simp [keyWrittenBy])
  refine ⟨sound_txStep cfg h.path op, ?_, ?_⟩
  · intro n hn
    rcases Option.or_eq_some_iff.1 hn with hnew | ⟨-, hold⟩
    · obtain ⟨rfl, -, hlt⟩ := hwrites n hnew
      exact hlt
    · exact Nat.lt_of_lt_of_le (h.latest_lt n hold) hle
  · intro q hq hlatest
    have hhas : (op.move cfg s.e |>.apply cfg (s.e.path cfg)).Has q := by
      rw [← hmove]
      exact hq
    rcases TxPath.Has.of_apply hhas with hold | ⟨flushed, pipe, data, hop, hserial, hnoack⟩
    · -- an old packet is not the report just written
      have hlt : q.serial < s.e.radio.written := h.path.lt_written hold
      rcases Option.or_eq_some_iff.1 hlatest with hnew | ⟨-, hlatest⟩
      · have := (hwrites _ hnew).1
        omega
      · exact h.asks q hold hlatest
    · -- the packet just queued asks for an ACK if it is a keyboard report
      rcases Option.or_eq_some_iff.1 hlatest with hnew | ⟨-, hlatest⟩
      · obtain ⟨-, ⟨pipe', data', rfl, hk⟩, -⟩ := hwrites _ hnew
        simp only [TxOp.move] at hop
        split at hop
        · obtain ⟨-, rfl, rfl⟩ := TxMove.queue.inj hop
          rw [hnoack, sendNoack_of_keyboard hk]
        · exact absurd hop (by simp)
      · have : q.serial < s.e.radio.written := h.latest_lt _ hlatest
        have : q.serial = s.e.radio.written := hserial
        omega

theorem KeyTrace.sound_start (deviceId : List UInt8) (saved : Option PairedRec) :
    KeyTrace.Sound cfg { e := Endpoint.start cfg deviceId saved } :=
  ⟨sound_of_start cfg deviceId saved, fun _ hn => absurd hn (by simp),
    fun _ _ hn => absurd hn (by simp)⟩

/-! ## What becomes of a queued report -/

section Kept

variable {e : Endpoint} {n : Nat}

theorem kept_send (h : (e.path cfg).Sound) (hn : n ∈ e.radio.txFifo.map Queued.serial)
    {pipe : Nat} {data : List UInt8} (hw : keyWrittenBy cfg e (.send pipe data) = none) :
    n ∈ ((txStep cfg e (.send pipe data)).path cfg).fifo.map Queued.serial ↔
      Keeps cfg e n (.send pipe data) := by
  obtain ⟨q, hq, rfl⟩ := List.mem_map.1 hn
  have hlt : q.serial < e.radio.written := h.below q hq
  cases hf : sendFlushes cfg e data with
  | true =>
    -- the FIFO is left with the new packet at most
    have hqueues := sendQueues_of_flushes hf
    have hnot : writesKeyboard cfg pipe data = false := by
      rw [keyWrittenBy_send h, hqueues, Bool.true_and] at hw
      cases hk : writesKeyboard cfg pipe data with
      | false => rfl
      | true => exact absurd hw (by simp [hk])
    have hfifo : (sendBase cfg e data).fifo = [] := by rw [sendBase_fifo h, if_pos hf]
    refine iff_of_false ?_ fun hk => Bool.noConfusion (hnot.symm.trans (hk hf))
    rcases send_cases h pipe data with ⟨hq', -⟩ | ⟨-, -, hpath⟩ | ⟨-, -, hpath⟩
    · exact Bool.noConfusion (hq'.symm.trans hqueues)
    · simp only [hpath, TxPath.withMotion, hfifo, List.map_nil, List.not_mem_nil,
        not_false_eq_true]
    · simp only [hpath, TxPath.put, TxPath.withMotion, hfifo, sendBase_written, List.nil_append,
        List.map_cons, List.map_nil, List.mem_singleton]
      omega
  | false =>
    have hfifo : (sendBase cfg e data).fifo = e.radio.txFifo := by
      rw [sendBase_fifo h, hf, if_neg Bool.false_ne_true]
    refine iff_of_true ?_ fun hf' => Bool.noConfusion (hf.symm.trans hf')
    rcases send_cases h pipe data with ⟨-, hpath⟩ | ⟨-, -, hpath⟩ | ⟨-, -, hpath⟩
    · rw [hpath]
      exact hn
    · simp only [hpath, TxPath.withMotion, hfifo]
      exact hn
    · simp only [hpath, TxPath.put, TxPath.withMotion, hfifo, List.map_append]
      exact List.mem_append_left _ hn

/-- A failure keeps the report unless it finds the FIFO full. -/
theorem kept_exhausted (h : (e.path cfg).Sound) (hn : n ∈ e.radio.txFifo.map Queued.serial) :
    n ∈ ((txStep cfg e (.txDone .exhausted)).path cfg).fifo.map Queued.serial ↔
      Keeps cfg e n (.txDone .exhausted) := by
  rw [path_txStep cfg e _ h.syncing, TxOp.move, Keeps]
  cases hend : canEnd cfg e .exhausted with
  | false => exact iff_of_true hn fun hc => Bool.noConfusion hc
  | true =>
    have hfull : ((e.path cfg).halt.consume cfg true).full cfg = esbTxFull cfg e.radio := rfl
    simp only [if_true, TxMove.apply, TxPath.fail, hfull, forall_const]
    cases esbTxFull cfg e.radio with
    | false => exact iff_of_true hn rfl
    | true =>
      have hfifo : ((e.path cfg).halt.consume cfg true).flush.fifo = [] :=
        TxPath.fifo_flush h.initialized
      rw [if_pos rfl, hfifo]
      exact iff_of_false List.not_mem_nil fun heq => Bool.noConfusion heq

/-- A success keeps the report, or acknowledges it, unless it takes it off
the head in the name of another packet. -/
theorem kept_success (h : (e.path cfg).Sound) (hn : n ∈ e.radio.txFifo.map Queued.serial)
    (hasks : ∀ q, e.radio.state.onAir = some q → q.serial = n → q.noack = false)
    {outcome : TxOutcome} (hout : outcome ≠ .exhausted) :
    (ackedBy cfg e (.txDone outcome) = some n ∨
        n ∈ ((txStep cfg e (.txDone outcome)).path cfg).fifo.map Queued.serial) ↔
      (canEnd cfg e outcome = true → e.radio.txFifo.head?.map Queued.serial = some n →
        e.radio.state.onAir.map Queued.serial = some n) := by
  have hne : (outcome != .exhausted) = true := bne_iff_ne.2 hout
  rw [path_txStep cfg e _ h.syncing, TxOp.move, ackedBy, if_neg hout]
  cases hend : canEnd cfg e outcome with
  | false => exact iff_of_true (Or.inr hn) fun hc => Bool.noConfusion hc
  | true =>
    have hack : (e.radio.state.onAir.filter fun q => !q.noack).map Queued.serial = some n ↔
        e.radio.state.onAir.map Queued.serial = some n := by
      cases hair : e.radio.state.onAir with
      | none => exact Iff.rfl
      | some q =>
        simp only [Option.map_some, Option.some.injEq]
        constructor
        · intro hf
          obtain ⟨q', hq', rfl⟩ := Option.map_eq_some_iff.1 hf
          rw [(Option.filter_eq_some_iff.1 hq').1.symm.trans rfl |> Option.some.inj]
        · rintro rfl
          have hnoack := hasks q hair rfl
          simp only [Option.filter_some, hnoack, Bool.not_false, if_true, Option.map_some]
    have htail : (TxMove.advance.apply cfg (e.path cfg)).fifo = e.radio.txFifo.tail := rfl
    simp only [if_true, hne, Bool.and_self, htail, hack, forall_const]
    have hordered : e.radio.txFifo.Pairwise fun a b => a.serial < b.serial := h.ordered
    cases hfifo : e.radio.txFifo with
    | nil =>
      rw [hfifo] at hn
      exact absurd hn List.not_mem_nil
    | cons q qs =>
      rw [hfifo] at hn hordered
      simp only [List.tail_cons, List.head?_cons, Option.map_some, Option.some.injEq]
      rcases List.mem_cons.1 hn with rfl | htl
      · -- it is the head, and nothing behind it has its number
        have hnot : q.serial ∉ qs.map Queued.serial := by
          intro hmem
          obtain ⟨q', hq', heq⟩ := List.mem_map.1 hmem
          have := List.rel_of_pairwise_cons hordered hq'
          omega
        simp only [hnot, or_false, forall_const]
      · have hnot : q.serial ≠ n := by
          obtain ⟨q', hq', rfl⟩ := List.mem_map.1 htl
          have := List.rel_of_pairwise_cons hordered hq'
          omega
        exact iff_of_true (Or.inr htl) fun heq => absurd heq hnot

/-- **A queued report survives an operation, or is acknowledged by it,
just when the operation keeps it.** -/
theorem kept_iff (h : (e.path cfg).Sound) (hn : n ∈ e.radio.txFifo.map Queued.serial)
    (hasks : ∀ q, e.radio.state.onAir = some q → q.serial = n → q.noack = false)
    {op : TxOp} (hw : keyWrittenBy cfg e op = none) :
    (ackedBy cfg e op = some n ∨ n ∈ ((txStep cfg e op).path cfg).fifo.map Queued.serial) ↔
      Keeps cfg e n op := by
  have hflush : ∀ p : TxPath, p.initialized = true → n ∉ p.flush.fifo.map Queued.serial := by
    intro p hp
    rw [TxPath.fifo_flush hp]
    exact List.not_mem_nil
  cases op with
  | send pipe data =>
    have hack : ackedBy cfg e (.send pipe data) = none := rfl
    simp only [← kept_send h hn hw, hack, reduceCtorEq, false_or]
  | txDone outcome =>
    cases outcome with
    | exhausted =>
      rw [← kept_exhausted h hn, ackedBy]
      simp only [bne_self_eq_false, Bool.and_false, Bool.false_eq_true, if_false, reduceCtorEq,
        false_or]
    | sent => exact kept_success h hn hasks (by simp)
    | acked retries reply => exact kept_success h hn hasks (by simp)
  | setChannel channel =>
    have hack : ackedBy cfg e (.setChannel channel) = none := rfl
    -- a channel change flushes, unless the radio is not configured
    rw [path_txStep cfg e _ h.syncing, TxOp.move, hack, Keeps]
    cases e.tp.configured with
    | false => exact iff_of_true (Or.inr hn) rfl
    | true =>
      refine iff_of_false ?_ fun heq => Bool.noConfusion heq
      rintro (hack | hmem)
      · exact absurd hack (by simp)
      · simp only [Bool.not_true, Bool.false_eq_true, if_false, TxMove.apply] at hmem
        split at hmem
        · exact hflush _ h.initialized hmem
        · exact hflush _ h.initialized hmem
  | flushTx =>
    have hack : ackedBy cfg e .flushTx = none := rfl
    rw [path_txStep cfg e _ h.syncing, hack]
    refine iff_of_false ?_ id
    rintro (hack | hmem)
    · exact absurd hack (by simp)
    · exact hflush _ h.initialized hmem
  | _ =>
    rw [path_txStep cfg e _ h.syncing]
    exact iff_of_true (Or.inr hn) trivial

end Kept

/-- Writing a report queues it. -/
theorem mem_of_keyWrittenBy {op : TxOp} (h : (s.e.path cfg).Sound) {m : Nat}
    (hw : keyWrittenBy cfg s.e op = some m) :
    m ∈ (txStep cfg s.e op).radio.txFifo.map Queued.serial ∧ ∀ n, Keeps cfg s.e n op := by
  cases op with
  | send pipe data =>
    rw [keyWrittenBy_send h] at hw
    split at hw
    · rename_i hk
      obtain ⟨hq, hk⟩ := Bool.and_eq_true_iff.1 hk
      obtain rfl := Option.some.inj hw
      refine ⟨?_, fun _ _ => hk⟩
      have hmem : s.e.radio.written ∈
          ((txStep cfg s.e (.send pipe data)).path cfg).fifo.map Queued.serial := by
        rcases send_cases h pipe data with ⟨hq', -⟩ | ⟨-, hrefused, -⟩ | ⟨-, -, hpath⟩
        · exact Bool.noConfusion (hq'.symm.trans hq)
        · refine absurd ⟨?_, ?_⟩ hrefused
          · rintro rfl
            exact Bool.noConfusion hk
          · simp only [writesKeyboard, Bool.and_eq_true, decide_eq_true_eq] at hk
            exact hk.2
        · simp only [hpath, TxPath.put, TxPath.withMotion, sendBase_written, List.map_append,
            List.map_cons, List.map_nil, List.mem_append, List.mem_singleton, or_true]
      exact hmem
    · exact absurd hw (by simp)
  | _ => exact absurd hw (by simp [keyWrittenBy])

theorem notStranded_step_iff (h : s.Sound cfg) (hs : NotStranded s) (op : TxOp) :
    NotStranded (keyStep cfg s op) ↔ KeyKept cfg s op := by
  cases hw : keyWrittenBy cfg s.e op with
  | some m =>
    obtain ⟨hmem, hkeeps⟩ := mem_of_keyWrittenBy h.path hw
    have hlatest : (keyStep cfg s op).latest = some m := by rw [keyStep, hw, Option.some_or]
    refine iff_of_true (fun n hn => Or.inr ?_) fun n _ _ => hkeeps n
    obtain rfl := Option.some.inj (hlatest.symm.trans hn)
    exact hmem
  | none =>
    have hlatest : (keyStep cfg s op).latest = s.latest := by rw [keyStep, hw, Option.none_or]
    constructor
    · intro hns n hn hnot
      have hmem := (hs n hn).resolve_left hnot
      have hasks : ∀ q, s.e.radio.state.onAir = some q → q.serial = n → q.noack = false :=
        fun q hq heq => h.asks q (Or.inr hq) (by rw [hn, heq])
      refine (kept_iff h.path hmem hasks hw).1 ((hns n (hlatest.trans hn)).imp_left fun hack => ?_)
      rcases List.mem_append.1 hack with hack | hack
      · exact Option.mem_toList.1 hack
      · exact absurd hack hnot
    · intro hkept n hn
      rw [hlatest] at hn
      by_cases hnot : n ∈ s.acked
      · exact Or.inl (List.mem_append_right _ hnot)
      have hmem := (hs n hn).resolve_left hnot
      have hasks : ∀ q, s.e.radio.state.onAir = some q → q.serial = n → q.noack = false :=
        fun q hq heq => h.asks q (Or.inr hq) (by rw [hn, heq])
      exact ((kept_iff h.path hmem hasks hw).2 (hkept n hn hnot)).imp_left fun hack =>
        List.mem_append_left _ (Option.mem_toList.2 hack)

/-- **The latest keyboard report is never stranded, exactly when no
operation takes it away.** -/
theorem notStranded_iff (cfg : Config) (deviceId : List UInt8) (saved : Option PairedRec)
    (ops : List TxOp) :
    Throughout (keyStep cfg) NotStranded { e := Endpoint.start cfg deviceId saved } ops ↔
      Guarded (keyStep cfg) (KeyKept cfg) { e := Endpoint.start cfg deviceId saved } ops :=
  throughout_iff_guarded (I := KeyTrace.Sound cfg) (D := fun _ _ => True)
    (fun _ op h _ => h.step op) (fun _ op h _ hs => notStranded_step_iff h hs op)
    (KeyTrace.sound_start deviceId saved) (fun _ hn => absurd hn (by simp))
    (Guarded.of_forall fun _ _ => trivial)

/-- A release that failed once and is then overtaken by a hop is gone. -/
theorem not_notStranded : ¬ ∀ (cfg : Config) (deviceId : List UInt8) (saved : Option PairedRec)
    (ops : List TxOp),
    Throughout (keyStep cfg) NotStranded { e := Endpoint.start cfg deviceId saved } ops := by
  intro h
  have hrun := h Config.default [] none
    [.send esbPipeData [esbPktHidReport, esbReportKeyboard, 0, 0, 0, 0, 0, 0, 0, 0],
      .txDone .exhausted, .setChannel 20]
  exact absurd (hrun.2.2.2 0 (by decide +kernel)) (by decide +kernel)

end EsbEndpoint
