import EsbEndpoint.Transport.Mirror

/-!
# The flag rings and the FIFO

A send pushes two flags beside its motion record, one ring each: whether
its packet goes without an ACK, and whether it overrides the retransmit
count. The TX event of the packet is to pop them. The rings are indexed by
a mask on an eight-bit counter and have sizes of their own, which nothing
ties to the depth of the FIFO: each holds the flags of the queued packets
for as long as a push lands on a free slot, or on one that holds its flag
already.
-/

namespace EsbEndpoint

variable (cfg : Config)

/-- The per-send flag rings. -/
structure Flags where
  noack : Ring 8 Bool
  critical : Ring 8 Bool

/-- The flag rings of an endpoint. -/
def Endpoint.flags (e : Endpoint) : Flags := ⟨e.tp.recentNoack, e.tp.recentCritical⟩

namespace Flags

variable (f : Flags)

/-- The pushes of a send. -/
def push (noack critical : Bool) : Flags where
  noack := if cfg.channelHop then f.noack.push (noackSlot cfg) noack else f.noack
  critical :=
    if cfg.criticalMaxRetransmit then f.critical.push (criticalSlot cfg) critical else f.critical

/-- The pops of a TX event. -/
def pop : Flags where
  noack := if cfg.channelHop then f.noack.consume else f.noack
  critical := if cfg.criticalMaxRetransmit then f.critical.consume else f.critical

/-- The part of `esb_flush_tx_and_reset`. -/
def reset : Flags where
  noack := if cfg.channelHop then f.noack.reset else f.noack
  critical := if cfg.criticalMaxRetransmit then f.critical.reset else f.critical

end Flags

variable (e : Endpoint)

/-! ## What leaves the flags alone -/

section Frame

@[simp] theorem flags_mapRadio (g : Radio → Radio) : (e.mapRadio g).flags = e.flags := rfl

@[simp] theorem flags_mapHop (g : HopEp → HopEp) : (e.mapHop g).flags = e.flags := rfl

@[simp] theorem flags_mapShell (g : ShellRelay → ShellRelay) : (e.mapShell g).flags = e.flags := rfl

@[simp] theorem flags_mapMotion (g : Motion → Motion) : (e.mapMotion g).flags = e.flags := rfl

@[simp] theorem flags_trySetRetransmitCount (n : Nat) :
    (trySetRetransmitCount e n).flags = e.flags := rfl

@[simp] theorem flags_restoreRetransmitCount : (restoreRetransmitCount cfg e).flags = e.flags := rfl

@[simp] theorem flags_noteHanded (pipe : Nat) (data : List UInt8) :
    (noteHanded e pipe data).flags = e.flags := rfl

@[simp] theorem flags_jitterRetransmitDelay : (jitterRetransmitDelay cfg e).flags = e.flags := rfl

@[simp] theorem flags_endQuietWindow : (endQuietWindow cfg e).flags = e.flags := by
  unfold endQuietWindow
  split <;> rfl

@[simp] theorem flags_noteSend (data : List UInt8) : (noteSend cfg e data).flags = e.flags := by
  have hcount : ∀ e' : Endpoint, (e'.mapTp (countHidTx e'.now)).flags = e'.flags := by
    intro e'
    unfold Endpoint.flags Endpoint.mapTp countHidTx
    dsimp only
    split
    · rfl
    · split <;> rfl
  have hact :
      (if isType esbPktShellBgPoll data then e else noteActivity e).flags = e.flags := by
    split <;> rfl
  unfold noteSend
  dsimp only
  generalize (if isType esbPktShellBgPoll data then e else noteActivity e) = e₁ at hact ⊢
  have hhid : (if isType esbPktHidReport data then e₁.mapTp (countHidTx e₁.now) else e₁).flags =
      e₁.flags := by
    split
    · exact hcount e₁
    · rfl
  split
  · rw [flags_mapHop, hhid, hact]
  · rw [hhid, hact]

@[simp] theorem flags_checkLinkDegraded : (checkLinkDegraded cfg e).flags = e.flags := by
  unfold checkLinkDegraded
  split
  · rfl
  · split
    · split <;> rfl
    · split <;> rfl

@[simp] theorem flags_checkFailWindow : (checkFailWindow cfg e).flags = e.flags := by
  unfold checkFailWindow
  split
  · rfl
  · split <;> rfl

@[simp] theorem flags_checkWeakLink : (checkWeakLink cfg e).flags = e.flags := by
  unfold checkWeakLink
  split <;> rfl

@[simp] theorem flags_onRxReceived : (onRxReceived cfg e).flags = e.flags := by
  have htake : ∀ (fifo : List (List UInt8)) (tp : Transport),
      (fifo.foldl (takeRxPayload cfg) tp).recentNoack = tp.recentNoack ∧
        (fifo.foldl (takeRxPayload cfg) tp).recentCritical = tp.recentCritical := by
    intro fifo
    induction fifo with
    | nil => exact fun tp => ⟨rfl, rfl⟩
    | cons data fifo ih =>
      intro tp
      obtain ⟨hnoack, hcritical⟩ := ih (takeRxPayload cfg tp data)
      rw [List.foldl_cons, hnoack, hcritical, takeRxPayload]
      split <;> exact ⟨rfl, rfl⟩
  unfold onRxReceived
  split
  · rfl
  · obtain ⟨hnoack, hcritical⟩ := htake e.radio.rxFifo e.tp
    exact congrArg₂ Flags.mk hnoack hcritical

end Frame

/-! ## What moves them -/

@[simp] theorem flags_esbFlushTxAndReset :
    (esbFlushTxAndReset cfg e).flags = e.flags.reset cfg := rfl

/-- Neither the start nor the stop of a slot touches them. -/
theorem flags_esbTransportOnSlotStart : (esbTransportOnSlotStart cfg e).flags = e.flags := by
  unfold esbTransportOnSlotStart esbInitAndConfigure
  dsimp only [Endpoint.flags, Endpoint.mapTp_tp]
  split <;> split <;> rfl

/-- **A send from its first ring push on** pushes the flags of its
packet. -/
theorem flags_sendQueued (pipe : Nat) (data : List UInt8) :
    (sendQueued cfg e pipe data).1.flags =
      e.flags.push cfg (sendNoack cfg pipe data) (isCritical data) := by
  have hnoack : (pushNoack cfg e (sendNoack cfg pipe data)).flags =
      { e.flags with noack := (e.flags.push cfg (sendNoack cfg pipe data) false).noack } := by
    unfold pushNoack Flags.push
    cases cfg.channelHop <;> rfl
  have hcritical : ∀ e' : Endpoint, (overrideCritical cfg e' data).flags =
      { e'.flags with critical := (e'.flags.push cfg false (isCritical data)).critical } := by
    intro e'
    unfold overrideCritical Flags.push
    cases cfg.criticalMaxRetransmit with
    | false => rfl
    | true =>
      simp only [Bool.not_true, Bool.false_eq_true, if_false, if_true]
      split <;> rfl
  have hmotion : ∀ (e' : Endpoint) (noack : Bool),
      (sendMotion cfg e' pipe noack data).1.flags = e'.flags := by
    intro e' noack
    unfold sendMotion
    split
    · dsimp only
      split <;> rfl
    · rfl
  unfold sendQueued
  dsimp only
  rw [hmotion, hcritical, flags_noteSend, hnoack]
  rfl

/-- **A send, on the flags.** -/
theorem flags_esbTransportSend (pipe : Nat) (data : List UInt8) :
    (esbTransportSend cfg e pipe data).1.flags =
      if sendQueues cfg e data then
        (if sendFlushes cfg e data then e.flags.reset cfg else e.flags).push cfg
          (sendNoack cfg pipe data) (isCritical data)
      else e.flags := by
  cases hq : sendQueues cfg e data with
  | false =>
    rw [if_neg Bool.false_ne_true]
    obtain ⟨e', hsend, rfl | rfl | rfl⟩ := @esbTransportSend_of_not_queues cfg e pipe data hq
    · rw [hsend, flags_noteHanded]
    · rw [hsend, flags_jitterRetransmitDelay, flags_noteHanded]
    · rw [hsend, flags_endQuietWindow, flags_jitterRetransmitDelay, flags_noteHanded]
  | true =>
    rw [if_pos rfl, esbTransportSend_of_queues cfg e hq, flags_sendQueued]
    split
    · rw [flags_esbFlushTxAndReset, flags_endQuietWindow, flags_jitterRetransmitDelay,
        flags_noteHanded]
    · rw [flags_endQuietWindow, flags_jitterRetransmitDelay, flags_noteHanded]

/-- `consume_recent_noack`, on the flags. -/
theorem flags_consumeRecentNoack :
    (e.mapTp fun tp => (consumeRecentNoack cfg tp).1).flags =
      { e.flags with noack := e.flags.noack.consume } := by
  unfold Endpoint.flags Endpoint.mapTp consumeRecentNoack Ring.consume
  dsimp only
  split <;> rfl

theorem flags_hopOnSuccess (n : Nat) :
    (hopOnSuccess cfg e n).flags = { e.flags with noack := (e.flags.pop cfg).noack } := by
  have hrecord : ∀ e' : Endpoint, (recordSuccess cfg e' n).flags =
      { e'.flags with noack := e'.flags.noack.consume } := by
    intro e'
    rw [← flags_consumeRecentNoack cfg e']
    unfold recordSuccess
    dsimp only
    split
    · rfl
    · rw [flags_checkLinkDegraded]
      rfl
  unfold hopOnSuccess Flags.pop
  cases cfg.channelHop with
  | false => rfl
  | true => exact hrecord _

theorem flags_hopOnFailure :
    (hopOnFailure cfg e).flags = { e.flags with noack := (e.flags.pop cfg).noack } := by
  unfold hopOnFailure Flags.pop
  cases cfg.channelHop with
  | false => rfl
  | true =>
    rw [if_neg (by simp), if_pos rfl, ← flags_checkFailWindow cfg e,
      ← flags_checkWeakLink cfg (checkFailWindow cfg e), ← flags_consumeRecentNoack]
    rfl

theorem flags_finishCritical :
    (finishCritical cfg e).flags = { e.flags with critical := (e.flags.pop cfg).critical } := by
  have hpop : (e.mapTp fun tp => (consumeRecentOverride cfg tp).1).flags =
      { e.flags with critical := e.flags.critical.consume } := by
    unfold Endpoint.flags Endpoint.mapTp consumeRecentOverride Ring.consume
    dsimp only
    split <;> rfl
  unfold finishCritical Flags.pop
  cases cfg.criticalMaxRetransmit with
  | false => rfl
  | true =>
    simp only [Bool.not_true, Bool.false_eq_true, if_false, if_true, ← hpop]
    split <;> rfl

theorem flags_finishMotion (failed : Bool) : (finishMotion cfg e failed).flags = e.flags := by
  unfold finishMotion
  dsimp only
  split <;> rfl

theorem flags_onTxSuccess (n : Nat) : (onTxSuccess cfg e n).flags = e.flags.pop cfg := by
  unfold onTxSuccess
  dsimp only
  rw [flags_finishMotion, flags_finishCritical]
  split
  · rw [esbShellRelayNotifyTx, flags_mapShell, flags_hopOnSuccess]
    rfl
  · rw [flags_hopOnSuccess]
    rfl

theorem flags_onTxFailed :
    (onTxFailed cfg e).flags =
      if esbTxFull cfg e.radio then (e.flags.pop cfg).reset cfg else e.flags.pop cfg := by
  unfold onTxFailed
  dsimp only
  generalize hcounted : (e.mapTp fun tp =>
    { tp with
      txFailCount := tp.txFailCount + 1
      txExhaustedCount := tp.txExhaustedCount + 1
      consecutiveTxFail := tp.consecutiveTxFail + 1 }) = e₁
  have hpath : e₁.path cfg = e.path cfg := by
    rw [← hcounted]
    rfl
  have hflags : e₁.flags = e.flags := by
    rw [← hcounted]
    rfl
  have hpopped : (finishMotion cfg (finishCritical cfg (hopOnFailure cfg e₁)) true).flags =
      e.flags.pop cfg := by
    rw [flags_finishMotion, flags_finishCritical, flags_hopOnFailure, ← hflags]
    rfl
  have hfull : esbTxFull cfg
      (finishMotion cfg (finishCritical cfg (hopOnFailure cfg e₁)) true).radio =
        esbTxFull cfg e.radio := by
    rw [path_full, path_full, path_finishMotion, path_finishCritical, path_hopOnFailure, hpath]
    rfl
  rw [hfull]
  split
  · rw [flags_esbFlushTxAndReset, hpopped]
  · exact hpopped

/-- **The TX event of a packet** pops both rings, and where the packet has
failed on a FIFO that is full, the flush resets them. -/
theorem flags_txDone (outcome : TxOutcome) (h : (e.path cfg).syncing = false) :
    (txDone cfg e outcome).flags =
      if canEnd cfg e outcome then
        if outcome = .exhausted ∧ esbTxFull cfg e.radio = true then (e.flags.pop cfg).reset cfg
        else e.flags.pop cfg
      else e.flags := by
  have hsync : (cfg.rendezvous && e.tp.syncTxInProgress) = false := h
  have hsuccess : ∀ (r : Radio) (n : Nat),
      (zmkEsbTransportEvtCb cfg (e.mapRadio fun _ => r) .txSuccess n).flags =
        e.flags.pop cfg := by
    intro r n
    simp only [zmkEsbTransportEvtCb, Endpoint.mapTp_tp, Endpoint.mapRadio_tp, hsync,
      Bool.false_eq_true, if_false]
    exact flags_onTxSuccess cfg _ n
  rw [txDone, canEnd]
  cases hdone : radioDone cfg e.radio outcome with
  | none => rfl
  | some out =>
  obtain ⟨r, events⟩ := out
  rw [Option.isSome_some, if_pos rfl]
  rcases radioDone_cases cfg hdone with
    ⟨q, -, hout, -, hevents⟩ | ⟨q, -, rfl, rfl, rfl⟩
  · rw [if_neg fun hfailed => hout hfailed.1]
    rcases hevents with rfl | rfl
    · exact hsuccess r _
    · exact (flags_onRxReceived cfg _).trans (hsuccess r _)
  · simp only [esbEvtIrqHandler, List.foldl_cons, List.foldl_nil, zmkEsbTransportEvtCb,
      Endpoint.mapTp_tp, Endpoint.mapRadio_tp, hsync, Bool.false_eq_true, if_false, true_and]
    exact flags_onTxFailed cfg _

/-! ## The mirror -/

namespace Flags

/-- **The rings mirror the FIFO**: slot by slot they hold the flags the
queued packets carry. -/
structure Mirror (f : Flags) (fifo : List Queued) : Prop where
  noack : cfg.channelHop = true →
    f.noack.contents (noackSlot cfg) = fifo.map fun q => q.noack
  critical : cfg.criticalMaxRetransmit = true →
    f.critical.contents (criticalSlot cfg) = fifo.map fun q => isCritical q.data

/-- A slot for each of two flags: free, or holding the flag already, in a
ring its counters do not take for an empty one. -/
def Room (f : Flags) (noack critical : Bool) : Prop :=
  (cfg.channelHop = true → f.noack.live < 255 ∧ f.noack.Room (noackSlot cfg) noack) ∧
    (cfg.criticalMaxRetransmit = true →
      f.critical.live < 255 ∧ f.critical.Room (criticalSlot cfg) critical)

instance (f : Flags) (noack critical : Bool) : Decidable (f.Room cfg noack critical) :=
  inferInstanceAs (Decidable ((_ → _ ∧ _) ∧ (_ → _ ∧ _)))

variable {cfg} {f : Flags} {fifo : List Queued} {q : Queued}

theorem Mirror.live_noack (h : f.Mirror cfg fifo) (hhop : cfg.channelHop = true) :
    f.noack.live = fifo.length := by
  rw [← Ring.length_contents (noackSlot cfg), h.noack hhop, List.length_map]

theorem Mirror.live_critical (h : f.Mirror cfg fifo) (hmax : cfg.criticalMaxRetransmit = true) :
    f.critical.live = fifo.length := by
  rw [← Ring.length_contents (criticalSlot cfg), h.critical hmax, List.length_map]

/-- A push that finds its slots is an append. -/
theorem Mirror.push (h : f.Mirror cfg fifo) (hroom : f.Room cfg q.noack (isCritical q.data)) :
    (f.push cfg q.noack (isCritical q.data)).Mirror cfg (fifo ++ [q]) := by
  constructor
  · intro hhop
    obtain ⟨hlive, hslot⟩ := hroom.1 hhop
    rw [h.live_noack hhop] at hlive
    rw [Flags.push, if_pos hhop]
    exact (Ring.contents_push_map_iff (h.noack hhop) (by omega)).2 hslot
  · intro hmax
    obtain ⟨hlive, hslot⟩ := hroom.2 hmax
    rw [h.live_critical hmax] at hlive
    rw [Flags.push, if_pos hmax]
    exact (Ring.contents_push_map_iff (x := q) (h.critical hmax) (by omega)).2 hslot

/-- A pop takes the flags of the head. -/
theorem Mirror.pop (h : f.Mirror cfg (q :: fifo)) : (f.pop cfg).Mirror cfg fifo := by
  constructor
  · intro hhop
    rw [Flags.pop, if_pos hhop]
    exact (Ring.of_contents_eq_cons (h.noack hhop)).2.2
  · intro hmax
    rw [Flags.pop, if_pos hmax]
    exact (Ring.of_contents_eq_cons (h.critical hmax)).2.2

/-- Empty rings have nothing to reset. -/
theorem reset_of_isEmpty (hnoack : cfg.channelHop = true → f.noack.isEmpty = true)
    (hcritical : cfg.criticalMaxRetransmit = true → f.critical.isEmpty = true) :
    f.reset cfg = f := by
  refine congrArg₂ Flags.mk ?_ ?_
  · split
    · rename_i hhop
      exact Ring.reset_of_isEmpty _ (hnoack hhop)
    · rfl
  · split
    · rename_i hmax
      exact Ring.reset_of_isEmpty _ (hcritical hmax)
    · rfl

theorem mirror_nil_reset : (f.reset cfg).Mirror cfg [] := by
  constructor
  · intro hhop
    rw [Flags.reset, if_pos hhop]
    exact Ring.contents_reset _ _
  · intro hmax
    rw [Flags.reset, if_pos hmax]
    exact Ring.contents_reset _ _

end Flags

/-! ## Runs -/

/-- The runs the rings are about: sends that do not find the FIFO full,
and successes, with time passing. -/
def SendsAndAcks (e : Endpoint) : TxOp → Prop
  | .send _ _ => esbTxFull cfg e.radio = false
  | .txDone outcome => outcome ≠ .exhausted
  | .tick _ => True
  | _ => False

instance (e : Endpoint) : (op : TxOp) → Decidable (SendsAndAcks cfg e op)
  | .send _ _ => inferInstanceAs (Decidable (esbTxFull cfg e.radio = false))
  | .txDone outcome => inferInstanceAs (Decidable (outcome ≠ .exhausted))
  | .tick _ => inferInstanceAs (Decidable True)
  | .setChannel _ | .flushTx | .idleBegin | .connected => inferInstanceAs (Decidable False)

/-- The TX event of a packet pops the flags that packet carries. -/
def PopsOwn (e : Endpoint) (outcome : TxOutcome) : Prop :=
  canEnd cfg e outcome = true → ∀ q ∈ e.radio.state.onAir,
    (cfg.channelHop = true → (consumeRecentNoack cfg e.tp).2 = q.noack) ∧
      (cfg.criticalMaxRetransmit = true → (consumeRecentOverride cfg e.tp).2 = isCritical q.data)

instance (e : Endpoint) (outcome : TxOutcome) : Decidable (PopsOwn cfg e outcome) :=
  inferInstanceAs (Decidable (_ → ∀ q ∈ e.radio.state.onAir, (_ → _) ∧ (_ → _)))

/-- **The flags are the packet's own**: a send pushes the flags the packet
it writes carries, and the event of that packet pops them. -/
def FlagsOwn (e : Endpoint) : TxOp → Prop
  | .send pipe data =>
    ∀ q ∈ (esbTransportSend cfg e pipe data).1.radio.txFifo, q.serial = e.radio.written →
      (esbTransportSend cfg e pipe data).1.flags = e.flags.push cfg q.noack (isCritical q.data)
  | .txDone outcome => PopsOwn cfg e outcome
  | _ => True

/-- The condition on a send that queues: the radio takes the packet, and
each flag finds a slot. -/
def FlagRoom (e : Endpoint) : TxOp → Prop
  | .send pipe data => sendQueues cfg e data = true →
      (data ≠ [] ∧ pipe < cfg.esbPipeCount) ∧
        e.flags.Room cfg (sendNoack cfg pipe data) (isCritical data)
  | _ => True

instance (e : Endpoint) : (op : TxOp) → Decidable (FlagRoom cfg e op)
  | .send pipe data =>
    inferInstanceAs (Decidable (sendQueues cfg e data = true →
      (data ≠ [] ∧ pipe < cfg.esbPipeCount) ∧
        e.flags.Room cfg (sendNoack cfg pipe data) (isCritical data)))
  | .txDone _ | .setChannel _ | .flushTx | .idleBegin | .connected | .tick _ =>
    inferInstanceAs (Decidable True)

/-- What the runs keep. -/
structure FlagsKept (e : Endpoint) : Prop extends AirSound cfg e where
  flags : e.flags.Mirror cfg e.radio.txFifo

variable {cfg e}

theorem isCritical_of_pktType {data data' : List UInt8} (h : pktType data = pktType data') :
    isCritical data = isCritical data' := by
  simp only [isCritical, isType, h]

/-- **The packet a send writes carries the flags the send pushes.** -/
theorem flags_outgoing {p : TxPath} {pipe : Nat} {data : List UInt8} :
    (p.outgoing cfg pipe data).2.noack = sendNoack cfg pipe data ∧
      isCritical (p.outgoing cfg pipe data).2.data = isCritical data :=
  ⟨TxPath.outgoing_noack, isCritical_of_pktType TxPath.outgoing_data.1⟩

/-- None of these runs flushes. -/
theorem SendsAndAcks.not_flushes {op : TxOp} (h : SendsAndAcks cfg e op) :
    (op.move cfg e).flushes = false := by
  cases op with
  | send pipe data =>
    have hfull : esbTxFull cfg e.radio = false := h
    have hflush : sendFlushes cfg e data = false := by
      rw [sendFlushes, hfull, Bool.and_false, Bool.false_and]
    rw [TxOp.move]
    split
    · exact hflush
    · rfl
  | txDone outcome =>
    rw [TxOp.move]
    split
    · split <;> rfl
    · rfl
  | tick ms => rfl
  | _ => exact absurd h id

/-- The packet a send writes, and what it does to the flags. -/
theorem FlagsKept.send_cases (h : FlagsKept cfg e) {pipe : Nat} {data : List UInt8}
    (hrun : SendsAndAcks cfg e (.send pipe data)) (hroom : FlagRoom cfg e (.send pipe data)) :
    (esbTransportSend cfg e pipe data).1.radio.txFifo = e.radio.txFifo ∧
        (esbTransportSend cfg e pipe data).1.flags = e.flags ∨
      ∃ q, q.serial = e.radio.written ∧
        (esbTransportSend cfg e pipe data).1.radio.txFifo = e.radio.txFifo ++ [q] ∧
        (esbTransportSend cfg e pipe data).1.flags =
          e.flags.push cfg q.noack (isCritical q.data) ∧
        e.flags.Room cfg q.noack (isCritical q.data) := by
  have hfull : esbTxFull cfg e.radio = false := hrun
  have hflush : sendFlushes cfg e data = false := by
    rw [sendFlushes, hfull, Bool.and_false, Bool.false_and]
  have hbase : sendBase cfg e data = e.path cfg := by
    rw [sendBase, hflush, if_neg Bool.false_ne_true]
  have hflags := flags_esbTransportSend cfg e pipe data
  rw [hflush, if_neg Bool.false_ne_true] at hflags
  rcases EsbEndpoint.send_cases h.path pipe data with
    ⟨hq, hpath⟩ | ⟨hq, hrefused, -⟩ | ⟨hq, -, hpath⟩
  · rw [hq, if_neg Bool.false_ne_true] at hflags
    exact Or.inl ⟨congrArg TxPath.fifo hpath, hflags⟩
  · exact absurd (hroom hq).1 hrefused
  · rw [hq, if_pos rfl] at hflags
    rw [hbase] at hpath
    obtain ⟨hnoack, hcritical⟩ := @flags_outgoing cfg (e.path cfg) pipe data
    obtain ⟨-, hslots⟩ := hroom hq
    refine Or.inr ⟨{ ((e.path cfg).outgoing cfg pipe data).2 with serial := e.radio.written }, rfl,
      congrArg TxPath.fifo hpath, ?_, ?_⟩
    · rw [hflags, hnoack, hcritical]
    · rw [hnoack, hcritical]
      exact hslots

/-- **What a step keeps.** -/
theorem FlagsKept.step (h : FlagsKept cfg e) {op : TxOp} (hrun : SendsAndAcks cfg e op)
    (hroom : FlagRoom cfg e op) : FlagsKept cfg (txStep cfg e op) := by
  refine ⟨h.toAirSound.step fun hflush => ?_, ?_⟩
  · rw [hrun.not_flushes] at hflush
    exact Bool.noConfusion hflush
  cases op with
  | send pipe data =>
    rw [txStep]
    rcases h.send_cases hrun hroom with ⟨hfifo, hflags⟩ | ⟨q, -, hfifo, hflags, hslots⟩
    · rw [hfifo, hflags]
      exact h.flags
    · rw [hfifo, hflags]
      exact h.flags.push hslots
  | txDone outcome =>
    have hfifo := congrArg TxPath.fifo (path_txStep cfg e (.txDone outcome) h.path.syncing)
    have hflags := flags_txDone cfg e outcome h.path.syncing
    have hsuccess : outcome ≠ .exhausted := hrun
    rw [TxOp.move] at hfifo
    cases hend : canEnd cfg e outcome with
    | false =>
      rw [hend, if_neg Bool.false_ne_true] at hfifo hflags
      have hsame : (txStep cfg e (.txDone outcome)).radio.txFifo = e.radio.txFifo := hfifo
      rw [hsame, txStep, hflags]
      exact h.flags
    | true =>
      rw [hend, if_pos rfl, if_neg hsuccess] at hfifo
      rw [hend, if_pos rfl, if_neg fun hfailed => hsuccess hfailed.1] at hflags
      -- the packet on the air is the head, which leaves
      obtain ⟨q, hq⟩ := onAir_of_canEnd cfg e hend
      obtain ⟨qs, hcons⟩ := List.head?_eq_some_iff.1 (h.air q hq)
      have hleft : (txStep cfg e (.txDone outcome)).radio.txFifo = qs :=
        hfifo.trans (congrArg List.tail hcons)
      rw [hleft, txStep, hflags]
      refine Flags.Mirror.pop (q := q) ?_
      rw [← hcons]
      exact h.flags
  | tick ms => exact h.flags
  | _ => exact absurd hrun id

theorem flags_start (deviceId : List UInt8) (saved : Option PairedRec) :
    (Endpoint.start cfg deviceId saved).flags = ⟨Ring.empty false, Ring.empty false⟩ :=
  flags_esbTransportOnSlotStart cfg _

theorem flagsKept_start (deviceId : List UInt8) (saved : Option PairedRec) :
    FlagsKept cfg (Endpoint.start cfg deviceId saved) := by
  refine ⟨airSound_start deviceId saved, ?_⟩
  have hfifo : (Endpoint.start cfg deviceId saved).radio.txFifo = [] :=
    congrArg TxPath.fifo (path_start cfg deviceId saved)
  rw [flags_start, hfifo]
  exact ⟨fun _ => Ring.contents_empty _ _, fun _ => Ring.contents_empty _ _⟩

/-- **What a step pushes and pops.** -/
theorem FlagsKept.own (h : FlagsKept cfg e) {op : TxOp} (hrun : SendsAndAcks cfg e op)
    (hroom : FlagRoom cfg e op) : FlagsOwn cfg e op := by
  cases op with
  | send pipe data =>
    intro q hq hserial
    rcases h.send_cases hrun hroom with ⟨hfifo, -⟩ | ⟨q', hserial', hfifo, hflags, -⟩
    · rw [hfifo] at hq
      have hbelow := h.path.below q hq
      exact absurd hserial (Nat.ne_of_lt hbelow)
    · rw [hfifo] at hq
      rcases List.mem_append.1 hq with hold | hnew
      · exact absurd hserial (Nat.ne_of_lt (h.path.below q hold))
      · rw [List.mem_singleton.1 hnew]
        exact hflags
  | txDone outcome =>
    intro hend q hq
    obtain ⟨qs, hcons⟩ := List.head?_eq_some_iff.1 (h.air q hq)
    have hmirror := h.flags
    have hfifo : e.radio.txFifo = q :: qs := hcons
    rw [hfifo] at hmirror
    constructor
    · intro hhop
      obtain ⟨hempty, hfront, -⟩ := Ring.of_contents_eq_cons (hmirror.noack hhop)
      have hring : e.tp.recentNoack.isEmpty = false := hempty
      rw [consumeRecentNoack, hring, if_neg Bool.false_ne_true]
      exact hfront
    · intro hmax
      obtain ⟨hempty, hfront, -⟩ := Ring.of_contents_eq_cons (hmirror.critical hmax)
      have hring : e.tp.recentCritical.isEmpty = false := hempty
      rw [consumeRecentOverride, hring, if_neg Bool.false_ne_true]
      exact hfront
  | _ => trivial

/-- **Rings as deep as the FIFO have a slot for every flag.** -/
theorem FlagsKept.room_of_depth (h : FlagsKept cfg e)
    (hnoack : cfg.channelHop = true → cfg.esbTxFifoSize ≤ cfg.linkQualityNoackRingSize)
    (hcritical : cfg.criticalMaxRetransmit = true → cfg.esbTxFifoSize ≤ cfg.critOverrideRingSize)
    (hfull : esbTxFull cfg e.radio = false) (noack critical : Bool) :
    e.flags.Room cfg noack critical := by
  have hlen : e.radio.txFifo.length < cfg.esbTxFifoSize := Nat.not_le.1 (of_decide_eq_false hfull)
  have hmask : ∀ {k : Nat}, 2 ^ k ≤ 64 → k ≤ 8 := fun hle =>
    (Nat.pow_le_pow_iff_right (by decide)).1 (hle.trans (by decide : 64 ≤ 2 ^ 8))
  constructor
  · intro hhop
    obtain ⟨k, hk⟩ := cfg.noackRing_pow
    have hle := cfg.noackRing_le
    have hdepth := hnoack hhop
    have hlive := h.flags.live_noack hhop
    refine ⟨by omega, Ring.room_of_mask _ _ _ (hmask (hk ▸ hle)) (fun c => ?_) (by omega)⟩
    rw [← hk]
    rfl
  · intro hmax
    obtain ⟨k, hk⟩ := cfg.critRing_pow
    have hle := cfg.critRing_le
    have hdepth := hcritical hmax
    have hlive := h.flags.live_critical hmax
    refine ⟨by omega, Ring.room_of_mask _ _ _ (hmask (hk ▸ hle)) (fun c => ?_) (by omega)⟩
    rw [← hk]
    rfl

/-- The radio takes what a send queues. -/
def SendTaken (cfg : Config) (e : Endpoint) : TxOp → Prop
  | .send pipe data => sendQueues cfg e data = true → data ≠ [] ∧ pipe < cfg.esbPipeCount
  | _ => True

instance (cfg : Config) (e : Endpoint) : (op : TxOp) → Decidable (SendTaken cfg e op)
  | .send pipe data =>
    inferInstanceAs (Decidable (sendQueues cfg e data = true →
      data ≠ [] ∧ pipe < cfg.esbPipeCount))
  | .txDone _ | .setChannel _ | .flushTx | .idleBegin | .connected | .tick _ =>
    inferInstanceAs (Decidable True)

/-- **Rings as deep as the FIFO are deep enough**: every run of sends the
radio takes, and successes, pops what it pushed. -/
theorem flagsOwn_of_depth (cfg : Config)
    (hnoack : cfg.channelHop = true → cfg.esbTxFifoSize ≤ cfg.linkQualityNoackRingSize)
    (hcritical : cfg.criticalMaxRetransmit = true → cfg.esbTxFifoSize ≤ cfg.critOverrideRingSize)
    (deviceId : List UInt8) (saved : Option PairedRec) (ops : List TxOp)
    (hrun : Guarded (txStep cfg) (SendsAndAcks cfg) (Endpoint.start cfg deviceId saved) ops)
    (htaken : Guarded (txStep cfg) (SendTaken cfg) (Endpoint.start cfg deviceId saved) ops) :
    Guarded (txStep cfg) (FlagsOwn cfg) (Endpoint.start cfg deviceId saved) ops := by
  have hroom : ∀ e op, FlagsKept cfg e → SendsAndAcks cfg e op ∧ SendTaken cfg e op →
      FlagRoom cfg e op := by
    intro e op h hop
    cases op with
    | send pipe data =>
      exact fun hq => ⟨hop.2 hq, h.room_of_depth hnoack hcritical hop.1 _ _⟩
    | _ => trivial
  exact Guarded.of_invariant (I := FlagsKept cfg)
    (fun e op h hop => h.step hop.1 (hroom e op h hop))
    (fun e op h hop => h.own hop.1 (hroom e op h hop)) (flagsKept_start deviceId saved)
    (hrun.and htaken)

/-- Two key reports, the second queued behind the first. -/
theorem flagsOwn_of_depth_twoKeys :
    Guarded (txStep .default) (FlagsOwn .default) (Endpoint.start .default [] none)
      [.send esbPipeData [esbPktHidReport, esbReportKeyboard, 0, 0, 4, 0, 0, 0, 0, 0],
        .send esbPipeData [esbPktHidReport, esbReportKeyboard, 0, 0, 0, 0, 0, 0, 0, 0],
        .txDone (.acked 0 []), .txDone (.acked 0 [])] :=
  flagsOwn_of_depth .default (fun _ => by decide) (fun _ => by decide) [] none _
    (by decide +kernel) (by decide +kernel)

/-- **Along a run of sends and successes the rings are deep enough** as
long as every flag finds its slot: each send pushes the flags its packet
carries, and each event pops those of the packet acknowledged. -/
theorem flagsOwn_run (cfg : Config) (deviceId : List UInt8) (saved : Option PairedRec)
    (ops : List TxOp)
    (hrun : Guarded (txStep cfg) (SendsAndAcks cfg) (Endpoint.start cfg deviceId saved) ops)
    (hroom : Guarded (txStep cfg) (FlagRoom cfg) (Endpoint.start cfg deviceId saved) ops) :
    Guarded (txStep cfg) (FlagsOwn cfg) (Endpoint.start cfg deviceId saved) ops :=
  Guarded.of_invariant (I := FlagsKept cfg) (fun _ _ h hop => h.step hop.1 hop.2)
    (fun _ _ h hop => h.own hop.1 hop.2) (flagsKept_start deviceId saved) (hrun.and hroom)

/-- A key and a pointer report, both acknowledged. -/
theorem flagsOwn_run_acked :
    Guarded (txStep .default) (FlagsOwn .default) (Endpoint.start .default [] none)
      [.send esbPipeData [esbPktHidReport, esbReportKeyboard, 0, 0, 4, 0, 0, 0, 0, 0],
        .send esbPipeData [esbPktHidReport, esbReportMouse, 0, 5, 0, 0, 0, 0, 0, 0, 0],
        .txDone (.acked 0 []), .txDone (.acked 0 [])] :=
  flagsOwn_run .default [] none _ (by decide +kernel) (by decide +kernel)

/-- **A key report and eight pointer reports** are more than the noack ring
holds: the last takes the slot of the first. -/
theorem not_flagsOwn_run : ¬ ∀ (cfg : Config) (deviceId : List UInt8) (saved : Option PairedRec)
    (ops : List TxOp),
    Guarded (txStep cfg) (SendsAndAcks cfg) (Endpoint.start cfg deviceId saved) ops →
      Guarded (txStep cfg) (FlagsOwn cfg) (Endpoint.start cfg deviceId saved) ops := by
  intro h
  have hrun := h .withShellNoack [] none
    (.send esbPipeData [esbPktHidReport, esbReportKeyboard, 0, 0, 4, 0, 0, 0, 0, 0] ::
      List.replicate 8
        (.send esbPipeData [esbPktHidReport, esbReportMouse, 0, 5, 0, 0, 0, 0, 0, 0, 0]) ++
      [.txDone (.acked 0 [])])
    (by decide +kernel)
  exact absurd (guarded_append.1 hrun).2.1 (by
    unfold FlagsOwn
    decide +kernel)

end EsbEndpoint
