import EsbEndpoint.Transport.Held
import EsbEndpoint.Transport.Step

/-!
# The retransmit count

A critical packet and a pointer report each send under a retransmit count
of their own, and `restore_retransmit_count` puts the steady count back
when their TX event is handled. The radio takes a change of the count only
while it is idle, and the packet queued behind has started by the time the
event is handled, so within a burst it is the last event that decides: it
puts the steady count back if it pops the record of an overriding send,
and leaves whatever count is set otherwise. The adaptive tick then compares
its target with the cached count and never reads the radio's.
-/

namespace EsbEndpoint

variable (cfg : Config) (e : Endpoint)

/-! ## The adaptive count -/

/-- `adaptive_retry_target` -/
def adaptiveRetryTarget (ewmaX10 : UInt16) : Nat :=
  let ewma := ewmaX10.toNat
  if ewma ≤ cfg.adaptiveRetryEwmaLow then cfg.adaptiveRetryCountMin
  else if cfg.adaptiveRetryEwmaHigh ≤ ewma then cfg.adaptiveRetryCountMax
  else
    -- `uint32_t` throughout, whatever the order of the two counts
    let span := UInt32.ofNat cfg.adaptiveRetryEwmaHigh - UInt32.ofNat cfg.adaptiveRetryEwmaLow
    let into := UInt32.ofNat ewma - UInt32.ofNat cfg.adaptiveRetryEwmaLow
    let delta := (into * (UInt32.ofNat cfg.adaptiveRetryCountMax -
      UInt32.ofNat cfg.adaptiveRetryCountMin)) / span
    (UInt32.ofNat cfg.adaptiveRetryCountMin + delta).toUInt8.toNat

/-- `adaptive_retry_work_fn` -/
def adaptiveRetryWorkFn : Endpoint :=
  let want := adaptiveRetryTarget cfg e.tp.linkQualityEwmaX10
  let e :=
    if want != e.tp.adaptiveRetransmitCount then
      match esbSetRetransmitCount e.radio want with
      | (r, none) =>
        (e.mapRadio fun _ => r).mapTp fun tp => { tp with adaptiveRetransmitCount := want }
      | (_, some _) => e
    else e
  e.mapTp fun tp => { tp with adaptiveRetryWork := some cfg.adaptiveRetryIntervalMs }

/-- The count `restore_retransmit_count` puts back. -/
def steadyCount (tp : Transport) : Nat :=
  if cfg.channelHop && cfg.adaptiveRetry then tp.adaptiveRetransmitCount else cfg.retransmitCount

/-! ## Runs -/

/-- What an active slot does to the count: sends, TX events and adaptive
ticks, with time passing. -/
inductive RetryOp
  | send (pipe : Nat) (data : List UInt8)
  | txDone (outcome : TxOutcome)
  | adaptiveRetry
  | tick (ms : Nat)

def retryStep : RetryOp → Endpoint
  | .send pipe data => (esbTransportSend cfg e pipe data).1
  | .txDone outcome => txDone cfg e outcome
  | .adaptiveRetry => if cfg.channelHop && cfg.adaptiveRetry then adaptiveRetryWorkFn cfg e else e
  | .tick ms => { e with uptime := e.uptime + ms }

/-- The FIFO is empty and the radio is idle. -/
def AtRest (r : Radio) : Prop := r.txFifo = [] ∧ r.state = .idle

/-- **The radio returns to its steady count**: at rest, the next adaptive
tick leaves the radio with the cached count, and without adaptive retry
the radio has the configured count already. -/
def ReturnsToSteady : Prop :=
  AtRest e.radio →
    if cfg.channelHop && cfg.adaptiveRetry then
      (adaptiveRetryWorkFn cfg e).radio.retransmitCount =
        (adaptiveRetryWorkFn cfg e).tp.adaptiveRetransmitCount
    else e.radio.retransmitCount = cfg.retransmitCount

/-! ## When an override is left behind -/

/-- Whether a send sets the pointer count: motion and no button in the
body it is about to write. -/
def asksPointerOverride (pipe : Nat) (data : List UInt8) : Bool :=
  let body := (motionRefundApply cfg e.now e.motion.refund (mouseBodyOf data)).2
  isMouseReport data && (!body.deltas.isZero && body.buttons == 0 && !sendNoack cfg pipe data)

/-- Whether a send sets a count of its own. -/
def asksOverride (pipe : Nat) (data : List UInt8) : Bool :=
  (cfg.criticalMaxRetransmit && isCritical data) || asksPointerOverride cfg e pipe data

/-- Whether the next TX event pops the record of an overriding send. -/
def popsOverride : Bool :=
  (cfg.criticalMaxRetransmit && (consumeRecentOverride cfg e.tp).2) ||
    (motionRingConsume cfg e.now false e.motion).2

/-- Whether a transmission that ends this way leaves the FIFO empty and
the radio idle. -/
def comesToRest (r : Radio) (outcome : TxOutcome) : Bool :=
  match r.state, outcome with
  | .ptxTx _, .sent => r.txFifo.tail.isEmpty && !cfg.esbNeverDisableTx
  | .ptxTxAck _ _, .acked _ _ => r.txFifo.tail.isEmpty
  | .ptxTxAck _ _, .exhausted => r.txFifo.isEmpty
  | _, _ => false

/-- **No override is left behind**: the event that brings the radio to
rest pops an overriding record, or finds the steady count set; and no
overriding send has its write refused by a radio at rest. -/
def OverrideUndone : RetryOp → Prop
  | .send pipe data =>
    sendQueues cfg e data = true → asksOverride cfg e pipe data = true →
      (sendBase cfg e data).fifo = [] → e.radio.state = .idle → pipe < cfg.esbPipeCount
  | .txDone outcome =>
    comesToRest cfg e.radio outcome = true →
      popsOverride cfg e = true ∨ e.radio.retransmitCount = steadyCount cfg e.tp
  | .adaptiveRetry => True
  | .tick _ => True

instance : (op : RetryOp) → Decidable (OverrideUndone cfg e op)
  | .send pipe data =>
    inferInstanceAs (Decidable (sendQueues cfg e data = true → asksOverride cfg e pipe data = true →
      (sendBase cfg e data).fifo = [] → e.radio.state = .idle → pipe < cfg.esbPipeCount))
  | .txDone outcome =>
    inferInstanceAs (Decidable (comesToRest cfg e.radio outcome = true →
      popsOverride cfg e = true ∨ e.radio.retransmitCount = steadyCount cfg e.tp))
  | .adaptiveRetry => inferInstanceAs (Decidable True)
  | .tick _ => inferInstanceAs (Decidable True)

/-! ## The retransmit settings of an endpoint -/

/-- What an override works on: whether the radio takes a change of its
count, the count, the cached one, and the ring of critical sends. -/
structure Retry where
  idle : Bool
  count : Nat
  cached : Nat
  critical : Ring 8 Bool

def Endpoint.retry : Retry where
  idle := e.radio.state == .idle
  count := e.radio.retransmitCount
  cached := e.tp.adaptiveRetransmitCount
  critical := e.tp.recentCritical

namespace Retry

variable (r : Retry)

/-- `esb_set_retransmit_count` -/
def set (n : Nat) : Retry := if r.idle then { r with count := n } else r

/-- The steady count. -/
def steady : Nat := if cfg.channelHop && cfg.adaptiveRetry then r.cached else cfg.retransmitCount

/-- `restore_retransmit_count` -/
def restore : Retry := r.set (r.steady cfg)

/-- The part of `esb_flush_tx_and_reset`. -/
def flush : Retry :=
  { r with critical := if cfg.criticalMaxRetransmit then r.critical.reset else r.critical }.restore
    cfg

/-- The critical-packet override of a send. -/
def noteCritical (data : List UInt8) : Retry :=
  if !cfg.criticalMaxRetransmit then r
  else
    let r := { r with critical := r.critical.push (criticalSlot cfg) (isCritical data) }
    if isCritical data then r.set cfg.criticalRetransmitCount else r

/-- The two overrides of a send, the second where `pointer` holds. -/
def override (data : List UInt8) (pointer : Bool) : Retry :=
  if pointer then (r.noteCritical cfg data).set cfg.pointerRetransmitCount
  else r.noteCritical cfg data

variable {cfg r}

@[simp] theorem set_idle (n : Nat) : (r.set n).idle = r.idle := by
  unfold set
  split <;> rfl

@[simp] theorem set_cached (n : Nat) : (r.set n).cached = r.cached := by
  unfold set
  split <;> rfl

@[simp] theorem set_critical (n : Nat) : (r.set n).critical = r.critical := by
  unfold set
  split <;> rfl

@[simp] theorem steady_set (n : Nat) : (r.set n).steady cfg = r.steady cfg := by
  unfold steady
  rw [set_cached]

theorem set_count (h : r.idle = true) (n : Nat) : (r.set n).count = n := by
  unfold set
  rw [if_pos h]

theorem set_busy (h : r.idle = false) (n : Nat) : r.set n = r := by
  unfold set
  rw [h, if_neg Bool.false_ne_true]

@[simp] theorem flush_idle : (r.flush cfg).idle = r.idle := by
  unfold flush restore
  rw [set_idle]

@[simp] theorem steady_flush : (r.flush cfg).steady cfg = r.steady cfg := by
  unfold flush restore
  rw [steady_set]
  rfl

/-- **A flush of an idle radio puts the steady count back.** -/
theorem flush_count (h : r.idle = true) : (r.flush cfg).count = r.steady cfg := by
  unfold flush restore
  generalize hforgot : ({ r with
    critical := if cfg.criticalMaxRetransmit then r.critical.reset else r.critical } : Retry) = r'
  have hidle : r'.idle = true := by rw [← hforgot]; exact h
  rw [set_count hidle, ← hforgot]
  rfl

@[simp] theorem noteCritical_idle {data : List UInt8} :
    (r.noteCritical cfg data).idle = r.idle := by
  unfold noteCritical
  split
  · rfl
  · dsimp only
    split
    · rw [set_idle]
    · rfl

@[simp] theorem override_idle {data : List UInt8} {pointer : Bool} :
    (r.override cfg data pointer).idle = r.idle := by
  unfold override
  split
  · rw [set_idle, noteCritical_idle]
  · exact noteCritical_idle

@[simp] theorem steady_override {data : List UInt8} {pointer : Bool} :
    (r.override cfg data pointer).steady cfg = r.steady cfg := by
  have hcritical : (r.noteCritical cfg data).steady cfg = r.steady cfg := by
    unfold noteCritical
    split
    · rfl
    · dsimp only
      split
      · rw [steady_set]
        rfl
      · rfl
  unfold override
  split
  · rw [steady_set, hcritical]
  · exact hcritical

/-- A send that asks for no override changes no count. -/
theorem override_of_not {data : List UInt8} {pointer : Bool}
    (h : ((cfg.criticalMaxRetransmit && isCritical data) || pointer) = false) :
    (r.override cfg data pointer).count = r.count ∧
      (r.override cfg data pointer).steady cfg = r.steady cfg := by
  obtain ⟨hcritical, hpointer⟩ := Bool.or_eq_false_iff.1 h
  unfold override noteCritical
  rw [hpointer, if_neg Bool.false_ne_true]
  cases hmax : cfg.criticalMaxRetransmit with
  | false => exact ⟨rfl, rfl⟩
  | true =>
    rw [hmax, Bool.true_and] at hcritical
    simp only [hcritical, Bool.not_true, Bool.false_eq_true, if_false]
    exact ⟨trivial, rfl⟩

end Retry

/-! ## What leaves the settings alone -/

section Frame

theorem retry_mapRadio_eq {f : Radio → Radio}
    (h : (f e.radio).state = e.radio.state ∧
      (f e.radio).retransmitCount = e.radio.retransmitCount) :
    (e.mapRadio f).retry = e.retry := by
  simp only [Endpoint.retry, Endpoint.mapRadio_radio, Endpoint.mapRadio_tp, h.1, h.2]

theorem retry_mapTp_eq {f : Transport → Transport}
    (h : (f e.tp).adaptiveRetransmitCount = e.tp.adaptiveRetransmitCount ∧
      (f e.tp).recentCritical = e.tp.recentCritical) :
    (e.mapTp f).retry = e.retry := by
  simp only [Endpoint.retry, Endpoint.mapTp_radio, Endpoint.mapTp_tp, h.1, h.2]

@[simp] theorem retry_mapHop (f : HopEp → HopEp) : (e.mapHop f).retry = e.retry := rfl

@[simp] theorem retry_mapShell (f : ShellRelay → ShellRelay) : (e.mapShell f).retry = e.retry := rfl

@[simp] theorem retry_mapMotion (f : Motion → Motion) : (e.mapMotion f).retry = e.retry := rfl

@[simp] theorem retry_noteHanded (pipe : Nat) (data : List UInt8) :
    (noteHanded e pipe data).retry = e.retry := rfl

@[simp] theorem retry_jitterRetransmitDelay : (jitterRetransmitDelay cfg e).retry = e.retry := by
  obtain ⟨d', hd'⟩ := esbSetRetransmitDelay_frame e.radio
    (jitteredRetransmitDelay cfg e.now e.tp.jitterRng).1
  unfold jitterRetransmitDelay
  rw [retry_mapRadio_eq, retry_mapTp_eq]
  · exact ⟨rfl, rfl⟩
  · rw [Endpoint.mapTp_radio, hd']
    exact ⟨rfl, rfl⟩

@[simp] theorem retry_endQuietWindow : (endQuietWindow cfg e).retry = e.retry := by
  unfold endQuietWindow
  split <;> rfl

@[simp] theorem retry_pushNoack (noack : Bool) : (pushNoack cfg e noack).retry = e.retry := by
  unfold pushNoack
  split <;> rfl

@[simp] theorem retry_noteSend (data : List UInt8) : (noteSend cfg e data).retry = e.retry := by
  have hcount : ∀ now tp, (countHidTx now tp).adaptiveRetransmitCount = tp.adaptiveRetransmitCount ∧
      (countHidTx now tp).recentCritical = tp.recentCritical := by
    intro now tp
    unfold countHidTx
    dsimp only
    split
    · exact ⟨rfl, rfl⟩
    · split <;> exact ⟨rfl, rfl⟩
  have hact :
      (if isType esbPktShellBgPoll data then e else noteActivity e).retry = e.retry := by
    split <;> rfl
  unfold noteSend
  dsimp only
  generalize (if isType esbPktShellBgPoll data then e else noteActivity e) = e₁ at hact ⊢
  have hhid : (if isType esbPktHidReport data then e₁.mapTp (countHidTx e₁.now) else e₁).retry =
      e₁.retry := by
    split
    · exact retry_mapTp_eq e₁ (hcount _ _)
    · rfl
  split
  · rw [retry_mapHop, hhid, hact]
  · rw [hhid, hact]

@[simp] theorem retry_checkLinkDegraded : (checkLinkDegraded cfg e).retry = e.retry := by
  unfold checkLinkDegraded
  split
  · rfl
  · split
    · split <;> rfl
    · split <;> rfl

theorem consumeRecentNoack_retry (tp : Transport) :
    (consumeRecentNoack cfg tp).1.adaptiveRetransmitCount = tp.adaptiveRetransmitCount ∧
      (consumeRecentNoack cfg tp).1.recentCritical = tp.recentCritical := by
  unfold consumeRecentNoack
  split <;> exact ⟨rfl, rfl⟩

@[simp] theorem retry_hopOnSuccess (n : Nat) : (hopOnSuccess cfg e n).retry = e.retry := by
  have hrecord : ∀ e' : Endpoint, (recordSuccess cfg e' n).retry = e'.retry := by
    intro e'
    have htp : (e'.mapTp fun _ => (consumeRecentNoack cfg e'.tp).1).retry = e'.retry :=
      retry_mapTp_eq e' (consumeRecentNoack_retry cfg e'.tp)
    have hquality : ∀ e'' : Endpoint,
        (e''.mapTp (linkQualityRecord cfg (UInt8.ofNat n) (1 < n))).retry = e''.retry :=
      fun _ => rfl
    unfold recordSuccess
    dsimp only
    split
    · exact htp
    · rw [retry_checkLinkDegraded, hquality]
      exact htp
  unfold hopOnSuccess
  split
  · rfl
  · exact hrecord _

@[simp] theorem retry_hopOnFailure : (hopOnFailure cfg e).retry = e.retry := by
  have hwindow : (checkFailWindow cfg e).retry = e.retry := by
    unfold checkFailWindow
    split
    · rfl
    · split <;> rfl
  have hweak : ∀ e' : Endpoint, (checkWeakLink cfg e').retry = e'.retry := by
    intro e'
    unfold checkWeakLink
    split <;> rfl
  unfold hopOnFailure
  split
  · rfl
  · rw [← hwindow, ← hweak (checkFailWindow cfg e)]
    exact retry_mapTp_eq _ (consumeRecentNoack_retry cfg _)

theorem retry_onRxReceived : (onRxReceived cfg e).retry = e.retry := by
  have htake : ∀ (fifo : List (List UInt8)) (tp : Transport),
      (fifo.foldl (takeRxPayload cfg) tp).adaptiveRetransmitCount = tp.adaptiveRetransmitCount ∧
        (fifo.foldl (takeRxPayload cfg) tp).recentCritical = tp.recentCritical := by
    intro fifo
    induction fifo with
    | nil => exact fun tp => ⟨rfl, rfl⟩
    | cons data fifo ih =>
      intro tp
      obtain ⟨hcached, hcritical⟩ := ih (takeRxPayload cfg tp data)
      rw [List.foldl_cons, hcached, hcritical, takeRxPayload]
      split <;> exact ⟨rfl, rfl⟩
  unfold onRxReceived
  split
  · rfl
  · exact retry_mapTp_eq e (htake _ _)

end Frame

/-! ## What moves them -/

@[simp] theorem retry_trySetRetransmitCount (n : Nat) :
    (trySetRetransmitCount e n).retry = e.retry.set n := by
  unfold trySetRetransmitCount esbSetRetransmitCount
  cases hstate : e.radio.state <;>
    simp [Endpoint.retry, Retry.set, hstate]

@[simp] theorem retry_restoreRetransmitCount :
    (restoreRetransmitCount cfg e).retry = e.retry.restore cfg :=
  retry_trySetRetransmitCount e _

@[simp] theorem retry_esbFlushTxAndReset :
    (esbFlushTxAndReset cfg e).retry = e.retry.flush cfg := by
  have hflush : (e.mapRadio esbFlushTx).retry = e.retry := by
    refine retry_mapRadio_eq e ?_
    unfold esbFlushTx
    split <;> exact ⟨rfl, rfl⟩
  unfold esbFlushTxAndReset
  dsimp only
  rw [retry_restoreRetransmitCount, retry_mapMotion, Retry.flush, ← hflush]
  rfl

@[simp] theorem retry_overrideCritical (data : List UInt8) :
    (overrideCritical cfg e data).retry = e.retry.noteCritical cfg data := by
  unfold overrideCritical Retry.noteCritical
  split
  · rfl
  · dsimp only
    split
    · rw [retry_trySetRetransmitCount]
      rfl
    · rfl

/-! ## Sends -/

/-- A send that is too long or dropped changes no setting. -/
theorem retry_send_of_not_queues {pipe : Nat} {data : List UInt8}
    (h : sendQueues cfg e data = false) : (esbTransportSend cfg e pipe data).1.retry = e.retry := by
  obtain ⟨e', hsend, rfl | rfl | rfl⟩ := @esbTransportSend_of_not_queues cfg e pipe data h
  · rw [hsend, retry_noteHanded]
  · rw [hsend, retry_jitterRetransmitDelay, retry_noteHanded]
  · rw [hsend, retry_endQuietWindow, retry_jitterRetransmitDelay, retry_noteHanded]

/-- A refused write leaves the settings with what the overrides made of
them. -/
theorem retry_writeOut_of_refused {payload : EsbPayload}
    (h : (writeOut cfg e payload).2 ≠ none) : (writeOut cfg e payload).1.retry = e.retry := by
  unfold writeOut esbWritePayload at h ⊢
  cases herr : writeError cfg e.radio payload with
  | some err => rfl
  | none => simp only [herr, ne_eq, not_true_eq_false] at h

/-- The settings a send hands its payload to the radio with. -/
theorem sendQueued_eq_writeOut (pipe : Nat) (data : List UInt8) :
    ∃ e' payload, sendQueued cfg e pipe data = writeOut cfg e' payload ∧
      e'.retry = e.retry.override cfg data (asksPointerOverride cfg e pipe data) ∧
      e'.radio.held = e.radio.held := by
  unfold sendQueued
  dsimp only
  generalize he' : overrideCritical cfg (noteSend cfg (pushNoack cfg e (sendNoack cfg pipe data))
    data) data = e'
  have hretry : e'.retry = e.retry.noteCritical cfg data := by
    rw [← he', retry_overrideCritical, retry_noteSend, retry_pushNoack]
  have hheld : e'.radio.held = e.radio.held := by
    rw [← he', held_overrideCritical, radio_noteSend, radio_pushNoack]
  have hpath : e'.path cfg = e.path cfg := by
    rw [← he', path_overrideCritical, path_noteSend, path_pushNoack]
  have hnow : e'.now = e.now := congrArg TxPath.now hpath
  have hmotion : e'.motion = e.motion := congrArg TxPath.motion hpath
  unfold sendMotion Retry.override asksPointerOverride
  cases hmouse : isMouseReport data with
  | false =>
    simp only [Bool.false_and, Bool.false_eq_true, if_false]
    refine ⟨_, _, rfl, ?_, ?_⟩
    · rw [retry_mapMotion, hretry]
    · rw [Endpoint.mapMotion_radio, hheld]
  | true =>
    simp only [Bool.true_and, if_true, hnow, hmotion]
    refine ⟨_, _, rfl, ?_, ?_⟩
    · rw [retry_mapMotion]
      split
      · rw [retry_trySetRetransmitCount, retry_mapMotion, hretry]
      · rw [retry_mapMotion, hretry]
    · rw [Endpoint.mapMotion_radio]
      split
      · rw [held_trySetRetransmitCount, Endpoint.mapMotion_radio, hheld]
      · rw [Endpoint.mapMotion_radio, hheld]

/-- What the pointer override depends on, a flush keeps. -/
theorem asksPointerOverride_flush {pipe : Nat} {data : List UInt8} :
    asksPointerOverride cfg (esbFlushTxAndReset cfg e) pipe data =
      asksPointerOverride cfg e pipe data := by
  have hpath := path_esbFlushTxAndReset cfg e
  have hnow : (esbFlushTxAndReset cfg e).now = e.now := congrArg TxPath.now hpath
  have hmotion : (esbFlushTxAndReset cfg e).motion = e.motion.flush := congrArg TxPath.motion hpath
  unfold asksPointerOverride
  rw [hnow, hmotion]
  rfl

theorem asksOverride_nil {pipe : Nat} : asksOverride cfg e pipe [] = false := by
  unfold asksOverride asksPointerOverride
  exact Bool.or_eq_false_iff.2 ⟨Bool.and_false _, rfl⟩

/-- **A send that queues**, on the settings: the flush it makes if the
FIFO is full, then its overrides, then the write. -/
theorem send_eq_writeOut (pipe : Nat) {data : List UInt8} (hq : sendQueues cfg e data = true) :
    ∃ e' payload, esbTransportSend cfg e pipe data = writeOut cfg e' payload ∧
      e'.retry = (if sendFlushes cfg e data then e.retry.flush cfg else e.retry).override cfg data
        (asksPointerOverride cfg e pipe data) ∧
      e'.radio.held = e.radio.held := by
  rw [esbTransportSend_of_queues cfg e hq]
  obtain ⟨e₁, he₁⟩ : ∃ e₁, e₁ = endQuietWindow cfg (jitterRetransmitDelay cfg
      (noteHanded e pipe data)) := ⟨_, rfl⟩
  have hclear : e₁.retry = e.retry := by
    rw [he₁, retry_endQuietWindow, retry_jitterRetransmitDelay, retry_noteHanded]
  have hpath : e₁.path cfg = e.path cfg := by
    rw [he₁, path_endQuietWindow, path_jitterRetransmitDelay, path_noteHanded]
  have hheld : e₁.radio.held = e.radio.held := by
    rw [he₁, radio_endQuietWindow, held_jitterRetransmitDelay, radio_noteHanded]
  rw [← he₁]
  have hpointer : asksPointerOverride cfg e₁ pipe data = asksPointerOverride cfg e pipe data := by
    have hnow : e₁.now = e.now := congrArg TxPath.now hpath
    have hmotion : e₁.motion = e.motion := congrArg TxPath.motion hpath
    unfold asksPointerOverride
    rw [hnow, hmotion]
  split
  · obtain ⟨e', payload, hwrite, hretry, hheld'⟩ :=
      sendQueued_eq_writeOut cfg (esbFlushTxAndReset cfg e₁) pipe data
    rw [asksPointerOverride_flush, retry_esbFlushTxAndReset, hclear, hpointer] at hretry
    rw [held_esbFlushTxAndReset, hheld] at hheld'
    exact ⟨e', payload, hwrite, hretry, hheld'⟩
  · obtain ⟨e', payload, hwrite, hretry, hheld'⟩ := sendQueued_eq_writeOut cfg e₁ pipe data
    rw [hclear, hpointer] at hretry
    rw [hheld] at hheld'
    exact ⟨e', payload, hwrite, hretry, hheld'⟩

/-- A send whose write is refused leaves the settings at that. -/
theorem retry_send_of_refused {pipe : Nat} {data : List UInt8}
    (hq : sendQueues cfg e data = true) (h : (esbTransportSend cfg e pipe data).2 ≠ none) :
    (esbTransportSend cfg e pipe data).1.retry =
      (if sendFlushes cfg e data then e.retry.flush cfg else e.retry).override cfg data
        (asksPointerOverride cfg e pipe data) := by
  obtain ⟨e', payload, hwrite, hretry, -⟩ := send_eq_writeOut cfg e pipe hq
  rw [hwrite] at h ⊢
  rw [retry_writeOut_of_refused cfg _ h, hretry]

variable {cfg} {e}

/-- **A send that leaves the radio at rest** had its write refused there,
so unless it asked for an override it leaves the steady count where it
found it. -/
theorem steady_of_send_atRest {pipe : Nat} {data : List UInt8} (hs : (e.path cfg).Sound)
    (hundone : OverrideUndone cfg e (.send pipe data))
    (hsteady : AtRest e.radio → e.retry.count = e.retry.steady cfg)
    (hrest : AtRest (esbTransportSend cfg e pipe data).1.radio) :
    (esbTransportSend cfg e pipe data).1.retry.count =
      (esbTransportSend cfg e pipe data).1.retry.steady cfg := by
  have hidle : (esbTransportSend cfg e pipe data).1.retry.idle = true := beq_iff_eq.2 hrest.2
  rcases send_cases hs pipe data with ⟨hq, hpath⟩ | ⟨hq, hrefused, hpath⟩ | ⟨hq, -, hpath⟩
  · have hsame := @retry_send_of_not_queues cfg e pipe data hq
    rw [hsame] at hidle ⊢
    exact hsteady ⟨(congrArg TxPath.fifo hpath).symm.trans hrest.1, beq_iff_eq.1 hidle⟩
  · have hbase : (sendBase cfg e data).fifo = [] := (congrArg TxPath.fifo hpath).symm.trans hrest.1
    have herr : (esbTransportSend cfg e pipe data).2 ≠ none := by
      rw [send_error_of_queues hq]
      exact mt (send_accepted_iff hs.initialized hq).1 hrefused
    have hretry := @retry_send_of_refused cfg e pipe data hq herr
    have hwas : e.retry.idle = true := by
      rw [hretry, Retry.override_idle] at hidle
      split at hidle
      · exact Retry.flush_idle.symm.trans hidle
      · exact hidle
    -- nothing can have asked for an override: its write was refused at rest
    have hask : asksOverride cfg e pipe data = false := by
      by_contra hask
      rw [Bool.not_eq_false] at hask
      refine hrefused ⟨?_, hundone hq hask hbase (beq_iff_eq.1 hwas)⟩
      rintro rfl
      rw [asksOverride_nil] at hask
      exact Bool.false_ne_true hask
    obtain ⟨hcount, hkeep⟩ := @Retry.override_of_not cfg
      (if sendFlushes cfg e data then e.retry.flush cfg else e.retry) _ _ hask
    rw [hretry, hcount, hkeep]
    rw [sendBase_fifo hs] at hbase
    split at hbase
    · rename_i hflush
      rw [if_pos hflush, Retry.flush_count hwas, Retry.steady_flush]
    · rename_i hflush
      rw [if_neg hflush]
      exact hsteady ⟨hbase, beq_iff_eq.1 hwas⟩
  · -- an accepted packet is in the FIFO
    have hfifo := (congrArg TxPath.fifo hpath).symm.trans hrest.1
    exact absurd hfifo (List.append_ne_nil_of_right_ne_nil _ (List.cons_ne_nil _ _))

/-! ## TX events -/

variable (cfg) (e)

/-- The handler has read a record back: an idle radio has its steady
count where the record asked for it, and its old one otherwise. -/
structure Restored (cfg : Config) (pops : Bool) (r r' : Retry) : Prop where
  idle : r'.idle = r.idle
  steady : r'.steady cfg = r.steady cfg
  count : r.idle = true → r'.count = if pops then r.steady cfg else r.count

theorem Restored.trans {pops pops' : Bool} {r r' r'' : Retry} (h : Restored cfg pops r r')
    (h' : Restored cfg pops' r' r'') : Restored cfg (pops || pops') r r'' := by
  refine ⟨h'.idle.trans h.idle, h'.steady.trans h.steady, fun hidle => ?_⟩
  rw [h'.count (h.idle.trans hidle), h.steady, h.count hidle]
  cases pops <;> cases pops' <;> rfl

theorem restored_finishCritical :
    Restored cfg (cfg.criticalMaxRetransmit && (consumeRecentOverride cfg e.tp).2) e.retry
      (finishCritical cfg e).retry := by
  have hpop : ∀ tp, (consumeRecentOverride cfg tp).1.adaptiveRetransmitCount =
      tp.adaptiveRetransmitCount := by
    intro tp
    unfold consumeRecentOverride
    split <;> rfl
  unfold finishCritical
  cases hmax : cfg.criticalMaxRetransmit with
  | false => exact ⟨rfl, rfl, fun _ => rfl⟩
  | true =>
    generalize he' : (e.mapTp fun _ => (consumeRecentOverride cfg e.tp).1) = e'
    have hsteady : e'.retry.steady cfg = e.retry.steady cfg := by
      rw [← he']
      unfold Retry.steady
      exact congrArg (if cfg.channelHop && cfg.adaptiveRetry then · else cfg.retransmitCount)
        (hpop e.tp)
    have hidle : e'.retry.idle = e.retry.idle := by rw [← he']; rfl
    have hcount : e'.retry.count = e.retry.count := by rw [← he']; rfl
    simp only [Bool.not_true, Bool.false_eq_true, if_false, Bool.true_and, he']
    cases (consumeRecentOverride cfg e.tp).2 with
    | false => exact ⟨hidle, hsteady, fun _ => hcount⟩
    | true =>
      rw [if_pos rfl, retry_restoreRetransmitCount, Retry.restore]
      refine ⟨Retry.set_idle _ |>.trans hidle, (Retry.steady_set _).trans hsteady, fun h => ?_⟩
      rw [Retry.set_count (hidle.trans h), if_pos rfl, hsteady]

/-- What a record says of its override does not depend on the event. -/
theorem motionRingConsume_overrode (now now' : UInt32) (failed failed' : Bool) (m : Motion) :
    (motionRingConsume cfg now failed m).2 = (motionRingConsume cfg now' failed' m).2 := by
  unfold motionRingConsume
  split <;> rfl

theorem restored_finishMotion (failed : Bool) :
    Restored cfg (motionRingConsume cfg e.now false e.motion).2 e.retry
      (finishMotion cfg e failed).retry := by
  unfold finishMotion
  dsimp only
  rw [motionRingConsume_overrode cfg e.now e.now failed false]
  cases (motionRingConsume cfg e.now false e.motion).2 with
  | false => exact ⟨rfl, rfl, fun _ => rfl⟩
  | true =>
    rw [if_pos rfl, retry_restoreRetransmitCount, Retry.restore, retry_mapMotion]
    refine ⟨Retry.set_idle _, Retry.steady_set _, fun h => ?_⟩
    rw [Retry.set_count h, if_pos rfl]

/-- The two rings, one after the other. -/
theorem restored_finish {e' : Endpoint} (failed : Bool) (hretry : e'.retry = e.retry)
    (hmotion : e'.motion = e.motion) :
    Restored cfg (popsOverride cfg e) e.retry
      (finishMotion cfg (finishCritical cfg e') failed).retry := by
  have hcritical : (consumeRecentOverride cfg e'.tp).2 = (consumeRecentOverride cfg e.tp).2 := by
    have hring : e'.tp.recentCritical = e.tp.recentCritical := congrArg Retry.critical hretry
    unfold consumeRecentOverride
    rw [hring]
    split <;> rfl
  have hkept : (finishCritical cfg e').motion = e'.motion :=
    congrArg TxPath.motion (path_finishCritical cfg e')
  have hfirst := restored_finishCritical cfg e'
  have hsecond := restored_finishMotion cfg (finishCritical cfg e') failed
  rw [hcritical, hretry] at hfirst
  rw [hkept, hmotion, motionRingConsume_overrode cfg _ e.now false false] at hsecond
  exact hfirst.trans cfg hsecond

theorem restored_txSuccess (n : Nat) (h : (e.path cfg).syncing = false) :
    Restored cfg (popsOverride cfg e) e.retry
      (zmkEsbTransportEvtCb cfg e .txSuccess n).retry := by
  have hsync : (cfg.rendezvous && e.tp.syncTxInProgress) = false := h
  simp only [zmkEsbTransportEvtCb, Endpoint.mapTp_tp, hsync, Bool.false_eq_true, if_false]
  unfold onTxSuccess
  refine restored_finish cfg e false ?_ ?_
  · split
    · rw [esbShellRelayNotifyTx, retry_mapShell, retry_hopOnSuccess]
      rfl
    · rw [retry_hopOnSuccess]
      rfl
  · refine congrArg TxPath.motion (?_ : Endpoint.path cfg _ = e.path cfg)
    split
    · rw [esbShellRelayNotifyTx, path_mapShell, path_hopOnSuccess]
      rfl
    · rw [path_hopOnSuccess]
      rfl

/-- A failure that leaves the FIFO full flushes it, which restores too. -/
theorem restored_txFailed (n : Nat) (h : (e.path cfg).syncing = false) :
    Restored cfg (popsOverride cfg e || esbTxFull cfg e.radio) e.retry
      (zmkEsbTransportEvtCb cfg e .txFailed n).retry := by
  have hsync : (cfg.rendezvous && e.tp.syncTxInProgress) = false := h
  simp only [zmkEsbTransportEvtCb, Endpoint.mapTp_tp, hsync, Bool.false_eq_true, if_false]
  unfold onTxFailed
  dsimp only
  generalize hnoted : hopOnFailure cfg _ = e'
  have hretry : e'.retry = e.retry := by
    rw [← hnoted, retry_hopOnFailure]
    rfl
  have hpath : e'.path cfg = e.path cfg := by
    rw [← hnoted, path_hopOnFailure]
    rfl
  have hfinish := restored_finish cfg e true hretry (congrArg TxPath.motion hpath)
  have hfull : esbTxFull cfg (finishMotion cfg (finishCritical cfg e') true).radio =
      esbTxFull cfg e.radio := by
    rw [path_full, path_full, path_finishMotion, path_finishCritical, hpath]
    rfl
  rw [hfull]
  cases esbTxFull cfg e.radio with
  | false =>
    rw [Bool.or_false]
    exact hfinish
  | true =>
    rw [if_pos rfl, retry_esbFlushTxAndReset]
    refine hfinish.trans cfg ⟨Retry.flush_idle, Retry.steady_flush, fun hidle => ?_⟩
    rw [if_pos rfl, Retry.flush_count hidle]

/-- A transmission's end changes no count, and leaves the radio at rest
only where `comesToRest` says so. -/
theorem radioDone_rest {r r' : Radio} {outcome : TxOutcome} {events : List EsbEvtId}
    (h : radioDone cfg r outcome = some (r', events)) :
    r'.retransmitCount = r.retransmitCount ∧ (AtRest r' → comesToRest cfg r outcome = true) := by
  have hnext : ∀ (r₁ : Radio) (settled : EsbState),
      (startNextOr r₁ settled).retransmitCount = r₁.retransmitCount ∧
        (AtRest (startNextOr r₁ settled) → r₁.txFifo = [] ∧ settled = .idle) := by
    intro r₁ settled
    unfold startNextOr
    cases hfifo : r₁.txFifo with
    | nil => exact ⟨rfl, fun hrest => ⟨rfl, hrest.2⟩⟩
    | cons q qs =>
      obtain ⟨state, attempts, hstart, -, hidle, -⟩ := startTxTransaction_frame hfifo
      rw [List.isEmpty_cons, if_neg Bool.false_ne_true, hstart]
      exact ⟨rfl, fun hrest => absurd hrest.2 hidle⟩
  unfold radioDone at h
  split at h
  · rename_i q hstate
    have hcomes : comesToRest cfg r .sent = (r.txFifo.tail.isEmpty && !cfg.esbNeverDisableTx) := by
      unfold comesToRest
      rw [hstate]
    obtain ⟨rfl, rfl⟩ : _ ∧ _ := by
      simpa only [onRadioEndTxNoack, Option.some.injEq, Prod.mk.injEq] using h
    refine ⟨(hnext _ _).1, fun hrest => ?_⟩
    obtain ⟨hfifo, hsettled⟩ := (hnext _ _).2 hrest
    have htail : r.txFifo.tail = [] := hfifo
    cases hnever : cfg.esbNeverDisableTx with
    | true => simp only [hnever, if_true, reduceCtorEq] at hsettled
    | false =>
      rw [hcomes, htail, hnever]
      rfl
  · rename_i q n retries reply hstate
    have hcomes : comesToRest cfg r (.acked retries reply) = r.txFifo.tail.isEmpty := by
      unfold comesToRest
      rw [hstate]
    split at h
    · rw [onAckReceived] at h
      split at h
      · rename_i r₁ hpush
        obtain ⟨rfl, rfl⟩ : _ ∧ _ := by simpa only [Option.some.injEq, Prod.mk.injEq] using h
        obtain ⟨-, -, hfifo, hcount⟩ := rxFifoPushRfbuf_frame cfg hpush
        refine ⟨(hnext _ _).1.trans hcount, fun hrest => ?_⟩
        have htail : r.txFifo.tail = [] := hfifo.symm.trans ((hnext _ _).2 hrest).1
        rw [hcomes, htail, List.isEmpty_nil]
      · obtain ⟨rfl, rfl⟩ : _ ∧ _ := by simpa only [Option.some.injEq, Prod.mk.injEq] using h
        refine ⟨(hnext _ _).1, fun hrest => ?_⟩
        have htail : r.txFifo.tail = [] := ((hnext _ _).2 hrest).1
        rw [hcomes, htail, List.isEmpty_nil]
    · exact absurd h (by simp)
  · rename_i q n hstate
    have hcomes : comesToRest cfg r .exhausted = r.txFifo.isEmpty := by
      unfold comesToRest
      rw [hstate]
    obtain ⟨rfl, rfl⟩ : _ ∧ _ := by
      simpa only [onRetransmitsExpended, Option.some.injEq, Prod.mk.injEq] using h
    refine ⟨rfl, fun hrest => ?_⟩
    have hfifo : r.txFifo = [] := hrest.1
    rw [hcomes, hfifo, List.isEmpty_nil]
  · exact absurd h (by simp)

variable {cfg} {e}

/-- **An event that brings the radio to rest** leaves the steady count,
where no override is left behind. -/
theorem steady_of_txDone_atRest {outcome : TxOutcome} (hs : (e.path cfg).Sound)
    (hundone : OverrideUndone cfg e (.txDone outcome))
    (hsteady : AtRest e.radio → e.retry.count = e.retry.steady cfg)
    (hrest : AtRest (txDone cfg e outcome).radio) :
    (txDone cfg e outcome).retry.count = (txDone cfg e outcome).retry.steady cfg := by
  have hpath := path_txDone cfg e outcome hs.syncing
  have hfifo : ((txDone cfg e outcome).path cfg).fifo = [] := hrest.1
  have hidle : (txDone cfg e outcome).retry.idle = true := beq_iff_eq.2 hrest.2
  unfold canEnd at hpath
  rw [hpath] at hfifo
  unfold txDone at hidle ⊢
  cases hdone : radioDone cfg e.radio outcome with
  | none =>
    rw [hdone] at hidle hfifo
    exact hsteady ⟨hfifo, beq_iff_eq.1 hidle⟩
  | some out =>
  obtain ⟨r, events⟩ := out
  simp only [hdone, Option.isSome_some, if_true] at hidle hfifo ⊢
  obtain ⟨hcount, hcomes⟩ := radioDone_rest cfg hdone
  -- the handlers start from the old count and the rings of before
  have hhandled : ∀ {pops : Bool} {r' : Retry},
      Restored cfg pops (e.mapRadio fun _ => r).retry r' → r'.idle = true →
        (pops = true ∨ r.txFifo = [] ∧ pops = popsOverride cfg e) → r'.count = r'.steady cfg := by
    intro pops r' hrestored hidle' hpops
    have hwas : (e.mapRadio fun _ => r).retry.idle = true := hrestored.idle.symm.trans hidle'
    rw [hrestored.count hwas, hrestored.steady]
    rcases hpops with rfl | ⟨hempty, rfl⟩
    · rfl
    · split
      · rfl
      · rename_i hpop
        have heq := (hundone (hcomes ⟨hempty, beq_iff_eq.1 hwas⟩)).resolve_left hpop
        exact hcount.trans heq
  rcases radioDone_cases cfg hdone with ⟨q, -, hout, hleft, hevents⟩ | ⟨q, -, rfl, rfl, hr⟩
  · rw [if_neg hout] at hfifo
    have hempty : r.txFifo = [] := hleft.txFifo.trans hfifo
    have hsuccess := restored_txSuccess cfg (e.mapRadio fun _ => r) r.lastTxAttempts hs.syncing
    rcases hevents with rfl | rfl
    · exact hhandled hsuccess hidle (Or.inr ⟨hempty, rfl⟩)
    · simp only [esbEvtIrqHandler, List.foldl_cons, List.foldl_nil] at hidle ⊢
      simp only [zmkEsbTransportEvtCb.eq_3, retry_onRxReceived] at hidle ⊢
      exact hhandled hsuccess hidle (Or.inr ⟨hempty, rfl⟩)
  · have hfailed := restored_txFailed cfg (e.mapRadio fun _ => r) r.lastTxAttempts hs.syncing
    refine hhandled hfailed hidle ?_
    rw [Endpoint.mapRadio_radio]
    cases hfull : esbTxFull cfg r with
    | true => exact Or.inl (Bool.or_true _)
    | false =>
      have hroom : ((e.path cfg).halt.consume cfg true).full cfg = false := by
        rw [← hfull, hr]
        rfl
      unfold TxPath.fail at hfifo
      simp only [if_true, hroom, Bool.false_eq_true, if_false] at hfifo
      have hempty : r.txFifo = [] := by rw [hr]; exact hfifo
      exact Or.inr ⟨hempty, Bool.or_false _⟩

/-! ## The invariant -/

/-- A slot that began during a side-trip: every send is dropped, so
nothing ever goes on the air. -/
def Muted (cfg : Config) (e : Endpoint) : Prop :=
  (e.path cfg).syncing = true ∧ AtRest e.radio

/-- What holds after every step of a run in which no override is left
behind. -/
structure SteadyAtRest (cfg : Config) (e : Endpoint) : Prop where
  path : (e.path cfg).Sound ∨ Muted cfg e
  steady : AtRest e.radio → e.retry.count = e.retry.steady cfg

/-- The adaptive tick leaves the transmit path alone. -/
theorem frame_adaptiveRetryWorkFn :
    (adaptiveRetryWorkFn cfg e).path cfg = e.path cfg ∧
      (adaptiveRetryWorkFn cfg e).radio.state = e.radio.state := by
  unfold adaptiveRetryWorkFn
  dsimp only
  split
  · unfold esbSetRetransmitCount
    split
    · rename_i hset
      split at hset
      · exact absurd (congrArg Prod.snd hset) (by simp)
      · obtain ⟨rfl, -⟩ := Prod.mk.inj hset
        exact ⟨rfl, rfl⟩
    · exact ⟨rfl, rfl⟩
  · exact ⟨rfl, rfl⟩

/-- **The tick compares the cached count with its target and never reads
the radio's**: an idle radio has the cached count after it if it had the
cached count before. -/
theorem count_adaptiveRetryWorkFn (hidle : e.radio.state = .idle)
    (h : e.radio.retransmitCount = e.tp.adaptiveRetransmitCount) :
    (adaptiveRetryWorkFn cfg e).radio.retransmitCount =
      (adaptiveRetryWorkFn cfg e).tp.adaptiveRetransmitCount := by
  unfold adaptiveRetryWorkFn esbSetRetransmitCount
  simp only [hidle, bne_self_eq_false, Bool.false_eq_true, if_false]
  split
  · rfl
  · exact h

theorem Muted.send (h : Muted cfg e) (pipe : Nat) (data : List UInt8) :
    (esbTransportSend cfg e pipe data).1 = noteHanded e pipe data := by
  have hsync : (cfg.rendezvous && (noteHanded e pipe data).tp.syncTxInProgress) = true := h.1
  unfold esbTransportSend
  dsimp only
  rw [hsync, if_pos rfl]
  split <;> rfl

theorem Muted.txDone (h : Muted cfg e) (outcome : TxOutcome) : txDone cfg e outcome = e := by
  have hnone : radioDone cfg e.radio outcome = none := by
    unfold radioDone
    rw [h.2.2]
  unfold EsbEndpoint.txDone
  rw [hnone]

/-- A step keeps a sound path sound, and a muted slot muted. -/
theorem sound_or_muted_retryStep (h : (e.path cfg).Sound ∨ Muted cfg e) (op : RetryOp) :
    ((retryStep cfg e op).path cfg).Sound ∨ Muted cfg (retryStep cfg e op) := by
  cases op with
  | send pipe data =>
    refine h.imp (fun hs => sound_txStep cfg hs (.send pipe data)) fun hmuted => ?_
    unfold retryStep
    dsimp only
    rwa [hmuted.send]
  | txDone outcome =>
    refine h.imp (fun hs => sound_txStep cfg hs (.txDone outcome)) fun hmuted => ?_
    unfold retryStep
    dsimp only
    rwa [hmuted.txDone]
  | adaptiveRetry =>
    unfold retryStep
    dsimp only
    split
    · obtain ⟨hpath, hstate⟩ := @frame_adaptiveRetryWorkFn cfg e
      have hfifo : (adaptiveRetryWorkFn cfg e).radio.txFifo = e.radio.txFifo :=
        congrArg TxPath.fifo hpath
      unfold Muted AtRest at h ⊢
      rwa [hpath, hstate, hfifo]
    · exact h
  | tick ms => exact h.imp_left fun hs => sound_txStep cfg hs (.tick ms)

/-- **Every step of such a run keeps the invariant.** -/
theorem SteadyAtRest.step (h : SteadyAtRest cfg e) (op : RetryOp)
    (hundone : OverrideUndone cfg e op) : SteadyAtRest cfg (retryStep cfg e op) := by
  refine ⟨sound_or_muted_retryStep h.path op, ?_⟩
  cases op with
  | send pipe data =>
    rcases h.path with hs | hmuted
    · exact steady_of_send_atRest hs hundone h.steady
    · unfold retryStep
      dsimp only
      rw [hmuted.send]
      exact h.steady
  | txDone outcome =>
    rcases h.path with hs | hmuted
    · exact steady_of_txDone_atRest hs hundone h.steady
    · unfold retryStep
      dsimp only
      rw [hmuted.txDone]
      exact h.steady
  | adaptiveRetry =>
    unfold retryStep
    dsimp only
    split
    · rename_i hadaptive
      obtain ⟨hpath, hstate⟩ := @frame_adaptiveRetryWorkFn cfg e
      have hrest : AtRest (adaptiveRetryWorkFn cfg e).radio ↔ AtRest e.radio :=
        and_congr (by rw [show (adaptiveRetryWorkFn cfg e).radio.txFifo = e.radio.txFifo from
          congrArg TxPath.fifo hpath]) (by rw [hstate])
      intro hafter
      have hbefore := h.steady (hrest.1 hafter)
      unfold Retry.steady at hbefore ⊢
      rw [if_pos hadaptive] at hbefore ⊢
      exact count_adaptiveRetryWorkFn (hrest.1 hafter).2 hbefore
    · exact h.steady
  | tick ms => exact h.steady

/-- A slot starts with the configured count, in the radio and in the
cache. -/
theorem steadyAtRest_start (cfg : Config) (e : Endpoint) :
    SteadyAtRest cfg (esbTransportOnSlotStart cfg e) := by
  have hpath := path_esbTransportOnSlotStart cfg e
  obtain ⟨hidle, hcount⟩ : (esbTransportOnSlotStart cfg e).radio.state = .idle ∧
      (esbTransportOnSlotStart cfg e).radio.retransmitCount = cfg.retransmitCount := by
    unfold esbTransportOnSlotStart esbInitAndConfigure
    dsimp only
    rw [Endpoint.mapTp_radio]
    split
    · obtain ⟨channel', hch⟩ := esbSetRfChannel_fst cfg (esbInit cfg e.radio) e.tp.channel
      rw [Endpoint.mapRadio_radio, Endpoint.mapRadio_radio, Endpoint.mapRadio_tp, hch]
      exact ⟨rfl, rfl⟩
    · exact ⟨rfl, rfl⟩
  refine ⟨?_, fun _ => ?_⟩
  · cases hsync : (e.path cfg).syncing with
    | true =>
      refine Or.inr ⟨by rw [hpath]; exact hsync, ?_, hidle⟩
      exact congrArg TxPath.fifo hpath
    | false =>
      rw [hpath]
      exact Or.inl ⟨hsync, rfl, rfl, List.Pairwise.nil, by simp, by simp, by simp⟩
  · refine hcount.trans ?_
    unfold Retry.steady
    split
    · rename_i hadaptive
      unfold esbTransportOnSlotStart
      simp only [hadaptive, if_true]
      rfl
    · rfl

/-! ## The run -/

/-- **The radio returns to its steady count** throughout a slot, from
wherever it starts, if no step of the run leaves an override behind. -/
theorem returnsToSteady_of_overrideUndone (cfg : Config) (e : Endpoint) (ops : List RetryOp)
    (h : Guarded (retryStep cfg) (OverrideUndone cfg) (esbTransportOnSlotStart cfg e) ops) :
    Throughout (retryStep cfg) (ReturnsToSteady cfg) (esbTransportOnSlotStart cfg e) ops := by
  have hrun : Throughout (retryStep cfg) (SteadyAtRest cfg) (esbTransportOnSlotStart cfg e) ops :=
    Throughout.of_guarded (fun _ op hs hop => hs.step op hop) (steadyAtRest_start cfg e) h
  refine hrun.imp fun e' hs hrest => ?_
  have hsteady := hs.steady hrest
  unfold Retry.steady at hsteady
  split
  · rename_i hadaptive
    rw [if_pos hadaptive] at hsteady
    exact count_adaptiveRetryWorkFn hrest.2 hsteady
  · rename_i hadaptive
    rw [if_neg hadaptive] at hsteady
    exact hsteady

/-- A run with critical packets raised to fifteen retransmits: the count
settles, a `VERIFY_REQ` goes out, and a key report behind it once it is
acknowledged. -/
theorem returnsToSteady_spaced :
    Throughout (retryStep { criticalMaxRetransmit := true })
      (ReturnsToSteady { criticalMaxRetransmit := true })
      (esbTransportOnSlotStart { criticalMaxRetransmit := true }
        (Endpoint.start { criticalMaxRetransmit := true } (List.replicate 6 1) none))
      [.adaptiveRetry, .send 1 (esbPktVerifyReq :: List.replicate 6 1), .txDone (.acked 0 []),
        .send 1 [esbPktHidReport, esbReportKeyboard, 0], .txDone (.acked 0 []), .adaptiveRetry] :=
  returnsToSteady_of_overrideUndone _ _ _ (by decide)

/-- **The same two packets back to back leave the count of the first**:
the report has started when the `VERIFY_REQ`'s event asks for the steady
count, and its own event asks for nothing. -/
theorem not_returnsToSteady :
    ¬ Throughout (retryStep { criticalMaxRetransmit := true })
      (ReturnsToSteady { criticalMaxRetransmit := true })
      (esbTransportOnSlotStart { criticalMaxRetransmit := true }
        (Endpoint.start { criticalMaxRetransmit := true } (List.replicate 6 1) none))
      [.adaptiveRetry, .send 1 (esbPktVerifyReq :: List.replicate 6 1),
        .send 1 [esbPktHidReport, esbReportKeyboard, 0], .txDone (.acked 0 []),
        .txDone (.acked 0 [])] := by
  intro h
  have hlast := h.last ⟨by decide, by decide⟩
  exact absurd hlast (by decide)

end EsbEndpoint
