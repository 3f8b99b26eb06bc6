import EsbEndpoint.Transport.Retry

/-!
# One count, three classes

Pointer motion is sent with a count of its own and so are critical
packets; every other packet goes with the steady count. The radio has a
single count, which a send sets when it queues and a packet loads when it
starts. So a packet that starts behind another runs under the count of the
packet before it, whatever its own class: the event that would restore the
steady count comes after the next packet has started, and finds the radio
busy. `StartsInClass` says of each step that the packet it starts finds
the count of its own class, or the steady one.
-/

namespace EsbEndpoint

variable (cfg : Config) (e : Endpoint)

/-! ## The classes -/

/-- The packets with a count of their own, and the rest. -/
inductive CountClass
  | steady
  | pointer
  | critical
  deriving DecidableEq

/-- The count of a class, where the steady count is `steady`. -/
def CountClass.count (steady : Nat) : CountClass → Nat
  | .steady => steady
  | .pointer => cfg.pointerRetransmitCount
  | .critical => cfg.criticalRetransmitCount

/-- An ACKed mouse report with motion and no button. -/
def isMotionOnly (p : EsbPayload) : Bool :=
  isMouseReport p.data && !(mouseBodyOf p.data).deltas.isZero &&
    (mouseBodyOf p.data).buttons == 0 && !p.noack

/-- A report whose state the host cannot get from a later one: a keyboard
or a consumer report, or a mouse report with a button. -/
def isEdgeReport (data : List UInt8) : Bool :=
  isHidReport esbReportKeyboard data || isHidReport esbReportConsumer data ||
    isMouseReport data && (mouseBodyOf data).buttons != 0

def classOf (p : EsbPayload) : CountClass :=
  if isMotionOnly p then .pointer
  else if cfg.criticalMaxRetransmit && isCritical p.data then .critical
  else .steady

/-- A packet that started with `n` retransmissions, where the steady count
was `steady`, has not started with another class's count. -/
structure OwnCount (steady : Nat) (p : EsbPayload) (n : Nat) : Prop where
  pointer : n = cfg.pointerRetransmitCount → isMotionOnly p = true
  critical :
    cfg.criticalMaxRetransmit = true → n = cfg.criticalRetransmitCount → isCritical p.data = true
  edge : isEdgeReport p.data = true → n = steady

instance (steady : Nat) (p : EsbPayload) (n : Nat) : Decidable (OwnCount cfg steady p n) :=
  decidable_of_iff
    ((n = cfg.pointerRetransmitCount → isMotionOnly p = true) ∧
      (cfg.criticalMaxRetransmit = true → n = cfg.criticalRetransmitCount →
        isCritical p.data = true) ∧ (isEdgeReport p.data = true → n = steady))
    ⟨fun h => ⟨h.1, h.2.1, h.2.2⟩, fun h => ⟨h.pointer, h.critical, h.edge⟩⟩

/-- **The packet that waits for an ACK started with a count of its own
class.** The steady count cannot have changed since: the radio is busy. -/
def StartedWithOwnCount : Prop :=
  ∀ x ∈ e.radio.state.underAck, OwnCount cfg (steadyCount cfg e.tp) x.1.toEsbPayload x.2

instance : Decidable (StartedWithOwnCount cfg e) :=
  inferInstanceAs (Decidable (∀ x ∈ e.radio.state.underAck,
    OwnCount cfg (steadyCount cfg e.tp) x.1.toEsbPayload x.2))

/-- The pointer, critical and steady counts differ. -/
structure CountsDiffer : Prop where
  pointer : cfg.pointerRetransmitCount ≠ steadyCount cfg e.tp
  critical : cfg.criticalMaxRetransmit = true →
    cfg.criticalRetransmitCount ≠ steadyCount cfg e.tp ∧
      cfg.criticalRetransmitCount ≠ cfg.pointerRetransmitCount

instance : Decidable (CountsDiffer cfg e) :=
  decidable_of_iff
    (cfg.pointerRetransmitCount ≠ steadyCount cfg e.tp ∧
      (cfg.criticalMaxRetransmit = true →
        cfg.criticalRetransmitCount ≠ steadyCount cfg e.tp ∧
          cfg.criticalRetransmitCount ≠ cfg.pointerRetransmitCount))
    ⟨fun h => ⟨h.1, h.2⟩, fun h => ⟨h.pointer, h.critical⟩⟩

/-! ## When a packet starts in its own class -/

/-- The class whose count the radio has. -/
def classInForce (n : Nat) : CountClass :=
  if n = cfg.pointerRetransmitCount then .pointer
  else if cfg.criticalMaxRetransmit = true ∧ n = cfg.criticalRetransmitCount then .critical
  else .steady

/-- The class in force when a send gets to its write: an override takes
hold, and so does the flush of a full FIFO, only while the radio is idle. -/
def sentUnder (pipe : Nat) (data : List UInt8) : CountClass :=
  if e.radio.state != .idle then classInForce cfg e.radio.retransmitCount
  else if asksPointerOverride cfg e pipe data then .pointer
  else if cfg.criticalMaxRetransmit && isCritical data then .critical
  else if sendFlushes cfg e data then .steady
  else classInForce cfg e.radio.retransmitCount

/-- The packet a write to a ready radio starts: the send's own, or the one
a failure left at the head of the FIFO. -/
def restartsWith (pipe : Nat) (data : List UInt8) : Queued :=
  (sendBase cfg e data).fifo.headD
    { ((sendBase cfg e data).outgoing cfg pipe data).2 with serial := e.radio.written }

/-- A packet can start under a class: it waits for no ACK, the class is
the steady one, or it is the packet's own. -/
def Fits (c : CountClass) (q : Queued) : Prop :=
  e.radio.awaitsAck q = true → c = .steady ∨ classOf cfg q.toEsbPayload = c

instance (c : CountClass) (q : Queued) : Decidable (Fits cfg e c q) :=
  inferInstanceAs (Decidable (e.radio.awaitsAck q = true → c = .steady ∨ _ = c))

/-- **No packet starts under another class**: what a send starts fits the
class in force at its write, and what starts behind an acknowledged packet
fits the class that packet was sent under. -/
def StartsInClass : RetryOp → Prop
  | .send pipe data =>
    sendQueues cfg e data = true → data ≠ [] → pipe < cfg.esbPipeCount →
      readyToStart cfg e.radio = true → Fits cfg e (sentUnder cfg e pipe data)
        (restartsWith cfg e pipe data)
  | .txDone outcome =>
    canEnd cfg e outcome = true → outcome ≠ .exhausted →
      ∀ q ∈ e.radio.txFifo.tail.head?, Fits cfg e (classInForce cfg e.radio.retransmitCount) q
  | .adaptiveRetry => True
  | .tick _ => True

instance : (op : RetryOp) → Decidable (StartsInClass cfg e op)
  | .send pipe data =>
    inferInstanceAs (Decidable (sendQueues cfg e data = true → data ≠ [] →
      pipe < cfg.esbPipeCount → readyToStart cfg e.radio = true → Fits cfg e _ _))
  | .txDone outcome =>
    inferInstanceAs (Decidable (canEnd cfg e outcome = true → outcome ≠ .exhausted →
      ∀ q ∈ e.radio.txFifo.tail.head?, Fits cfg e _ q))
  | .adaptiveRetry => inferInstanceAs (Decidable True)
  | .tick _ => inferInstanceAs (Decidable True)

/-! ## Classes and counts -/

variable {cfg} {e}

theorem isMouseReport_isHidReport {data : List UInt8} (h : isMouseReport data = true) :
    isHidReport esbReportMouse data = true := by
  unfold isMouseReport at h
  exact (Bool.and_eq_true _ _ ▸ h).2

/-- A HID report has one subtype, -/
theorem isHidReport_unique {report report' : UInt8} {data : List UInt8}
    (h : isHidReport report data = true) (h' : isHidReport report' data = true) :
    report = report' := by
  simp only [isHidReport, Bool.and_eq_true, beq_iff_eq] at h h'
  exact Option.some.inj (h.2.symm.trans h'.2)

/-- and is not critical. -/
theorem isCritical_of_isHidReport {report : UInt8} {data : List UInt8}
    (h : isHidReport report data = true) : isCritical data = false := by
  simp only [isHidReport, Bool.and_eq_true, beq_iff_eq] at h
  have htype : pktType data = some esbPktHidReport := by
    rw [← h.1]
    exact List.head?_eq_getElem? ..
  simp only [isCritical, isType, htype]
  rfl

/-- An edge report is of the steady class. -/
theorem classOf_of_isEdgeReport {p : EsbPayload} (h : isEdgeReport p.data = true) :
    classOf cfg p = .steady := by
  obtain ⟨report, hreport, hmotion⟩ : ∃ report, isHidReport report p.data = true ∧
      isMotionOnly p = false := by
    simp only [isEdgeReport, Bool.or_eq_true, Bool.and_eq_true, bne_iff_ne] at h
    rcases h with (hkey | hcons) | ⟨hmouse, hbuttons⟩
    · refine ⟨_, hkey, ?_⟩
      by_contra hmotion
      simp only [isMotionOnly, Bool.not_eq_false, Bool.and_eq_true] at hmotion
      exact absurd (isHidReport_unique hkey (isMouseReport_isHidReport hmotion.1.1.1)) (by decide)
    · refine ⟨_, hcons, ?_⟩
      by_contra hmotion
      simp only [isMotionOnly, Bool.not_eq_false, Bool.and_eq_true] at hmotion
      exact absurd (isHidReport_unique hcons (isMouseReport_isHidReport hmotion.1.1.1)) (by decide)
    · refine ⟨_, isMouseReport_isHidReport hmouse, ?_⟩
      by_contra hmotion
      simp only [isMotionOnly, Bool.not_eq_false, Bool.and_eq_true, beq_iff_eq] at hmotion
      exact hbuttons hmotion.1.2
  unfold classOf
  rw [hmotion, isCritical_of_isHidReport hreport, Bool.and_false, if_neg Bool.false_ne_true,
    if_neg Bool.false_ne_true]

theorem classOf_eq_pointer_iff {p : EsbPayload} :
    classOf cfg p = .pointer ↔ isMotionOnly p = true := by
  unfold classOf
  split
  · rename_i h
    exact iff_of_true rfl h
  · rename_i h
    refine iff_of_false ?_ h
    split <;> simp

theorem classOf_eq_critical_iff {p : EsbPayload} :
    classOf cfg p = .critical ↔ cfg.criticalMaxRetransmit = true ∧ isCritical p.data = true := by
  unfold classOf
  split
  · rename_i h
    simp only [isMotionOnly, Bool.and_eq_true] at h
    have hcritical := isCritical_of_isHidReport (isMouseReport_isHidReport h.1.1.1)
    refine iff_of_false (by simp) fun hboth => ?_
    exact Bool.noConfusion (hcritical.symm.trans hboth.2)
  · split
    · rename_i h
      exact iff_of_true rfl (Bool.and_eq_true _ _ ▸ h)
    · rename_i h
      exact iff_of_false (by simp) fun hboth => h (by rw [hboth.1, hboth.2]; rfl)

/-- **A count is a packet's own** just when it is the steady one, or the
one of the packet's class. -/
theorem ownCount_iff_class (hdiffer : CountsDiffer cfg e) {c : CountClass}
    (hc : c = .critical → cfg.criticalMaxRetransmit = true) (p : EsbPayload) :
    OwnCount cfg (steadyCount cfg e.tp) p (c.count cfg (steadyCount cfg e.tp)) ↔
      c = .steady ∨ classOf cfg p = c := by
  cases c with
  | steady =>
    refine iff_of_true ⟨fun h => ?_, fun hmax h => ?_, fun _ => rfl⟩ (Or.inl rfl)
    · exact absurd h.symm hdiffer.pointer
    · exact absurd h.symm (hdiffer.critical hmax).1
  | pointer =>
    rw [classOf_eq_pointer_iff]
    constructor
    · exact fun h => Or.inr (h.pointer rfl)
    · rintro (h | h)
      · exact absurd h (by simp)
      · refine ⟨fun _ => h, fun hmax heq => ?_, fun hedge => ?_⟩
        · exact absurd heq.symm (hdiffer.critical hmax).2
        · have hclass : classOf cfg p = .pointer := classOf_eq_pointer_iff.2 h
          rw [classOf_of_isEdgeReport hedge] at hclass
          exact absurd hclass (by simp)
  | critical =>
    have hmax := hc rfl
    rw [classOf_eq_critical_iff]
    constructor
    · exact fun h => Or.inr ⟨hmax, h.critical hmax rfl⟩
    · rintro (h | h)
      · exact absurd h (by simp)
      · refine ⟨fun heq => ?_, fun _ _ => h.2, fun hedge => ?_⟩
        · exact absurd heq (hdiffer.critical hmax).2
        · have hclass : classOf cfg p = .critical := classOf_eq_critical_iff.2 h
          rw [classOf_of_isEdgeReport hedge] at hclass
          exact absurd hclass (by simp)

/-! ## The class in force -/

/-- The count is that of the class in force. -/
def Retry.InForce (cfg : Config) (r : Retry) : Prop :=
  r.count = (classInForce cfg r.count).count cfg (r.steady cfg)

theorem classInForce_critical {n : Nat} (h : classInForce cfg n = .critical) :
    cfg.criticalMaxRetransmit = true := by
  unfold classInForce at h
  split at h
  · exact absurd h (by simp)
  · split at h
    · rename_i hcritical
      exact hcritical.1
    · exact absurd h (by simp)

/-- A count set for any class is in force. -/
theorem Retry.inForce_of {r : Retry} {c : CountClass}
    (hc : c = .critical → cfg.criticalMaxRetransmit = true)
    (h : r.count = c.count cfg (r.steady cfg)) : r.InForce cfg := by
  unfold Retry.InForce classInForce
  split
  · rename_i hpointer
    exact hpointer
  · rename_i hpointer
    split
    · rename_i hcritical
      exact hcritical.2
    · rename_i hcritical
      cases c with
      | steady => exact h
      | pointer => exact absurd h hpointer
      | critical => exact absurd ⟨hc rfl, h⟩ hcritical

/-- What the two overrides leave, on an idle radio. -/
theorem Retry.count_override {r : Retry} (hidle : r.idle = true) (data : List UInt8)
    (pointer : Bool) :
    (r.override cfg data pointer).count =
      if pointer then cfg.pointerRetransmitCount
      else if cfg.criticalMaxRetransmit && isCritical data then cfg.criticalRetransmitCount
      else r.count := by
  have hcritical : (r.noteCritical cfg data).count =
      if cfg.criticalMaxRetransmit && isCritical data then cfg.criticalRetransmitCount
      else r.count := by
    unfold Retry.noteCritical
    cases hmax : cfg.criticalMaxRetransmit with
    | false => rfl
    | true =>
      simp only [Bool.not_true, Bool.false_eq_true, if_false, Bool.true_and]
      split
      · refine Retry.set_count ?_ _
        exact hidle
      · rfl
  unfold Retry.override
  split
  · exact Retry.set_count (Retry.noteCritical_idle.trans hidle) _
  · exact hcritical

/-- A busy radio keeps its count through both. -/
theorem Retry.count_override_busy {r : Retry} (hbusy : r.idle = false) (data : List UInt8)
    (pointer : Bool) : (r.override cfg data pointer).count = r.count := by
  have hcritical : (r.noteCritical cfg data).count = r.count := by
    unfold Retry.noteCritical
    split
    · rfl
    · dsimp only
      split
      · rw [Retry.set_busy]
        exact hbusy
      · rfl
  unfold Retry.override
  split
  · rw [Retry.set_busy (Retry.noteCritical_idle.trans hbusy), hcritical]
  · exact hcritical

theorem Retry.count_flush_busy {r : Retry} (hbusy : r.idle = false) :
    (r.flush cfg).count = r.count := by
  unfold Retry.flush Retry.restore
  rw [Retry.set_busy]
  exact hbusy

theorem sentUnder_critical {pipe : Nat} {data : List UInt8}
    (h : sentUnder cfg e pipe data = .critical) : cfg.criticalMaxRetransmit = true := by
  unfold sentUnder at h
  split at h
  · exact classInForce_critical h
  · split at h
    · exact absurd h (by simp)
    · split at h
      · rename_i hcritical
        exact (Bool.and_eq_true _ _ ▸ hcritical).1
      · split at h
        · exact absurd h (by simp)
        · exact classInForce_critical h

/-! ## What a step does to the count -/

/-- A packet on a loaded radio started with the radio's count. -/
theorem startedWithOwnCount_iff (h : e.radio.Loaded) :
    StartedWithOwnCount cfg e ↔ ∀ q, e.radio.state.onAir = some q → e.radio.awaitsAck q = true →
      OwnCount cfg (steadyCount cfg e.tp) q.toEsbPayload e.radio.retransmitCount := by
  unfold StartedWithOwnCount
  rw [show e.radio.state.underAck = _ from h]
  constructor
  · intro hall q hair hack
    refine hall (q, e.radio.retransmitCount) ?_
    rw [hair, Option.filter_some, if_pos hack]
    rfl
  · intro hall x hx
    obtain ⟨q, hq, rfl⟩ := Option.map_eq_some_iff.1 (Option.mem_def.1 hx)
    obtain ⟨hair, hack⟩ := Option.filter_eq_some_iff.1 hq
    exact hall q hair hack

theorem settings_writeOut (p : EsbPayload) :
    (writeOut cfg e p).1.radio.awaitsAck = e.radio.awaitsAck ∧
      (writeOut cfg e p).1.retry.count = e.retry.count ∧
      (writeOut cfg e p).1.retry.steady cfg = e.retry.steady cfg := by
  obtain ⟨hcount, hack⟩ := Radio.sameSettings_write cfg e.radio p
  exact ⟨hack, hcount, rfl⟩

/-- **A send leaves the count of the class it was sent under.** -/
theorem settings_send_of_queues {pipe : Nat} {data : List UInt8} (hforce : e.retry.InForce cfg)
    (hq : sendQueues cfg e data = true) :
    (esbTransportSend cfg e pipe data).1.radio.awaitsAck = e.radio.awaitsAck ∧
      (esbTransportSend cfg e pipe data).1.retry.count =
        (sentUnder cfg e pipe data).count cfg (e.retry.steady cfg) ∧
      (esbTransportSend cfg e pipe data).1.retry.steady cfg = e.retry.steady cfg := by
  obtain ⟨e', payload, hwrite, hretry, hheld⟩ := send_eq_writeOut cfg e pipe hq
  obtain ⟨hack, hcount, hsteady⟩ := @settings_writeOut cfg e' payload
  rw [hwrite]
  refine ⟨hack.trans (Radio.held_awaitsAck hheld), hcount.trans ?_, hsteady.trans ?_⟩
  · rw [hretry]
    unfold sentUnder
    cases hidle : e.retry.idle with
    | false =>
      have hstate : (e.radio.state != .idle) = true := by
        rw [bne, show (e.radio.state == .idle) = false from hidle]
        rfl
      have hclass : (classInForce cfg e.radio.retransmitCount).count cfg (e.retry.steady cfg) =
          e.retry.count := hforce.symm
      rw [hstate, if_pos rfl, hclass]
      split
      · rw [Retry.count_override_busy (Retry.flush_idle.trans hidle),
          Retry.count_flush_busy hidle]
      · exact Retry.count_override_busy hidle data _
    | true =>
      have hstate : (e.radio.state != .idle) = false := by
        rw [bne, show (e.radio.state == .idle) = true from hidle]
        rfl
      rw [hstate, if_neg Bool.false_ne_true, Retry.count_override]
      · cases asksPointerOverride cfg e pipe data with
        | true => rfl
        | false =>
          cases cfg.criticalMaxRetransmit && isCritical data with
          | true => rfl
          | false =>
            cases sendFlushes cfg e data with
            | true => exact Retry.flush_count hidle
            | false => exact hforce
      · split
        · exact Retry.flush_idle.trans hidle
        · exact hidle
  · rw [hretry, Retry.steady_override]
    split
    · exact Retry.steady_flush
    · rfl

/-- A TX event leaves its class in force, or the steady one. -/
theorem Restored.inForce {pops : Bool} {r r' : Retry} (h : Restored cfg pops r r')
    (hbusy : r.idle = false → r'.count = r.count) (hforce : r.InForce cfg) : r'.InForce cfg := by
  have hkept : r'.count = r.count → r'.InForce cfg := by
    intro hcount
    unfold Retry.InForce at hforce ⊢
    rw [hcount, h.steady]
    exact hforce
  cases hidle : r.idle with
  | false => exact hkept (hbusy hidle)
  | true =>
    have hcount := h.count hidle
    split at hcount
    · refine Retry.inForce_of (c := .steady) (by simp) ?_
      rw [h.steady]
      exact hcount
    · exact hkept hcount

/-- The handlers of a transmission's end restore the count where a record
asks for it. -/
theorem restored_esbEvtIrqHandler (hs : (e.path cfg).Sound) {outcome : TxOutcome} {r : Radio}
    {events : List EsbEvtId} (hdone : radioDone cfg e.radio outcome = some (r, events)) :
    ∃ pops, Restored cfg pops (e.mapRadio fun _ => r).retry
      (esbEvtIrqHandler cfg (e.mapRadio fun _ => r) events).retry := by
  rcases radioDone_cases cfg hdone with ⟨q, -, -, -, hevents⟩ | ⟨q, -, -, rfl, -⟩
  · have hsuccess := restored_txSuccess cfg (e.mapRadio fun _ => r) r.lastTxAttempts hs.syncing
    rcases hevents with rfl | rfl
    · exact ⟨_, hsuccess⟩
    · refine ⟨popsOverride cfg (e.mapRadio fun _ => r), ?_⟩
      simp only [esbEvtIrqHandler, List.foldl_cons, List.foldl_nil]
      rw [zmkEsbTransportEvtCb.eq_3, retry_onRxReceived]
      exact hsuccess
  · exact ⟨_, restored_txFailed cfg (e.mapRadio fun _ => r) r.lastTxAttempts hs.syncing⟩

/-- **The end of a transmission, on the settings**: an idle radio may get
the steady count, and one that has started the next packet keeps its own. -/
theorem settings_txDone (hs : (e.path cfg).Sound) (hforce : e.retry.InForce cfg)
    (outcome : TxOutcome) :
    (txDone cfg e outcome).radio.awaitsAck = e.radio.awaitsAck ∧
      (txDone cfg e outcome).retry.steady cfg = e.retry.steady cfg ∧
      (txDone cfg e outcome).retry.InForce cfg ∧
      ((txDone cfg e outcome).radio.state ≠ .idle →
        (txDone cfg e outcome).radio.retransmitCount = e.radio.retransmitCount) := by
  unfold txDone
  cases hdone : radioDone cfg e.radio outcome with
  | none => exact ⟨rfl, rfl, hforce, fun _ => rfl⟩
  | some out =>
  obtain ⟨r, events⟩ := out
  dsimp only
  obtain ⟨hcount, hack⟩ := Radio.sameSettings_radioDone cfg hdone
  obtain ⟨pops, hrestored⟩ := restored_esbEvtIrqHandler hs hdone
  have hheld := held_esbEvtIrqHandler cfg (e.mapRadio fun _ => r) events
  have hsteady : (e.mapRadio fun _ => r).retry.steady cfg = e.retry.steady cfg := rfl
  have hforce' : (e.mapRadio fun _ => r).retry.InForce cfg := by
    have hcount' : (e.mapRadio fun _ => r).retry.count = e.retry.count := hcount
    unfold Retry.InForce at hforce ⊢
    rw [hcount', hsteady]
    exact hforce
  have hkept : r.state ≠ .idle →
      (esbEvtIrqHandler cfg (e.mapRadio fun _ => r) events).radio.retransmitCount =
        r.retransmitCount := fun hbusy => Radio.held_count hheld hbusy
  refine ⟨(Radio.held_awaitsAck hheld).trans hack, hrestored.steady.trans hsteady, ?_, ?_⟩
  · refine hrestored.inForce (fun hidle => hkept fun hstate => ?_) hforce'
    exact Bool.noConfusion (hidle.symm.trans (beq_iff_eq.2 hstate))
  · intro hbusy
    rw [Radio.held_state hheld] at hbusy
    exact (hkept hbusy).trans hcount

/-! ## The invariant -/

/-- What every step keeps: the packet on the air runs on the radio's
count, and that count is of the class in force. -/
structure CountKept (cfg : Config) (e : Endpoint) : Prop where
  path : (e.path cfg).Sound ∨ Muted cfg e
  loaded : e.radio.Loaded
  inForce : e.retry.InForce cfg

theorem held_adaptiveRetryWorkFn : (adaptiveRetryWorkFn cfg e).radio.held = e.radio.held := by
  unfold adaptiveRetryWorkFn
  dsimp only
  split
  · unfold esbSetRetransmitCount
    cases hstate : e.radio.state <;> simp [Radio.held, hstate]
  · rfl

/-- The tick moves the radio's count with the cached one. -/
theorem inForce_adaptiveRetryWorkFn (hadaptive : (cfg.channelHop && cfg.adaptiveRetry) = true)
    (h : e.retry.InForce cfg) : (adaptiveRetryWorkFn cfg e).retry.InForce cfg := by
  unfold adaptiveRetryWorkFn
  dsimp only
  split
  · unfold esbSetRetransmitCount
    split
    · rename_i hset
      split at hset
      · exact absurd (congrArg Prod.snd hset) (by simp)
      · obtain ⟨rfl, -⟩ := Prod.mk.inj hset
        refine Retry.inForce_of (c := .steady) (by simp) ?_
        unfold Retry.steady
        rw [if_pos hadaptive]
        rfl
    · exact h
  · exact h

theorem loaded_retryStep (h : e.radio.Loaded) (op : RetryOp) :
    (retryStep cfg e op).radio.Loaded := by
  cases op with
  | send pipe data =>
    unfold retryStep
    dsimp only
    cases hq : sendQueues cfg e data with
    | false => exact h.of_held (held_send_of_not_queues cfg e hq)
    | true =>
      obtain ⟨e', payload, hwrite, -, hheld⟩ := send_eq_writeOut cfg e pipe hq
      rw [hwrite]
      exact (h.of_held hheld).write cfg payload
  | txDone outcome =>
    unfold retryStep txDone
    dsimp only
    split
    · exact h
    · rename_i r events hdone
      exact (Radio.loaded_radioDone cfg hdone).of_held
        (held_esbEvtIrqHandler cfg (e.mapRadio fun _ => r) events)
  | adaptiveRetry =>
    unfold retryStep
    dsimp only
    split
    · exact h.of_held held_adaptiveRetryWorkFn
    · exact h
  | tick ms => exact h

/-- **Every step keeps the count in order**, whatever it starts. -/
theorem CountKept.step (h : CountKept cfg e) (op : RetryOp) :
    CountKept cfg (retryStep cfg e op) := by
  refine ⟨sound_or_muted_retryStep h.path op, loaded_retryStep h.loaded op, ?_⟩
  cases op with
  | send pipe data =>
    unfold retryStep
    dsimp only
    cases hq : sendQueues cfg e data with
    | false =>
      rw [retry_send_of_not_queues cfg e hq]
      exact h.inForce
    | true =>
      obtain ⟨-, hcount, hsteady⟩ := @settings_send_of_queues cfg e pipe data h.inForce hq
      refine Retry.inForce_of (c := sentUnder cfg e pipe data) sentUnder_critical ?_
      rw [hsteady]
      exact hcount
  | txDone outcome =>
    unfold retryStep
    dsimp only
    rcases h.path with hs | hmuted
    · exact (settings_txDone hs h.inForce outcome).2.2.1
    · rw [hmuted.txDone]
      exact h.inForce
  | adaptiveRetry =>
    unfold retryStep
    dsimp only
    split
    · rename_i hadaptive
      exact inForce_adaptiveRetryWorkFn hadaptive h.inForce
    · exact h.inForce
  | tick ms => exact h.inForce

theorem state_esbTransportOnSlotStart (cfg : Config) (e : Endpoint) :
    (esbTransportOnSlotStart cfg e).radio.state = .idle := by
  unfold esbTransportOnSlotStart esbInitAndConfigure
  dsimp only
  rw [Endpoint.mapTp_radio]
  split
  · obtain ⟨channel', hch⟩ := esbSetRfChannel_fst cfg (esbInit cfg e.radio) e.tp.channel
    rw [Endpoint.mapRadio_radio, Endpoint.mapRadio_radio, Endpoint.mapRadio_tp, hch]
    rfl
  · rfl

/-- A slot starts with the configured count, which is the steady one. -/
theorem countKept_start (cfg : Config) (e : Endpoint) :
    CountKept cfg (esbTransportOnSlotStart cfg e) := by
  have hstart := steadyAtRest_start cfg e
  have hidle := state_esbTransportOnSlotStart cfg e
  have hfifo : (esbTransportOnSlotStart cfg e).radio.txFifo = [] :=
    congrArg TxPath.fifo (path_esbTransportOnSlotStart cfg e)
  refine ⟨hstart.path, ?_, ?_⟩
  · unfold Radio.Loaded
    rw [hidle]
    rfl
  · exact Retry.inForce_of (c := .steady) (by simp) (hstart.steady ⟨hfifo, hidle⟩)

/-! ## One step -/

theorem busy_of_onAir {r : Radio} {q : Queued} (h : r.state.onAir = some q) : r.state ≠ .idle := by
  intro hidle
  rw [hidle] at h
  exact absurd h (by simp [EsbState.onAir])

/-- What stays on the air keeps its count. -/
theorem startedWithOwnCount_of_same {e' : Endpoint} (h : e.radio.Loaded) (h' : e'.radio.Loaded)
    (hown : StartedWithOwnCount cfg e) (hair : e'.radio.state.onAir = e.radio.state.onAir)
    (hack : e'.radio.awaitsAck = e.radio.awaitsAck)
    (hsteady : steadyCount cfg e'.tp = steadyCount cfg e.tp)
    (hcount : e.radio.state ≠ .idle → e'.radio.retransmitCount = e.radio.retransmitCount) :
    StartedWithOwnCount cfg e' := by
  rw [startedWithOwnCount_iff h] at hown
  rw [startedWithOwnCount_iff h']
  intro q hq hawaits
  rw [hair] at hq
  rw [hack] at hawaits
  rw [hsteady, hcount (busy_of_onAir hq)]
  exact hown q hq hawaits

/-- **A packet that has just started** has its own count just when it fits
the class whose count the radio has. -/
theorem startedWithOwnCount_iff_fits {e' : Endpoint} (h' : e'.radio.Loaded)
    (hdiffer : CountsDiffer cfg e) {c : CountClass}
    (hc : c = .critical → cfg.criticalMaxRetransmit = true) {q : Queued}
    (hair : e'.radio.state.onAir = some q) (hack : e'.radio.awaitsAck = e.radio.awaitsAck)
    (hsteady : steadyCount cfg e'.tp = steadyCount cfg e.tp)
    (hcount : e'.radio.retransmitCount = c.count cfg (steadyCount cfg e.tp)) :
    StartedWithOwnCount cfg e' ↔ Fits cfg e c q := by
  rw [startedWithOwnCount_iff h', hack, hsteady, hcount]
  unfold Fits
  rw [← ownCount_iff_class hdiffer hc]
  constructor
  · exact fun hall => hall q hair
  · intro hfits q' hq'
    obtain rfl := Option.some.inj (hair.symm.trans hq')
    exact hfits

theorem sentUnder_busy {pipe : Nat} {data : List UInt8} (h : e.radio.state ≠ .idle) :
    sentUnder cfg e pipe data = classInForce cfg e.radio.retransmitCount := by
  unfold sentUnder
  rw [if_pos (bne_iff_ne.2 h)]

/-- The head of a path that has just accepted a payload. -/
theorem head_put (p : TxPath) (payload : EsbPayload) :
    (p.put payload).fifo.head? = some (p.fifo.headD { payload with serial := p.written }) := by
  unfold TxPath.put
  cases p.fifo with
  | nil => rfl
  | cons q qs => rfl

/-- **A send** starts a packet in its own class, or none. -/
theorem startedWithOwnCount_send_iff (h : CountKept cfg e) (hs : (e.path cfg).Sound)
    (hdiffer : CountsDiffer cfg e) (hown : StartedWithOwnCount cfg e) (pipe : Nat)
    (data : List UInt8) :
    StartedWithOwnCount cfg (retryStep cfg e (.send pipe data)) ↔
      StartsInClass cfg e (.send pipe data) := by
  have hloaded := @loaded_retryStep cfg e h.loaded (.send pipe data)
  have hbase : (sendBase cfg e data).onAir = e.radio.state.onAir ∧
      (sendBase cfg e data).ready = readyToStart cfg e.radio := by
    unfold sendBase
    split <;> exact ⟨rfl, rfl⟩
  -- not queued, refused by the radio, or queued
  rcases send_cases hs pipe data with ⟨hq, hpath⟩ | ⟨hq, hrefused, hpath⟩ | ⟨hq, hacc, hpath⟩
  · have hheld := @held_send_of_not_queues cfg e pipe data hq
    refine iff_of_true ?_ fun hq' => absurd (hq'.symm.trans hq) (by simp)
    refine startedWithOwnCount_of_same h.loaded hloaded hown
      (congrArg EsbState.onAir (Radio.held_state hheld)) (Radio.held_awaitsAck hheld) ?_
      fun hbusy => Radio.held_count hheld hbusy
    exact congrArg (Retry.steady cfg) (retry_send_of_not_queues cfg e hq)
  · obtain ⟨hack, hcount, hsteady⟩ := @settings_send_of_queues cfg e pipe data h.inForce hq
    refine iff_of_true ?_ fun _ hne hpipe => absurd ⟨hne, hpipe⟩ hrefused
    refine startedWithOwnCount_of_same h.loaded hloaded hown ?_ hack hsteady fun hbusy => ?_
    · exact (congrArg TxPath.onAir hpath).trans hbase.1
    · rw [sentUnder_busy hbusy] at hcount
      exact hcount.trans h.inForce.symm
  · obtain ⟨hack, hcount, hsteady⟩ := @settings_send_of_queues cfg e pipe data h.inForce hq
    have hair := congrArg TxPath.onAir hpath
    cases hready : readyToStart cfg e.radio with
    | true =>
      -- it starts at once what is at the head of the FIFO
      have hhead : (retryStep cfg e (.send pipe data)).radio.state.onAir =
          some (restartsWith cfg e pipe data) := by
        refine hair.trans ?_
        have hput := head_put
          ((sendBase cfg e data).withMotion ((sendBase cfg e data).outgoing cfg pipe data).1)
          ((sendBase cfg e data).outgoing cfg pipe data).2
        have hwritten := @sendBase_written cfg e data
        unfold restartsWith
        rw [← hwritten]
        refine Eq.trans ?_ hput
        exact if_pos (hbase.2.trans hready)
      rw [startedWithOwnCount_iff_fits hloaded hdiffer sentUnder_critical hhead hack hsteady hcount]
      exact ⟨fun hfits _ _ _ _ => hfits, fun hstarts => hstarts hq hacc.1 hacc.2 hready⟩
    | false =>
      -- it waits, and nothing starts
      refine iff_of_true ?_ fun _ _ _ hready' => absurd (hready'.symm.trans hready) (by simp)
      refine startedWithOwnCount_of_same h.loaded hloaded hown ?_ hack hsteady fun hbusy => ?_
      · refine hair.trans (Eq.trans (if_neg fun hyes => ?_) hbase.1)
        exact absurd (hyes.symm.trans (hbase.2.trans hready)) (by simp)
      · rw [sentUnder_busy hbusy] at hcount
        exact hcount.trans h.inForce.symm

/-- **The end of a transmission** starts the next packet in its own class,
or none. -/
theorem startedWithOwnCount_txDone_iff (h : CountKept cfg e) (hs : (e.path cfg).Sound)
    (hdiffer : CountsDiffer cfg e) (hown : StartedWithOwnCount cfg e) (outcome : TxOutcome) :
    StartedWithOwnCount cfg (retryStep cfg e (.txDone outcome)) ↔
      StartsInClass cfg e (.txDone outcome) := by
  have hloaded := @loaded_retryStep cfg e h.loaded (.txDone outcome)
  obtain ⟨hack, hsteady, -, hcount⟩ := settings_txDone hs h.inForce outcome
  have hpath := path_txDone cfg e outcome hs.syncing
  cases hend : canEnd cfg e outcome with
  | false =>
    rw [hend, if_neg Bool.false_ne_true] at hpath
    refine iff_of_true ?_ fun hend' => absurd (hend'.symm.trans hend) (by simp)
    have hsame : txDone cfg e outcome = e := by
      unfold txDone
      rw [Option.isSome_eq_false_iff.1 hend |> Option.isNone_iff_eq_none.1]
    unfold retryStep
    dsimp only
    rw [hsame]
    exact hown
  | true =>
    rw [hend, if_pos rfl] at hpath
    -- an exhausted packet halts the radio, so that none starts behind it
    by_cases hout : outcome = .exhausted
    · rw [if_pos hout] at hpath
      refine iff_of_true ?_ fun _ hne => absurd hout hne
      have hair : (txDone cfg e outcome).radio.state.onAir = none := by
        refine (congrArg TxPath.onAir hpath).trans ?_
        unfold TxPath.fail
        dsimp only
        split <;> rfl
      rw [startedWithOwnCount_iff hloaded]
      intro q hq
      exact absurd (hair.symm.trans hq) (by simp)
    · rw [if_neg hout] at hpath
      have hair : (txDone cfg e outcome).radio.state.onAir = e.radio.txFifo.tail.head? :=
        congrArg TxPath.onAir hpath
      cases hnext : e.radio.txFifo.tail.head? with
      | none =>
        refine iff_of_true ?_ fun _ _ q hq => ?_
        · rw [startedWithOwnCount_iff hloaded]
          intro q hq
          exact absurd ((hair.trans hnext).symm.trans hq) (by simp)
        · rw [hnext] at hq
          exact absurd hq (by simp)
      | some q =>
        -- the next one starts under the count as it is, the radio being busy
        have hstarted := hair.trans hnext
        have hkept := (hcount (busy_of_onAir hstarted)).trans h.inForce
        rw [startedWithOwnCount_iff_fits hloaded hdiffer classInForce_critical hstarted hack
          hsteady hkept]
        constructor
        · intro hfits _ _ q' hq'
          obtain rfl := Option.some.inj (hnext.symm.trans (Option.mem_def.1 hq'))
          exact hfits
        · exact fun hstarts => hstarts hend hout q (Option.mem_def.2 hnext)

/-- **One step**: what is on the air after it has its own count just when
the step starts nothing under another class. -/
theorem startedWithOwnCount_step_iff (h : CountKept cfg e) (hdiffer : CountsDiffer cfg e)
    (hown : StartedWithOwnCount cfg e) (op : RetryOp) :
    StartedWithOwnCount cfg (retryStep cfg e op) ↔ StartsInClass cfg e op := by
  cases op with
  | send pipe data =>
    rcases h.path with hs | hmuted
    · exact startedWithOwnCount_send_iff h hs hdiffer hown pipe data
    · refine iff_of_true ?_ fun hq => ?_
      · unfold retryStep
        dsimp only
        rw [hmuted.send]
        exact hown
      · have hsync : (cfg.rendezvous && e.tp.syncTxInProgress) = true := hmuted.1
        simp only [sendQueues, sendReaches, hsync, Bool.not_true, Bool.and_false, Bool.false_and,
          Bool.false_eq_true] at hq
  | txDone outcome =>
    rcases h.path with hs | hmuted
    · exact startedWithOwnCount_txDone_iff h hs hdiffer hown outcome
    · refine iff_of_true ?_ fun hend => ?_
      · unfold retryStep
        dsimp only
        rw [hmuted.txDone]
        exact hown
      · obtain ⟨q, hq⟩ := onAir_of_canEnd cfg e hend
        exact absurd hmuted.2.2 (busy_of_onAir hq)
  | adaptiveRetry =>
    refine iff_of_true ?_ trivial
    unfold retryStep
    dsimp only
    split
    · have hheld := @held_adaptiveRetryWorkFn cfg e
      by_cases hidle : e.radio.state = .idle
      · unfold StartedWithOwnCount
        rw [Radio.held_state hheld, hidle]
        intro x hx
        exact absurd hx (by simp [EsbState.underAck])
      · refine startedWithOwnCount_of_same h.loaded (h.loaded.of_held hheld) hown
          (congrArg EsbState.onAir (Radio.held_state hheld)) (Radio.held_awaitsAck hheld) ?_
          fun hbusy => Radio.held_count hheld hbusy
        -- a busy radio refuses the count, and then the cached one stays too
        unfold adaptiveRetryWorkFn esbSetRetransmitCount
        simp only [bne_iff_ne.2 hidle, if_true]
        split <;> rfl
    · exact hown
  | tick ms => exact iff_of_true hown trivial

/-! ## The run -/

/-- A count the configuration can settle on. -/
def IsSteadyCount (cfg : Config) (n : Nat) : Prop :=
  n = cfg.retransmitCount ∨
    (cfg.channelHop && cfg.adaptiveRetry) = true ∧
      ∃ ewmaX10, n = adaptiveRetryTarget cfg ewmaX10

theorem isSteadyCount_step (h : CountKept cfg e) (hsteady : IsSteadyCount cfg (steadyCount cfg e.tp))
    (op : RetryOp) : IsSteadyCount cfg (steadyCount cfg (retryStep cfg e op).tp) := by
  have hsame : ∀ e' : Endpoint, e'.retry.steady cfg = e.retry.steady cfg →
      IsSteadyCount cfg (steadyCount cfg e'.tp) := by
    intro e' heq
    rw [show steadyCount cfg e'.tp = steadyCount cfg e.tp from heq]
    exact hsteady
  cases op with
  | send pipe data =>
    refine hsame _ ?_
    unfold retryStep
    dsimp only
    cases hq : sendQueues cfg e data with
    | false => rw [retry_send_of_not_queues cfg e hq]
    | true => exact (settings_send_of_queues h.inForce hq).2.2
  | txDone outcome =>
    refine hsame _ ?_
    unfold retryStep
    dsimp only
    rcases h.path with hs | hmuted
    · exact (settings_txDone hs h.inForce outcome).2.1
    · rw [hmuted.txDone]
  | adaptiveRetry =>
    unfold retryStep
    dsimp only
    split
    · rename_i hadaptive
      unfold adaptiveRetryWorkFn
      dsimp only
      split
      · split
        · refine Or.inr ⟨hadaptive, e.tp.linkQualityEwmaX10, ?_⟩
          unfold steadyCount
          rw [if_pos hadaptive]
          rfl
        · exact hsteady
      · exact hsteady
    · exact hsteady
  | tick ms => exact hsteady

/-- **A configuration whose counts differ** keeps them apart throughout a
slot, whatever the adaptive retry makes of the steady one. -/
theorem throughout_countsDiffer (cfg : Config) (e : Endpoint) (ops : List RetryOp)
    (hpointer : ∀ n, IsSteadyCount cfg n → cfg.pointerRetransmitCount ≠ n)
    (hcritical : cfg.criticalMaxRetransmit = true →
      (∀ n, IsSteadyCount cfg n → cfg.criticalRetransmitCount ≠ n) ∧
        cfg.criticalRetransmitCount ≠ cfg.pointerRetransmitCount) :
    Throughout (retryStep cfg) (CountsDiffer cfg) (esbTransportOnSlotStart cfg e) ops := by
  have hrun : Throughout (retryStep cfg)
      (fun e => CountKept cfg e ∧ IsSteadyCount cfg (steadyCount cfg e.tp))
      (esbTransportOnSlotStart cfg e) ops := by
    refine Throughout.of_step (fun e' op h => ⟨h.1.step op, isSteadyCount_step h.1 h.2 op⟩)
      ⟨countKept_start cfg e, Or.inl ?_⟩
    unfold steadyCount
    split
    · rename_i hadaptive
      unfold esbTransportOnSlotStart
      simp only [hadaptive, if_true]
      rfl
    · rfl
  refine hrun.imp fun e' h => ⟨hpointer _ h.2, fun hmax => ?_⟩
  exact ⟨(hcritical hmax).1 _ h.2, (hcritical hmax).2⟩

/-- **Each packet is transmitted with its own class's count** throughout a
slot in which the counts differ, exactly if no step starts a packet under
another class. -/
theorem startedWithOwnCount_run_iff (cfg : Config) (e : Endpoint) (ops : List RetryOp)
    (hdiffer :
      Throughout (retryStep cfg) (CountsDiffer cfg) (esbTransportOnSlotStart cfg e) ops) :
    Throughout (retryStep cfg) (StartedWithOwnCount cfg) (esbTransportOnSlotStart cfg e) ops ↔
      Guarded (retryStep cfg) (StartsInClass cfg) (esbTransportOnSlotStart cfg e) ops := by
  have hown : StartedWithOwnCount cfg (esbTransportOnSlotStart cfg e) := by
    unfold StartedWithOwnCount
    rw [state_esbTransportOnSlotStart]
    intro x hx
    exact absurd hx (by simp [EsbState.underAck])
  exact throughout_iff_guarded (I := CountKept cfg) (D := fun e _ => CountsDiffer cfg e)
    (fun _ op h _ => h.step op)
    (fun _ op h hdiff hown => startedWithOwnCount_step_iff h hdiff hown op)
    (countKept_start cfg e) hown hdiffer.guarded

/-- Motion, a click and a key report, each sent once the last is
acknowledged: every one of them has its own count. -/
theorem startedWithOwnCount_run_iff_spaced :
    Throughout (retryStep { adaptiveRetry := false })
      (StartedWithOwnCount { adaptiveRetry := false })
      (esbTransportOnSlotStart { adaptiveRetry := false }
        (Endpoint.start { adaptiveRetry := false } (List.replicate 6 1) none))
      [.send 1 [esbPktHidReport, esbReportMouse, 0, 5, 0, 0, 0, 0, 0, 0, 0],
        .txDone (.acked 0 []),
        .send 1 [esbPktHidReport, esbReportMouse, 1, 5, 0, 0, 0, 0, 0, 0, 0],
        .txDone (.acked 0 []), .send 1 [esbPktHidReport, esbReportKeyboard, 0]] :=
  (startedWithOwnCount_run_iff _ _ _ (throughout_countsDiffer _ _ _
    (fun n hn => by rcases hn with rfl | ⟨h, -⟩ <;> first | decide | exact absurd h (by decide))
    (fun h => absurd h (by decide)))).2 (by decide)

/-- **A key report queued behind motion starts with the pointer count**:
two retransmissions where the steady count is five. -/
theorem not_startedWithOwnCount :
    Throughout (retryStep { adaptiveRetry := false }) (CountsDiffer { adaptiveRetry := false })
      (esbTransportOnSlotStart { adaptiveRetry := false }
        (Endpoint.start { adaptiveRetry := false } (List.replicate 6 1) none))
      [.send 1 [esbPktHidReport, esbReportMouse, 0, 5, 0, 0, 0, 0, 0, 0, 0],
        .send 1 [esbPktHidReport, esbReportKeyboard, 0], .txDone (.acked 0 [])] ∧
    ¬ Throughout (retryStep { adaptiveRetry := false })
      (StartedWithOwnCount { adaptiveRetry := false })
      (esbTransportOnSlotStart { adaptiveRetry := false }
        (Endpoint.start { adaptiveRetry := false } (List.replicate 6 1) none))
      [.send 1 [esbPktHidReport, esbReportMouse, 0, 5, 0, 0, 0, 0, 0, 0, 0],
        .send 1 [esbPktHidReport, esbReportKeyboard, 0], .txDone (.acked 0 [])] := by
  refine ⟨by decide, fun h => ?_⟩
  have hlast := h.last
  exact absurd hlast (by decide)

end EsbEndpoint
