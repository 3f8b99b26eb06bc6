import EsbEndpoint.Common.Run
import EsbEndpoint.Hop.Effect
import EsbEndpoint.Transport.Slot

/-!
# The health of the link

What the transport keeps of how its link is doing: the failures in a row
and the two time stamps the hop triggers go by, and the link-quality
window, its count, its average and the armed flag. TX events and channel
changes move it and nothing else does, so each of them is one operation
of `LinkHealth`, which also says whether it calls the hop manager.
-/

namespace EsbEndpoint

variable (cfg : Config)

/-- The statics of `src/esb/esb_transport.c` that judge the link. -/
structure LinkHealth where
  /-- the true time, of which the handlers read the low word -/
  uptime : Nat
  consecutiveTxFail : UInt32
  firstFailMs : UInt32
  lastTxSuccessMs : UInt32
  window : UInt32
  count : UInt8
  ewmaX10 : UInt16
  degradedArmed : Bool

/-- The link's health as an endpoint sees it. -/
def Endpoint.health (e : Endpoint) : LinkHealth where
  uptime := e.uptime
  consecutiveTxFail := e.tp.consecutiveTxFail
  firstFailMs := e.tp.firstFailMs
  lastTxSuccessMs := e.tp.lastTxSuccessMs
  window := e.tp.linkQualityWindow
  count := e.tp.linkQualityCount
  ewmaX10 := e.tp.linkQualityEwmaX10
  degradedArmed := e.tp.linkDegradedArmed

namespace LinkHealth

variable (h : LinkHealth)

/-- `k_uptime_get_32` -/
def now : UInt32 := UInt32.ofNat h.uptime

/-- The bit `link_quality_shift_window` is about to lose. -/
def droppedBit : Bool :=
  (h.window >>> UInt32.ofNat (if cfg.linkQualityWindow < 32 then cfg.linkQualityWindow - 1
    else 31)) &&& 1 != 0

/-- `link_quality_shift_window` -/
def shiftWindow (retryBit : Bool) : LinkHealth :=
  { h with
    window := ((h.window <<< 1) ||| (if retryBit then 1 else 0)) &&&
      (if cfg.linkQualityWindow < 32 then
        ((1 : UInt32) <<< UInt32.ofNat cfg.linkQualityWindow) - 1 else 0xFFFFFFFF)
    count :=
      if retryBit && !h.droppedBit cfg then h.count + 1
      else if !retryBit && h.droppedBit cfg then h.count - 1
      else h.count }

/-- `link_quality_record` -/
def record (txAttempts : UInt8) (retryBit : Bool) : LinkHealth :=
  { h.shiftWindow cfg retryBit with
    ewmaX10 := ((h.ewmaX10.toUInt32 * 7 + (txAttempts.toUInt16 * 10).toUInt32) / 8).toUInt16 }

/-- The cooperative hop's threshold check, where its flag is not set. -/
def degraded : Bool :=
  decide (cfg.linkDegradedThreshold ≤ h.count.toNat ∨
    cfg.linkDegradedFastThreshold ≤ popcount8 h.window)

/-- Whether it calls `channel_hop_ep_on_link_degraded_isr`. -/
def callsDegraded : Bool := cfg.coopHop && !h.degradedArmed && h.degraded cfg

/-- The threshold check and its re-arming. -/
def checkDegraded : LinkHealth :=
  if !cfg.coopHop then h
  else if h.degradedArmed then
    if h.count.toNat ≤ cfg.linkDegradedRearm then { h with degradedArmed := false } else h
  else if h.degraded cfg then { h with degradedArmed := true } else h

/-- The link-quality part of `ESB_EVENT_TX_SUCCESS`. -/
def noteSuccess (wasNoack : Bool) (txAttempts : Nat) : LinkHealth :=
  if wasNoack then h
  else (h.record cfg (UInt8.ofNat txAttempts) (1 < txAttempts)).checkDegraded cfg

/-- `ESB_EVENT_TX_SUCCESS` -/
def succeed (wasNoack : Bool) (txAttempts : Nat) : LinkHealth :=
  let h := { h with consecutiveTxFail := 0 }
  if !cfg.channelHop then h
  else
    { h with firstFailMs := 0, lastTxSuccessMs := stampOf h.now }.noteSuccess cfg wasNoack txAttempts

/-- Whether a failure's fail-window branch calls
`channel_hop_ep_on_tx_fail_isr`. -/
def callsFailWindow : Bool :=
  h.consecutiveTxFail + 1 != 1 && (h.firstFailMs != 0 &&
    decide (cfg.channelHopTxFailWindowMs ≤ elapsed h.firstFailMs h.now))

/-- The fail-window branch. -/
def checkFailWindow : LinkHealth :=
  if h.consecutiveTxFail + 1 == 1 || h.callsFailWindow cfg then
    { h with firstFailMs := stampOf h.now }
  else h

/-- Whether a failure's weak-link branch calls
`channel_hop_ep_on_tx_fail_isr`. -/
def callsWeakLink : Bool :=
  decide (0 < cfg.channelHopWeakLinkMs) && h.lastTxSuccessMs != 0 &&
    decide (cfg.channelHopWeakLinkMs ≤ elapsed h.lastTxSuccessMs h.now)

/-- The weak-link branch. -/
def checkWeakLink : LinkHealth :=
  if h.callsWeakLink cfg then { h with lastTxSuccessMs := stampOf h.now } else h

/-- `ESB_EVENT_TX_FAILED` -/
def fail : LinkHealth :=
  if !cfg.channelHop then { h with consecutiveTxFail := h.consecutiveTxFail + 1 }
  else
    { ((h.checkFailWindow cfg).checkWeakLink cfg).shiftWindow cfg true with
      consecutiveTxFail := h.consecutiveTxFail + 1 }

/-- A channel change that succeeds. -/
def newChannel : LinkHealth :=
  if !cfg.channelHop then { h with consecutiveTxFail := 0 }
  else
    { h with
      consecutiveTxFail := 0
      firstFailMs := 0
      lastTxSuccessMs := 0
      window := 0
      count := 0
      ewmaX10 := 10
      degradedArmed := if cfg.coopHop then false else h.degradedArmed }

/-! ### What each part moves -/

theorem checkDegraded_eq : ∃ armed, h.checkDegraded cfg = { h with degradedArmed := armed } := by
  unfold checkDegraded
  split
  · exact ⟨_, rfl⟩
  · split
    · split
      · exact ⟨_, rfl⟩
      · exact ⟨_, rfl⟩
    · split
      · exact ⟨_, rfl⟩
      · exact ⟨_, rfl⟩

theorem checkFailWindow_eq : ∃ first, h.checkFailWindow cfg = { h with firstFailMs := first } := by
  unfold checkFailWindow
  split
  · exact ⟨_, rfl⟩
  · exact ⟨_, rfl⟩

theorem checkWeakLink_eq : ∃ stamp, h.checkWeakLink cfg = { h with lastTxSuccessMs := stamp } := by
  unfold checkWeakLink
  split
  · exact ⟨_, rfl⟩
  · exact ⟨_, rfl⟩

/-- A success whose send asked for no ACK moves the triggers' statics, -/
theorem succeed_of_noack (hhop : cfg.channelHop = true) (n : Nat) :
    h.succeed cfg true n =
      { h with
        consecutiveTxFail := 0
        firstFailMs := 0
        lastTxSuccessMs := stampOf h.now } := by
  rw [succeed, if_neg (by rw [hhop]; decide), noteSuccess, if_pos rfl]
  rfl

/-- one that is counted records its attempts as well, -/
theorem succeed_eq (hhop : cfg.channelHop = true) (n : Nat) : ∃ armed,
    h.succeed cfg false n =
      { h.record cfg (UInt8.ofNat n) (1 < n) with
        consecutiveTxFail := 0
        firstFailMs := 0
        lastTxSuccessMs := stampOf h.now
        degradedArmed := armed } := by
  obtain ⟨armed, harmed⟩ := checkDegraded_eq cfg
    (record cfg
      { h with consecutiveTxFail := 0, firstFailMs := 0, lastTxSuccessMs := stampOf h.now }
      (UInt8.ofNat n) (1 < n))
  refine ⟨armed, ?_⟩
  rw [succeed, if_neg (by rw [hhop]; decide), noteSuccess, if_neg Bool.false_ne_true]
  exact harmed

/-- and a failure shifts the window. -/
theorem fail_eq (hhop : cfg.channelHop = true) : ∃ first stamp,
    h.fail cfg =
      { h.shiftWindow cfg true with
        consecutiveTxFail := h.consecutiveTxFail + 1
        firstFailMs := first
        lastTxSuccessMs := stamp } := by
  obtain ⟨first, hfirst⟩ := h.checkFailWindow_eq cfg
  obtain ⟨stamp, hstamp⟩ := LinkHealth.checkWeakLink_eq cfg { h with firstFailMs := first }
  refine ⟨first, stamp, ?_⟩
  rw [fail, if_neg (by rw [hhop]; decide), hfirst, hstamp]
  rfl

end LinkHealth

variable (e : Endpoint)

/-! ## What leaves it alone -/

section Frame

@[simp] theorem health_mapRadio (g : Radio → Radio) : (e.mapRadio g).health = e.health := rfl

@[simp] theorem health_mapHop (g : HopEp → HopEp) : (e.mapHop g).health = e.health := rfl

@[simp] theorem health_mapShell (g : ShellRelay → ShellRelay) :
    (e.mapShell g).health = e.health := rfl

@[simp] theorem health_mapMotion (g : Motion → Motion) : (e.mapMotion g).health = e.health := rfl

@[simp] theorem health_trySetRetransmitCount (n : Nat) :
    (trySetRetransmitCount e n).health = e.health := rfl

@[simp] theorem health_noteHanded (pipe : Nat) (data : List UInt8) :
    (noteHanded e pipe data).health = e.health := rfl

@[simp] theorem health_jitterRetransmitDelay :
    (jitterRetransmitDelay cfg e).health = e.health := rfl

@[simp] theorem health_esbFlushTxAndReset : (esbFlushTxAndReset cfg e).health = e.health := rfl

@[simp] theorem health_endQuietWindow : (endQuietWindow cfg e).health = e.health := by
  unfold endQuietWindow
  split <;> rfl

@[simp] theorem health_noteSend (data : List UInt8) : (noteSend cfg e data).health = e.health := by
  have hcount : ∀ e' : Endpoint, (e'.mapTp (countHidTx e'.now)).health = e'.health := by
    intro e'
    unfold Endpoint.health Endpoint.mapTp countHidTx
    dsimp only
    split
    · rfl
    · split <;> rfl
  have hact :
      (if isType esbPktShellBgPoll data then e else noteActivity e).health = e.health := by
    split <;> rfl
  unfold noteSend
  dsimp only
  generalize (if isType esbPktShellBgPoll data then e else noteActivity e) = e₁ at hact ⊢
  have hhid : (if isType esbPktHidReport data then e₁.mapTp (countHidTx e₁.now) else e₁).health =
      e₁.health := by
    split
    · exact hcount e₁
    · rfl
  split
  · rw [health_mapHop, hhid, hact]
  · rw [hhid, hact]

theorem health_sendQueued (pipe : Nat) (data : List UInt8) :
    (sendQueued cfg e pipe data).1.health = e.health := by
  have hnoack : ∀ (e' : Endpoint) noack, (pushNoack cfg e' noack).health = e'.health := by
    intro e' noack
    unfold pushNoack
    split <;> rfl
  have hcritical : ∀ e' : Endpoint, (overrideCritical cfg e' data).health = e'.health := by
    intro e'
    unfold overrideCritical
    split
    · rfl
    · dsimp only
      split <;> rfl
  have hmotion : ∀ (e' : Endpoint) (noack : Bool),
      (sendMotion cfg e' pipe noack data).1.health = e'.health := by
    intro e' noack
    unfold sendMotion
    split
    · dsimp only
      split <;> rfl
    · rfl
  unfold sendQueued
  dsimp only
  rw [hmotion, hcritical, health_noteSend, hnoack]

/-- **A send leaves the link's health alone.** -/
@[simp] theorem health_esbTransportSend (pipe : Nat) (data : List UInt8) :
    (esbTransportSend cfg e pipe data).1.health = e.health := by
  cases hq : sendQueues cfg e data with
  | false =>
    obtain ⟨e', hsend, rfl | rfl | rfl⟩ := @esbTransportSend_of_not_queues cfg e pipe data hq
    · rw [hsend, health_noteHanded]
    · rw [hsend, health_jitterRetransmitDelay, health_noteHanded]
    · rw [hsend, health_endQuietWindow, health_jitterRetransmitDelay, health_noteHanded]
  | true =>
    rw [esbTransportSend_of_queues cfg e hq, health_sendQueued]
    split
    · rw [health_esbFlushTxAndReset, health_endQuietWindow, health_jitterRetransmitDelay,
        health_noteHanded]
    · rw [health_endQuietWindow, health_jitterRetransmitDelay, health_noteHanded]

theorem health_finishCritical : (finishCritical cfg e).health = e.health := by
  have hpop : (e.mapTp fun _ => (consumeRecentOverride cfg e.tp).1).health = e.health := by
    unfold Endpoint.health Endpoint.mapTp consumeRecentOverride
    dsimp only
    split <;> rfl
  unfold finishCritical
  split
  · rfl
  · dsimp only
    split
    · exact hpop
    · exact hpop

theorem health_finishMotion (failed : Bool) : (finishMotion cfg e failed).health = e.health := by
  unfold finishMotion
  dsimp only
  split <;> rfl

theorem health_consumeRecentNoack :
    (e.mapTp fun tp => (consumeRecentNoack cfg tp).1).health = e.health := by
  unfold Endpoint.health Endpoint.mapTp consumeRecentNoack
  dsimp only
  split <;> rfl

end Frame

/-! ## What moves it -/

theorem health_linkQualityRecord (txAttempts : UInt8) (retryBit : Bool) :
    (e.mapTp (linkQualityRecord cfg txAttempts retryBit)).health =
      e.health.record cfg txAttempts retryBit := rfl

theorem health_checkLinkDegraded :
    (checkLinkDegraded cfg e).health = e.health.checkDegraded cfg := by
  have hcount : e.health.count = e.tp.linkQualityCount := rfl
  have harmed : e.health.degradedArmed = e.tp.linkDegradedArmed := rfl
  have hdegraded : e.health.degraded cfg = decide (cfg.linkDegradedThreshold ≤
      e.tp.linkQualityCount.toNat ∨
        cfg.linkDegradedFastThreshold ≤ popcount8 e.tp.linkQualityWindow) := rfl
  unfold checkLinkDegraded LinkHealth.checkDegraded
  rw [harmed, hcount, hdegraded]
  split
  · rfl
  · split
    · split <;> rfl
    · simp only [decide_eq_true_eq]
      split <;> rfl

/-- Whether the send a success answers asked for no ACK. -/
def wasNoack : Bool := (consumeRecentNoack cfg e.tp).2

variable {cfg e} in
theorem wasNoack_congr {e' : Endpoint} (h : e'.tp.recentNoack = e.tp.recentNoack) :
    wasNoack cfg e' = wasNoack cfg e := by
  unfold wasNoack consumeRecentNoack
  rw [h]
  split <;> rfl

theorem health_recordSuccess (n : Nat) :
    (recordSuccess cfg e n).health = e.health.noteSuccess cfg (wasNoack cfg e) n := by
  have hpop := health_consumeRecentNoack cfg e
  unfold recordSuccess LinkHealth.noteSuccess wasNoack
  dsimp only
  split
  · exact hpop
  · rw [health_checkLinkDegraded, health_linkQualityRecord]
    exact congrArg (fun h : LinkHealth =>
      (h.record cfg (UInt8.ofNat n) (1 < n)).checkDegraded cfg) hpop

theorem health_onTxSuccess (n : Nat) :
    (onTxSuccess cfg e n).health = e.health.succeed cfg (wasNoack cfg e) n := by
  have hhop : ∀ e' : Endpoint, e'.health = { e.health with consecutiveTxFail := 0 } →
      e'.tp.recentNoack = e.tp.recentNoack →
      (hopOnSuccess cfg e' n).health = e.health.succeed cfg (wasNoack cfg e) n := by
    intro e' he' hring
    unfold hopOnSuccess LinkHealth.succeed
    split
    · exact he'
    · have hnow : e'.now = e.now := congrArg LinkHealth.now he'
      refine (health_recordSuccess cfg _ n).trans
        (congrArg₂ (fun (h : LinkHealth) wasNoack => h.noteSuccess cfg wasNoack n) ?_
          (wasNoack_congr hring))
      show { e'.health with firstFailMs := 0, lastTxSuccessMs := stampOf e'.now } = _
      rw [he', hnow]
      rfl
  unfold onTxSuccess
  dsimp only
  rw [health_finishMotion, health_finishCritical]
  split
  · rw [esbShellRelayNotifyTx, health_mapShell]
    exact hhop _ rfl rfl
  · exact hhop _ rfl rfl

/-- The fail-window branch, on the failures counted so far. -/
theorem health_checkFailWindow {h : LinkHealth}
    (he : e.health = { h with consecutiveTxFail := h.consecutiveTxFail + 1 }) :
    (checkFailWindow cfg e).health =
      { h.checkFailWindow cfg with consecutiveTxFail := h.consecutiveTxFail + 1 } := by
  have hcount : e.tp.consecutiveTxFail = h.consecutiveTxFail + 1 :=
    congrArg LinkHealth.consecutiveTxFail he
  have hfirst : e.tp.firstFailMs = h.firstFailMs := congrArg LinkHealth.firstFailMs he
  have hnow : e.now = h.now := congrArg LinkHealth.now he
  have hstamp : ∀ e' : Endpoint, e'.health = e.health →
      (e'.mapTp fun tp => { tp with firstFailMs := stampOf e.now }).health =
        { h with
          firstFailMs := stampOf h.now, consecutiveTxFail := h.consecutiveTxFail + 1 } := by
    intro e' he'
    rw [show (e'.mapTp fun tp => { tp with firstFailMs := stampOf e.now }).health =
      { e'.health with firstFailMs := stampOf e.now } from rfl, he', he, hnow]
  unfold checkFailWindow LinkHealth.checkFailWindow LinkHealth.callsFailWindow
  rw [hcount, hfirst, hnow]
  by_cases hone : (h.consecutiveTxFail + 1 == 1) = true
  · rw [if_pos hone, hone, Bool.true_or, if_pos rfl, ← hnow]
    rw [hstamp e rfl, hnow]
  · rw [if_neg hone]
    rw [Bool.not_eq_true] at hone
    have hmore : (h.consecutiveTxFail + 1 != 1) = true := by rw [bne, hone, Bool.not_false]
    rw [hmore, hone, Bool.false_or, Bool.true_and]
    split
    · rw [← hnow, hstamp _ (health_mapHop e _), hnow]
    · exact he

theorem health_checkWeakLink : (checkWeakLink cfg e).health = e.health.checkWeakLink cfg := by
  have hcalls : e.health.callsWeakLink cfg = (decide (0 < cfg.channelHopWeakLinkMs) &&
      e.tp.lastTxSuccessMs != 0 &&
        decide (cfg.channelHopWeakLinkMs ≤ elapsed e.tp.lastTxSuccessMs e.now)) := rfl
  unfold checkWeakLink LinkHealth.checkWeakLink
  rw [hcalls]
  split <;> rfl

theorem health_onTxFailed : (onTxFailed cfg e).health = e.health.fail cfg := by
  have hhop : ∀ e' : Endpoint,
      e'.health = { e.health with consecutiveTxFail := e.health.consecutiveTxFail + 1 } →
      (hopOnFailure cfg e').health = e.health.fail cfg := by
    intro e' he'
    unfold hopOnFailure LinkHealth.fail
    split
    · exact he'
    · have hpopped := health_consumeRecentNoack cfg (checkWeakLink cfg (checkFailWindow cfg e'))
      rw [health_checkWeakLink, health_checkFailWindow cfg e' he'] at hpopped
      refine (congrArg (fun h : LinkHealth => h.shiftWindow cfg true) hpopped).trans ?_
      unfold LinkHealth.checkWeakLink
      have hcalls : LinkHealth.callsWeakLink cfg
          { e.health.checkFailWindow cfg with
            consecutiveTxFail := e.health.consecutiveTxFail + 1 } =
          LinkHealth.callsWeakLink cfg (e.health.checkFailWindow cfg) := rfl
      rw [hcalls]
      split <;> rfl
  unfold onTxFailed
  dsimp only
  generalize hcounted : (e.mapTp fun tp =>
    { tp with
      txFailCount := tp.txFailCount + 1
      txExhaustedCount := tp.txExhaustedCount + 1
      consecutiveTxFail := tp.consecutiveTxFail + 1 }) = e₁
  have hdone : (finishMotion cfg (finishCritical cfg (hopOnFailure cfg e₁)) true).health =
      e.health.fail cfg := by
    rw [health_finishMotion, health_finishCritical]
    refine hhop e₁ ?_
    rw [← hcounted]
    rfl
  split
  · rw [health_esbFlushTxAndReset, hdone]
  · exact hdone

/-- **A successful channel change**, on the link's health, -/
theorem health_esbTransportSetChannel {channel : UInt8}
    (h : (esbTransportSetChannel cfg e channel).2 = none) :
    (esbTransportSetChannel cfg e channel).1.health = e.health.newChannel cfg := by
  unfold esbTransportSetChannel at h ⊢
  split at h
  · exact absurd h (by simp)
  · rename_i hconf
    rw [if_neg hconf]
    dsimp only at h ⊢
    split at h
    · exact absurd h (by simp)
    · unfold LinkHealth.newChannel
      dsimp only
      unfold Endpoint.health onNewChannel
      dsimp only [Endpoint.mapTp, Endpoint.mapRadio]
      split <;> rfl

/-- and one that fails. -/
theorem health_esbTransportSetChannel_of_error {channel : UInt8}
    (h : (esbTransportSetChannel cfg e channel).2 ≠ none) :
    (esbTransportSetChannel cfg e channel).1.health = e.health := by
  unfold esbTransportSetChannel at h ⊢
  split at h
  · rename_i hconf
    rw [if_pos hconf]
  · rename_i hconf
    rw [if_neg hconf]
    dsimp only at h ⊢
    split at h
    · exact health_esbFlushTxAndReset cfg e
    · exact absurd rfl h

theorem health_endSyncTx (success : Bool) : (endSyncTx e success).health = e.health := rfl

theorem health_idleCheckWorkFn : (idleCheckWorkFn cfg e).health = e.health := by
  unfold idleCheckWorkFn enterIdleState
  split
  · rfl
  · split
    · rfl
    · rw [sendIdlePacket, health_esbTransportSend]
      rfl

theorem health_sendBlockingBegin (channel : UInt8) (pipe : Nat) (data : List UInt8) :
    (sendBlockingBegin cfg e channel pipe data).1.health = e.health := by
  unfold sendBlockingBegin
  split
  · rfl
  · split
    · rfl
    · split
      · rfl
      · have hflush := health_esbFlushTxAndReset cfg e
        dsimp only
        split
        · exact hflush
        · split
          · exact hflush
          · exact hflush

theorem health_sendBlockingEnd : (sendBlockingEnd cfg e).1.health = e.health := by
  unfold sendBlockingEnd
  dsimp only
  split <;> rfl

/-! ## Runs -/

/-- `esb_transport_reset_consecutive_fail` -/
def esbTransportResetConsecutiveFail : Endpoint :=
  e.mapTp fun tp => { tp with consecutiveTxFail := 0 }

/-- What an endpoint does on a link. -/
inductive HealthOp
  /-- `zmk_esb_transport_evt_cb` -/
  | txSuccess (txAttempts : Nat)
  | txFailed
  | setChannel (channel : UInt8)
  | resetConsecutiveFail
  | send (pipe : Nat) (data : List UInt8)
  | flushTx
  /-- `idle_check_work_fn` -/
  | idleCheck
  -- a side-trip, up to its wait and from there on
  | sendBlockingBegin (channel : UInt8) (pipe : Nat) (data : List UInt8)
  | sendBlockingEnd
  /-- `channel_hop_ep_on_connected` -/
  | connected
  | disconnected
  /-- time passes -/
  | tick (ms : Nat)
  deriving DecidableEq

def healthStep : HealthOp → Endpoint
  | .txSuccess txAttempts => zmkEsbTransportEvtCb cfg e .txSuccess txAttempts
  | .txFailed => zmkEsbTransportEvtCb cfg e .txFailed 0
  | .setChannel channel => (esbTransportSetChannel cfg e channel).1
  | .resetConsecutiveFail => esbTransportResetConsecutiveFail e
  | .send pipe data => (esbTransportSend cfg e pipe data).1
  | .flushTx => esbTransportFlushTx cfg e
  | .idleCheck => idleCheckWorkFn cfg e
  | .sendBlockingBegin channel pipe data => (sendBlockingBegin cfg e channel pipe data).1
  | .sendBlockingEnd => (sendBlockingEnd cfg e).1
  | .connected => e.mapHop (channelHopEpOnConnected cfg)
  | .disconnected => e.mapHop (channelHopEpOnDisconnected cfg)
  | .tick ms => { e with uptime := e.uptime + ms }

/-- What an operation is to the link's health. -/
inductive LinkMove
  | rest
  | succeed (wasNoack : Bool) (txAttempts : Nat)
  | fail
  | newChannel
  | reset
  | tick (ms : Nat)
  deriving DecidableEq

def LinkHealth.move (h : LinkHealth) : LinkMove → LinkHealth
  | .rest => h
  | .succeed wasNoack txAttempts => h.succeed cfg wasNoack txAttempts
  | .fail => h.fail cfg
  | .newChannel => h.newChannel cfg
  | .reset => { h with consecutiveTxFail := 0 }
  | .tick ms => { h with uptime := h.uptime + ms }

def linkMove : HealthOp → LinkMove
  | .txSuccess txAttempts =>
    if syncing cfg e then .rest else .succeed (wasNoack cfg e) txAttempts
  | .txFailed => if syncing cfg e then .rest else .fail
  | .setChannel channel =>
    if (esbTransportSetChannel cfg e channel).2 = none then .newChannel else .rest
  | .resetConsecutiveFail => .reset
  | .tick ms => .tick ms
  | _ => .rest

/-- **A failure reaches the hop manager** once for each trigger that goes
off. -/
def FailReaches (op : HealthOp) : Prop :=
  linkMove cfg e op = .fail →
    (healthStep cfg e op).hop = (channelHopEpOnTxFailIsr cfg e.now)^[failHooks cfg e] e.hop

/-- **Every step is a move of the link's health.** -/
theorem health_healthStep (op : HealthOp) :
    (healthStep cfg e op).health = e.health.move cfg (linkMove cfg e op) := by
  have hseen :
      (e.mapTp fun tp => { tp with lastTxEventMs := stampOf e.now }).health = e.health := rfl
  cases op with
  | txSuccess txAttempts =>
    unfold healthStep linkMove zmkEsbTransportEvtCb
    dsimp only
    by_cases hs : syncing cfg e = true
    · rw [if_pos hs]
      exact (congrArg Endpoint.health (if_pos hs)).trans hseen
    · rw [if_neg hs]
      refine (congrArg Endpoint.health (if_neg hs)).trans ((health_onTxSuccess cfg _ _).trans ?_)
      exact congrArg₂ (fun h noack => LinkHealth.succeed cfg h noack txAttempts) hseen
        (wasNoack_congr rfl)
  | txFailed =>
    unfold healthStep linkMove zmkEsbTransportEvtCb
    dsimp only
    by_cases hs : syncing cfg e = true
    · rw [if_pos hs]
      refine (congrArg Endpoint.health (if_pos hs)).trans ?_
      rw [health_esbFlushTxAndReset, health_endSyncTx]
      exact hseen
    · rw [if_neg hs]
      refine (congrArg Endpoint.health (if_neg hs)).trans ((health_onTxFailed cfg _).trans ?_)
      exact congrArg (LinkHealth.fail cfg) hseen
  | setChannel channel =>
    unfold healthStep linkMove
    dsimp only
    split
    · rename_i h
      exact health_esbTransportSetChannel cfg e h
    · rename_i h
      exact health_esbTransportSetChannel_of_error cfg e h
  | send pipe data => exact health_esbTransportSend cfg e pipe data
  | idleCheck => exact health_idleCheckWorkFn cfg e
  | sendBlockingBegin channel pipe data => exact health_sendBlockingBegin cfg e channel pipe data
  | sendBlockingEnd => exact health_sendBlockingEnd cfg e
  | _ => rfl

/-- The moves of a run. -/
def linkMoves : Endpoint → List HealthOp → List LinkMove
  | _, [] => []
  | e, op :: ops => linkMove cfg e op :: linkMoves (healthStep cfg e op) ops

/-- **A run's moves are all the link's health sees of it.** -/
theorem health_run (ops : List HealthOp) :
    (runFrom (healthStep cfg) e ops).health =
      runFrom (LinkHealth.move cfg) e.health (linkMoves cfg e ops) := by
  induction ops generalizing e with
  | nil => rfl
  | cons op ops ih =>
    rw [runFrom_cons, ih, health_healthStep]
    rfl

/-- The link's health at the start of the first slot. -/
def LinkHealth.start : LinkHealth where
  uptime := 0
  consecutiveTxFail := 0
  firstFailMs := 0
  lastTxSuccessMs := 0
  window := 0
  count := 0
  ewmaX10 := if cfg.channelHop then 10 else 0
  degradedArmed := false

@[simp] theorem health_start (deviceId : List UInt8) (saved : Option PairedRec) :
    (Endpoint.start cfg deviceId saved).health = LinkHealth.start cfg := by
  have hboot : (esbTransportSetAddresses (esbTransportInit cfg (Endpoint.boot cfg deviceId saved))
      cfg.esbChannel).health = LinkHealth.start cfg := rfl
  have hslot : ∀ e' : Endpoint, (esbTransportOnSlotStart cfg e').health =
      { e'.health with consecutiveTxFail := 0 } := by
    intro e'
    unfold esbTransportOnSlotStart esbInitAndConfigure
    unfold Endpoint.health Endpoint.mapTp Endpoint.mapRadio
    dsimp only
    split
    · split <;> rfl
    · split <;> rfl
  rw [Endpoint.start, hslot, hboot]
  rfl

/-! ## What a move is -/

variable {cfg e} {op : HealthOp}

theorem linkMove_eq_fail (h : linkMove cfg e op = .fail) :
    op = .txFailed ∧ syncing cfg e = false := by
  cases op with
  | txFailed =>
    unfold linkMove at h
    dsimp only at h
    split at h
    · exact LinkMove.noConfusion h
    · rename_i hsync
      exact ⟨rfl, by rwa [Bool.not_eq_true] at hsync⟩
  | txSuccess | setChannel =>
    unfold linkMove at h
    dsimp only at h
    split at h <;> exact LinkMove.noConfusion h
  | _ => exact LinkMove.noConfusion h

theorem linkMove_eq_succeed {noack : Bool} {n : Nat} (h : linkMove cfg e op = .succeed noack n) :
    op = .txSuccess n ∧ syncing cfg e = false ∧ wasNoack cfg e = noack := by
  cases op with
  | txSuccess txAttempts =>
    unfold linkMove at h
    dsimp only at h
    split at h
    · exact LinkMove.noConfusion h
    · rename_i hsync
      obtain ⟨rfl, rfl⟩ := LinkMove.succeed.inj h
      exact ⟨rfl, by rwa [Bool.not_eq_true] at hsync, rfl⟩
  | txFailed | setChannel =>
    unfold linkMove at h
    dsimp only at h
    split at h <;> exact LinkMove.noConfusion h
  | _ => exact LinkMove.noConfusion h

theorem failReaches (hhop : cfg.channelHop = true) (e : Endpoint) (op : HealthOp) :
    FailReaches cfg e op := by
  intro hfail
  obtain ⟨rfl, hsync⟩ := linkMove_eq_fail hfail
  rw [healthStep, evtCb_txFailed hsync, hop_onTxFailed hhop]
  rfl

end EsbEndpoint
