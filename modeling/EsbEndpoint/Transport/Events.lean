import EsbEndpoint.Transport.Send

/-!
# Radio events

`zmk_esb_transport_evt_cb` and what it calls, with the interrupt handler
that turns the radio's interrupt flags into events. A transmission ends
and its events are handled in one step: the radio has removed the packet
and started the next before the first handler runs.
-/

namespace EsbEndpoint

variable (cfg : Config) (e : Endpoint)

/-! ## The per-send rings, read back -/

/-- `consume_recent_noack` -/
def consumeRecentNoack (tp : Transport) : Transport × Bool :=
  if tp.recentNoack.isEmpty then (tp, false)
  else ({ tp with recentNoack := tp.recentNoack.pop }, tp.recentNoack.front (noackSlot cfg))

/-- `consume_recent_override` -/
def consumeRecentOverride (tp : Transport) : Transport × Bool :=
  if tp.recentCritical.isEmpty then (tp, false)
  else
    ({ tp with recentCritical := tp.recentCritical.pop },
      tp.recentCritical.front (criticalSlot cfg))

/-- The handler's use of `consume_recent_override`. -/
def finishCritical : Endpoint :=
  if !cfg.criticalMaxRetransmit then e
  else
    let (tp, wasOverride) := consumeRecentOverride cfg e.tp
    let e := e.mapTp fun _ => tp
    if wasOverride then restoreRetransmitCount cfg e else e

/-- `motion_ring_consume` -/
def finishMotion (failed : Bool) : Endpoint :=
  let (m, overrode) := motionRingConsume cfg e.now failed e.motion
  let e := e.mapMotion fun _ => m
  if overrode then restoreRetransmitCount cfg e else e

/-! ## Link quality -/

/-- `link_quality_shift_window` -/
def linkQualityShiftWindow (retryBit : Bool) (tp : Transport) : Transport :=
  let width := cfg.linkQualityWindow
  let mask : UInt32 :=
    if width < 32 then ((1 : UInt32) <<< UInt32.ofNat width) - 1 else 0xFFFFFFFF
  let droppedBit :=
    (tp.linkQualityWindow >>> UInt32.ofNat (if width < 32 then width - 1 else 31)) &&& 1 != 0
  { tp with
    linkQualityWindow :=
      ((tp.linkQualityWindow <<< 1) ||| (if retryBit then 1 else 0)) &&& mask
    linkQualityCount :=
      if retryBit && !droppedBit then tp.linkQualityCount + 1
      else if !retryBit && droppedBit then tp.linkQualityCount - 1
      else tp.linkQualityCount }

/-- `link_quality_record` -/
def linkQualityRecord (txAttempts : UInt8) (retryBit : Bool) (tp : Transport) : Transport :=
  let tp := linkQualityShiftWindow cfg retryBit tp
  let a10 : UInt32 := (txAttempts.toUInt16 * 10).toUInt32
  { tp with
    linkQualityEwmaX10 := ((tp.linkQualityEwmaX10.toUInt32 * 7 + a10) / 8).toUInt16 }

/-- `__builtin_popcount` of the low eight bits. -/
def popcount8 (w : UInt32) : Nat :=
  (List.range 8).countP fun i => (w >>> UInt32.ofNat i) &&& 1 == 1

/-- The threshold check of the cooperative hop and its re-arming. -/
def checkLinkDegraded : Endpoint :=
  if !cfg.coopHop then e
  else if e.tp.linkDegradedArmed then
    if e.tp.linkQualityCount.toNat ≤ cfg.linkDegradedRearm then
      e.mapTp fun tp => { tp with linkDegradedArmed := false }
    else e
  else if cfg.linkDegradedThreshold ≤ e.tp.linkQualityCount.toNat ∨
      cfg.linkDegradedFastThreshold ≤ popcount8 e.tp.linkQualityWindow then
    (e.mapTp fun tp => { tp with linkDegradedArmed := true }).mapHop
      (channelHopEpOnLinkDegradedIsr cfg e.now)
  else e

/-- The link-quality part of `ESB_EVENT_TX_SUCCESS`. -/
def recordSuccess (txAttempts : Nat) : Endpoint :=
  let (tp, wasNoack) := consumeRecentNoack cfg e.tp
  let e := e.mapTp fun _ => tp
  if wasNoack then e
  else
    checkLinkDegraded cfg
      (e.mapTp (linkQualityRecord cfg (UInt8.ofNat txAttempts) (1 < txAttempts)))

/-! ## The handler -/

/-- `esb_shell_relay_notify_tx` -/
def esbShellRelayNotifyTx : Endpoint :=
  e.mapShell fun sh =>
    if sh.shellActive && !sh.outRb.isEmpty then { sh with outDrainWork := true } else sh

/-- The hop part of `ESB_EVENT_TX_SUCCESS`. -/
def hopOnSuccess (txAttempts : Nat) : Endpoint :=
  if !cfg.channelHop then e
  else
    let e := e.mapTp fun tp => { tp with firstFailMs := 0, lastTxSuccessMs := stampOf e.now }
    recordSuccess cfg (e.mapHop (channelHopEpOnTxSuccessIsr cfg e.now)) txAttempts

/-- `ESB_EVENT_TX_SUCCESS`, outside a side-trip. -/
def onTxSuccess (txAttempts : Nat) : Endpoint :=
  let e := e.mapTp fun tp =>
    { tp with
      txOkCount := tp.txOkCount + 1
      txRetriedCount := if 1 < txAttempts then tp.txRetriedCount + 1 else tp.txRetriedCount
      consecutiveTxFail := 0 }
  let e := hopOnSuccess cfg e txAttempts
  let e := if cfg.shellRelay then esbShellRelayNotifyTx e else e
  finishMotion cfg (finishCritical cfg e) false

/-- The fail-window trigger. -/
def checkFailWindow : Endpoint :=
  if e.tp.consecutiveTxFail == 1 then e.mapTp fun tp => { tp with firstFailMs := stampOf e.now }
  else if e.tp.firstFailMs != 0 &&
      cfg.channelHopTxFailWindowMs ≤ elapsed e.tp.firstFailMs e.now then
    (e.mapHop (channelHopEpOnTxFailIsr cfg e.now)).mapTp fun tp =>
      { tp with firstFailMs := stampOf e.now }
  else e

/-- The weak-link trigger. -/
def checkWeakLink : Endpoint :=
  if 0 < cfg.channelHopWeakLinkMs && e.tp.lastTxSuccessMs != 0 &&
      cfg.channelHopWeakLinkMs ≤ elapsed e.tp.lastTxSuccessMs e.now then
    (e.mapHop (channelHopEpOnTxFailIsr cfg e.now)).mapTp fun tp =>
      { tp with lastTxSuccessMs := stampOf e.now }
  else e

/-- The hop part of `ESB_EVENT_TX_FAILED`. -/
def hopOnFailure : Endpoint :=
  if !cfg.channelHop then e
  else
    (checkWeakLink cfg (checkFailWindow cfg e)).mapTp fun tp =>
      linkQualityShiftWindow cfg true (consumeRecentNoack cfg tp).1

/-- `ESB_EVENT_TX_FAILED`, outside a side-trip. -/
def onTxFailed : Endpoint :=
  let e := e.mapTp fun tp =>
    { tp with
      txFailCount := tp.txFailCount + 1
      txExhaustedCount := tp.txExhaustedCount + 1
      consecutiveTxFail := tp.consecutiveTxFail + 1 }
  let e := hopOnFailure cfg e
  let e := finishMotion cfg (finishCritical cfg e) true
  if esbTxFull cfg e.radio then esbFlushTxAndReset cfg e else e

/-- One payload out of the RX FIFO, as `ESB_EVENT_RX_RECEIVED` takes it. -/
def takeRxPayload (tp : Transport) (data : List UInt8) : Transport :=
  if 0 < data.length ∧ data.length ≤ cfg.esbMaxPayloadLength then
    { tp with
      rxLen := data.length
      rxBuf := data ++ tp.rxBuf.drop data.length
      rxWork := true }
  else tp

/-- `ESB_EVENT_RX_RECEIVED`: read until `esb_read_rx_payload` has no more. -/
def onRxReceived : Endpoint :=
  if !e.radio.initialized then e
  else
    (e.mapTp fun tp => e.radio.rxFifo.foldl (takeRxPayload cfg) tp).mapRadio fun r =>
      { r with rxFifo := [] }

/-- The end of a side-trip's packet. -/
def endSyncTx (success : Bool) : Endpoint :=
  e.mapTp fun tp =>
    { tp with syncTxResultSuccess := success, syncTxInProgress := false, syncTxDone := true }

/-- `zmk_esb_transport_evt_cb` -/
def zmkEsbTransportEvtCb (evtId : EsbEvtId) (txAttempts : Nat) : Endpoint :=
  match evtId with
  | .txSuccess =>
    let e := e.mapTp fun tp => { tp with lastTxEventMs := stampOf e.now }
    if cfg.rendezvous && e.tp.syncTxInProgress then endSyncTx e true
    else onTxSuccess cfg e txAttempts
  | .txFailed =>
    let e := e.mapTp fun tp => { tp with lastTxEventMs := stampOf e.now }
    if cfg.rendezvous && e.tp.syncTxInProgress then esbFlushTxAndReset cfg (endSyncTx e false)
    else onTxFailed cfg e
  | .rxReceived => onRxReceived cfg e

/-- `esb_evt_irq_handler`: every event of one interrupt sees the attempts
read at its start. -/
def esbEvtIrqHandler (events : List EsbEvtId) : Endpoint :=
  events.foldl (fun e' evtId => zmkEsbTransportEvtCb cfg e' evtId e.radio.lastTxAttempts) e

/-- A transmission ends and its events are handled. Where none can end
this way, nothing happens. -/
def txDone (outcome : TxOutcome) : Endpoint :=
  match radioDone cfg e.radio outcome with
  | none => e
  | some (r, events) => esbEvtIrqHandler cfg (e.mapRadio fun _ => r) events

end EsbEndpoint
