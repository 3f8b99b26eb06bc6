import EsbEndpoint.Hop.Entry

/-!
# Sending

`esb_transport_send`, `esb_transport_flush_tx`, `esb_transport_set_channel`
and what they call in `src/esb/esb_transport.c`. A function that returns
an `int` returns the endpoint it leaves and the error, `none` for zero.
-/

namespace EsbEndpoint

variable (cfg : Config) (e : Endpoint)

/-! ## The radio's retransmit settings -/

/-- The generator's seed: the uptime and the address of the state. -/
def jitterSeed (now : UInt32) : UInt32 :=
  if now ^^^ cfg.jitterRngAddr == 0 then 0xA3C59B1D else now ^^^ cfg.jitterRngAddr

/-- `jittered_retransmit_delay`, with the generator's next state. -/
def jitteredRetransmitDelay (now jitterRng : UInt32) : Nat × UInt32 :=
  let rng := xorshift32 (if jitterRng == 0 then jitterSeed cfg now else jitterRng)
  let base := cfg.retransmitDelayUs
  let span := base / 8
  let off : Int := (rng &&& 0xFF).toUInt8.toInt8.toInt
  let d : Int := base + (span * off).tdiv 128
  let d := if d < 100 then 100 else d
  let d := if 65535 < d then 65535 else d
  (d.toNat, rng)

/-- `(void)esb_set_retransmit_delay(jittered_retransmit_delay())` -/
def jitterRetransmitDelay : Endpoint :=
  let (delay, rng) := jitteredRetransmitDelay cfg e.now e.tp.jitterRng
  (e.mapTp fun tp => { tp with jitterRng := rng }).mapRadio fun r =>
    (esbSetRetransmitDelay r delay).1

/-- `(void)esb_set_retransmit_count(count)` -/
def trySetRetransmitCount (count : Nat) : Endpoint :=
  e.mapRadio fun r => (esbSetRetransmitCount r count).1

/-- `restore_retransmit_count` -/
def restoreRetransmitCount : Endpoint :=
  trySetRetransmitCount e
    (if cfg.channelHop && cfg.adaptiveRetry then e.tp.adaptiveRetransmitCount
     else cfg.retransmitCount)

/-! ## Flushing -/

/-- `esb_flush_tx_and_reset` -/
def esbFlushTxAndReset : Endpoint :=
  let e := e.mapRadio esbFlushTx
  let e := e.mapTp fun tp =>
    { tp with
      recentNoack := if cfg.channelHop then tp.recentNoack.reset else tp.recentNoack
      recentCritical :=
        if cfg.criticalMaxRetransmit then tp.recentCritical.reset else tp.recentCritical }
  restoreRetransmitCount cfg (e.mapMotion Motion.flush)

/-- `esb_transport_flush_tx`, after its wait for a quiet radio. -/
def esbTransportFlushTx : Endpoint := esbFlushTxAndReset cfg e

/-- The statics `esb_transport_set_channel` resets once the radio has
moved. -/
def onNewChannel (now : UInt32) (channel : UInt8) (tp : Transport) : Transport :=
  let tp := { tp with channel, consecutiveTxFail := 0, peerRssiValid := false }
  if !cfg.channelHop then tp
  else
    { tp with
      firstFailMs := 0
      lastTxSuccessMs := 0
      linkQualityWindow := 0
      linkQualityCount := 0
      linkQualityEwmaX10 := 10
      linkDegradedArmed := if cfg.coopHop then false else tp.linkDegradedArmed
      motion := tp.motion.dropRefund
      txQuietUntilMs := stampOf (now + UInt32.ofNat cfg.channelHopPostQuietMs) }

/-- `esb_transport_set_channel` -/
def esbTransportSetChannel (channel : UInt8) : Endpoint × Option Errno :=
  if !e.tp.configured then (e, some .enodev)
  else
    let e := esbFlushTxAndReset cfg e
    match esbSetRfChannel cfg e.radio channel with
    | (_, some err) => (e, some err)
    | (r, none) => ((e.mapRadio fun _ => r).mapTp (onNewChannel cfg e.now channel), none)

/-! ## Sending -/

/-- A packet sent without asking for an ACK. -/
def sendNoack (pipe : Nat) (data : List UInt8) : Bool :=
  cfg.hidNoack && pipe == 1 && isHidReport esbReportMouse data

/-- `is_shell` -/
def isShell (data : List UInt8) : Bool :=
  isType esbPktShellData data || isType esbPktShellPoll data || isType esbPktShellStop data

/-- `is_user_traffic` -/
def isUserTraffic (data : List UInt8) : Bool :=
  isType esbPktHidReport data || isType esbPktShellData data || isType esbPktShellPoll data ||
    isType esbPktShellStart data || isType esbPktShellStop data

/-- `critical_override` -/
def isCritical (data : List UInt8) : Bool :=
  isType esbPktBeacon data || isType esbPktPairResp data || isType esbPktDisconnect data ||
    isType esbPktVerifyReq data || isType esbPktChannelHopProposal data ||
    isType esbPktHopOffer data || isType esbPktIdle data

/-- `note_activity` -/
def noteActivity : Endpoint :=
  e.mapTp fun tp => { tp with lastActivityMs := e.now, activitySeen := true }

/-- The index of the noack ring: `c & (LINK_QUALITY_NOACK_RING_SIZE - 1)`. -/
def noackSlot (c : BitVec 8) : Nat :=
  (c &&& BitVec.ofNat 8 (cfg.linkQualityNoackRingSize - 1)).toNat

/-- The index of the override ring: `c & (CRIT_OVERRIDE_RING_SIZE - 1)`. -/
def criticalSlot (c : BitVec 8) : Nat := (c &&& BitVec.ofNat 8 (cfg.critOverrideRingSize - 1)).toNat

/-- The send's entry in the noack ring. -/
def pushNoack (noack : Bool) : Endpoint :=
  if !cfg.channelHop then e
  else e.mapTp fun tp => { tp with recentNoack := tp.recentNoack.push (noackSlot cfg) noack }

/-- The rate counters of a HID report. -/
def countHidTx (now : UInt32) (tp : Transport) : Transport :=
  let tp :=
    { tp with hidTxCount := tp.hidTxCount + 1, hidTxBucketCount := tp.hidTxBucketCount + 1 }
  if tp.hidTxBucketMs == 0 then { tp with hidTxBucketMs := now }
  else if 1000 ≤ elapsed tp.hidTxBucketMs now then
    { tp with
      hidTxRateHz :=
        if 65535 < tp.hidTxBucketCount then 65535 else tp.hidTxBucketCount.toUInt16
      hidTxBucketCount := 0
      hidTxBucketMs := now }
  else tp

/-- The bookkeeping of a send between the noack ring and the critical
override. -/
def noteSend (data : List UInt8) : Endpoint :=
  let e := if isType esbPktShellBgPoll data then e else noteActivity e
  let e := if isType esbPktHidReport data then e.mapTp (countHidTx e.now) else e
  if cfg.channelHop && isUserTraffic data then e.mapHop (channelHopEpNoteUserTx cfg) else e

/-- The critical-packet override of a send. -/
def overrideCritical (data : List UInt8) : Endpoint :=
  if !cfg.criticalMaxRetransmit then e
  else
    let critical := isCritical data
    let e := e.mapTp fun tp =>
      { tp with recentCritical := tp.recentCritical.push (criticalSlot cfg) critical }
    if critical then trySetRetransmitCount e cfg.criticalRetransmitCount else e

/-- Hand a finished payload to the radio. -/
def writeOut (p : EsbPayload) : Endpoint × Option Errno :=
  let (r, err) := esbWritePayload cfg e.radio p
  (e.mapRadio fun _ => r, err)

/-- The pointer part of a send: refund, override and ring, then the
write. -/
def sendMotion (pipe : Nat) (noack : Bool) (data : List UInt8) : Endpoint × Option Errno :=
  if isMouseReport data then
    let (refund, body) := motionRefundApply cfg e.now e.motion.refund (mouseBodyOf data)
    let pointerOverride := !body.deltas.isZero && body.buttons == 0 && !noack
    let e := e.mapMotion fun m => { m with refund }
    let e := if pointerOverride then trySetRetransmitCount e cfg.pointerRetransmitCount else e
    let e := e.mapMotion (motionRingPush cfg (some body) pointerOverride)
    writeOut cfg e ⟨pipe, noack, putMouseBody body data⟩
  else
    writeOut cfg (e.mapMotion (motionRingPush cfg none false)) ⟨pipe, noack, data⟩

/-- A send from its first ring push on. -/
def sendQueued (pipe : Nat) (data : List UInt8) : Endpoint × Option Errno :=
  let noack := sendNoack cfg pipe data
  let e := pushNoack cfg e noack
  let e := noteSend cfg e data
  let e := overrideCritical cfg e data
  sendMotion cfg e pipe noack data

/-- Whether the post-hop quiet window is open. -/
def inQuietWindow : Bool := e.tp.txQuietUntilMs != 0 && after e.tp.txQuietUntilMs e.now

/-- The quiet window is over. -/
def endQuietWindow : Endpoint :=
  if cfg.channelHop then e.mapTp fun tp => { tp with txQuietUntilMs := 0 } else e

/-- The call goes into the history. -/
def noteHanded (pipe : Nat) (data : List UInt8) : Endpoint :=
  { e with handed := e.handed ++ [(pipe, data)] }

/-- `esb_transport_send` -/
def esbTransportSend (pipe : Nat) (data : List UInt8) : Endpoint × Option Errno :=
  let e := noteHanded e pipe data
  if cfg.esbMaxPayloadLength < data.length then (e, some .emsgsize)
  else if cfg.rendezvous && e.tp.syncTxInProgress then (e, none)
  else
    let e := jitterRetransmitDelay cfg e
    if cfg.channelHop && inQuietWindow e then (e, none)
    else
      let e := endQuietWindow cfg e
      if esbTxFull cfg e.radio then
        if isShell data then (e, some .enomem)
        else sendQueued cfg (esbFlushTxAndReset cfg e) pipe data
      else sendQueued cfg e pipe data

/-- `esb_transport_is_quiet` -/
def esbTransportIsQuiet : Bool :=
  (cfg.rendezvous && e.tp.syncTxInProgress) || (cfg.channelHop && inQuietWindow e)

/-- `esb_transport_pointer_backpressure` -/
def esbTransportPointerBackpressure : Bool :=
  cfg.pointerInflightCap ≤ e.motion.pointerInflightCount

/-- `esb_transport_ms_since_activity` -/
def esbTransportMsSinceActivity : Nat :=
  if e.tp.activitySeen then elapsed e.tp.lastActivityMs e.now else 4294967295

end EsbEndpoint
