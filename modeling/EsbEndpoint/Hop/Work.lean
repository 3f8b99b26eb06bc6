import EsbEndpoint.Transport.Events

/-!
# The hop manager's work items

The functions of `src/esb/channel_hop_ep.c` that send or change the
channel, and the blocking side-trip of `src/esb/esb_transport.c` they use.
A side-trip waits for its radio event, so it is two steps here: up to the
wait, and after it.
-/

namespace EsbEndpoint

variable (cfg : Config) (e : Endpoint)

/-! ## The side-trip -/

/-- `(void)esb_set_rf_channel(m_addr.channel)` -/
def restoreRfChannel : Endpoint :=
  e.mapRadio fun r => (esbSetRfChannel cfg r e.tp.channel).1

/-- `esb_transport_send_blocking` up to its wait. With no error the call
is waiting. -/
def sendBlockingBegin (channel : UInt8) (pipe : Nat) (data : List UInt8) :
    Endpoint × Option Errno :=
  if cfg.esbMaxPayloadLength < data.length then (e, some .emsgsize)
  else if !e.tp.configured then (e, some .enodev)
  else if e.tp.syncTxInProgress then (e, some .ebusy)
  else
    let e := esbFlushTxAndReset cfg e
    match esbSetRfChannel cfg e.radio channel with
    | (_, some err) => (e, some err)
    | (r, none) =>
      let e := (e.mapRadio fun _ => r).mapTp fun tp =>
        { tp with syncTxDone := false, syncTxResultSuccess := false, syncTxInProgress := true }
      match esbWritePayload cfg e.radio ⟨pipe, false, data⟩ with
      | (_, some err) =>
        (restoreRfChannel cfg (e.mapTp fun tp => { tp with syncTxInProgress := false }), some err)
      | (r, none) => (e.mapRadio fun _ => r, none)

/-- `esb_transport_send_blocking` after its wait, which timed out unless
the event handler has given the semaphore. -/
def sendBlockingEnd : Endpoint × Option Errno :=
  let timedOut := !e.tp.syncTxDone
  let e := restoreRfChannel cfg e
  if timedOut then
    (e.mapTp fun tp => { tp with syncTxInProgress := false }, some .etimedout)
  else (e, if e.tp.syncTxResultSuccess then none else some .eio)

/-! ## Proposals -/

/-- `pick_candidate`, which draws from the generator. -/
def pickCandidate : Endpoint × UInt8 :=
  let (c, prng) := channelHopPick e.hop.quarantine e.now e.cycle e.hop.prngState
    cfg.channelQuarantineMinDistance e.tp.channel
  (e.mapHop fun h => { h with prngState := prng }, c)

/-- A channel the manager may use: set, not the current one, and not
quarantined. -/
def usableNext (c : UInt8) : Bool :=
  c != channelHopInvalid && c != e.tp.channel && !quarantineIs e.hop.quarantine e.now c

/-- `select_pending_candidate` -/
def selectPendingCandidate : Endpoint × UInt8 :=
  if usableNext e e.hop.pendingCandidate then (e, e.hop.pendingCandidate)
  else
    let (e, c) := pickCandidate cfg e
    (e.mapHop fun h => { h with pendingCandidate := c }, c)

/-- `send_proposal` -/
def sendProposal (candidate : UInt8) : Endpoint :=
  (esbTransportSend cfg e esbPipeData [esbPktChannelHopProposal, candidate, e.tp.channel]).1

/-- `negotiate_work_fn` -/
def negotiateWorkFn : Endpoint :=
  if !e.hop.linkUp then e
  else if !e.hop.active then
    e.mapHop fun h => { h with negotiateWork := some cfg.channelHopNegotiateIntervalMs }
  else
    let needsCommit := !usableNext e e.hop.committedNext
    let e :=
      if needsCommit then
        let (e, c) := pickCandidate cfg (e.mapHop fun h => { h with committedSynced := false })
        if c != channelHopInvalid then sendProposal cfg e c else e
      else if !e.hop.committedSynced then sendProposal cfg e e.hop.committedNext
      else e
    let burst := 0 < e.hop.requestBurstRemaining
    e.mapHop fun h =>
      { h with
        requestBurstRemaining :=
          if burst then h.requestBurstRemaining - 1 else h.requestBurstRemaining
        negotiateWork :=
          if needsCommit || burst then some cfg.channelHopNegotiateRetryMs
          else some cfg.channelHopNegotiateIntervalMs }

/-! ## Going idle -/

/-- `send_idle_packet`: everything queued is dropped first. -/
def sendIdlePacket : Endpoint :=
  (esbTransportSend cfg (esbTransportFlushTx cfg e) esbPipeData [esbPktIdle]).1

/-- `enter_idle_state` up to its packet. -/
def enterIdleBegin (h : HopEp) : HopEp :=
  let h := { h with active := false, negotiateWork := none, idleCheckWork := none }
  if cfg.coopHop then coopHopAbort h else h

/-- `enter_idle_state` -/
def enterIdleState : Endpoint :=
  if !e.hop.active then e else sendIdlePacket cfg (e.mapHop (enterIdleBegin cfg))

/-- `idle_check_work_fn` -/
def idleCheckWorkFn : Endpoint :=
  if !e.hop.linkUp || !e.hop.active then e else enterIdleState cfg e

/-! ## The post-hop burst -/

/-- The end of `post_hop_burst_work_fn`, from its decrement on. -/
def postHopBurstTail : Endpoint :=
  let e := e.mapHop fun h => { h with postHopBurstRemaining := h.postHopBurstRemaining - 1 }
  if 0 < e.hop.postHopBurstRemaining then
    e.mapHop fun h => { h with postHopBurstWork := some cfg.channelHopPostBurstIntervalMs }
  else
    let e := e.mapHop fun h => { h with pendingCandidate := channelHopInvalid }
    if !e.hop.active then sendIdlePacket cfg e else e

/-- `send_on_rendezvous` -/
def sendOnRendezvous : Bool :=
  let every := cfg.channelHopPostBurstRendezvousEvery
  let tickIndex := (UInt8.ofNat cfg.channelHopPostBurstCount - e.hop.postHopBurstRemaining).toNat
  0 < every && 0 < tickIndex && tickIndex % every == 0 && e.tp.bootChannel != e.tp.channel

/-- The candidate of a tick: what a `CONFIRM` has settled, or the one this
burst keeps to. -/
def burstCandidate : Endpoint × UInt8 :=
  if usableNext e e.hop.committedNext then (e, e.hop.committedNext)
  else selectPendingCandidate cfg e

/-- The sends of a tick, up to the wait of its side-trip, and whether it
is waiting. -/
def postHopBurstTick (candidate : UInt8) : Endpoint × Bool :=
  if cfg.rendezvous && sendOnRendezvous cfg e then
    match sendBlockingBegin cfg e e.tp.bootChannel esbPipeData
        [esbPktChannelHopProposal, e.tp.channel, e.tp.channel] with
    | (e, none) => (e, true)
    | (e, some _) => (postHopBurstTail cfg e, false)
  else if candidate != channelHopInvalid && !e.hop.committedSynced then
    (postHopBurstTail cfg (sendProposal cfg e candidate), false)
  else (postHopBurstTail cfg e, false)

/-- `post_hop_burst_work_fn` up to the wait of its side-trip, and whether
it is waiting. -/
def postHopBurstWorkFn : Endpoint × Bool :=
  if e.hop.postHopBurstRemaining == 0 then (e, false)
  else postHopBurstTick cfg (burstCandidate cfg e).1 (burstCandidate cfg e).2

/-- `post_hop_burst_work_fn` after the wait of its side-trip. -/
def postHopBurstResume : Endpoint := postHopBurstTail cfg (sendBlockingEnd cfg e).1

/-- `start_post_hop_burst` -/
def startPostHopBurst (h : HopEp) : HopEp :=
  if cfg.channelHopPostBurstCount = 0 then h
  else
    { h with
      postHopBurstRemaining := UInt8.ofNat cfg.channelHopPostBurstCount
      pendingCandidate := channelHopInvalid
      postHopBurstWork := some cfg.channelHopPostQuietMs }

/-! ## Hopping -/

/-- What every committed hop does after its quarantine. -/
def commitHop (now : UInt32) (h : HopEp) : HopEp :=
  let h :=
    { h with
      committedNext := channelHopInvalid
      committedSynced := false
      hopCooldownUntil := now + UInt32.ofNat cfg.channelHopCooldownMs
      lastLinkEventMs := stampOf now }
  { startPostHopBurst cfg h with negotiateWork := some cfg.channelHopNegotiateRetryMs }

/-- `commit_hop_bookkeeping` -/
def commitHopBookkeeping (now : UInt32) (prev : UInt8) (quarantineMs : Nat) (h : HopEp) : HopEp :=
  commitHop cfg now
    { h with quarantine := quarantineAdd h.quarantine now prev (UInt32.ofNat quarantineMs) }

/-- The kinds of hop `hop_work_fn` tells apart. -/
inductive HopKind
  | fallback
  | revert
  | normal
  deriving DecidableEq

/-- The target of `hop_work_fn`, or `none` where it returns without
hopping. -/
def hopTarget (kind : HopKind) : Endpoint × Option UInt8 :=
  match kind with
  | .fallback => (e, if e.tp.bootChannel = e.tp.channel then none else some e.tp.bootChannel)
  | .revert => (e, some e.hop.prevChannel)
  | .normal =>
    if e.hop.committedNext != channelHopInvalid && e.hop.committedNext != e.tp.channel then
      (e, some e.hop.committedNext)
    else
      let (e, c) := pickCandidate cfg e
      if c == channelHopInvalid then
        (e.mapTp fun tp => { tp with consecutiveTxFail := 0 }, none)
      else (e, some c)

/-- The bookkeeping of a hop of this kind away from `current`. -/
def onHopped (now : UInt32) (kind : HopKind) (current target : UInt8) (h : HopEp) : HopEp :=
  match kind with
  | .fallback =>
    commitHop cfg now
      { h with quarantine := setExpiry h.quarantine target 0, prevChannel := channelHopInvalid }
  | .revert =>
    commitHopBookkeeping cfg now current cfg.channelQuarantineMs
      { h with quarantine := setExpiry h.quarantine target 0, prevChannel := channelHopInvalid }
  | .normal =>
    commitHopBookkeeping cfg now current cfg.channelQuarantineMs { h with prevChannel := current }

/-- `hop_work_fn` from its change of the channel on. -/
def hopTo (kind : HopKind) (target : UInt8) : Endpoint :=
  let current := e.tp.channel
  match esbTransportSetChannel cfg e target with
  | (e, some _) =>
    (e.mapTp fun tp => { tp with consecutiveTxFail := 0 }).mapHop fun h =>
      { h with hopRetryWork := some cfg.hopRetryDelayMs }
  | (e, none) => e.mapHop (onHopped cfg e.now kind current target)

/-- The kind of hop the statics ask for. -/
def hopKind : HopKind :=
  if cfg.rendezvous && e.hop.rendezvousFallbackPending then .fallback
  else if e.hop.prevChannel != channelHopInvalid && e.hop.prevChannel != e.tp.channel then .revert
  else .normal

/-- `hop_work_fn` -/
def hopWorkFn : Endpoint :=
  let kind := hopKind cfg e
  let e :=
    if kind = .fallback then e.mapHop fun h => { h with rendezvousFallbackPending := false } else e
  match hopTarget cfg e kind with
  | (e, none) => e
  | (e, some target) => hopTo cfg e kind target

/-- `hop_retry_work_fn` -/
def hopRetryWorkFn : Endpoint := e.mapHop fun h => { h with hopWork := true }

/-! ## The cooperative hop -/

/-- `coop_hop_pick_target` -/
def coopHopPickTarget : Endpoint × UInt8 :=
  if usableNext e e.hop.committedNext then (e, e.hop.committedNext) else pickCandidate cfg e

/-- `coop_hop_offer_work_fn` up to its send, and the `HOP_OFFER` it is
about to send. -/
def coopHopOfferBegin : Endpoint × Option (List UInt8) :=
  if !e.hop.linkUp || !e.hop.active then
    (e.mapHop fun h => { h with coopHopState := .idle }, none)
  else if e.hop.coopHopState != .offered then (e, none)
  else
    let (e, target) := coopHopPickTarget cfg e
    if target == channelHopInvalid || target == e.tp.channel then
      (e.mapHop fun h => { h with coopHopState := .idle }, none)
    else
      let e := e.mapHop fun h =>
        { h with coopHopTarget := target, coopHopSeq := h.coopHopSeq + 1, lastTxWasOffer := true }
      (e, some [esbPktHopOffer, target, UInt8.ofNat cfg.coopHopHopInMs, e.hop.coopHopSeq])

/-- The send of `coop_hop_offer_work_fn`. -/
def coopHopOfferSend (pkt : List UInt8) : Endpoint :=
  match esbTransportSend cfg e esbPipeData pkt with
  | (e, none) => e
  | (e, some _) => e.mapHop fun h => { h with lastTxWasOffer := false, coopHopState := .idle }

/-- `coop_hop_offer_work_fn` -/
def coopHopOfferWorkFn : Endpoint :=
  match coopHopOfferBegin cfg e with
  | (e, none) => e
  | (e, some pkt) => coopHopOfferSend cfg e pkt

/-- `coop_hop_commit_work_fn` -/
def coopHopCommitWorkFn : Endpoint :=
  if e.hop.coopHopState != .armed then e
  else
    let current := e.tp.channel
    let target := e.hop.coopHopTarget
    if target == channelHopInvalid || target == current then
      e.mapHop fun h => { h with coopHopState := .idle }
    else
      match esbTransportSetChannel cfg e target with
      | (e, some _) =>
        e.mapHop fun h =>
          { h with coopHopState := .idle, hopRetryWork := some cfg.hopRetryDelayMs }
      | (e, none) =>
        e.mapHop fun h =>
          { commitHopBookkeeping cfg e.now current cfg.coopHopQuarantineMs
              { h with prevChannel := channelHopInvalid } with
            coopHopCooldownUntil := e.now + UInt32.ofNat cfg.coopHopCooldownMs
            coopHopState := .idle }

end EsbEndpoint
