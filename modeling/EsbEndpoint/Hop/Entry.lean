import EsbEndpoint.State

/-!
# The hop manager's entry points

The functions of `src/esb/channel_hop_ep.c` that the transport and the
pairing machine call. None of them sends: they move the manager's statics
and schedule its work items, so each is a function of those statics and
the uptime.
-/

namespace EsbEndpoint

variable (cfg : Config) (now : UInt32) (h : HopEp)

def hopCooldownActive : Bool :=
  if h.hopCooldownUntil == 0 then false else after h.hopCooldownUntil now

def coopHopCooldownActive : Bool :=
  if h.coopHopCooldownUntil == 0 then false else after h.coopHopCooldownUntil now

/-- `coop_hop_abort` -/
def coopHopAbort : HopEp :=
  { h with
    coopHopOfferWork := none
    coopHopCommitWork := none
    coopHopState := .idle
    lastTxWasOffer := false }

/-- `enter_active_state` -/
def enterActiveState (sendInitialProposal : Bool) : HopEp :=
  let h := { h with idleCheckWork := some cfg.idleThresholdMs }
  if h.active then h
  else
    { h with
      active := true
      negotiateWork :=
        if sendInitialProposal then some 0 else some cfg.channelHopNegotiateRetryMs }

/-- `channel_hop_ep_on_link_degraded_isr` -/
def channelHopEpOnLinkDegradedIsr : HopEp :=
  if !cfg.coopHop then h
  else if !h.linkUp || !h.active then h
  else if h.coopHopState != .idle then h
  else if hopCooldownActive now h || coopHopCooldownActive now h then h
  else { h with coopHopState := .offered, coopHopOfferWork := some 0 }

/-- `channel_hop_ep_on_connected` -/
def channelHopEpOnConnected : HopEp :=
  if !cfg.channelHop then h else enterActiveState cfg { h with linkUp := true } true

/-- `channel_hop_ep_on_disconnected` -/
def channelHopEpOnDisconnected : HopEp :=
  if !cfg.channelHop then h
  else
    let h :=
      { h with
        linkUp := false
        active := false
        committedNext := channelHopInvalid
        committedSynced := false
        prevChannel := channelHopInvalid
        postHopBurstRemaining := 0
        hopCooldownUntil := 0
        lastLinkEventMs := 0
        rendezvousFallbackPending := if cfg.rendezvous then false else h.rendezvousFallbackPending
        requestBurstRemaining := 0
        coopHopCooldownUntil := if cfg.coopHop then 0 else h.coopHopCooldownUntil
        negotiateWork := none
        idleCheckWork := none
        postHopBurstWork := none
        hopRetryWork := none }
    if cfg.coopHop then coopHopAbort h else h

/-- `channel_hop_ep_note_user_tx` -/
def channelHopEpNoteUserTx : HopEp :=
  if !cfg.channelHop then h else if !h.linkUp then h else enterActiveState cfg h false

/-- The cooperative part of `channel_hop_ep_on_tx_fail_isr`, and whether
it swallows the failure. -/
def onOfferFailed : HopEp × Bool :=
  if cfg.coopHop && h.lastTxWasOffer then
    let h := { h with lastTxWasOffer := false }
    if h.coopHopState == .offered then ({ h with coopHopState := .idle }, true) else (h, false)
  else (h, false)

/-- `channel_hop_ep_on_tx_fail_isr` -/
def channelHopEpOnTxFailIsr : HopEp :=
  if !cfg.channelHop then h
  else
    let (h, swallowed) := onOfferFailed cfg h
    if swallowed then h
    else if !h.active then h
    else if hopCooldownActive now h then
      if cfg.rendezvous && 0 < cfg.channelHopRendezvousFallbackMs && h.lastLinkEventMs != 0 &&
          !h.rendezvousFallbackPending &&
          cfg.channelHopRendezvousFallbackMs ≤ elapsed h.lastLinkEventMs now then
        { h with rendezvousFallbackPending := true, hopWork := true }
      else h
    else { h with hopWork := true }

/-- The cooperative part of `channel_hop_ep_on_tx_success_isr`. -/
def onOfferAcked : HopEp :=
  if cfg.coopHop && h.lastTxWasOffer then
    let h := { h with lastTxWasOffer := false }
    if h.coopHopState == .offered then
      { h with coopHopState := .armed, coopHopCommitWork := some cfg.coopHopHopInMs }
    else h
  else h

/-- `channel_hop_ep_on_tx_success_isr` -/
def channelHopEpOnTxSuccessIsr : HopEp :=
  if !cfg.channelHop then h
  else
    { onOfferAcked cfg h with
      prevChannel := channelHopInvalid
      lastLinkEventMs := stampOf now }

/-- The `HOP_ACCEPT` branch of `channel_hop_ep_on_rx`. -/
def onHopAccept (data : List UInt8) (len : Nat) : HopEp :=
  if len < 4 then h
  else if data.getD 3 0 != h.coopHopSeq then h
  else if h.coopHopState != .offered && h.coopHopState != .armed then h
  else if channelHopChannelCount ≤ (data.getD 1 0).toNat then h
  else { h with coopHopTarget := data.getD 1 0 }

/-- `channel_hop_ep_on_rx`, over the whole receive buffer and the length
of the packet in it. -/
def channelHopEpOnRx (data : List UInt8) (len : Nat) : HopEp :=
  if !cfg.channelHop then h
  else if len < 1 then h
  else if cfg.coopHop && data.getD 0 0 == esbPktHopAccept then onHopAccept h data len
  else if len < 3 then h
  else if data.getD 0 0 != esbPktChannelHopConfirm then h
  else if channelHopChannelCount ≤ (data.getD 1 0).toNat then h
  else
    let wasMissing := h.committedNext == channelHopInvalid
    { h with
      committedNext := data.getD 1 0
      committedSynced := true
      requestBurstRemaining := 0
      negotiateWork :=
        if wasMissing && h.linkUp && h.active then some cfg.channelHopNegotiateIntervalMs
        else h.negotiateWork }

/-- `channel_hop_ep_on_request` -/
def channelHopEpOnRequest : HopEp :=
  if !cfg.channelHop then h
  else if !h.linkUp then h
  else
    channelHopEpOnTxFailIsr cfg now
      { h with
        requestBurstRemaining := UInt8.ofNat cfg.channelHopRequestBurstCount
        committedSynced := false
        negotiateWork := some 0 }

end EsbEndpoint
