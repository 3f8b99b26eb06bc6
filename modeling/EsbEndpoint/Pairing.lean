import EsbEndpoint.Shell.Relay

/-!
# The pairing machine

`src/esb/pairing.c`, with `esb_transport_on_rx_link_stats`, which it
dispatches to. `pairing_on_rx` reads packets out of the transport's
receive buffer, so it is given the whole buffer and a length, and what a
handler reads behind the length is what the buffer holds there.
-/

namespace EsbEndpoint

variable (cfg : Config) (e : Endpoint)

/-! ## Records and packets -/

/-- `save_paired` -/
def savePaired (paired : Bool) (p : Pairing) : Pairing :=
  { p with
    saved := some ⟨paired, if paired then p.peerDeviceId else List.replicate 6 0⟩ }

/-- `settings_load_cb` -/
def settingsLoadCb (rec : PairedRec) (p : Pairing) : Pairing :=
  { p with hasStoredPeer := rec.paired, peerDeviceId := rec.deviceId }

/-- `send_beacon` -/
def sendBeacon : Endpoint :=
  (esbTransportSend cfg e esbPipePairing
    (esbPktBeacon :: e.pairing.deviceId ++ [esbCapAll])).1

/-- `send_pair_resp` -/
def sendPairResp : Endpoint :=
  (esbTransportSend cfg e esbPipeData (esbPktPairResp :: e.pairing.deviceId ++ [esbCapAll])).1

/-- The device id of a `PAIR_REQ` or a `VERIFY_RESP`. -/
def deviceIdOf (buf : List UInt8) : List UInt8 := (buf.drop 1).take 6

/-! ## Work items -/

/-- `beacon_work_fn` -/
def beaconWorkFn : Endpoint :=
  if e.pairing.state != .unpaired then e
  else (sendBeacon cfg e).mapPairing fun p => { p with beaconWork := some cfg.beaconIntervalMs }

/-- `verify_work_fn` -/
def verifyWorkFn : Endpoint :=
  if e.pairing.state != .verifying then e
  else
    (esbTransportSend cfg e esbPipeData (esbPktVerifyReq :: e.pairing.deviceId)).1.mapPairing
      fun p => { p with verifyWork := some cfg.verifyIntervalMs }

/-! ## Entry points -/

/-- `pairing_init` -/
def pairingInit : Endpoint :=
  e.mapPairing fun p =>
    match p.saved with
    | none => p
    | some rec => settingsLoadCb rec p

/-- `pairing_start` -/
def pairingStart : Endpoint :=
  e.mapPairing fun p =>
    if p.hasStoredPeer then { p with state := .verifying, verifyWork := some 0 }
    else { p with state := .unpaired, beaconWork := some cfg.beaconInitialDelayMs }

/-- The relay and the hop manager are told of a connection. -/
def notifyConnected : Endpoint :=
  let e := if cfg.shellRelay then e.mapShell (esbShellRelayOnConnected cfg) else e
  e.mapHop (channelHopEpOnConnected cfg)

/-- The relay and the hop manager are told of its end. -/
def notifyDisconnected : Endpoint :=
  let e := if cfg.shellRelay then e.mapShell (esbShellRelayOnDisconnected cfg) else e
  e.mapHop (channelHopEpOnDisconnected cfg)

/-- `pairing_stop` -/
def pairingStop : Endpoint :=
  notifyDisconnected cfg
    (e.mapPairing fun p => { p with state := .idle, beaconWork := none, verifyWork := none })

/-- `m_has_stored_peer = false`, the peer's id cleared and saved. -/
def forgetPeer (p : Pairing) : Pairing :=
  savePaired false { p with hasStoredPeer := false, peerDeviceId := List.replicate 6 0 }

/-- `pairing_unpair` -/
def pairingUnpair : Endpoint :=
  e.mapPairing fun p =>
    let p := { forgetPeer p with verifyWork := none }
    if p.state != .idle then
      { p with state := .unpaired, beaconWork := some cfg.beaconInitialDelayMs }
    else p

/-! ## Packets -/

/-- `ESB_PKT_PAIR_REQ` -/
def onPairReq (buf : List UInt8) (len : Nat) : Endpoint :=
  if e.pairing.state == .unpaired && 7 ≤ len then
    let e := e.mapPairing fun p => { p with peerDeviceId := deviceIdOf buf, beaconWork := none }
    let e := sendPairResp cfg e
    let e := e.mapPairing fun p =>
      savePaired true { p with hasStoredPeer := true, state := .connected }
    notifyConnected cfg e
  else e

/-- `ESB_PKT_VERIFY_RESP` -/
def onVerifyResp (buf : List UInt8) (len : Nat) : Endpoint :=
  if e.pairing.state == .verifying && 7 ≤ len then
    if deviceIdOf buf == e.pairing.peerDeviceId then
      notifyConnected cfg (e.mapPairing fun p => { p with verifyWork := none, state := .connected })
    else e
  else e

/-- `ESB_PKT_DISCONNECT` -/
def onDisconnect : Endpoint :=
  notifyDisconnected cfg
    (e.mapPairing fun p =>
      { forgetPeer { p with state := .unpaired } with
        verifyWork := none
        beaconWork := some cfg.beaconInitialDelayMs })

/-- `ESB_PKT_RESYNC` -/
def onResync : Endpoint :=
  if e.pairing.state == .connected then
    notifyDisconnected cfg
      (e.mapPairing fun p => { p with state := .verifying, verifyWork := some 0 })
  else e

/-- `esb_transport_on_rx_link_stats` -/
def esbTransportOnRxLinkStats (buf : List UInt8) (len : Nat) : Endpoint :=
  if len < 3 then e
  else
    e.mapTp fun tp =>
      { tp with
        peerRssiLast := (buf.getD 1 0).toInt8
        peerRssiEwma := (buf.getD 2 0).toInt8
        peerRssiValid := true }

/-- `ESB_PKT_SHELL_DATA`: its own length byte says how much of the buffer
is handed on. -/
def onShellData (buf : List UInt8) (len : Nat) : Endpoint :=
  if 2 ≤ len then
    let n := (buf.getD 1 0).toNat
    if 0 < n ∧ n ≤ cfg.esbPktDataMax then esbShellRelayOnData cfg e ((buf.drop 2).take n) else e
  else e

/-- `pairing_on_rx` -/
def pairingOnRx (buf : List UInt8) (len : Nat) : Endpoint :=
  if len < 1 then e
  else
    match buf.getD 0 0 with
    | esbPktPairReq => onPairReq cfg e buf len
    | esbPktVerifyResp => onVerifyResp cfg e buf len
    | esbPktDisconnect => onDisconnect cfg e
    | esbPktResync => onResync cfg e
    | esbPktChannelHopConfirm | esbPktHopAccept =>
      if cfg.channelHop then e.mapHop fun h => channelHopEpOnRx cfg h buf len else e
    | esbPktChannelHopRequest =>
      if cfg.channelHop then e.mapHop (channelHopEpOnRequest cfg e.now) else e
    | esbPktLinkStats => esbTransportOnRxLinkStats e buf len
    | esbPktShellReq => if cfg.shellRelay then e.mapShell (esbShellRelayOnReq cfg) else e
    | esbPktShellData => if cfg.shellRelay then onShellData cfg e buf len else e
    | _ => e

end EsbEndpoint
