import EsbEndpoint.Hop.Quarantine
import EsbEndpoint.Transport.Motion
import EsbEndpoint.Vendor.Esb

/-!
# The endpoint's state

The file-scope variables of the modelled sources, one structure for each
file, and the endpoint as all of them together with the radio and the
clock. A delayable work item is the delay it was last scheduled with, a
plain one whether it is queued.
-/

namespace EsbEndpoint

/-- A `k_work_delayable`: not scheduled, or scheduled this many
milliseconds ahead. -/
abbrev Delayable := Option Nat

/-- The statics of `src/esb/esb_transport.c`. -/
structure Transport where
  -- `m_addr`
  channel : UInt8 := 0
  bootChannel : UInt8 := 0
  configured : Bool := false
  -- the blocking side-trip
  syncTxDone : Bool := false
  syncTxInProgress : Bool := false
  syncTxResultSuccess : Bool := false
  -- the receive hand-over
  rxWork : Bool := false
  rxBuf : List UInt8
  rxLen : Nat := 0
  -- counters
  txOkCount : UInt32 := 0
  txFailCount : UInt32 := 0
  txRetriedCount : UInt32 := 0
  txExhaustedCount : UInt32 := 0
  consecutiveTxFail : UInt32 := 0
  hidTxCount : UInt32 := 0
  hidTxBucketCount : UInt32 := 0
  hidTxBucketMs : UInt32 := 0
  hidTxRateHz : UInt16 := 0
  -- the per-send rings
  recentCritical : Ring 8 Bool := Ring.empty false
  recentNoack : Ring 8 Bool := Ring.empty false
  motion : Motion := Motion.boot
  -- adaptive retry
  adaptiveRetransmitCount : Nat
  adaptiveRetryWork : Delayable := none
  -- hop triggers
  firstFailMs : UInt32 := 0
  lastTxSuccessMs : UInt32 := 0
  txQuietUntilMs : UInt32 := 0
  -- link quality
  linkQualityWindow : UInt32 := 0
  linkQualityCount : UInt8 := 0
  linkQualityEwmaX10 : UInt16 := 0
  linkDegradedArmed : Bool := false
  -- activity
  lastActivityMs : UInt32 := 0
  activitySeen : Bool := false
  lastTxEventMs : UInt32 := 0
  jitterRng : UInt32 := 0
  -- the peer's view of the link
  peerRssiLast : Int8 := 0
  peerRssiEwma : Int8 := 0
  peerRssiValid : Bool := false

/-- `enum coop_hop_state` -/
inductive CoopHopState
  | idle
  | offered
  | armed
  deriving DecidableEq

/-- The statics of `src/esb/channel_hop_ep.c`, and the generator state of
`src/esb/channel_hop.c`. -/
structure HopEp where
  quarantine : QuarantineState := quarantineReset
  prngState : UInt32 := 0
  committedNext : UInt8 := channelHopInvalid
  linkUp : Bool := false
  committedSynced : Bool := false
  prevChannel : UInt8 := channelHopInvalid
  active : Bool := false
  negotiateWork : Delayable := none
  idleCheckWork : Delayable := none
  postHopBurstWork : Delayable := none
  hopRetryWork : Delayable := none
  hopWork : Bool := false
  postHopBurstRemaining : UInt8 := 0
  pendingCandidate : UInt8 := channelHopInvalid
  requestBurstRemaining : UInt8 := 0
  hopCooldownUntil : UInt32 := 0
  lastLinkEventMs : UInt32 := 0
  rendezvousFallbackPending : Bool := false
  -- the cooperative handshake
  coopHopState : CoopHopState := .idle
  coopHopTarget : UInt8 := channelHopInvalid
  coopHopSeq : UInt8 := 0
  lastTxWasOffer : Bool := false
  coopHopCooldownUntil : UInt32 := 0
  coopHopOfferWork : Delayable := none
  coopHopCommitWork : Delayable := none

/-- `pairing_state_t` -/
inductive PairingState
  | idle
  | unpaired
  | pairing
  | verifying
  | connected
  deriving DecidableEq

/-- `struct esb_ep_paired_rec` -/
structure PairedRec where
  paired : Bool
  deviceId : List UInt8
  deriving DecidableEq

/-- The statics of `src/esb/pairing.c`, and the record in the settings
store. -/
structure Pairing where
  state : PairingState := .idle
  deviceId : List UInt8
  peerDeviceId : List UInt8 := List.replicate 6 0
  hasStoredPeer : Bool := false
  beaconWork : Delayable := none
  verifyWork : Delayable := none
  saved : Option PairedRec := none

/-- The statics of `src/shell/shell_relay.c`. `submissions` and `overrun`
are history: what `cmd_buf` held each time `shell_exec_work` was submitted,
and whether a byte was ever stored outside it. -/
structure ShellRelay where
  shellActive : Bool := false
  cmdBuf : List UInt8
  cmdLen : Nat := 0
  outRb : List UInt8 := []
  atLineStart : Bool := true
  stdoutBuf : List UInt8 := []
  lastNudgeMs : Nat := 0
  shellExecWork : Bool := false
  outDrainWork : Bool := false
  shellPollWork : Delayable := none
  inactivityWork : Delayable := none
  stdoutFlushWork : Delayable := none
  bgPollWork : Delayable := none
  submissions : List (List UInt8) := []
  overrun : Bool := false

/-- How often `shell_exec_work` was submitted. -/
def ShellRelay.execSubmissions (sh : ShellRelay) : Nat := sh.submissions.length

/-- The endpoint. `uptime` is the true time in milliseconds, of which
`k_uptime_get_32` shows the low word; `cycle` is `k_cycle_get_32`. `handed`
is history: the pipe and packet of every call of `esb_transport_send`, oldest
first, which no function reads. -/
structure Endpoint where
  uptime : Nat := 0
  cycle : UInt32 := 0
  radio : Radio := {}
  tp : Transport
  hop : HopEp := {}
  pairing : Pairing
  shell : ShellRelay
  handed : List (Nat × List UInt8) := []

namespace Endpoint

variable (e : Endpoint)

/-- `k_uptime_get_32` -/
def now : UInt32 := UInt32.ofNat e.uptime

/-- `pairing_is_connected` -/
def pairingIsConnected : Bool := e.pairing.state == .connected

/-- The motion statics. -/
def motion : Motion := e.tp.motion

/-- A change of the radio alone. -/
def mapRadio (f : Radio → Radio) : Endpoint := { e with radio := f e.radio }

/-- A change of the transport's statics alone. -/
def mapTp (f : Transport → Transport) : Endpoint := { e with tp := f e.tp }

/-- A change of the motion statics alone. -/
def mapMotion (f : Motion → Motion) : Endpoint :=
  e.mapTp fun tp => { tp with motion := f tp.motion }

/-- A change of the hop manager's statics alone. -/
def mapHop (f : HopEp → HopEp) : Endpoint := { e with hop := f e.hop }

/-- A change of the pairing statics alone. -/
def mapPairing (f : Pairing → Pairing) : Endpoint := { e with pairing := f e.pairing }

/-- A change of the shell relay's statics alone. -/
def mapShell (f : ShellRelay → ShellRelay) : Endpoint := { e with shell := f e.shell }

section Projections

variable (f : Radio → Radio) (g : Transport → Transport) (m : Motion → Motion)
  (h : HopEp → HopEp) (p : Pairing → Pairing) (s : ShellRelay → ShellRelay)

@[simp] theorem mapRadio_radio : (e.mapRadio f).radio = f e.radio := rfl
@[simp] theorem mapRadio_tp : (e.mapRadio f).tp = e.tp := rfl
@[simp] theorem mapRadio_hop : (e.mapRadio f).hop = e.hop := rfl
@[simp] theorem mapRadio_pairing : (e.mapRadio f).pairing = e.pairing := rfl
@[simp] theorem mapRadio_shell : (e.mapRadio f).shell = e.shell := rfl
@[simp] theorem mapRadio_now : (e.mapRadio f).now = e.now := rfl
@[simp] theorem mapTp_radio : (e.mapTp g).radio = e.radio := rfl
@[simp] theorem mapTp_tp : (e.mapTp g).tp = g e.tp := rfl
@[simp] theorem mapTp_hop : (e.mapTp g).hop = e.hop := rfl
@[simp] theorem mapTp_pairing : (e.mapTp g).pairing = e.pairing := rfl
@[simp] theorem mapTp_shell : (e.mapTp g).shell = e.shell := rfl
@[simp] theorem mapTp_now : (e.mapTp g).now = e.now := rfl
@[simp] theorem mapMotion_radio : (e.mapMotion m).radio = e.radio := rfl
@[simp] theorem mapMotion_tp :
    (e.mapMotion m).tp = { e.tp with motion := m e.tp.motion } := rfl
@[simp] theorem mapMotion_hop : (e.mapMotion m).hop = e.hop := rfl
@[simp] theorem mapMotion_pairing : (e.mapMotion m).pairing = e.pairing := rfl
@[simp] theorem mapMotion_shell : (e.mapMotion m).shell = e.shell := rfl
@[simp] theorem mapMotion_now : (e.mapMotion m).now = e.now := rfl
@[simp] theorem mapHop_radio : (e.mapHop h).radio = e.radio := rfl
@[simp] theorem mapHop_tp : (e.mapHop h).tp = e.tp := rfl
@[simp] theorem mapHop_hop : (e.mapHop h).hop = h e.hop := rfl
@[simp] theorem mapHop_pairing : (e.mapHop h).pairing = e.pairing := rfl
@[simp] theorem mapHop_shell : (e.mapHop h).shell = e.shell := rfl
@[simp] theorem mapHop_now : (e.mapHop h).now = e.now := rfl
@[simp] theorem mapPairing_radio : (e.mapPairing p).radio = e.radio := rfl
@[simp] theorem mapPairing_tp : (e.mapPairing p).tp = e.tp := rfl
@[simp] theorem mapPairing_hop : (e.mapPairing p).hop = e.hop := rfl
@[simp] theorem mapPairing_pairing : (e.mapPairing p).pairing = p e.pairing := rfl
@[simp] theorem mapPairing_shell : (e.mapPairing p).shell = e.shell := rfl
@[simp] theorem mapPairing_now : (e.mapPairing p).now = e.now := rfl
@[simp] theorem mapShell_radio : (e.mapShell s).radio = e.radio := rfl
@[simp] theorem mapShell_tp : (e.mapShell s).tp = e.tp := rfl
@[simp] theorem mapShell_hop : (e.mapShell s).hop = e.hop := rfl
@[simp] theorem mapShell_pairing : (e.mapShell s).pairing = e.pairing := rfl
@[simp] theorem mapShell_shell : (e.mapShell s).shell = s e.shell := rfl
@[simp] theorem mapShell_now : (e.mapShell s).now = e.now := rfl

end Projections

end Endpoint

/-- The endpoint with every static at its initial value, the keyboard's
`deviceId` in its FICR and `saved` in its settings. -/
def Endpoint.boot (cfg : Config) (deviceId : List UInt8) (saved : Option PairedRec) : Endpoint where
  tp :=
    { adaptiveRetransmitCount := cfg.retransmitCount
      rxBuf := List.replicate cfg.esbMaxPayloadLength 0 }
  pairing := { deviceId, saved }
  shell := { cmdBuf := List.replicate cfg.shellCmdBufSize 0 }

/-- The same, but connected. -/
def Endpoint.bootConnected (cfg : Config) : Endpoint :=
  (Endpoint.boot cfg [] none).mapPairing fun p => { p with state := .connected }

end EsbEndpoint
