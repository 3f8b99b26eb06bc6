import Mathlib.Algebra.Ring.Nat

/-!
# Configuration

The Kconfig and devicetree options the modelled functions read. `Options`
holds the values with the defaults of `src/Kconfig` and
`src/shell/Kconfig`; `Config` adds the ranges and build assertions the
proofs rest on, so that a configuration the build refuses cannot be
formed.
-/

namespace EsbEndpoint

/-- The option values, each under the source's words for it. -/
structure Options where
  /-- `CONFIG_ESB_MAX_PAYLOAD_LENGTH` -/
  esbMaxPayloadLength : Nat := 32
  /-- `CONFIG_ESB_TX_FIFO_SIZE` -/
  esbTxFifoSize : Nat := 8
  /-- `CONFIG_ESB_RX_FIFO_SIZE` -/
  esbRxFifoSize : Nat := 8
  /-- `CONFIG_ESB_PIPE_COUNT` -/
  esbPipeCount : Nat := 2
  esbNeverDisableTx : Bool := true
  esbFastChannelSwitching : Bool := false
  -- feature switches of the module
  channelHop : Bool := true
  adaptiveRetry : Bool := true
  coopHop : Bool := true
  rendezvous : Bool := true
  hidNoack : Bool := false
  criticalMaxRetransmit : Bool := false
  shellRelay : Bool := false
  shellBgPoll : Bool := true
  -- retransmission
  retransmitCount : Nat := 5
  retransmitDelayUs : Nat := 570
  pointerRetransmitCount : Nat := 2
  criticalRetransmitCount : Nat := 15
  critOverrideRingSize : Nat := 8
  adaptiveRetryIntervalMs : Nat := 35
  adaptiveRetryEwmaLow : Nat := 15
  adaptiveRetryEwmaHigh : Nat := 45
  adaptiveRetryCountMin : Nat := 2
  adaptiveRetryCountMax : Nat := 12
  -- pointer motion
  pointerMotionRingSize : Nat := 24
  pointerRefundStaleMs : Nat := 100
  pointerInflightCap : Nat := 5
  motionMaxStaleMs : Nat := 100
  ipPendingBtnQueue : Nat := 4
  ipQuietRetryMs : Nat := 1
  -- key reports
  hidQuietKbQueueDepth : Nat := 8
  hidQuietConsQueueDepth : Nat := 4
  hidQuietRetryMs : Nat := 1
  /-- `ZMK_HID_REPORT_TYPE_NKRO`; the other choice is HKRO. -/
  hidReportTypeNkro : Bool := false
  /-- `ZMK_HID_KEYBOARD_NKRO_MAX_USAGE` -/
  hidKeyboardNkroMaxUsage : Nat := 0x67
  /-- `ZMK_HID_KEYBOARD_REPORT_SIZE` -/
  hidKeyboardReportSize : Nat := 6
  /-- `ZMK_HID_CONSUMER_REPORT_SIZE` -/
  hidConsumerReportSize : Nat := 6
  -- pairing and the control thread
  beaconIntervalMs : Nat := 50
  beaconInitialDelayMs : Nat := 10
  verifyIntervalMs : Nat := 250
  ctrlMsgqDepth : Nat := 5
  /-- `ZMK_BLE_PROFILE_COUNT` -/
  bleProfileCount : Nat := 5
  /-- The devicetree property `esb-channel`. -/
  esbChannel : UInt8 := 78
  -- channel hopping
  hopRetryDelayMs : Nat := 5
  channelHopTxFailWindowMs : Nat := 32
  channelHopWeakLinkMs : Nat := 80
  channelHopPostQuietMs : Nat := 2
  channelQuarantineMs : Nat := 300000
  channelQuarantineMinDistance : Nat := 5
  channelHopNegotiateIntervalMs : Nat := 60000
  channelHopNegotiateRetryMs : Nat := 50
  channelHopRequestBurstCount : Nat := 2
  idleThresholdMs : Nat := 50
  channelHopPostBurstCount : Nat := 2
  channelHopPostBurstIntervalMs : Nat := 15
  channelHopPostBurstRendezvousEvery : Nat := 4
  channelHopRendezvousTimeoutMs : Nat := 10
  channelHopRendezvousFallbackMs : Nat := 200
  channelHopCooldownMs : Nat := 250
  flushQuietMs : Nat := 2
  flushForceMs : Nat := 5
  -- link quality and cooperative hopping
  linkQualityWindow : Nat := 32
  linkQualityNoackRingSize : Nat := 8
  linkDegradedThreshold : Nat := 10
  linkDegradedRearm : Nat := 2
  linkDegradedFastThreshold : Nat := 4
  coopHopHopInMs : Nat := 4
  coopHopCooldownMs : Nat := 2500
  coopHopQuarantineMs : Nat := 30000
  -- shell relay
  shellPollIntervalMs : Nat := 20
  shellInitialPollDelayMs : Nat := 20
  shellInactivityS : Nat := 60
  shellCmdBufSize : Nat := 256
  shellOutBufSize : Nat := 2048
  shellBgPollMs : Nat := 100
  shellBgPollActivityThresholdMs : Nat := 5000
  shellStopNudgeCooldownMs : Nat := 5000
  shellStdoutCoalesceBytes : Nat := 32
  shellStdoutCoalesceMs : Nat := 5
  /-- `CONFIG_ZMK_ESB_ENDPOINT_SHELL_PROMPT` -/
  shellPrompt : List UInt8 := "uart:~$ ".toUTF8.toList
  /-- The address of `m_jitter_rng`, which seeds the jitter generator. -/
  jitterRngAddr : UInt32 := 0

/-- **An admitted configuration**: the options with the Kconfig ranges,
the dependencies between switches and the build assertions. -/
structure Config extends Options where
  /-- A mouse report is eleven bytes and is copied into the payload
  without a bounds check. -/
  mouse_fits : 11 ≤ esbMaxPayloadLength := by decide
  payload_le : esbMaxPayloadLength ≤ 32 := by decide
  txFifo_pos : 0 < esbTxFifoSize := by decide
  rxFifo_pos : 0 < esbRxFifoSize := by decide
  pipes_pos : 1 ≤ esbPipeCount := by decide
  pipes_le : esbPipeCount ≤ 8 := by decide
  motionRing_ge : 2 ≤ pointerMotionRingSize := by decide
  motionRing_le : pointerMotionRingSize ≤ 64 := by decide
  inflightCap_pos : 1 ≤ pointerInflightCap := by decide
  btnQueue_pos : 1 ≤ ipPendingBtnQueue := by decide
  btnQueue_le : ipPendingBtnQueue ≤ 32 := by decide
  kbQueue_pos : 1 ≤ hidQuietKbQueueDepth := by decide
  kbQueue_le : hidQuietKbQueueDepth ≤ 64 := by decide
  consQueue_pos : 1 ≤ hidQuietConsQueueDepth := by decide
  consQueue_le : hidQuietConsQueueDepth ≤ 64 := by decide
  critRing_pow : ∃ k, critOverrideRingSize = 2 ^ k := by exact ⟨3, rfl⟩
  critRing_le : critOverrideRingSize ≤ 64 := by decide
  noackRing_pow : ∃ k, linkQualityNoackRingSize = 2 ^ k := by exact ⟨3, rfl⟩
  noackRing_le : linkQualityNoackRingSize ≤ 64 := by decide
  cmdBuf_pos : 0 < shellCmdBufSize := by decide
  adaptiveRetry_dep : adaptiveRetry = true → channelHop = true := by decide
  coopHop_dep : coopHop = true → channelHop = true := by decide
  rendezvous_dep : rendezvous = true → channelHop = true := by decide
  weakLink_gt : channelHopWeakLinkMs = 0 ∨ channelHopTxFailWindowMs < channelHopWeakLinkMs := by
    decide
  fallback_lt : channelHopRendezvousFallbackMs = 0 ∨
    channelHopRendezvousFallbackMs < channelHopCooldownMs := by decide
  cooldown_le : channelHopCooldownMs ≤ 10000 := by decide
  coopCooldown_le : coopHopCooldownMs ≤ 30000 := by decide
  negotiate_gt : channelHopNegotiateRetryMs < channelHopNegotiateIntervalMs := by decide
  rendezvousTimeout_lt : channelHopRendezvousTimeoutMs < channelHopPostBurstIntervalMs := by decide
  ewmaLow_ge : 10 ≤ adaptiveRetryEwmaLow := by decide
  ewmaLow_le : adaptiveRetryEwmaLow ≤ 100 := by decide
  ewmaHigh_ge : 11 ≤ adaptiveRetryEwmaHigh := by decide
  ewmaHigh_le : adaptiveRetryEwmaHigh ≤ 200 := by decide
  adaptiveCountMin_le : adaptiveRetryCountMin ≤ 15 := by decide
  adaptiveCountMax_le : adaptiveRetryCountMax ≤ 15 := by decide
  linkWindow_ge : 8 ≤ linkQualityWindow := by decide
  linkWindow_le : linkQualityWindow ≤ 32 := by decide
  postBurst_le : channelHopPostBurstCount ≤ 50 := by decide
  requestBurst_le : channelHopRequestBurstCount ≤ 50 := by decide

namespace Config

/-- The configuration the Kconfig defaults give. -/
def default : Config := {}

/-- The same with the shell relay switched on, which also deepens the
FIFOs. -/
def withShell : Config := { shellRelay := true, esbTxFifoSize := 32, esbRxFifoSize := 24 }

/-- The same, and pointer reports that ask for no ACK. -/
def withShellNoack : Config :=
  { shellRelay := true, esbTxFifoSize := 32, esbRxFifoSize := 24, hidNoack := true }

variable (cfg : Config)

/-- `ESB_PKT_DATA_MAX` -/
def esbPktDataMax : Nat := cfg.esbMaxPayloadLength - 2

end Config

end EsbEndpoint
