/-!
# The wire protocol

Packet types, pipes and report subtypes of `include/zmk_esb/protocol.h`,
and the error numbers the modelled functions return. A packed C struct is
modelled by its bytes.
-/

namespace EsbEndpoint

/-- The error numbers, without their sign. -/
inductive Errno
  | eio
  | enomem
  | eacces
  | ebusy
  | enodev
  | einval
  | emsgsize
  | etimedout
  | enotconn
  | efault
  deriving DecidableEq, Repr

/-- `ESB_PIPE_PAIRING` -/
abbrev esbPipePairing : Nat := 0
/-- `ESB_PIPE_DATA` -/
abbrev esbPipeData : Nat := 1

/-! ## Packet types -/

@[match_pattern] abbrev esbPktBeacon : UInt8 := 0x01
@[match_pattern] abbrev esbPktPairReq : UInt8 := 0x02
@[match_pattern] abbrev esbPktPairResp : UInt8 := 0x03
@[match_pattern] abbrev esbPktHidReport : UInt8 := 0x06
@[match_pattern] abbrev esbPktDisconnect : UInt8 := 0x07
@[match_pattern] abbrev esbPktShellReq : UInt8 := 0x08
@[match_pattern] abbrev esbPktShellStop : UInt8 := 0x09
@[match_pattern] abbrev esbPktShellData : UInt8 := 0x0A
@[match_pattern] abbrev esbPktShellPoll : UInt8 := 0x0B
@[match_pattern] abbrev esbPktShellBgPoll : UInt8 := 0x0F
@[match_pattern] abbrev esbPktVerifyReq : UInt8 := 0x10
@[match_pattern] abbrev esbPktVerifyResp : UInt8 := 0x11
@[match_pattern] abbrev esbPktShellStart : UInt8 := 0x12
@[match_pattern] abbrev esbPktResync : UInt8 := 0x13
@[match_pattern] abbrev esbPktChannelHopProposal : UInt8 := 0x14
@[match_pattern] abbrev esbPktChannelHopConfirm : UInt8 := 0x15
@[match_pattern] abbrev esbPktChannelHopRequest : UInt8 := 0x16
@[match_pattern] abbrev esbPktIdle : UInt8 := 0x17
@[match_pattern] abbrev esbPktHopOffer : UInt8 := 0x18
@[match_pattern] abbrev esbPktHopAccept : UInt8 := 0x19
@[match_pattern] abbrev esbPktLinkStats : UInt8 := 0x1A

/-! ## HID report subtypes and capabilities -/

abbrev esbReportKeyboard : UInt8 := 0x00
abbrev esbReportConsumer : UInt8 := 0x01
abbrev esbReportMouse : UInt8 := 0x02

/-- `ESB_CAP_KEYBOARD | ESB_CAP_CONSUMER | ESB_CAP_MOUSE` -/
abbrev esbCapAll : UInt8 := 0x07

/-- The type byte of a packet. -/
def pktType (data : List UInt8) : Option UInt8 := data.head?

/-- A packet whose type byte is `type`: the C test
`len >= 1 && data[0] == type`. -/
def isType (type : UInt8) (data : List UInt8) : Bool := pktType data == some type

/-- `ESB_PKT_HID_REPORT` of subtype `report`: the C test
`len >= 2 && data[0] == ESB_PKT_HID_REPORT && data[1] == report`. -/
def isHidReport (report : UInt8) (data : List UInt8) : Bool :=
  data[0]? == some esbPktHidReport && data[1]? == some report

end EsbEndpoint
