import EsbEndpoint.Common.HidReport
import EsbEndpoint.Protocol

/-!
# The dongle

`dongle/src/main.c`: the receiver that pairs with the keyboard and turns
its HID packets into USB reports, and the report descriptor it shows to
the host. What it hands to the radio and to USB is kept as history.
-/

namespace EsbEndpoint

/-- `hid_report_desc` -/
def hidReportDesc : List UInt8 :=
  [ -- keyboard report (report ID 1)
    0x05, 0x01, 0x09, 0x06, 0xA1, 0x01, 0x85, 0x01,
    0x05, 0x07, 0x19, 0xE0, 0x29, 0xE7, 0x15, 0x00, 0x25, 0x01, 0x75, 0x01, 0x95, 0x08, 0x81, 0x02,
    0x95, 0x01, 0x75, 0x08, 0x81, 0x01,
    0x95, 0x06, 0x75, 0x08, 0x15, 0x00, 0x25, 0x65, 0x05, 0x07, 0x19, 0x00, 0x29, 0x65, 0x81, 0x00,
    0xC0,
    -- consumer report (report ID 2)
    0x05, 0x0C, 0x09, 0x01, 0xA1, 0x01, 0x85, 0x02, 0x15, 0x00, 0x25, 0x01,
    0x09, 0xCD, 0x0A, 0x00, 0x02, 0x0A, 0x01, 0x02, 0x0A, 0x23, 0x02, 0x0A, 0x6F, 0x02,
    0x0A, 0x70, 0x02, 0x0A, 0xEA, 0x01, 0x75, 0x01, 0x95, 0x10, 0x81, 0x02,
    0xC0,
    -- mouse report (report ID 3)
    0x05, 0x01, 0x09, 0x02, 0xA1, 0x01, 0x85, 0x03, 0x09, 0x01, 0xA1, 0x00,
    0x05, 0x09, 0x19, 0x01, 0x29, 0x05, 0x15, 0x00, 0x25, 0x01, 0x75, 0x01, 0x95, 0x05, 0x81, 0x02,
    0x95, 0x03, 0x81, 0x01,
    0x05, 0x01, 0x09, 0x30, 0x09, 0x31, 0x09, 0x38, 0x15, 0x81, 0x25, 0x7F, 0x75, 0x08, 0x95, 0x03,
    0x81, 0x06,
    0x05, 0x0C, 0x0A, 0x38, 0x02, 0x15, 0x81, 0x25, 0x7F, 0x75, 0x08, 0x95, 0x01, 0x81, 0x06,
    0xC0, 0xC0 ]

/-- `enum dongle_state` -/
inductive DongleState
  | idle
  | listening
  | pairing
  | connected
  | verifying
  deriving DecidableEq

/-- The statics of `dongle/src/main.c`. `ackPayloads` are the payloads
given to `esb_write_payload` with their pipes, `hidReports` the reports
given to `hid_int_ep_write`. -/
structure Dongle where
  state : DongleState := .idle
  peerDeviceId : List UInt8 := List.replicate 6 0
  hasPeer : Bool := false
  myDeviceId : List UInt8
  ackPayloads : List (Nat × List UInt8) := []
  hidReports : List (List UInt8) := []
  deriving DecidableEq

/-- The dongle as `main` leaves it, with its own id from the FICR. -/
def Dongle.start (myDeviceId : List UInt8) : Dongle := { state := .listening, myDeviceId }

/-- A dongle that forwards reports. -/
def Dongle.Forwards (d : Dongle) : Prop := d.state = .connected ∨ d.state = .verifying

instance (d : Dongle) : Decidable d.Forwards :=
  inferInstanceAs (Decidable (d.state = .connected ∨ d.state = .verifying))

/-! ## Forwarding -/

/-- A report of `size` bytes behind its ID: the packet's bytes as far as
they go, and zeros. -/
def forward (reportId : UInt8) (size : Nat) (data : List UInt8) : List UInt8 :=
  reportId :: (data.take size ++ List.replicate (size - data.length) 0)

/-- `forward_keyboard` -/
def forwardKeyboard (data : List UInt8) : List UInt8 := forward 1 8 data

/-- `forward_consumer` -/
def forwardConsumer (data : List UInt8) : List UInt8 := forward 2 2 data

/-- `forward_mouse` -/
def forwardMouse (data : List UInt8) : List UInt8 := forward 3 6 data

variable (d : Dongle) (pipe : Nat) (data : List UInt8)

/-- `send_hid_report` -/
def sendHidReport (report : List UInt8) : Dongle :=
  { d with hidReports := d.hidReports ++ [report] }

/-- `esb_write_payload(&m_tx_payload)` -/
def writeAck (payload : List UInt8) : Dongle :=
  { d with ackPayloads := d.ackPayloads ++ [(pipe, payload)] }

/-! ## Packets -/

/-- `ESB_PKT_BEACON` -/
def onBeacon : Dongle :=
  if 8 ≤ data.length ∧ d.state = .listening then
    let d := { d with peerDeviceId := (data.drop 1).take 6, hasPeer := true }
    { writeAck d pipe (esbPktPairReq :: d.myDeviceId) with state := .pairing }
  else d

/-- `ESB_PKT_PAIR_RESP` -/
def onPairResp : Dongle :=
  if 8 ≤ data.length ∧ d.state = .pairing then { d with state := .connected } else d

/-- `ESB_PKT_HID_REPORT` -/
def onHidReport : Dongle :=
  if d.state ≠ .connected ∧ d.state ≠ .verifying then d
  else if 2 ≤ data.length then
    let body := data.drop 2
    let reportType := data.getD 1 0
    if reportType = esbReportKeyboard then sendHidReport d (forwardKeyboard body)
    else if reportType = esbReportConsumer then sendHidReport d (forwardConsumer body)
    else if reportType = esbReportMouse then sendHidReport d (forwardMouse body)
    else d
  else d

/-- `ESB_PKT_VERIFY_REQ` -/
def onVerifyReq : Dongle :=
  if 7 ≤ data.length then
    if d.hasPeer ∧ (data.drop 1).take 6 = d.peerDeviceId then
      { writeAck d pipe (esbPktVerifyResp :: d.myDeviceId) with state := .verifying }
    else writeAck d pipe [esbPktDisconnect]
  else d

/-- One payload in `esb_evt_handler`. -/
def dongleOnPacket : Dongle :=
  match data with
  | [] => d
  | esbPktBeacon :: _ => onBeacon d pipe data
  | esbPktPairResp :: _ => onPairResp d data
  | esbPktHidReport :: _ => onHidReport d data
  | esbPktVerifyReq :: _ => onVerifyReq d pipe data
  | esbPktDisconnect :: _ => { d with state := .listening }
  | _ :: _ => d

/-! ## What a packet does -/

/-- A packet of one type is of no other. -/
theorem pktType_ne {data : List UInt8} {t t' : UInt8} (h : pktType data = some t) (hne : t ≠ t') :
    pktType data ≠ some t' := fun h' => hne (Option.some.inj (h.symm.trans h'))

/-- A `PAIR_RESP` the dongle takes. -/
def acceptsPairResp : Prop :=
  pktType data = some esbPktPairResp ∧ 8 ≤ data.length ∧ d.state = .pairing

/-- A full-length `VERIFY_REQ`. -/
def isVerifyReq : Prop := pktType data = some esbPktVerifyReq ∧ 7 ≤ data.length

/-- The id in a `VERIFY_REQ` is that of the recorded peer. -/
def matchesPeer : Prop := d.hasPeer = true ∧ (data.drop 1).take 6 = d.peerDeviceId

instance : Decidable (acceptsPairResp d data) := inferInstanceAs (Decidable (_ ∧ _ ∧ _))

instance : Decidable (isVerifyReq data) := inferInstanceAs (Decidable (_ ∧ _))

instance : Decidable (matchesPeer d data) := inferInstanceAs (Decidable (_ ∧ _))

/-- What one payload leaves of the dongle. -/
inductive OnPacket : Dongle → Prop
  | ignored (hreq : ¬ isVerifyReq data) (hdisc : pktType data ≠ some esbPktDisconnect) : OnPacket d
  | beacon (htype : pktType data = some esbPktBeacon) (hlen : 8 ≤ data.length)
      (hstate : d.state = .listening) :
      OnPacket
        { d with
          peerDeviceId := (data.drop 1).take 6
          hasPeer := true
          ackPayloads := d.ackPayloads ++ [(pipe, esbPktPairReq :: d.myDeviceId)]
          state := .pairing }
  | paired (h : acceptsPairResp d data) : OnPacket { d with state := .connected }
  | forwarded (htype : pktType data = some esbPktHidReport) (hfwd : d.Forwards)
      (report : List UInt8) : OnPacket (sendHidReport d report)
  | verified (hreq : isVerifyReq data) (hpeer : matchesPeer d data) :
      OnPacket { writeAck d pipe (esbPktVerifyResp :: d.myDeviceId) with state := .verifying }
  | refused (hreq : isVerifyReq data) (hpeer : ¬ matchesPeer d data) :
      OnPacket (writeAck d pipe [esbPktDisconnect])
  | disconnected (htype : pktType data = some esbPktDisconnect) :
      OnPacket { d with state := .listening }

theorem onPacket_onHidReport (htype : pktType data = some esbPktHidReport) :
    OnPacket d pipe data (onHidReport d data) := by
  have hignored : OnPacket d pipe data d :=
    OnPacket.ignored (fun h => absurd (htype.symm.trans h.1) (by decide))
      (by rw [htype]; decide)
  unfold onHidReport
  split
  · exact hignored
  · rename_i hstate
    have hfwd : d.Forwards := by
      by_contra hnot
      exact hstate (not_or.1 hnot)
    dsimp only
    split
    · split
      · exact OnPacket.forwarded htype hfwd _
      · split
        · exact OnPacket.forwarded htype hfwd _
        · split
          · exact OnPacket.forwarded htype hfwd _
          · exact hignored
    · exact hignored

theorem onPacket_onVerifyReq (htype : pktType data = some esbPktVerifyReq) :
    OnPacket d pipe data (onVerifyReq d pipe data) := by
  unfold onVerifyReq
  split
  · rename_i hlen
    split
    · rename_i hpeer
      exact OnPacket.verified ⟨htype, hlen⟩ hpeer
    · rename_i hpeer
      exact OnPacket.refused ⟨htype, hlen⟩ hpeer
  · rename_i hlen
    exact OnPacket.ignored (fun h => hlen h.2) (by rw [htype]; decide)

/-- **Every payload is one of the list.** -/
theorem onPacket_dongleOnPacket : OnPacket d pipe data (dongleOnPacket d pipe data) := by
  have hignored : ∀ {t : UInt8} {rest : List UInt8}, data = t :: rest → t ≠ esbPktVerifyReq →
      t ≠ esbPktDisconnect → OnPacket d pipe data d := by
    intro t rest hdata hverify hdisc
    refine OnPacket.ignored (fun h => hverify ?_) (fun h => hdisc ?_)
    · exact Option.some.inj ((congrArg List.head? hdata).symm.trans h.1)
    · exact Option.some.inj ((congrArg List.head? hdata).symm.trans h)
  unfold dongleOnPacket
  split
  · exact OnPacket.ignored (by simp [isVerifyReq, pktType]) (by simp [pktType])
  · unfold onBeacon
    split
    · rename_i h
      exact OnPacket.beacon rfl h.1 h.2
    · exact hignored rfl (by decide) (by decide)
  · unfold onPairResp
    split
    · rename_i h
      exact OnPacket.paired ⟨rfl, h⟩
    · exact hignored rfl (by decide) (by decide)
  · exact onPacket_onHidReport d pipe _ rfl
  · exact onPacket_onVerifyReq d pipe _ rfl
  · exact OnPacket.disconnected rfl
  · rename_i hverify hdisc
    exact hignored rfl (fun h => hverify (h.trans rfl)) (fun h => hdisc (h.trans rfl))

end EsbEndpoint
