import EsbEndpoint.Common.Backlog
import EsbEndpoint.Transport.Frame

/-!
# The input processor

`src/esb/input_processor_esb.c`: pointer events are added up and button
edges tracked while the endpoint is active and connected, and a report is
sent on a sync or an edge, or put off while the transport is quiet or too
much motion is in flight. The body is ZMK's, laid out as the transport's
own `struct esb_mouse_body`.
-/

namespace EsbEndpoint

variable (cfg : Config) (buttons : UInt8) (deltas : Deltas)

/-- The body of a report, each delta clamped to its field. -/
def mouseReportBody : MouseBody := ⟨buttons, fun a => sat16 (deltas a)⟩

/-- The `struct esb_pkt_hid_report` of `send_hid_report_raw`: the body, and
zeros to the end of the payload. -/
def mousePacket : List UInt8 :=
  esbPktHidReport :: esbReportMouse :: (mouseReportBody buttons deltas).bytes ++
    List.replicate (cfg.esbPktDataMax - sizeofMouseBody) 0

/-- `send_hid_report_raw` -/
def sendHidReportRaw (e : Endpoint) : Endpoint :=
  (esbTransportSend cfg e esbPipeData (mousePacket cfg buttons deltas)).1

/-- **The transport reads the packet as the processor packed it.** -/
theorem mouseBodyOf_mousePacket :
    isMouseReport (mousePacket cfg buttons deltas) = true ∧
      (mouseBodyOf (mousePacket cfg buttons deltas)).buttons = buttons ∧
      (mouseBodyOf (mousePacket cfg buttons deltas)).deltas = fun a => sat16 (deltas a) := by
  refine ⟨?_, rfl, ?_⟩
  · simp only [isMouseReport, mousePacket, MouseBody.bytes, List.cons_append, List.nil_append,
      List.length_cons, List.length_replicate, isHidReport, sizeofMouseBody, Bool.and_eq_true,
      decide_eq_true_eq]
    exact ⟨by omega, rfl, rfl⟩
  · funext a
    simp only [mouseBodyOf, mousePacket, MouseBody.bytes, mouseReportBody, List.cons_append,
      List.nil_append, List.getD_cons_succ, List.getD_cons_zero]
    cases a <;> exact readLe16_write (isInt16_sat16 _)

/-! ## The processor's state -/

/-- `struct esb_ip_data`. -/
structure EsbIpData where
  accum : Deltas := 0
  buttons : UInt8 := 0
  accumStartMs : UInt32 := 0
  /-- `pending_buttons[0..pending_count)` -/
  pending : Backlog UInt8 := {}
  retryWork : Delayable := none

/-- One instance, and the endpoint it sends through. -/
structure IpEndpoint where
  e : Endpoint
  ip : EsbIpData := {}

/-- A change of the instance's data alone. -/
def IpEndpoint.mapIp (s : IpEndpoint) (f : EsbIpData → EsbIpData) : IpEndpoint :=
  { s with ip := f s.ip }

/-- `k_work_reschedule(&d->retry_work, K_MSEC(ESB_IP_QUIET_RETRY_MS))` -/
def rescheduleIpRetry (s : IpEndpoint) : IpEndpoint :=
  s.mapIp fun ip => { ip with retryWork := some cfg.ipQuietRetryMs }

/-- `enqueue_pending_button` -/
def enqueuePendingButton (s : IpEndpoint) : IpEndpoint :=
  s.mapIp fun ip => { ip with pending := ip.pending.defer cfg.ipPendingBtnQueue ip.buttons }

/-- One replayed edge: its buttons, and no motion. -/
def sendPendingButton (s : IpEndpoint) (snapshot : Snapshot UInt8) : IpEndpoint where
  e := sendHidReportRaw cfg snapshot.body 0 s.e
  ip := { s.ip with pending := s.ip.pending.handOn snapshot }

/-- `drain_pending_buttons` -/
def drainPendingButtons (s : IpEndpoint) : IpEndpoint :=
  (s.ip.pending.pending.foldl (sendPendingButton cfg) s).mapIp fun ip =>
    { ip with pending := ip.pending.clear }

/-- `d->dx = d->dy = d->scroll_x = d->scroll_y = 0; d->accum_start_ms = 0` -/
def clearMotion (s : IpEndpoint) : IpEndpoint :=
  s.mapIp fun ip => { ip with accum := 0, accumStartMs := 0 }

/-- Whether a report has to wait. -/
def mustDefer (e : Endpoint) : Bool :=
  esbTransportIsQuiet cfg e || esbTransportPointerBackpressure cfg e

/-- The buttons and the motion, sent. -/
def sendCurrent (s : IpEndpoint) : IpEndpoint :=
  { s with e := sendHidReportRaw cfg s.ip.buttons s.ip.accum s.e }

/-- `retry_work_fn` -/
def ipRetryWorkFn (s : IpEndpoint) : IpEndpoint :=
  let s := s.mapIp fun ip => { ip with retryWork := none }
  if mustDefer cfg s.e then rescheduleIpRetry cfg s
  else
    let s := drainPendingButtons cfg s
    if s.ip.accumStartMs != 0 then
      let fresh := elapsed s.ip.accumStartMs s.e.now ≤ cfg.motionMaxStaleMs
      clearMotion (if fresh ∧ s.ip.accum.isZero = false then sendCurrent cfg s else s)
    else s

/-- Motion that has waited too long to be sent. -/
def motionStale (s : IpEndpoint) : Bool :=
  s.ip.accumStartMs != 0 && cfg.motionMaxStaleMs < elapsed s.ip.accumStartMs s.e.now

/-- `send_mouse_report`, with the buttons of the live report it sends, if
it sends one. -/
def sendMouseReport (buttonChanged : Bool) (s : IpEndpoint) : IpEndpoint × Option UInt8 :=
  if mustDefer cfg s.e then
    (if buttonChanged then rescheduleIpRetry cfg (enqueuePendingButton cfg s) else s, none)
  else
    let s := drainPendingButtons cfg s
    if !buttonChanged && motionStale cfg s then (clearMotion s, none)
    else (clearMotion (sendCurrent cfg s), some s.ip.buttons)

/-! ## Events -/

/-- `struct input_event` -/
structure InputEvent where
  type : UInt8
  code : UInt16
  value : Int
  sync : Bool := false

/-- `INPUT_EV_KEY` -/
abbrev inputEvKey : UInt8 := 0x01
/-- `INPUT_EV_REL` -/
abbrev inputEvRel : UInt8 := 0x02
/-- `INPUT_BTN_0` -/
abbrev inputBtn0 : UInt16 := 0x100

/-- The delta an `INPUT_EV_REL` code moves: `INPUT_REL_X`, `INPUT_REL_Y`,
`INPUT_REL_HWHEEL` and `INPUT_REL_WHEEL`. -/
def relAxis (code : UInt16) : Option Axis :=
  match code with
  | 0x00 => some .dX
  | 0x01 => some .dY
  | 0x06 => some .scrollX
  | 0x08 => some .scrollY
  | _ => none

/-- The button of an event, from `INPUT_BTN_0` to `INPUT_BTN_4`. -/
def eventButton (ev : InputEvent) : Option (Fin 5) :=
  if h : ev.type = inputEvKey ∧ inputBtn0 ≤ ev.code ∧ ev.code.toNat - inputBtn0.toNat < 5 then
    some ⟨ev.code.toNat - inputBtn0.toNat, h.2.2⟩
  else none

/-- `BIT(btn)` -/
def buttonMask (b : Fin 5) : UInt8 := 1 <<< UInt8.ofNat b.val

/-- The mask after a button's event. -/
def setButton (b : Fin 5) (pressed : Bool) (buttons : UInt8) : UInt8 :=
  if pressed then buttons ||| buttonMask b else buttons &&& ~~~buttonMask b

/-- Motion, added to the accumulator. -/
def addMotion (now : UInt32) (ev : InputEvent) (ip : EsbIpData) : EsbIpData :=
  let ip := if ip.accumStartMs == 0 then { ip with accumStartMs := stampOf now } else ip
  match relAxis ev.code with
  | none => ip
  | some axis =>
    { ip with accum := fun a => if a = axis then i32 (ip.accum a + ev.value) else ip.accum a }

/-- What an event does to the instance's data. -/
def trackInput (now : UInt32) (ev : InputEvent) (ip : EsbIpData) : EsbIpData :=
  if ev.type = inputEvRel then addMotion now ev ip
  else
    match eventButton ev with
    | some b => { ip with buttons := setButton b (ev.value != 0) ip.buttons }
    | none => ip

/-- `esb_ip_handle_event`, with `zmk_esb_endpoint_is_active()`: whether it
returns `ZMK_INPUT_PROC_STOP` is whether it is up, and the third value is
the live report's buttons. -/
def esbIpHandleEvent (endpointActive : Bool) (ev : InputEvent) (s : IpEndpoint) :
    IpEndpoint × Bool × Option UInt8 :=
  if !endpointActive || !s.e.pairingIsConnected then (s, false, none)
  else
    let before := s.ip.buttons
    let s := s.mapIp (trackInput s.e.now ev)
    let buttonChanged := s.ip.buttons != before
    if ev.sync || buttonChanged then
      let (s, live) := sendMouseReport cfg buttonChanged s
      (s, true, live)
    else (s, true, none)

/-! ## The reports of a drain -/

/-- The arguments of `send_hid_report_raw`. -/
structure RawReport where
  buttons : UInt8
  deltas : Deltas

def sendReports (e : Endpoint) (reports : List RawReport) : Endpoint :=
  reports.foldl (fun e report => sendHidReportRaw cfg report.buttons report.deltas e) e

/-- The button edges a drain replays. -/
def pendingReports (s : IpEndpoint) : List RawReport :=
  s.ip.pending.pending.map fun snapshot => ⟨snapshot.body, 0⟩

/-- **The mouse reports among the calls** of `esb_transport_send`, as the
transport reads them. -/
def mouseReportsIn (calls : List (Nat × List UInt8)) : List MouseBody :=
  (calls.filter fun call => call.1 == esbPipeData && isMouseReport call.2).map fun call =>
    mouseBodyOf call.2

variable {cfg}

/-- The transport is handed each report, in order. -/
theorem handed_sendReports (e : Endpoint) (reports : List RawReport) :
    (sendReports cfg e reports).handed = e.handed ++ reports.map fun report =>
      (esbPipeData, mousePacket cfg report.buttons report.deltas) := by
  induction reports generalizing e with
  | nil => exact (List.append_nil _).symm
  | cons report reports ih =>
    have hsent : (sendHidReportRaw cfg report.buttons report.deltas e).handed = e.handed ++
        [(esbPipeData, mousePacket cfg report.buttons report.deltas)] :=
      handed_esbTransportSend cfg e _ _
    show (sendReports cfg (sendHidReportRaw cfg report.buttons report.deltas e) reports).handed = _
    rw [ih, hsent, List.append_assoc]
    rfl

/-- **Read back, the packets are the reports**, each delta clamped. -/
theorem mouseReportsIn_packets (reports : List RawReport) :
    mouseReportsIn (reports.map fun report =>
        (esbPipeData, mousePacket cfg report.buttons report.deltas)) =
      reports.map fun report => mouseReportBody report.buttons report.deltas := by
  induction reports with
  | nil => rfl
  | cons report reports ih =>
    obtain ⟨hmouse, hbuttons, hdeltas⟩ := mouseBodyOf_mousePacket cfg report.buttons report.deltas
    have hbody : mouseBodyOf (mousePacket cfg report.buttons report.deltas) =
        mouseReportBody report.buttons report.deltas := by
      cases hread : mouseBodyOf (mousePacket cfg report.buttons report.deltas) with
      | mk buttons deltas =>
        rw [hread] at hbuttons hdeltas
        rw [mouseReportBody, ← hdeltas]
        exact congrArg (MouseBody.mk · deltas) hbuttons
    unfold mouseReportsIn at ih ⊢
    rw [List.map_cons, List.filter_cons, if_pos, List.map_cons, List.map_cons, ih, hbody]
    rw [hmouse, beq_self_eq_true, Bool.and_self]

theorem sendReports_append (e : Endpoint) (reports reports' : List RawReport) :
    sendReports cfg e (reports ++ reports') =
      sendReports cfg (sendReports cfg e reports) reports' :=
  List.foldl_append

/-- A drain sends the pending reports, and leaves all but the queue. -/
theorem drainPendingButtons_eq (s : IpEndpoint) :
    ∃ pending, drainPendingButtons cfg s =
      ⟨sendReports cfg s.e (pendingReports s), { s.ip with pending }⟩ := by
  have hfold : ∀ (queue : List (Snapshot UInt8)) (s : IpEndpoint), ∃ pending,
      queue.foldl (sendPendingButton cfg) s =
        ⟨sendReports cfg s.e (queue.map fun snapshot => ⟨snapshot.body, 0⟩),
          { s.ip with pending }⟩ := by
    intro queue
    induction queue with
    | nil => exact fun s => ⟨s.ip.pending, rfl⟩
    | cons snapshot queue ih =>
      intro s
      obtain ⟨pending, hpending⟩ := ih (sendPendingButton cfg s snapshot)
      exact ⟨pending, hpending⟩
  obtain ⟨pending, hpending⟩ := hfold s.ip.pending.pending s
  refine ⟨pending.clear, ?_⟩
  rw [drainPendingButtons, hpending]
  rfl

end EsbEndpoint
