import EsbEndpoint.Common.Backlog
import EsbEndpoint.Transport.Quiet

/-!
# The HID relay

`src/esb/hid_relay.c`: the keyboard's own report state, moved by every
keycode event, and the snapshots of it that are sent while the endpoint
is active and connected. A snapshot taken while the transport is quiet
waits in a ring; the keyboard and the consumer side treat theirs alike,
so that a `HidLane` carries what differs. The report bodies are ZMK's.
-/

namespace EsbEndpoint

/-! ## Modifiers -/

/-- A reference count for each modifier, and the flags they add up to. -/
structure ModState where
  refcount : Fin 8 → UInt8 := fun _ => 0
  flags : UInt8 := 0

/-- `BIT(b)` -/
def modBit (b : Fin 8) : UInt8 := 1 <<< UInt8.ofNat b.val

/-- `mods & BIT(b)` -/
def hasMod (mods : UInt8) (b : Fin 8) : Bool := mods &&& modBit b != 0

/-- `mods_inc` -/
def modsInc (mods : UInt8) (m : ModState) : ModState :=
  (List.finRange 8).foldl (fun m b =>
    if hasMod mods b then
      { refcount := fun b' => if b' = b then m.refcount b + 1 else m.refcount b'
        flags := if m.refcount b == 0 then m.flags ||| modBit b else m.flags }
    else m) m

/-- `mods_dec` -/
def modsDec (mods : UInt8) (m : ModState) : ModState :=
  (List.finRange 8).foldl (fun m b =>
    if hasMod mods b && 0 < m.refcount b then
      { refcount := fun b' => if b' = b then m.refcount b - 1 else m.refcount b'
        flags := if m.refcount b - 1 == 0 then m.flags &&& ~~~modBit b else m.flags }
    else m) m

/-! ## Report bodies -/

/-- `struct zmk_hid_keyboard_report_body` -/
structure KbBody where
  modifiers : UInt8 := 0
  keys : List UInt8
  deriving DecidableEq

/-- The modifiers, a reserved byte and the keys. -/
def KbBody.bytes (body : KbBody) : List UInt8 := body.modifiers :: 0 :: body.keys

/-- `struct zmk_hid_consumer_report_body`, of 16-bit usages. -/
structure ConsBody where
  keys : List UInt16
  deriving DecidableEq

/-- The usages, low bytes first. -/
def ConsBody.bytes (body : ConsBody) : List UInt8 :=
  body.keys.flatMap fun k : UInt16 => [k.toUInt8, (k >>> 8).toUInt8]

section Slots

variable {α : Type} [DecidableEq α] (zero key : α)

/-- The first free slot takes the key. -/
def fillFree : List α → List α
  | [] => []
  | k :: ks => if k = zero then key :: ks else k :: fillFree ks

/-- A key goes to the first free slot, unless a slot has it. -/
def slotPress (isKey : α → Bool) (keys : List α) : List α :=
  if keys.any isKey then keys else fillFree zero key keys

/-- Every slot with the key is freed. -/
def slotRelease (isKey : α → Bool) (keys : List α) : List α :=
  keys.map fun k => if isKey k then zero else k

end Slots

variable (cfg : Config)

/-- The length of `kb_body.keys`. -/
def kbKeysLength : Nat :=
  if cfg.hidReportTypeNkro then (cfg.hidKeyboardNkroMaxUsage + 1) / 8
  else cfg.hidKeyboardReportSize

/-- `kb_keys_press` -/
def kbKeysPress (keycode : UInt32) (body : KbBody) : KbBody :=
  if cfg.hidReportTypeNkro then
    if keycode.toNat ≤ cfg.hidKeyboardNkroMaxUsage then
      { body with
        keys := body.keys.modify (keycode.toNat / 8)
          (· ||| 1 <<< UInt8.ofNat (keycode.toNat % 8)) }
    else body
  else { body with keys := slotPress 0 keycode.toUInt8 (· == keycode.toUInt8) body.keys }

/-- `kb_keys_release` -/
def kbKeysRelease (keycode : UInt32) (body : KbBody) : KbBody :=
  if cfg.hidReportTypeNkro then
    if keycode.toNat ≤ cfg.hidKeyboardNkroMaxUsage then
      { body with
        keys := body.keys.modify (keycode.toNat / 8)
          (· &&& ~~~(1 <<< UInt8.ofNat (keycode.toNat % 8))) }
    else body
  else { body with keys := slotRelease 0 (· == keycode.toUInt8) body.keys }

/-- `cons_keys_press`, which compares the whole keycode and stores its low
half. -/
def consKeysPress (keycode : UInt32) (body : ConsBody) : ConsBody :=
  { body with keys := slotPress 0 keycode.toUInt16 (·.toUInt32 == keycode) body.keys }

/-- `cons_keys_release` -/
def consKeysRelease (keycode : UInt32) (body : ConsBody) : ConsBody :=
  { body with keys := slotRelease 0 (·.toUInt32 == keycode) body.keys }

/-! ## Sending and queueing -/

/-- The `struct esb_pkt_hid_report` of `send_hid_pkt`: the body as far as
it fits, and zeros to the end. -/
def hidPacket (reportType : UInt8) (body : List UInt8) : List UInt8 :=
  esbPktHidReport :: reportType ::
    (body.take cfg.esbPktDataMax ++ List.replicate (cfg.esbPktDataMax - body.length) 0)

/-- `send_hid_pkt` -/
def sendHidPkt (reportType : UInt8) (body : List UInt8) (e : Endpoint) : Endpoint × Option Errno :=
  esbTransportSend cfg e esbPipeData (hidPacket cfg reportType body)

/-- A report as it is now, the ring of its snapshots, and as history the
snapshots for which `esb_transport_send` returned success and wrote
nothing. -/
structure HidReports (β : Type) where
  body : β
  backlog : Backlog β := {}
  dropped : List (Snapshot β) := []

/-- What the keyboard's reports and the consumer's differ in. -/
structure HidLane (β : Type) where
  reportType : UInt8
  bytes : β → List UInt8
  depth : Nat

namespace HidLane

variable {β : Type} (lane : HidLane β)

/-- The packet of a body. -/
def packet (body : β) : List UInt8 := hidPacket cfg lane.reportType (lane.bytes body)

/-- Send a snapshot, whatever becomes of it. -/
def sendBody (s : Endpoint × HidReports β) (snapshot : Snapshot β) : Endpoint × HidReports β :=
  let sent := sendHidPkt cfg lane.reportType (lane.bytes snapshot.body) s.1
  (sent.1,
    { s.2 with
      backlog := s.2.backlog.handOn snapshot
      dropped :=
        if sent.2 == none && sent.1.radio.written == s.1.radio.written then
          s.2.dropped ++ [snapshot]
        else s.2.dropped })

/-- Queue a snapshot of the report. -/
def enqueuePending (reports : HidReports β) : HidReports β :=
  { reports with backlog := reports.backlog.defer lane.depth reports.body }

/-- Send the queue, oldest first. -/
def drainPending (s : Endpoint × HidReports β) : Endpoint × HidReports β :=
  let (e, reports) := s.2.backlog.pending.foldl (lane.sendBody cfg) s
  (e, { reports with backlog := reports.backlog.clear })

/-- Send the queue, and a snapshot of the report behind it. -/
def sendLive (s : Endpoint × HidReports β) : Endpoint × HidReports β :=
  let (e, reports) := lane.drainPending cfg s
  lane.sendBody cfg (e, { reports with backlog := reports.backlog.take reports.body })
    (reports.backlog.next reports.body)

end HidLane

/-- The keyboard's lane. -/
def kbLane : HidLane KbBody := ⟨esbReportKeyboard, KbBody.bytes, cfg.hidQuietKbQueueDepth⟩

/-- The consumer's lane. -/
def consLane : HidLane ConsBody := ⟨esbReportConsumer, ConsBody.bytes, cfg.hidQuietConsQueueDepth⟩

/-- The statics of `src/esb/hid_relay.c`. -/
structure HidRelay where
  kb : HidReports KbBody
  cons : HidReports ConsBody
  explicitMods : ModState := {}
  implicitMods : ModState := {}
  hidRetryWork : Delayable := none
  wasActive : Bool := false

/-- The relay at boot. -/
def HidRelay.boot : HidRelay where
  kb := { body := { keys := List.replicate (kbKeysLength cfg) 0 } }
  cons := { body := { keys := List.replicate cfg.hidConsumerReportSize 0 } }

/-- The relay, and the endpoint it sends through. -/
structure HidEndpoint where
  e : Endpoint
  hid : HidRelay

namespace HidEndpoint

variable (s : HidEndpoint)

/-- A change of the relay's statics alone. -/
def mapHid (f : HidRelay → HidRelay) : HidEndpoint := { s with hid := f s.hid }

/-- `k_work_reschedule(&hid_retry_work, K_MSEC(HID_QUIET_RETRY_MS))` -/
def rescheduleRetry : HidEndpoint :=
  s.mapHid fun hid => { hid with hidRetryWork := some cfg.hidQuietRetryMs }

/-- An operation on the keyboard's reports. -/
def onKb (f : Endpoint × HidReports KbBody → Endpoint × HidReports KbBody) : HidEndpoint :=
  let (e, kb) := f (s.e, s.hid.kb)
  { s with e, hid := { s.hid with kb } }

/-- An operation on the consumer's reports. -/
def onCons (f : Endpoint × HidReports ConsBody → Endpoint × HidReports ConsBody) : HidEndpoint :=
  let (e, cons) := f (s.e, s.hid.cons)
  { s with e, hid := { s.hid with cons } }

end HidEndpoint

/-- `enqueue_pending_kb` -/
def enqueuePendingKb (s : HidEndpoint) : HidEndpoint :=
  s.mapHid fun hid => { hid with kb := (kbLane cfg).enqueuePending hid.kb }

/-- `enqueue_pending_cons` -/
def enqueuePendingCons (s : HidEndpoint) : HidEndpoint :=
  s.mapHid fun hid => { hid with cons := (consLane cfg).enqueuePending hid.cons }

/-- `drain_pending_kb` -/
def drainPendingKb (s : HidEndpoint) : HidEndpoint := s.onKb ((kbLane cfg).drainPending cfg)

/-- `drain_pending_cons` -/
def drainPendingCons (s : HidEndpoint) : HidEndpoint := s.onCons ((consLane cfg).drainPending cfg)

/-- `hid_retry_work_fn` -/
def hidRetryWorkFn (s : HidEndpoint) : HidEndpoint :=
  let s := s.mapHid fun hid => { hid with hidRetryWork := none }
  if esbTransportIsQuiet cfg s.e then s.rescheduleRetry cfg
  else drainPendingCons cfg (drainPendingKb cfg s)

/-- `kb_body.modifiers = explicit_mods | implicit_mods` -/
def setModifiers (hid : HidRelay) : HidRelay :=
  { hid with
    kb := { hid.kb with
      body := { hid.kb.body with modifiers := hid.explicitMods.flags ||| hid.implicitMods.flags } } }

/-- `send_keyboard` -/
def sendKeyboard (s : HidEndpoint) : HidEndpoint :=
  let s := s.mapHid setModifiers
  if esbTransportIsQuiet cfg s.e then (enqueuePendingKb cfg s).rescheduleRetry cfg
  else s.onKb ((kbLane cfg).sendLive cfg)

/-- `send_consumer` -/
def sendConsumer (s : HidEndpoint) : HidEndpoint :=
  if esbTransportIsQuiet cfg s.e then (enqueuePendingCons cfg s).rescheduleRetry cfg
  else s.onCons ((consLane cfg).sendLive cfg)

/-! ## The listener -/

/-- `HID_USAGE_KEY` -/
abbrev hidUsageKey : UInt16 := 0x07
/-- `HID_USAGE_CONSUMER` -/
abbrev hidUsageConsumer : UInt16 := 0x0C

/-- `struct zmk_keycode_state_changed` -/
structure KeycodeEvent where
  usagePage : UInt16
  keycode : UInt32
  implicitModifiers : UInt8 := 0
  explicitModifiers : UInt8 := 0
  state : Bool

/-- `is_mod`: the keycodes from `LEFTCONTROL` to `RIGHT_GUI`. -/
def isMod (ev : KeycodeEvent) : Bool :=
  ev.usagePage == hidUsageKey && 0xE0 ≤ ev.keycode && ev.keycode ≤ 0xE7

/-- The modifiers an event carries, taken up or given back. -/
def trackMods (ev : KeycodeEvent) (hid : HidRelay) : HidRelay :=
  let track := if ev.state then modsInc else modsDec
  { hid with
    explicitMods := track ev.explicitModifiers hid.explicitMods
    implicitMods := track ev.implicitModifiers hid.implicitMods }

/-- A keyboard event, in the report state. -/
def trackKey (ev : KeycodeEvent) (hid : HidRelay) : HidRelay :=
  if isMod ev then
    let bit : UInt8 := 1 <<< (ev.keycode - 0xE0).toUInt8
    { hid with
      explicitMods := (if ev.state then modsInc else modsDec) bit hid.explicitMods }
  else
    let keys := if ev.state then kbKeysPress cfg else kbKeysRelease cfg
    trackMods ev { hid with kb := { hid.kb with body := keys ev.keycode hid.kb.body } }

/-- A consumer event, in the report state. -/
def trackConsumer (ev : KeycodeEvent) (hid : HidRelay) : HidRelay :=
  let keys := if ev.state then consKeysPress else consKeysRelease
  trackMods ev { hid with cons := { hid.cons with body := keys ev.keycode hid.cons.body } }

/-- The falling edge of `active`: the rings are emptied. -/
def onInactive (hid : HidRelay) : HidRelay :=
  { hid with
    hidRetryWork := none
    kb := { hid.kb with backlog := hid.kb.backlog.clear }
    cons := { hid.cons with backlog := hid.cons.backlog.clear } }

/-- What `hid_relay_cb` does with an event's page: the new state, and
whether the page is one it relays. -/
def relayEvent (active : Bool) (ev : KeycodeEvent) (s : HidEndpoint) : HidEndpoint × Bool :=
  if ev.usagePage = hidUsageKey then
    let s := s.mapHid (trackKey cfg ev)
    (if active then sendKeyboard cfg s else s, true)
  else if ev.usagePage = hidUsageConsumer then
    let s := s.mapHid (trackConsumer ev)
    let carriesMods := ev.explicitModifiers != 0 || ev.implicitModifiers != 0
    (if active then sendConsumer cfg (if carriesMods then sendKeyboard cfg s else s) else s, true)
  else (s, false)

/-- `hid_relay_cb`, with `zmk_esb_endpoint_is_active()`. It returns whether
the event is `ZMK_EV_EVENT_HANDLED`. -/
def hidRelayCb (endpointActive : Bool) (ev : KeycodeEvent) (s : HidEndpoint) :
    HidEndpoint × Bool :=
  let active := endpointActive && s.e.pairingIsConnected
  let s := s.mapHid fun hid =>
    { (if hid.wasActive && !active then onInactive hid else hid) with wasActive := active }
  let (s, relayed) := relayEvent cfg active ev s
  (s, relayed && active)

end EsbEndpoint
