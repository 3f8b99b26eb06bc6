import EsbEndpoint.HidRelay
import EsbEndpoint.Transport.Frame

/-!
# Every edge is replayed

While the endpoint stays active and connected, each of the relay's two
backlogs takes one snapshot for each report it makes and either queues it
or hands it on behind the queue. So the packets `esb_transport_send` is
handed and what is still queued carry what was taken, in order, less the
entries a full ring shifted out; and since the relay asks
`esb_transport_is_quiet` first, no report is handed over to be dropped
(`keysReplayed_run`).
-/

namespace EsbEndpoint

/-! ## Runs of the relay -/

/-- What happens to the relay: a keycode event, under this answer of
`zmk_esb_endpoint_is_active`; the firing of its work item; or anything
else, which leaves its statics alone. -/
inductive HidOp
  | event (endpointActive : Bool) (ev : KeycodeEvent)
  | retry
  | world (rest : Endpoint)

/-- Whether a keycode event makes a keyboard report: that of a consumer key
does where it carries modifiers. -/
def HidOp.reportsKeyboard : HidOp → Bool
  | .event _ ev =>
    ev.usagePage == hidUsageKey || ev.usagePage == hidUsageConsumer &&
      (ev.explicitModifiers != 0 || ev.implicitModifiers != 0)
  | _ => false

/-- Whether it makes a consumer report. -/
def HidOp.reportsConsumer : HidOp → Bool
  | .event _ ev => ev.usagePage == hidUsageConsumer
  | _ => false

variable (cfg : Config)

def hidStep (s : HidEndpoint) : HidOp → HidEndpoint
  | .event endpointActive ev => (hidRelayCb cfg endpointActive ev s).1
  | .retry => hidRetryWorkFn cfg s
  | .world rest => { s with e := rest }

/-- The calls of `esb_transport_send` an operation makes. -/
def hidHanded (s : HidEndpoint) : HidOp → List (Nat × List UInt8)
  | .world _ => []
  | op => s.e.handedTo (hidStep cfg s op).e

/-- The data field of a `struct esb_pkt_hid_report`: these bytes, and zeros
behind them. -/
def dataField (bytes : List UInt8) : List UInt8 :=
  (bytes ++ List.replicate cfg.esbPktDataMax 0).take cfg.esbPktDataMax

/-- **The reports of a type among the calls**, by their data fields. -/
def hidReportsIn (reportType : UInt8) (calls : List (Nat × List UInt8)) : List (List UInt8) :=
  (calls.filter fun call => call.1 == esbPipeData && isHidReport reportType call.2).map fun call =>
    call.2.drop 2

/-- The relay, the calls it has made, and the bodies its reports had when
it made one. -/
structure ReplayTrace where
  s : HidEndpoint
  calls : List (Nat × List UInt8) := []
  kbTaken : List KbBody := []
  consTaken : List ConsBody := []

/-- No call made yet, and the rings as they are. -/
def ReplayTrace.start (s : HidEndpoint) : ReplayTrace where
  s := s
  kbTaken := s.hid.kb.backlog.pending.map Snapshot.body
  consTaken := s.hid.cons.backlog.pending.map Snapshot.body

def replayStep (t : ReplayTrace) (op : HidOp) : ReplayTrace where
  s := hidStep cfg t.s op
  calls := t.calls ++ hidHanded cfg t.s op
  kbTaken := t.kbTaken ++
    if op.reportsKeyboard then [(hidStep cfg t.s op).hid.kb.body] else []
  consTaken := t.consTaken ++
    if op.reportsConsumer then [(hidStep cfg t.s op).hid.cons.body] else []

/-- Keycode events come while the endpoint is active and connected. -/
def StaysActive (t : ReplayTrace) : HidOp → Prop
  | .event endpointActive _ => (endpointActive && t.s.e.pairingIsConnected) = true
  | _ => True

instance (t : ReplayTrace) : (op : HidOp) → Decidable (StaysActive t op)
  | .event endpointActive _ =>
    inferInstanceAs (Decidable ((endpointActive && t.s.e.pairingIsConnected) = true))
  | .retry => inferInstanceAs (Decidable True)
  | .world _ => inferInstanceAs (Decidable True)

/-- Reports whose history starts here, with whatever is pending. -/
def HidReports.Fresh {β : Type} (depth : Nat) (reports : HidReports β) : Prop :=
  ∃ queue, queue.length ≤ depth ∧ reports.backlog = Backlog.start queue ∧ reports.dropped = []

section Lane

variable {β : Type} (lane : HidLane β)

/-- The data field of a body. -/
def HidLane.field (body : β) : List UInt8 := dataField cfg (lane.bytes body)

/-- **The reports handed over, then the ones pending**: `kb_pending[0..kb_pending_count)`. -/
def HidLane.outgoing (calls : List (Nat × List UInt8)) (reports : HidReports β) :
    List (List UInt8) :=
  hidReportsIn lane.reportType calls ++
    reports.backlog.pending.map fun snapshot => lane.field cfg snapshot.body

/-- **The bodies taken are replayed faithfully**: each is one of the
backlog's snapshots; the reports handed over and the ones pending are
these, once and in order, less those an overrun shifted out, the latest
last; and none was handed over to be dropped. -/
structure HidLane.Replayed (calls : List (Nat × List UInt8)) (reports : HidReports β)
    (bodies : List β) : Prop where
  taken : reports.backlog.taken.map Snapshot.body = bodies
  order : lane.outgoing cfg calls reports =
    (reports.backlog.taken.filter fun snapshot => !reports.backlog.isShifted snapshot).map
      fun snapshot => lane.field cfg snapshot.body
  latest : (lane.outgoing cfg calls reports).getLast? = bodies.getLast?.map (lane.field cfg)
  none_dropped : reports.dropped = []

end Lane

variable {cfg}

/-! ## The packets of a lane -/

theorem drop_hidPacket (reportType : UInt8) (body : List UInt8) :
    (hidPacket cfg reportType body).drop 2 = dataField cfg body := by
  show body.take cfg.esbPktDataMax ++ List.replicate (cfg.esbPktDataMax - body.length) 0 = _
  rw [dataField, List.take_append, List.take_replicate, Nat.min_eq_left (Nat.sub_le _ _)]

theorem hidReportsIn_append (reportType : UInt8) (calls calls' : List (Nat × List UInt8)) :
    hidReportsIn reportType (calls ++ calls') =
      hidReportsIn reportType calls ++ hidReportsIn reportType calls' := by
  unfold hidReportsIn
  rw [List.filter_append, List.map_append]

namespace HidLane

variable {β : Type} (lane : HidLane β)

/-- The call that hands a snapshot over. -/
def call (cfg : Config) (snapshot : Snapshot β) : Nat × List UInt8 :=
  (esbPipeData, lane.packet cfg snapshot.body)

/-- **A lane's calls carry its reports**, and those of no other type. -/
theorem hidReportsIn_calls (reportType : UInt8) (snapshots : List (Snapshot β)) :
    hidReportsIn reportType (snapshots.map (lane.call cfg)) =
      if lane.reportType = reportType then
        snapshots.map fun snapshot => lane.field cfg snapshot.body
      else [] := by
  have htype : ∀ snapshot, isHidReport reportType (lane.call cfg snapshot).2 =
      decide (lane.reportType = reportType) := by
    intro snapshot
    show (some esbPktHidReport == some esbPktHidReport &&
      some lane.reportType == some reportType) = _
    rw [beq_self_eq_true, Bool.true_and, Bool.eq_iff_iff, beq_iff_eq, decide_eq_true_eq,
      Option.some.injEq]
  have hpipe : ∀ snapshot, (lane.call cfg snapshot).1 == esbPipeData := fun _ => rfl
  unfold hidReportsIn
  split
  · rename_i hsame
    have hkept : ∀ call ∈ snapshots.map (lane.call cfg),
        (call.1 == esbPipeData && isHidReport reportType call.2) = true := by
      intro call hcall
      obtain ⟨snapshot, -, rfl⟩ := List.mem_map.1 hcall
      rw [htype, hpipe, decide_eq_true hsame, Bool.and_self]
    rw [List.filter_eq_self.2 hkept, List.map_map]
    exact List.map_congr_left fun snapshot _ => drop_hidPacket lane.reportType _
  · rename_i hother
    have hnone : ∀ call ∈ snapshots.map (lane.call cfg),
        ¬(call.1 == esbPipeData && isHidReport reportType call.2) = true := by
      intro call hcall
      obtain ⟨snapshot, -, rfl⟩ := List.mem_map.1 hcall
      rw [htype, decide_eq_false hother, Bool.and_false]
      exact Bool.false_ne_true
    rw [List.filter_eq_nil_iff.2 hnone]
    rfl

variable {e : Endpoint} (reports : HidReports β)

/-- A snapshot sent outside a quiet window is handed on and not dropped,
and the window stays shut. -/
theorem sendBody_eq (h : esbTransportIsQuiet cfg e = false) (snapshot : Snapshot β) :
    ∃ e', esbTransportIsQuiet cfg e' = false ∧ e'.handed = e.handed ++ [lane.call cfg snapshot] ∧
      lane.sendBody cfg (e, reports) snapshot =
        (e', { reports with backlog := reports.backlog.handOn snapshot }) := by
  have hkept : dropsSilently cfg e esbPipeData (lane.packet cfg snapshot.body) = false := by
    rw [← Bool.not_eq_true, dropsSilently_iff, h]
    exact fun hdrop => Bool.false_ne_true hdrop.2
  refine ⟨(sendHidPkt cfg lane.reportType (lane.bytes snapshot.body) e).1, ?_, ?_, ?_⟩
  · exact isQuiet_esbTransportSend esbPipeData _ h
  · exact handed_esbTransportSend cfg e _ _
  · show (_, { reports with
      backlog := _
      dropped := if dropsSilently cfg e esbPipeData (lane.packet cfg snapshot.body) then _ else _ })
        = _
    rw [hkept, if_neg Bool.false_ne_true]

theorem foldl_sendBody (queue : List (Snapshot β)) (h : esbTransportIsQuiet cfg e = false) :
    ∃ e', esbTransportIsQuiet cfg e' = false ∧
      e'.handed = e.handed ++ queue.map (lane.call cfg) ∧
      queue.foldl (lane.sendBody cfg) (e, reports) =
        (e', { reports with backlog := queue.foldl Backlog.handOn reports.backlog }) := by
  induction queue generalizing e reports with
  | nil => exact ⟨e, h, (List.append_nil _).symm, rfl⟩
  | cons snapshot queue ih =>
    obtain ⟨e₁, h₁, hcall, hsent⟩ := lane.sendBody_eq reports h snapshot
    obtain ⟨e₂, h₂, hcalls, hrest⟩ :=
      ih { reports with backlog := reports.backlog.handOn snapshot } h₁
    refine ⟨e₂, h₂, ?_, ?_⟩
    · rw [hcalls, hcall, List.append_assoc]
      rfl
    · rw [List.foldl_cons, hsent, hrest, List.foldl_cons]

/-- **A drain outside a quiet window** hands the queue on. -/
theorem drainPending_eq (h : esbTransportIsQuiet cfg e = false) :
    ∃ e', esbTransportIsQuiet cfg e' = false ∧
      e'.handed = e.handed ++ (reports.backlog.handsOn .drain).map (lane.call cfg) ∧
      lane.drainPending cfg (e, reports) =
        (e', { reports with backlog := reports.backlog.drain }) := by
  obtain ⟨e', h', hcalls, hfold⟩ := lane.foldl_sendBody reports reports.backlog.pending h
  refine ⟨e', h', hcalls, ?_⟩
  rw [drainPending, hfold, Backlog.foldl_handOn]
  rfl

/-- **A live report outside a quiet window** goes behind the queue. -/
theorem sendLive_eq (h : esbTransportIsQuiet cfg e = false) :
    ∃ e', esbTransportIsQuiet cfg e' = false ∧
      e'.handed = e.handed ++ (reports.backlog.handsOn (.live reports.body)).map (lane.call cfg) ∧
      lane.sendLive cfg (e, reports) =
        (e', { reports with backlog := reports.backlog.move lane.depth (.live reports.body) }) := by
  obtain ⟨e₁, h₁, hcalls, hdrain⟩ := lane.drainPending_eq reports h
  obtain ⟨e₂, h₂, hcall, hsent⟩ := lane.sendBody_eq
    { reports with backlog := reports.backlog.drain.take reports.body } h₁
    (reports.backlog.drain.next reports.body)
  refine ⟨e₂, h₂, ?_, ?_⟩
  · rw [hcall, hcalls, List.append_assoc, ← List.map_singleton, ← List.map_append]
    rfl
  · rw [sendLive, hdrain]
    exact hsent

end HidLane

/-! ## What the relay does to its backlogs -/

variable (cfg)

/-- **The relay has moved its two backlogs**: the calls it made hand on
what they do, the keyboard's first, and none was dropped. -/
structure HidMoved (s : HidEndpoint) (mk : Backlog.Move KbBody) (mc : Backlog.Move ConsBody)
    (s' : HidEndpoint) : Prop where
  kb : s'.hid.kb.backlog = s.hid.kb.backlog.move cfg.hidQuietKbQueueDepth mk
  cons : s'.hid.cons.backlog = s.hid.cons.backlog.move cfg.hidQuietConsQueueDepth mc
  kb_dropped : s'.hid.kb.dropped = s.hid.kb.dropped
  cons_dropped : s'.hid.cons.dropped = s.hid.cons.dropped
  handed : s'.e.handed = s.e.handed ++ ((s.hid.kb.backlog.handsOn mk).map ((kbLane cfg).call cfg) ++
    (s.hid.cons.backlog.handsOn mc).map ((consLane cfg).call cfg))

variable {cfg}

namespace HidMoved

variable {s s₁ s₂ : HidEndpoint} {mk : Backlog.Move KbBody} {mc : Backlog.Move ConsBody}

theorem refl (s : HidEndpoint) : HidMoved cfg s .idle .idle s :=
  ⟨rfl, rfl, rfl, rfl, (List.append_nil _).symm⟩

/-- The keyboard's move, and then the consumer's. -/
theorem trans (hkb : HidMoved cfg s mk .idle s₁) (hcons : HidMoved cfg s₁ .idle mc s₂) :
    HidMoved cfg s mk mc s₂ where
  kb := hcons.kb.trans hkb.kb
  cons := by
    rw [hcons.cons, hkb.cons]
    rfl
  kb_dropped := hcons.kb_dropped.trans hkb.kb_dropped
  cons_dropped := hcons.cons_dropped.trans hkb.cons_dropped
  handed := by
    have hsame : s₁.hid.cons.backlog = s.hid.cons.backlog := hkb.cons
    rw [hcons.handed, hkb.handed, hsame, List.append_assoc]
    show _ ++ ((_ ++ []) ++ ([] ++ _)) = _
    rw [List.append_nil, List.nil_append]

/-- What moves the report state first is not seen. -/
theorem of_tracked (h : HidMoved cfg s₁ mk mc s₂) (he : s₁.e = s.e)
    (hkb : s₁.hid.kb.backlog = s.hid.kb.backlog ∧ s₁.hid.kb.dropped = s.hid.kb.dropped)
    (hcons : s₁.hid.cons.backlog = s.hid.cons.backlog ∧
      s₁.hid.cons.dropped = s.hid.cons.dropped) : HidMoved cfg s mk mc s₂ where
  kb := by rw [h.kb, hkb.1]
  cons := by rw [h.cons, hcons.1]
  kb_dropped := h.kb_dropped.trans hkb.2
  cons_dropped := h.cons_dropped.trans hcons.2
  handed := by rw [h.handed, he, hkb.1, hcons.1]

end HidMoved

variable (s : HidEndpoint)

/-- **`send_keyboard` takes one snapshot**, of the body it leaves. -/
theorem moved_sendKeyboard :
    ∃ m : Backlog.Move KbBody, m.taken = [(sendKeyboard cfg s).hid.kb.body] ∧
      HidMoved cfg s m .idle (sendKeyboard cfg s) := by
  have he : (s.mapHid setModifiers).e = s.e := rfl
  unfold sendKeyboard
  dsimp only
  rw [he]
  cases hquiet : esbTransportIsQuiet cfg s.e with
  | true =>
    exact ⟨.defer (setModifiers s.hid).kb.body, rfl, rfl, rfl, rfl, rfl, (List.append_nil _).symm⟩
  | false =>
    obtain ⟨e', -, hcalls, hlive⟩ := (kbLane cfg).sendLive_eq (setModifiers s.hid).kb hquiet
    have hon : (s.mapHid setModifiers).onKb ((kbLane cfg).sendLive cfg) =
        ⟨e', { setModifiers s.hid with kb := { (setModifiers s.hid).kb with
          backlog := (setModifiers s.hid).kb.backlog.move (kbLane cfg).depth
            (.live (setModifiers s.hid).kb.body) } }⟩ := by
      unfold HidEndpoint.onKb HidEndpoint.mapHid
      dsimp only
      rw [hlive]
    rw [if_neg Bool.false_ne_true, hon]
    refine ⟨.live (setModifiers s.hid).kb.body, rfl, rfl, rfl, rfl, rfl, ?_⟩
    exact hcalls.trans (congrArg _ (List.append_nil _).symm)

/-- **`send_consumer` takes one snapshot**, and leaves the keyboard's
reports alone. -/
theorem moved_sendConsumer :
    (∃ m : Backlog.Move ConsBody, m.taken = [(sendConsumer cfg s).hid.cons.body] ∧
      HidMoved cfg s .idle m (sendConsumer cfg s)) ∧
      (sendConsumer cfg s).hid.kb = s.hid.kb := by
  unfold sendConsumer
  cases hquiet : esbTransportIsQuiet cfg s.e with
  | true =>
    exact ⟨⟨.defer s.hid.cons.body, rfl, rfl, rfl, rfl, rfl, (List.append_nil _).symm⟩, rfl⟩
  | false =>
    obtain ⟨e', -, hcalls, hlive⟩ := (consLane cfg).sendLive_eq s.hid.cons hquiet
    have hon : s.onCons ((consLane cfg).sendLive cfg) =
        ⟨e', { s.hid with cons := { s.hid.cons with
          backlog := s.hid.cons.backlog.move (consLane cfg).depth (.live s.hid.cons.body) } }⟩ := by
      unfold HidEndpoint.onCons
      dsimp only
      rw [hlive]
    rw [if_neg Bool.false_ne_true, hon]
    exact ⟨⟨.live s.hid.cons.body, rfl, rfl, rfl, rfl, rfl, hcalls⟩, rfl⟩

/-- **The work item drains both rings, or neither.** -/
theorem moved_hidRetryWorkFn :
    ∃ mk mc, mk.taken = [] ∧ mc.taken = [] ∧ HidMoved cfg s mk mc (hidRetryWorkFn cfg s) := by
  unfold hidRetryWorkFn
  dsimp only [HidEndpoint.mapHid]
  cases hquiet : esbTransportIsQuiet cfg s.e with
  | true => exact ⟨.idle, .idle, rfl, rfl, rfl, rfl, rfl, rfl, (List.append_nil _).symm⟩
  | false =>
    obtain ⟨e₁, h₁, hkbCalls, hkb⟩ := (kbLane cfg).drainPending_eq s.hid.kb hquiet
    obtain ⟨e₂, -, hconsCalls, hcons⟩ := (consLane cfg).drainPending_eq s.hid.cons h₁
    rw [if_neg Bool.false_ne_true]
    unfold drainPendingCons drainPendingKb HidEndpoint.onCons HidEndpoint.onKb
    dsimp only
    rw [hkb]
    dsimp only
    rw [hcons]
    refine ⟨.drain, .drain, rfl, rfl, rfl, rfl, rfl, rfl, ?_⟩
    rw [← List.append_assoc, ← hkbCalls]
    exact hconsCalls

/-- The report state a keycode event moves is not the rings. -/
theorem track_frame (ev : KeycodeEvent) (hid : HidRelay) :
    ((trackKey cfg ev hid).kb.backlog = hid.kb.backlog ∧
      (trackKey cfg ev hid).kb.dropped = hid.kb.dropped ∧
        (trackKey cfg ev hid).cons = hid.cons) ∧
      ((trackConsumer ev hid).cons.backlog = hid.cons.backlog ∧
        (trackConsumer ev hid).cons.dropped = hid.cons.dropped ∧
          (trackConsumer ev hid).kb = hid.kb) := by
  refine ⟨?_, rfl, rfl, rfl⟩
  unfold trackKey
  split
  · exact ⟨rfl, rfl, rfl⟩
  · exact ⟨rfl, rfl, rfl⟩

/-- The snapshots an operation takes, of the bodies it leaves. -/
def TakesBodies (op : HidOp) (mk : Backlog.Move KbBody) (mc : Backlog.Move ConsBody)
    (s' : HidEndpoint) : Prop :=
  mk.taken = (if op.reportsKeyboard then [s'.hid.kb.body] else []) ∧
    mc.taken = if op.reportsConsumer then [s'.hid.cons.body] else []

/-- **An event takes at most one snapshot of each report**, while the
endpoint is active. -/
theorem moved_relayEvent (endpointActive : Bool) (ev : KeycodeEvent) :
    ∃ mk mc, TakesBodies (.event endpointActive ev) mk mc (relayEvent cfg true ev s).1 ∧
      HidMoved cfg s mk mc (relayEvent cfg true ev s).1 := by
  obtain ⟨⟨hkey, hkeyDropped, hkeyCons⟩, hcons, hconsDropped, hconsKb⟩ :=
    @track_frame cfg ev s.hid
  have hkbReport : HidOp.reportsKeyboard (.event endpointActive ev) =
      (ev.usagePage == hidUsageKey || ev.usagePage == hidUsageConsumer &&
        (ev.explicitModifiers != 0 || ev.implicitModifiers != 0)) := rfl
  have hconsReport : HidOp.reportsConsumer (.event endpointActive ev) =
      (ev.usagePage == hidUsageConsumer) := rfl
  unfold relayEvent TakesBodies
  rw [hkbReport, hconsReport]
  by_cases hkeyPage : ev.usagePage = hidUsageKey
  · -- a key: the keyboard's report alone
    obtain ⟨m, htaken, hmoved⟩ := @moved_sendKeyboard cfg (s.mapHid (trackKey cfg ev))
    have hpage : (ev.usagePage == hidUsageKey) = true := beq_iff_eq.2 hkeyPage
    have hother : (ev.usagePage == hidUsageConsumer) = false := by
      rw [hkeyPage]
      rfl
    rw [if_pos hkeyPage, hpage, hother, Bool.true_or]
    exact ⟨m, .idle, ⟨htaken, rfl⟩, hmoved.of_tracked rfl ⟨hkey, hkeyDropped⟩
      ⟨congrArg HidReports.backlog hkeyCons, congrArg HidReports.dropped hkeyCons⟩⟩
  · have hpage : (ev.usagePage == hidUsageKey) = false := beq_eq_false_iff_ne.2 hkeyPage
    rw [if_neg hkeyPage, hpage, Bool.false_or]
    by_cases hconsPage : ev.usagePage = hidUsageConsumer
    · -- a consumer key: its own report, behind the keyboard's where it carries modifiers
      have hconsumer : (ev.usagePage == hidUsageConsumer) = true := beq_iff_eq.2 hconsPage
      rw [if_pos hconsPage, hconsumer, Bool.true_and, if_pos rfl]
      dsimp only
      rw [if_pos rfl]
      generalize hs₁ : s.mapHid (trackConsumer ev) = s₁
      have htracked : ∀ {mk mc s'}, HidMoved cfg s₁ mk mc s' → HidMoved cfg s mk mc s' := by
        rw [← hs₁]
        exact fun h => h.of_tracked rfl
          ⟨congrArg HidReports.backlog hconsKb, congrArg HidReports.dropped hconsKb⟩
          ⟨hcons, hconsDropped⟩
      cases ev.explicitModifiers != 0 || ev.implicitModifiers != 0 with
      | true =>
        obtain ⟨mk, hkbTaken, hkb⟩ := @moved_sendKeyboard cfg s₁
        obtain ⟨⟨mc, hconsTaken, hcons⟩, hsame⟩ := @moved_sendConsumer cfg (sendKeyboard cfg s₁)
        refine ⟨mk, mc, ⟨?_, hconsTaken⟩, htracked (hkb.trans hcons)⟩
        rw [if_pos rfl, hkbTaken, if_pos rfl, hsame]
      | false =>
        obtain ⟨⟨mc, hconsTaken, hcons⟩, -⟩ := @moved_sendConsumer cfg s₁
        exact ⟨.idle, mc, ⟨rfl, hconsTaken⟩, htracked hcons⟩
    · have hconsumer : (ev.usagePage == hidUsageConsumer) = false := beq_eq_false_iff_ne.2 hconsPage
      rw [if_neg hconsPage, hconsumer, Bool.false_and]
      exact ⟨.idle, .idle, ⟨rfl, rfl⟩, HidMoved.refl s⟩

/-- **A step moves each backlog at most once**, and makes the calls of the
two moves. -/
theorem moved_hidStep (t : ReplayTrace) (op : HidOp) (hactive : StaysActive t op) :
    ∃ mk mc, TakesBodies op mk mc (hidStep cfg t.s op) ∧
      hidHanded cfg t.s op =
        (t.s.hid.kb.backlog.handsOn mk).map ((kbLane cfg).call cfg) ++
          (t.s.hid.cons.backlog.handsOn mc).map ((consLane cfg).call cfg) ∧
      (hidStep cfg t.s op).hid.kb.backlog =
        t.s.hid.kb.backlog.move cfg.hidQuietKbQueueDepth mk ∧
      (hidStep cfg t.s op).hid.cons.backlog =
        t.s.hid.cons.backlog.move cfg.hidQuietConsQueueDepth mc ∧
      (hidStep cfg t.s op).hid.kb.dropped = t.s.hid.kb.dropped ∧
      (hidStep cfg t.s op).hid.cons.dropped = t.s.hid.cons.dropped := by
  cases op with
  | event endpointActive ev =>
    have hon : (endpointActive && t.s.e.pairingIsConnected) = true := hactive
    obtain ⟨mk, mc, htakes, hmoved⟩ := @moved_relayEvent cfg
      (t.s.mapHid fun hid => { hid with wasActive := true }) endpointActive ev
    have hstep : hidStep cfg t.s (.event endpointActive ev) =
        (relayEvent cfg true ev (t.s.mapHid fun hid => { hid with wasActive := true })).1 := by
      simp only [hidStep, hidRelayCb, hon, Bool.not_true, Bool.and_false, Bool.false_eq_true,
        if_false]
    refine ⟨mk, mc, hstep ▸ htakes, ?_, hstep ▸ hmoved.kb, hstep ▸ hmoved.cons,
      hstep ▸ hmoved.kb_dropped, hstep ▸ hmoved.cons_dropped⟩
    exact handedTo_of_append (hstep ▸ hmoved.handed)
  | retry =>
    obtain ⟨mk, mc, hkb, hcons, hmoved⟩ := @moved_hidRetryWorkFn cfg t.s
    exact ⟨mk, mc, ⟨hkb, hcons⟩, handedTo_of_append hmoved.handed, hmoved.kb, hmoved.cons,
      hmoved.kb_dropped, hmoved.cons_dropped⟩
  | world rest => exact ⟨.idle, .idle, ⟨rfl, rfl⟩, rfl, rfl, rfl, rfl, rfl⟩

/-! ## Runs -/

theorem drives_kb : Backlog.Drives (replayStep cfg) StaysActive cfg.hidQuietKbQueueDepth
    fun t => t.s.hid.kb.backlog := by
  intro t op h
  obtain ⟨mk, -, -, -, hkb, -⟩ := moved_hidStep t op h
  exact ⟨mk, hkb⟩

theorem drives_cons : Backlog.Drives (replayStep cfg) StaysActive cfg.hidQuietConsQueueDepth
    fun t => t.s.hid.cons.backlog := by
  intro t op h
  obtain ⟨-, mc, -, -, -, hcons, -⟩ := moved_hidStep t op h
  exact ⟨mc, hcons⟩

/-- **What a lane has done**: its backlog is sound, its calls carry what it
handed on, and what it took are these bodies. -/
structure HidLane.Sound {β : Type} (cfg : Config) (lane : HidLane β)
    (calls : List (Nat × List UInt8)) (reports : HidReports β) (bodies : List β) : Prop where
  sound : reports.backlog.Sound lane.depth
  sent : hidReportsIn lane.reportType calls =
    reports.backlog.sent.map fun snapshot => lane.field cfg snapshot.body
  taken : reports.backlog.taken.map Snapshot.body = bodies
  none_dropped : reports.dropped = []

namespace HidLane.Sound

variable {β : Type} {lane : HidLane β} {calls : List (Nat × List UInt8)}
  {reports reports' : HidReports β} {bodies : List β}

/-- Behind more calls of its own. -/
theorem move (hpos : 1 ≤ lane.depth) (h : lane.Sound cfg calls reports bodies)
    {m : Backlog.Move β} {more : List (Nat × List UInt8)}
    (hmoved : reports'.backlog = reports.backlog.move lane.depth m)
    (hdropped : reports'.dropped = reports.dropped)
    (hmore : hidReportsIn lane.reportType more =
      (reports.backlog.handsOn m).map fun snapshot => lane.field cfg snapshot.body) :
    lane.Sound cfg (calls ++ more) reports' (bodies ++ m.taken) where
  sound := by
    rw [hmoved]
    exact h.sound.move hpos m
  sent := by
    rw [hidReportsIn_append, h.sent, hmore, hmoved, Backlog.sent_move, List.map_append]
  taken := by rw [hmoved, Backlog.taken_move, h.taken]
  none_dropped := hdropped.trans h.none_dropped

/-- What goes out is what was handed on and is pending. -/
theorem outgoing_eq (h : lane.Sound cfg calls reports bodies) :
    lane.outgoing cfg calls reports =
      (reports.backlog.sent ++ reports.backlog.pending).map
        fun snapshot => lane.field cfg snapshot.body := by
  rw [outgoing, h.sent, List.map_append]

theorem replayed (h : lane.Sound cfg calls reports bodies) :
    lane.Replayed cfg calls reports bodies where
  taken := h.taken
  order := by rw [h.outgoing_eq, h.sound.order]
  latest := by
    rw [h.outgoing_eq, List.getLast?_map, h.sound.latest, ← h.taken, List.getLast?_map,
      Option.map_map]
    rfl
  none_dropped := h.none_dropped

/-- A lane that shifted nothing out misses nothing. -/
theorem all (h : lane.Sound cfg calls reports bodies) (hshifted : reports.backlog.shifted = []) :
    lane.outgoing cfg calls reports = bodies.map (lane.field cfg) := by
  rw [h.outgoing_eq, h.sound.replays.all hshifted, ← h.taken, List.map_map]
  rfl

/-- A lane starts with what is pending. -/
theorem start (h : reports.Fresh lane.depth) :
    lane.Sound cfg [] reports (reports.backlog.pending.map Snapshot.body) ∧
      reports.backlog.shifted = [] := by
  obtain ⟨queue, hle, hstart, hdropped⟩ := h
  refine ⟨⟨?_, ?_, ?_, hdropped⟩, ?_⟩
  · rw [hstart]
    exact Backlog.sound_start hle
  · rw [hstart]
    rfl
  · rw [hstart]
    rfl
  · rw [hstart]
    rfl

end HidLane.Sound

/-- What every reachable state satisfies. -/
structure ReplaySound (cfg : Config) (t : ReplayTrace) : Prop where
  kb : (kbLane cfg).Sound cfg t.calls t.s.hid.kb t.kbTaken
  cons : (consLane cfg).Sound cfg t.calls t.s.hid.cons t.consTaken

namespace ReplaySound

variable {t : ReplayTrace} {ops : List HidOp}

/-- **The step lemma.** -/
theorem step (h : ReplaySound cfg t) (op : HidOp) (hactive : StaysActive t op) :
    ReplaySound cfg (replayStep cfg t op) := by
  obtain ⟨mk, mc, ⟨hkbTaken, hconsTaken⟩, hcalls, hkb, hcons, hkbDropped, hconsDropped⟩ :=
    moved_hidStep t op hactive
  have hkbType : (kbLane cfg).reportType ≠ (consLane cfg).reportType := by
    show esbReportKeyboard ≠ esbReportConsumer
    decide
  constructor
  · unfold replayStep
    dsimp only
    rw [← hkbTaken]
    refine h.kb.move cfg.kbQueue_pos hkb hkbDropped ?_
    rw [hcalls, hidReportsIn_append, HidLane.hidReportsIn_calls, HidLane.hidReportsIn_calls,
      if_pos rfl, if_neg hkbType.symm, List.append_nil]
  · unfold replayStep
    dsimp only
    rw [← hconsTaken]
    refine h.cons.move cfg.consQueue_pos hcons hconsDropped ?_
    rw [hcalls, hidReportsIn_append, HidLane.hidReportsIn_calls, HidLane.hidReportsIn_calls,
      if_neg hkbType, if_pos rfl, List.nil_append]

/-- **The run lemma.** -/
theorem run (h : ReplaySound cfg t) (hactive : Guarded (replayStep cfg) StaysActive t ops) :
    Throughout (replayStep cfg) (ReplaySound cfg) t ops :=
  Throughout.of_guarded (fun _ op hs hC => hs.step op hC) h hactive

end ReplaySound

variable {s} {ops : List HidOp}

/-- **Keyboard and consumer edges are replayed faithfully** in every run
whose keycode events come while the endpoint is active and connected,
under any pattern of quiet windows and firings; and where no more
snapshots are queued between two drains than the ring holds, the reports
handed over and pending are all that were taken. -/
theorem keysReplayed_run (cfg : Config) (s : HidEndpoint) (ops : List HidOp)
    (hkb : s.hid.kb.Fresh cfg.hidQuietKbQueueDepth)
    (hcons : s.hid.cons.Fresh cfg.hidQuietConsQueueDepth)
    (hactive : Guarded (replayStep cfg) StaysActive (.start s) ops) :
    Throughout (replayStep cfg) (fun t =>
        (kbLane cfg).Replayed cfg t.calls t.s.hid.kb t.kbTaken ∧
          (consLane cfg).Replayed cfg t.calls t.s.hid.cons t.consTaken) (.start s) ops ∧
      (Throughout (replayStep cfg)
          (fun t => t.s.hid.kb.backlog.sinceDrain ≤ cfg.hidQuietKbQueueDepth) (.start s) ops →
        let t := runFrom (replayStep cfg) (.start s) ops
        (kbLane cfg).outgoing cfg t.calls t.s.hid.kb = t.kbTaken.map ((kbLane cfg).field cfg)) ∧
      (Throughout (replayStep cfg)
          (fun t => t.s.hid.cons.backlog.sinceDrain ≤ cfg.hidQuietConsQueueDepth) (.start s) ops →
        let t := runFrom (replayStep cfg) (.start s) ops
        (consLane cfg).outgoing cfg t.calls t.s.hid.cons =
          t.consTaken.map ((consLane cfg).field cfg)) := by
  obtain ⟨hkbSound, hkbShifted⟩ := @HidLane.Sound.start cfg _ (kbLane cfg) _ hkb
  obtain ⟨hconsSound, hconsShifted⟩ := @HidLane.Sound.start cfg _ (consLane cfg) _ hcons
  have hstart : ReplaySound cfg (.start s) := ⟨hkbSound, hconsSound⟩
  have hrun := hstart.run hactive
  refine ⟨hrun.imp fun t h => ⟨h.kb.replayed, h.cons.replayed⟩, fun hfew => ?_, fun hfew => ?_⟩
  · have hsound : (ReplayTrace.start s).s.hid.kb.backlog.Sound cfg.hidQuietKbQueueDepth :=
      hkbSound.sound
    have hshifted := drives_kb.shifted cfg.kbQueue_pos hsound hactive hfew
    exact hrun.last.kb.all (hshifted.trans hkbShifted)
  · have hsound : (ReplayTrace.start s).s.hid.cons.backlog.Sound cfg.hidQuietConsQueueDepth :=
      hconsSound.sound
    have hshifted := drives_cons.shifted cfg.consQueue_pos hsound hactive hfew
    exact hrun.last.cons.all (hshifted.trans hconsShifted)

/-- A connected keyboard, its transport quiet until this uptime. -/
def connectedKeyboard (txQuietUntilMs : UInt32) : Endpoint :=
  { (Endpoint.bootConnected .default).mapTp fun tp => { tp with txQuietUntilMs } with uptime := 5 }

/-- A key pressed and released in a quiet window, and pressed again behind
it. -/
theorem keysReplayed_run_quiet :
    let press : HidOp := .event true ⟨hidUsageKey, 4, 0, 0, true⟩
    let release : HidOp := .event true ⟨hidUsageKey, 4, 0, 0, false⟩
    let t := runFrom (replayStep .default)
      (.start ⟨connectedKeyboard 7, HidRelay.boot .default⟩)
      [press, release, .world (connectedKeyboard 0), press]
    (kbLane .default).Replayed .default t.calls t.s.hid.kb t.kbTaken ∧
      (kbLane .default).outgoing .default t.calls t.s.hid.kb =
        t.kbTaken.map ((kbLane .default).field .default) := by
  intro press release t
  obtain ⟨hreplayed, hkb, -⟩ := keysReplayed_run .default
    ⟨connectedKeyboard 7, HidRelay.boot .default⟩
    [press, release, .world (connectedKeyboard 0), press] ⟨[], Nat.zero_le _, rfl, rfl⟩
    ⟨[], Nat.zero_le _, rfl, rfl⟩ (by decide +kernel)
  exact ⟨hreplayed.last.1, hkb (by decide +kernel)⟩

end EsbEndpoint
