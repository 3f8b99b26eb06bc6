import EsbEndpoint.Transport.Step

/-!
# The receive hand-over

A payload reaches the callback through one buffer, one length and one work
item: the event handler fills them for every payload the radio has and
submits the work, and `rx_work_fn` passes on what it finds when it runs.
The interrupt can fall between any two of its steps, so the work is three
of them here: taken off its queue, its event built, its callback reading
the buffer. `Delivered` says that what has arrived is what was passed on
and what is still to be; `OneAtATime` is when an interrupt keeps it so.
-/

namespace EsbEndpoint

variable (cfg : Config)

/-! ## The work, step by step -/

/-- How far `rx_work_fn` has come: not running, running with its event
still to be built, or in the callback with this length. -/
inductive RxPhase
  | waiting
  | entered
  | calling (len : Nat)
  deriving DecidableEq

structure RxTrace where
  e : Endpoint
  phase : RxPhase := .waiting
  /-- the payloads `esb_read_rx_payload` returned -/
  arrived : List (List UInt8) := []
  /-- the payloads the callback was given -/
  delivered : List (List UInt8) := []

inductive RxOp
  /-- an `ESB_EVENT_RX_RECEIVED` with these payloads to read -/
  | event (payloads : List (List UInt8))
  /-- `rx_work_fn` is entered -/
  | enter
  /-- it builds its event -/
  | build
  /-- the callback reads the buffer and returns -/
  | call

def rxStep (s : RxTrace) : RxOp → RxTrace
  | .event payloads =>
    { s with
      e := zmkEsbTransportEvtCb cfg (s.e.mapRadio fun r => { r with rxFifo := payloads })
        .rxReceived s.e.radio.lastTxAttempts
      arrived := s.arrived ++ payloads }
  | .enter =>
    if s.phase = .waiting ∧ s.e.tp.rxWork = true then
      { s with e := noteActivity (s.e.mapTp fun tp => { tp with rxWork := false })
               phase := .entered }
    else s
  | .build => if s.phase = .entered then { s with phase := .calling s.e.tp.rxLen } else s
  | .call =>
    match s.phase with
    | .calling len =>
      { s with phase := .waiting, delivered := s.delivered ++ [s.e.tp.rxBuf.take len] }
    | _ => s

/-- What the work now running will pass on, if nothing interrupts it. -/
def RxTrace.running (s : RxTrace) : List (List UInt8) :=
  match s.phase with
  | .waiting => []
  | .entered => [s.e.tp.rxBuf.take s.e.tp.rxLen]
  | .calling len => [s.e.tp.rxBuf.take len]

/-- What its next run will. -/
def RxTrace.queued (s : RxTrace) : List (List UInt8) :=
  if s.e.tp.rxWork then [s.e.tp.rxBuf.take s.e.tp.rxLen] else []

/-- **Nothing is lost or duplicated**: the payloads that arrived are, in
order, those passed on and those about to be. -/
def Delivered (s : RxTrace) : Prop := s.arrived = s.delivered ++ s.running ++ s.queued

instance (s : RxTrace) : Decidable (Delivered s) := inferInstanceAs (Decidable (_ = _))

/-- Payloads of the lengths the radio returns. -/
def ValidPayloads : RxOp → Prop
  | .event payloads =>
    ∀ data ∈ payloads, 0 < data.length ∧ data.length ≤ cfg.esbMaxPayloadLength
  | _ => True

/-- A payload that leaves alone what the running work is still to read. -/
def RxTrace.Spares (s : RxTrace) (data : List UInt8) : Prop :=
  match s.phase with
  | .waiting => True
  | .entered => data = s.e.tp.rxBuf.take s.e.tp.rxLen
  | .calling len => (data ++ s.e.tp.rxBuf.drop data.length).take len = s.e.tp.rxBuf.take len

/-- The condition on an event: it has one payload at most, and if it has
one then the work is not still queued and what it is reading is spared. -/
def OneAtATime (s : RxTrace) : RxOp → Prop
  | .event payloads =>
    payloads = [] ∨ ∃ data, payloads = [data] ∧ s.e.tp.rxWork = false ∧ s.Spares data
  | _ => True

/-! ## What an event does -/

variable {cfg} {s : RxTrace}

/-- Reading valid payloads leaves the last of them in the buffer. -/
theorem foldl_takeRxPayload {payloads : List (List UInt8)} (tp : Transport)
    (h : ∀ data ∈ payloads, 0 < data.length ∧ data.length ≤ cfg.esbMaxPayloadLength) :
    (payloads = [] ∧ payloads.foldl (takeRxPayload cfg) tp = tp) ∨
      ∃ data rest, payloads.getLast? = some data ∧
        (payloads.foldl (takeRxPayload cfg) tp).rxBuf = data ++ rest ∧
        (payloads.foldl (takeRxPayload cfg) tp).rxLen = data.length ∧
        (payloads.foldl (takeRxPayload cfg) tp).rxWork = true := by
  rcases List.eq_nil_or_concat payloads with rfl | ⟨init, data, rfl⟩
  · exact Or.inl ⟨rfl, rfl⟩
  · have hlen := h data (by simp)
    refine Or.inr ⟨data, ((init.foldl (takeRxPayload cfg) tp).rxBuf).drop data.length, by simp, ?_⟩
    rw [List.concat_eq_append, List.foldl_append, List.foldl_cons, List.foldl_nil, takeRxPayload,
      if_pos hlen]
    exact ⟨rfl, rfl, rfl⟩

/-- After an event, the transport is the old one with the payloads read. -/
theorem tp_event {payloads : List (List UInt8)} (hi : s.e.radio.initialized = true) :
    (rxStep cfg s (.event payloads)).e.tp = payloads.foldl (takeRxPayload cfg) s.e.tp := by
  have hinit : (s.e.mapRadio fun r => { r with rxFifo := payloads }).radio.initialized = true := hi
  simp only [rxStep, zmkEsbTransportEvtCb, onRxReceived, hinit, Bool.not_true, Bool.false_eq_true,
    if_false]
  rfl

theorem running_event_iff {data : List UInt8} (hi : s.e.radio.initialized = true)
    (hlen : 0 < data.length ∧ data.length ≤ cfg.esbMaxPayloadLength) :
    (rxStep cfg s (.event [data])).running = s.running ↔ s.Spares data := by
  have htp := @tp_event cfg s [data] hi
  rw [List.foldl_cons, List.foldl_nil, takeRxPayload, if_pos hlen] at htp
  have hphase : (rxStep cfg s (.event [data])).phase = s.phase := rfl
  rw [RxTrace.running, RxTrace.running, RxTrace.Spares, hphase, htp]
  cases s.phase with
  | waiting => exact iff_of_true rfl trivial
  | entered => simp only [List.take_left, List.cons.injEq, and_true]
  | calling len => simp only [List.cons.injEq, and_true]

theorem length_running_event (payloads : List (List UInt8)) :
    (rxStep cfg s (.event payloads)).running.length = s.running.length := by
  have hphase : (rxStep cfg s (.event payloads)).phase = s.phase := rfl
  rw [RxTrace.running, RxTrace.running, hphase]
  cases s.phase <;> rfl

theorem queued_eq_nil_iff : s.queued = [] ↔ s.e.tp.rxWork = false := by
  rw [RxTrace.queued]
  cases s.e.tp.rxWork <;> simp

/-- **An event loses nothing just when it brings one payload at most, to a
buffer no one needs.** -/
theorem delivered_event_iff (hi : s.e.radio.initialized = true) (hs : Delivered s)
    {payloads : List (List UInt8)} (hvalid : ValidPayloads cfg (.event payloads)) :
    Delivered (rxStep cfg s (.event payloads)) ↔ OneAtATime s (.event payloads) := by
  have htp := @tp_event cfg s payloads hi
  rcases foldl_takeRxPayload s.e.tp hvalid with ⟨rfl, -⟩ | ⟨last, rest, hlast, hbuf, hlen, hwork⟩
  · refine iff_of_true ?_ (Or.inl rfl)
    have hphase : (rxStep cfg s (.event [])).phase = s.phase := rfl
    have harrived : (rxStep cfg s (.event [])).arrived = s.arrived := List.append_nil _
    rw [Delivered, RxTrace.running, RxTrace.queued, htp, hphase, harrived]
    exact hs
  · have hqueued : (rxStep cfg s (.event payloads)).queued = [last] := by
      rw [RxTrace.queued, htp, hwork, if_pos rfl, hbuf, hlen, List.take_left]
    have hne : payloads ≠ [] := by
      rintro rfl
      exact absurd hlast (by simp)
    have hsplit : Delivered (rxStep cfg s (.event payloads)) ↔
        s.running ++ (s.queued ++ payloads) =
          (rxStep cfg s (.event payloads)).running ++ [last] := by
      have harrived : (rxStep cfg s (.event payloads)).arrived = s.arrived ++ payloads := rfl
      have hdelivered : (rxStep cfg s (.event payloads)).delivered = s.delivered := rfl
      rw [Delivered, harrived, hdelivered, hqueued, hs]
      simp only [List.append_assoc, List.append_cancel_left_eq]
    rw [hsplit]
    constructor
    · intro heq
      have hrun := @length_running_event cfg s payloads
      -- there is room for one payload only, so none was waiting
      obtain ⟨hrunning, htail⟩ := List.append_inj heq hrun.symm
      have hcount := congrArg List.length htail
      have hpos := List.length_pos_of_ne_nil hne
      rw [List.length_append, List.length_singleton] at hcount
      have hnil : s.queued = [] := List.length_eq_zero_iff.1 (by omega)
      rw [hnil, List.nil_append] at htail
      subst htail
      exact Or.inr ⟨last, rfl, queued_eq_nil_iff.1 hnil,
        (running_event_iff hi (hvalid last (by simp))).1 hrunning.symm⟩
    · rintro (hnil | ⟨data, rfl, hfree, hspares⟩)
      · exact absurd hnil hne
      · obtain rfl : data = last := by simpa using hlast
        rw [queued_eq_nil_iff.2 hfree, List.nil_append,
          (running_event_iff hi (hvalid data (by simp))).2 hspares]

/-- The work itself loses nothing. -/
theorem delivered_work (hs : Delivered s) {op : RxOp} (hop : ∀ payloads, op ≠ .event payloads) :
    Delivered (rxStep cfg s op) := by
  cases op with
  | event payloads => exact absurd rfl (hop payloads)
  | enter =>
    rw [rxStep]
    split
    · rename_i h
      rw [Delivered, RxTrace.running, RxTrace.queued, h.1, h.2] at hs
      simpa [Delivered, RxTrace.running, RxTrace.queued, noteActivity, Endpoint.mapTp] using hs
    · exact hs
  | build =>
    rw [rxStep]
    split
    · rename_i h
      rw [Delivered, RxTrace.running, h] at hs
      exact hs
    · exact hs
  | call =>
    rw [rxStep]
    split
    · rename_i len h
      rw [Delivered, RxTrace.running, h] at hs
      rw [Delivered, hs]
      simp [RxTrace.running, RxTrace.queued]
    · exact hs

theorem initialized_rxStep (hi : s.e.radio.initialized = true) (op : RxOp) :
    (rxStep cfg s op).e.radio.initialized = true := by
  cases op with
  | event payloads =>
    have hinit : (s.e.mapRadio fun r => { r with rxFifo := payloads }).radio.initialized = true :=
      hi
    simp only [rxStep, zmkEsbTransportEvtCb, onRxReceived, hinit, Bool.not_true,
      Bool.false_eq_true, if_false]
    exact hi
  | enter =>
    rw [rxStep]
    split <;> exact hi
  | build =>
    rw [rxStep]
    split <;> exact hi
  | call =>
    rw [rxStep]
    split <;> exact hi

/-- **Every payload is passed on exactly once, in order and whole, exactly
when each interrupt brings one at most and finds the last one taken.** -/
theorem delivered_iff (cfg : Config) (deviceId : List UInt8) (saved : Option PairedRec)
    (ops : List RxOp)
    (h : Guarded (rxStep cfg) (fun _ => ValidPayloads cfg)
      { e := Endpoint.start cfg deviceId saved } ops) :
    Throughout (rxStep cfg) Delivered { e := Endpoint.start cfg deviceId saved } ops ↔
      Guarded (rxStep cfg) OneAtATime { e := Endpoint.start cfg deviceId saved } ops := by
  have hinit : (Endpoint.start cfg deviceId saved).radio.initialized = true :=
    (sound_of_start cfg deviceId saved).initialized
  have hidle : (Endpoint.start cfg deviceId saved).tp.rxWork = false := by
    simp only [Endpoint.start, esbTransportOnSlotStart, Endpoint.mapTp_tp]
    split <;> (rw [esbInitAndConfigure]; split <;> rfl)
  refine throughout_iff_guarded (I := fun s => s.e.radio.initialized = true)
    (fun s op hi _ => initialized_rxStep hi op) (fun s op hi hvalid hs => ?_) hinit ?_ h
  · cases op with
    | event payloads => exact delivered_event_iff hi hs hvalid
    | _ => exact iff_of_true (delivered_work hs (by simp)) trivial
  · simp only [Delivered, RxTrace.running, RxTrace.queued, hidle, Bool.false_eq_true, if_false,
      List.append_nil]

/-- One `DISCONNECT`, passed on. -/
theorem delivered_iff_disconnect :
    Throughout (rxStep .default) Delivered { e := Endpoint.start .default [] none }
        [.event [[esbPktDisconnect]], .enter, .build, .call] ↔
      Guarded (rxStep .default) OneAtATime { e := Endpoint.start .default [] none }
        [.event [[esbPktDisconnect]], .enter, .build, .call] :=
  delivered_iff .default [] none _
    ⟨fun data hdata => by
        rw [List.mem_singleton.1 hdata]
        exact ⟨by decide, by decide⟩,
      trivial, trivial, trivial, trivial⟩

/-- Of two payloads in one interrupt, the first never reaches the
callback. -/
theorem not_delivered : ¬ ∀ (cfg : Config) (deviceId : List UInt8) (saved : Option PairedRec)
    (ops : List RxOp),
    Guarded (rxStep cfg) (fun _ => ValidPayloads cfg)
        { e := Endpoint.start cfg deviceId saved } ops →
      Throughout (rxStep cfg) Delivered { e := Endpoint.start cfg deviceId saved } ops := by
  intro h
  have hrun := h .default [] none
    [.event [[esbPktResync], [esbPktDisconnect]], .enter, .build, .call]
    ⟨fun data hdata => by
        rcases List.mem_cons.1 hdata with rfl | hdata
        · exact ⟨by decide, by decide⟩
        · rw [List.mem_singleton.1 hdata]
          exact ⟨by decide, by decide⟩,
      trivial, trivial, trivial, trivial⟩
  exact absurd hrun.last (by decide +kernel)

end EsbEndpoint
