import EsbEndpoint.Common.Run
import EsbEndpoint.InputProcessor
import EsbEndpoint.Transport.Received
import Mathlib.Data.Fintype.Pi

/-!
# The buttons a mouse report carries

`esb_ip_handle_event` returns before it looks at the event while the
endpoint is not active or not connected, so its mask follows the edges it
saw and not the ones it was shown. A live report is right just when, for
each button, the latest edge seen says what the latest edge says
(`buttonsMatch_iff`).
-/

namespace EsbEndpoint

/-! ## Masks -/

/-- The mask of the buttons that are down. -/
def maskOf (down : Fin 5 → Bool) : UInt8 :=
  (List.finRange 5).foldl (fun mask b => setButton b (down b) mask) 0

/-- An edge changes its own bit. -/
theorem maskOf_update (down : Fin 5 → Bool) (b : Fin 5) (pressed : Bool) :
    maskOf (fun b' => if b = b' then pressed else down b') = setButton b pressed (maskOf down) := by
  revert down b pressed
  decide +kernel

theorem maskOf_bit (down : Fin 5 → Bool) (b : Fin 5) :
    (maskOf down &&& buttonMask b != 0) = down b := by
  revert down b
  decide +kernel

/-- A mask says of each button whether it is down. -/
theorem maskOf_inj {down down' : Fin 5 → Bool} :
    maskOf down = maskOf down' ↔ ∀ b, down b = down' b := by
  constructor
  · intro h b
    rw [← maskOf_bit down b, h, maskOf_bit]
  · intro h
    rw [funext h]

/-! ## Runs of one instance -/

/-- A button's edge, and whether the endpoint was active and connected. -/
structure ButtonEdge where
  button : Fin 5
  pressed : Bool
  up : Bool

/-- The instance, and the edges delivered to it, newest first. -/
structure IpTrace where
  s : IpEndpoint
  edges : List ButtonEdge := []

/-- What happens to an instance: an event, under this answer of
`zmk_esb_endpoint_is_active`; the firing of its work item; or anything
else, which leaves its data alone. -/
inductive IpOp
  | event (endpointActive : Bool) (ev : InputEvent)
  | retry
  | world (rest : Endpoint)

/-- The endpoint is active and connected. -/
def ipUp (s : IpEndpoint) (endpointActive : Bool) : Bool :=
  endpointActive && s.e.pairingIsConnected

/-- The edge of an event. -/
def edgeOf (up : Bool) (ev : InputEvent) : Option ButtonEdge :=
  (eventButton ev).map fun b => ⟨b, ev.value != 0, up⟩

/-- The edges after an operation. -/
def edgesAfter (t : IpTrace) : IpOp → List ButtonEdge
  | .event endpointActive ev => (edgeOf (ipUp t.s endpointActive) ev).toList ++ t.edges
  | _ => t.edges

variable (cfg : Config)

def ipStep (t : IpTrace) (op : IpOp) : IpTrace where
  s :=
    match op with
    | .event endpointActive ev => (esbIpHandleEvent cfg endpointActive ev t.s).1
    | .retry => ipRetryWorkFn cfg t.s
    | .world rest => { t.s with e := rest }
  edges := edgesAfter t op

/-- The mouse reports an operation hands to `esb_transport_send`. -/
def emittedReports (s : IpEndpoint) : IpOp → List MouseBody
  | .world _ => []
  | op => mouseReportsIn (s.e.handedTo (ipStep cfg ⟨s, []⟩ op).s.e)

/-- The buttons of the live report an operation sends. -/
def liveReport (t : IpTrace) : IpOp → Option UInt8
  | .event endpointActive ev => (esbIpHandleEvent cfg endpointActive ev t.s).2.2
  | _ => none

/-- Whether a button's latest edge was a press. -/
def latestPress (edges : List ButtonEdge) (b : Fin 5) : Bool :=
  (edges.find? fun edge => edge.button == b).any ButtonEdge.pressed

/-- Whether its latest edge while the endpoint was up was a press. -/
def latestPressUp (edges : List ButtonEdge) (b : Fin 5) : Bool :=
  latestPress (edges.filter ButtonEdge.up) b

/-- **A live report is right**: the last packet handed over carries its
buttons, and they are the ones whose latest edge was a press. -/
def ButtonsMatch (t : IpTrace) (op : IpOp) : Prop :=
  ∀ buttons, liveReport cfg t op = some buttons →
    (emittedReports cfg t.s op).getLast?.map MouseBody.buttons = some buttons ∧
      buttons = maskOf (latestPress (edgesAfter t op))

/-- Whether an operation sends a live report: the endpoint is up, the
event is a sync or changes the mask, nothing makes it wait, and a mere
sync has no stale motion to drop. -/
def sendsLive (t : IpTrace) : IpOp → Bool
  | .event endpointActive ev =>
    let s := t.s.mapIp (trackInput t.s.e.now ev)
    let buttonChanged := s.ip.buttons != t.s.ip.buttons
    ipUp t.s endpointActive && (ev.sync || buttonChanged) && !mustDefer cfg t.s.e &&
      (buttonChanged || !motionStale cfg s)
  | _ => false

/-- **Every edge was seen that matters**: where a live report is sent, each
button's latest edge says what its latest edge seen while the endpoint
was up says. -/
def EdgesSeen (t : IpTrace) (op : IpOp) : Prop :=
  sendsLive cfg t op = true →
    ∀ b, latestPress (edgesAfter t op) b = latestPressUp (edgesAfter t op) b

variable {cfg} {t : IpTrace}

theorem latestPress_cons (edge : ButtonEdge) (edges : List ButtonEdge) (b : Fin 5) :
    latestPress (edge :: edges) b =
      if edge.button = b then edge.pressed else latestPress edges b := by
  rw [latestPress, List.find?_cons]
  by_cases h : edge.button = b
  · rw [beq_iff_eq.2 h, if_pos h]
    rfl
  · rw [beq_eq_false_iff_ne.2 h, if_neg h]
    rfl

/-! ## What the processor does to its mask -/

section Frame

variable (s : IpEndpoint)

theorem now_sendReports (e : Endpoint) (reports : List RawReport) :
    (sendReports cfg e reports).now = e.now := by
  induction reports generalizing e with
  | nil => rfl
  | cons report reports ih =>
    have hsent : (sendHidReportRaw cfg report.buttons report.deltas e).now = e.now :=
      congrArg UInt32.ofNat (uptime_esbTransportSend esbPipeData _)
    exact (ih _).trans hsent

/-- What a drain leaves alone. -/
theorem drainPendingButtons_frame :
    (drainPendingButtons cfg s).ip.buttons = s.ip.buttons ∧
      (drainPendingButtons cfg s).ip.accumStartMs = s.ip.accumStartMs ∧
      (drainPendingButtons cfg s).e.now = s.e.now := by
  obtain ⟨pending, hdrain⟩ := @drainPendingButtons_eq cfg s
  rw [hdrain]
  exact ⟨rfl, rfl, now_sendReports _ _⟩

theorem motionStale_drainPendingButtons :
    motionStale cfg (drainPendingButtons cfg s) = motionStale cfg s := by
  obtain ⟨-, hstart, hnow⟩ := @drainPendingButtons_frame cfg s
  rw [motionStale, hstart, hnow, motionStale]

theorem buttons_sendMouseReport (buttonChanged : Bool) :
    (sendMouseReport cfg buttonChanged s).1.ip.buttons = s.ip.buttons := by
  obtain ⟨hbuttons, -, -⟩ := @drainPendingButtons_frame cfg s
  unfold sendMouseReport
  dsimp only
  split
  · split <;> rfl
  · split
    · exact hbuttons
    · exact hbuttons

/-- **A live report carries the mask**, and is sent unless something makes
it wait or it is a sync with stale motion. -/
theorem live_sendMouseReport (buttonChanged : Bool) :
    (sendMouseReport cfg buttonChanged s).2 =
      if !mustDefer cfg s.e && (buttonChanged || !motionStale cfg s) then some s.ip.buttons
      else none := by
  obtain ⟨hbuttons, -, -⟩ := @drainPendingButtons_frame cfg s
  unfold sendMouseReport
  cases hdefer : mustDefer cfg s.e with
  | true => rfl
  | false =>
    rw [if_neg Bool.false_ne_true]
    dsimp only
    rw [motionStale_drainPendingButtons]
    cases buttonChanged with
    | true =>
      simp only [Bool.not_true, Bool.false_and, Bool.false_eq_true, if_false, Bool.true_or,
        Bool.not_false, Bool.and_self, if_true]
      exact congrArg some hbuttons
    | false =>
      cases motionStale cfg s with
      | true => rfl
      | false => exact congrArg some hbuttons

/-- What is replayed goes ahead of it. -/
theorem sendMouseReport_of_live {buttonChanged : Bool} {buttons : UInt8}
    (h : (sendMouseReport cfg buttonChanged s).2 = some buttons) :
    (sendMouseReport cfg buttonChanged s).1.e =
      sendReports cfg s.e (pendingReports s ++ [⟨buttons, s.ip.accum⟩]) := by
  obtain ⟨pending, hdrain⟩ := @drainPendingButtons_eq cfg s
  rw [sendReports_append]
  unfold sendMouseReport at h ⊢
  split at h
  · exact nomatch h
  · rename_i hready
    rw [if_neg hready]
    dsimp only at h ⊢
    split at h
    · exact nomatch h
    · rename_i hfresh
      rw [if_neg hfresh, ← Option.some.inj h, hdrain]
      rfl

/-- The work item leaves the mask alone. -/
theorem buttons_ipRetryWorkFn : (ipRetryWorkFn cfg s).ip.buttons = s.ip.buttons := by
  obtain ⟨hbuttons, -, -⟩ :=
    @drainPendingButtons_frame cfg (s.mapIp fun ip => { ip with retryWork := none })
  unfold ipRetryWorkFn
  dsimp only
  split
  · rfl
  · split
    · split
      · exact hbuttons
      · exact hbuttons
    · exact hbuttons

/-- An event's edge moves the mask, and nothing else does. -/
theorem buttons_trackInput (now : UInt32) (ev : InputEvent) (ip : EsbIpData) :
    (trackInput now ev ip).buttons =
      match eventButton ev with
      | some b => setButton b (ev.value != 0) ip.buttons
      | none => ip.buttons := by
  unfold trackInput
  split
  · rename_i hrel
    have hnone : eventButton ev = none := by
      rw [eventButton, dif_neg]
      rintro ⟨hkey, -⟩
      rw [hrel] at hkey
      exact absurd hkey (by decide)
    rw [hnone]
    unfold addMotion
    dsimp only
    split
    · split <;> rfl
    · split <;> rfl
  · cases eventButton ev with
    | none => rfl
    | some b => rfl

end Frame

/-! ## Runs -/

/-- **The mask follows the edges seen** while the endpoint was up. -/
def Tracked (t : IpTrace) : Prop := t.s.ip.buttons = maskOf (latestPressUp t.edges)

/-- An edge delivered while the endpoint was up moves what was seen, and
one delivered while it was down does not. -/
theorem latestPressUp_edgesAfter (up : Bool) (ev : InputEvent) (edges : List ButtonEdge) :
    maskOf (latestPressUp ((edgeOf up ev).toList ++ edges)) =
      if up then
        match eventButton ev with
        | some b => setButton b (ev.value != 0) (maskOf (latestPressUp edges))
        | none => maskOf (latestPressUp edges)
      else maskOf (latestPressUp edges) := by
  rw [edgeOf]
  cases eventButton ev with
  | none => cases up <;> rfl
  | some b =>
    cases up with
    | false => rfl
    | true =>
      have hcons : latestPressUp (⟨b, ev.value != 0, true⟩ :: edges) =
          fun b' => if b = b' then ev.value != 0 else latestPressUp edges b' :=
        funext fun b' => latestPress_cons ⟨b, ev.value != 0, true⟩ _ b'
      show maskOf (latestPressUp (⟨b, ev.value != 0, true⟩ :: edges)) = _
      rw [hcons, maskOf_update]
      rfl

/-- **What an event leaves of the mask, and the live report it sends.** -/
theorem esbIpHandleEvent_spec (s : IpEndpoint) (endpointActive : Bool) (ev : InputEvent) :
    (esbIpHandleEvent cfg endpointActive ev s).1.ip.buttons =
        (if ipUp s endpointActive then (trackInput s.e.now ev s.ip).buttons else s.ip.buttons) ∧
      (esbIpHandleEvent cfg endpointActive ev s).2.2 =
        if sendsLive cfg ⟨s, []⟩ (.event endpointActive ev) then
          some (trackInput s.e.now ev s.ip).buttons
        else none := by
  unfold esbIpHandleEvent
  rw [← Bool.not_and]
  cases hup : endpointActive && s.e.pairingIsConnected with
  | false => exact ⟨by rw [ipUp, hup]; rfl, by simp only [sendsLive, ipUp, hup]; rfl⟩
  | true =>
    simp only [Bool.not_true, Bool.false_eq_true, if_false, ipUp, hup, if_true, sendsLive,
      Bool.true_and]
    generalize hs : s.mapIp (trackInput s.e.now ev) = s₁
    have he : s₁.e = s.e := by rw [← hs]; rfl
    have hip : s₁.ip = trackInput s.e.now ev s.ip := by rw [← hs]; rfl
    rw [← hip, ← he]
    cases hsend : ev.sync || s₁.ip.buttons != s.ip.buttons with
    | false => exact ⟨rfl, rfl⟩
    | true =>
      refine ⟨buttons_sendMouseReport s₁ _, ?_⟩
      simp only [if_true, Bool.true_and]
      exact live_sendMouseReport s₁ _

/-- **The packet of a live report carries its buttons.** -/
theorem packet_of_live {op : IpOp} {buttons : UInt8} (h : liveReport cfg t op = some buttons) :
    (emittedReports cfg t.s op).getLast?.map MouseBody.buttons = some buttons := by
  cases op with
  | event endpointActive ev =>
    have hsent : ∃ reports deltas, (esbIpHandleEvent cfg endpointActive ev t.s).1.e =
        sendReports cfg t.s.e (reports ++ [⟨buttons, deltas⟩]) := by
      rw [liveReport] at h
      unfold esbIpHandleEvent at h ⊢
      split at h
      · exact nomatch h
      · rename_i hup
        rw [if_neg hup]
        dsimp only at h ⊢
        split at h
        · rename_i hreports
          rw [if_pos hreports]
          exact ⟨_, _, sendMouseReport_of_live _ h⟩
        · exact nomatch h
    obtain ⟨reports, deltas, hsent⟩ := hsent
    have hhanded := @handed_sendReports cfg t.s.e (reports ++ [⟨buttons, deltas⟩])
    rw [← hsent] at hhanded
    show (mouseReportsIn (t.s.e.handedTo
      (esbIpHandleEvent cfg endpointActive ev t.s).1.e)).getLast?.map _ = _
    rw [handedTo_of_append hhanded, mouseReportsIn_packets, List.map_append, List.map_singleton,
      List.getLast?_concat]
    rfl
  | retry => exact nomatch h
  | world rest => exact nomatch h

namespace Tracked

/-- **The mask stays tracked.** -/
theorem step (h : Tracked t) (op : IpOp) : Tracked (ipStep cfg t op) := by
  have htracked : t.s.ip.buttons = maskOf (latestPressUp t.edges) := h
  cases op with
  | event endpointActive ev =>
    obtain ⟨hbuttons, -⟩ := @esbIpHandleEvent_spec cfg t.s endpointActive ev
    show (esbIpHandleEvent cfg endpointActive ev t.s).1.ip.buttons = _
    rw [hbuttons, buttons_trackInput, htracked]
    exact (latestPressUp_edgesAfter _ ev t.edges).symm
  | retry => exact (buttons_ipRetryWorkFn t.s).trans htracked
  | world rest => exact htracked

/-- **A live report is right, exactly when** every edge was seen that
matters. -/
theorem match_iff_seen (h : Tracked t) (op : IpOp) :
    ButtonsMatch cfg t op ↔ EdgesSeen cfg t op := by
  have hnext : Tracked (ipStep cfg t op) := h.step op
  cases op with
  | event endpointActive ev =>
    obtain ⟨hbuttons, hlive⟩ := @esbIpHandleEvent_spec cfg t.s endpointActive ev
    have hsends : sendsLive cfg ⟨t.s, []⟩ (.event endpointActive ev) =
        sendsLive cfg t (.event endpointActive ev) := rfl
    rw [hsends] at hlive
    have hmask : (ipStep cfg t (.event endpointActive ev)).s.ip.buttons =
        maskOf (latestPressUp (edgesAfter t (.event endpointActive ev))) := hnext
    have hmatches : ButtonsMatch cfg t (.event endpointActive ev) ↔
        ∀ buttons, liveReport cfg t (.event endpointActive ev) = some buttons →
          buttons = maskOf (latestPress (edgesAfter t (.event endpointActive ev))) :=
      forall_congr' fun _ => imp_congr_right fun h => and_iff_right (packet_of_live h)
    rw [hmatches, EdgesSeen, liveReport, hlive]
    cases hsend : sendsLive cfg t (.event endpointActive ev) with
    | false => exact iff_of_true (fun _ h => nomatch h) (fun h => nomatch h)
    | true =>
      have hup : ipUp t.s endpointActive = true := by
        simp only [sendsLive, Bool.and_eq_true] at hsend
        exact hsend.1.1.1
      rw [hup, if_pos rfl] at hbuttons
      rw [if_pos rfl, ← hbuttons]
      constructor
      · intro hmatch _ b
        have heq := hmatch _ rfl
        exact (maskOf_inj.1 (heq.symm.trans hmask)) b
      · intro hseen buttons heq
        rw [← Option.some.inj heq, maskOf_inj.2 (hseen rfl)]
        exact hmask
  | retry => exact iff_of_true (fun _ h => nomatch h) (fun h => nomatch h)
  | world rest => exact iff_of_true (fun _ h => nomatch h) (fun h => nomatch h)

end Tracked

/-- **The buttons of every live report match, exactly when** every live
report finds the latest edges seen: in no run does a button whose latest
edge was missed while the endpoint was down make the difference. -/
theorem buttonsMatch_iff (cfg : Config) (e : Endpoint) (ops : List IpOp) :
    Guarded (ipStep cfg) (ButtonsMatch cfg) ⟨⟨e, {}⟩, []⟩ ops ↔
      Guarded (ipStep cfg) (EdgesSeen cfg) ⟨⟨e, {}⟩, []⟩ ops := by
  have hstart : Tracked ⟨⟨e, {}⟩, []⟩ := show (0 : UInt8) = maskOf (latestPressUp []) by decide
  exact guarded_congr (I := Tracked) (fun _ op h => h.step op) (fun _ op h => h.match_iff_seen op)
    hstart

/-- A button released while another profile is active is still down in the
next report. -/
theorem not_buttonsMatch : ¬ ∀ (cfg : Config) (e : Endpoint) (ops : List IpOp),
    Guarded (ipStep cfg) (ButtonsMatch cfg) ⟨⟨e, {}⟩, []⟩ ops := by
  intro h
  have hrun := h .default { Endpoint.bootConnected .default with uptime := 5 }
    [.event true ⟨inputEvKey, inputBtn0, 1, true⟩, .event false ⟨inputEvKey, inputBtn0, 0, true⟩,
      .event true ⟨inputEvRel, 0, 3, true⟩]
  have hstuck := (hrun.2.2.1 1 (by decide +kernel)).2
  exact absurd hstuck (by decide +kernel)

end EsbEndpoint
