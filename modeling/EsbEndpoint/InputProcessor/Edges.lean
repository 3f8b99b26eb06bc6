import EsbEndpoint.Common.Stutter
import EsbEndpoint.InputProcessor.Accumulator

/-!
# Every button edge is delivered

A button edge leaves through a live report, behind the edges that are
queued, or is queued itself; and the queue leaves through the next report
that need not wait, or through the work item. Reports that are no edge
repeat the mask of the latest one. So what is emitted and what is queued
is the masks after each edge, in order, less the ones a full queue shifted
out (`edgesDelivered`).
-/

namespace EsbEndpoint

/-! ## The edges of a run -/

/-- The mask after an event. -/
def maskAfter (ev : InputEvent) (buttons : UInt8) : UInt8 :=
  match eventButton ev with
  | some b => setButton b (ev.value != 0) buttons
  | none => buttons

/-- **The masks after each edge** of a run that starts with this one. -/
def masksAfter : UInt8 → List IpOp → List UInt8
  | _, [] => []
  | buttons, .event _ ev :: ops =>
    let mask := maskAfter ev buttons
    (if mask = buttons then [] else [mask]) ++ masksAfter mask ops
  | buttons, .retry :: ops => masksAfter buttons ops
  | buttons, .world _ :: ops => masksAfter buttons ops

/-- Each edge changes the mask. -/
theorem isChain_masksAfter (buttons : UInt8) (ops : List IpOp) :
    (buttons :: masksAfter buttons ops).IsChain (· ≠ ·) := by
  induction ops generalizing buttons with
  | nil => exact List.isChain_singleton _
  | cons op ops ih =>
    cases op with
    | event endpointActive ev =>
      rw [masksAfter]
      by_cases hsame : maskAfter ev buttons = buttons
      · rw [if_pos hsame, hsame]
        exact ih buttons
      · rw [if_neg hsame]
        exact List.isChain_cons_cons.2 ⟨Ne.symm hsame, ih _⟩
    | retry => exact ih buttons
    | world rest => exact ih buttons

/-- `pending_buttons[0..pending_count)` -/
def pendingMasks (s : IpEndpoint) : List UInt8 := s.ip.pending.pending.map Snapshot.body

/-- The instance, the buttons of the reports it handed to the transport,
and its edges: taken, handed on, queued and shifted out. -/
structure EdgeTrace where
  s : IpEndpoint
  emitted : List UInt8 := []
  edges : Backlog UInt8 := {}

/-- Nothing emitted yet, and the queue as it is. -/
def EdgeTrace.start (s : IpEndpoint) : EdgeTrace where
  s := s
  edges := Backlog.start (pendingMasks s)

variable (cfg : Config)

/-- What an operation does with the edges: its own is queued, or goes
behind the queue; without one, the queue is drained or left. -/
def edgeMove (s : IpEndpoint) (op : IpOp) : Backlog.Move UInt8 :=
  let mask := (beforeFate s op).ip.buttons
  if mask ≠ s.ip.buttons then (if mustDefer cfg s.e then .defer mask else .live mask)
  else if drains cfg s op then .drain
  else .idle

def edgeStep (t : EdgeTrace) (op : IpOp) : EdgeTrace where
  s := (ipStep cfg ⟨t.s, []⟩ op).s
  emitted := t.emitted ++ (emittedReports cfg t.s op).map MouseBody.buttons
  edges := t.edges.move cfg.ipPendingBtnQueue (edgeMove cfg t.s op)

/-- Events come while the endpoint is active and connected. -/
def StaysUp (t : EdgeTrace) : IpOp → Prop
  | .event endpointActive _ => ipUp t.s endpointActive = true
  | _ => True

instance (t : EdgeTrace) : (op : IpOp) → Decidable (StaysUp t op)
  | .event endpointActive _ => inferInstanceAs (Decidable (ipUp t.s endpointActive = true))
  | .retry => inferInstanceAs (Decidable True)
  | .world _ => inferInstanceAs (Decidable True)

/-- An instance some run from boot leads to. -/
def IpReached (s : IpEndpoint) : Prop :=
  ∃ e ops, s = (runFrom (ipStep cfg) ⟨⟨e, {}⟩, []⟩ ops).s

/-- The edges taken, less the ones shifted out. -/
def keptMasks (t : EdgeTrace) : List UInt8 :=
  (t.edges.taken.filter fun snapshot => !t.edges.isShifted snapshot).map Snapshot.body

/-- **The edges of a run from `s` are delivered**, behind a report of
`initial`: every mask is taken, in order; what is emitted and what is
queued is these, less the ones the instance's own queue shifted out; and
the latest of them is the mask. -/
structure EdgesDelivered (initial : UInt8) (s : IpEndpoint) (masks : List UInt8)
    (t : EdgeTrace) : Prop where
  taken : t.edges.taken.map Snapshot.body = masks
  order : collapse (initial :: (t.emitted ++ pendingMasks t.s)) =
    collapse (initial :: keptMasks t)
  shifted : t.s.ip.pending.shifted.map Snapshot.body =
    s.ip.pending.shifted.map Snapshot.body ++ t.edges.shifted.map Snapshot.body
  latest : masks ≠ [] → (t.emitted ++ pendingMasks t.s).getLast? = some t.s.ip.buttons

variable {cfg} {s : IpEndpoint} {t : EdgeTrace} {op : IpOp} {ops : List IpOp}

/-! ## What an operation does to the mask and the queue -/

theorem buttons_ipStep (s : IpEndpoint) (op : IpOp) :
    (ipStep cfg ⟨s, []⟩ op).s.ip.buttons = (beforeFate s op).ip.buttons := by
  cases op with
  | event endpointActive ev =>
    obtain ⟨hbuttons, -⟩ := @esbIpHandleEvent_spec cfg s endpointActive ev
    show (esbIpHandleEvent cfg endpointActive ev s).1.ip.buttons = _
    rw [hbuttons, beforeFate]
    split <;> rfl
  | retry => exact buttons_ipRetryWorkFn s
  | world rest => rfl

/-- An operation that changes the mask is an event to report. -/
theorem event_of_changes (h : (beforeFate s op).ip.buttons ≠ s.ip.buttons) :
    drains cfg s op = !mustDefer cfg s.e ∧
      (mustDefer cfg s.e = false → motionFate cfg s op = .reported) := by
  cases op with
  | event endpointActive ev =>
    rw [beforeFate] at h
    split at h
    · rename_i hup
      have hchanges : changesMask s ev = true := bne_iff_ne.2 h
      have hreports : reportsEvent s endpointActive ev = true := by
        rw [reportsEvent, hup, hchanges, Bool.or_true]
        rfl
      refine ⟨?_, fun hdefer => ?_⟩
      · rw [drains, hreports, Bool.true_and]
      · have hdefer' : mustDefer cfg (tracked s ev).e = false := hdefer
        rw [motionFate, if_pos hreports, sendFate, hdefer', hchanges]
        rfl
    · exact absurd rfl h
  | retry => exact absurd rfl h
  | world rest => exact absurd rfl h

/-- Without a drain there is no report. -/
theorem motionFate_of_not_drains (h : drains cfg s op = false) :
    motionFate cfg s op = .kept := by
  cases op with
  | event endpointActive ev =>
    rw [motionFate]
    split
    · rename_i hreports
      rw [drains, hreports, Bool.true_and, Bool.not_eq_false'] at h
      have hdefer : mustDefer cfg (tracked s ev).e = true := h
      rw [sendFate, if_pos hdefer]
    · rfl
  | retry =>
    have hdefer : mustDefer cfg s.e = true := by simpa only [drains, Bool.not_eq_false'] using h
    rw [motionFate, retryFate, hdefer]
    rfl
  | world rest => rfl

/-- **The buttons of the reports an operation hands over**: the queue it
drains, and the mask behind it or once more. -/
theorem buttons_emittedReports (s : IpEndpoint) (op : IpOp) :
    (emittedReports cfg s op).map MouseBody.buttons =
      match edgeMove cfg s op with
      | .idle => []
      | .defer _ => []
      | .drain => pendingMasks s ++
          if motionFate cfg s op = .reported then [s.ip.buttons] else []
      | .live mask => pendingMasks s ++ [mask] := by
  have hpending : (pendingReports s).map RawReport.buttons = pendingMasks s := by
    rw [pendingReports, List.map_map]
    rfl
  have hbuttons : (emittedReports cfg s op).map MouseBody.buttons =
      (reportsOf cfg s op).map RawReport.buttons := by
    rw [emittedReports_eq, List.map_map]
    rfl
  rw [hbuttons, reportsOf, edgeMove]
  by_cases hchanges : (beforeFate s op).ip.buttons ≠ s.ip.buttons
  · obtain ⟨hdrains, hreported⟩ := @event_of_changes cfg s op hchanges
    rw [if_pos hchanges, hdrains]
    cases hdefer : mustDefer cfg s.e with
    | true =>
      rw [hdefer] at hdrains
      rw [motionFate_of_not_drains hdrains]
      rfl
    | false =>
      rw [hreported hdefer, List.map_append]
      exact congrArg (· ++ _) hpending
  · rw [if_neg hchanges]
    cases hdrains : drains cfg s op with
    | false =>
      rw [motionFate_of_not_drains hdrains]
      rfl
    | true =>
      rw [if_pos rfl, if_pos rfl, List.map_append, hpending]
      split
      · exact congrArg (fun mask => pendingMasks s ++ [mask]) (not_ne_iff.1 hchanges)
      · rfl

/-- An edge is taken just when the mask changes. -/
theorem taken_edgeMove (s : IpEndpoint) (op : IpOp) :
    (edgeMove cfg s op).taken =
      if (beforeFate s op).ip.buttons = s.ip.buttons then []
      else [(beforeFate s op).ip.buttons] := by
  rw [edgeMove]
  by_cases hsame : (beforeFate s op).ip.buttons = s.ip.buttons
  · rw [if_neg (not_not.2 hsame), if_pos hsame]
    split <;> rfl
  · rw [if_pos hsame, if_neg hsame]
    split <;> rfl

/-- **A drain hands the queue on.** -/
theorem pending_drainPendingButtons (s : IpEndpoint) :
    (drainPendingButtons cfg s).ip.pending = s.ip.pending.drain := by
  have hfold : ∀ (queue : List (Snapshot UInt8)) (s : IpEndpoint),
      (queue.foldl (sendPendingButton cfg) s).ip.pending =
        queue.foldl Backlog.handOn s.ip.pending := by
    intro queue
    induction queue with
    | nil => exact fun _ => rfl
    | cons snapshot queue ih => exact fun s => ih (sendPendingButton cfg s snapshot)
  show Backlog.clear (s.ip.pending.pending.foldl (sendPendingButton cfg) s).ip.pending = _
  rw [hfold, Backlog.foldl_handOn]
  rfl

theorem pending_sendMouseReport (buttonChanged : Bool) (s : IpEndpoint) :
    (sendMouseReport cfg buttonChanged s).1.ip.pending =
      if mustDefer cfg s.e then
        if buttonChanged then s.ip.pending.defer cfg.ipPendingBtnQueue s.ip.buttons
        else s.ip.pending
      else s.ip.pending.drain := by
  have hdrain := @pending_drainPendingButtons cfg s
  unfold sendMouseReport
  cases mustDefer cfg s.e with
  | true => cases buttonChanged <;> rfl
  | false =>
    rw [if_neg Bool.false_ne_true, if_neg Bool.false_ne_true]
    dsimp only
    split
    · exact hdrain
    · exact hdrain

theorem pending_ipRetryWorkFn (s : IpEndpoint) :
    (ipRetryWorkFn cfg s).ip.pending =
      if mustDefer cfg s.e then s.ip.pending else s.ip.pending.drain := by
  generalize hs : s.mapIp (fun ip => { ip with retryWork := none }) = s₁
  have he : s₁.e = s.e := by rw [← hs]; rfl
  have hpending : s₁.ip.pending = s.ip.pending := by rw [← hs]; rfl
  have hdrain := @pending_drainPendingButtons cfg s₁
  rw [hpending] at hdrain
  unfold ipRetryWorkFn
  simp only [hs, he]
  split
  · exact hpending
  · split
    · split
      · exact hdrain
      · exact hdrain
    · exact hdrain

/-- **The instance's queue moves as the edges do**, though it is not shown
the ones that pass it by. -/
theorem pending_ipStep (s : IpEndpoint) (op : IpOp) :
    (ipStep cfg ⟨s, []⟩ op).s.ip.pending =
      s.ip.pending.move cfg.ipPendingBtnQueue (edgeMove cfg s op).queued := by
  cases op with
  | event endpointActive ev =>
    show (esbIpHandleEvent cfg endpointActive ev s).1.ip.pending = _
    have hqueue : (tracked s ev).ip.pending = s.ip.pending :=
      (trackInput_frame s.e.now ev s.ip).1
    have hdefer : mustDefer cfg (tracked s ev).e = mustDefer cfg s.e := rfl
    rw [esbIpHandleEvent_eq, edgeMove, beforeFate, drains]
    cases hup : ipUp s endpointActive with
    | false =>
      -- not up: nothing is looked at
      rw [reportsEvent, hup]
      simp only [Bool.false_and, Bool.false_eq_true, if_false, ne_eq, not_true_eq_false]
      rfl
    | true =>
      cases hchanges : changesMask s ev with
      | true =>
        have hne : (tracked s ev).ip.buttons ≠ s.ip.buttons := bne_iff_ne.1 hchanges
        rw [reportsEvent, hup, hchanges, Bool.or_true, Bool.true_and, if_pos rfl, if_pos rfl,
          if_pos hne, pending_sendMouseReport, hqueue, hdefer]
        cases mustDefer cfg s.e <;> rfl
      | false =>
        have hsame : ¬ (tracked s ev).ip.buttons ≠ s.ip.buttons := by
          rw [← bne_iff_ne]
          exact fun h => Bool.false_ne_true (hchanges.symm.trans h)
        rw [reportsEvent, hup, hchanges, Bool.or_false, Bool.true_and, if_pos rfl, if_neg hsame]
        cases ev.sync with
        | false => exact hqueue
        | true =>
          rw [if_pos rfl, pending_sendMouseReport, hqueue, hdefer]
          cases mustDefer cfg s.e <;> rfl
  | retry =>
    have hmove : edgeMove cfg s .retry = if drains cfg s .retry then .drain else .idle :=
      if_neg (not_not.2 rfl)
    show (ipRetryWorkFn cfg s).ip.pending = _
    rw [pending_ipRetryWorkFn, hmove, drains]
    cases mustDefer cfg s.e <;> rfl
  | world rest =>
    have hmove : edgeMove cfg s (.world rest) = .idle := if_neg (not_not.2 rfl)
    show s.ip.pending = _
    rw [hmove]
    rfl

/-! ## Runs -/

/-- The history of a run: its edges are a backlog, the instance's queue is
theirs, and what was emitted is what was handed on, with repeats. -/
structure EdgeInv (cfg : Config) (initial : UInt8) (base : List UInt8) (t : EdgeTrace) :
    Prop where
  sound : t.edges.Sound cfg.ipPendingBtnQueue
  mirrors : Backlog.Mirrors base t.s.ip.pending t.edges
  stutters : Stutters initial (t.edges.sent.map Snapshot.body) t.emitted
  latest : (initial :: t.edges.taken.map Snapshot.body).getLast? = some t.s.ip.buttons

namespace EdgeInv

variable {initial : UInt8} {base : List UInt8}

/-- What is handed on and queued ends on the mask too. -/
theorem latest_kept (h : EdgeInv cfg initial base t) :
    (initial :: (t.edges.sent ++ t.edges.pending).map Snapshot.body).getLast? =
      some t.s.ip.buttons := by
  rw [← h.latest, List.getLast?_cons, List.getLast?_cons, List.getLast?_map, List.getLast?_map,
    h.sound.latest]

/-- **The step lemma.** -/
theorem step (h : EdgeInv cfg initial base t) (op : IpOp) :
    EdgeInv cfg initial base (edgeStep cfg t op) where
  sound := h.sound.move cfg.btnQueue_pos _
  mirrors := by
    show Backlog.Mirrors base (ipStep cfg ⟨t.s, []⟩ op).s.ip.pending _
    rw [pending_ipStep]
    exact h.mirrors.move _
  stutters := by
    have hqueue : pendingMasks t.s = t.edges.pending.map Snapshot.body := h.mirrors.pending
    have hdrained := h.stutters.append (pendingMasks t.s)
    rw [hqueue, ← List.map_append, ← hqueue] at hdrained
    show Stutters initial ((t.edges.move _ (edgeMove cfg t.s op)).sent.map Snapshot.body)
      (t.emitted ++ (emittedReports cfg t.s op).map MouseBody.buttons)
    rw [buttons_emittedReports]
    cases edgeMove cfg t.s op with
    | idle =>
      rw [List.append_nil]
      exact h.stutters
    | defer mask =>
      have hsent : (t.edges.makeRoom cfg.ipPendingBtnQueue).sent = t.edges.sent := by
        rw [Backlog.makeRoom]
        split <;> rfl
      rw [List.append_nil]
      show Stutters initial ((t.edges.makeRoom cfg.ipPendingBtnQueue).sent.map Snapshot.body) _
      rw [hsent]
      exact h.stutters
    | drain =>
      show Stutters initial ((t.edges.sent ++ t.edges.pending).map Snapshot.body)
        (t.emitted ++ (pendingMasks t.s ++ _))
      rw [← List.append_assoc]
      split
      · -- the mask once more
        exact .again h.latest_kept hdrained
      · rw [List.append_nil]
        exact hdrained
    | live mask =>
      show Stutters initial ((t.edges.sent ++ t.edges.pending ++ [_]).map Snapshot.body)
        (t.emitted ++ (pendingMasks t.s ++ [mask]))
      rw [← List.append_assoc, List.map_append]
      exact hdrained.emit mask
  latest := by
    show (initial :: (t.edges.move _ (edgeMove cfg t.s op)).taken.map Snapshot.body).getLast? =
      some (ipStep cfg ⟨t.s, []⟩ op).s.ip.buttons
    rw [Backlog.taken_move, taken_edgeMove, buttons_ipStep]
    split
    · rename_i hsame
      rw [List.append_nil, hsame]
      exact h.latest
    · exact getLast?_cons_concat _ _ _

/-- A run starts with the queue as its history. -/
theorem start (hroom : (pendingMasks s).length ≤ cfg.ipPendingBtnQueue)
    (hlatest : (initial :: pendingMasks s).getLast? = some s.ip.buttons) :
    EdgeInv cfg initial (s.ip.pending.shifted.map Snapshot.body) (.start s) := by
  have hbodies : (Backlog.start (pendingMasks s)).pending.map Snapshot.body = pendingMasks s := by
    have hbody : (Snapshot.body ∘ fun p : UInt8 × Nat => Snapshot.mk p.2 p.1) = Prod.fst := rfl
    rw [Backlog.start, List.map_map, hbody, List.zipIdx_map_fst]
  refine ⟨Backlog.sound_start hroom, ⟨?_, ?_⟩, .start, ?_⟩
  · exact hbodies.symm
  · exact (List.append_nil _).symm
  · show (initial :: (Backlog.start (pendingMasks s)).pending.map Snapshot.body).getLast? = _
    rw [hbodies]
    exact hlatest

/-- **The run lemma.** -/
theorem run (h : EdgeInv cfg initial base t) (ops : List IpOp) :
    EdgeInv cfg initial base (runFrom (edgeStep cfg) t ops) :=
  (Throughout.of_step (fun _ op h => h.step op) h).last

/-- **What is emitted and queued** is what was handed on and queued, with
repeats. -/
theorem stutters_pending (h : EdgeInv cfg initial base t) :
    Stutters initial ((t.edges.sent ++ t.edges.pending).map Snapshot.body)
      (t.emitted ++ pendingMasks t.s) := by
  have hqueue : pendingMasks t.s = t.edges.pending.map Snapshot.body := h.mirrors.pending
  rw [hqueue, List.map_append]
  exact h.stutters.append _

/-- **Every edge is delivered** that the history took. -/
theorem delivered (h : EdgeInv cfg initial (s.ip.pending.shifted.map Snapshot.body) t) :
    EdgesDelivered initial s (t.edges.taken.map Snapshot.body) t where
  taken := rfl
  order := by
    have hcollapse := h.stutters_pending.collapse_eq []
    rw [List.append_nil, List.append_nil] at hcollapse
    rw [hcollapse, keptMasks, ← h.sound.order]
  shifted := h.mirrors.shifted
  latest := by
    intro hmasks
    have hlast := h.stutters_pending.latest
    rw [h.latest_kept] at hlast
    cases hall : t.emitted ++ pendingMasks t.s with
    | nil =>
      -- nothing emitted or queued: nothing was taken
      have hkept := List.map_eq_nil_iff.1 (h.stutters_pending.eq_nil hall)
      have htaken := h.sound.latest
      rw [hkept] at htaken
      rw [List.getLast?_eq_none_iff.1 htaken.symm] at hmasks
      exact absurd rfl hmasks
    | cons mask rest =>
      rw [hall, List.getLast?_cons_cons] at hlast
      exact hlast

end EdgeInv

/-- A run's instance is the instance's run. -/
theorem s_runFrom_edgeStep (t : EdgeTrace) (edges : List ButtonEdge) (ops : List IpOp) :
    (runFrom (edgeStep cfg) t ops).s = (runFrom (ipStep cfg) ⟨t.s, edges⟩ ops).s := by
  induction ops generalizing t edges with
  | nil => rfl
  | cons op ops ih => exact ih (edgeStep cfg t op) (edgesAfter ⟨t.s, edges⟩ op)

/-- **The queue of a reached instance** fits, and ends on the mask. -/
theorem IpReached.queue (h : IpReached cfg s) :
    (pendingMasks s).length ≤ cfg.ipPendingBtnQueue ∧
      (pendingMasks s ≠ [] → (pendingMasks s).getLast? = some s.ip.buttons) := by
  obtain ⟨e, ops, rfl⟩ := h
  have hstart := @EdgeInv.start cfg ⟨e, {}⟩ 0 (Nat.zero_le _) rfl
  have hrun := hstart.run ops
  have hs := @s_runFrom_edgeStep cfg (.start ⟨e, {}⟩) [] ops
  generalize runFrom (edgeStep cfg) (.start ⟨e, {}⟩) ops = t at hrun hs
  have hs' : (runFrom (ipStep cfg) ⟨⟨e, {}⟩, []⟩ ops).s = t.s := hs.symm
  have hqueue : pendingMasks t.s = t.edges.pending.map Snapshot.body := hrun.mirrors.pending
  rw [hs']
  refine ⟨?_, fun hne => ?_⟩
  · rw [hqueue, List.length_map]
    exact hrun.sound.room
  · have hlast := hrun.latest_kept
    rw [List.map_append, ← hqueue, ← List.cons_append, List.getLast?_append_of_ne_nil _ hne]
      at hlast
    exact hlast

/-- An operation's own edge comes first. -/
theorem masksAfter_cons (hup : StaysUp t op) (ops : List IpOp) :
    masksAfter t.s.ip.buttons (op :: ops) =
      (edgeMove cfg t.s op).taken ++ masksAfter (edgeStep cfg t op).s.ip.buttons ops := by
  rw [taken_edgeMove]
  show _ = _ ++ masksAfter (ipStep cfg ⟨t.s, []⟩ op).s.ip.buttons ops
  rw [buttons_ipStep]
  cases op with
  | event endpointActive ev =>
    have hbefore : (beforeFate t.s (.event endpointActive ev)).ip.buttons =
        maskAfter ev t.s.ip.buttons := by
      have hup' : ipUp t.s endpointActive = true := hup
      rw [beforeFate, if_pos hup']
      exact buttons_trackInput _ ev _
    rw [hbefore]
    rfl
  | retry =>
    show masksAfter t.s.ip.buttons ops = (if t.s.ip.buttons = t.s.ip.buttons then [] else _) ++ _
    rw [if_pos rfl]
    rfl
  | world rest =>
    show masksAfter t.s.ip.buttons ops = (if t.s.ip.buttons = t.s.ip.buttons then [] else _) ++ _
    rw [if_pos rfl]
    rfl

/-- **A run takes the masks after each edge**, while the endpoint is up. -/
theorem taken_runFrom (hup : Guarded (edgeStep cfg) StaysUp t ops) :
    (runFrom (edgeStep cfg) t ops).edges.taken.map Snapshot.body =
      t.edges.taken.map Snapshot.body ++ masksAfter t.s.ip.buttons ops := by
  induction ops generalizing t with
  | nil => exact (List.append_nil _).symm
  | cons op ops ih =>
    rw [runFrom_cons, ih hup.2, @masksAfter_cons cfg t op hup.1, ← List.append_assoc,
      ← @Backlog.taken_move _ cfg.ipPendingBtnQueue]
    rfl

theorem drives_edges : Backlog.Drives (edgeStep cfg) StaysUp cfg.ipPendingBtnQueue
    EdgeTrace.edges :=
  fun t op _ => ⟨edgeMove cfg t.s op, rfl⟩

/-- **Button edges are delivered in order across deferrals**, from any
instance a run leads to, with `initial` as its mask where nothing is
queued, in every run whose events come while the endpoint is active and
connected: every mask in order, less those shifted out of a full queue; and
where no more are queued between two drains than the queue holds, none is
missing. -/
theorem edgesDelivered {initial : UInt8} (hs : IpReached cfg s)
    (hinitial : pendingMasks s = [] → s.ip.buttons = initial)
    (hup : Guarded (edgeStep cfg) StaysUp (.start s) ops) :
    EdgesDelivered initial s (pendingMasks s ++ masksAfter s.ip.buttons ops)
        (runFrom (edgeStep cfg) (.start s) ops) ∧
      (Throughout (edgeStep cfg) (fun t => t.edges.sinceDrain ≤ cfg.ipPendingBtnQueue)
          (.start s) ops →
        collapse (initial :: ((runFrom (edgeStep cfg) (.start s) ops).emitted ++
            pendingMasks (runFrom (edgeStep cfg) (.start s) ops).s)) =
          collapse (initial :: pendingMasks s) ++ masksAfter s.ip.buttons ops) := by
  obtain ⟨hroom, hends⟩ := hs.queue
  have hlatest : (initial :: pendingMasks s).getLast? = some s.ip.buttons := by
    cases hqueue : pendingMasks s with
    | nil => rw [hinitial hqueue]; rfl
    | cons mask rest =>
      rw [List.getLast?_cons_cons, ← hqueue]
      exact hends (hqueue ▸ List.cons_ne_nil mask rest)
  have hstart := @EdgeInv.start cfg s initial hroom hlatest
  have hdelivered := (hstart.run ops).delivered
  have htaken := taken_runFrom hup
  rw [show (EdgeTrace.start s).edges.taken.map Snapshot.body = pendingMasks s from
    hstart.mirrors.pending.symm] at htaken
  rw [htaken] at hdelivered
  refine ⟨hdelivered, fun hfew => ?_⟩
  have hshifted := drives_edges.shifted cfg.btnQueue_pos hstart.sound hup hfew
  have hall := (hstart.run ops).sound.replays.all hshifted
  have hkept : keptMasks (runFrom (edgeStep cfg) (.start s) ops) =
      pendingMasks s ++ masksAfter s.ip.buttons ops := by
    rw [keptMasks, ← (hstart.run ops).sound.order, hall]
    exact htaken
  rw [hdelivered.order, hkept]
  exact collapse_append hlatest (isChain_masksAfter _ ops)

/-- A press and a release queued in a quiet window, replayed by the work
item, and a click of another button sent live. -/
theorem edgesDelivered_click :
    let quiet := { (Endpoint.bootConnected .default).mapTp fun tp => { tp with txQuietUntilMs := 7 }
      with uptime := 5 }
    let ops : List IpOp := [.event true ⟨inputEvKey, inputBtn0, 1, true⟩,
      .event true ⟨inputEvRel, 0, 3, true⟩, .event true ⟨inputEvKey, inputBtn0, 0, true⟩,
      .world { Endpoint.bootConnected .default with uptime := 9 }, .retry,
      .event true ⟨inputEvKey, 0x101, 1, true⟩]
    collapse (0 :: ((runFrom (edgeStep .default) (.start ⟨quiet, {}⟩) ops).emitted ++
      pendingMasks (runFrom (edgeStep .default) (.start ⟨quiet, {}⟩) ops).s)) = [0, 1, 0, 2] := by
  intro quiet ops
  have hup : Guarded (edgeStep .default) StaysUp (.start ⟨quiet, {}⟩) ops := by decide +kernel
  have hfew : Throughout (edgeStep .default)
      (fun t => t.edges.sinceDrain ≤ Config.default.ipPendingBtnQueue)
      (.start ⟨quiet, {}⟩) ops := by decide +kernel
  have hreached : IpReached .default ⟨quiet, {}⟩ := ⟨quiet, [], rfl⟩
  rw [(@edgesDelivered .default ⟨quiet, {}⟩ ops 0 hreached (fun _ => rfl) hup).2 hfew]
  decide

end EsbEndpoint
