import EsbEndpoint.InputProcessor.Buttons

/-!
# The motion an input processor holds

An event's delta goes into the accumulator, which both entry points empty
into a report, or as stale, unless the transport makes the report wait. A
sync that has to wait does not schedule the retry by itself
(`motionScheduled_iff`), and a report carries no more than 16 bits of what
is emptied into it (`motionConserved_iff`).
-/

namespace EsbEndpoint

/-! ## The reports of a call -/

variable (cfg : Config)

/-- The buttons and the motion. -/
def currentReport (s : IpEndpoint) : RawReport := ⟨s.ip.buttons, s.ip.accum⟩

/-- What becomes of the accumulator in a call. -/
inductive MotionFate
  | kept
  | reported
  | dropped
  deriving DecidableEq

/-- In `send_mouse_report`: a button edge is reported however old the
motion is. -/
def sendFate (buttonChanged : Bool) (s : IpEndpoint) : MotionFate :=
  if mustDefer cfg s.e then .kept
  else if !buttonChanged && motionStale cfg s then .dropped
  else .reported

/-- In `retry_work_fn`: what is not stamped has nothing to report, nor to
drop. -/
def retryFate (s : IpEndpoint) : MotionFate :=
  if mustDefer cfg s.e || s.ip.accumStartMs == 0 then .kept
  else if motionStale cfg s then .dropped
  else if s.ip.accum.isZero then .kept
  else .reported

/-- The instance as `send_mouse_report` finds it. -/
def tracked (s : IpEndpoint) (ev : InputEvent) : IpEndpoint := s.mapIp (trackInput s.e.now ev)

/-- Whether an event changes the mask. -/
def changesMask (s : IpEndpoint) (ev : InputEvent) : Bool :=
  (tracked s ev).ip.buttons != s.ip.buttons

/-- Whether an event is one to report. -/
def reportsEvent (s : IpEndpoint) (endpointActive : Bool) (ev : InputEvent) : Bool :=
  ipUp s endpointActive && (ev.sync || changesMask s ev)

/-- The instance an operation empties, or does not. -/
def beforeFate (s : IpEndpoint) : IpOp → IpEndpoint
  | .event endpointActive ev => if ipUp s endpointActive then tracked s ev else s
  | _ => s

/-- What becomes of the accumulator in an operation. -/
def motionFate (s : IpEndpoint) : IpOp → MotionFate
  | .event endpointActive ev =>
    if reportsEvent s endpointActive ev then sendFate cfg (changesMask s ev) (tracked s ev)
    else .kept
  | .retry => retryFate cfg s
  | .world _ => .kept

/-- Whether an operation drains the queue of button edges. -/
def drains (s : IpEndpoint) : IpOp → Bool
  | .event endpointActive ev => reportsEvent s endpointActive ev && !mustDefer cfg s.e
  | .retry => !mustDefer cfg s.e
  | .world _ => false

/-- **The reports of an operation**, in order. -/
def reportsOf (s : IpEndpoint) (op : IpOp) : List RawReport :=
  (if drains cfg s op then pendingReports s else []) ++
    if motionFate cfg s op = .reported then [currentReport (beforeFate s op)] else []

variable {cfg} {s : IpEndpoint}

/-! ## What each entry point does with the motion -/

/-- **What `send_mouse_report` does with the motion**: it is kept while the
report has to wait, and only a button edge schedules the retry. -/
theorem sendMouseReport_motion (buttonChanged : Bool) (s : IpEndpoint) :
    (sendMouseReport cfg buttonChanged s).1.e =
        sendReports cfg s.e ((if mustDefer cfg s.e then [] else pendingReports s) ++
          if sendFate cfg buttonChanged s = .reported then [currentReport s] else []) ∧
      (sendMouseReport cfg buttonChanged s).1.ip.accum =
        (if sendFate cfg buttonChanged s = .kept then s.ip.accum else 0) ∧
      (sendMouseReport cfg buttonChanged s).1.ip.retryWork =
        if mustDefer cfg s.e && buttonChanged then some cfg.ipQuietRetryMs
        else s.ip.retryWork := by
  obtain ⟨pending, hdrain⟩ := @drainPendingButtons_eq cfg s
  unfold sendMouseReport sendFate
  cases hdefer : mustDefer cfg s.e with
  | true =>
    cases buttonChanged with
    | true => exact ⟨rfl, rfl, rfl⟩
    | false => exact ⟨rfl, rfl, rfl⟩
  | false =>
    simp only [Bool.false_eq_true, if_false, Bool.false_and, motionStale_drainPendingButtons]
    cases !buttonChanged && motionStale cfg s with
    | true =>
      rw [if_pos rfl, hdrain]
      exact ⟨(congrArg _ (List.append_nil _)).symm, rfl, rfl⟩
    | false =>
      rw [if_neg Bool.false_ne_true, hdrain]
      refine ⟨?_, rfl, rfl⟩
      show _ = sendReports cfg s.e (pendingReports s ++ [currentReport s])
      rw [sendReports_append]
      rfl

/-- **What `retry_work_fn` does with it.** -/
theorem ipRetryWorkFn_motion (s : IpEndpoint) :
    (ipRetryWorkFn cfg s).e = sendReports cfg s.e (reportsOf cfg s .retry) ∧
      (ipRetryWorkFn cfg s).ip.accum = if retryFate cfg s = .kept then s.ip.accum else 0 := by
  generalize hs : s.mapIp (fun ip => { ip with retryWork := none }) = s₁
  have he : s₁.e = s.e := by rw [← hs]; rfl
  have hpending : pendingReports s₁ = pendingReports s := by rw [← hs]; rfl
  have hcurrent : currentReport s₁ = currentReport s := by rw [← hs]; rfl
  have haccum : s₁.ip.accum = s.ip.accum := by rw [← hs]; rfl
  have hstamp : s₁.ip.accumStartMs = s.ip.accumStartMs := by rw [← hs]; rfl
  obtain ⟨pending, hdrain⟩ := @drainPendingButtons_eq cfg s₁
  obtain ⟨-, hstart, hnow⟩ := @drainPendingButtons_frame cfg s₁
  unfold ipRetryWorkFn
  simp only [hs, reportsOf, drains, motionFate, beforeFate, retryFate]
  obtain hdefer | hdefer := Bool.eq_false_or_eq_true (mustDefer cfg s.e)
  · -- put off again
    simp only [he, hdefer, Bool.true_or, if_true]
    exact ⟨he, haccum⟩
  · simp only [he, hdefer, Bool.false_eq_true, if_false, Bool.false_or, Bool.not_false, if_true,
      hstart, hstamp, hnow]
    cases hzero : s.ip.accumStartMs == 0 with
    | true =>
      -- no motion since the last report: the queue alone is drained
      have hne : (s.ip.accumStartMs != 0) = false := by rw [bne, hzero]; rfl
      simp only [hne, Bool.false_eq_true, if_false, if_true, hdrain, he, hpending]
      exact ⟨(congrArg _ (List.append_nil _)).symm, haccum⟩
    | false =>
      have hne : (s.ip.accumStartMs != 0) = true := by rw [bne, hzero]; rfl
      have hheld : (drainPendingButtons cfg s₁).ip.accum = s.ip.accum := by
        rw [hdrain]
        exact haccum
      simp only [hne, if_true, Bool.false_eq_true, if_false, motionStale, Bool.true_and, hheld,
        decide_eq_true_eq]
      by_cases hage : elapsed s.ip.accumStartMs s.e.now ≤ cfg.motionMaxStaleMs
      · rw [if_neg (not_lt.2 hage)]
        cases hempty : s.ip.accum.isZero with
        | true =>
          -- events that added up to nothing
          rw [if_neg (fun h => Bool.noConfusion h.2), hdrain, he, hpending]
          exact ⟨(congrArg _ (List.append_nil _)).symm, (Deltas.isZero_iff.1 hempty).symm⟩
        | false =>
          rw [if_pos ⟨hage, rfl⟩, hdrain, he, hpending]
          refine ⟨?_, rfl⟩
          show _ = sendReports cfg s.e (pendingReports s ++ [currentReport s])
          rw [sendReports_append, ← hcurrent]
          rfl
      · -- stale: emptied without a report
        rw [if_pos (not_le.1 hage), if_neg fun h => hage h.1, hdrain, he, hpending]
        exact ⟨(congrArg _ (List.append_nil _)).symm, rfl⟩

/-- An event leaves the queue and the work item alone until its report. -/
theorem trackInput_frame (now : UInt32) (ev : InputEvent) (ip : EsbIpData) :
    (trackInput now ev ip).pending = ip.pending ∧
      (trackInput now ev ip).retryWork = ip.retryWork := by
  unfold trackInput addMotion
  split
  · dsimp only
    split <;> split <;> exact ⟨rfl, rfl⟩
  · split <;> exact ⟨rfl, rfl⟩

/-- **An event is tracked, and then reported or not.** -/
theorem esbIpHandleEvent_eq (endpointActive : Bool) (ev : InputEvent) (s : IpEndpoint) :
    (esbIpHandleEvent cfg endpointActive ev s).1 =
      if reportsEvent s endpointActive ev then
        (sendMouseReport cfg (changesMask s ev) (tracked s ev)).1
      else beforeFate s (.event endpointActive ev) := by
  show (if !endpointActive || !s.e.pairingIsConnected then (s, false, none)
    else if ev.sync || changesMask s ev then
      ((sendMouseReport cfg (changesMask s ev) (tracked s ev)).1, true,
        (sendMouseReport cfg (changesMask s ev) (tracked s ev)).2)
    else (tracked s ev, true, none)).1 = _
  rw [← Bool.not_and, reportsEvent, beforeFate, ipUp]
  cases endpointActive && s.e.pairingIsConnected with
  | false => rfl
  | true => cases ev.sync || changesMask s ev <;> rfl

/-! ## One operation -/

variable {t : IpTrace}

/-- **What becomes of the accumulator** in an operation. -/
theorem accum_ipStep (t : IpTrace) (op : IpOp) :
    (ipStep cfg t op).s.ip.accum =
      if motionFate cfg t.s op = .kept then (beforeFate t.s op).ip.accum else 0 := by
  cases op with
  | event endpointActive ev =>
    show (esbIpHandleEvent cfg endpointActive ev t.s).1.ip.accum = _
    rw [esbIpHandleEvent_eq, motionFate]
    cases hreports : reportsEvent t.s endpointActive ev with
    | false => rfl
    | true =>
      rw [if_pos rfl, if_pos rfl, (sendMouseReport_motion _ _).2.1, beforeFate,
        if_pos (Bool.and_eq_true_iff.1 hreports).1]
  | retry => exact (ipRetryWorkFn_motion t.s).2
  | world rest => rfl

/-- **The reports are what an operation does to the endpoint.** -/
theorem endpoint_ipStep (t : IpTrace) (op : IpOp) :
    (ipStep cfg t op).s.e =
      match op with
      | .world rest => rest
      | op => sendReports cfg t.s.e (reportsOf cfg t.s op) := by
  cases op with
  | event endpointActive ev =>
    show (esbIpHandleEvent cfg endpointActive ev t.s).1.e = _
    rw [esbIpHandleEvent_eq]
    dsimp only
    rw [reportsOf, motionFate, drains, beforeFate]
    cases hreports : reportsEvent t.s endpointActive ev with
    | false =>
      show (if ipUp t.s endpointActive then tracked t.s ev else t.s).e = t.s.e
      split <;> rfl
    | true =>
      rw [if_pos rfl, if_pos rfl, (sendMouseReport_motion _ _).1,
        if_pos (Bool.and_eq_true_iff.1 hreports).1]
      have hdefer : mustDefer cfg (tracked t.s ev).e = mustDefer cfg t.s.e := rfl
      have hpending : pendingReports (tracked t.s ev) = pendingReports t.s := by
        simp only [pendingReports, tracked, IpEndpoint.mapIp, (trackInput_frame _ ev _).1]
      rw [hdefer, hpending]
      cases mustDefer cfg t.s.e <;> rfl
  | retry => exact (ipRetryWorkFn_motion t.s).1
  | world rest => rfl

/-- **Read back, its packets are these reports.** -/
theorem emittedReports_eq (s : IpEndpoint) (op : IpOp) :
    emittedReports cfg s op =
      (reportsOf cfg s op).map fun report => mouseReportBody report.buttons report.deltas := by
  have hread : ∀ e', e' = sendReports cfg s.e (reportsOf cfg s op) →
      mouseReportsIn (s.e.handedTo e') =
        (reportsOf cfg s op).map fun report => mouseReportBody report.buttons report.deltas := by
    rintro e' rfl
    rw [handedTo_of_append (handed_sendReports s.e _), mouseReportsIn_packets]
  have hsent := @endpoint_ipStep cfg ⟨s, []⟩ op
  cases op with
  | event endpointActive ev => exact hread _ hsent
  | retry => exact hread _ hsent
  | world rest => rfl

/-! ## Stranded motion -/

variable (cfg)

/-- **No motion is stranded**: a sync that leaves motion leaves the retry
scheduled. -/
def MotionScheduled (t : IpTrace) : IpOp → Prop
  | .event endpointActive ev =>
    ipUp t.s endpointActive = true → ev.sync = true →
      (ipStep cfg t (.event endpointActive ev)).s.ip.accum ≠ 0 →
        (ipStep cfg t (.event endpointActive ev)).s.ip.retryWork.isSome = true
  | _ => True

/-- A sync that has to wait with motion, and changes no button, finds the
retry scheduled. -/
def RetryFound (t : IpTrace) : IpOp → Prop
  | .event endpointActive ev =>
    ipUp t.s endpointActive = true → ev.sync = true → mustDefer cfg t.s.e = true →
      changesMask t.s ev = false → (tracked t.s ev).ip.accum ≠ 0 →
        t.s.ip.retryWork.isSome = true
  | _ => True

variable {cfg}

theorem motionScheduled_iff_found (t : IpTrace) (op : IpOp) :
    MotionScheduled cfg t op ↔ RetryFound cfg t op := by
  cases op with
  | event endpointActive ev =>
    refine imp_congr_right fun hup => imp_congr_right fun hsync => ?_
    have hreports : reportsEvent t.s endpointActive ev = true := by
      rw [reportsEvent, hup, hsync]
      rfl
    have hstep : (ipStep cfg t (.event endpointActive ev)).s =
        (sendMouseReport cfg (changesMask t.s ev) (tracked t.s ev)).1 := by
      show (esbIpHandleEvent cfg endpointActive ev t.s).1 = _
      rw [esbIpHandleEvent_eq, if_pos hreports]
    obtain ⟨-, haccum, hretry⟩ := @sendMouseReport_motion cfg (changesMask t.s ev) (tracked t.s ev)
    have hdefer : mustDefer cfg (tracked t.s ev).e = mustDefer cfg t.s.e := rfl
    have hwork : (tracked t.s ev).ip.retryWork = t.s.ip.retryWork :=
      (trackInput_frame t.s.e.now ev t.s.ip).2
    rw [hstep, haccum, hretry, sendFate, hdefer, hwork]
    cases mustDefer cfg t.s.e with
    | false =>
      -- what does not wait is emptied
      refine iff_of_true (fun hne => absurd ?_ hne) fun h => Bool.noConfusion h
      rw [if_neg Bool.false_ne_true]
      split <;> rfl
    | true =>
      -- what waits is kept, and only a button edge schedules the retry
      rw [if_pos rfl, if_pos rfl, Bool.true_and]
      cases changesMask t.s ev with
      | false => exact ⟨fun h _ _ => h, fun h => h rfl rfl⟩
      | true => exact iff_of_true (fun _ => rfl) fun _ h => Bool.noConfusion h
  | retry => exact Iff.rfl
  | world rest => exact Iff.rfl

/-- **In every run** no motion is stranded just when every sync that has to
wait with motion, and changes no button, finds the retry scheduled. -/
theorem motionScheduled_iff (cfg : Config) (e : Endpoint) (ops : List IpOp) :
    Guarded (ipStep cfg) (MotionScheduled cfg) ⟨⟨e, {}⟩, []⟩ ops ↔
      Guarded (ipStep cfg) (RetryFound cfg) ⟨⟨e, {}⟩, []⟩ ops :=
  guarded_congr (I := fun _ => True) (fun _ _ _ => trivial)
    (fun t op _ => motionScheduled_iff_found t op) trivial

/-- A movement in a quiet window waits for the next one. -/
theorem not_motionScheduled : ¬ ∀ (cfg : Config) (e : Endpoint) (ops : List IpOp),
    Guarded (ipStep cfg) (MotionScheduled cfg) ⟨⟨e, {}⟩, []⟩ ops := by
  intro h
  have hrun := h .default
    { (Endpoint.bootConnected .default).mapTp fun tp => { tp with txQuietUntilMs := 7 }
      with uptime := 5 }
    [.event true ⟨inputEvRel, 0, 3, true⟩]
  have hscheduled := hrun.1 (by decide +kernel) rfl (by decide +kernel)
  exact absurd hscheduled (by decide +kernel)

/-! ## Motion lost -/

/-- The instance, with the motion it was given, the deltas of the mouse
reports it handed to the transport and the accumulators it dropped. -/
structure MotionAccount where
  s : IpEndpoint
  given : Deltas := 0
  emitted : Deltas := 0
  dropped : Deltas := 0

/-- The motion of an event. -/
def eventMotion (ev : InputEvent) : Deltas := fun a =>
  if ev.type = inputEvRel ∧ relAxis ev.code = some a then ev.value else 0

/-- The motion an operation gives an instance that is up. -/
def givenBy (s : IpEndpoint) : IpOp → Deltas
  | .event endpointActive ev => if ipUp s endpointActive then eventMotion ev else 0
  | _ => 0

variable (cfg)

/-- The deltas of the reports an operation hands over. -/
def emittedBy (s : IpEndpoint) (op : IpOp) : Deltas := fun a =>
  ((emittedReports cfg s op).map fun body => body.deltas a).sum

/-- The accumulator an operation drops. -/
def droppedBy (s : IpEndpoint) (op : IpOp) : Deltas :=
  if motionFate cfg s op = .dropped then (beforeFate s op).ip.accum else 0

def accountStep (m : MotionAccount) (op : IpOp) : MotionAccount where
  s := (ipStep cfg ⟨m.s, []⟩ op).s
  given := m.given + givenBy m.s op
  emitted := m.emitted + emittedBy cfg m.s op
  dropped := m.dropped + droppedBy cfg m.s op

/-- **Motion is conserved**, on each axis. -/
def MotionConserved (m : MotionAccount) : Prop :=
  ∀ a, m.given a = m.emitted a + m.s.ip.accum a + m.dropped a

/-- The running sums fit in `int32`. -/
def SumsFit (m : MotionAccount) (op : IpOp) : Prop :=
  ∀ a, IsInt32 (m.s.ip.accum a + givenBy m.s op a)

/-- An accumulator that is reported fits a report. -/
def ReportFits (m : MotionAccount) (op : IpOp) : Prop :=
  motionFate cfg m.s op = .reported → ∀ a, IsInt16 (m.s.ip.accum a + givenBy m.s op a)

variable {cfg}

theorem accum_trackInput {now : UInt32} {ev : InputEvent} {ip : EsbIpData} {a : Axis}
    (h : IsInt32 (ip.accum a + eventMotion ev a)) :
    (trackInput now ev ip).accum a = ip.accum a + eventMotion ev a := by
  unfold eventMotion at h ⊢
  unfold trackInput
  by_cases hrel : ev.type = inputEvRel
  · rw [if_pos hrel]
    simp only [hrel, true_and] at h ⊢
    unfold addMotion
    have hstamped : (if ip.accumStartMs == 0 then { ip with accumStartMs := stampOf now }
        else ip).accum = ip.accum := by
      split <;> rfl
    cases haxis : relAxis ev.code with
    | none =>
      rw [if_neg (Option.some_ne_none a ∘ Eq.symm), Int.add_zero]
      exact congrFun hstamped a
    | some axis =>
      dsimp only
      rw [hstamped]
      rw [haxis] at h
      by_cases ha : a = axis
      · rw [if_pos (congrArg some ha.symm)] at h
        rw [if_pos ha, if_pos (congrArg some ha.symm)]
        exact i32_eq_iff.2 h
      · rw [if_neg ha, if_neg fun h => ha (Option.some.inj h).symm, Int.add_zero]
  · rw [if_neg hrel, if_neg fun h => hrel h.1, Int.add_zero]
    split <;> rfl

/-- What is given is added up. -/
theorem accum_beforeFate {m : MotionAccount} {op : IpOp} (h : SumsFit m op) (a : Axis) :
    (beforeFate m.s op).ip.accum a = m.s.ip.accum a + givenBy m.s op a := by
  cases op with
  | event endpointActive ev =>
    have hfit := h a
    unfold givenBy at hfit ⊢
    unfold beforeFate
    dsimp only at hfit ⊢
    split
    · rename_i hup
      rw [if_pos hup] at hfit
      exact accum_trackInput hfit
    · exact (Int.add_zero _).symm
  | retry => exact (Int.add_zero _).symm
  | world rest => exact (Int.add_zero _).symm

/-- What is emitted is the accumulator that is reported, clamped. -/
theorem emittedBy_eq (s : IpEndpoint) (op : IpOp) (a : Axis) :
    emittedBy cfg s op a =
      if motionFate cfg s op = .reported then sat16 ((beforeFate s op).ip.accum a) else 0 := by
  let deltaOf := fun report : RawReport => (mouseReportBody report.buttons report.deltas).deltas a
  have hpending : ((pendingReports s).map deltaOf).sum = 0 := by
    refine List.sum_eq_zero fun d hd => ?_
    simp only [pendingReports, List.map_map, List.mem_map] at hd
    obtain ⟨snapshot, -, rfl⟩ := hd
    exact sat16_of_isInt16 isInt16_zero
  have hdrained : ((if drains cfg s op then pendingReports s else []).map deltaOf).sum = 0 := by
    split
    · exact hpending
    · rfl
  have hread : emittedBy cfg s op a = ((reportsOf cfg s op).map deltaOf).sum := by
    rw [emittedBy, emittedReports_eq, List.map_map]
    rfl
  rw [hread, reportsOf, List.map_append, List.sum_append, hdrained, Int.zero_add]
  split
  · exact List.sum_singleton
  · rfl

/-- **One operation conserves motion, exactly when** what it reports fits. -/
theorem motionConserved_step_iff {m : MotionAccount} {op : IpOp} (hfit : SumsFit m op)
    (h : MotionConserved m) : MotionConserved (accountStep cfg m op) ↔ ReportFits cfg m op := by
  have hsum := fun a => accum_beforeFate hfit a
  have hstep : ∀ a, (m.given + givenBy m.s op) a = (m.emitted + emittedBy cfg m.s op) a +
        (ipStep cfg ⟨m.s, []⟩ op).s.ip.accum a + (m.dropped + droppedBy cfg m.s op) a ↔
      (motionFate cfg m.s op = .reported → IsInt16 (m.s.ip.accum a + givenBy m.s op a)) := by
    intro a
    have hbefore := h a
    rw [accum_ipStep]
    simp only [Pi.add_apply, emittedBy_eq, droppedBy]
    cases motionFate cfg m.s op with
    | kept =>
      simp only [reduceCtorEq, if_true, if_false, false_implies, iff_true, hsum, Pi.zero_apply]
      omega
    | dropped =>
      simp only [reduceCtorEq, if_true, if_false, false_implies, iff_true, hsum, Pi.zero_apply]
      omega
    | reported =>
      simp only [reduceCtorEq, if_true, if_false, true_implies, hsum, Pi.zero_apply,
        ← sat16_eq_iff]
      omega
  exact (forall_congr' hstep).trans forall_comm

/-- **In every run whose running sums fit**, motion is conserved just when
every accumulator that is reported fits its report. -/
theorem motionConserved_iff {e : Endpoint} {ops : List IpOp}
    (hfit : Guarded (accountStep cfg) SumsFit ⟨⟨e, {}⟩, 0, 0, 0⟩ ops) :
    Throughout (accountStep cfg) MotionConserved ⟨⟨e, {}⟩, 0, 0, 0⟩ ops ↔
      Guarded (accountStep cfg) (ReportFits cfg) ⟨⟨e, {}⟩, 0, 0, 0⟩ ops :=
  throughout_iff_guarded (I := fun _ => True) (fun _ _ _ _ => trivial)
    (fun _ _ _ h hP => motionConserved_step_iff h hP) trivial (fun _ => rfl) hfit

/-- A movement that waits, is added to, and is reported. -/
theorem motionConserved_waiting :
    let quiet := { (Endpoint.bootConnected .default).mapTp fun tp => { tp with txQuietUntilMs := 7 }
      with uptime := 5 }
    let ops : List IpOp := [.event true ⟨inputEvRel, 0, 30000, true⟩,
      .world { Endpoint.bootConnected .default with uptime := 9 },
      .event true ⟨inputEvRel, 0, -7, true⟩]
    Throughout (accountStep .default) MotionConserved ⟨⟨quiet, {}⟩, 0, 0, 0⟩ ops := by
  intro quiet ops
  have hfit : Guarded (accountStep .default) SumsFit ⟨⟨quiet, {}⟩, 0, 0, 0⟩ ops := by
    refine ⟨fun a => ?_, fun a => ?_, fun a => ?_, trivial⟩ <;> cases a <;> decide +kernel
  refine (motionConserved_iff hfit).2 ⟨fun _ a => ?_, fun _ a => ?_, fun _ a => ?_, trivial⟩ <;>
    cases a <;> decide +kernel

/-- A fast movement loses what does not fit in 16 bits. -/
theorem not_motionConserved : ¬ ∀ (cfg : Config) (e : Endpoint) (ops : List IpOp),
    Guarded (accountStep cfg) SumsFit ⟨⟨e, {}⟩, 0, 0, 0⟩ ops →
      Throughout (accountStep cfg) MotionConserved ⟨⟨e, {}⟩, 0, 0, 0⟩ ops := by
  intro h
  have hrun := h .default { Endpoint.bootConnected .default with uptime := 5 }
    [.event true ⟨inputEvRel, 0, 40000, true⟩]
    ⟨fun a => by cases a <;> decide +kernel, trivial⟩
  exact absurd (hrun.last .dX) (by decide +kernel)

end EsbEndpoint
