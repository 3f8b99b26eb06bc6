import EsbEndpoint.Common.Run
import EsbEndpoint.Shell.Session
import EsbEndpoint.Shell.Work

/-!
# Background polling

While no session is on, the keyboard reaches the dongle only by the
background poll, so its work item has to be scheduled. A session takes it
off, a disconnect takes it off, a connect puts it back; but the inactivity
timeout ends a session and puts nothing back. Polling lives on just as
long as no session of a connected keyboard times out (`pollingAlive_iff`).
-/

namespace EsbEndpoint

/-! ## Runs of the relay -/

/-- What happens to the relay: its entry points, its work items, the two
output hooks, and anything else, which leaves its statics alone. -/
inductive ShellOp
  | onConnected
  | onDisconnected
  | onReq
  | onData (data : List UInt8)
  | exec (out : Option (List UInt8))
  | poll
  | inactivity
  | drain (wrap : Nat)
  | stdoutFlush
  | bgPoll
  | stdout (c : UInt8)
  | log (pieces : List (List UInt8))
  | world (rest : Endpoint)

variable (cfg : Config)

/-- A step of the relay. A work item fires only when it is scheduled. -/
def shellStep (e : Endpoint) : ShellOp → Endpoint
  | .onConnected => e.mapShell (esbShellRelayOnConnected cfg)
  | .onDisconnected => e.mapShell (esbShellRelayOnDisconnected cfg)
  | .onReq => e.mapShell (esbShellRelayOnReq cfg)
  | .onData data => esbShellRelayOnData cfg e data
  | .exec out => if e.shell.shellExecWork then e.mapShell (shellExecWorkFn cfg out) else e
  | .poll => if e.shell.shellPollWork.isSome then shellPollWorkFn cfg e else e
  | .inactivity => if e.shell.inactivityWork.isSome then inactivityWorkFn cfg e else e
  | .drain wrap => if e.shell.outDrainWork then (outDrainWorkFn cfg wrap e).1 else e
  | .stdoutFlush =>
    if e.shell.stdoutFlushWork.isSome then e.mapShell (stdoutFlushWorkFn cfg) else e
  | .bgPoll => if e.shell.bgPollWork.isSome then bgPollWorkFn cfg e else e
  | .stdout c => e.mapShell (esbStdoutHook cfg c)
  | .log pieces => e.mapShell (esbLogBackendProcess cfg pieces)
  | .world rest => { rest with shell := e.shell }

/-- The endpoint, and whether the relay was last told of a connect. -/
structure PollTrace where
  e : Endpoint
  connected : Bool := false

def pollStep (s : PollTrace) (op : ShellOp) : PollTrace where
  e := shellStep cfg s.e op
  connected :=
    match op with
    | .onConnected => true
    | .onDisconnected => false
    | _ => s.connected

/-- **Polling is alive**: between a connect and the next disconnect, the
poll is scheduled unless a session is on. -/
def PollingAlive (s : PollTrace) : Prop :=
  s.connected = true → s.e.shell.shellActive = false → s.e.shell.bgPollWork.isSome = true

/-- The step is not the timeout of a connected keyboard's session. -/
def NoTimeout (s : PollTrace) : ShellOp → Prop
  | .inactivity => s.e.shell.inactivityWork.isSome = true → s.connected = false
  | _ => True

/-! ## What touches the polling -/

/-- The statics polling turns on. -/
def ShellRelay.polling (sh : ShellRelay) : Bool × Delayable × Delayable :=
  (sh.shellActive, sh.bgPollWork, sh.inactivityWork)

variable {cfg}

/-- Typing and printing leave it alone, -/
theorem polling_congr {sh sh' : ShellRelay} (h : sh'.beyond = sh.beyond) :
    sh'.polling = sh.polling :=
  (congrArg ShellRelay.polling h : sh'.beyond.polling = sh.beyond.polling)

/-- and so does a send. -/
theorem polling_send (e : Endpoint) (data : List UInt8) :
    (esbTransportSend cfg e esbPipeData data).1.shell.polling = e.shell.polling :=
  congrArg ShellRelay.polling (session_esbTransportSend cfg e esbPipeData data).1

/-- **The steps that leave the polling alone**: all but the entry points
and the three work items that are about it. -/
theorem polling_shellStep (e : Endpoint) {op : ShellOp}
    (hop : op ≠ .onConnected ∧ op ≠ .onDisconnected ∧ op ≠ .onReq ∧ op ≠ .inactivity ∧
      op ≠ .bgPoll) :
    (shellStep cfg e op).shell.polling = e.shell.polling ∨
      e.shell.shellActive = true ∧
        (shellStep cfg e op).shell.polling = (restartInactivity cfg e.shell).polling := by
  obtain ⟨hconn, hdisc, hreq, hinact, hbg⟩ := hop
  cases op with
  | onConnected => exact absurd rfl hconn
  | onDisconnected => exact absurd rfl hdisc
  | onReq => exact absurd rfl hreq
  | inactivity => exact absurd rfl hinact
  | bgPoll => exact absurd rfl hbg
  | onData data =>
    simp only [shellStep, esbShellRelayOnData]
    split
    · left
      split
      · exact polling_send _ _
      · rfl
    · rename_i hactive
      right
      rw [Bool.or_eq_true, not_or, Bool.not_eq_true', Bool.not_eq_false] at hactive
      exact ⟨hactive.1, polling_congr (beyond_onSessionData data e.shell)⟩
  | exec out =>
    left
    simp only [shellStep]
    split
    · exact polling_congr (beyond_shellExecWorkFn out e.shell)
    · rfl
  | poll =>
    left
    simp only [shellStep, shellPollWorkFn]
    split
    · split
      · rfl
      · exact polling_send _ _
    · rfl
  | drain wrap =>
    left
    simp only [shellStep, outDrainWorkFn]
    split
    · split
      · rfl
      · rw [shell_outDrainLoop]
        rfl
    · rfl
  | stdoutFlush =>
    left
    simp only [shellStep]
    split
    · rw [Endpoint.mapShell_shell, stdoutFlushWorkFn]
      dsimp only
      split <;> rfl
    · rfl
  | stdout c =>
    left
    simp only [shellStep, Endpoint.mapShell_shell, esbStdoutHook]
    split <;> rfl
  | log pieces => exact Or.inl (polling_congr (beyond_esbLogBackendProcess pieces e.shell))
  | world rest => exact Or.inl rfl

/-! ## The invariant -/

/-- What every reachable state satisfies: in a session the poll is off, and
the timeout is armed in a session only. -/
structure PollSound (sh : ShellRelay) : Prop where
  idle : sh.shellActive = true → sh.bgPollWork = none
  armed : sh.inactivityWork.isSome = true → sh.shellActive = true

/-- The invariant is about the polling alone. -/
theorem PollSound.congr {sh sh' : ShellRelay} (h : PollSound sh) (heq : sh'.polling = sh.polling) :
    PollSound sh' := by
  simp only [ShellRelay.polling, Prod.mk.injEq] at heq
  obtain ⟨hactive, hbg, hinact⟩ := heq
  exact ⟨by rw [hactive, hbg]; exact h.idle, by rw [hactive, hinact]; exact h.armed⟩

theorem PollSound.restart {sh : ShellRelay} (h : PollSound sh) (hactive : sh.shellActive = true) :
    PollSound (restartInactivity cfg sh) :=
  ⟨fun _ => h.idle hactive, fun _ => hactive⟩

/-- What the inactivity timeout leaves. -/
theorem polling_inactivityWorkFn (e : Endpoint) :
    (inactivityWorkFn cfg e).shell.polling = (false, e.shell.bgPollWork, none) :=
  polling_send _ _

/-- What the background poll leaves, between sessions. -/
theorem polling_bgPollWorkFn {e : Endpoint} (h : e.shell.shellActive = false) :
    (bgPollWorkFn cfg e).shell.polling =
      (false, some cfg.shellBgPollMs, e.shell.inactivityWork) := by
  have harm : ∀ e' : Endpoint, e'.shell.polling = (false, none, e.shell.inactivityWork) →
      (e'.mapShell fun sh => { sh with bgPollWork := some cfg.shellBgPollMs }).shell.polling =
        (false, some cfg.shellBgPollMs, e.shell.inactivityWork) := by
    intro e' h'
    simp only [ShellRelay.polling, Prod.mk.injEq] at h'
    obtain ⟨hactive, -, hinact⟩ := h'
    simp only [ShellRelay.polling, Endpoint.mapShell_shell, hactive, hinact]
  have hfired : (e.mapShell fun sh => { sh with bgPollWork := none }).shell.polling =
      (false, none, e.shell.inactivityWork) := by
    simp only [ShellRelay.polling, Endpoint.mapShell_shell, h]
  unfold bgPollWorkFn
  dsimp only
  rw [if_neg (by rw [Endpoint.mapShell_shell, h]; exact Bool.false_ne_true)]
  split
  · exact harm _ ((polling_send _ _).trans hfired)
  · exact harm _ hfired

/-- What a disconnect leaves of the session. -/
theorem polling_onDisconnected (hbg : cfg.shellBgPoll = true) (sh : ShellRelay) :
    (esbShellRelayOnDisconnected cfg sh).polling =
      (false, none, if sh.shellActive then none else sh.inactivityWork) := by
  unfold esbShellRelayOnDisconnected
  dsimp only
  rw [if_pos hbg]
  cases hactive : sh.shellActive with
  | true => rfl
  | false =>
    simp only [Bool.not_false, if_true, ShellRelay.polling, Bool.false_eq_true, if_false]

/-- What a request leaves: a session, and no poll. -/
theorem polling_onReq (hbg : cfg.shellBgPoll = true) (sh : ShellRelay) :
    (esbShellRelayOnReq cfg sh).shellActive = true ∧
      (sh.shellActive = false → (esbShellRelayOnReq cfg sh).bgPollWork = none) ∧
      (sh.shellActive = true → esbShellRelayOnReq cfg sh = sh) := by
  unfold esbShellRelayOnReq
  cases hactive : sh.shellActive with
  | true =>
    rw [if_pos rfl]
    exact ⟨hactive, (fun h => nomatch h), fun _ => rfl⟩
  | false =>
    rw [if_neg Bool.false_ne_true]
    dsimp only
    rw [if_pos hbg]
    exact ⟨rfl, fun _ => rfl, fun h => nomatch h⟩

variable {s : PollTrace}

/-- **Every step keeps the invariant.** -/
theorem PollSound.step (hbg : cfg.shellBgPoll = true) (h : PollSound s.e.shell) (op : ShellOp) :
    PollSound (pollStep cfg s op).e.shell := by
  show PollSound (shellStep cfg s.e op).shell
  by_cases hop : op ≠ .onConnected ∧ op ≠ .onDisconnected ∧ op ≠ .onReq ∧ op ≠ .inactivity ∧
      op ≠ .bgPoll
  · rcases @polling_shellStep cfg s.e op hop with hsame | ⟨hactive, hrestart⟩
    · exact h.congr hsame
    · exact (h.restart hactive).congr hrestart
  cases op with
  | onConnected => exact ⟨(fun hactive => nomatch hactive), fun harmed => nomatch harmed⟩
  | onDisconnected =>
    have hpoll := @polling_onDisconnected cfg hbg s.e.shell
    simp only [ShellRelay.polling, Prod.mk.injEq] at hpoll
    obtain ⟨hactive, hoff, hinact⟩ := hpoll
    refine ⟨fun _ => hoff, fun harmed => ?_⟩
    simp only [shellStep, Endpoint.mapShell_shell] at harmed
    rw [hinact] at harmed
    split at harmed
    · exact absurd harmed Bool.false_ne_true
    · rename_i hidle
      exact absurd (h.armed harmed) hidle
  | onReq =>
    obtain ⟨hactive, hoff, hsame⟩ := @polling_onReq cfg hbg s.e.shell
    refine ⟨fun _ => ?_, fun _ => hactive⟩
    simp only [shellStep, Endpoint.mapShell_shell]
    cases hbefore : s.e.shell.shellActive with
    | true =>
      rw [hsame hbefore]
      exact h.idle hbefore
    | false => exact hoff hbefore
  | inactivity =>
    simp only [shellStep]
    split
    · have hpoll := @polling_inactivityWorkFn cfg s.e
      simp only [ShellRelay.polling, Prod.mk.injEq] at hpoll
      obtain ⟨hactive, -, hinact⟩ := hpoll
      refine ⟨fun hon => ?_, fun harmed => ?_⟩
      · rw [hactive] at hon
        exact absurd hon Bool.false_ne_true
      · rw [hinact] at harmed
        exact absurd harmed Bool.false_ne_true
    · exact h
  | bgPoll =>
    simp only [shellStep]
    split
    · rename_i hdue
      have hidle : s.e.shell.shellActive = false := by
        rw [← Bool.not_eq_true]
        intro hactive
        rw [h.idle hactive] at hdue
        exact Bool.false_ne_true hdue
      have hpoll := @polling_bgPollWorkFn cfg s.e hidle
      simp only [ShellRelay.polling, Prod.mk.injEq] at hpoll
      obtain ⟨hactive, -, hinact⟩ := hpoll
      refine ⟨fun hon => ?_, fun harmed => ?_⟩
      · rw [hactive] at hon
        exact absurd hon Bool.false_ne_true
      · rw [hinact] at harmed
        exact absurd (h.armed harmed) (by rw [hidle]; exact Bool.false_ne_true)
    · exact h
  | _ => exact absurd (by simp) hop

/-- A step that touches neither the session nor the background poll. -/
theorem PollingAlive.aside (halive : PollingAlive s) {op : ShellOp}
    (hop : op ≠ .onConnected ∧ op ≠ .onDisconnected ∧ op ≠ .onReq ∧ op ≠ .inactivity ∧
      op ≠ .bgPoll) : PollingAlive (pollStep cfg s op) ∧ NoTimeout s op := by
  have hconn : (pollStep cfg s op).connected = s.connected := by
    cases op with
    | onConnected => exact absurd rfl hop.1
    | onDisconnected => exact absurd rfl hop.2.1
    | _ => rfl
  have hfree : NoTimeout s op := by
    cases op with
    | inactivity => exact absurd rfl hop.2.2.2.1
    | _ => trivial
  have hboth : (shellStep cfg s.e op).shell.shellActive = s.e.shell.shellActive ∧
      (shellStep cfg s.e op).shell.bgPollWork = s.e.shell.bgPollWork := by
    rcases @polling_shellStep cfg s.e op hop with hsame | ⟨-, hsame⟩
    · simp only [ShellRelay.polling, Prod.mk.injEq] at hsame
      exact ⟨hsame.1, hsame.2.1⟩
    · simp only [ShellRelay.polling, Prod.mk.injEq] at hsame
      exact ⟨hsame.1, hsame.2.1⟩
  refine ⟨fun hc hidle => ?_, hfree⟩
  show (shellStep cfg s.e op).shell.bgPollWork.isSome = true
  rw [hboth.2]
  exact halive (hconn.symm.trans hc) (hboth.1.symm.trans hidle)

/-- The timeout of a session. -/
theorem pollingAlive_inactivity_iff (h : PollSound s.e.shell) (halive : PollingAlive s) :
    PollingAlive (pollStep cfg s .inactivity) ↔ NoTimeout s .inactivity := by
  rw [NoTimeout]
  cases hdue : s.e.shell.inactivityWork.isSome with
  | false =>
    have hstay : pollStep cfg s .inactivity = s := by
      simp only [pollStep, shellStep, hdue, Bool.false_eq_true, if_false]
    rw [hstay]
    exact iff_of_true halive (fun h => nomatch h)
  | true =>
    have hpoll : (pollStep cfg s .inactivity).e.shell.polling =
        (false, s.e.shell.bgPollWork, none) := by
      simp only [pollStep, shellStep, hdue, if_true]
      exact polling_inactivityWorkFn s.e
    simp only [ShellRelay.polling, Prod.mk.injEq] at hpoll
    obtain ⟨hidle, hbgPoll, -⟩ := hpoll
    -- a session was on, so the poll was off, and the timeout leaves it off
    rw [h.idle (h.armed hdue)] at hbgPoll
    constructor
    · intro hnext _
      rw [← Bool.not_eq_true]
      intro hc
      have hsome := hnext hc hidle
      rw [hbgPoll] at hsome
      exact Bool.false_ne_true hsome
    · intro hfree hc
      exact absurd ((hfree rfl).symm.trans hc) Bool.false_ne_true

/-- The poll puts itself back. -/
theorem PollingAlive.bgPoll (halive : PollingAlive s) (h : PollSound s.e.shell) :
    PollingAlive (pollStep cfg s .bgPoll) := by
  cases hdue : s.e.shell.bgPollWork.isSome with
  | false =>
    have hstay : pollStep cfg s .bgPoll = s := by
      simp only [pollStep, shellStep, hdue, Bool.false_eq_true, if_false]
    rw [hstay]
    exact halive
  | true =>
    have hidle : s.e.shell.shellActive = false := by
      rw [← Bool.not_eq_true]
      intro hactive
      rw [h.idle hactive] at hdue
      exact Bool.false_ne_true hdue
    intro _ _
    have hpoll : (pollStep cfg s .bgPoll).e.shell.polling =
        (false, some cfg.shellBgPollMs, s.e.shell.inactivityWork) := by
      simp only [pollStep, shellStep, hdue, if_true]
      exact polling_bgPollWorkFn hidle
    simp only [ShellRelay.polling, Prod.mk.injEq] at hpoll
    rw [hpoll.2.1]
    rfl

/-- **A step keeps polling alive, exactly when** it is not the timeout of a
connected keyboard's session. -/
theorem pollingAlive_step_iff (hbg : cfg.shellBgPoll = true) (h : PollSound s.e.shell)
    (halive : PollingAlive s) (op : ShellOp) :
    PollingAlive (pollStep cfg s op) ↔ NoTimeout s op := by
  by_cases hop : op ≠ .onConnected ∧ op ≠ .onDisconnected ∧ op ≠ .onReq ∧ op ≠ .inactivity ∧
      op ≠ .bgPoll
  · obtain ⟨hnext, hfree⟩ := @PollingAlive.aside cfg s halive op hop
    exact iff_of_true hnext hfree
  cases op with
  | onConnected =>
    refine iff_of_true (fun _ _ => ?_) trivial
    show (if cfg.shellBgPoll then some cfg.shellBgPollMs else s.e.shell.bgPollWork).isSome = true
    rw [if_pos hbg]
    rfl
  | onDisconnected => exact iff_of_true (fun hc => nomatch hc) trivial
  | onReq =>
    refine iff_of_true (fun _ hidle => ?_) trivial
    have hactive : (pollStep cfg s .onReq).e.shell.shellActive = true :=
      (@polling_onReq cfg hbg s.e.shell).1
    rw [hactive] at hidle
    exact absurd hidle.symm Bool.false_ne_true
  | inactivity => exact pollingAlive_inactivity_iff h halive
  | bgPoll => exact iff_of_true (halive.bgPoll h) trivial
  | _ => exact absurd (by simp) hop

/-- **Polling stays alive, exactly when** no session of a connected
keyboard times out: in every run of the relay from boot. -/
theorem pollingAlive_iff (cfg : Config) (rest : Endpoint) (ops : List ShellOp)
    (hbg : cfg.shellBgPoll = true) :
    Throughout (pollStep cfg) PollingAlive
        ⟨{ rest with shell := (Endpoint.boot cfg [] none).shell }, false⟩ ops ↔
      Guarded (pollStep cfg) NoTimeout
        ⟨{ rest with shell := (Endpoint.boot cfg [] none).shell }, false⟩ ops :=
  throughout_iff_guarded (I := fun s => PollSound s.e.shell) (D := fun _ _ => True)
    (fun _ op h _ => h.step hbg op) (fun _ op h _ halive => pollingAlive_step_iff hbg h halive op)
    ⟨(fun h => nomatch h), fun h => nomatch h⟩ (fun h => nomatch h)
    (Guarded.of_forall fun _ _ => trivial)

/-- A connect, a session and a reconnect. -/
theorem pollingAlive_iff_session :
    Throughout (pollStep .withShell) PollingAlive
        ⟨{ Endpoint.boot .withShell [] none with
            shell := (Endpoint.boot .withShell [] none).shell }, false⟩
        [.onConnected, .bgPoll, .onReq, .onDisconnected, .onConnected] ↔
      Guarded (pollStep .withShell) NoTimeout
        ⟨{ Endpoint.boot .withShell [] none with
            shell := (Endpoint.boot .withShell [] none).shell }, false⟩
        [.onConnected, .bgPoll, .onReq, .onDisconnected, .onConnected] :=
  pollingAlive_iff .withShell (Endpoint.boot .withShell [] none)
    [.onConnected, .bgPoll, .onReq, .onDisconnected, .onConnected] rfl

/-- A session that times out leaves the poll off. -/
theorem not_pollingAlive : ¬ ∀ (cfg : Config) (rest : Endpoint) (ops : List ShellOp),
    cfg.shellBgPoll = true →
    Throughout (pollStep cfg) PollingAlive
      ⟨{ rest with shell := (Endpoint.boot cfg [] none).shell }, false⟩ ops := by
  intro h
  have hrun := h .withShell (Endpoint.boot .withShell [] none) [.onConnected, .onReq, .inactivity]
    rfl
  have hoff := hrun.last (by decide +kernel) (by decide +kernel)
  exact absurd hoff (by decide +kernel)

end EsbEndpoint
