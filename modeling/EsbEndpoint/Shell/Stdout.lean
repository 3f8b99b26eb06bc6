import EsbEndpoint.Shell.Exec
import EsbEndpoint.Shell.Polling

/-!
# The stdout hook

The bytes printed in a session wait in a small buffer until a work item
puts them into the output ring. The work item is rescheduled with every
byte, and with the last that fits it is due at once; but until it runs,
the hook finds the buffer full and throws away what is printed. The output
is whole just as long as no byte is passed to the hook at a full buffer
(`stdoutKept_iff`).
-/

namespace EsbEndpoint

variable (cfg : Config)

/-! ## The flush in two parts -/

/-- `stdout_flush_work_fn` up to its unlock: the buffer is empty, and was
copied out. -/
def stdoutFlushTake (sh : ShellRelay) : ShellRelay :=
  { sh with stdoutFlushWork := none, stdoutBuf := [] }

/-- The rest of it, with the copy. -/
def stdoutFlushPut (tmp : List UInt8) (sh : ShellRelay) : ShellRelay :=
  if tmp.isEmpty || !sh.shellActive then sh
  else { outEnqueue cfg tmp sh with outDrainWork := true }

theorem stdoutFlushWorkFn_eq (sh : ShellRelay) :
    stdoutFlushWorkFn cfg sh = stdoutFlushPut cfg sh.stdoutBuf (stdoutFlushTake sh) := rfl

/-! ## Runs of a session -/

/-- The relay in a session, and since it began the bytes passed to the
hook, those `stdout_flush_work_fn` put into the ring, and those it has in
hand. -/
structure StdoutTrace where
  sh : ShellRelay
  passed : List UInt8 := []
  enqueued : List UInt8 := []
  inHand : List UInt8 := []

/-- What happens to the buffer: a byte is passed to the hook, the work item
begins, it ends, or anything else of the session runs, which leaves the
buffer and its work item alone. -/
inductive StdoutOp
  | hook (c : UInt8)
  | take
  | put
  | world (rest : ShellRelay)

def stdoutStep (t : StdoutTrace) : StdoutOp → StdoutTrace
  | .hook c => { t with sh := esbStdoutHook cfg c t.sh, passed := t.passed ++ [c] }
  | .take =>
    if t.sh.stdoutFlushWork.isSome && t.inHand.isEmpty then
      { t with sh := stdoutFlushTake t.sh, inHand := t.sh.stdoutBuf }
    else t
  | .put =>
    let sh := stdoutFlushPut cfg t.inHand t.sh
    { t with
      sh
      enqueued := t.enqueued ++ sh.outRb.drop t.sh.outRb.length
      inHand := [] }
  | .world rest =>
    { t with
      sh := { rest with
        shellActive := t.sh.shellActive
        stdoutBuf := t.sh.stdoutBuf
        stdoutFlushWork := t.sh.stdoutFlushWork } }

/-- A session just begun. -/
def StdoutTrace.start (sh : ShellRelay) : StdoutTrace where
  sh := { sh with shellActive := true, stdoutBuf := [] }

/-- **Nothing passed is lost**: what went into the ring, what the work item
has in hand and what is in the buffer is what was passed, in order. -/
def StdoutKept (t : StdoutTrace) : Prop :=
  t.enqueued ++ t.inHand ++ t.sh.stdoutBuf = t.passed

instance (t : StdoutTrace) : Decidable (StdoutKept t) := inferInstanceAs (Decidable (_ = _))

/-- `out_rb` does not fill. -/
def RingHasRoom (t : StdoutTrace) : StdoutOp → Prop
  | .put => t.inHand.length ≤ cfg.shellOutBufSize - t.sh.outRb.length
  | _ => True

instance (t : StdoutTrace) : (op : StdoutOp) → Decidable (RingHasRoom cfg t op)
  | .put => inferInstanceAs (Decidable (_ ≤ _))
  | .hook _ | .take | .world _ => inferInstanceAs (Decidable True)

/-- The condition on a byte: the buffer is not full. -/
def BufferHasRoom (t : StdoutTrace) : StdoutOp → Prop
  | .hook _ => t.sh.stdoutBuf.length < cfg.shellStdoutCoalesceBytes
  | _ => True

variable {cfg}

/-! ## One step -/

/-- What is put into a ring with room is all in it. -/
theorem outRb_outEnqueue {data : List UInt8} {sh : ShellRelay}
    (hroom : data.length ≤ cfg.shellOutBufSize - sh.outRb.length) :
    (outEnqueue cfg data sh).outRb = sh.outRb ++ data := by
  rw [outEnqueue]
  dsimp only
  rw [Nat.min_eq_left hroom, List.take_length]

/-- The flush puts what it has in hand behind the ring. -/
theorem outRb_stdoutFlushPut {tmp : List UInt8} {sh : ShellRelay} (hactive : sh.shellActive = true)
    (hroom : tmp.length ≤ cfg.shellOutBufSize - sh.outRb.length) :
    (stdoutFlushPut cfg tmp sh).outRb = sh.outRb ++ tmp := by
  rw [stdoutFlushPut, hactive, Bool.not_true, Bool.or_false]
  split
  · rename_i hempty
    rw [List.isEmpty_iff.1 hempty, List.append_nil]
  · exact outRb_outEnqueue hroom

/-- And leaves the buffer alone. -/
theorem stdoutFlushPut_kept (tmp : List UInt8) (sh : ShellRelay) :
    (stdoutFlushPut cfg tmp sh).stdoutBuf = sh.stdoutBuf ∧
      (stdoutFlushPut cfg tmp sh).shellActive = sh.shellActive := by
  rw [stdoutFlushPut]
  split
  · exact ⟨rfl, rfl⟩
  · exact ⟨rfl, rfl⟩

/-- What the hook leaves in the buffer. -/
theorem stdoutBuf_esbStdoutHook {sh : ShellRelay} (hactive : sh.shellActive = true) (c : UInt8) :
    (esbStdoutHook cfg c sh).stdoutBuf =
      if sh.stdoutBuf.length < cfg.shellStdoutCoalesceBytes then sh.stdoutBuf ++ [c]
      else sh.stdoutBuf := by
  rw [esbStdoutHook, hactive, Bool.not_true, if_neg Bool.false_ne_true]

/-- The session goes on. -/
theorem shellActive_stdoutStep {t : StdoutTrace} (op : StdoutOp) :
    (stdoutStep cfg t op).sh.shellActive = t.sh.shellActive := by
  cases op with
  | hook c =>
    show (esbStdoutHook cfg c t.sh).shellActive = _
    rw [esbStdoutHook]
    split
    · rfl
    · rfl
  | take =>
    rw [stdoutStep]
    split
    · rfl
    · rfl
  | put => exact (stdoutFlushPut_kept t.inHand t.sh).2
  | world rest => rfl

/-- **A step keeps the output whole exactly on its condition.** -/
theorem stdoutKept_step_iff {t : StdoutTrace} (hactive : t.sh.shellActive = true) {op : StdoutOp}
    (hroom : RingHasRoom cfg t op) (h : StdoutKept t) :
    StdoutKept (stdoutStep cfg t op) ↔ BufferHasRoom cfg t op := by
  rw [StdoutKept] at h
  cases op with
  | hook c =>
    have hbuf := @stdoutBuf_esbStdoutHook cfg t.sh hactive c
    show t.enqueued ++ t.inHand ++ (esbStdoutHook cfg c t.sh).stdoutBuf = t.passed ++ [c] ↔
      t.sh.stdoutBuf.length < cfg.shellStdoutCoalesceBytes
    rw [hbuf, ← h]
    split
    · rename_i hfree
      exact iff_of_true (List.append_assoc _ _ _).symm hfree
    · -- the byte is gone
      rename_i hfull
      exact iff_of_false (fun hsame => List.cons_ne_nil c [] (List.self_eq_append_right.1 hsame))
        hfull
  | take =>
    refine iff_of_true ?_ trivial
    rw [stdoutStep]
    split
    · rename_i htake
      obtain ⟨-, hnone⟩ := Bool.and_eq_true_iff.1 htake
      rw [List.isEmpty_iff.1 hnone, List.append_nil] at h
      show t.enqueued ++ t.sh.stdoutBuf ++ [] = t.passed
      rw [List.append_nil, h]
    · exact h
  | put =>
    refine iff_of_true ?_ trivial
    have houtRb := outRb_stdoutFlushPut hactive hroom
    show t.enqueued ++ (stdoutFlushPut cfg t.inHand t.sh).outRb.drop t.sh.outRb.length ++ [] ++
      (stdoutFlushPut cfg t.inHand t.sh).stdoutBuf = t.passed
    rw [houtRb, List.drop_left, (stdoutFlushPut_kept t.inHand t.sh).1, List.append_nil, h]
  | world rest => exact iff_of_true h trivial

/-! ## The relay's own steps -/

/-- The line being typed, with its history. -/
def ShellRelay.editor (sh : ShellRelay) : List UInt8 × Nat × List (List UInt8) × Bool :=
  (sh.cmdBuf, sh.cmdLen, sh.submissions, sh.overrun)

/-- What the session is made of: the line being typed, and what waits to be
printed. -/
def ShellRelay.inSession (sh : ShellRelay) :
    Bool × (List UInt8 × Nat × List (List UInt8) × Bool) × List UInt8 × Delayable :=
  (sh.shellActive, sh.editor, sh.stdoutBuf, sh.stdoutFlushWork)

/-- The operations that type or print. -/
def ShellOp.typesOrPrints : ShellOp → Bool
  | .onData _ | .exec _ | .stdoutFlush | .stdout _ | .log _ => true
  | _ => false

theorem inSession_send (e : Endpoint) (data : List UInt8) :
    (esbTransportSend cfg e esbPipeData data).1.shell.inSession = e.shell.inSession :=
  congrArg ShellRelay.inSession (session_esbTransportSend cfg e esbPipeData data).1

/-- **The other operations leave the session alone** as long as it goes
on. -/
theorem inSession_shellStep {e : Endpoint} (hactive : e.shell.shellActive = true) {op : ShellOp}
    (hgoes : (shellStep cfg e op).shell.shellActive = true) (hop : op.typesOrPrints = false) :
    (shellStep cfg e op).shell.inSession = e.shell.inSession := by
  cases op with
  | onConnected => exact Bool.noConfusion hgoes
  | onDisconnected =>
    have hends : (shellStep cfg e .onDisconnected).shell.shellActive = false := by
      simp only [shellStep, Endpoint.mapShell_shell, esbShellRelayOnDisconnected, hactive,
        Bool.not_true, Bool.false_eq_true, if_false]
      rfl
    exact Bool.noConfusion (hends.symm.trans hgoes)
  | onReq =>
    simp only [shellStep, Endpoint.mapShell_shell, esbShellRelayOnReq, if_pos hactive]
  | poll =>
    simp only [shellStep, shellPollWorkFn]
    split
    · split
      · rfl
      · exact inSession_send _ _
    · rfl
  | inactivity =>
    simp only [shellStep] at hgoes ⊢
    split
    · rename_i hdue
      rw [if_pos hdue] at hgoes
      have hpoll := @polling_inactivityWorkFn cfg e
      exact Bool.noConfusion ((congrArg Prod.fst hpoll).symm.trans hgoes)
    · rfl
  | drain wrap =>
    simp only [shellStep, outDrainWorkFn]
    split
    · split
      · rfl
      · rw [shell_outDrainLoop]
        rfl
    · rfl
  | bgPoll =>
    simp only [shellStep, bgPollWorkFn, Endpoint.mapShell_shell, hactive, if_true]
    split
    · rfl
    · rfl
  | world rest => rfl
  | onData data => exact Bool.noConfusion hop
  | exec out => exact Bool.noConfusion hop
  | stdoutFlush => exact Bool.noConfusion hop
  | stdout c => exact Bool.noConfusion hop
  | log pieces => exact Bool.noConfusion hop

/-- The statics of the hook. -/
def ShellRelay.stdout (sh : ShellRelay) : Bool × List UInt8 × Delayable :=
  (sh.shellActive, sh.stdoutBuf, sh.stdoutFlushWork)

theorem stdout_congr {sh sh' : ShellRelay} (h : sh'.beyond = sh.beyond) :
    sh'.stdout = sh.stdout :=
  (congrArg ShellRelay.stdout h : sh'.beyond.stdout = sh.beyond.stdout)

/-- So the buffer is left to the hook and the flush. -/
theorem stdout_shellStep {e : Endpoint} (hactive : e.shell.shellActive = true) {op : ShellOp}
    (hgoes : (shellStep cfg e op).shell.shellActive = true) (hflush : op ≠ .stdoutFlush)
    (hhook : ∀ c, op ≠ .stdout c) : (shellStep cfg e op).shell.stdout = e.shell.stdout := by
  cases hop : op.typesOrPrints with
  | false =>
    have hkept := inSession_shellStep hactive hgoes hop
    simp only [ShellRelay.inSession, Prod.mk.injEq] at hkept
    rw [ShellRelay.stdout, hkept.1, hkept.2.2.1, hkept.2.2.2, ShellRelay.stdout]
  | true =>
    cases op with
    | onData data =>
      simp only [shellStep, esbShellRelayOnData, hactive, Bool.not_true, Bool.false_or,
        Bool.false_and, Bool.false_eq_true, if_false]
      split
      · rfl
      · have hdata := stdout_congr (@beyond_onSessionData cfg data e.shell)
        exact hdata
    | exec out =>
      simp only [shellStep]
      split
      · exact stdout_congr (beyond_shellExecWorkFn out e.shell)
      · rfl
    | log pieces => exact stdout_congr (beyond_esbLogBackendProcess pieces e.shell)
    | stdoutFlush => exact absurd rfl hflush
    | stdout c => exact absurd rfl (hhook c)
    | _ => exact Bool.noConfusion hop

/-- **Every step of the relay in a session is a run of these**, with the
flush in one piece. -/
theorem exists_run_shellStep {e : Endpoint} (hactive : e.shell.shellActive = true) {op : ShellOp}
    (hgoes : (shellStep cfg e op).shell.shellActive = true) {t : StdoutTrace}
    (ht : t.sh = e.shell) (hhand : t.inHand = []) :
    ∃ ops, (runFrom (stdoutStep cfg) t ops).sh = (shellStep cfg e op).shell := by
  by_cases hflush : op = .stdoutFlush
  · subst hflush
    simp only [shellStep]
    split
    · rename_i hdue
      refine ⟨[.take, .put], ?_⟩
      rw [runFrom_cons, runFrom_cons, runFrom_nil, stdoutStep, ht, hdue, hhand]
      exact congrArg (stdoutFlushPut cfg · _) rfl
    · exact ⟨[], ht⟩
  · by_cases hhook : ∃ c, op = .stdout c
    · obtain ⟨c, rfl⟩ := hhook
      exact ⟨[.hook c], congrArg (esbStdoutHook cfg c) ht⟩
    · have hkept := stdout_shellStep hactive hgoes hflush (not_exists.1 hhook)
      simp only [ShellRelay.stdout, Prod.mk.injEq] at hkept
      obtain ⟨hsame, hbuf, hwork⟩ := hkept
      refine ⟨[.world (shellStep cfg e op).shell], ?_⟩
      show ({ (shellStep cfg e op).shell with
        shellActive := t.sh.shellActive
        stdoutBuf := t.sh.stdoutBuf
        stdoutFlushWork := t.sh.stdoutFlushWork } : ShellRelay) = _
      rw [ht, ← hsame, ← hbuf, ← hwork]

/-! ## Runs -/

/-- **The stdout hook loses nothing, exactly**: as long as the session goes
on and the output ring has room, the bytes that went into the ring and
those that wait are the bytes passed to the hook, just in the runs in which
none is passed while the buffer is full. -/
theorem stdoutKept_iff (cfg : Config) (sh : ShellRelay) (ops : List StdoutOp)
    (hroom : Guarded (stdoutStep cfg) (RingHasRoom cfg) (StdoutTrace.start sh) ops) :
    Throughout (stdoutStep cfg) StdoutKept (StdoutTrace.start sh) ops ↔
      Guarded (stdoutStep cfg) (BufferHasRoom cfg) (StdoutTrace.start sh) ops :=
  throughout_iff_guarded (I := fun t => t.sh.shellActive = true)
    (fun _ op hactive _ => (shellActive_stdoutStep op).trans hactive)
    (fun _ _ hactive hop ht => stdoutKept_step_iff hactive hop ht) rfl rfl hroom

/-- A byte printed while the flush has the ones before it in hand. -/
theorem stdoutKept_overlap :
    Throughout (stdoutStep .default) StdoutKept (StdoutTrace.start (ShellRelay.session .default))
        [.hook 72, .hook 105, .take, .hook 10, .put, .take, .put] ↔
      Guarded (stdoutStep .default) (BufferHasRoom .default)
        (StdoutTrace.start (ShellRelay.session .default))
        [.hook 72, .hook 105, .take, .hook 10, .put, .take, .put] :=
  stdoutKept_iff .default _ _ (by decide +kernel)

/-- A line of 33 bytes printed before the work item runs. -/
theorem not_stdoutKept : ¬ ∀ (cfg : Config) (sh : ShellRelay) (ops : List StdoutOp),
    Guarded (stdoutStep cfg) (RingHasRoom cfg) (StdoutTrace.start sh) ops →
      Throughout (stdoutStep cfg) StdoutKept (StdoutTrace.start sh) ops := fun h =>
  absurd (h .default (ShellRelay.session .default) (List.replicate 33 (.hook 65))
    (by decide +kernel)) (by decide +kernel)

end EsbEndpoint
