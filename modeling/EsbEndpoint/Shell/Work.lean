import EsbEndpoint.Shell.Relay
import EsbEndpoint.Transport.Frame

/-!
# The shell relay's work items

The work items of `src/shell/shell_relay.c`: the poll of a session and the
poll between sessions, the inactivity timeout, the drain of the output
ring, and the coalescing buffer behind the stdout hook; and the log
backend, which also writes to the ring. A work item that fires is no
longer scheduled.
-/

namespace EsbEndpoint

variable (cfg : Config)

/-! ## Polling -/

/-- `shell_poll_work_fn` -/
def shellPollWorkFn (e : Endpoint) : Endpoint :=
  let e := e.mapShell fun sh => { sh with shellPollWork := none }
  if !e.shell.shellActive then e
  else
    (esbTransportSend cfg e esbPipeData [esbPktShellPoll]).1.mapShell fun sh =>
      { sh with shellPollWork := some cfg.shellPollIntervalMs }

/-- `inactivity_work_fn`, up to its `SHELL_STOP`. -/
def endInactive (sh : ShellRelay) : ShellRelay :=
  outRbReset (stdoutBufReset
    { sh with shellActive := false, shellPollWork := none, inactivityWork := none })

/-- `inactivity_work_fn` -/
def inactivityWorkFn (e : Endpoint) : Endpoint :=
  (esbTransportSend cfg (e.mapShell endInactive) esbPipeData [esbPktShellStop]).1

/-- `bg_poll_work_fn` -/
def bgPollWorkFn (e : Endpoint) : Endpoint :=
  let e := e.mapShell fun sh => { sh with bgPollWork := none }
  if e.shell.shellActive then e
  else
    let threshold := cfg.shellBgPollActivityThresholdMs
    let e :=
      if threshold = 0 ∨ esbTransportMsSinceActivity e ≤ threshold then
        (esbTransportSend cfg e esbPipeData [esbPktShellBgPoll]).1
      else e
    e.mapShell fun sh => { sh with bgPollWork := some cfg.shellBgPollMs }

/-! ## Draining the output ring -/

/-- The `struct esb_pkt_shell_data` of a chunk, padded with zeros. -/
def shellDataPacket (chunk : List UInt8) : List UInt8 :=
  esbPktShellData :: UInt8.ofNat chunk.length ::
    (chunk ++ List.replicate (cfg.esbPktDataMax - chunk.length) 0)

/-- The bytes to the end of the ring's buffer, from a read position that
has come to it. -/
def toBufferEnd (wrap : Nat) : Nat := if wrap = 0 then cfg.shellOutBufSize else wrap

/-- `ring_buf_get_claim(&out_rb, &chunk, ESB_PKT_DATA_MAX)`: what is there
in one piece, with `wrap` bytes to the end of the buffer. -/
def claimSize (wrap : Nat) (sh : ShellRelay) : Nat :=
  min (min cfg.esbPktDataMax sh.outRb.length) (toBufferEnd cfg wrap)

/-- `ring_buf_get_finish(&out_rb, got)` -/
def finishClaim (got : Nat) (sh : ShellRelay) : ShellRelay :=
  { sh with outRb := sh.outRb.drop got }

/-- A chunk that has left the ring, and what `esb_transport_send` returned
for it. -/
structure DrainedChunk where
  bytes : List UInt8
  err : Option Errno
  deriving DecidableEq

/-- The loop of `out_drain_work_fn`, with the chunks that left the ring.
Every turn but the last takes a byte off it, so that as many turns as it
has bytes are enough. -/
def outDrainLoop : Nat → Nat → Endpoint → Endpoint × List DrainedChunk
  | 0, _, e => (e, [])
  | turns + 1, wrap, e =>
    let got := claimSize cfg wrap e.shell
    if got = 0 then (e, [])
    else
      let chunk := e.shell.outRb.take got
      match esbTransportSend cfg e esbPipeData (shellDataPacket cfg chunk) with
      | (e, some .enomem) => (e, [])
      | (e, some err) => (e.mapShell (finishClaim got), [⟨chunk, some err⟩])
      | (e, none) =>
        let (e, chunks) :=
          outDrainLoop turns (toBufferEnd cfg wrap - got) (e.mapShell (finishClaim got))
        (e, ⟨chunk, none⟩ :: chunks)

/-- `out_drain_work_fn`, with the chunks that left the ring. -/
def outDrainWorkFn (wrap : Nat) (e : Endpoint) : Endpoint × List DrainedChunk :=
  let e := e.mapShell fun sh => { sh with outDrainWork := false }
  if !e.shell.shellActive then (e, []) else outDrainLoop cfg e.shell.outRb.length wrap e

/-! ## The stdout hook and the log -/

/-- `esb_stdout_hook` -/
def esbStdoutHook (c : UInt8) (sh : ShellRelay) : ShellRelay :=
  if !sh.shellActive then sh
  else
    let stdoutBuf :=
      if sh.stdoutBuf.length < cfg.shellStdoutCoalesceBytes then sh.stdoutBuf ++ [c]
      else sh.stdoutBuf
    let full := cfg.shellStdoutCoalesceBytes ≤ stdoutBuf.length
    { sh with
      stdoutBuf
      stdoutFlushWork := some (if full then 0 else cfg.shellStdoutCoalesceMs) }

/-- `stdout_flush_work_fn` -/
def stdoutFlushWorkFn (sh : ShellRelay) : ShellRelay :=
  let tmp := sh.stdoutBuf
  let sh := { sh with stdoutFlushWork := none, stdoutBuf := [] }
  if tmp.isEmpty || !sh.shellActive then sh
  else { outEnqueue cfg tmp sh with outDrainWork := true }

/-- `log_out_func` -/
def logOutFunc (sh : ShellRelay) (buf : List UInt8) : ShellRelay :=
  if sh.shellActive then { outEnqueue cfg buf sh with outDrainWork := true } else sh

/-- `esb_log_backend_process`, for a message formatted into these
pieces. -/
def esbLogBackendProcess (pieces : List (List UInt8)) (sh : ShellRelay) : ShellRelay :=
  if !sh.shellActive then sh
  else pieces.foldl (logOutFunc cfg) (if !sh.atLineStart then outEnqueue cfg [13, 10] sh else sh)

/-- `shell_exec_work_fn`, with what `shell_execute_cmd` made of the
command. -/
def shellExecWorkFn (out : Option (List UInt8)) (sh : ShellRelay) : ShellRelay :=
  shellExecOutput cfg (copiedCommand cfg sh) out { sh with shellExecWork := false }

/-! ## What typing and printing leave -/

/-- The relay but for the line, the output ring and the work items that
move the two. -/
def ShellRelay.beyond (sh : ShellRelay) : ShellRelay :=
  { sh with
    cmdBuf := []
    cmdLen := 0
    outRb := []
    atLineStart := true
    shellExecWork := false
    outDrainWork := false
    submissions := []
    overrun := false }

section Beyond

variable {cfg}

theorem beyond_takeByte (b : UInt8) (sh : ShellRelay) :
    (takeByte cfg b sh).beyond = sh.beyond := by
  unfold takeByte
  split
  · split <;> rfl
  · split
    · split <;> rfl
    · split <;> rfl

theorem beyond_onDataLoop (data : List UInt8) (sh : ShellRelay) :
    (onDataLoop cfg data sh).1.beyond = sh.beyond := by
  induction data generalizing sh with
  | nil => rfl
  | cons b data ih =>
    have hbyte := @beyond_takeByte cfg b sh
    unfold onDataLoop
    dsimp only
    rw [ih]
    split
    · exact hbyte
    · exact hbyte

/-- Session data only restarts the timeout. -/
theorem beyond_onSessionData (data : List UInt8) (sh : ShellRelay) :
    (onSessionData cfg data sh).beyond = (restartInactivity cfg sh).beyond := by
  have hdrain : ∀ needDrain (sh : ShellRelay), (drainIf needDrain sh).beyond = sh.beyond := by
    intro needDrain sh
    unfold drainIf
    split <;> rfl
  rw [onSessionData]
  dsimp only
  rw [hdrain, beyond_onDataLoop]

theorem beyond_shellExecWorkFn (out : Option (List UInt8)) (sh : ShellRelay) :
    (shellExecWorkFn cfg out sh).beyond = sh.beyond := by
  unfold shellExecWorkFn shellExecOutput
  cases out with
  | none => rfl
  | some out =>
    dsimp only
    split <;> rfl

theorem beyond_esbLogBackendProcess (pieces : List (List UInt8)) (sh : ShellRelay) :
    (esbLogBackendProcess cfg pieces sh).beyond = sh.beyond := by
  have hfold : ∀ (pieces : List (List UInt8)) (sh : ShellRelay),
      (pieces.foldl (logOutFunc cfg) sh).beyond = sh.beyond := by
    intro pieces
    induction pieces with
    | nil => exact fun sh => rfl
    | cons buf pieces ih =>
      intro sh
      have hbuf : (logOutFunc cfg sh buf).beyond = sh.beyond := by
        unfold logOutFunc
        split <;> rfl
      rw [List.foldl_cons, ih, hbuf]
  unfold esbLogBackendProcess
  split
  · rfl
  · rw [hfold]
    split <;> rfl

end Beyond

/-! ## What a drain leaves -/

variable {cfg} {e : Endpoint}

/-- A turn's claim is no more than the ring holds. -/
theorem claimSize_le (wrap : Nat) (sh : ShellRelay) :
    claimSize cfg wrap sh ≤ sh.outRb.length ∧ claimSize cfg wrap sh ≤ cfg.esbPktDataMax := by
  unfold claimSize
  omega

/-- **A drain touches nothing of the relay but the ring.** -/
theorem shell_outDrainLoop (turns wrap : Nat) (e : Endpoint) :
    (outDrainLoop cfg turns wrap e).1.shell =
      { e.shell with outRb := (outDrainLoop cfg turns wrap e).1.shell.outRb } := by
  induction turns generalizing wrap e with
  | zero => rfl
  | succ turns ih =>
    rw [outDrainLoop]
    dsimp only
    split
    · rfl
    · obtain ⟨hshell, -⟩ := session_esbTransportSend cfg e esbPipeData
        (shellDataPacket cfg (e.shell.outRb.take (claimSize cfg wrap e.shell)))
      split
      · rename_i e' heq
        rw [heq] at hshell
        rw [hshell]
      · rename_i e' err _ heq
        rw [heq] at hshell
        rw [Endpoint.mapShell_shell, finishClaim, hshell]
      · rename_i e' heq
        rw [heq] at hshell
        have hrest := ih (toBufferEnd cfg wrap - claimSize cfg wrap e.shell)
          (e'.mapShell (finishClaim (claimSize cfg wrap e.shell)))
        rw [hrest]
        rw [Endpoint.mapShell_shell, finishClaim, hshell]

/-- **The loop ends by itself**: one turn more than the ring has bytes
changes nothing. -/
theorem outDrainLoop_turns {turns : Nat} (wrap : Nat) (h : e.shell.outRb.length ≤ turns) :
    outDrainLoop cfg (turns + 1) wrap e = outDrainLoop cfg turns wrap e := by
  induction turns generalizing wrap e with
  | zero =>
    have hnone : claimSize cfg wrap e.shell = 0 := by
      have hle := (@claimSize_le cfg wrap e.shell).1
      omega
    rw [outDrainLoop, outDrainLoop]
    exact if_pos hnone
  | succ turns ih =>
    rw [outDrainLoop, outDrainLoop]
    dsimp only
    split
    · rfl
    · rename_i hgot
      obtain ⟨hshell, -⟩ := session_esbTransportSend cfg e esbPipeData
        (shellDataPacket cfg (e.shell.outRb.take (claimSize cfg wrap e.shell)))
      split
      · rfl
      · rfl
      · rename_i e' heq
        rw [heq] at hshell
        rw [ih]
        rw [Endpoint.mapShell_shell, finishClaim, hshell, List.length_drop]
        omega

end EsbEndpoint
