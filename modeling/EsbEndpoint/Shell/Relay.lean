import EsbEndpoint.Transport.Send
import Mathlib.Data.List.DropRight

/-!
# The shell relay

`src/shell/shell_relay.c`: the session flag, the line editor and the
output buffer. What only moves the relay's own statics is a function of
them; what sends is a function of the endpoint. The shell that runs a
command is outside the sources, so its return value and output are
arguments of `shellExecOutput`.
-/

namespace EsbEndpoint

variable (cfg : Config)

/-! ## Output -/

/-- `out_enqueue`: what does not fit is dropped. -/
def outEnqueue (data : List UInt8) (sh : ShellRelay) : ShellRelay :=
  let put := min data.length (cfg.shellOutBufSize - sh.outRb.length)
  { sh with
    outRb := sh.outRb ++ data.take put
    atLineStart := if 0 < put then data.getD (put - 1) 0 == 10 else sh.atLineStart }

/-- `send_prompt` -/
def sendPrompt (sh : ShellRelay) : ShellRelay :=
  let sh := outEnqueue cfg [13, 10] sh
  let sh := outEnqueue cfg
    ([0x1B, 0x5B, 0x31, 0x3B, 0x33, 0x32, 0x6D] ++ cfg.shellPrompt ++ [0x1B, 0x5B, 0x30, 0x6D]) sh
  { sh with outDrainWork := true }

/-- `stdout_buf_reset` -/
def stdoutBufReset (sh : ShellRelay) : ShellRelay :=
  { sh with stdoutFlushWork := none, stdoutBuf := [] }

/-- `ring_buf_reset(&out_rb)` -/
def outRbReset (sh : ShellRelay) : ShellRelay := { sh with outRb := [] }

/-! ## The session -/

/-- `esb_shell_relay_on_connected` -/
def esbShellRelayOnConnected (sh : ShellRelay) : ShellRelay :=
  let sh := { sh with shellActive := false, shellPollWork := none, inactivityWork := none }
  let sh := outRbReset (stdoutBufReset sh)
  { sh with
    cmdLen := 0
    bgPollWork := if cfg.shellBgPoll then some cfg.shellBgPollMs else sh.bgPollWork }

/-- `esb_shell_relay_on_disconnected` -/
def esbShellRelayOnDisconnected (sh : ShellRelay) : ShellRelay :=
  let sh := { sh with bgPollWork := if cfg.shellBgPoll then none else sh.bgPollWork }
  if !sh.shellActive then sh
  else
    outRbReset (stdoutBufReset
      { sh with shellActive := false, shellPollWork := none, inactivityWork := none })

/-- The inactivity timer, restarted. -/
def restartInactivity (sh : ShellRelay) : ShellRelay :=
  { sh with
    inactivityWork :=
      if 0 < cfg.shellInactivityS then some (cfg.shellInactivityS * 1000) else sh.inactivityWork }

/-- `esb_shell_relay_on_req` -/
def esbShellRelayOnReq (sh : ShellRelay) : ShellRelay :=
  if sh.shellActive then sh
  else
    let sh := outRbReset (stdoutBufReset { sh with shellActive := true, cmdLen := 0 })
    let sh := { sh with bgPollWork := if cfg.shellBgPoll then none else sh.bgPollWork }
    let sh := { sh with shellPollWork := some cfg.shellInitialPollDelayMs }
    sendPrompt cfg (restartInactivity cfg sh)

/-! ## The line editor -/

/-- `b == '\n' || b == '\r'` -/
def isLineEnd (b : UInt8) : Bool := b == 10 || b == 13

/-- `b == 0x7F || b == 0x08` -/
def isErase (b : UInt8) : Bool := b == 0x7F || b == 0x08

/-- A byte that ends a line with something on it. -/
def completesLine (b : UInt8) (sh : ShellRelay) : Bool := isLineEnd b && 0 < sh.cmdLen

/-- A byte that erases one. -/
def erasesByte (b : UInt8) (sh : ShellRelay) : Bool := !isLineEnd b && isErase b && 0 < sh.cmdLen

/-- `cmd_buf[index] = b` -/
def storeCmd (index : Nat) (b : UInt8) (sh : ShellRelay) : ShellRelay :=
  { sh with
    cmdBuf := sh.cmdBuf.set index b
    overrun := sh.overrun || decide (sh.cmdBuf.length ≤ index) }

/-- The body of the loop of `esb_shell_relay_on_data`, without the
submission a completed line ends in. -/
def takeByte (b : UInt8) (sh : ShellRelay) : ShellRelay :=
  if isLineEnd b then
    if 0 < sh.cmdLen then { storeCmd sh.cmdLen 0 sh with cmdLen := 0 } else sh
  else if isErase b then
    if 0 < sh.cmdLen then outEnqueue cfg [8, 32, 8] { sh with cmdLen := sh.cmdLen - 1 } else sh
  else if sh.cmdLen < cfg.shellCmdBufSize - 1 then
    { storeCmd sh.cmdLen b sh with cmdLen := sh.cmdLen + 1 }
  else sh

/-- `k_work_submit_to_queue(&shell_exec_q, &shell_exec_work)` -/
def submitExec (sh : ShellRelay) : ShellRelay :=
  { sh with shellExecWork := true, submissions := sh.submissions ++ [sh.cmdBuf] }

/-- The bytes of a packet up to the first that completes a line, which is
as far as the loop gets under one hold of the mutex; the bytes behind it,
if there is one; and whether a byte was erased. -/
def onDataSegment : List UInt8 → ShellRelay → ShellRelay × Option (List UInt8) × Bool
  | [], sh => (sh, none, false)
  | b :: bs, sh =>
    if completesLine b sh then (takeByte cfg b sh, some bs, false)
    else
      let (sh', rest, erased) := onDataSegment bs (takeByte cfg b sh)
      (sh', rest, erasesByte b sh || erased)

/-- The loop of `esb_shell_relay_on_data`, with whether a byte was erased. -/
def onDataLoop : List UInt8 → ShellRelay → ShellRelay × Bool
  | [], sh => (sh, false)
  | b :: bs, sh =>
    let sh' := takeByte cfg b sh
    let (sh', erased) := onDataLoop bs (if completesLine b sh then submitExec sh' else sh')
    (sh', erasesByte b sh || erased)

/-- `if (need_drain) k_work_submit(&out_drain_work)` -/
def drainIf (needDrain : Bool) (sh : ShellRelay) : ShellRelay :=
  if needDrain then { sh with outDrainWork := true } else sh

/-- `esb_shell_relay_on_data` in a session. -/
def onSessionData (data : List UInt8) (sh : ShellRelay) : ShellRelay :=
  let (sh, needDrain) := onDataLoop cfg data (restartInactivity cfg sh)
  drainIf needDrain sh

/-- `esb_shell_relay_on_data` -/
def esbShellRelayOnData (e : Endpoint) (data : List UInt8) : Endpoint :=
  if !e.shell.shellActive || data.isEmpty then
    if !e.shell.shellActive && !data.isEmpty &&
        cfg.shellStopNudgeCooldownMs < e.uptime - e.shell.lastNudgeMs then
      (esbTransportSend cfg (e.mapShell fun sh => { sh with lastNudgeMs := e.uptime })
        esbPipeData [esbPktShellStop]).1
    else e
  else e.mapShell (onSessionData cfg data)

/-! ## Running a command -/

/-- The string in a buffer: its bytes up to the first NUL. -/
def cString (buf : List UInt8) : List UInt8 := buf.takeWhile (· != 0)

/-- `*p == ' ' || *p == '\t'` -/
def isBlank (b : UInt8) : Bool := b == 32 || b == 9

/-- The trimming of `shell_exec_work_fn`. -/
def trimBlanks (s : List UInt8) : List UInt8 := (s.dropWhile isBlank).rdropWhile isBlank

/-- The command `shell_exec_work_fn` copies out of the buffer:
`strncpy`, a NUL in the last place, and the trimming. -/
def copiedCommand (sh : ShellRelay) : List UInt8 :=
  trimBlanks (cString (sh.cmdBuf.take (cfg.shellCmdBufSize - 1)))

/-- `shell_exec_work_fn` after `shell_execute_cmd` has run `cmd`, with
`none` for its `-ENOEXEC` and its output otherwise. -/
def shellExecOutput (cmd : List UInt8) (out : Option (List UInt8)) (sh : ShellRelay) :
    ShellRelay :=
  let sh := match out with
    | none =>
      outEnqueue cfg ("\r\n\x1b[31m".toUTF8.toList ++ cmd ++
        ": command not found\x1b[0m".toUTF8.toList) sh
    | some out => if out.isEmpty then sh else outEnqueue cfg out sh
  sendPrompt cfg sh

end EsbEndpoint
