import EsbEndpoint.Shell.Stdout

/-!
# The line editor

The editor of `esb_shell_relay_on_data` takes the bytes of a session one by
one, and what it knows of those before is in `cmd_buf` and `cmd_len`. So
the cuts between packets leave no trace: in every session the lines that
`cmd_buf` holds at the submissions of `shell_exec_work` are those of the
whole stream, as the reference editor reads it, the ring gains one echo for
each byte erased, and the buffer is never overrun (`lineEditor`).
-/

namespace EsbEndpoint

variable (cfg : Config)

/-! ## Runs of a session -/

/-- The bytes that erase one that was kept, by the reference editor. -/
def erasuresFrom : List (List UInt8) × List UInt8 → List UInt8 → Nat
  | _, [] => 0
  | st, b :: bs =>
    (if !isLineEnd b && isErase b && !st.2.isEmpty then 1 else 0) +
      erasuresFrom (typeByte cfg st b) bs

def erasures (typed : List UInt8) : Nat := erasuresFrom cfg ([], []) typed

/-- The ring behind more bytes, of which it drops what does not fit. -/
def ringBehind (rb data : List UInt8) : List UInt8 :=
  rb ++ data.take (cfg.shellOutBufSize - rb.length)

/-- This many times `"\b \b"`. -/
def echoes (n : Nat) : List UInt8 := (List.replicate n [8, 32, 8]).flatten

/-- The endpoint in a session, and the bytes received since it began. -/
structure EditTrace where
  e : Endpoint
  stream : List UInt8 := []

def editStep (t : EditTrace) (op : ShellOp) : EditTrace where
  e := shellStep cfg t.e op
  stream :=
    match op with
    | .onData data => t.stream ++ data
    | _ => t.stream

/-- A session begins, and its history with it. -/
def EditTrace.start (e : Endpoint) : EditTrace where
  e := shellStep cfg (e.mapShell fun sh =>
    { sh with shellActive := false, submissions := [], overrun := false }) .onReq

/-- The session goes on. -/
def SessionGoesOn (t : EditTrace) (op : ShellOp) : Prop :=
  (shellStep cfg t.e op).shell.shellActive = true

instance (t : EditTrace) (op : ShellOp) : Decidable (SessionGoesOn cfg t op) :=
  inferInstanceAs (Decidable (_ = _))

/-- A buffer holds a line: the line, and a NUL behind it. -/
def HoldsLine (line buf : List UInt8) : Prop := line ++ [0] <+: buf

/-- **The editor is the reference editor**, within its buffer: `cmd_buf`
holds the reference's lines at the submissions, one each. -/
structure Edited (t : EditTrace) : Prop where
  room : t.e.shell.cmdLen ≤ cfg.shellCmdBufSize - 1
  size : t.e.shell.cmdBuf.length = cfg.shellCmdBufSize
  inside : t.e.shell.overrun = false
  lines : List.Forall₂ HoldsLine (linesOf cfg t.stream) t.e.shell.submissions

/-- **A packet echoes and submits what the reference editor finds in it**:
the ring gains an echo for each byte erased, and a line completed leaves
`shell_exec_work` submitted. -/
def PacketEdited (t : EditTrace) : ShellOp → Prop
  | .onData data =>
    (shellStep cfg t.e (.onData data)).shell.outRb =
        ringBehind cfg t.e.shell.outRb
          (echoes (erasures cfg (t.stream ++ data) - erasures cfg t.stream)) ∧
      (linesOf cfg (t.stream ++ data) ≠ linesOf cfg t.stream →
        (shellStep cfg t.e (.onData data)).shell.shellExecWork = true)
  | _ => True

variable {cfg}

/-! ## The echoes -/

theorem outRb_outEnqueue_eq (data : List UInt8) (sh : ShellRelay) :
    (outEnqueue cfg data sh).outRb = ringBehind cfg sh.outRb data := by
  show sh.outRb ++ data.take (min data.length (cfg.shellOutBufSize - sh.outRb.length)) = _
  rw [Nat.min_comm, ← List.take_eq_take_min, ringBehind]

/-- Bytes that go in together go in one after the other. -/
theorem ringBehind_append (rb data data' : List UInt8) :
    ringBehind cfg (ringBehind cfg rb data) data' = ringBehind cfg rb (data ++ data') := by
  have hroom : cfg.shellOutBufSize - (rb.length + min (cfg.shellOutBufSize - rb.length)
      data.length) = cfg.shellOutBufSize - rb.length - data.length := by
    omega
  simp only [ringBehind, List.length_append, List.length_take, hroom, List.append_assoc,
    List.take_append]

theorem ringBehind_echoes_zero (rb : List UInt8) : ringBehind cfg rb (echoes 0) = rb := by
  show rb ++ List.take _ [] = rb
  rw [List.take_nil, List.append_nil]

theorem echoes_add (m n : Nat) : echoes (m + n) = echoes m ++ echoes n := by
  rw [echoes, List.replicate_add, List.flatten_append]
  rfl

/-! ## One byte -/

/-- A turn of the loop, with the submission. -/
def editByte (cfg : Config) (b : UInt8) (sh : ShellRelay) : ShellRelay :=
  if completesLine b sh then submitExec (takeByte cfg b sh) else takeByte cfg b sh

section Byte

variable {sh : ShellRelay} {st : List (List UInt8) × List UInt8} {b : UInt8}

variable (cfg) in
/-- **The editor is where the reference editor is.** -/
structure FollowsReference (sh : ShellRelay) (st : List (List UInt8) × List UInt8) : Prop where
  holds : Holds cfg sh st.2
  inside : sh.overrun = false
  lines : List.Forall₂ HoldsLine st.1 sh.submissions

theorem FollowsReference.frame {sh' : ShellRelay} (h : FollowsReference cfg sh st)
    (heq : sh'.editor = sh.editor) : FollowsReference cfg sh' st := by
  simp only [ShellRelay.editor, Prod.mk.injEq] at heq
  obtain ⟨hbuf, hlen, hsubs, hover⟩ := heq
  exact ⟨h.holds.frame hbuf hlen, hover.trans h.inside, hsubs ▸ h.lines⟩

/-- A byte is stored inside the buffer. -/
theorem Holds.overrun_storeCmd {line : List UInt8} (h : Holds cfg sh line) (b : UInt8) :
    (storeCmd sh.cmdLen b sh).overrun = sh.overrun := by
  have hlt : ¬sh.cmdBuf.length ≤ sh.cmdLen := by
    rw [h.size, h.len]
    exact Nat.not_le.2 h.fits
  rw [storeCmd, decide_eq_false hlt, Bool.or_false]

/-- A turn stores nothing outside the buffer, -/
theorem overrun_takeByte {line : List UInt8} (h : Holds cfg sh line) (b : UInt8) :
    (takeByte cfg b sh).overrun = sh.overrun := by
  have hstore := h.overrun_storeCmd
  unfold takeByte
  split
  · split
    · exact hstore 0
    · rfl
  · split
    · split <;> rfl
    · split
      · exact hstore b
      · rfl

/-- and submits at the end of a line alone. -/
theorem submissions_takeByte (b : UInt8) (sh : ShellRelay) :
    (takeByte cfg b sh).submissions = sh.submissions := by
  unfold takeByte
  split
  · split <;> rfl
  · split
    · split <;> rfl
    · split <;> rfl

/-- **A turn of the loop is a step of the reference editor.** -/
theorem FollowsReference.editByte (h : FollowsReference cfg sh st) (b : UInt8) :
    FollowsReference cfg (editByte cfg b sh) (typeByte cfg st b) := by
  have hinside := (overrun_takeByte h.holds b).trans h.inside
  have hsubs := @submissions_takeByte cfg b sh
  unfold EsbEndpoint.editByte
  cases hc : completesLine b sh with
  | true =>
    -- the line is in the buffer, and its NUL goes behind it
    obtain ⟨hend, hne⟩ := (completesLine_iff h.holds).1 hc
    have hpos : 0 < sh.cmdLen := by
      rw [h.holds.len]
      exact List.length_pos_of_ne_nil hne
    have hempty : st.2.isEmpty = false := by
      rw [Bool.eq_false_iff, ne_eq, List.isEmpty_iff]
      exact hne
    have htaken : takeByte cfg b sh = { storeCmd sh.cmdLen 0 sh with cmdLen := 0 } := by
      simp only [takeByte, hend, if_true, if_pos hpos]
    have htyped : typeByte cfg st b = (st.1 ++ [st.2], []) := by
      simp only [typeByte, hend, if_true, hempty, Bool.false_eq_true, if_false]
    obtain ⟨rest, hset⟩ := h.holds.ended
    have hbuf : (takeByte cfg b sh).cmdBuf = st.2 ++ 0 :: rest := by
      rw [htaken]
      exact hset
    rw [if_pos rfl, htyped]
    refine ⟨⟨?_, ?_, cfg.cmdBuf_pos, rfl⟩, hinside, ?_⟩
    · rw [← h.holds.size, htaken]
      exact List.length_set
    · rw [htaken]
      rfl
    · show List.Forall₂ HoldsLine (st.1 ++ [st.2])
        ((takeByte cfg b sh).submissions ++ [(takeByte cfg b sh).cmdBuf])
      rw [hsubs, hbuf]
      refine List.rel_append h.lines (.cons ⟨rest, ?_⟩ .nil)
      rw [List.append_assoc]
      rfl
  | false =>
    obtain ⟨hholds, hlines, -⟩ := @takeByte_spec cfg sh b st False h.holds hc
      (Or.inr (Or.inr False.elim))
    rw [if_neg Bool.false_ne_true]
    exact ⟨hholds, hinside, by rw [hlines, hsubs]; exact h.lines⟩

/-- **A byte erased is echoed**, and no other. -/
theorem outRb_editByte (h : Holds cfg sh st.2) (b : UInt8) :
    (editByte cfg b sh).outRb =
      ringBehind cfg sh.outRb
        (echoes (if !isLineEnd b && isErase b && !st.2.isEmpty then 1 else 0)) := by
  have hnone : sh.outRb = ringBehind cfg sh.outRb (echoes 0) := (ringBehind_echoes_zero _).symm
  have hlen := h.len
  have hturn : (editByte cfg b sh).outRb = (takeByte cfg b sh).outRb := by
    unfold editByte
    split <;> rfl
  rw [hturn]
  unfold takeByte
  cases isLineEnd b with
  | true =>
    rw [if_pos rfl, Bool.not_true, Bool.false_and, Bool.false_and, if_neg Bool.false_ne_true]
    split
    · exact hnone
    · exact hnone
  | false =>
    rw [if_neg Bool.false_ne_true, Bool.not_false, Bool.true_and]
    cases isErase b with
    | true =>
      rw [if_pos rfl, Bool.true_and]
      cases hempty : st.2.isEmpty with
      | true =>
        have hzero : ¬0 < sh.cmdLen := by
          rw [hlen, List.isEmpty_iff.1 hempty]
          exact Nat.lt_irrefl 0
        rw [if_neg hzero]
        exact hnone
      | false =>
        have hpos : 0 < sh.cmdLen := by
          rw [hlen]
          exact List.length_pos_iff.2 (List.isEmpty_eq_false_iff.1 hempty)
        rw [if_pos hpos]
        exact outRb_outEnqueue_eq _ _
    | false =>
      rw [if_neg Bool.false_ne_true, Bool.false_and, if_neg Bool.false_ne_true]
      split
      · exact hnone
      · exact hnone

/-- A line completed is submitted. -/
theorem shellExecWork_editByte (h : Holds cfg sh st.2)
    (hwork : sh.shellExecWork = true ∨ (typeByte cfg st b).1 ≠ st.1) :
    (editByte cfg b sh).shellExecWork = true := by
  unfold editByte
  cases hc : completesLine b sh with
  | true => rfl
  | false =>
    obtain ⟨-, hlines, -⟩ := @takeByte_spec cfg sh b st False h hc (Or.inr (Or.inr False.elim))
    rw [if_neg Bool.false_ne_true, shellExecWork_takeByte]
    exact hwork.resolve_right fun hne => hne hlines

/-- **The loop over a packet**: it follows the reference editor, echoes
what that erases, and submits what that completes. -/
theorem onDataLoop_spec (data : List UInt8) (h : FollowsReference cfg sh st) :
    FollowsReference cfg (onDataLoop cfg data sh).1 (typeBytes cfg st data) ∧
      (onDataLoop cfg data sh).1.outRb =
        ringBehind cfg sh.outRb (echoes (erasuresFrom cfg st data)) ∧
      (sh.shellExecWork = true ∨ (typeBytes cfg st data).1 ≠ st.1 →
        (onDataLoop cfg data sh).1.shellExecWork = true) := by
  induction data generalizing sh st with
  | nil =>
    exact ⟨h, (ringBehind_echoes_zero _).symm,
      fun hwork => hwork.resolve_right fun hne => hne rfl⟩
  | cons b data ih =>
    obtain ⟨hfollows, hring, hwork⟩ := ih (h.editByte b)
    have hloop : (onDataLoop cfg (b :: data) sh).1 =
        (onDataLoop cfg data (editByte cfg b sh)).1 := rfl
    rw [hloop]
    refine ⟨hfollows, ?_, fun hdue => hwork ?_⟩
    · rw [hring, outRb_editByte h.holds b, ringBehind_append, ← echoes_add, erasuresFrom]
    · -- submitted before, now, or later in the packet
      by_cases hnow : sh.shellExecWork = true ∨ (typeByte cfg st b).1 ≠ st.1
      · exact Or.inl (shellExecWork_editByte h.holds hnow)
      · obtain ⟨hidle, hsame⟩ := not_or.1 hnow
        refine Or.inr ?_
        rw [not_not.1 hsame]
        exact hdue.resolve_left hidle

end Byte

/-! ## The session -/

variable {t : EditTrace}

theorem erasuresFrom_append (st : List (List UInt8) × List UInt8) (xs ys : List UInt8) :
    erasuresFrom cfg st (xs ++ ys) =
      erasuresFrom cfg st xs + erasuresFrom cfg (typeBytes cfg st xs) ys := by
  induction xs generalizing st with
  | nil => exact (Nat.zero_add _).symm
  | cons b xs ih =>
    rw [List.cons_append, erasuresFrom, ih, erasuresFrom, Nat.add_assoc]
    rfl

/-- **Nothing but received bytes moves the editor** as long as the session
goes on. -/
theorem editor_shellStep {e : Endpoint} (hactive : e.shell.shellActive = true) {op : ShellOp}
    (hgoes : (shellStep cfg e op).shell.shellActive = true) (hdata : ∀ data, op ≠ .onData data) :
    (shellStep cfg e op).shell.editor = e.shell.editor := by
  cases hop : op.typesOrPrints with
  | false =>
    have hkept := inSession_shellStep hactive hgoes hop
    simp only [ShellRelay.inSession, Prod.mk.injEq] at hkept
    exact hkept.2.1
  | true =>
    cases op with
    | exec out =>
      simp only [shellStep]
      split
      · simp only [Endpoint.mapShell_shell, shellExecWorkFn, shellExecOutput]
        cases out with
        | none => rfl
        | some out =>
          dsimp only
          split <;> rfl
      · rfl
    | stdoutFlush =>
      simp only [shellStep]
      split
      · rw [Endpoint.mapShell_shell, stdoutFlushWorkFn]
        dsimp only
        split
        · rfl
        · rfl
      · rfl
    | stdout c =>
      simp only [shellStep, Endpoint.mapShell_shell, esbStdoutHook]
      split
      · rfl
      · rfl
    | log pieces =>
      have hfold : ∀ (pieces : List (List UInt8)) (sh : ShellRelay),
          (pieces.foldl (logOutFunc cfg) sh).editor = sh.editor := by
        intro pieces
        induction pieces with
        | nil => exact fun sh => rfl
        | cons buf pieces ih =>
          intro sh
          have hbuf : (logOutFunc cfg sh buf).editor = sh.editor := by
            unfold logOutFunc
            split <;> rfl
          rw [List.foldl_cons, ih, hbuf]
      simp only [shellStep, Endpoint.mapShell_shell, esbLogBackendProcess]
      split
      · rfl
      · rw [hfold]
        split <;> rfl
    | onData data => exact absurd rfl (hdata data)
    | _ => exact Bool.noConfusion hop

variable (cfg) in
/-- The invariant: the session is open, and the editor follows. -/
structure EditTrace.Sound (t : EditTrace) : Prop where
  active : t.e.shell.shellActive = true
  follows : FollowsReference cfg t.e.shell (typeBytes cfg ([], []) t.stream)

theorem EditTrace.Sound.edited (h : t.Sound cfg) : Edited cfg t where
  room := by
    have hlen := h.follows.holds.len
    have hfits := h.follows.holds.fits
    omega
  size := h.follows.holds.size
  inside := h.follows.inside
  lines := h.follows.lines

/-- **A packet in a session** runs the loop. -/
theorem onData_spec (h : t.Sound cfg) (data : List UInt8) :
    FollowsReference cfg (shellStep cfg t.e (.onData data)).shell
        (typeBytes cfg ([], []) (t.stream ++ data)) ∧
      PacketEdited cfg t (.onData data) := by
  have htyped := @typeBytes_typed cfg t.stream data
  have hlines : linesOf cfg (t.stream ++ data) =
      (typeBytes cfg (linesOf cfg t.stream, lineOf cfg t.stream) data).1 :=
    congrArg Prod.fst htyped
  have hstart : FollowsReference cfg (restartInactivity cfg t.e.shell)
      (linesOf cfg t.stream, lineOf cfg t.stream) := h.follows.frame rfl
  obtain ⟨hfollows, hring, hwork⟩ := onDataLoop_spec data hstart
  have herased : erasures cfg (t.stream ++ data) - erasures cfg t.stream =
      erasuresFrom cfg (linesOf cfg t.stream, lineOf cfg t.stream) data := by
    rw [erasures, erasuresFrom_append, ← erasures, Nat.add_sub_cancel_left]
    rfl
  unfold PacketEdited
  dsimp only
  rw [herased, htyped, hlines]
  simp only [shellStep, esbShellRelayOnData, h.active, Bool.not_true, Bool.false_or,
    Bool.false_and, Bool.false_eq_true, if_false]
  split
  · -- no bytes, no call
    rename_i hempty
    rw [List.isEmpty_iff.1 hempty]
    exact ⟨h.follows, (ringBehind_echoes_zero _).symm, fun hne => absurd rfl hne⟩
  · have hdrain : ∀ (needDrain : Bool) (sh : ShellRelay),
        (drainIf needDrain sh).editor = sh.editor ∧ (drainIf needDrain sh).outRb = sh.outRb ∧
          (drainIf needDrain sh).shellExecWork = sh.shellExecWork := by
      intro needDrain sh
      unfold drainIf
      split <;> exact ⟨rfl, rfl, rfl⟩
    rw [Endpoint.mapShell_shell, onSessionData]
    dsimp only
    obtain ⟨heditor, hrb, hexec⟩ := hdrain (onDataLoop cfg data (restartInactivity cfg t.e.shell)).2
      (onDataLoop cfg data (restartInactivity cfg t.e.shell)).1
    rw [hrb, hexec]
    exact ⟨hfollows.frame heditor, hring, fun hne => hwork (Or.inr hne)⟩

/-- **Every step of the session keeps it.** -/
theorem EditTrace.Sound.step (h : t.Sound cfg) {op : ShellOp} (hgoes : SessionGoesOn cfg t op) :
    (editStep cfg t op).Sound cfg ∧ PacketEdited cfg t op := by
  by_cases hdata : ∃ data, op = .onData data
  · obtain ⟨data, rfl⟩ := hdata
    obtain ⟨hfollows, hpacket⟩ := onData_spec h data
    exact ⟨⟨hgoes, hfollows⟩, hpacket⟩
  · have hother := not_exists.1 hdata
    have hkept := editor_shellStep h.active hgoes hother
    have hstream : (editStep cfg t op).stream = t.stream := by
      cases op with
      | onData data => exact absurd rfl (hother data)
      | _ => rfl
    refine ⟨⟨hgoes, ?_⟩, ?_⟩
    · rw [hstream]
      exact h.follows.frame hkept
    · cases op with
      | onData data => exact absurd rfl (hother data)
      | _ => trivial

theorem EditTrace.sound_start {e : Endpoint} (hsize : e.shell.cmdBuf.length = cfg.shellCmdBufSize) :
    (EditTrace.start cfg e).Sound cfg :=
  ⟨rfl, ⟨hsize, rfl, cfg.cmdBuf_pos, rfl⟩, rfl, .nil⟩

/-- **The line editor is right, however the stream is cut**: in every
session, whatever else the relay does between the packets, the lines in
`cmd_buf` at the submissions are those the reference editor finds in all
the bytes received, the ring gains an echo for each byte erased, and the
buffer is not overrun. -/
theorem lineEditor (cfg : Config) (e : Endpoint)
    (hsize : e.shell.cmdBuf.length = cfg.shellCmdBufSize) (ops : List ShellOp)
    (hgoes : Guarded (editStep cfg) (SessionGoesOn cfg) (EditTrace.start cfg e) ops) :
    Throughout (editStep cfg) (Edited cfg) (EditTrace.start cfg e) ops ∧
      Guarded (editStep cfg) (PacketEdited cfg) (EditTrace.start cfg e) ops :=
  ⟨(Throughout.of_guarded (P := EditTrace.Sound cfg) (fun _ _ ht hop => (ht.step hop).1)
      (EditTrace.sound_start hsize) hgoes).imp fun _ ht => ht.edited,
    Guarded.of_invariant (I := EditTrace.Sound cfg) (fun _ _ ht hop => (ht.step hop).1)
      (fun _ _ ht hop => (ht.step hop).2) (EditTrace.sound_start hsize) hgoes⟩

/-- A line typed with a slip, in three packets. -/
theorem lineEditor_slip :
    let start := EditTrace.start .withShell (Endpoint.bootConnected .withShell)
    let ops : List ShellOp := [.onData [108, 120], .poll, .onData [0x7F, 115], .drain 0,
      .onData [13, 10, 8]]
    (Throughout (editStep .withShell) (Edited .withShell) start ops ∧
      Guarded (editStep .withShell) (PacketEdited .withShell) start ops) ∧
      (runFrom (editStep .withShell) start ops).e.shell.submissions.map cString = [[108, 115]] := by
  intro start ops
  exact ⟨lineEditor .withShell _ List.length_replicate _ (by decide +kernel), by decide +kernel⟩

end EsbEndpoint
