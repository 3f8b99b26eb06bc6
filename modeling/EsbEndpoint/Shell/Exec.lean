import EsbEndpoint.Common.Run
import EsbEndpoint.Shell.Relay

/-!
# Lines and their execution

A completed line is handed to the shell's own work queue through the one
line buffer and one work item. `esb_shell_relay_on_data` gives up the
mutex to submit the work and then goes on with the same packet, so the
work finds whatever is in the buffer by the time it copies it; and a
submission of work that is still queued does nothing. `ExecutedOnce` says
that the lines typed are the commands run, the one in hand and those to
come; `ExecSpared` is what keeps it so: lines without a NUL, and a buffer
left alone until it is copied.
-/

namespace EsbEndpoint

variable (cfg : Config)

/-! ## What is typed -/

/-- One byte typed into the line editor: the lines completed so far, and
the one being typed, which keeps a byte less than the buffer has. -/
def typeByte (st : List (List UInt8) × List UInt8) (b : UInt8) :
    List (List UInt8) × List UInt8 :=
  if isLineEnd b then (if st.2.isEmpty then st else (st.1 ++ [st.2], []))
  else if isErase b then (st.1, st.2.dropLast)
  else if st.2.length + 1 < cfg.shellCmdBufSize then (st.1, st.2 ++ [b])
  else st

def typeBytes (st : List (List UInt8) × List UInt8) (bytes : List UInt8) :
    List (List UInt8) × List UInt8 :=
  bytes.foldl (typeByte cfg) st

/-- The completed non-empty lines of a byte stream. -/
def linesOf (typed : List UInt8) : List (List UInt8) := (typeBytes cfg ([], []) typed).1

/-- The line being typed at its end. -/
def lineOf (typed : List UInt8) : List UInt8 := (typeBytes cfg ([], []) typed).2

/-! ## The two contexts -/

/-- Where `esb_shell_relay_on_data` stands: not running, or with a line
completed and the mutex free, before or after the submission, and this
much of the packet left. -/
inductive DataPhase
  | waiting
  | ready (rest : List UInt8) (needDrain : Bool)
  | submitted (rest : List UInt8) (needDrain : Bool)
  deriving DecidableEq

/-- Where `shell_exec_work_fn` stands: not running, before its copy, or
with this command in hand. -/
inductive ExecPhase
  | waiting
  | entered
  | copied (cmd : List UInt8)
  deriving DecidableEq

structure ExecTrace where
  sh : ShellRelay
  data : DataPhase := .waiting
  exec : ExecPhase := .waiting
  /-- the bytes processed -/
  typed : List UInt8 := []
  /-- the strings passed to `shell_execute_cmd` -/
  executed : List (List UInt8) := []

inductive ExecOp
  /-- `esb_shell_relay_on_data` is called, and runs to its first unlock -/
  | data (bytes : List UInt8)
  /-- it submits the work -/
  | submit
  /-- it takes the mutex again and runs to its next unlock -/
  | resume
  /-- `shell_exec_work_fn` is entered -/
  | enter
  /-- it copies the buffer -/
  | copy
  /-- it runs the command, to this output -/
  | run (out : Option (List UInt8))

/-- One hold of the mutex by `esb_shell_relay_on_data`. -/
def holdMutex (s : ExecTrace) (bytes : List UInt8) (needDrain : Bool) : ExecTrace :=
  match onDataSegment cfg bytes s.sh with
  | (sh, none, erased) =>
    { s with
      sh := drainIf (needDrain || erased) sh
      data := .waiting
      typed := s.typed ++ bytes }
  | (sh, some rest, erased) =>
    { s with
      sh
      data := .ready rest (needDrain || erased)
      typed := s.typed ++ bytes.take (bytes.length - rest.length) }

def execStep (s : ExecTrace) : ExecOp → ExecTrace
  | .data bytes =>
    if s.data = .waiting ∧ bytes ≠ [] then
      holdMutex cfg { s with sh := restartInactivity cfg s.sh } bytes false
    else s
  | .submit =>
    match s.data with
    | .ready rest needDrain =>
      { s with sh := submitExec s.sh, data := .submitted rest needDrain }
    | _ => s
  | .resume =>
    match s.data with
    | .submitted rest needDrain => holdMutex cfg s rest needDrain
    | _ => s
  | .enter =>
    if s.exec = .waiting ∧ s.sh.shellExecWork = true then
      { s with sh := { s.sh with shellExecWork := false }, exec := .entered }
    else s
  | .copy => if s.exec = .entered then { s with exec := .copied (copiedCommand cfg s.sh) } else s
  | .run out =>
    match s.exec with
    | .copied cmd =>
      { s with
        sh := shellExecOutput cfg cmd out s.sh
        exec := .waiting
        executed := s.executed ++ [cmd] }
    | _ => s

/-- The relay at the start of a session. -/
def ShellRelay.session : ShellRelay :=
  esbShellRelayOnReq cfg { cmdBuf := List.replicate cfg.shellCmdBufSize 0 }

/-! ## The property and its condition -/

/-- A line is completed and its work not submitted yet. -/
def DataPhase.isReady : DataPhase → Bool
  | .ready _ _ => true
  | _ => false

/-- What `esb_shell_relay_on_data` goes on with. -/
def DataPhase.rest : DataPhase → List UInt8
  | .submitted rest _ => rest
  | _ => []

/-- The command in hand. -/
def ExecPhase.inHand : ExecPhase → List (List UInt8)
  | .copied cmd => [cmd]
  | _ => []

/-- The copies of the buffer still to be made. -/
def ExecTrace.copiesDue (s : ExecTrace) : Nat :=
  (if s.exec = .entered then 1 else 0) + if s.sh.shellExecWork || s.data.isReady then 1 else 0

/-- **Every line runs once**: the commands run, the one in hand and those
still to be copied are the completed lines, in order, trimmed. -/
def ExecutedOnce (s : ExecTrace) : Prop :=
  s.executed ++ s.exec.inHand ++ List.replicate s.copiesDue (copiedCommand cfg s.sh) =
    (linesOf cfg s.typed).map trimBlanks

instance (s : ExecTrace) : Decidable (ExecutedOnce cfg s) := inferInstanceAs (Decidable (_ = _))

/-- Storing `b` leaves alone the command a copy would yield. -/
def LeavesCommand (sh : ShellRelay) (b : UInt8) : Prop :=
  copiedCommand cfg { sh with cmdBuf := sh.cmdBuf.set sh.cmdLen b } = copiedCommand cfg sh

instance (sh : ShellRelay) (b : UInt8) : Decidable (LeavesCommand cfg sh b) :=
  inferInstanceAs (Decidable (_ = _))

/-- One hold of the mutex leaves alone what is still to be copied: it
completes no line while the work is queued, nor one with a NUL in it, and
stores nothing that shows in a copy that is due. -/
def Undisturbed (entered : Prop) : List UInt8 → ShellRelay → Prop
  | [], _ => True
  | b :: bs, sh =>
    if completesLine b sh = true then
      sh.shellExecWork = false ∧ 0 ∉ sh.cmdBuf.take sh.cmdLen ∧ (entered → LeavesCommand cfg sh 0)
    else
      (isLineEnd b = true ∨ isErase b = true ∨
          (sh.shellExecWork = true ∨ entered → LeavesCommand cfg sh b)) ∧
        Undisturbed entered bs (takeByte cfg b sh)

instance Undisturbed.decidable (entered : Prop) [Decidable entered] :
    (bytes : List UInt8) → (sh : ShellRelay) → Decidable (Undisturbed cfg entered bytes sh)
  | [], _ => inferInstanceAs (Decidable True)
  | b :: bs, sh =>
    haveI := Undisturbed.decidable entered bs (takeByte cfg b sh)
    inferInstanceAs (Decidable (if completesLine b sh = true then
      sh.shellExecWork = false ∧ 0 ∉ sh.cmdBuf.take sh.cmdLen ∧ (entered → LeavesCommand cfg sh 0)
    else
      (isLineEnd b = true ∨ isErase b = true ∨
          (sh.shellExecWork = true ∨ entered → LeavesCommand cfg sh b)) ∧
        Undisturbed cfg entered bs (takeByte cfg b sh)))

/-- The condition on an operation. -/
def ExecSpared (s : ExecTrace) : ExecOp → Prop
  | .data bytes => s.data = .waiting → Undisturbed cfg (s.exec = .entered) bytes s.sh
  | .resume => Undisturbed cfg (s.exec = .entered) s.data.rest s.sh
  | _ => True

instance (s : ExecTrace) : (op : ExecOp) → Decidable (ExecSpared cfg s op)
  | .data bytes =>
    inferInstanceAs (Decidable (s.data = .waiting →
      Undisturbed cfg (s.exec = .entered) bytes s.sh))
  | .resume => inferInstanceAs (Decidable (Undisturbed cfg _ s.data.rest s.sh))
  | .submit | .enter | .copy | .run _ => inferInstanceAs (Decidable True)

/-! ## The loop and its holds of the mutex -/

variable {cfg}

/-- **The loop is its holds of the mutex**, one after the other, with a
submission between any two. -/
theorem onDataLoop_eq (data : List UInt8) (sh : ShellRelay) :
    onDataLoop cfg data sh =
      match onDataSegment cfg data sh with
      | (sh', none, erased) => (sh', erased)
      | (sh', some rest, erased) =>
        ((onDataLoop cfg rest (submitExec sh')).1,
          erased || (onDataLoop cfg rest (submitExec sh')).2) := by
  induction data generalizing sh with
  | nil => rfl
  | cons b bs ih =>
    cases hcompletes : completesLine b sh with
    | true =>
      have herase : erasesByte b sh = false := by
        simp only [completesLine, Bool.and_eq_true] at hcompletes
        simp only [erasesByte, hcompletes.1, Bool.not_true, Bool.false_and]
      simp only [onDataLoop, onDataSegment, hcompletes, herase, if_true, Bool.false_or]
    | false =>
      simp only [onDataLoop, onDataSegment, hcompletes, Bool.false_eq_true, if_false]
      rw [ih]
      cases hseg : onDataSegment cfg bs (takeByte cfg b sh) with
      | mk sh' out =>
        obtain ⟨rest, erased⟩ := out
        cases rest with
        | none => rfl
        | some rest => simp only [Bool.or_assoc]

/-! ## The buffer and the line in it -/

variable {sh : ShellRelay} {line : List UInt8} {b : UInt8}

variable (cfg) in
/-- The buffer holds the line being typed, and there is room for its NUL. -/
structure Holds (sh : ShellRelay) (line : List UInt8) : Prop where
  size : sh.cmdBuf.length = cfg.shellCmdBufSize
  len : sh.cmdLen = line.length
  fits : line.length < cfg.shellCmdBufSize
  text : sh.cmdBuf.take line.length = line

theorem Holds.frame {sh' : ShellRelay} (h : Holds cfg sh line) (hbuf : sh'.cmdBuf = sh.cmdBuf)
    (hlen : sh'.cmdLen = sh.cmdLen) : Holds cfg sh' line :=
  ⟨hbuf ▸ h.size, hlen ▸ h.len, h.fits, hbuf ▸ h.text⟩

theorem takeByte_store (hend : isLineEnd b = false) (herase : isErase b = false)
    (hroom : sh.cmdLen < cfg.shellCmdBufSize - 1) :
    takeByte cfg b sh =
      { storeCmd sh.cmdLen b sh with cmdLen := sh.cmdLen + 1 } := by
  simp only [takeByte, hend, herase, Bool.false_eq_true, if_false, if_pos hroom]

theorem Holds.store (h : Holds cfg sh line) (hend : isLineEnd b = false)
    (herase : isErase b = false) (hfits : line.length + 1 < cfg.shellCmdBufSize) :
    Holds cfg (takeByte cfg b sh) (line ++ [b]) := by
  have hlen := h.len
  rw [takeByte_store hend herase (by omega)]
  refine ⟨?_, ?_, ?_, ?_⟩
  · show (sh.cmdBuf.set sh.cmdLen b).length = _
    rw [List.length_set]
    exact h.size
  · rw [List.length_append, List.length_singleton, hlen]
  · rw [List.length_append, List.length_singleton]
    exact hfits
  · show (sh.cmdBuf.set sh.cmdLen b).take _ = _
    have hlt : line.length < (sh.cmdBuf.set line.length b).length := by
      rw [List.length_set, h.size]
      exact h.fits
    rw [hlen, List.length_append, List.length_singleton, List.take_succ_eq_append_getElem hlt,
      List.take_set_of_le (Nat.le_refl _), h.text, List.getElem_set_self]

theorem Holds.erase (h : Holds cfg sh line) (hend : isLineEnd b = false)
    (herase : isErase b = true) : Holds cfg (takeByte cfg b sh) line.dropLast := by
  have hlen := h.len
  simp only [takeByte, hend, herase, Bool.false_eq_true, if_false, if_true]
  have hdrop : Holds cfg { sh with cmdLen := sh.cmdLen - 1 } line.dropLast := by
    refine ⟨h.size, ?_, ?_, ?_⟩
    · rw [List.length_dropLast, hlen]
    · rw [List.length_dropLast]
      have := h.fits
      omega
    · have htext := congrArg (List.take (line.length - 1)) h.text
      rw [List.take_take, min_eq_left (Nat.sub_le _ _), ← List.dropLast_eq_take] at htext
      rw [List.length_dropLast]
      exact htext
  split
  · exact hdrop.frame rfl rfl
  · have hzero : line.length = 0 := by omega
    rw [List.length_eq_zero_iff.1 hzero] at h ⊢
    exact h

theorem cString_append {s t : List UInt8} (h : ∀ b ∈ s, b ≠ 0) :
    cString (s ++ t) = s ++ cString t :=
  List.takeWhile_append_of_pos fun b hb => bne_iff_ne.2 (h b hb)

/-- The NUL goes behind the line. -/
theorem Holds.ended (h : Holds cfg sh line) :
    ∃ rest, sh.cmdBuf.set sh.cmdLen 0 = line ++ 0 :: rest := by
  have hfits := h.fits
  have hbuf : sh.cmdBuf = line ++ sh.cmdBuf.drop line.length := by
    conv_lhs => rw [← List.take_append_drop line.length sh.cmdBuf, h.text]
  obtain ⟨c, rest, hdrop⟩ : ∃ c rest, sh.cmdBuf.drop line.length = c :: rest := by
    refine List.exists_cons_of_length_pos ?_
    rw [List.length_drop, h.size]
    omega
  refine ⟨rest, ?_⟩
  rw [hbuf, hdrop, h.len, List.set_append_right _ _ (Nat.le_refl _), Nat.sub_self,
    List.set_cons_zero]

/-- **A completed line is what a copy of the buffer yields.** -/
theorem Holds.complete (h : Holds cfg sh line) (hend : isLineEnd b = true)
    (hne : line ≠ []) (hnul : 0 ∉ sh.cmdBuf.take sh.cmdLen) :
    Holds cfg (takeByte cfg b sh) [] ∧ copiedCommand cfg (takeByte cfg b sh) = trimBlanks line := by
  have hlen := h.len
  have hfits := h.fits
  have hpos : 0 < sh.cmdLen := by
    rw [hlen]
    exact List.length_pos_of_ne_nil hne
  simp only [takeByte, hend, if_true, if_pos hpos]
  refine ⟨⟨?_, rfl, by rw [List.length_nil]; omega, rfl⟩, ?_⟩
  · show (sh.cmdBuf.set sh.cmdLen 0).length = _
    rw [List.length_set]
    exact h.size
  · obtain ⟨rest, hset⟩ := h.ended
    have hline : ∀ c ∈ line, c ≠ 0 := by
      rw [hlen, h.text] at hnul
      exact fun c hc hzero => hnul (hzero ▸ hc)
    have hnil : ∀ n, cString ((0 :: rest).take n) = [] := by
      intro n
      cases n with
      | zero => rfl
      | succ n => rfl
    show trimBlanks (cString ((sh.cmdBuf.set sh.cmdLen 0).take _)) = _
    rw [hset, List.take_append, List.take_of_length_le (by omega),
      cString_append hline, hnil, List.append_nil]

/-! ## One hold of the mutex -/

theorem completesLine_iff (h : Holds cfg sh line) :
    completesLine b sh = true ↔ isLineEnd b = true ∧ line ≠ [] := by
  rw [completesLine, Bool.and_eq_true, decide_eq_true_eq, h.len, List.length_pos_iff]

/-- A byte that completes no line. -/
theorem takeByte_spec {st : List (List UInt8) × List UInt8} {busy : Prop}
    (h : Holds cfg sh st.2) (hc : completesLine b sh = false)
    (hund : isLineEnd b = true ∨ isErase b = true ∨ (busy → LeavesCommand cfg sh b)) :
    Holds cfg (takeByte cfg b sh) (typeByte cfg st b).2 ∧ (typeByte cfg st b).1 = st.1 ∧
      (busy → copiedCommand cfg (takeByte cfg b sh) = copiedCommand cfg sh) := by
  have hnot := mt (completesLine_iff h).2 (by rw [hc]; exact Bool.false_ne_true)
  cases hend : isLineEnd b with
  | true =>
    -- an empty line is no line
    have hnil : st.2 = [] := by
      by_contra hne
      exact hnot ⟨hend, hne⟩
    have hlen : ¬ 0 < sh.cmdLen := by
      rw [h.len, hnil]
      exact Nat.lt_irrefl 0
    simp only [takeByte, typeByte, hend, hnil, if_true, if_neg hlen, List.isEmpty_nil]
    rw [hnil] at h
    exact ⟨h, trivial, fun _ => trivial⟩
  | false =>
    cases herase : isErase b with
    | true =>
      simp only [typeByte, hend, herase, Bool.false_eq_true, if_false, if_true]
      refine ⟨h.erase hend herase, trivial, fun _ => ?_⟩
      simp only [takeByte, hend, herase, Bool.false_eq_true, if_false, if_true]
      split <;> rfl
    | false =>
      by_cases hroom : st.2.length + 1 < cfg.shellCmdBufSize
      · simp only [typeByte, hend, herase, Bool.false_eq_true, if_false, if_pos hroom]
        refine ⟨h.store hend herase hroom, trivial, fun hbusy => ?_⟩
        have hleaves : LeavesCommand cfg sh b := by
          rcases hund with hu | hu | hu
          · exact Bool.noConfusion (hend.symm.trans hu)
          · exact Bool.noConfusion (herase.symm.trans hu)
          · exact hu hbusy
        rw [takeByte_store hend herase (by rw [h.len]; omega)]
        exact hleaves
      · have hfull : ¬sh.cmdLen < cfg.shellCmdBufSize - 1 := by
          rw [h.len]
          omega
        simp only [typeByte, takeByte, hend, herase, Bool.false_eq_true, if_false, if_neg hroom,
          if_neg hfull]
        exact ⟨h, trivial, fun _ => trivial⟩

theorem shellExecWork_takeByte (b : UInt8) (sh : ShellRelay) :
    (takeByte cfg b sh).shellExecWork = sh.shellExecWork := by
  rw [takeByte]
  split
  · split <;> rfl
  · split
    · split <;> rfl
    · split <;> rfl

/-- What one hold of the mutex leaves: no line completed and the rest of
the packet typed, or the first line completed in the buffer. -/
def SegmentSpec (cfg : Config) (entered : Prop) (bytes : List UInt8) (sh : ShellRelay)
    (st : List (List UInt8) × List UInt8) (sh' : ShellRelay) : Option (List UInt8) → Prop
  | none =>
    Holds cfg sh' (typeBytes cfg st bytes).2 ∧ (typeBytes cfg st bytes).1 = st.1 ∧
      (sh.shellExecWork = true ∨ entered → copiedCommand cfg sh' = copiedCommand cfg sh)
  | some rest =>
    ∃ consumed line, bytes = consumed ++ rest ∧ typeBytes cfg st consumed = (st.1 ++ [line], []) ∧
      Holds cfg sh' [] ∧ copiedCommand cfg sh' = trimBlanks line ∧
      sh.shellExecWork = false ∧ (entered → copiedCommand cfg sh' = copiedCommand cfg sh)

theorem onDataSegment_spec {entered : Prop} {bytes : List UInt8}
    {st : List (List UInt8) × List UInt8} (h : Holds cfg sh st.2)
    (hund : Undisturbed cfg entered bytes sh) :
    (onDataSegment cfg bytes sh).1.shellExecWork = sh.shellExecWork ∧
      SegmentSpec cfg entered bytes sh st (onDataSegment cfg bytes sh).1
        (onDataSegment cfg bytes sh).2.1 := by
  induction bytes generalizing sh st with
  | nil => exact ⟨rfl, h, rfl, fun _ => rfl⟩
  | cons b bs ih =>
    rw [Undisturbed] at hund
    cases hc : completesLine b sh with
    | true =>
      -- the segment ends with this byte, and a command is in the buffer
      obtain ⟨hend, hne⟩ := (completesLine_iff h).1 hc
      rw [if_pos hc] at hund
      obtain ⟨hholds, hcopy⟩ := h.complete hend hne hund.2.1
      have hpos : 0 < sh.cmdLen := by
        rw [h.len]
        exact List.length_pos_of_ne_nil hne
      have hempty : st.2.isEmpty = false := by
        rw [Bool.eq_false_iff, ne_eq, List.isEmpty_iff]
        exact hne
      have hline : typeByte cfg st b = (st.1 ++ [st.2], []) := by
        simp only [typeByte, hend, if_true, hempty, Bool.false_eq_true, if_false]
      simp only [onDataSegment, hc, if_true]
      refine ⟨shellExecWork_takeByte b sh, [b], st.2, rfl, hline, hholds, hcopy, hund.1,
        fun hentered => ?_⟩
      simp only [takeByte, hend, if_true, if_pos hpos]
      exact hund.2.2 hentered
    | false =>
      rw [if_neg (by rw [hc]; exact Bool.false_ne_true)] at hund
      -- the byte is taken and the segment goes on
      obtain ⟨hholds, hlines, hcopy⟩ := takeByte_spec h hc hund.1
      have hwork := @shellExecWork_takeByte cfg b sh
      obtain ⟨hwork', hspec⟩ := @ih (takeByte cfg b sh) (typeByte cfg st b) hholds hund.2
      simp only [onDataSegment, hc, Bool.false_eq_true, if_false]
      refine ⟨hwork'.trans hwork, ?_⟩
      cases hout : (onDataSegment cfg bs (takeByte cfg b sh)).2.1 with
      | none =>
        rw [hout] at hspec
        obtain ⟨hh, hl, hk⟩ := hspec
        rw [hwork] at hk
        exact ⟨hh, hl.trans hlines, fun hbusy => (hk hbusy).trans (hcopy hbusy)⟩
      | some rest =>
        rw [hout] at hspec
        obtain ⟨consumed, line, hbytes, htyped, hh, hk, hfree, hkept⟩ := hspec
        rw [hwork] at hfree
        rw [hlines] at htyped
        exact ⟨b :: consumed, line, by rw [hbytes, List.cons_append], htyped, hh, hk, hfree,
          fun hentered => (hkept hentered).trans (hcopy (Or.inr hentered))⟩

/-! ## Runs -/

variable {s : ExecTrace}

theorem typeBytes_typed (typed bytes : List UInt8) :
    typeBytes cfg ([], []) (typed ++ bytes) =
      typeBytes cfg (linesOf cfg typed, lineOf cfg typed) bytes :=
  List.foldl_append

variable (cfg) in
/-- What is known of the packet in progress: behind a completed line the
buffer is empty, and before the submission the work is not queued. -/
def DataPhase.Sound (s : ExecTrace) : DataPhase → Prop
  | .waiting => True
  | .ready _ _ => lineOf cfg s.typed = [] ∧ s.sh.shellExecWork = false
  | .submitted _ _ => lineOf cfg s.typed = []

variable (cfg) in
/-- What every spared run keeps. -/
structure ExecTrace.Sound (s : ExecTrace) : Prop where
  holds : Holds cfg s.sh (lineOf cfg s.typed)
  phase : s.data.Sound cfg s
  once : ExecutedOnce cfg s

/-- A step that runs nothing and completes nothing keeps the account, if
it leaves alone the command of the copies still due. -/
theorem ExecutedOnce.congr {s' : ExecTrace} (h : ExecutedOnce cfg s)
    (hexecuted : s'.executed = s.executed) (hexec : s'.exec = s.exec)
    (hlines : linesOf cfg s'.typed = linesOf cfg s.typed) (hdue : s'.copiesDue = s.copiesDue)
    (hcopy : s.copiesDue ≠ 0 → copiedCommand cfg s'.sh = copiedCommand cfg s.sh) :
    ExecutedOnce cfg s' := by
  rw [ExecutedOnce, hexecuted, hexec, hlines, hdue]
  by_cases hzero : s.copiesDue = 0
  · rw [hzero]
    rw [ExecutedOnce, hzero] at h
    exact h
  · rw [hcopy hzero]
    exact h

/-- The copies due where no line is completed and unsubmitted. -/
theorem copiesDue_of_not_ready (h : s.data.isReady = false) :
    s.copiesDue =
      (if s.exec = .entered then 1 else 0) + if s.sh.shellExecWork = true then 1 else 0 := by
  rw [ExecTrace.copiesDue, h, Bool.or_false]

theorem drainIf_frame (needDrain : Bool) (sh : ShellRelay) :
    (drainIf needDrain sh).cmdBuf = sh.cmdBuf ∧ (drainIf needDrain sh).cmdLen = sh.cmdLen ∧
      (drainIf needDrain sh).shellExecWork = sh.shellExecWork ∧
      copiedCommand cfg (drainIf needDrain sh) = copiedCommand cfg sh := by
  rw [drainIf]
  split <;> exact ⟨rfl, rfl, rfl, rfl⟩

/-- A hold that completes no line. -/
theorem sound_holdMutex_none (h : s.Sound cfg) (hready : s.data.isReady = false)
    {bytes : List UInt8} {sh' : ShellRelay} (needDrain : Bool)
    (hwork : sh'.shellExecWork = s.sh.shellExecWork)
    (hspec : SegmentSpec cfg (s.exec = .entered) bytes s.sh
      (linesOf cfg s.typed, lineOf cfg s.typed) sh' none) :
    ExecTrace.Sound cfg
      { s with sh := drainIf needDrain sh', data := .waiting, typed := s.typed ++ bytes } := by
  obtain ⟨hholds, hlines, hcopy⟩ := hspec
  obtain ⟨hbuf, hlen, hdrain, hcommand⟩ := @drainIf_frame cfg needDrain sh'
  have htyped := @typeBytes_typed cfg s.typed bytes
  have hline : (typeBytes cfg (linesOf cfg s.typed, lineOf cfg s.typed) bytes).2 =
      lineOf cfg (s.typed ++ bytes) := (congrArg Prod.snd htyped).symm
  rw [hline] at hholds
  refine ⟨hholds.frame hbuf hlen, trivial, ?_⟩
  refine h.once.congr rfl rfl ((congrArg Prod.fst htyped).trans hlines) ?_ fun hdue => ?_
  · rw [copiesDue_of_not_ready hready, copiesDue_of_not_ready rfl]
    simp only [hdrain, hwork]
  · refine hcommand.trans (hcopy ?_)
    by_contra hbusy
    rw [not_or] at hbusy
    rw [copiesDue_of_not_ready hready, if_neg hbusy.1, if_neg hbusy.2] at hdue
    exact hdue rfl

/-- A hold that completes a line. -/
theorem sound_holdMutex_some (h : s.Sound cfg) (hready : s.data.isReady = false)
    {bytes rest : List UInt8} {sh' : ShellRelay} (needDrain : Bool)
    (hwork : sh'.shellExecWork = s.sh.shellExecWork)
    (hspec : SegmentSpec cfg (s.exec = .entered) bytes s.sh
      (linesOf cfg s.typed, lineOf cfg s.typed) sh' (some rest)) :
    ExecTrace.Sound cfg
      { s with
        sh := sh'
        data := .ready rest needDrain
        typed := s.typed ++ bytes.take (bytes.length - rest.length) } := by
  obtain ⟨consumed, line, hbytes, htyped, hholds, hcopy, hfree, hkept⟩ := hspec
  have htake : bytes.take (bytes.length - rest.length) = consumed := by
    rw [hbytes, List.length_append, Nat.add_sub_cancel, List.take_left]
  have htyped' := (@typeBytes_typed cfg s.typed consumed).trans htyped
  have hline : lineOf cfg (s.typed ++ consumed) = [] := congrArg Prod.snd htyped'
  have hlines : linesOf cfg (s.typed ++ consumed) = linesOf cfg s.typed ++ [line] :=
    congrArg Prod.fst htyped'
  have honce := h.once
  rw [ExecutedOnce, copiesDue_of_not_ready hready, hfree, if_neg Bool.false_ne_true] at honce
  rw [htake]
  refine ⟨by rw [hline]; exact hholds, ⟨hline, hwork.trans hfree⟩, ?_⟩
  rw [ExecutedOnce, hlines, List.map_append, List.map_cons, List.map_nil, ← honce]
  simp only [ExecTrace.copiesDue, DataPhase.isReady, Bool.or_true, if_true, hcopy]
  by_cases hentered : s.exec = .entered
  · -- the copy under way finds the new line, which is the old one
    simp only [if_pos hentered, ← hkept hentered, hcopy, List.append_assoc]
    rfl
  · simp only [if_neg hentered, Nat.zero_add, Nat.add_zero, List.replicate_zero, List.append_nil,
      List.replicate_one]

/-- **A hold of the mutex** that leaves the buffer alone keeps the account. -/
theorem sound_holdMutex (h : s.Sound cfg) (hready : s.data.isReady = false)
    {bytes : List UInt8} (hund : Undisturbed cfg (s.exec = .entered) bytes s.sh)
    (needDrain : Bool) :
    (holdMutex cfg s bytes needDrain).Sound cfg := by
  obtain ⟨hwork, hspec⟩ := @onDataSegment_spec cfg s.sh (s.exec = .entered) bytes
    (linesOf cfg s.typed, lineOf cfg s.typed) h.holds hund
  rw [holdMutex]
  split
  · rename_i sh' erased hseg
    rw [hseg] at hwork hspec
    exact sound_holdMutex_none h hready _ hwork hspec
  · rename_i sh' rest erased hseg
    rw [hseg] at hwork hspec
    exact sound_holdMutex_some h hready _ hwork hspec

theorem takeByte_restartInactivity (b : UInt8) (sh : ShellRelay) :
    takeByte cfg b (restartInactivity cfg sh) = restartInactivity cfg (takeByte cfg b sh) := by
  have hlen : (restartInactivity cfg sh).cmdLen = sh.cmdLen := rfl
  simp only [takeByte, hlen]
  split
  · split <;> rfl
  · split
    · split <;> rfl
    · split <;> rfl

/-- The timer has no part in what disturbs the buffer. -/
theorem undisturbed_restartInactivity {entered : Prop} {bytes : List UInt8} :
    Undisturbed cfg entered bytes (restartInactivity cfg sh) ↔
      Undisturbed cfg entered bytes sh := by
  induction bytes generalizing sh with
  | nil => exact Iff.rfl
  | cons b bs ih =>
    rw [Undisturbed, Undisturbed, takeByte_restartInactivity, ih]
    exact Iff.rfl

theorem shellExecOutput_frame (cmd : List UInt8) (out : Option (List UInt8)) (sh : ShellRelay) :
    (shellExecOutput cfg cmd out sh).cmdBuf = sh.cmdBuf ∧
      (shellExecOutput cfg cmd out sh).cmdLen = sh.cmdLen ∧
      (shellExecOutput cfg cmd out sh).shellExecWork = sh.shellExecWork := by
  cases out with
  | none => exact ⟨rfl, rfl, rfl⟩
  | some out =>
    simp only [shellExecOutput]
    split <;> exact ⟨rfl, rfl, rfl⟩

theorem DataPhase.Sound.frame {s' : ExecTrace} (h : s.data.Sound cfg s)
    (hdata : s'.data = s.data) (htyped : s'.typed = s.typed)
    (hwork : s.sh.shellExecWork = false → s'.sh.shellExecWork = false) :
    s'.data.Sound cfg s' := by
  rw [hdata]
  cases hphase : s.data with
  | waiting => trivial
  | ready rest needDrain =>
    rw [hphase] at h
    exact ⟨(congrArg _ htyped).trans h.1, hwork h.2⟩
  | submitted rest needDrain =>
    rw [hphase] at h
    exact (congrArg _ htyped).trans h

theorem ExecTrace.Sound.enter (h : s.Sound cfg) : (execStep cfg s .enter).Sound cfg := by
  rw [execStep]
  split
  · rename_i hrun
    have hready : s.data.isReady = false := by
      cases hphase : s.data with
      | ready rest needDrain =>
        have hsound := h.phase
        rw [hphase] at hsound
        exact Bool.noConfusion (hsound.2.symm.trans hrun.2)
      | _ => rfl
    have honce := h.once
    rw [ExecutedOnce, copiesDue_of_not_ready hready, hrun.1, hrun.2] at honce
    refine ⟨h.holds.frame rfl rfl, h.phase.frame rfl rfl fun _ => rfl, ?_⟩
    simp only [ExecutedOnce, ExecTrace.copiesDue, hready, Bool.or_self, Bool.false_eq_true,
      if_true, if_false]
    exact honce
  · exact h

theorem ExecTrace.Sound.copy (h : s.Sound cfg) : (execStep cfg s .copy).Sound cfg := by
  rw [execStep]
  split
  · rename_i hentered
    refine ⟨h.holds, h.phase.frame rfl rfl id, ?_⟩
    have honce := h.once
    rw [ExecutedOnce, ExecTrace.copiesDue, hentered, if_pos rfl, List.replicate_add,
      List.replicate_one] at honce
    simp only [ExecutedOnce, ExecTrace.copiesDue, ExecPhase.inHand, reduceCtorEq, if_false,
      Nat.zero_add, ← honce, List.append_assoc, List.nil_append]
  · exact h

theorem ExecTrace.Sound.run (h : s.Sound cfg) (out : Option (List UInt8)) :
    (execStep cfg s (.run out)).Sound cfg := by
  rw [execStep]
  split
  · rename_i cmd hcopied
    obtain ⟨hbuf, hlen, hwork⟩ := @shellExecOutput_frame cfg cmd out s.sh
    refine ⟨h.holds.frame hbuf hlen, h.phase.frame rfl rfl fun hw => hwork.trans hw, ?_⟩
    have honce := h.once
    have hcommand : copiedCommand cfg (shellExecOutput cfg cmd out s.sh) =
        copiedCommand cfg s.sh := by rw [copiedCommand, hbuf, copiedCommand]
    rw [ExecutedOnce, ExecTrace.copiesDue, hcopied] at honce
    simp only [ExecutedOnce, ExecTrace.copiesDue, hcommand, hwork, ExecPhase.inHand,
      List.append_nil]
    exact honce
  · exact h

/-- **Every spared operation keeps the account.** -/
theorem ExecTrace.Sound.step (h : s.Sound cfg) {op : ExecOp} (hop : ExecSpared cfg s op) :
    (execStep cfg s op).Sound cfg := by
  cases op with
  | data bytes =>
    rw [execStep]
    split
    · rename_i hcall
      have hund := hop hcall.1
      have hrestart : ExecTrace.Sound cfg { s with sh := restartInactivity cfg s.sh } :=
        ⟨h.holds.frame rfl rfl, h.phase.frame rfl rfl id, h.once⟩
      refine sound_holdMutex hrestart ?_ (undisturbed_restartInactivity.2 hund) false
      rw [hcall.1]
      rfl
    · exact h
  | submit =>
    rw [execStep]
    split
    · rename_i rest needDrain hphase
      have hsound := h.phase
      rw [hphase] at hsound
      refine ⟨h.holds.frame rfl rfl, hsound.1, ?_⟩
      refine h.once.congr rfl rfl rfl ?_ fun _ => rfl
      simp only [ExecTrace.copiesDue, hphase, DataPhase.isReady, submitExec, Bool.or_true,
        Bool.true_or]
    · exact h
  | resume =>
    rw [execStep]
    split
    · rename_i rest needDrain hphase
      rw [ExecSpared, hphase] at hop
      refine sound_holdMutex h ?_ hop needDrain
      rw [hphase]
      rfl
    · exact h
  | enter => exact h.enter
  | copy => exact h.copy
  | run out => exact h.run out

theorem ExecTrace.sound_session : ExecTrace.Sound cfg { sh := ShellRelay.session cfg } :=
  ⟨⟨List.length_replicate, rfl, cfg.cmdBuf_pos, rfl⟩, trivial, rfl⟩

/-- **Every completed line is executed exactly once**, in order and whole,
in every run that spares the buffer. -/
theorem executedOnce_of_spared (cfg : Config) (ops : List ExecOp)
    (h : Guarded (execStep cfg) (ExecSpared cfg) { sh := ShellRelay.session cfg } ops) :
    Throughout (execStep cfg) (ExecutedOnce cfg) { sh := ShellRelay.session cfg } ops :=
  (Throughout.of_guarded (P := ExecTrace.Sound cfg) (fun _ _ hs hop => hs.step hop)
    ExecTrace.sound_session h).imp fun _ hs => hs.once

/-- Typing one command and running it. -/
theorem executedOnce_hi :
    Throughout (execStep .withShell) (ExecutedOnce .withShell)
      { sh := ShellRelay.session .withShell }
      [.data [104, 105, 13, 10], .submit, .enter, .copy, .resume, .run (some [])] :=
  executedOnce_of_spared .withShell _ (by decide +kernel)

/-- Of two lines in one packet, the work finds the second only. -/
theorem not_executedOnce : ¬ ∀ (cfg : Config) (ops : List ExecOp),
    Throughout (execStep cfg) (ExecutedOnce cfg) { sh := ShellRelay.session cfg } ops := by
  intro h
  have hrun := h .withShell
    [.data [108, 115, 10, 112, 115, 10], .submit, .resume, .submit, .resume, .enter, .copy,
      .run (some [])]
  exact absurd hrun.last (by decide +kernel)

end EsbEndpoint
