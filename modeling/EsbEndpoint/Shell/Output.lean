import EsbEndpoint.Common.Run
import EsbEndpoint.Shell.Work
import EsbEndpoint.Transport.Quiet
import EsbEndpoint.Transport.Slot

/-!
# Shell output as a stream

What the shell prints goes through a ring and leaves it chunk by chunk,
each a packet. A chunk stays in the ring while the FIFO is full and is
given up on any other error; but a quiet window reports success for a
packet it throws away, and the drain takes the chunk off the ring. So the
stream is lossless just as long as no drain meets a quiet window with
bytes in the ring (`lossless_iff`).
-/

namespace EsbEndpoint

/-! ## The ledger of a session -/

/-- The valid bytes of a `SHELL_DATA` packet. -/
def shellBytes : List UInt8 → List UInt8
  | type :: len :: data => if type = esbPktShellData then data.take len.toNat else []
  | _ => []

/-- The packets the FIFO has been given since it held the first `n`. -/
def packetsBehind (n : Nat) (r : Radio) : List (List UInt8) := (r.txFifo.drop n).map fun q => q.data

/-- Whether a chunk was given up. -/
def DrainedChunk.refused (chunk : DrainedChunk) : Bool := chunk.err.isSome

/-- The bytes accepted, without the chunks that were refused. -/
def lessRefused : List DrainedChunk → List UInt8 → List UInt8
  | [], bytes => bytes
  | chunk :: chunks, bytes =>
    (if chunk.refused then [] else bytes.take chunk.bytes.length) ++
      lessRefused chunks (bytes.drop chunk.bytes.length)

/-- The endpoint in a session, and since its `ring_buf_reset` the bytes
`out_enqueue` accepted, the chunks that left the ring, and the valid bytes
of the packets written. -/
structure OutTrace where
  e : Endpoint
  accepted : List UInt8 := []
  chunks : List DrainedChunk := []
  sent : List UInt8 := []

/-- What happens to the output: it is added to, it is drained, or anything
else happens, which leaves the relay's statics alone. -/
inductive OutOp
  | enqueue (data : List UInt8)
  | drain (wrap : Nat)
  | world (rest : Endpoint)

variable (cfg : Config)

def outStep (t : OutTrace) : OutOp → OutTrace
  | .enqueue data =>
    let e := t.e.mapShell (outEnqueue cfg data)
    { t with e, accepted := t.accepted ++ e.shell.outRb.drop t.e.shell.outRb.length }
  | .drain wrap =>
    let (e, chunks) := outDrainWorkFn cfg wrap t.e
    { t with
      e
      chunks := t.chunks ++ chunks
      sent := t.sent ++ (packetsBehind t.e.radio.txFifo.length e.radio).flatMap shellBytes }
  | .world rest => { t with e := { rest with shell := t.e.shell } }

/-- A session just begun. -/
def OutTrace.start (e : Endpoint) : OutTrace where
  e := e.mapShell fun sh => { sh with shellActive := true, outRb := [] }

/-- **The stream is lossless**: what was written, then what is still in the
ring, is what was accepted but for the chunks refused. -/
def Lossless (t : OutTrace) : Prop :=
  t.sent ++ t.e.shell.outRb = lessRefused t.chunks t.accepted

/-- No drain meets a quiet window with bytes in the ring. -/
def DrainsAwake (t : OutTrace) : OutOp → Prop
  | .drain _ => t.e.shell.outRb ≠ [] → esbTransportIsQuiet cfg t.e = false
  | _ => True

variable {cfg}

/-! ## One drain -/

/-- The bytes of the chunks that were not refused. -/
def keptBytes (chunks : List DrainedChunk) : List UInt8 :=
  (chunks.filter fun chunk => !chunk.refused).flatMap DrainedChunk.bytes

/-- A packet carries its chunk. -/
theorem shellBytes_packet {chunk : List UInt8} (h : chunk.length ≤ cfg.esbPktDataMax) :
    shellBytes (shellDataPacket cfg chunk) = chunk := by
  have hmax : cfg.esbPktDataMax ≤ 30 := by
    have hle := cfg.payload_le
    rw [Config.esbPktDataMax]
    omega
  have hlen : (UInt8.ofNat chunk.length).toNat = chunk.length := by
    rw [UInt8.toNat_ofNat']
    omega
  rw [shellDataPacket, shellBytes, if_pos rfl, hlen, List.take_left]

/-- And is as long as a packet may be. -/
theorem length_shellDataPacket {chunk : List UInt8} (h : chunk.length ≤ cfg.esbPktDataMax) :
    (shellDataPacket cfg chunk).length ≤ cfg.esbMaxPayloadLength := by
  have hmin := cfg.mouse_fits
  simp only [shellDataPacket, List.length_cons, List.length_append, List.length_replicate]
  rw [Config.esbPktDataMax] at h ⊢
  omega

theorem isMouseReport_shellDataPacket (chunk : List UInt8) :
    isMouseReport (shellDataPacket cfg chunk) = false := by
  rw [isMouseReport, isHidReport, Bool.and_eq_false_iff, Bool.and_eq_false_iff]
  exact Or.inr (Or.inl (show (some esbPktShellData == some esbPktHidReport) = false by decide))

/-- What leaves the ring is what it began with. -/
theorem outDrainLoop_chunks (turns wrap : Nat) (e : Endpoint) :
    (outDrainLoop cfg turns wrap e).2.flatMap DrainedChunk.bytes ++
        (outDrainLoop cfg turns wrap e).1.shell.outRb = e.shell.outRb := by
  induction turns generalizing wrap e with
  | zero => rfl
  | succ turns ih =>
    rw [outDrainLoop]
    dsimp only
    split
    · rfl
    · obtain ⟨hshell, -⟩ := session_esbTransportSend cfg e esbPipeData
        (shellDataPacket cfg (e.shell.outRb.take (claimSize cfg wrap e.shell)))
      split
      · rename_i e' heq
        rw [heq] at hshell
        exact congrArg ShellRelay.outRb hshell
      · rename_i e' err _ heq
        rw [heq] at hshell
        dsimp only at hshell
        rw [List.flatMap_singleton, Endpoint.mapShell_shell, finishClaim, hshell]
        exact List.take_append_drop _ _
      · rename_i e' heq
        rw [heq] at hshell
        dsimp only at hshell
        have hrest := ih (toBufferEnd cfg wrap - claimSize cfg wrap e.shell)
          (e'.mapShell (finishClaim (claimSize cfg wrap e.shell)))
        rw [List.flatMap_cons, List.append_assoc, hrest, Endpoint.mapShell_shell, finishClaim,
          hshell]
        exact List.take_append_drop _ _

/-- **A drain outside a quiet window** writes every chunk it does not give
up. -/
theorem outDrainLoop_awake (turns wrap : Nat) (e : Endpoint)
    (h : esbTransportIsQuiet cfg e = false) :
    ∃ packets, (outDrainLoop cfg turns wrap e).1.radio.txFifo.map (fun q => q.data) =
        e.radio.txFifo.map (fun q => q.data) ++ packets ∧
      packets.flatMap shellBytes = keptBytes (outDrainLoop cfg turns wrap e).2 := by
  induction turns generalizing wrap e with
  | zero => exact ⟨[], (List.append_nil _).symm, rfl⟩
  | succ turns ih =>
    rw [outDrainLoop]
    dsimp only
    split
    · exact ⟨[], (List.append_nil _).symm, rfl⟩
    · have hchunk : (e.shell.outRb.take (claimSize cfg wrap e.shell)).length ≤
          cfg.esbPktDataMax := by
        have hle := (@claimSize_le cfg wrap e.shell).2
        rw [List.length_take]
        omega
      generalize claimSize cfg wrap e.shell = got at hchunk ⊢
      generalize e.shell.outRb.take got = chunk at hchunk ⊢
      have hquiet := isQuiet_esbTransportSend esbPipeData (shellDataPacket cfg chunk) h
      have hsend := send_shell esbPipeData h (rfl : isShell (shellDataPacket cfg chunk) = true)
        (isMouseReport_shellDataPacket chunk)
      split
      · rename_i e' heq
        rw [heq] at hsend
        rcases hsend with ⟨hnone, -⟩ | ⟨-, hfifo⟩
        · exact absurd hnone (by simp)
        · exact ⟨[], by rw [hfifo, List.append_nil], rfl⟩
      · rename_i e' err _ heq
        rw [heq] at hsend
        rcases hsend with ⟨hnone, -⟩ | ⟨-, hfifo⟩
        · exact absurd hnone (by simp)
        · refine ⟨[], ?_, rfl⟩
          rw [Endpoint.mapShell_radio, hfifo, List.append_nil]
      · rename_i e' heq
        rw [heq] at hsend hquiet
        rcases hsend with ⟨-, hfifo⟩ | ⟨hsome, -⟩
        · obtain ⟨packets, hrest, hkept⟩ :=
            ih (toBufferEnd cfg wrap - got) (e'.mapShell (finishClaim got)) hquiet
          refine ⟨shellDataPacket cfg chunk :: packets, ?_, ?_⟩
          · rw [hrest, Endpoint.mapShell_radio, hfifo, List.append_assoc, List.singleton_append]
          · rw [List.flatMap_cons, shellBytes_packet hchunk, hkept]
            rfl
        · exact absurd rfl hsome

/-- **A drain in a quiet window** writes nothing and gives nothing up, so
that whatever it takes off the ring is gone. -/
theorem outDrainLoop_quiet (turns wrap : Nat) (e : Endpoint)
    (h : esbTransportIsQuiet cfg e = true) :
    (outDrainLoop cfg turns wrap e).1.radio.txFifo = e.radio.txFifo ∧
      keptBytes (outDrainLoop cfg turns wrap e).2 =
        (outDrainLoop cfg turns wrap e).2.flatMap DrainedChunk.bytes := by
  induction turns generalizing wrap e with
  | zero => exact ⟨rfl, rfl⟩
  | succ turns ih =>
    rw [outDrainLoop]
    dsimp only
    split
    · exact ⟨rfl, rfl⟩
    · have hchunk : (e.shell.outRb.take (claimSize cfg wrap e.shell)).length ≤
          cfg.esbPktDataMax := by
        have hle := (@claimSize_le cfg wrap e.shell).2
        rw [List.length_take]
        omega
      generalize claimSize cfg wrap e.shell = got at hchunk ⊢
      generalize e.shell.outRb.take got = chunk at hchunk ⊢
      obtain ⟨hnone, hfifo, hstill⟩ :=
        send_of_isQuiet esbPipeData (length_shellDataPacket hchunk) h
      split
      · rename_i e' heq
        rw [heq] at hnone
        exact absurd hnone (by simp)
      · rename_i e' err _ heq
        rw [heq] at hnone
        exact absurd hnone (by simp)
      · rename_i e' heq
        rw [heq] at hfifo hstill
        obtain ⟨hrest, hkept⟩ :=
          ih (toBufferEnd cfg wrap - got) (e'.mapShell (finishClaim got)) hstill
        refine ⟨hrest.trans hfifo, ?_⟩
        show chunk ++ keptBytes _ = _
        rw [hkept]
        rfl

/-- A drain of a ring with something in it takes something off, in a quiet
window. -/
theorem outDrainLoop_quiet_ne_nil {turns wrap : Nat} {e : Endpoint}
    (h : esbTransportIsQuiet cfg e = true) (hturns : 0 < turns) (hring : e.shell.outRb ≠ [])
    (hroom : e.shell.outRb.length ≤ cfg.shellOutBufSize) :
    (outDrainLoop cfg turns wrap e).2.flatMap DrainedChunk.bytes ≠ [] := by
  obtain ⟨turns, rfl⟩ := Nat.exists_eq_succ_of_ne_zero (Nat.ne_of_gt hturns)
  have hlen : 0 < e.shell.outRb.length := List.length_pos_of_ne_nil hring
  have hgot : 0 < claimSize cfg wrap e.shell := by
    have hmin := cfg.mouse_fits
    unfold claimSize toBufferEnd Config.esbPktDataMax
    split <;> omega
  have hchunk : (e.shell.outRb.take (claimSize cfg wrap e.shell)).length ≤ cfg.esbPktDataMax := by
    have hle := (@claimSize_le cfg wrap e.shell).2
    rw [List.length_take]
    omega
  obtain ⟨hnone, -, -⟩ := send_of_isQuiet esbPipeData (length_shellDataPacket hchunk) h
  rw [outDrainLoop]
  dsimp only
  rw [if_neg (Nat.ne_of_gt hgot)]
  split
  · rename_i e' heq
    rw [heq] at hnone
    exact absurd hnone (by simp)
  · rename_i e' err _ heq
    rw [heq] at hnone
    exact absurd hnone (by simp)
  · intro hnil
    have hlost := (List.append_eq_nil_iff.1 (List.flatMap_cons.symm.trans hnil)).1
    have hzero := congrArg List.length hlost
    rw [List.length_take, List.length_nil] at hzero
    omega

/-! ## A session -/

/-- Refusals cut out of a stream whose front is these chunks. -/
theorem lessRefused_append (chunks : List DrainedChunk) (rest : List UInt8) :
    lessRefused chunks (chunks.flatMap DrainedChunk.bytes ++ rest) = keptBytes chunks ++ rest := by
  induction chunks with
  | nil => rfl
  | cons chunk chunks ih =>
    have hsplit : (chunk :: chunks).flatMap DrainedChunk.bytes ++ rest =
        chunk.bytes ++ (chunks.flatMap DrainedChunk.bytes ++ rest) := by
      rw [List.flatMap_cons, List.append_assoc]
    rw [lessRefused, hsplit, List.take_left, List.drop_left, ih, keptBytes, keptBytes,
      List.filter_cons]
    cases chunk.refused with
    | true => rfl
    | false =>
      simp only [Bool.false_eq_true, if_false, Bool.not_false, if_true, List.flatMap_cons,
        List.append_assoc]

/-- What every reachable state of a session satisfies. -/
structure OutSound (cfg : Config) (t : OutTrace) : Prop where
  active : t.e.shell.shellActive = true
  room : t.e.shell.outRb.length ≤ cfg.shellOutBufSize
  ledger : t.accepted = t.chunks.flatMap DrainedChunk.bytes ++ t.e.shell.outRb

/-- Under the ledger, losslessness is about what was written. -/
theorem OutSound.lossless_iff_kept {t : OutTrace} (h : OutSound cfg t) :
    Lossless t ↔ t.sent = keptBytes t.chunks := by
  rw [Lossless, h.ledger, lessRefused_append]
  exact List.append_left_inj _

theorem keptBytes_append (chunks chunks' : List DrainedChunk) :
    keptBytes (chunks ++ chunks') = keptBytes chunks ++ keptBytes chunks' := by
  rw [keptBytes, List.filter_append, List.flatMap_append]
  rfl

theorem outEnqueue_ring (data : List UInt8) (sh : ShellRelay) :
    (outEnqueue cfg data sh).outRb =
      sh.outRb ++ data.take (min data.length (cfg.shellOutBufSize - sh.outRb.length)) := rfl

/-- The drain of a session, from its loop. -/
theorem outDrainWorkFn_active {e : Endpoint} (wrap : Nat) (h : e.shell.shellActive = true) :
    outDrainWorkFn cfg wrap e =
      outDrainLoop cfg e.shell.outRb.length wrap
        (e.mapShell fun sh => { sh with outDrainWork := false }) := by
  rw [outDrainWorkFn, if_neg]
  · rfl
  · rw [Endpoint.mapShell_shell, h]
    exact Bool.false_ne_true

namespace OutSound

variable {t : OutTrace}

/-- **Every step keeps the invariant.** -/
theorem step (h : OutSound cfg t) (op : OutOp) : OutSound cfg (outStep cfg t op) := by
  cases op with
  | enqueue data =>
    refine ⟨h.active, ?_, ?_⟩
    · have hroom := h.room
      show (outEnqueue cfg data t.e.shell).outRb.length ≤ _
      rw [outEnqueue_ring, List.length_append, List.length_take]
      omega
    · show t.accepted ++ (outEnqueue cfg data t.e.shell).outRb.drop t.e.shell.outRb.length =
        t.chunks.flatMap DrainedChunk.bytes ++ (outEnqueue cfg data t.e.shell).outRb
      rw [outEnqueue_ring, List.drop_left, h.ledger, List.append_assoc]
  | drain wrap =>
    have hloop := @outDrainWorkFn_active cfg t.e wrap h.active
    have hshell := @shell_outDrainLoop cfg t.e.shell.outRb.length wrap
      (t.e.mapShell fun sh => { sh with outDrainWork := false })
    have hchunks := @outDrainLoop_chunks cfg t.e.shell.outRb.length wrap
      (t.e.mapShell fun sh => { sh with outDrainWork := false })
    rw [← hloop] at hshell hchunks
    rw [Endpoint.mapShell_shell] at hchunks hshell
    dsimp only at hchunks
    refine ⟨?_, ?_, ?_⟩
    · show (outDrainWorkFn cfg wrap t.e).1.shell.shellActive = true
      rw [hshell]
      exact h.active
    · have hroom := h.room
      have hlen := congrArg List.length hchunks
      rw [List.length_append] at hlen
      show (outDrainWorkFn cfg wrap t.e).1.shell.outRb.length ≤ _
      omega
    · show t.accepted = (t.chunks ++ (outDrainWorkFn cfg wrap t.e).2).flatMap DrainedChunk.bytes ++
        (outDrainWorkFn cfg wrap t.e).1.shell.outRb
      rw [List.flatMap_append, List.append_assoc, hchunks, h.ledger]
  | world rest => exact ⟨h.active, h.room, h.ledger⟩

/-- **A step keeps the stream lossless, exactly when** it is no drain of a
ring with bytes in it in a quiet window. -/
theorem lossless_step_iff (h : OutSound cfg t) (hless : Lossless t) (op : OutOp) :
    Lossless (outStep cfg t op) ↔ DrainsAwake cfg t op := by
  have hsent : t.sent = keptBytes t.chunks := h.lossless_iff_kept.1 hless
  rw [(h.step op).lossless_iff_kept]
  cases op with
  | enqueue data => exact iff_of_true hsent trivial
  | world rest => exact iff_of_true hsent trivial
  | drain wrap =>
    have hloop := @outDrainWorkFn_active cfg t.e wrap h.active
    have hnext : (outStep cfg t (.drain wrap)).sent = t.sent ++
        (packetsBehind t.e.radio.txFifo.length (outDrainWorkFn cfg wrap t.e).1.radio).flatMap
          shellBytes := rfl
    have hchunks : (outStep cfg t (.drain wrap)).chunks =
        t.chunks ++ (outDrainWorkFn cfg wrap t.e).2 := rfl
    rw [hnext, hchunks, keptBytes_append, hsent, List.append_right_inj, hloop, DrainsAwake,
      packetsBehind]
    generalize he : (t.e.mapShell fun sh => { sh with outDrainWork := false }) = e₁
    have hsame : e₁.radio.txFifo = t.e.radio.txFifo ∧
        esbTransportIsQuiet cfg e₁ = esbTransportIsQuiet cfg t.e ∧
          e₁.shell.outRb = t.e.shell.outRb := by
      rw [← he]
      exact ⟨rfl, rfl, rfl⟩
    obtain ⟨hfifo, hquiet, hring⟩ := hsame
    have hroom := h.room
    rw [← hfifo, ← hquiet, ← hring]
    rw [← hring] at hroom
    cases hq : esbTransportIsQuiet cfg e₁ with
    | false =>
      -- awake, what leaves the ring is queued
      obtain ⟨packets, hpackets, hkept⟩ := outDrainLoop_awake e₁.shell.outRb.length wrap e₁ hq
      refine iff_of_true ?_ (fun _ => rfl)
      rw [List.map_drop, hpackets, ← List.length_map (fun q : Queued => q.data), List.drop_left,
        hkept]
    | true =>
      -- quiet, nothing is queued, so that nothing may leave the ring
      obtain ⟨hstill, hkept⟩ := outDrainLoop_quiet e₁.shell.outRb.length wrap e₁ hq
      rw [hstill, List.drop_length, hkept]
      cases hempty : e₁.shell.outRb with
      | nil => exact iff_of_true rfl (fun hne => absurd rfl hne)
      | cons b bs =>
        have hne : e₁.shell.outRb ≠ [] := by
          rw [hempty]
          exact List.cons_ne_nil _ _
        have hlost := @outDrainLoop_quiet_ne_nil cfg e₁.shell.outRb.length wrap e₁ hq
          (List.length_pos_of_ne_nil hne) hne hroom
        rw [hempty] at hlost
        refine iff_of_false (fun heq => hlost heq.symm) ?_
        exact fun hawake => nomatch hawake (List.cons_ne_nil _ _)

end OutSound

/-- **Shell output is a lossless stream, exactly when** no drain of the
session meets a quiet window with bytes in the ring. -/
theorem lossless_iff (cfg : Config) (e : Endpoint) (ops : List OutOp) :
    Throughout (outStep cfg) Lossless (.start e) ops ↔
      Guarded (outStep cfg) (DrainsAwake cfg) (.start e) ops :=
  throughout_iff_guarded (I := OutSound cfg) (D := fun _ _ => True) (fun _ op h _ => h.step op)
    (fun _ op h _ hless => h.lossless_step_iff hless op) ⟨rfl, Nat.zero_le _, rfl⟩ rfl
    (Guarded.of_forall fun _ _ => trivial)

/-- Two bytes printed just after a hop are taken for sent. -/
theorem not_lossless : ¬ ∀ (cfg : Config) (e : Endpoint) (ops : List OutOp),
    Throughout (outStep cfg) Lossless (.start e) ops := by
  intro h
  have hrun := h .withShell (Endpoint.start .withShell [] none)
    [.enqueue [104, 105],
      .world (esbTransportSetChannel .withShell (Endpoint.start .withShell [] none) 40).1, .drain 0]
  exact absurd hrun.last (by unfold Lossless; decide +kernel)

end EsbEndpoint
