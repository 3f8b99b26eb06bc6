import EsbEndpoint.Transport.Path

/-!
# Quiet windows

`esb_transport_send` returns success for a packet it throws away while a
side-trip or the quiet window after a hop is on, and
`esb_transport_is_quiet` tells its callers so beforehand. Both read the
same statics and the same clock, so the answer is exact
(`dropsSilently_iff`), and no send opens a window for the next one
(`isQuiet_esbTransportSend`).
-/

namespace EsbEndpoint

variable {cfg : Config} {e : Endpoint}

/-- What the two tests read. -/
def Endpoint.quietness (e : Endpoint) : Nat × UInt32 × Bool :=
  (e.uptime, e.tp.txQuietUntilMs, e.tp.syncTxInProgress)

theorem isQuiet_congr {e' : Endpoint} (h : e'.quietness = e.quietness) :
    esbTransportIsQuiet cfg e' = esbTransportIsQuiet cfg e := by
  simp only [Endpoint.quietness, Prod.mk.injEq] at h
  obtain ⟨hnow, huntil, hsync⟩ := h
  simp only [esbTransportIsQuiet, inQuietWindow, Endpoint.now, hnow, huntil, hsync]

/-! ## What leaves the window alone -/

theorem quietness_noteSend (data : List UInt8) :
    (noteSend cfg e data).quietness = e.quietness := by
  have hcount : ∀ now tp, (countHidTx now tp).txQuietUntilMs = tp.txQuietUntilMs ∧
      (countHidTx now tp).syncTxInProgress = tp.syncTxInProgress := by
    intro now tp
    unfold countHidTx
    dsimp only
    split
    · exact ⟨rfl, rfl⟩
    · split <;> exact ⟨rfl, rfl⟩
  have hact :
      (if isType esbPktShellBgPoll data then e else noteActivity e).quietness = e.quietness := by
    split <;> rfl
  unfold noteSend
  dsimp only
  generalize (if isType esbPktShellBgPoll data then e else noteActivity e) = e₁ at hact ⊢
  have hhid : (if isType esbPktHidReport data then e₁.mapTp (countHidTx e₁.now)
      else e₁).quietness = e₁.quietness := by
    split
    · show (e₁.uptime, _, _) = _
      rw [Endpoint.mapTp_tp, (hcount _ _).1, (hcount _ _).2]
      rfl
    · rfl
  split
  · exact hhid.trans hact
  · exact hhid.trans hact

theorem quietness_sendQueued (pipe : Nat) (data : List UInt8) :
    (sendQueued cfg e pipe data).1.quietness = e.quietness := by
  have hpush : ∀ noack, (pushNoack cfg e noack).quietness = e.quietness := by
    intro noack
    unfold pushNoack
    split <;> rfl
  have hover : ∀ e' : Endpoint, (overrideCritical cfg e' data).quietness = e'.quietness := by
    intro e'
    unfold overrideCritical
    split
    · rfl
    · dsimp only
      split <;> rfl
  have hmotion : ∀ (e' : Endpoint) noack,
      (sendMotion cfg e' pipe noack data).1.quietness = e'.quietness := by
    intro e' noack
    unfold sendMotion
    split
    · dsimp only
      split <;> rfl
    · rfl
  unfold sendQueued
  dsimp only
  rw [hmotion, hover, quietness_noteSend, hpush]

/-- A window that is over leaves nothing behind. -/
theorem isQuiet_endQuietWindow (h : esbTransportIsQuiet cfg e = false) :
    esbTransportIsQuiet cfg (endQuietWindow cfg e) = false := by
  obtain ⟨hsync, hwindow⟩ := Bool.or_eq_false_iff.1 h
  unfold endQuietWindow
  split
  · have hover : inQuietWindow (e.mapTp fun tp => { tp with txQuietUntilMs := 0 }) = false := rfl
    rw [esbTransportIsQuiet, hover, Bool.and_false, Bool.or_false]
    exact hsync
  · exact h

/-- **A send opens no window.** -/
theorem isQuiet_esbTransportSend (pipe : Nat) (data : List UInt8)
    (h : esbTransportIsQuiet cfg e = false) :
    esbTransportIsQuiet cfg (esbTransportSend cfg e pipe data).1 = false := by
  have hopen : esbTransportIsQuiet cfg
      (endQuietWindow cfg (jitterRetransmitDelay cfg (noteHanded e pipe data))) = false :=
    isQuiet_endQuietWindow h
  unfold esbTransportSend
  dsimp only
  split
  · exact h
  · split
    · exact h
    · split
      · exact h
      · generalize endQuietWindow cfg (jitterRetransmitDelay cfg (noteHanded e pipe data)) = e₁
          at hopen ⊢
        have hqueued : ∀ e₂ : Endpoint, e₂.quietness = e₁.quietness →
            esbTransportIsQuiet cfg (sendQueued cfg e₂ pipe data).1 = false := by
          intro e₂ h₂
          rw [isQuiet_congr (quietness_sendQueued pipe data), isQuiet_congr h₂]
          exact hopen
        split
        · split
          · exact hopen
          · exact hqueued _ rfl
        · exact hqueued _ rfl

/-! ## What a send does with a packet -/

/-- A packet `esb_transport_send` takes for sent and does not write. -/
def dropsSilently (cfg : Config) (e : Endpoint) (pipe : Nat) (data : List UInt8) : Bool :=
  (esbTransportSend cfg e pipe data).2 == none &&
    (esbTransportSend cfg e pipe data).1.radio.written == e.radio.written

theorem sendReaches_eq (data : List UInt8) :
    sendReaches cfg e data =
      (decide (data.length ≤ cfg.esbMaxPayloadLength) && !esbTransportIsQuiet cfg e) := by
  rw [sendReaches, esbTransportIsQuiet, Bool.not_or, Bool.and_assoc]

/-- A write taken counts. -/
theorem written_queue {p : TxPath} {pipe : Nat} {data : List UInt8}
    (h : (p.queue cfg pipe data).2 = none) :
    (p.queue cfg pipe data).1.written = p.written + 1 := by
  rw [TxPath.queue_accepted h]
  rfl

/-- **A packet is dropped silently, exactly when** it fits and the
transport is quiet. -/
theorem dropsSilently_iff (pipe : Nat) (data : List UInt8) :
    dropsSilently cfg e pipe data = true ↔
      data.length ≤ cfg.esbMaxPayloadLength ∧ esbTransportIsQuiet cfg e = true := by
  have hpath := path_esbTransportSend cfg e pipe data
  have hwritten : (esbTransportSend cfg e pipe data).1.radio.written =
      ((esbTransportSend cfg e pipe data).1.path cfg).written := rfl
  have hreach := @sendReaches_eq cfg e data
  rw [dropsSilently, Bool.and_eq_true, beq_iff_eq, beq_iff_eq, hwritten]
  by_cases hqueues : sendQueues cfg e data = true
  · have hnot : ¬(data.length ≤ cfg.esbMaxPayloadLength ∧ esbTransportIsQuiet cfg e = true) := by
      rintro ⟨-, hquiet⟩
      rw [sendQueues, hreach, hquiet, Bool.not_true, Bool.and_false, Bool.false_and] at hqueues
      exact Bool.false_ne_true hqueues
    rw [if_pos hqueues, Prod.ext_iff] at hpath
    obtain ⟨hsent, herr⟩ := hpath
    refine iff_of_false ?_ hnot
    rintro ⟨hnone, hsame⟩
    dsimp only at hsent herr
    rw [herr] at hnone
    rw [hsent, written_queue hnone] at hsame
    have hbase : (if sendFlushes cfg e data then (e.path cfg).flush
        else e.path cfg).written = e.radio.written := by
      split <;> rfl
    rw [hbase] at hsame
    omega
  · rw [if_neg hqueues, Prod.ext_iff] at hpath
    obtain ⟨hsent, herr⟩ := hpath
    dsimp only at hsent herr
    rw [hsent, herr, sendRefusal]
    by_cases hlen : cfg.esbMaxPayloadLength < data.length
    · rw [if_pos hlen]
      exact iff_of_false (fun h => Option.some_ne_none _ h.1) (fun h => Nat.not_le.2 hlen h.1)
    · have hle := Nat.not_lt.1 hlen
      rw [if_neg hlen, hreach, decide_eq_true hle, Bool.true_and]
      cases hquiet : esbTransportIsQuiet cfg e with
      | true => exact iff_of_true ⟨rfl, rfl⟩ ⟨hle, rfl⟩
      | false =>
        exact iff_of_false (fun h => Option.some_ne_none _ h.1) fun h => Bool.false_ne_true h.2

/-- **A send into a quiet window** succeeds, writes nothing, and leaves the
window open. -/
theorem send_of_isQuiet (pipe : Nat) {data : List UInt8}
    (hlen : data.length ≤ cfg.esbMaxPayloadLength) (h : esbTransportIsQuiet cfg e = true) :
    (esbTransportSend cfg e pipe data).2 = none ∧
      (esbTransportSend cfg e pipe data).1.radio.txFifo = e.radio.txFifo ∧
      esbTransportIsQuiet cfg (esbTransportSend cfg e pipe data).1 = true := by
  have hpath : (jitterRetransmitDelay cfg (noteHanded e pipe data)).radio.txFifo =
      e.radio.txFifo := congrArg TxPath.fifo (path_jitterRetransmitDelay cfg _)
  have hwindow : inQuietWindow (jitterRetransmitDelay cfg (noteHanded e pipe data)) =
      inQuietWindow e := rfl
  unfold esbTransportSend
  dsimp only
  rw [if_neg (Nat.not_lt.2 hlen)]
  split
  · exact ⟨rfl, rfl, h⟩
  · rename_i hsync
    have hopen : (cfg.channelHop && inQuietWindow e) = true := by
      rw [esbTransportIsQuiet, Bool.or_eq_true] at h
      exact h.resolve_left hsync
    rw [hwindow, if_pos hopen]
    exact ⟨rfl, hpath, h⟩

/-- **A shell packet outside a quiet window** is written behind the others,
or refused with the FIFO as it was. -/
theorem send_shell (pipe : Nat) {data : List UInt8} (h : esbTransportIsQuiet cfg e = false)
    (hshell : isShell data = true) (hmouse : isMouseReport data = false) :
    ((esbTransportSend cfg e pipe data).2 = none ∧
        (esbTransportSend cfg e pipe data).1.radio.txFifo.map (fun q => q.data) =
          e.radio.txFifo.map (fun q => q.data) ++ [data]) ∨
      ((esbTransportSend cfg e pipe data).2 ≠ none ∧
        (esbTransportSend cfg e pipe data).1.radio.txFifo = e.radio.txFifo) := by
  have hpath := path_esbTransportSend cfg e pipe data
  have hflush : sendFlushes cfg e data = false := by
    rw [sendFlushes, hshell, Bool.not_true, Bool.and_false]
  rw [hflush, if_neg Bool.false_ne_true, Prod.ext_iff] at hpath
  obtain ⟨hsent, herr⟩ := hpath
  dsimp only at hsent herr
  have hfifo : ∀ e' : Endpoint, e'.radio.txFifo = (e'.path cfg).fifo := fun _ => rfl
  rw [hfifo, hsent, herr, hfifo e]
  by_cases hqueues : sendQueues cfg e data = true
  · rw [if_pos hqueues]
    by_cases hnone : ((e.path cfg).queue cfg pipe data).2 = none
    · left
      have hdata := (@TxPath.outgoing_data cfg (e.path cfg) pipe data).2 hmouse
      rw [TxPath.queue_accepted hnone]
      refine ⟨hnone, ?_⟩
      simp only [TxPath.put, TxPath.withMotion, List.map_append, List.map_cons, List.map_nil, hdata]
    · right
      refine ⟨hnone, ?_⟩
      rw [TxPath.queue_refused hnone]
      rfl
  · right
    rw [if_neg hqueues]
    refine ⟨?_, rfl⟩
    rw [sendRefusal]
    split
    · exact Option.some_ne_none _
    · rename_i hlen
      have hreach : sendReaches cfg e data = true := by
        rw [sendReaches_eq, h, decide_eq_true (Nat.not_lt.1 hlen)]
        rfl
      rw [if_pos hreach]
      exact Option.some_ne_none _

end EsbEndpoint
