import EsbEndpoint.Transport.Mirror

/-!
# Sends that fail

`esb_transport_send` keeps its books before the write that may still be
refused. A send it refuses itself, or drops, has touched none of them; one
that `esb_write_payload` refuses has pushed the motion ring at least
(`sendAtomic_iff`).
-/

namespace EsbEndpoint

variable (cfg : Config) (e : Endpoint) (pipe : Nat) (data : List UInt8)

/-- The per-send books: the noack and critical-override rings, and the
motion ring with the in-flight count and the refund. -/
def Endpoint.books (e : Endpoint) : Ring 8 Bool × Ring 8 Bool × Motion :=
  (e.tp.recentNoack, e.tp.recentCritical, e.tp.motion)

/-- **The send is atomic**: where it returns an error, or has the radio
accept nothing, the books are as they were. -/
def SendAtomic : Prop :=
  (esbTransportSend cfg e pipe data).2 ≠ none ∨
      (esbTransportSend cfg e pipe data).1.radio.written = e.radio.written →
    (esbTransportSend cfg e pipe data).1.books = e.books

variable {cfg e pipe data}

/-- A send that does not get to the rings leaves the books. -/
theorem books_send_of_not_queues (hq : sendQueues cfg e data = false) :
    (esbTransportSend cfg e pipe data).1.books = e.books := by
  obtain ⟨e', hsend, rfl | rfl | rfl⟩ := @esbTransportSend_of_not_queues cfg e pipe data hq
  · rw [hsend]
    rfl
  · rw [hsend]
    rfl
  · rw [hsend]
    unfold endQuietWindow
    split <;> rfl

/-- The radio accepts what gets to it exactly if it is on and the packet is
one it takes. -/
theorem send_taken_iff (hq : sendQueues cfg e data = true) :
    (esbTransportSend cfg e pipe data).2 = none ↔
      e.radio.initialized = true ∧ data ≠ [] ∧ pipe < cfg.esbPipeCount := by
  rw [send_error_of_queues hq]
  cases hinit : e.radio.initialized with
  | true =>
    rw [send_accepted_iff hinit hq]
    simp only [true_and]
  | false =>
    refine iff_of_false ?_ (by simp)
    have hoff : ((sendBase cfg e data).withMotion
        ((sendBase cfg e data).outgoing cfg pipe data).1).initialized = false :=
      sendBase_initialized.trans hinit
    simp only [TxPath.queue, TxPath.tryPut, TxPath.refuses, hoff, Bool.not_false, if_true]
    simp

/-- A send that the radio takes, on its path. -/
theorem path_send_of_taken (hq : sendQueues cfg e data = true)
    (htaken : (esbTransportSend cfg e pipe data).2 = none) :
    (esbTransportSend cfg e pipe data).1.path cfg =
      ((sendBase cfg e data).withMotion ((sendBase cfg e data).outgoing cfg pipe data).1).put
        ((sendBase cfg e data).outgoing cfg pipe data).2 := by
  rw [send_error_of_queues hq] at htaken
  have hpath := congrArg Prod.fst (path_esbTransportSend cfg e pipe data)
  rw [if_pos hq] at hpath
  exact hpath.trans (TxPath.queue_accepted htaken)

/-- And one it refuses. -/
theorem path_send_of_refused (hq : sendQueues cfg e data = true)
    (hrefused : (esbTransportSend cfg e pipe data).2 ≠ none) :
    (esbTransportSend cfg e pipe data).1.path cfg =
      (sendBase cfg e data).withMotion ((sendBase cfg e data).outgoing cfg pipe data).1 := by
  rw [send_error_of_queues hq] at hrefused
  have hpath := congrArg Prod.fst (path_esbTransportSend cfg e pipe data)
  rw [if_pos hq] at hpath
  exact hpath.trans (TxPath.queue_refused hrefused)

/-- **A refused write has pushed the motion ring.** -/
theorem books_send_of_refused (hq : sendQueues cfg e data = true)
    (hrefused : (esbTransportSend cfg e pipe data).2 ≠ none) :
    (esbTransportSend cfg e pipe data).1.books ≠ e.books := by
  have hmotion : (esbTransportSend cfg e pipe data).1.tp.motion =
      ((sendBase cfg e data).outgoing cfg pipe data).1 :=
    congrArg TxPath.motion (path_send_of_refused hq hrefused)
  have hhead : (sendBase cfg e data).motion.recent.head = e.tp.motion.recent.head := by
    unfold sendBase
    split <;> rfl
  intro hsame
  have hkept : (esbTransportSend cfg e pipe data).1.tp.motion = e.tp.motion :=
    congrArg (fun books => books.2.2) hsame
  rw [hmotion] at hkept
  have hpushed := congrArg (fun m : Motion => m.recent.head) hkept
  rw [TxPath.outgoing_recent, ← hhead] at hpushed
  -- the head is not its own successor
  have hstep : (sendBase cfg e data).motion.recent.head + 1 =
      (sendBase cfg e data).motion.recent.head := hpushed
  bv_omega

/-- An accepted write is counted. -/
theorem written_send_of_taken (hq : sendQueues cfg e data = true)
    (htaken : (esbTransportSend cfg e pipe data).2 = none) :
    (esbTransportSend cfg e pipe data).1.radio.written = e.radio.written + 1 := by
  refine (congrArg TxPath.written (path_send_of_taken hq htaken)).trans ?_
  show (sendBase cfg e data).written + 1 = _
  rw [sendBase_written]

/-- And nothing else. -/
theorem written_send_of_not_taken
    (h : sendQueues cfg e data = false ∨ (esbTransportSend cfg e pipe data).2 ≠ none) :
    (esbTransportSend cfg e pipe data).1.radio.written = e.radio.written := by
  cases hq : sendQueues cfg e data with
  | false =>
    have hpath := congrArg Prod.fst (path_esbTransportSend cfg e pipe data)
    rw [hq, if_neg Bool.false_ne_true] at hpath
    exact congrArg TxPath.written hpath
  | true =>
    have hrefused := h.resolve_left fun hnot => Bool.noConfusion (hq.symm.trans hnot)
    refine (congrArg TxPath.written (path_send_of_refused hq hrefused)).trans ?_
    show (sendBase cfg e data).written = _
    rw [sendBase_written]

/-- **A send is atomic** exactly if the radio takes it where it gets to the
rings: for every state, pipe, payload and length. -/
theorem sendAtomic_iff (cfg : Config) (e : Endpoint) (pipe : Nat) (data : List UInt8) :
    SendAtomic cfg e pipe data ↔
      (sendQueues cfg e data = true →
        e.radio.initialized = true ∧ data ≠ [] ∧ pipe < cfg.esbPipeCount) := by
  cases hq : sendQueues cfg e data with
  | false => exact iff_of_true (fun _ => books_send_of_not_queues hq) fun h => Bool.noConfusion h
  | true =>
    rw [← send_taken_iff hq]
    constructor
    · intro hatomic _
      by_contra hrefused
      exact books_send_of_refused hq hrefused (hatomic (Or.inl hrefused))
    · intro htaken hnothing
      have hcount := written_send_of_taken hq (htaken rfl)
      rcases hnothing with herr | hsame
      · exact absurd (htaken rfl) herr
      · omega

/-- **An empty payload is refused** when the rings have been pushed. -/
theorem not_sendAtomic : ¬ ∀ (cfg : Config) (e : Endpoint) (pipe : Nat) (data : List UInt8),
    SendAtomic cfg e pipe data := by
  intro h
  have hkept := h .default (Endpoint.start .default [] none) esbPipeData []
    (Or.inl (by decide +kernel))
  have hhead := congrArg (fun books => books.2.2.recent.head) hkept
  exact absurd hhead (by decide +kernel)

end EsbEndpoint
