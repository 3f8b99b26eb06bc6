import EsbEndpoint.Transport.Events

/-!
# What the transport leaves alone

A send works on the radio and on the transport's own statics. Of the rest
it reaches the hop manager, through the note it makes of user traffic; a
radio event reaches it through the triggers. The pairing machine is
reached by neither, and the relay by an event only.
-/

namespace EsbEndpoint

variable (cfg : Config) (e : Endpoint)

/-- What lies beyond the transport: the hop manager, the relay and the
pairing machine. -/
def Endpoint.beyond : HopEp × ShellRelay × Pairing := (e.hop, e.shell, e.pairing)

/-! ## Sends -/

/-- The hop manager after a send has noted its data. -/
def noteHop (data : List UInt8) (h : HopEp) : HopEp :=
  if cfg.channelHop && isUserTraffic data then channelHopEpNoteUserTx cfg h else h

theorem beyond_noteSend (data : List UInt8) :
    (noteSend cfg e data).beyond = (noteHop cfg data e.hop, e.shell, e.pairing) := by
  simp only [noteSend, noteHop]
  split <;> split <;> split <;> rfl

theorem beyond_overrideCritical (data : List UInt8) :
    (overrideCritical cfg e data).beyond = e.beyond := by
  simp only [overrideCritical]
  split
  · rfl
  · split <;> rfl

theorem beyond_pushNoack (noack : Bool) : (pushNoack cfg e noack).beyond = e.beyond := by
  rw [pushNoack]
  split <;> rfl

theorem beyond_sendMotion (pipe : Nat) (noack : Bool) (data : List UInt8) :
    (sendMotion cfg e pipe noack data).1.beyond = e.beyond := by
  simp only [sendMotion]
  split
  · split <;> rfl
  · rfl

theorem beyond_sendQueued (pipe : Nat) (data : List UInt8) :
    (sendQueued cfg e pipe data).1.beyond = (noteHop cfg data e.hop, e.shell, e.pairing) := by
  have hpush := beyond_pushNoack cfg e (sendNoack cfg pipe data)
  simp only [Endpoint.beyond, Prod.mk.injEq] at hpush
  simp only [sendQueued, beyond_sendMotion, beyond_overrideCritical, beyond_noteSend,
    hpush.1, hpush.2.1, hpush.2.2]

theorem beyond_endQuietWindow : (endQuietWindow cfg e).beyond = e.beyond := by
  rw [endQuietWindow]
  split <;> rfl

/-- **A send reaches the hop manager alone**, to note its data, and that
only where it queues. -/
theorem beyond_esbTransportSend (pipe : Nat) (data : List UInt8) :
    (esbTransportSend cfg e pipe data).1.beyond = e.beyond ∨
      (esbTransportSend cfg e pipe data).1.beyond =
        (noteHop cfg data e.hop, e.shell, e.pairing) := by
  have hclear : (endQuietWindow cfg (jitterRetransmitDelay cfg (noteHanded e pipe data))).beyond =
      e.beyond := beyond_endQuietWindow cfg _
  have hqueued : ∀ e' : Endpoint, e'.beyond = e.beyond →
      (sendQueued cfg e' pipe data).1.beyond = (noteHop cfg data e.hop, e.shell, e.pairing) := by
    intro e' h
    simp only [Endpoint.beyond, Prod.mk.injEq] at h
    rw [beyond_sendQueued, h.1, h.2.1, h.2.2]
  simp only [esbTransportSend]
  split
  · exact Or.inl rfl
  · split
    · exact Or.inl rfl
    · split
      · exact Or.inl rfl
      · split
        · split
          · exact Or.inl hclear
          · exact Or.inr (hqueued _ hclear)
        · exact Or.inr (hqueued _ hclear)

/-- A send touches neither the relay nor the pairing machine. -/
theorem session_esbTransportSend (pipe : Nat) (data : List UInt8) :
    (esbTransportSend cfg e pipe data).1.shell = e.shell ∧
      (esbTransportSend cfg e pipe data).1.pairing = e.pairing := by
  rcases beyond_esbTransportSend cfg e pipe data with h | h
  · simp only [Endpoint.beyond, Prod.mk.injEq] at h
    exact h.2
  · simp only [Endpoint.beyond, Prod.mk.injEq] at h
    exact h.2

/-- To the hop manager a send is user traffic, or nothing. -/
theorem hop_esbTransportSend (pipe : Nat) (data : List UInt8) :
    (esbTransportSend cfg e pipe data).1.hop = e.hop ∨
      (esbTransportSend cfg e pipe data).1.hop = channelHopEpNoteUserTx cfg e.hop := by
  rcases beyond_esbTransportSend cfg e pipe data with h | h
  · exact Or.inl (congrArg Prod.fst h)
  · have hnoted : (esbTransportSend cfg e pipe data).1.hop = noteHop cfg data e.hop :=
      congrArg Prod.fst h
    unfold noteHop at hnoted
    split at hnoted
    · exact Or.inr hnoted
    · exact Or.inl hnoted

/-! ## The history of the calls -/

theorem handed_pushNoack (noack : Bool) : (pushNoack cfg e noack).handed = e.handed := by
  rw [pushNoack]
  split <;> rfl

theorem handed_noteSend (data : List UInt8) : (noteSend cfg e data).handed = e.handed := by
  simp only [noteSend]
  split <;> split <;> split <;> rfl

theorem handed_overrideCritical (data : List UInt8) :
    (overrideCritical cfg e data).handed = e.handed := by
  simp only [overrideCritical]
  split
  · rfl
  · split <;> rfl

theorem handed_sendMotion (pipe : Nat) (noack : Bool) (data : List UInt8) :
    (sendMotion cfg e pipe noack data).1.handed = e.handed := by
  simp only [sendMotion]
  split
  · split <;> rfl
  · rfl

theorem handed_sendQueued (pipe : Nat) (data : List UInt8) :
    (sendQueued cfg e pipe data).1.handed = e.handed := by
  simp only [sendQueued, handed_sendMotion, handed_overrideCritical, handed_noteSend,
    handed_pushNoack]

/-- **A call is in the history**, whatever becomes of its packet. -/
theorem handed_esbTransportSend (pipe : Nat) (data : List UInt8) :
    (esbTransportSend cfg e pipe data).1.handed = e.handed ++ [(pipe, data)] := by
  have hclear : (endQuietWindow cfg (jitterRetransmitDelay cfg (noteHanded e pipe data))).handed =
      e.handed ++ [(pipe, data)] := by
    rw [endQuietWindow]
    split <;> rfl
  simp only [esbTransportSend]
  split
  · rfl
  · split
    · rfl
    · split
      · rfl
      · split
        · split
          · exact hclear
          · exact (handed_sendQueued cfg _ pipe data).trans hclear
        · exact (handed_sendQueued cfg _ pipe data).trans hclear

/-- The calls of `esb_transport_send` that lead from one endpoint to the
other. -/
def Endpoint.handedTo (e e' : Endpoint) : List (Nat × List UInt8) :=
  e'.handed.drop e.handed.length

theorem handedTo_of_append {e e' : Endpoint} {calls : List (Nat × List UInt8)}
    (h : e'.handed = e.handed ++ calls) : e.handedTo e' = calls := by
  rw [Endpoint.handedTo, h, List.drop_left]

/-! ## The link's own packets -/

/-- A packet of the link's own is no user traffic. -/
theorem hop_send_of_own (pipe : Nat) (data : List UInt8) (hown : isUserTraffic data = false) :
    (esbTransportSend cfg e pipe data).1.hop = e.hop := by
  have hnote : noteHop cfg data e.hop = e.hop := by
    unfold noteHop
    rw [hown, Bool.and_false, if_neg Bool.false_ne_true]
  rcases beyond_esbTransportSend cfg e pipe data with h | h
  · exact congrArg Prod.fst h
  · exact (congrArg Prod.fst h).trans hnote

end EsbEndpoint
