import EsbEndpoint.Common.Run
import EsbEndpoint.Dongle.Main

/-!
# Whose reports the dongle forwards

The gate on HID reports is one state, whoever the sender: `CONNECTED` or
`VERIFYING`. A `PAIR_RESP` and a matching `VERIFY_REQ` open it and a
`DISCONNECT` closes it, but a `VERIFY_REQ` under another id, which is
answered with `DISCONNECT`, leaves it as it is. So the gate stands for a
verified peer just as long as no stranger asks while it is open
(`forwardsVerified_iff`).
-/

namespace EsbEndpoint

/-! ## The history -/

/-- A dongle with what its packets have said of the sender: `verified`
since a pairing or a matching verification, until a `DISCONNECT` or a
verification under another id. -/
structure Watch where
  dongle : Dongle
  verified : Bool

/-- One packet of the run. -/
def watchStep (w : Watch) (packet : Nat × List UInt8) : Watch where
  dongle := dongleOnPacket w.dongle packet.1 packet.2
  verified :=
    if pktType packet.2 = some esbPktDisconnect then false
    else if acceptsPairResp w.dongle packet.2 then true
    else if isVerifyReq packet.2 then decide (matchesPeer w.dongle packet.2)
    else w.verified

/-- **Only a verified peer's reports are forwarded**: whatever packet
comes next, a report reaches USB only after a pairing or a matching
verification that nothing has revoked. -/
def ForwardsVerified (w : Watch) : Prop :=
  ∀ (pipe : Nat) (data : List UInt8),
    (dongleOnPacket w.dongle pipe data).hidReports ≠ w.dongle.hidReports → w.verified = true

/-- No stranger asks to be verified while the dongle forwards. -/
def NoStranger (w : Watch) (packet : Nat × List UInt8) : Prop :=
  w.dongle.Forwards → isVerifyReq packet.2 → matchesPeer w.dongle packet.2

instance (w : Watch) (packet : Nat × List UInt8) : Decidable (NoStranger w packet) :=
  inferInstanceAs (Decidable (_ → _ → _))

/-- The watch over a dongle `main` has just started. -/
def Watch.start (myDeviceId : List UInt8) : Watch := ⟨.start myDeviceId, false⟩

/-! ## One packet -/

/-- Reports leave an open gate and no other. -/
theorem hidReports_of_not_forwards {d : Dongle} (h : ¬ d.Forwards) (pipe : Nat)
    (data : List UInt8) : (dongleOnPacket d pipe data).hidReports = d.hidReports := by
  have heff := onPacket_dongleOnPacket d pipe data
  generalize dongleOnPacket d pipe data = d' at heff ⊢
  cases heff with
  | ignored hreq hdisc => rfl
  | beacon htype hlen hstate => rfl
  | paired hresp => rfl
  | forwarded htype hfwd report => exact absurd hfwd h
  | verified hreq hpeer => rfl
  | refused hreq hpeer => rfl
  | disconnected htype => rfl

theorem hidReports_of_forwards {d : Dongle} (h : d.Forwards) (pipe : Nat) :
    (dongleOnPacket d pipe [esbPktHidReport, esbReportKeyboard]).hidReports ≠ d.hidReports := by
  have hstate : ¬(d.state ≠ .connected ∧ d.state ≠ .verifying) := fun hne =>
    h.elim hne.1 hne.2
  have hsent : dongleOnPacket d pipe [esbPktHidReport, esbReportKeyboard] =
      sendHidReport d (forwardKeyboard []) := by
    show onHidReport d [esbPktHidReport, esbReportKeyboard] = _
    unfold onHidReport
    rw [if_neg hstate]
    rfl
  rw [hsent]
  intro heq
  have hlen := congrArg List.length heq
  simp only [sendHidReport, List.length_append, List.length_singleton] at hlen
  omega

/-- What forwarding only verified reports comes to in one state: an open
gate has a verified peer. -/
theorem forwardsVerified_iff_open {w : Watch} :
    ForwardsVerified w ↔ (w.dongle.Forwards → w.verified = true) := by
  constructor
  · intro h hfwd
    exact h 0 [esbPktHidReport, esbReportKeyboard] (hidReports_of_forwards hfwd 0)
  · intro h pipe data hsent
    refine h ?_
    by_contra hnot
    exact hsent (hidReports_of_not_forwards hnot pipe data)

/-- **A packet keeps the gate to a verified peer just when it is not a
stranger's `VERIFY_REQ` at an open gate.** -/
theorem forwardsVerified_step_iff {w : Watch} (h : ForwardsVerified w)
    (packet : Nat × List UInt8) :
    ForwardsVerified (watchStep w packet) ↔ NoStranger w packet := by
  rw [forwardsVerified_iff_open] at h ⊢
  have heff := onPacket_dongleOnPacket w.dongle packet.1 packet.2
  unfold watchStep NoStranger
  dsimp only
  generalize dongleOnPacket w.dongle packet.1 packet.2 = d' at heff ⊢
  cases heff with
  | ignored hreq hdisc =>
    refine iff_of_true (fun hfwd => ?_) fun _ hreq' => absurd hreq' hreq
    rw [if_neg hdisc, if_neg hreq, h hfwd]
    split <;> rfl
  | beacon htype hlen hstate =>
    refine iff_of_true (fun hfwd => ?_) fun _ hreq =>
      absurd hreq.1 (pktType_ne htype (by decide))
    exact absurd hfwd (by simp [Dongle.Forwards])
  | paired hresp =>
    refine iff_of_true (fun _ => ?_) fun _ hreq =>
      absurd hreq.1 (pktType_ne hresp.1 (by decide))
    rw [if_neg (pktType_ne hresp.1 (by decide)), if_pos hresp]
  | forwarded htype hfwd report =>
    have hreq : ¬ isVerifyReq packet.2 := fun hreq => pktType_ne htype (by decide) hreq.1
    refine iff_of_true (fun _ => ?_) fun _ hreq' => absurd hreq' hreq
    rw [if_neg (pktType_ne htype (by decide)), if_neg hreq, h hfwd]
    split <;> rfl
  | verified hreq hpeer =>
    refine iff_of_true (fun _ => ?_) fun _ _ => hpeer
    have hresp : ¬ acceptsPairResp w.dongle packet.2 := fun hresp =>
      pktType_ne hreq.1 (by decide) hresp.1
    rw [if_neg (pktType_ne hreq.1 (by decide)), if_neg hresp, if_pos hreq]
    exact decide_eq_true hpeer
  | refused hreq hpeer =>
    -- the gate stays as it was, and the history forgets the peer
    have hresp : ¬ acceptsPairResp w.dongle packet.2 := fun hresp =>
      pktType_ne hreq.1 (by decide) hresp.1
    rw [if_neg (pktType_ne hreq.1 (by decide)), if_neg hresp, if_pos hreq,
      decide_eq_false hpeer]
    constructor
    · intro hopen hfwd
      exact absurd (hopen hfwd) Bool.false_ne_true
    · intro hnone hfwd
      exact absurd (hnone hfwd hreq) hpeer
  | disconnected htype =>
    refine iff_of_true (fun hfwd => ?_) fun _ hreq =>
      absurd hreq.1 (pktType_ne htype (by decide))
    exact absurd hfwd (by simp [Dongle.Forwards])

/-! ## The run -/

/-- **The dongle forwards for its verified peer alone, exactly when** no
`VERIFY_REQ` under another id comes while it forwards. -/
theorem forwardsVerified_iff (myDeviceId : List UInt8) (packets : List (Nat × List UInt8)) :
    Throughout watchStep ForwardsVerified (.start myDeviceId) packets ↔
      Guarded watchStep NoStranger (.start myDeviceId) packets := by
  have hstart : ForwardsVerified (.start myDeviceId) := by
    rw [forwardsVerified_iff_open]
    intro hfwd
    exact absurd hfwd (by simp [Dongle.Forwards, Watch.start, Dongle.start])
  exact throughout_iff_guarded (I := fun _ => True) (D := fun _ _ => True)
    (fun _ _ _ _ => trivial) (fun _ packet _ _ h => forwardsVerified_step_iff h packet)
    trivial hstart (Guarded.of_forall fun _ _ => trivial)

/-- **A stranger asks, is answered with `DISCONNECT`, and the gate stays
open.** -/
theorem not_forwardsVerified :
    ¬ Throughout watchStep ForwardsVerified (.start [9, 9, 9, 9, 9, 9])
      [(0, [esbPktBeacon, 1, 1, 1, 1, 1, 1, esbCapAll]),
        (0, [esbPktPairResp, 1, 1, 1, 1, 1, 1, esbCapAll]),
        (1, [esbPktVerifyReq, 2, 2, 2, 2, 2, 2])] := by
  intro h
  have hlast := h.last 1 [esbPktHidReport, esbReportKeyboard, 0, 0, 4] (by decide)
  exact absurd hlast (by decide)

end EsbEndpoint
