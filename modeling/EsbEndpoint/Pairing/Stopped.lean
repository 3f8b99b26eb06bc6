import EsbEndpoint.Common.Run
import EsbEndpoint.Pairing.Effect
import EsbEndpoint.Shell.Session

/-!
# A stopped machine

`pairing_stop` leaves the machine in `IDLE` with its two work items off,
and until the next `pairing_start` nothing is to wake it. A packet may
still come: the receive work is not taken back when the slot stops. The
packets that ask for a state find another one; a `DISCONNECT` asks for
none, and sets the machine beaconing (`stopped_iff`).
-/

namespace EsbEndpoint

variable (cfg : Config)

/-- What goes on after `pairing_stop`: packets, an unpairing, the two work
items if they are scheduled, and anything else, which leaves the pairing
statics alone. -/
inductive StoppedOp
  | rx (buf : List UInt8) (len : Nat)
  | unpair
  | beacon
  | verify
  | world (rest : Endpoint)

def stoppedStep (e : Endpoint) : StoppedOp → Endpoint
  | .rx buf len => pairingOnRx cfg e buf len
  | .unpair => pairingUnpair cfg e
  | .beacon =>
    if e.pairing.beaconWork.isSome then
      beaconWorkFn cfg (e.mapPairing fun p => { p with beaconWork := none })
    else e
  | .verify =>
    if e.pairing.verifyWork.isSome then
      verifyWorkFn cfg (e.mapPairing fun p => { p with verifyWork := none })
    else e
  | .world rest => { rest with pairing := e.pairing }

/-- **Stopped**: idle, with neither work item scheduled. -/
def Stopped (e : Endpoint) : Prop :=
  e.pairing.state = .idle ∧ e.pairing.beaconWork = none ∧ e.pairing.verifyWork = none

/-- The condition on a packet: it is no `DISCONNECT`. -/
def NoDisconnect (_ : Endpoint) : StoppedOp → Prop
  | .rx buf len => 0 < len → buf.getD 0 0 ≠ esbPktDisconnect
  | _ => True

instance (e : Endpoint) : (op : StoppedOp) → Decidable (NoDisconnect e op)
  | .rx _ _ => inferInstanceAs (Decidable (_ → _))
  | .unpair | .beacon | .verify | .world _ => inferInstanceAs (Decidable True)

variable {cfg} {e : Endpoint}

/-- A `DISCONNECT` is taken in any state. -/
theorem pairingOnRx_disconnect {buf : List UInt8} {len : Nat} (hlen : 0 < len)
    (htype : buf.getD 0 0 = esbPktDisconnect) :
    pairingOnRx cfg e buf len = onDisconnect cfg e := by
  unfold pairingOnRx
  rw [if_neg (by omega), htype]
  rfl

/-- **A stopped machine takes no packet but a `DISCONNECT`.** -/
theorem Stopped.rx_iff (h : Stopped e) (buf : List UInt8) (len : Nat) :
    Stopped (pairingOnRx cfg e buf len) ↔ NoDisconnect e (.rx buf len) := by
  obtain ⟨hstate, hbeacon, hverify⟩ := h
  by_cases hdisc : 0 < len ∧ buf.getD 0 0 = esbPktDisconnect
  · refine iff_of_false (fun hstopped => ?_) fun hnot => hnot hdisc.1 hdisc.2
    rw [Stopped, pairingOnRx_disconnect hdisc.1 hdisc.2, onDisconnect,
      pairing_notifyDisconnected] at hstopped
    exact absurd hstopped.1 (by simp [Endpoint.mapPairing_pairing, forgetPeer, savePaired])
  · refine iff_of_true ?_ (not_and.1 hdisc)
    have hrx := @onRx_pairingOnRx cfg e buf len
    unfold Stopped
    generalize (pairingOnRx cfg e buf len).hop = h' at hrx
    generalize (pairingOnRx cfg e buf len).pairing = p' at hrx ⊢
    have hkept : e.pairing.state = .idle ∧ e.pairing.beaconWork = none ∧
        e.pairing.verifyWork = none := ⟨hstate, hbeacon, hverify⟩
    -- every other packet that does something asks for a state first
    cases hrx with
    | ignored => exact hkept
    | nudged => exact hkept
    | answered htype => exact hkept
    | requested htype hlen => exact hkept
    | paired htype hlen hunpaired => exact absurd (hstate.symm.trans hunpaired) (by decide)
    | verified htype hlen hverifying hid => exact absurd (hstate.symm.trans hverifying) (by decide)
    | resynced htype hlen hconnected => exact absurd (hstate.symm.trans hconnected) (by decide)
    | disconnected htype hlen => exact absurd ⟨hlen, htype⟩ hdisc

/-- **A step leaves a stopped machine stopped exactly on its condition.** -/
theorem Stopped.step_iff (h : Stopped e) (op : StoppedOp) :
    Stopped (stoppedStep cfg e op) ↔ NoDisconnect e op := by
  cases op with
  | rx buf len => exact h.rx_iff buf len
  | unpair =>
    refine iff_of_true ?_ trivial
    obtain ⟨hstate, hbeacon, hverify⟩ := h
    have hidle : (forgetPeer e.pairing).state = .idle := hstate
    simp only [Stopped, stoppedStep, pairingUnpair, Endpoint.mapPairing_pairing, hidle,
      bne_self_eq_false, Bool.false_eq_true, if_false]
    exact ⟨trivial, hbeacon, trivial⟩
  | beacon =>
    refine iff_of_true ?_ trivial
    rw [stoppedStep, h.2.1]
    exact h
  | verify =>
    refine iff_of_true ?_ trivial
    rw [stoppedStep, h.2.2]
    exact h
  | world rest => exact iff_of_true h trivial

/-- What `pairing_stop` leaves. -/
theorem stopped_pairingStop : Stopped (pairingStop cfg e) := by
  rw [Stopped, pairingStop, pairing_notifyDisconnected]
  exact ⟨rfl, rfl, rfl⟩

/-- **A stopped machine stays stopped** just in the runs that bring it no
`DISCONNECT`. -/
theorem stopped_iff (cfg : Config) (e : Endpoint) (ops : List StoppedOp) :
    Throughout (stoppedStep cfg) Stopped (pairingStop cfg e) ops ↔
      Guarded (stoppedStep cfg) NoDisconnect (pairingStop cfg e) ops :=
  throughout_iff_guarded (D := fun _ _ => True) (I := fun _ => True) (fun _ _ _ _ => trivial)
    (fun _ op _ _ h => h.step_iff op) trivial stopped_pairingStop
    (Guarded.of_forall fun _ _ => trivial)

/-- A `DISCONNECT` that was received before the slot stopped. -/
theorem not_stopped : ¬ ∀ (cfg : Config) (e : Endpoint) (ops : List StoppedOp),
    Throughout (stoppedStep cfg) Stopped (pairingStop cfg e) ops := fun h =>
  absurd (h .default (Endpoint.bootConnected .default) [.rx [esbPktDisconnect] 1]).last.1
    (by decide +kernel)

end EsbEndpoint
