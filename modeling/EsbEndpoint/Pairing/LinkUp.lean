import EsbEndpoint.Common.Run
import EsbEndpoint.Hop.Effect
import EsbEndpoint.Shell.Session

/-!
# The link as the hop manager sees it

`m_link_up` is the hop manager's copy of "the pairing machine is in
`CONNECTED`". Nothing derives it: each transition into or out of
`CONNECTED` has to tell the manager. The two answers of a dongle, its
`DISCONNECT` and its `RESYNC`, and `pairing_stop` do; `pairing_unpair` and
`pairing_start` do not (`LinkTold`).
-/

namespace EsbEndpoint

variable (cfg : Config)

/-- **The hop manager's link is the pairing machine's.** -/
def LinkMirrors (e : Endpoint) : Prop :=
  e.hop.linkUp = true ↔ e.pairing.state = .connected

/-- The condition on an operation: the two that leave `CONNECTED` without
a word to the hop manager do not find the machine there. -/
def LinkTold (e : Endpoint) : PairOp → Prop
  | .start => e.pairing.state ≠ .connected
  | .unpair => e.pairing.state ≠ .connected
  | _ => True

variable {cfg} {e : Endpoint} {h : HopEp} {now : UInt32}

/-! ## The entry points and the link -/

theorem linkUp_onConnected (hhop : cfg.channelHop = true) :
    (channelHopEpOnConnected cfg h).linkUp = true := by
  obtain ⟨negotiateWork, hconnected⟩ := @onConnected_cases cfg h hhop
  rw [hconnected]

theorem linkUp_onDisconnected (hhop : cfg.channelHop = true) :
    (channelHopEpOnDisconnected cfg h).linkUp = false := by
  unfold channelHopEpOnDisconnected
  rw [hhop, Bool.not_true, if_neg Bool.false_ne_true]
  simp only []
  split <;> rfl

theorem linkUp_onTxFail : (channelHopEpOnTxFailIsr cfg now h).linkUp = h.linkUp := by
  have hfail := @onTxFail_onTxFailIsr cfg now h
  generalize channelHopEpOnTxFailIsr cfg now h = h' at hfail ⊢
  cases hfail with
  | noted tag state hstate => rfl
  | asked tag hactive hcool => rfl
  | fellBack tag hactive hrdv => rfl

theorem linkUp_onRequest : (channelHopEpOnRequest cfg now h).linkUp = h.linkUp := by
  rcases @onRequest_cases cfg now h with hkept | ⟨-, burst, synced, work, hfailed⟩
  · rw [hkept]
  · rw [hfailed, linkUp_onTxFail]

theorem linkUp_onRx (buf : List UInt8) (len : Nat) :
    (channelHopEpOnRx cfg h buf len).linkUp = h.linkUp := by
  obtain ⟨_, _, _, _, _, hrx⟩ := @onRx_cases cfg h buf len
  rw [hrx]

/-! ## Steps and runs -/

/-- **A packet never parts them**: whatever it does to the state, it tells
the hop manager. -/
theorem LinkMirrors.rx (hhop : cfg.channelHop = true) (h : LinkMirrors e) (buf : List UInt8)
    (len : Nat) : LinkMirrors (pairStep cfg e (.rx buf len)) := by
  unfold pairStep LinkMirrors at *
  have hrx := @onRx_pairingOnRx cfg e buf len
  generalize (pairingOnRx cfg e buf len).hop = h' at hrx ⊢
  generalize (pairingOnRx cfg e buf len).pairing = p' at hrx ⊢
  cases hrx with
  | ignored => exact h
  | nudged =>
    rw [linkUp_noteUserTx]
    exact h
  | paired htype hlen hstate => exact iff_of_true (linkUp_onConnected hhop) rfl
  | verified htype hlen hstate hid => exact iff_of_true (linkUp_onConnected hhop) rfl
  | disconnected htype hlen =>
    rw [linkUp_onDisconnected hhop]
    exact iff_of_false Bool.false_ne_true (by simp [disconnectedFrom, forgetPeer, savePaired])
  | resynced htype hlen hstate =>
    rw [linkUp_onDisconnected hhop]
    exact iff_of_false Bool.false_ne_true (by simp)
  | answered htype =>
    rw [linkUp_onRx]
    exact h
  | requested htype hlen =>
    rw [linkUp_onRequest]
    exact h

/-- An operation that leaves the hop manager alone and does not end in
`CONNECTED` keeps the mirror just where it did not start there. -/
theorem linkMirrors_of_left {e' : Endpoint} (h : LinkMirrors e) (hhop : e'.hop = e.hop)
    (hstate : e'.pairing.state ≠ .connected) :
    LinkMirrors e' ↔ e.pairing.state ≠ .connected := by
  unfold LinkMirrors at *
  rw [hhop, h]
  constructor
  · intro hiff hconn
    exact hstate (hiff.1 hconn)
  · intro hnot
    exact iff_of_false hnot hstate

theorem linkMirrors_step_iff (hhop : cfg.channelHop = true) (h : LinkMirrors e) (op : PairOp) :
    LinkMirrors (pairStep cfg e op) ↔ LinkTold e op := by
  cases op with
  | start =>
    refine linkMirrors_of_left h rfl ?_
    simp only [pairStep, pairingStart, Endpoint.mapPairing_pairing]
    split <;> simp
  | stop =>
    refine iff_of_true ?_ trivial
    unfold LinkMirrors
    simp only [pairStep, pairingStop, pairing_notifyDisconnected, hop_notifyDisconnected,
      linkUp_onDisconnected hhop, Endpoint.mapPairing_pairing]
    exact iff_of_false Bool.false_ne_true (by simp)
  | unpair =>
    by_cases hidle : e.pairing.state = .idle
    · -- the state is left as it is
      have hkept : (pairStep cfg e .unpair).pairing.state ≠ .connected := by
        simp only [pairStep, pairingUnpair, Endpoint.mapPairing_pairing, forgetPeer, savePaired,
          hidle, bne_self_eq_false, Bool.false_eq_true, if_false]
        simp
      exact linkMirrors_of_left h rfl hkept
    · refine linkMirrors_of_left h rfl ?_
      simp only [pairStep, pairingUnpair, Endpoint.mapPairing_pairing, forgetPeer, savePaired,
        bne_iff_ne.2 hidle, if_true]
      simp
  | rx buf len => exact iff_of_true (h.rx hhop buf len) trivial

/-- The link is down and the state `IDLE` at initialisation. -/
theorem linkMirrors_init (deviceId : List UInt8) (saved : Option PairedRec) :
    LinkMirrors (Endpoint.init cfg deviceId saved) := by
  refine iff_of_false Bool.false_ne_true ?_
  cases saved with
  | none => exact fun h => PairingState.noConfusion h
  | some rec => exact fun h => PairingState.noConfusion h

/-- **The hop manager's link mirrors the pairing state, exactly when
`pairing_start` and `pairing_unpair` are never called in `CONNECTED`.** -/
theorem linkMirrors_iff (cfg : Config) (hhop : cfg.channelHop = true) (deviceId : List UInt8)
    (saved : Option PairedRec) (ops : List PairOp) :
    Throughout (pairStep cfg) LinkMirrors (Endpoint.init cfg deviceId saved) ops ↔
      Guarded (pairStep cfg) LinkTold (Endpoint.init cfg deviceId saved) ops :=
  throughout_iff_guarded (I := fun _ => True) (D := fun _ _ => True) (fun _ _ _ _ => trivial)
    (fun _ op _ _ h => linkMirrors_step_iff hhop h op) trivial (linkMirrors_init deviceId saved)
    (Guarded.of_forall fun _ _ => trivial)

/-- A pairing that is ended by the dongle. -/
theorem linkMirrors_iff_disconnect :
    Throughout (pairStep .default) LinkMirrors (Endpoint.init .default [] none)
        [.start, .rx [esbPktPairReq, 1, 2, 3, 4, 5, 6] 7, .rx [esbPktDisconnect] 1] ↔
      Guarded (pairStep .default) LinkTold (Endpoint.init .default [] none)
        [.start, .rx [esbPktPairReq, 1, 2, 3, 4, 5, 6] 7, .rx [esbPktDisconnect] 1] :=
  linkMirrors_iff .default rfl [] none _

/-- Unpaired by its own key, the keyboard keeps the link up. -/
theorem not_linkMirrors : ¬ ∀ (cfg : Config) (_ : cfg.channelHop = true) (deviceId : List UInt8)
    (saved : Option PairedRec) (ops : List PairOp),
    Throughout (pairStep cfg) LinkMirrors (Endpoint.init cfg deviceId saved) ops := by
  intro h
  have hrun := (h .default rfl [] none
    [.start, .rx [esbPktPairReq, 1, 2, 3, 4, 5, 6] 7, .unpair]).last
  have hup : (runFrom (pairStep .default) (Endpoint.init .default [] none)
      [.start, .rx [esbPktPairReq, 1, 2, 3, 4, 5, 6] 7, .unpair]).hop.linkUp = true := by
    decide +kernel
  exact absurd (hrun.1 hup) (by decide +kernel)

end EsbEndpoint
