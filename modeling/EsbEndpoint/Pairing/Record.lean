import EsbEndpoint.Common.Run
import EsbEndpoint.Pairing.Effect
import EsbEndpoint.Shell.Session

/-!
# The stored peer

The pairing machine keeps the peer in three places: its state, the flag
`m_has_stored_peer` with the id, and the record in the settings store.
Every operation moves the three together (`PeerAgrees.step`), so a reboot
between any two operations finds the peer the machine had, and
`CONNECTED` is reached from the two answers of a dongle only.
-/

namespace EsbEndpoint

variable (cfg : Config)

/-- The pairing statics a reboot comes up with. -/
def reloaded (p : Pairing) : Pairing := (Endpoint.init cfg p.deviceId p.saved).pairing

/-- **State, stored peer and record agree.** -/
structure PeerAgrees (p : Pairing) : Prop where
  has_peer : p.state = .connected ∨ p.state = .verifying → p.hasStoredPeer = true
  no_peer : p.state = .unpaired → p.hasStoredPeer = false
  reload : (reloaded cfg p).hasStoredPeer = p.hasStoredPeer
  reload_id : p.hasStoredPeer = true → (reloaded cfg p).peerDeviceId = p.peerDeviceId

/-- **`CONNECTED` is entered** by a full-length `PAIR_REQ` in `UNPAIRED`,
whose id becomes the peer's, or by a full-length `VERIFY_RESP` in
`VERIFYING` with the peer's id. -/
def EntersConnected (e : Endpoint) (op : PairOp) : Prop :=
  e.pairing.state ≠ .connected → (pairStep cfg e op).pairing.state = .connected →
    ∃ buf len, op = .rx buf len ∧ 7 ≤ len ∧
      (buf.getD 0 0 = esbPktPairReq ∧ e.pairing.state = .unpaired ∧
          (pairStep cfg e op).pairing.peerDeviceId = deviceIdOf buf ∨
        buf.getD 0 0 = esbPktVerifyResp ∧ e.pairing.state = .verifying ∧
          deviceIdOf buf = e.pairing.peerDeviceId ∧
          (pairStep cfg e op).pairing.peerDeviceId = e.pairing.peerDeviceId)

variable {cfg} {p : Pairing} {e : Endpoint}

/-- What a reboot reads back is the record's. -/
theorem reloaded_eq (p : Pairing) :
    (reloaded cfg p).hasStoredPeer = (p.saved.map PairedRec.paired).getD false ∧
      ∀ rec, p.saved = some rec → (reloaded cfg p).peerDeviceId = rec.deviceId := by
  unfold reloaded Endpoint.init pairingInit
  rw [Endpoint.mapPairing_pairing]
  constructor
  · cases hrec : p.saved with
    | none => rfl
    | some rec => rfl
  · intro rec hrec
    simp only [Endpoint.boot, hrec, settingsLoadCb]

/-- A machine without a peer, whose record says so. -/
theorem peerAgrees_of_forgotten (hstate : p.state = .unpaired ∨ p.state = .idle)
    (hpeer : p.hasStoredPeer = false) (hsaved : p.saved.map PairedRec.paired = some false) :
    PeerAgrees cfg p := by
  have hreload : (reloaded cfg p).hasStoredPeer = false := by
    rw [(reloaded_eq p).1, hsaved]
    rfl
  refine ⟨?_, fun _ => hpeer, hreload.trans hpeer.symm, ?_⟩
  · rintro (h | h)
    · rcases hstate with hs | hs <;> rw [hs] at h <;> exact absurd h (by simp)
    · rcases hstate with hs | hs <;> rw [hs] at h <;> exact absurd h (by simp)
  · intro h
    rw [hpeer] at h
    exact Bool.noConfusion h

/-- A change that leaves the peer and its record as they are, in a state
that suits them. -/
theorem PeerAgrees.of_kept {p' : Pairing} (h : PeerAgrees cfg p)
    (hpeer : p'.hasStoredPeer = p.hasStoredPeer) (hid : p'.peerDeviceId = p.peerDeviceId)
    (hsaved : p'.saved = p.saved)
    (hlinked : p'.state = .connected ∨ p'.state = .verifying → p.hasStoredPeer = true)
    (hunpaired : p'.state = .unpaired → p.hasStoredPeer = false) : PeerAgrees cfg p' := by
  have hflag : (reloaded cfg p').hasStoredPeer = (reloaded cfg p).hasStoredPeer := by
    rw [(reloaded_eq p').1, (reloaded_eq p).1, hsaved]
  refine ⟨fun hs => hpeer.trans (hlinked hs), fun hs => hpeer.trans (hunpaired hs), ?_, ?_⟩
  · rw [hflag, hpeer]
    exact h.reload
  · intro hp'
    have hp : p.hasStoredPeer = true := hpeer ▸ hp'
    cases hrec : p.saved with
    | none =>
      have hnone := (@reloaded_eq cfg p).1
      rw [hrec, h.reload, hp] at hnone
      exact Bool.noConfusion hnone
    | some rec =>
      rw [(reloaded_eq p').2 rec (hsaved.trans hrec), hid, ← h.reload_id hp,
        (reloaded_eq p).2 rec hrec]

/-- **Every operation keeps them in agreement.** -/
theorem PeerAgrees.step (h : PeerAgrees cfg e.pairing) (op : PairOp) :
    PeerAgrees cfg (pairStep cfg e op).pairing := by
  cases op with
  | start =>
    simp only [pairStep, pairingStart, Endpoint.mapPairing_pairing]
    split
    · rename_i hpeer
      exact h.of_kept rfl rfl rfl (fun _ => hpeer) fun hs => by simp at hs
    · rename_i hpeer
      rw [Bool.not_eq_true] at hpeer
      exact h.of_kept rfl rfl rfl (fun hs => by simp at hs) fun _ => hpeer
  | stop =>
    simp only [pairStep, pairingStop, pairing_notifyDisconnected, Endpoint.mapPairing_pairing]
    exact h.of_kept rfl rfl rfl (fun hs => by simp at hs) fun hs => by simp at hs
  | unpair =>
    simp only [pairStep, pairingUnpair, Endpoint.mapPairing_pairing]
    split
    · exact peerAgrees_of_forgotten (Or.inl rfl) rfl rfl
    · rename_i hidle
      rw [bne_iff_ne, not_not] at hidle
      exact peerAgrees_of_forgotten (Or.inr hidle) rfl rfl
  | rx buf len =>
    unfold pairStep
    have hrx := @onRx_pairingOnRx cfg e buf len
    generalize (pairingOnRx cfg e buf len).hop = h' at hrx
    generalize (pairingOnRx cfg e buf len).pairing = p' at hrx ⊢
    cases hrx with
    | paired htype hlen hstate =>
      refine ⟨fun _ => rfl, fun hs => by simp [pairedWith, savePaired] at hs, ?_, fun _ => ?_⟩
      · rw [(reloaded_eq _).1]
        rfl
      · rw [(reloaded_eq _).2 _ rfl]
        rfl
    | verified htype hlen hstate hid =>
      exact h.of_kept rfl rfl rfl (fun _ => h.has_peer (Or.inr hstate)) fun hs => by simp at hs
    | disconnected htype hlen => exact peerAgrees_of_forgotten (Or.inl rfl) rfl rfl
    | resynced htype hlen hstate =>
      exact h.of_kept rfl rfl rfl (fun _ => h.has_peer (Or.inl hstate)) fun hs => by simp at hs
    | _ => exact h

/-- A machine that has just come up agrees with its record. -/
theorem peerAgrees_init (deviceId : List UInt8) (saved : Option PairedRec) :
    PeerAgrees cfg (Endpoint.init cfg deviceId saved).pairing := by
  have hstate : (Endpoint.init cfg deviceId saved).pairing.state = .idle := by
    cases saved with
    | none => rfl
    | some rec => rfl
  have hsame : reloaded cfg (Endpoint.init cfg deviceId saved).pairing =
      (Endpoint.init cfg deviceId saved).pairing := by
    cases saved with
    | none => rfl
    | some rec => rfl
  refine ⟨?_, ?_, by rw [hsame], fun _ => by rw [hsame]⟩
  · rw [hstate]
    simp
  · rw [hstate]
    simp

theorem entersConnected_step (op : PairOp) : EntersConnected cfg e op := by
  intro hbefore hafter
  cases op with
  | start =>
    simp only [pairStep, pairingStart, Endpoint.mapPairing_pairing] at hafter
    split at hafter <;> exact absurd hafter (by simp)
  | stop =>
    simp only [pairStep, pairingStop, pairing_notifyDisconnected,
      Endpoint.mapPairing_pairing] at hafter
    exact absurd hafter (by simp)
  | unpair =>
    simp only [pairStep, pairingUnpair, Endpoint.mapPairing_pairing] at hafter
    split at hafter
    · exact absurd hafter (by simp)
    · exact absurd hafter hbefore
  | rx buf len =>
    unfold pairStep at hafter ⊢
    have hrx := @onRx_pairingOnRx cfg e buf len
    generalize (pairingOnRx cfg e buf len).hop = h' at hrx
    generalize (pairingOnRx cfg e buf len).pairing = p' at hrx hafter ⊢
    cases hrx with
    | paired htype hlen hstate => exact ⟨buf, len, rfl, hlen, Or.inl ⟨htype, hstate, rfl⟩⟩
    | verified htype hlen hstate hid =>
      exact ⟨buf, len, rfl, hlen, Or.inr ⟨htype, hstate, hid, rfl⟩⟩
    | disconnected htype hlen =>
      exact absurd hafter (by simp [disconnectedFrom, forgetPeer, savePaired])
    | resynced htype hlen hstate => exact absurd hafter (by simp)
    | _ => exact absurd hafter hbefore

/-- **Pairing state, stored peer and persisted record agree** in every
state a run reaches, and `CONNECTED` is entered through a dongle's answer
only. -/
theorem peerAgrees_run (cfg : Config) (deviceId : List UInt8) (saved : Option PairedRec)
    (ops : List PairOp) :
    Throughout (pairStep cfg) (fun e => PeerAgrees cfg e.pairing)
        (Endpoint.init cfg deviceId saved) ops ∧
      Guarded (pairStep cfg) (EntersConnected cfg) (Endpoint.init cfg deviceId saved) ops :=
  ⟨Throughout.of_step (fun _ op h => h.step op) (peerAgrees_init deviceId saved),
    Guarded.of_forall fun _ op => entersConnected_step op⟩

end EsbEndpoint
