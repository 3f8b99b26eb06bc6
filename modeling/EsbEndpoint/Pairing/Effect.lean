import EsbEndpoint.Pairing
import EsbEndpoint.Transport.Frame

/-!
# What a packet does

`pairing_on_rx` reaches the pairing machine's own statics and the hop
manager. `OnRx` lists, case by case, what it can leave in the two, with
the packet and the state that lead there; what is proved of received
packets is proved from this list and not from the dispatch.
-/

namespace EsbEndpoint

variable (cfg : Config) (e : Endpoint) (buf : List UInt8) (len : Nat)

/-- The statics a `PAIR_REQ` leaves. -/
def pairedWith (buf : List UInt8) (p : Pairing) : Pairing :=
  savePaired true
    { p with
      peerDeviceId := deviceIdOf buf
      beaconWork := none
      hasStoredPeer := true
      state := .connected }

/-- The statics a `DISCONNECT` leaves. -/
def disconnectedFrom (p : Pairing) : Pairing :=
  { forgetPeer { p with state := .unpaired } with
    verifyWork := none
    beaconWork := some cfg.beaconInitialDelayMs }

/-- What `pairing_on_rx` leaves in the pairing statics and in the hop
manager's. -/
inductive OnRx : Pairing → HopEp → Prop
  /-- neither is touched -/
  | ignored : OnRx e.pairing e.hop
  /-- shell data outside a session is answered, which is user traffic -/
  | nudged : OnRx e.pairing (channelHopEpNoteUserTx cfg e.hop)
  | paired (htype : buf.getD 0 0 = esbPktPairReq) (hlen : 7 ≤ len)
      (hstate : e.pairing.state = .unpaired) :
      OnRx (pairedWith buf e.pairing) (channelHopEpOnConnected cfg e.hop)
  | verified (htype : buf.getD 0 0 = esbPktVerifyResp) (hlen : 7 ≤ len)
      (hstate : e.pairing.state = .verifying) (hid : deviceIdOf buf = e.pairing.peerDeviceId) :
      OnRx { e.pairing with verifyWork := none, state := .connected }
        (channelHopEpOnConnected cfg e.hop)
  | disconnected (htype : buf.getD 0 0 = esbPktDisconnect) (hlen : 0 < len) :
      OnRx (disconnectedFrom cfg e.pairing) (channelHopEpOnDisconnected cfg e.hop)
  | resynced (htype : buf.getD 0 0 = esbPktResync) (hlen : 0 < len)
      (hstate : e.pairing.state = .connected) :
      OnRx { e.pairing with state := .verifying, verifyWork := some 0 }
        (channelHopEpOnDisconnected cfg e.hop)
  | answered (htype : buf.getD 0 0 = esbPktChannelHopConfirm ∨ buf.getD 0 0 = esbPktHopAccept) :
      OnRx e.pairing (channelHopEpOnRx cfg e.hop buf len)
  | requested (htype : buf.getD 0 0 = esbPktChannelHopRequest) (hlen : 0 < len) :
      OnRx e.pairing (channelHopEpOnRequest cfg e.now e.hop)

variable {cfg e}

theorem pairing_notifyConnected : (notifyConnected cfg e).pairing = e.pairing := by
  simp only [notifyConnected, Endpoint.mapHop_pairing]
  split <;> rfl

theorem hop_notifyConnected :
    (notifyConnected cfg e).hop = channelHopEpOnConnected cfg e.hop := by
  simp only [notifyConnected, Endpoint.mapHop_hop]
  split <;> rfl

theorem pairing_notifyDisconnected : (notifyDisconnected cfg e).pairing = e.pairing := by
  simp only [notifyDisconnected, Endpoint.mapHop_pairing]
  split <;> rfl

theorem hop_notifyDisconnected :
    (notifyDisconnected cfg e).hop = channelHopEpOnDisconnected cfg e.hop := by
  simp only [notifyDisconnected, Endpoint.mapHop_hop]
  split <;> rfl

theorem hop_sendPairResp : (sendPairResp cfg e).hop = e.hop :=
  hop_send_of_own cfg e _ _ rfl

theorem onRx_onPairReq (htype : buf.getD 0 0 = esbPktPairReq) :
    OnRx cfg e buf len (onPairReq cfg e buf len).pairing (onPairReq cfg e buf len).hop := by
  simp only [onPairReq]
  split
  · rename_i hpair
    rw [Bool.and_eq_true, beq_iff_eq, decide_eq_true_eq] at hpair
    have hsent : ∀ e' : Endpoint, (sendPairResp cfg e').pairing = e'.pairing := fun e' =>
      (session_esbTransportSend cfg e' _ _).2
    rw [pairing_notifyConnected, hop_notifyConnected, Endpoint.mapPairing_pairing,
      Endpoint.mapPairing_hop, hsent, hop_sendPairResp]
    exact OnRx.paired htype hpair.2 hpair.1
  · exact OnRx.ignored

theorem onRx_onVerifyResp (htype : buf.getD 0 0 = esbPktVerifyResp) :
    OnRx cfg e buf len (onVerifyResp cfg e buf len).pairing (onVerifyResp cfg e buf len).hop := by
  unfold onVerifyResp
  split
  · rename_i hverify
    rw [Bool.and_eq_true, beq_iff_eq, decide_eq_true_eq] at hverify
    split
    · rename_i hid
      rw [pairing_notifyConnected, hop_notifyConnected]
      exact OnRx.verified htype hverify.2 hverify.1 (beq_iff_eq.1 hid)
    · exact OnRx.ignored
  · exact OnRx.ignored

theorem onRx_onShellData :
    OnRx cfg e buf len (onShellData cfg e buf len).pairing (onShellData cfg e buf len).hop := by
  have hdata : ∀ data, OnRx cfg e buf len (esbShellRelayOnData cfg e data).pairing
      (esbShellRelayOnData cfg e data).hop := by
    intro data
    unfold esbShellRelayOnData
    split
    · split
      · rw [(session_esbTransportSend cfg _ esbPipeData [esbPktShellStop]).2]
        rcases hop_esbTransportSend cfg
            (e.mapShell fun sh => { sh with lastNudgeMs := e.uptime }) esbPipeData
            [esbPktShellStop] with hhop | hhop
        · rw [hhop]
          exact OnRx.ignored
        · rw [hhop]
          exact OnRx.nudged
      · exact OnRx.ignored
    · exact OnRx.ignored
  simp only [onShellData]
  split
  · split
    · exact hdata _
    · exact OnRx.ignored
  · exact OnRx.ignored

/-- **Every packet is one of the list.** -/
theorem onRx_pairingOnRx :
    OnRx cfg e buf len (pairingOnRx cfg e buf len).pairing (pairingOnRx cfg e buf len).hop := by
  unfold pairingOnRx
  split
  · exact OnRx.ignored
  · rename_i hlen
    split
    · rename_i htype
      exact onRx_onPairReq buf len htype
    · rename_i htype
      exact onRx_onVerifyResp buf len htype
    · rename_i htype
      unfold onDisconnect
      rw [pairing_notifyDisconnected, hop_notifyDisconnected]
      exact OnRx.disconnected htype (by omega)
    · rename_i htype
      unfold onResync
      split
      · rename_i hstate
        rw [pairing_notifyDisconnected, hop_notifyDisconnected]
        exact OnRx.resynced htype (by omega) (beq_iff_eq.1 hstate)
      · exact OnRx.ignored
    · rename_i htype
      split
      · exact OnRx.answered (Or.inl htype)
      · exact OnRx.ignored
    · rename_i htype
      split
      · exact OnRx.answered (Or.inr htype)
      · exact OnRx.ignored
    · rename_i htype
      split
      · exact OnRx.requested htype (by omega)
      · exact OnRx.ignored
    · unfold esbTransportOnRxLinkStats
      split <;> exact OnRx.ignored
    · split <;> exact OnRx.ignored
    · split
      · exact onRx_onShellData buf len
      · exact OnRx.ignored
    · exact OnRx.ignored

end EsbEndpoint
