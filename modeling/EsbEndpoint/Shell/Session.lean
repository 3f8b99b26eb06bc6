import EsbEndpoint.Common.Run
import EsbEndpoint.Pairing
import EsbEndpoint.Transport.Frame

/-!
# Sessions and pairing

A shell session is meant for a verified dongle. The relay opens one on
`SHELL_REQ` in any pairing state, and closes it on `DISCONNECT`, `RESYNC`
and `pairing_stop`, which leave `CONNECTED`; but so do `pairing_unpair`
and `pairing_start`, which do not tell the relay. `SessionGated` is what
has to be true of an operation for the session to stay with the verified
dongle.
-/

namespace EsbEndpoint

variable (cfg : Config)

/-- The endpoint after initialisation. -/
def Endpoint.init (deviceId : List UInt8) (saved : Option PairedRec) : Endpoint :=
  pairingInit (Endpoint.boot cfg deviceId saved)

/-- An operation of the pairing machine. -/
inductive PairOp
  /-- `pairing_start` -/
  | start
  /-- `pairing_stop` -/
  | stop
  /-- `pairing_unpair` -/
  | unpair
  /-- `pairing_on_rx` over this buffer -/
  | rx (buf : List UInt8) (len : Nat)

def pairStep (e : Endpoint) : PairOp → Endpoint
  | .start => pairingStart cfg e
  | .stop => pairingStop cfg e
  | .unpair => pairingUnpair cfg e
  | .rx buf len => pairingOnRx cfg e buf len

/-- The endpoint, with the number of times `shell_exec_work` was submitted
outside `CONNECTED`. -/
structure SessionTrace where
  e : Endpoint
  strays : Nat := 0

def sessionStep (s : SessionTrace) (op : PairOp) : SessionTrace where
  e := pairStep cfg s.e op
  strays :=
    if s.e.pairing.state = .connected then s.strays
    else s.strays + ((pairStep cfg s.e op).shell.execSubmissions - s.e.shell.execSubmissions)

/-- **Only a verified dongle** has a session or runs a command. -/
def SessionVerified (s : SessionTrace) : Prop :=
  (s.e.shell.shellActive = true → s.e.pairing.state = .connected) ∧ s.strays = 0

/-- The condition on an operation: `SHELL_REQ` arrives in `CONNECTED`
only, and no session is open when the machine leaves it without telling
the relay. -/
def SessionGated (e : Endpoint) : PairOp → Prop
  | .start => e.shell.shellActive = false
  | .stop => True
  | .unpair => e.shell.shellActive = false
  | .rx buf len =>
    cfg.shellRelay = true → 0 < len → buf.getD 0 0 = esbPktShellReq →
      e.pairing.state = .connected

/-! ## The relay's own steps -/

variable {cfg} {e : Endpoint} {s : SessionTrace}

theorem shellActive_takeByte (b : UInt8) (sh : ShellRelay) :
    (takeByte cfg b sh).shellActive = sh.shellActive := by
  rw [takeByte]
  split
  · split <;> rfl
  · split
    · split <;> rfl
    · split <;> rfl

theorem shellActive_onDataLoop (data : List UInt8) (sh : ShellRelay) :
    (onDataLoop cfg data sh).1.shellActive = sh.shellActive := by
  induction data generalizing sh with
  | nil => rfl
  | cons b bs ih =>
    simp only [onDataLoop, ih]
    split
    · exact shellActive_takeByte b sh
    · exact shellActive_takeByte b sh

theorem shellActive_onSessionData (data : List UInt8) (sh : ShellRelay) :
    (onSessionData cfg data sh).shellActive = sh.shellActive := by
  simp only [onSessionData, drainIf]
  split
  · exact shellActive_onDataLoop data _
  · exact shellActive_onDataLoop data _

/-- Where the relay is compiled out there is no session. -/
def RelayOff (cfg : Config) (e : Endpoint) : Prop :=
  cfg.shellRelay = false → e.shell.shellActive = false

/-- No session is left, and nothing was submitted. -/
def Quiet (e e' : Endpoint) : Prop :=
  e'.shell.shellActive = false ∧ e'.shell.execSubmissions = e.shell.execSubmissions

/-- The session is as it was, and nothing was submitted outside one. -/
def Kept (e e' : Endpoint) : Prop :=
  e'.pairing.state = e.pairing.state ∧ e'.shell.shellActive = e.shell.shellActive ∧
    (e.shell.shellActive = false → e'.shell.execSubmissions = e.shell.execSubmissions)

theorem Kept.refl (e : Endpoint) : Kept e e := ⟨rfl, rfl, fun _ => rfl⟩

/-- `SHELL_DATA` neither opens nor closes a session, and submits nothing
outside one. -/
theorem kept_onShellData (buf : List UInt8) (len : Nat) : Kept e (onShellData cfg e buf len) := by
  have hdata : ∀ data, Kept e (esbShellRelayOnData cfg e data) := by
    intro data
    rw [esbShellRelayOnData]
    split
    · split
      · obtain ⟨hshell, hpairing⟩ := session_esbTransportSend cfg _ esbPipeData _
        rw [Kept, hshell, hpairing]
        exact ⟨rfl, rfl, fun _ => rfl⟩
      · exact Kept.refl e
    · rename_i hactive
      refine ⟨rfl, shellActive_onSessionData data _, fun hoff => ?_⟩
      rw [hoff] at hactive
      exact absurd (Bool.true_or _) hactive
  simp only [onShellData]
  split
  · split
    · exact hdata _
    · exact Kept.refl e
  · exact Kept.refl e

theorem esbShellRelayOnDisconnected_spec (sh : ShellRelay) :
    (esbShellRelayOnDisconnected cfg sh).shellActive = false ∧
      (esbShellRelayOnDisconnected cfg sh).execSubmissions = sh.execSubmissions := by
  simp only [esbShellRelayOnDisconnected]
  split
  · rename_i h
    rw [Bool.not_eq_true'] at h
    exact ⟨h, rfl⟩
  · exact ⟨rfl, rfl⟩

theorem quiet_notifyDisconnected (h : RelayOff cfg e) : Quiet e (notifyDisconnected cfg e) := by
  simp only [Quiet, notifyDisconnected]
  split
  · exact esbShellRelayOnDisconnected_spec e.shell
  · rename_i hoff
    exact ⟨h (Bool.not_eq_true _ ▸ hoff), rfl⟩

theorem quiet_notifyConnected (h : RelayOff cfg e) : Quiet e (notifyConnected cfg e) := by
  simp only [Quiet, notifyConnected]
  split
  · exact ⟨rfl, rfl⟩
  · rename_i hoff
    exact ⟨h (Bool.not_eq_true _ ▸ hoff), rfl⟩

theorem onPairReq_session (h : RelayOff cfg e) (buf : List UInt8) (len : Nat) :
    Kept e (onPairReq cfg e buf len) ∨ Quiet e (onPairReq cfg e buf len) := by
  simp only [onPairReq]
  split
  · refine Or.inr ?_
    have hsend := fun data => (session_esbTransportSend cfg
      (e.mapPairing fun p => { p with peerDeviceId := deviceIdOf buf, beaconWork := none })
      esbPipeData data).1
    have hquiet := @quiet_notifyConnected cfg
      ((sendPairResp cfg (e.mapPairing fun p =>
        { p with peerDeviceId := deviceIdOf buf, beaconWork := none })).mapPairing fun p =>
          savePaired true { p with hasStoredPeer := true, state := .connected })
    rw [RelayOff, Quiet, Endpoint.mapPairing_shell, sendPairResp, hsend] at hquiet
    exact hquiet h
  · exact Or.inl (Kept.refl e)

theorem onVerifyResp_session (h : RelayOff cfg e) (buf : List UInt8) (len : Nat) :
    Kept e (onVerifyResp cfg e buf len) ∨ Quiet e (onVerifyResp cfg e buf len) := by
  rw [onVerifyResp]
  split
  · split
    · exact Or.inr (quiet_notifyConnected (e := e.mapPairing _) h)
    · exact Or.inl (Kept.refl e)
  · exact Or.inl (Kept.refl e)

theorem pairingOnRx_shellReq (hrelay : cfg.shellRelay = true) {buf : List UInt8} {len : Nat}
    (hlen : 0 < len) (hreq : buf.getD 0 0 = esbPktShellReq) :
    pairingOnRx cfg e buf len = e.mapShell (esbShellRelayOnReq cfg) := by
  rw [pairingOnRx, if_neg (by omega), hreq]
  exact if_pos hrelay

/-- **What a packet does to the session**, other than `SHELL_REQ`. -/
theorem pairingOnRx_session (h : RelayOff cfg e) {buf : List UInt8} {len : Nat}
    (hreq : ¬(cfg.shellRelay = true ∧ 0 < len ∧ buf.getD 0 0 = esbPktShellReq)) :
    Kept e (pairingOnRx cfg e buf len) ∨ Quiet e (pairingOnRx cfg e buf len) := by
  have hkept : ∀ e', e'.pairing = e.pairing → e'.shell = e.shell →
      Kept e e' ∨ Quiet e e' := by
    intro e' hp hs
    rw [Kept, hp, hs]
    exact Or.inl ⟨rfl, rfl, fun _ => rfl⟩
  rw [pairingOnRx]
  split
  · exact Or.inl (Kept.refl e)
  · rename_i hlen
    split
    · exact onPairReq_session h buf len
    · exact onVerifyResp_session h buf len
    · exact Or.inr (quiet_notifyDisconnected (e := e.mapPairing _) h)
    · rw [onResync]
      split
      · exact Or.inr (quiet_notifyDisconnected (e := e.mapPairing _) h)
      · exact Or.inl (Kept.refl e)
    · split <;> exact hkept _ rfl rfl
    · split <;> exact hkept _ rfl rfl
    · split <;> exact hkept _ rfl rfl
    · rw [esbTransportOnRxLinkStats]
      split <;> exact hkept _ rfl rfl
    · rename_i heq
      split
      · rename_i hrelay
        exact absurd ⟨hrelay, by omega, heq⟩ hreq
      · exact Or.inl (Kept.refl e)
    · split
      · exact Or.inl (kept_onShellData buf len)
      · exact Or.inl (Kept.refl e)
    · exact Or.inl (Kept.refl e)

/-! ## Runs -/

theorem shellActive_onReq (sh : ShellRelay) :
    (esbShellRelayOnReq cfg sh).shellActive = true ∧
      (esbShellRelayOnReq cfg sh).execSubmissions = sh.execSubmissions := by
  rw [esbShellRelayOnReq]
  split
  · rename_i h
    exact ⟨h, rfl⟩
  · exact ⟨rfl, rfl⟩

theorem RelayOff.step (h : RelayOff cfg e) (op : PairOp) : RelayOff cfg (pairStep cfg e op) := by
  intro hoff
  cases op with
  | start => exact h hoff
  | stop => exact (quiet_notifyDisconnected (e := e.mapPairing _) h).1
  | unpair => exact h hoff
  | rx buf len =>
    rcases @pairingOnRx_session cfg e h buf len
      (fun hreq => Bool.noConfusion (hoff.symm.trans hreq.1)) with hkept | hquiet
    · exact hkept.2.1.trans (h hoff)
    · exact hquiet.1

/-- Outside a session nothing is submitted. -/
theorem execSubmissions_pairStep (h : RelayOff cfg e) (hidle : e.shell.shellActive = false)
    (op : PairOp) : (pairStep cfg e op).shell.execSubmissions = e.shell.execSubmissions := by
  cases op with
  | start => rfl
  | stop => exact (quiet_notifyDisconnected (e := e.mapPairing _) h).2
  | unpair => rfl
  | rx buf len =>
    by_cases hreq : cfg.shellRelay = true ∧ 0 < len ∧ buf.getD 0 0 = esbPktShellReq
    · rw [pairStep, pairingOnRx_shellReq hreq.1 hreq.2.1 hreq.2.2]
      exact (shellActive_onReq e.shell).2
    · rcases pairingOnRx_session h hreq with hkept | hquiet
      · exact hkept.2.2 hidle
      · exact hquiet.2

/-- An operation that leaves `CONNECTED` and not the session is right just
where there was none. -/
theorem verified_iff_of_left {e' : Endpoint} (hshell : e'.shell = e.shell)
    (hleft : e'.pairing.state ≠ .connected) :
    (e'.shell.shellActive = true → e'.pairing.state = .connected) ↔
      e.shell.shellActive = false := by
  rw [hshell]
  constructor
  · intro hs
    cases hactive : e.shell.shellActive with
    | false => rfl
    | true => exact absurd (hs hactive) hleft
  · intro hidle hs
    exact Bool.noConfusion (hidle.symm.trans hs)

/-- **What an operation does to a verified session.** -/
theorem sessionVerified_step_iff (hoff : RelayOff cfg s.e) (h : SessionVerified s) (op : PairOp) :
    SessionVerified (sessionStep cfg s op) ↔ SessionGated cfg s.e op := by
  have hstrays : (sessionStep cfg s op).strays = 0 := by
    simp only [sessionStep]
    split
    · exact h.2
    · rename_i hstate
      have hidle : s.e.shell.shellActive = false := by
        cases hactive : s.e.shell.shellActive with
        | false => rfl
        | true => exact absurd (h.1 hactive) hstate
      rw [execSubmissions_pairStep hoff hidle, Nat.sub_self, Nat.add_zero]
      exact h.2
  rw [SessionVerified, and_iff_left hstrays]
  -- what is left is the session and the state behind the operation
  cases op with
  | start =>
    have hleft : (pairingStart cfg s.e).pairing.state ≠ .connected := by
      simp only [pairingStart, Endpoint.mapPairing_pairing]
      split <;> simp
    exact verified_iff_of_left rfl hleft
  | stop =>
    refine iff_of_true (fun hs => ?_) trivial
    exact Bool.noConfusion
      ((quiet_notifyDisconnected (e := s.e.mapPairing _) hoff).1.symm.trans hs)
  | unpair =>
    have hleft : (pairingUnpair cfg s.e).pairing.state ≠ .connected := by
      simp only [pairingUnpair, Endpoint.mapPairing_pairing]
      split
      · simp
      · rename_i hstate
        rw [bne_iff_ne, not_not] at hstate
        rw [hstate]
        simp
    exact verified_iff_of_left rfl hleft
  | rx buf len =>
    by_cases hreq : cfg.shellRelay = true ∧ 0 < len ∧ buf.getD 0 0 = esbPktShellReq
    · have hstep : (sessionStep cfg s (.rx buf len)).e = s.e.mapShell (esbShellRelayOnReq cfg) :=
        pairingOnRx_shellReq hreq.1 hreq.2.1 hreq.2.2
      rw [hstep]
      exact ⟨fun hs _ _ _ => hs (shellActive_onReq s.e.shell).1,
        fun hs _ => hs hreq.1 hreq.2.1 hreq.2.2⟩
    · refine iff_of_true (fun hs => ?_) fun h1 h2 h3 => absurd ⟨h1, h2, h3⟩ hreq
      rcases pairingOnRx_session hoff hreq with hkept | hquiet
      · exact hkept.1.trans (h.1 (hkept.2.1.symm.trans hs))
      · exact Bool.noConfusion (hquiet.1.symm.trans hs)

/-- **Only a verified dongle opens or drives a session, exactly when every
`SHELL_REQ` comes from one and no session is open at `pairing_unpair` and
`pairing_start`.** -/
theorem sessionVerified_iff (cfg : Config) (deviceId : List UInt8) (saved : Option PairedRec)
    (ops : List PairOp) :
    Throughout (sessionStep cfg) SessionVerified { e := Endpoint.init cfg deviceId saved } ops ↔
      Guarded (sessionStep cfg) (fun s => SessionGated cfg s.e)
        { e := Endpoint.init cfg deviceId saved } ops :=
  throughout_iff_guarded (I := fun s => RelayOff cfg s.e) (D := fun _ _ => True)
    (fun _ op hoff _ => hoff.step op) (fun _ op hoff _ h => sessionVerified_step_iff hoff h op)
    (fun _ => rfl) ⟨fun hs => Bool.noConfusion hs, rfl⟩ (Guarded.of_forall fun _ _ => trivial)

/-- A `SHELL_REQ` opens a session before any dongle is paired. -/
theorem not_sessionVerified : ¬ ∀ (cfg : Config) (deviceId : List UInt8)
    (saved : Option PairedRec) (ops : List PairOp),
    Throughout (sessionStep cfg) SessionVerified { e := Endpoint.init cfg deviceId saved } ops := by
  intro h
  have hrun := h .withShell [] none [.start, .rx [esbPktShellReq] 1]
  exact absurd (hrun.2.2.1 (by decide +kernel)) (by decide +kernel)

end EsbEndpoint
