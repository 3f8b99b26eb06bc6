import EsbEndpoint.Hop.Reach
import EsbEndpoint.Hop.Tuned

/-!
# The hop manager on its own

The manager as its header shows it: entry points and work functions, each
run to its end, called in any order and at any time, with a rest of the
endpoint that may do anything between two calls but tune the radio. A run
keeps the events that the manager's statics are meant to remember, latest
first.
-/

namespace EsbEndpoint

variable (cfg : Config)

/-- The statics of `src/esb/channel_hop_ep.c` before `channel_hop_ep_init`:
the target has no initialiser. -/
def HopEp.statics : HopEp := { coopHopTarget := 0 }

/-- The cooperative part of `channel_hop_ep_init`. -/
def coopHopInit (h : HopEp) : HopEp :=
  { h with
    coopHopState := .idle
    coopHopTarget := channelHopInvalid
    coopHopSeq := 0
    lastTxWasOffer := false
    coopHopCooldownUntil := 0
    coopHopOfferWork := none
    coopHopCommitWork := none }

/-- `channel_hop_ep_init`. A work item that is initialised anew is not
scheduled. -/
def channelHopEpInit (h : HopEp) : HopEp :=
  if !cfg.channelHop then h
  else
    let h :=
      { h with
        quarantine := quarantineReset
        committedNext := channelHopInvalid
        committedSynced := false
        prevChannel := channelHopInvalid
        active := false
        postHopBurstRemaining := 0
        hopCooldownUntil := 0
        lastLinkEventMs := 0
        rendezvousFallbackPending := if cfg.rendezvous then false else h.rendezvousFallbackPending
        requestBurstRemaining := 0
        negotiateWork := none
        idleCheckWork := none
        postHopBurstWork := none
        hopRetryWork := none
        hopWork := false }
    if cfg.coopHop then coopHopInit h else h

inductive ManagerOp
  | init
  | call (entry : HopCall)
  -- the work functions
  | negotiate
  | idleCheck
  /-- with the radio event its side-trip is ended by, if any -/
  | postHopBurst (ended : Option TxOutcome)
  | hop
  | hopRetry
  | offer
  | commit
  /-- the rest of the endpoint moves -/
  | world (rest : Endpoint)

/-- `post_hop_burst_work_fn` with its side-trip. -/
def postHopBurstRun (e : Endpoint) (ended : Option TxOutcome) : Endpoint :=
  let (e, waiting) := postHopBurstWorkFn cfg e
  if waiting then
    postHopBurstResume cfg (match ended with
      | none => e
      | some outcome => txDone cfg e outcome)
  else e

/-- The rest of the endpoint as `rest` has it. -/
def movedTo (e rest : Endpoint) : Endpoint :=
  { rest with
    hop := e.hop
    tp := { rest.tp with channel := e.tp.channel, bootChannel := e.tp.bootChannel } }

def managerStep (e : Endpoint) : ManagerOp → Endpoint
  | .init => e.mapHop (channelHopEpInit cfg)
  | .call entry => e.mapHop fun h => entry.apply cfg e.now h
  | .negotiate => negotiateWorkFn cfg (e.mapHop fun h => { h with negotiateWork := none })
  | .idleCheck => idleCheckWorkFn cfg (e.mapHop fun h => { h with idleCheckWork := none })
  | .postHopBurst ended =>
    postHopBurstRun cfg (e.mapHop fun h => { h with postHopBurstWork := none }) ended
  | .hop => hopWorkFn cfg (e.mapHop fun h => { h with hopWork := false })
  | .hopRetry => hopRetryWorkFn (e.mapHop fun h => { h with hopRetryWork := none })
  | .offer => coopHopOfferWorkFn cfg (e.mapHop fun h => { h with coopHopOfferWork := none })
  | .commit => coopHopCommitWorkFn cfg (e.mapHop fun h => { h with coopHopCommitWork := none })
  | .world rest => movedTo e rest

/-! ## Events -/

inductive ManagerEvent
  /-- a `CONFIRM` is taken -/
  | confirmed
  /-- a `REQUEST` comes in -/
  | requested (linkUp : Bool)
  | disconnected
  /-- a `TX_SUCCESS` is handled, outside a side-trip -/
  | acked
  /-- `hop_work_fn` commits a hop -/
  | hopped (kind : HopKind) (prev next : UInt8)
  /-- `coop_hop_commit_work_fn` commits one -/
  | coopHopped (prev next : UInt8)
  deriving DecidableEq

/-- A channel change. -/
def ManagerEvent.hops : ManagerEvent → Bool
  | .hopped _ _ _ | .coopHopped _ _ => true
  | _ => false

/-- The kind of a hop of `hop_work_fn`. -/
def ManagerEvent.kind? : ManagerEvent → Option HopKind
  | .hopped kind _ _ => some kind
  | _ => none

/-- `channel_hop_ep_on_rx` takes the packet as a `CONFIRM`. -/
def takesConfirm (buf : List UInt8) (len : Nat) : Bool :=
  cfg.channelHop && 3 ≤ len && buf.getD 0 0 == esbPktChannelHopConfirm &&
    (buf.getD 1 0).toNat < channelHopChannelCount

/-- What a call is to be remembered for. -/
def HopCall.event (h : HopEp) : HopCall → Option ManagerEvent
  | .onRx buf len => if takesConfirm cfg buf len then some .confirmed else none
  | .onRequest => some (.requested h.linkUp)
  | .onDisconnected => some .disconnected
  | .onTxSuccessIsr => some .acked
  | _ => none

/-- And a step. Without the manager its entry points are empty. -/
def managerEvent (e : Endpoint) : ManagerOp → Option ManagerEvent
  | .call entry => if cfg.channelHop then entry.event cfg e.hop else none
  | .hop =>
    let next := (managerStep cfg e .hop).tp.channel
    if next = e.tp.channel then none else some (.hopped (hopKind cfg e) e.tp.channel next)
  | .commit =>
    let next := (managerStep cfg e .commit).tp.channel
    if next = e.tp.channel then none else some (.coopHopped e.tp.channel next)
  | _ => none

/-- A run, with its events, latest first. -/
structure ManagerRun where
  e : Endpoint
  events : List ManagerEvent := []

def managerRunStep (s : ManagerRun) (op : ManagerOp) : ManagerRun where
  e := managerStep cfg s.e op
  events := (managerEvent cfg s.e op).toList ++ s.events

/-- The endpoint in its first slot, before `channel_hop_ep_init`. -/
def Endpoint.booted : Endpoint := (Endpoint.start cfg [] none).mapHop fun _ => .statics

variable {cfg} {e : Endpoint} {s : ManagerRun}

/-! ## What a step leaves -/

/-- While it waits, a side-trip takes the events for itself. -/
theorem syncing_of_waiting (hwaits : (postHopBurstWorkFn cfg e).2 = true) :
    syncing cfg (postHopBurstWorkFn cfg e).1 = true := by
  have hbegin : ∀ (e' : Endpoint) channel pipe data,
      (sendBlockingBegin cfg e' channel pipe data).2 = none →
        (sendBlockingBegin cfg e' channel pipe data).1.tp.syncTxInProgress = true := by
    intro e' channel pipe data
    simp only [sendBlockingBegin]
    split
    · exact fun h => absurd h (by simp)
    · split
      · exact fun h => absurd h (by simp)
      · split
        · exact fun h => absurd h (by simp)
        · split
          · exact fun h => absurd h (by simp)
          · split
            · exact fun h => absurd h (by simp)
            · exact fun _ => rfl
  have htick : ∀ (e' : Endpoint) candidate, (postHopBurstTick cfg e' candidate).2 = true →
      syncing cfg (postHopBurstTick cfg e' candidate).1 = true := by
    intro e' candidate
    have hsync := hbegin e' e'.tp.bootChannel esbPipeData
      [esbPktChannelHopProposal, e'.tp.channel, e'.tp.channel]
    unfold postHopBurstTick
    split
    · rename_i hrdv
      rw [Bool.and_eq_true] at hrdv
      split
      · rename_i heq
        rw [heq] at hsync
        intro _
        rw [syncing, hrdv.1, Bool.true_and]
        exact hsync rfl
      · exact fun h => Bool.noConfusion h
    · split <;> exact fun h => Bool.noConfusion h
  unfold postHopBurstWorkFn at hwaits ⊢
  split at hwaits
  · exact Bool.noConfusion hwaits
  · rename_i hburst
    rw [if_neg hburst]
    exact htick _ _ hwaits

/-- So the manager does not see them. -/
theorem hop_txDone_of_syncing (hsync : syncing cfg e = true) (outcome : TxOutcome) :
    (txDone cfg e outcome).hop = e.hop := by
  have hdone := @onTxDone_txDone cfg e outcome
  generalize (txDone cfg e outcome).hop = h' at hdone ⊢
  cases hdone with
  | kept hkept => rfl
  | acked hend hout hoff => exact Bool.noConfusion (hsync.symm.trans hoff)
  | degraded hend hout hoff => exact Bool.noConfusion (hsync.symm.trans hoff)
  | failed hend hout hoff => exact Bool.noConfusion (hsync.symm.trans hoff)

/-- **A step tunes the radio in a hop or a commit only.** -/
theorem channel_managerStep {op : ManagerOp} (hhop : op ≠ .hop) (hcommit : op ≠ .commit) :
    (managerStep cfg e op).tp.channel = e.tp.channel := by
  have hburst : ∀ (e' : Endpoint) ended, (postHopBurstRun cfg e' ended).tuned = e'.tuned := by
    intro e' ended
    unfold postHopBurstRun
    dsimp only
    split
    · rw [tuned_postHopBurstResume]
      cases ended with
      | none => exact tuned_postHopBurstWorkFn
      | some outcome => exact (tuned_txDone outcome).trans tuned_postHopBurstWorkFn
    · exact tuned_postHopBurstWorkFn
  cases op with
  | negotiate => exact congrArg Prod.fst tuned_negotiateWorkFn
  | idleCheck => exact congrArg Prod.fst tuned_idleCheckWorkFn
  | postHopBurst ended => exact congrArg Prod.fst (hburst _ ended)
  | hop => exact absurd rfl hhop
  | offer => exact congrArg Prod.fst tuned_coopHopOfferWorkFn
  | commit => exact absurd rfl hcommit
  | _ => rfl

/-- Without the manager its entry points do nothing. -/
theorem apply_of_channelHop_eq_false {now : UInt32} {h : HopEp} (hhop : cfg.channelHop = false)
    (entry : HopCall) : entry.apply cfg now h = h := by
  have hcoop : cfg.coopHop = false := by
    cases hcoop : cfg.coopHop with
    | false => rfl
    | true => exact absurd ((cfg.coopHop_dep hcoop).symm.trans hhop) (by simp)
  cases entry <;>
    simp only [HopCall.apply, channelHopEpOnConnected, channelHopEpOnDisconnected,
      channelHopEpNoteUserTx, channelHopEpOnTxFailIsr, channelHopEpOnTxSuccessIsr,
      channelHopEpOnLinkDegradedIsr, channelHopEpOnRx, channelHopEpOnRequest, hhop, hcoop,
      Bool.not_false, if_true]

/-- A burst's tick, with its side-trip, stays within the burst. -/
theorem hop_postHopBurstRun (ended : Option TxOutcome) :
    ∃ prngState pendingCandidate postHopBurstRemaining postHopBurstWork,
      (postHopBurstRun cfg e ended).hop =
        { e.hop with
          prngState, pendingCandidate, postHopBurstRemaining, postHopBurstWork } := by
  obtain ⟨_, _, _, _, hwork⟩ := @hop_postHopBurstWorkFn cfg e
  have hresumed : ∀ e' : Endpoint, e'.hop = (postHopBurstWorkFn cfg e).1.hop →
      ∃ prngState pendingCandidate postHopBurstRemaining postHopBurstWork,
        (postHopBurstResume cfg e').hop =
          { e.hop with
            prngState, pendingCandidate, postHopBurstRemaining, postHopBurstWork } := by
    intro e' hsame
    obtain ⟨_, _, hresume⟩ := @hop_postHopBurstResume cfg e'
    rw [hsame, hwork] at hresume
    exact ⟨_, _, _, _, hresume⟩
  unfold postHopBurstRun
  dsimp only
  split
  · rename_i hwaits
    have hsync := syncing_of_waiting hwaits
    cases ended with
    | none => exact hresumed _ rfl
    | some outcome => exact hresumed _ (hop_txDone_of_syncing hsync outcome)
  · exact ⟨_, _, _, _, hwork⟩

/-- `idle_check_work_fn` goes idle, or leaves the statics. -/
theorem hop_idleCheckWorkFn :
    (e.hop.linkUp = false ∨ e.hop.active = false) ∧ (idleCheckWorkFn cfg e).hop = e.hop ∨
      e.hop.active = true ∧ (idleCheckWorkFn cfg e).hop = enterIdleBegin cfg e.hop := by
  unfold idleCheckWorkFn
  split
  · rename_i hoff
    rw [Bool.or_eq_true, Bool.not_eq_true', Bool.not_eq_true'] at hoff
    exact Or.inl ⟨hoff, rfl⟩
  · rename_i hon
    rw [Bool.or_eq_true, not_or, Bool.not_eq_true', Bool.not_eq_true', Bool.not_eq_false,
      Bool.not_eq_false] at hon
    rw [enterIdleState, hon.2, Bool.not_true, if_neg Bool.false_ne_true, hop_sendIdlePacket]
    exact Or.inr ⟨rfl, rfl⟩

/-- An offer moves the handshake alone. -/
theorem hop_coopHopOfferWorkFn : ∃ prngState coopHopState coopHopTarget coopHopSeq lastTxWasOffer,
    (coopHopOfferWorkFn cfg e).hop =
      { e.hop with
        prngState, coopHopState, coopHopTarget, coopHopSeq, lastTxWasOffer } := by
  have hpick : ∃ prngState, (coopHopPickTarget cfg e).1.hop = { e.hop with prngState } := by
    unfold coopHopPickTarget
    split <;> exact ⟨_, rfl⟩
  have hbegin : (∃ prngState coopHopState coopHopTarget coopHopSeq lastTxWasOffer,
      (coopHopOfferBegin cfg e).1.hop =
        { e.hop with
          prngState, coopHopState, coopHopTarget, coopHopSeq, lastTxWasOffer }) ∧
      ∀ pkt, (coopHopOfferBegin cfg e).2 = some pkt → isUserTraffic pkt = false := by
    obtain ⟨prngState, hpick⟩ := hpick
    unfold coopHopOfferBegin
    split
    · exact ⟨⟨_, _, _, _, _, rfl⟩, fun _ h => absurd h (by simp)⟩
    · split
      · exact ⟨⟨_, _, _, _, _, rfl⟩, fun _ h => absurd h (by simp)⟩
      · dsimp only
        split
        · rw [Endpoint.mapHop_hop, hpick]
          exact ⟨⟨_, _, _, _, _, rfl⟩, fun _ h => absurd h (by simp)⟩
        · rw [Endpoint.mapHop_hop, hpick]
          refine ⟨⟨_, _, _, _, _, rfl⟩, fun pkt hpkt => ?_⟩
          obtain rfl := Option.some.inj hpkt
          rfl
  unfold coopHopOfferWorkFn
  split
  · rename_i heq
    rw [heq] at hbegin
    exact hbegin.1
  · rename_i e' pkt heq
    rw [heq] at hbegin
    obtain ⟨⟨_, _, _, _, _, hbegun⟩, hown⟩ := hbegin
    have hsent := hop_send_of_own cfg e' esbPipeData pkt (hown pkt rfl)
    have hbegun' : e'.hop = _ := hbegun
    unfold coopHopOfferSend
    split
    · rename_i hsend
      rw [hsend, hbegun'] at hsent
      exact ⟨_, _, _, _, _, hsent⟩
    · rename_i e'' err hsend
      rw [hsend, hbegun'] at hsent
      have hsent' : e''.hop = _ := hsent
      rw [Endpoint.mapHop_hop, hsent']
      exact ⟨_, _, _, _, _, rfl⟩

end EsbEndpoint
