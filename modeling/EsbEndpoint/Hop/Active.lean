import EsbEndpoint.Hop.Reach

/-!
# Hopping while active

The endpoint is meant to hop only on a link that is up and in use. The
test is made where a hop is asked for, not where it is made: between the
two the endpoint may go idle or the link down, and neither takes a queued
hop off its queue. `Awake` is the invariant that holds as long as no hop
is left behind that way.
-/

namespace EsbEndpoint

variable (cfg : Config)

/-- **A channel change finds the link up and active.** -/
def HopsWhileActive (s : HopTrace) (op : EpOp) : Prop :=
  op = .step .hop ∨ op = .step .commit → (epStep cfg s op).e.tp.channel ≠ s.e.tp.channel →
    s.e.hop.linkUp = true ∧ s.e.hop.active = true

instance (s : HopTrace) (op : EpOp) : Decidable (HopsWhileActive cfg s op) :=
  inferInstanceAs (Decidable (_ → _ → _))

/-- The condition on a step: no hop is queued, and on going idle none is
to be retried, when the endpoint stops being active. A disconnect cancels
the retry itself. -/
def NoHopLeftBehind (s : HopTrace) (op : EpOp) : Prop :=
  (op = .step .idleCheck → entersIdle s .idleCheck = true →
      s.e.hop.hopWork = false ∧ s.e.hop.hopRetryWork = none) ∧
    (epDisconnects cfg s op = true → s.e.hop.hopWork = false)

instance (s : HopTrace) (op : EpOp) : Decidable (NoHopLeftBehind cfg s op) :=
  inferInstanceAs (Decidable ((_ → _ → _) ∧ (_ → _)))

/-- Whatever may end in a channel change belongs to an active link. -/
structure Awake (h : HopEp) : Prop where
  linked : h.active = true → h.linkUp = true
  coop : h.coopHopState ≠ .idle → cfg.coopHop = true
  offering : h.coopHopState ≠ .idle → h.active = true
  queued : h.hopWork = true → h.active = true
  retrying : h.hopRetryWork.isSome = true → h.active = true

variable {cfg} {s : HopTrace} {h h' : HopEp} {now : UInt32}

/-! ## The entry points -/

theorem Awake.onTxFail (ha : Awake cfg h) (hfail : OnTxFail cfg now h h') : Awake cfg h' := by
  cases hfail with
  | noted tag state hstate =>
    rcases hstate with rfl | rfl
    · exact ⟨ha.linked, ha.coop, ha.offering, ha.queued, ha.retrying⟩
    · exact ⟨ha.linked, fun hne => absurd rfl hne, fun hne => absurd rfl hne, ha.queued,
        ha.retrying⟩
  | asked tag hactive hcool =>
    exact ⟨ha.linked, ha.coop, ha.offering, fun _ => hactive, ha.retrying⟩
  | fellBack tag hactive hrdv =>
    exact ⟨ha.linked, ha.coop, ha.offering, fun _ => hactive, ha.retrying⟩

theorem Awake.onTxSuccess (ha : Awake cfg h) :
    Awake cfg (channelHopEpOnTxSuccessIsr cfg now h) := by
  rcases @onTxSuccessIsr_cases cfg now h with hs | ⟨tag, state, work, hstate, hs⟩
  · rw [hs]
    exact ha
  · have hopen : state ≠ .idle → h.coopHopState ≠ .idle := by
      rcases hstate with rfl | ⟨hoffered, -⟩
      · exact id
      · intro _ hidle
        exact absurd (hoffered.symm.trans hidle) (by simp)
    rw [hs]
    exact ⟨ha.linked, fun hne => ha.coop (hopen hne), fun hne => ha.offering (hopen hne), ha.queued,
      ha.retrying⟩

theorem Awake.onLinkDegraded (ha : Awake cfg h) :
    Awake cfg (channelHopEpOnLinkDegradedIsr cfg now h) := by
  rcases @onLinkDegradedIsr_cases cfg now h with hs | ⟨hcoop, hlink, hactive, -, hs⟩
  · rw [hs]
    exact ha
  · rw [hs]
    exact ⟨ha.linked, fun _ => hcoop, fun _ => hactive, ha.queued, ha.retrying⟩

theorem Awake.noteUserTx (ha : Awake cfg h) : Awake cfg (channelHopEpNoteUserTx cfg h) := by
  rcases @noteUserTx_cases cfg h with hs | ⟨hlink, work, hs⟩
  · rw [hs]
    exact ha
  · rw [hs]
    exact ⟨fun _ => hlink, ha.coop, fun _ => rfl, fun _ => rfl, fun _ => rfl⟩

theorem Awake.onConnected (ha : Awake cfg h) : Awake cfg (channelHopEpOnConnected cfg h) := by
  cases hhop : cfg.channelHop with
  | false =>
    unfold channelHopEpOnConnected
    rw [hhop, Bool.not_false, if_pos rfl]
    exact ha
  | true =>
    obtain ⟨work, hs⟩ := @onConnected_cases cfg h hhop
    rw [hs]
    exact ⟨fun _ => rfl, ha.coop, fun _ => rfl, fun _ => rfl, fun _ => rfl⟩

theorem Awake.onAnswer (ha : Awake cfg h) (buf : List UInt8) (len : Nat) :
    Awake cfg (channelHopEpOnRx cfg h buf len) := by
  obtain ⟨_, _, _, _, _, hs⟩ := @onRx_cases cfg h buf len
  rw [hs]
  exact ⟨ha.linked, ha.coop, ha.offering, ha.queued, ha.retrying⟩

theorem Awake.onRequest (ha : Awake cfg h) : Awake cfg (channelHopEpOnRequest cfg now h) := by
  rcases @onRequest_cases cfg now h with hs | ⟨-, burst, synced, work, hs⟩
  · rw [hs]
    exact ha
  · have hasked : Awake cfg
        { h with
          requestBurstRemaining := burst, committedSynced := synced, negotiateWork := work } :=
      ⟨ha.linked, ha.coop, ha.offering, ha.queued, ha.retrying⟩
    rw [hs]
    exact hasked.onTxFail onTxFail_onTxFailIsr

/-- A disconnect leaves only a queued hop behind. -/
theorem Awake.onDisconnected (ha : Awake cfg h)
    (hqueued : cfg.channelHop = true → h.hopWork = false) :
    Awake cfg (channelHopEpOnDisconnected cfg h) := by
  unfold channelHopEpOnDisconnected
  split
  · exact ha
  · rename_i hhop
    rw [Bool.not_eq_true', Bool.not_eq_false] at hhop
    have hclear : h.hopWork = true → false = true := fun hq => (hqueued hhop).symm.trans hq
    simp only []
    split
    · exact ⟨fun hf => Bool.noConfusion hf, fun hne => absurd rfl hne, fun hne => absurd rfl hne,
        hclear, fun hf => Bool.noConfusion hf⟩
    · rename_i hcoop
      exact ⟨fun hf => Bool.noConfusion hf, ha.coop, fun hne => absurd (ha.coop hne) hcoop, hclear,
        fun hf => Bool.noConfusion hf⟩

/-- And so does going idle, which leaves a retry behind as well. -/
theorem Awake.enterIdle (ha : Awake cfg h) (hqueued : h.hopWork = false)
    (hretry : h.hopRetryWork = none) : Awake cfg (enterIdleBegin cfg h) := by
  have hclear : h.hopWork = true → false = true := fun hq => hqueued.symm.trans hq
  have hnone : h.hopRetryWork.isSome = true → false = true := by
    intro hsome
    rw [hretry] at hsome
    exact hsome
  unfold enterIdleBegin
  simp only []
  split
  · exact ⟨fun hf => Bool.noConfusion hf, fun hne => absurd rfl hne, fun hne => absurd rfl hne,
      hclear, hnone⟩
  · rename_i hcoop
    exact ⟨fun hf => Bool.noConfusion hf, ha.coop, fun hne => absurd (ha.coop hne) hcoop, hclear,
      hnone⟩

/-! ## Steps and runs -/

theorem Awake.onTxDone {outcome : TxOutcome} (ha : Awake cfg s.e.hop)
    (hdone : OnTxDone cfg s.e outcome h') : Awake cfg h' :=
  hdone.keeps (fun _ ha => ha.onTxSuccess) (fun _ ha => ha.onLinkDegraded)
    (fun _ ha => ha.onTxFail onTxFail_onTxFailIsr) ha

theorem Awake.onRx {buf : List UInt8} {len : Nat} {p' : Pairing} (ha : Awake cfg s.e.hop)
    (hfree : s.workq = .free) (hrx : OnRx cfg s.e buf len p' h')
    (hleft : disconnects cfg s (.rx buf len) = true → s.e.hop.hopWork = false) :
    Awake cfg h' :=
  hrx.keeps hfree ha ha.noteUserTx (fun _ => ha.onConnected)
    (fun hdis => ha.onDisconnected fun hhop => hleft (hdis hhop)) (ha.onAnswer buf len)
    ha.onRequest

/-- A hop was queued by an active endpoint, so it may be retried. -/
theorem Awake.hopWork {e : Endpoint} {channel : UInt8} (ha : Awake cfg e.hop)
    (hdue : e.hop.hopWork = true)
    (hhop : HopWork cfg (e.mapHop fun h => { h with hopWork := false }) h' channel) :
    Awake cfg h' := by
  have hactive := ha.queued hdue
  have hdone : ∀ h₁ : HopEp, h₁.active = e.hop.active → h₁.linkUp = e.hop.linkUp →
      h₁.coopHopState = e.hop.coopHopState → Awake cfg h₁ := by
    intro h₁ hactive' hlink' hstate'
    exact ⟨fun _ => hlink'.trans (ha.linked hactive), hstate' ▸ ha.coop,
      fun _ => hactive'.trans hactive, fun _ => hactive'.trans hactive,
      fun _ => hactive'.trans hactive⟩
  cases hhop with
  | stayed pending prng hchoice => exact hdone _ rfl rfl rfl
  | refused pending prng hchoice hno => exact hdone _ rfl rfl rfl
  | hopped pending prng quarantine prev remaining candidate burstWork hchoice hyes =>
    exact hdone _ rfl rfl rfl

/-- And so was an armed handshake. -/
theorem Awake.commitWork {e : Endpoint} {channel : UInt8} (ha : Awake cfg e.hop)
    (hcommit : CommitWork cfg (e.mapHop fun h => { h with coopHopCommitWork := none }) h' channel) :
    Awake cfg h' := by
  have hidle : CoopHopState.idle ≠ .idle → False := fun hne => hne rfl
  cases hcommit with
  | unarmed hstate => exact ⟨ha.linked, ha.coop, ha.offering, ha.queued, ha.retrying⟩
  | stayed hstate htarget =>
    exact ⟨ha.linked, fun hne => (hidle hne).elim, fun hne => (hidle hne).elim, ha.queued,
      ha.retrying⟩
  | refused hstate htarget hno =>
    have harmed : e.hop.coopHopState = .armed := hstate
    have hactive : e.hop.active = true := ha.offering (by rw [harmed]; simp)
    exact ⟨ha.linked, fun hne => (hidle hne).elim, fun hne => (hidle hne).elim, ha.queued,
      fun _ => hactive⟩
  | committed quarantine remaining candidate burstWork hstate htarget hyes =>
    exact ⟨ha.linked, fun hne => (hidle hne).elim, fun hne => (hidle hne).elim, ha.queued,
      ha.retrying⟩

/-- Whoever calls it. -/
theorem Awake.call (ha : Awake cfg h) (entry : HopCall)
    (hleft : cfg.channelHop = true → entry = .onDisconnected → h.hopWork = false) :
    Awake cfg (entry.apply cfg now h) := by
  cases entry with
  | onConnected => exact ha.onConnected
  | onDisconnected => exact ha.onDisconnected fun hhop => hleft hhop rfl
  | noteUserTx => exact ha.noteUserTx
  | onTxFailIsr => exact ha.onTxFail onTxFail_onTxFailIsr
  | onTxSuccessIsr => exact ha.onTxSuccess
  | onLinkDegradedIsr => exact ha.onLinkDegraded
  | onRx buf len => exact ha.onAnswer buf len
  | onRequest => exact ha.onRequest

/-- **Every step keeps the manager awake**, unless it leaves a hop behind. -/
theorem Awake.step (ha : Awake cfg s.e.hop) {op : HopOp}
    (hleft : NoHopLeftBehind cfg s (.step op)) : Awake cfg (hopStep cfg s op).e.hop := by
  have hmoves := @hopMoves_hopStep cfg s op
  generalize (hopStep cfg s op).e.hop = h' at hmoves ⊢
  cases hmoves with
  | kept => exact ha
  | noted pipe data => exact ha.noteUserTx
  | ended hdone => exact ha.onTxDone hdone
  | stopped => exact ha.onDisconnected fun hhop => hleft.2 hhop
  | packet hfree hrx => exact ha.onRx hfree hrx hleft.2
  | idled hidle =>
    obtain ⟨hqueued, hretry⟩ := hleft.1 rfl hidle
    have hchecked : Awake cfg { s.e.hop with idleCheckWork := none } :=
      ⟨ha.linked, ha.coop, ha.offering, ha.queued, ha.retrying⟩
    exact hchecked.enterIdle hqueued hretry
  | hop hfree hdue hwork => exact ha.hopWork hdue hwork
  | retried hdue =>
    exact ⟨ha.linked, ha.coop, ha.offering, fun _ => ha.retrying hdue,
      fun hnone => Bool.noConfusion hnone⟩
  | offerDropped prng =>
    exact ⟨ha.linked, fun hne => absurd rfl hne, fun hne => absurd rfl hne, ha.queued, ha.retrying⟩
  | offerSent => exact ha.noteUserTx
  | @offerWithdrawn h₁ hsent =>
    have hnoted : Awake cfg h₁ := by
      rcases hsent with rfl | rfl
      · exact ha
      · exact ha.noteUserTx
    exact ⟨hnoted.linked, fun hne => absurd rfl hne, fun hne => absurd rfl hne, hnoted.queued,
      hnoted.retrying⟩
  | commit hfree hdue hwork => exact ha.commitWork hwork
  | _ => exact ⟨ha.linked, ha.coop, ha.offering, ha.queued, ha.retrying⟩

theorem Awake.stepOrCall (ha : Awake cfg s.e.hop) {op : EpOp} (hleft : NoHopLeftBehind cfg s op) :
    Awake cfg (epStep cfg s op).e.hop := by
  cases op with
  | step op => exact ha.step hleft
  | call entry =>
    refine ha.call entry fun hhop hentry => hleft.2 ?_
    rw [epDisconnects, hhop, hentry]
    rfl

/-- **An awake manager hops while active.** -/
theorem Awake.hopsWhileActive (ha : Awake cfg s.e.hop) (op : EpOp) : HopsWhileActive cfg s op := by
  rintro (rfl | rfl) hchanged
  · have hdue : s.e.hop.hopWork = true := by
      by_contra hnot
      refine hchanged ?_
      rw [epStep, hopStep, HopTrace.fire, if_neg fun hrun => hnot hrun.2]
    exact ⟨ha.linked (ha.queued hdue), ha.queued hdue⟩
  · have harmed : s.e.hop.coopHopState = .armed := by
      rw [epStep, channel_commit] at hchanged
      split at hchanged
      · rename_i hcommits
        simp only [commitsHop, Bool.and_eq_true, beq_iff_eq] at hcommits
        exact hcommits.1.1.2
      · exact absurd rfl hchanged
    have hactive := ha.offering (by rw [harmed]; simp)
    exact ⟨ha.linked hactive, hactive⟩

theorem awake_start (cfg : Config) (deviceId : List UInt8) (saved : Option PairedRec) :
    Awake cfg (HopTrace.start cfg deviceId saved).e.hop := by
  rw [hop_start]
  exact ⟨fun hf => Bool.noConfusion hf, fun hne => absurd rfl hne, fun hne => absurd rfl hne,
    fun hf => Bool.noConfusion hf, fun hf => Bool.noConfusion hf⟩

/-- **The endpoint hops only while active, in every run that leaves no hop
behind** when it goes idle or its link goes down. -/
theorem hopsWhileActive_of_noHopLeftBehind (cfg : Config) (deviceId : List UInt8)
    (saved : Option PairedRec) (ops : List EpOp)
    (h : Guarded (epStep cfg) (NoHopLeftBehind cfg) (HopTrace.start cfg deviceId saved) ops) :
    Guarded (epStep cfg) (HopsWhileActive cfg) (HopTrace.start cfg deviceId saved) ops :=
  h.of_invariant (I := fun s => Awake cfg s.e.hop) (fun _ _ ha hleft => ha.stepOrCall hleft)
    (fun _ op ha _ => ha.hopsWhileActive op) (awake_start cfg deviceId saved)

/-- A hop the dongle requests, made before the endpoint goes idle. -/
theorem hopsWhileActive_request :
    Guarded (epStep .default) (HopsWhileActive .default) (HopTrace.start .default [] none)
      [.step .pairingStart, .step (.rx [esbPktPairReq, 1, 2, 3, 4, 5, 6] 7),
        .step (.txDone (.acked 0 [])), .step (.rx [esbPktChannelHopRequest] 1), .step .hop,
        .step .idleCheck] :=
  hopsWhileActive_of_noHopLeftBehind .default [] none _ (by decide +kernel)

/-- Requested before `pairing_stop` and made after it. -/
theorem not_hopsWhileActive : ¬ ∀ (cfg : Config) (deviceId : List UInt8)
    (saved : Option PairedRec) (ops : List EpOp),
    Guarded (epStep cfg) (HopsWhileActive cfg) (HopTrace.start cfg deviceId saved) ops := by
  intro h
  have hrun := h .default [] none
    [.step .pairingStart, .step (.rx [esbPktPairReq, 1, 2, 3, 4, 5, 6] 7),
      .step (.txDone (.acked 0 [])), .step (.rx [esbPktChannelHopRequest] 1), .step .pairingStop,
      .step .hop]
  exact absurd hrun (by decide +kernel)

end EsbEndpoint
