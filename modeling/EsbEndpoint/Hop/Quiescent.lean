import EsbEndpoint.Hop.Reach

/-!
# A link that is down

`channel_hop_ep_on_disconnected` clears what was agreed on, ends both
bursts and cancels the manager's delayable work. Until the link is up
again nothing should start any of it anew (`Quiescent`). Three things do:
a `CONFIRM`, which is settled on a link that is down; a hop queued before
the disconnect; and the end of a burst's side-trip that the disconnect
found under way (`LeavesQuiet`).
-/

namespace EsbEndpoint

variable (cfg : Config)

/-! ## Runs -/

/-- A run, with whether it is between a disconnect and the connection
after it. -/
structure DownTrace where
  s : HopTrace
  down : Bool := false

def downStep (t : DownTrace) (op : EpOp) : DownTrace where
  s := epStep cfg t.s op
  down := epDisconnects cfg t.s op || (t.down && !epConnects cfg t.s op)

/-- Nothing is agreed on, under way or armed. -/
structure Quiescent (h : HopEp) : Prop where
  committedNext : h.committedNext = channelHopInvalid
  committedSynced : h.committedSynced = false
  postHopBurst : h.postHopBurstRemaining = 0
  requestBurst : h.requestBurstRemaining = 0
  hopRetryWork : h.hopRetryWork = none
  postHopBurstWork : h.postHopBurstWork = none
  negotiateWork : h.negotiateWork = none

/-- **A link that is down is quiescent.** -/
def QuiescentWhileDown (t : DownTrace) : Prop := t.down = true → Quiescent t.s.e.hop

/-- A `CONFIRM` that `channel_hop_ep_on_rx` takes. -/
def settles (buf : List UInt8) (len : Nat) : Bool :=
  buf.getD 0 0 == esbPktChannelHopConfirm && 3 ≤ len &&
    (buf.getD 1 0).toNat < channelHopChannelCount

/-- The condition on a step of a link that is down: no `CONFIRM` is
taken, a hop left in the queue finds no channel to go to, and no side-trip
ends. -/
def LeavesQuiet (t : DownTrace) (op : EpOp) : Prop :=
  t.down = true →
    match op with
    | .step (.rx buf len) => t.s.workq = .free → settles buf len = false
    | .step .hop =>
      t.s.workq = .free → t.s.e.hop.hopWork = true →
        hopChoice cfg (t.s.e.mapHop fun h => { h with hopWork := false }) = none
    | .step .sideTripEnd => t.s.workq ≠ .sideTrip
    | .call (.onRx buf len) => settles buf len = false
    | _ => True

/-- What is so in every run: the link of a run that is down is down, and
without cooperation there is no handshake. -/
structure Parked (down : Bool) (h : HopEp) : Prop where
  coop : h.coopHopState ≠ .idle → cfg.coopHop = true
  hop : down = true → cfg.channelHop = true
  linkUp : down = true → h.linkUp = false
  active : down = true → h.active = false
  shut : down = true → h.coopHopState = .idle

variable {cfg} {s : HopTrace} {t : DownTrace} {h h' : HopEp} {now : UInt32} {down : Bool}

/-! ## The entry points -/

section Entry

variable (hp : Parked cfg down h)
include hp

theorem Parked.onTxFail (hfail : OnTxFail cfg now h h') : Parked cfg down h' := by
  cases hfail with
  | noted tag state hstate =>
    rcases hstate with rfl | rfl
    · exact ⟨hp.coop, hp.hop, hp.linkUp, hp.active, hp.shut⟩
    · exact ⟨fun hne => absurd rfl hne, hp.hop, hp.linkUp, hp.active, fun _ => rfl⟩
  | asked tag hactive hcool => exact ⟨hp.coop, hp.hop, hp.linkUp, hp.active, hp.shut⟩
  | fellBack tag hactive hrdv => exact ⟨hp.coop, hp.hop, hp.linkUp, hp.active, hp.shut⟩

theorem Parked.onTxSuccess : Parked cfg down (channelHopEpOnTxSuccessIsr cfg now h) := by
  rcases @onTxSuccessIsr_cases cfg now h with hs | ⟨tag, state, work, hstate, hs⟩
  · rw [hs]
    exact hp
  · rw [hs]
    rcases hstate with rfl | ⟨hoffered, rfl⟩
    · exact ⟨hp.coop, hp.hop, hp.linkUp, hp.active, hp.shut⟩
    · have hopen : h.coopHopState ≠ .idle := by rw [hoffered]; simp
      exact ⟨fun _ => hp.coop hopen, hp.hop, hp.linkUp, hp.active,
        fun hdown => absurd (hp.shut hdown) hopen⟩

theorem Parked.onLinkDegraded : Parked cfg down (channelHopEpOnLinkDegradedIsr cfg now h) := by
  rcases @onLinkDegradedIsr_cases cfg now h with hs | ⟨hcoop, hlink, -, -, hs⟩
  · rw [hs]
    exact hp
  · rw [hs]
    exact ⟨fun _ => hcoop, hp.hop, hp.linkUp, hp.active,
      fun hdown => Bool.noConfusion (hlink.symm.trans (hp.linkUp hdown))⟩

theorem Parked.noteUserTx : Parked cfg down (channelHopEpNoteUserTx cfg h) := by
  rcases @noteUserTx_cases cfg h with hs | ⟨hlink, work, hs⟩
  · rw [hs]
    exact hp
  · rw [hs]
    exact ⟨hp.coop, hp.hop, hp.linkUp,
      fun hdown => Bool.noConfusion (hlink.symm.trans (hp.linkUp hdown)), hp.shut⟩

theorem Parked.onRx (buf : List UInt8) (len : Nat) :
    Parked cfg down (channelHopEpOnRx cfg h buf len) := by
  obtain ⟨_, _, _, _, _, hs⟩ := @onRx_cases cfg h buf len
  rw [hs]
  exact ⟨hp.coop, hp.hop, hp.linkUp, hp.active, hp.shut⟩

theorem Parked.onRequest : Parked cfg down (channelHopEpOnRequest cfg now h) := by
  rcases @onRequest_cases cfg now h with hs | ⟨-, burst, synced, work, hs⟩
  · rw [hs]
    exact hp
  · have hasked : Parked cfg down
        { h with
          requestBurstRemaining := burst, committedSynced := synced, negotiateWork := work } :=
      ⟨hp.coop, hp.hop, hp.linkUp, hp.active, hp.shut⟩
    rw [hs]
    exact hasked.onTxFail onTxFail_onTxFailIsr

/-- A connection ends the time the run is down. -/
theorem Parked.onConnected : Parked cfg false (channelHopEpOnConnected cfg h) := by
  cases hhop : cfg.channelHop with
  | false =>
    unfold channelHopEpOnConnected
    rw [hhop, Bool.not_false, if_pos rfl]
    exact ⟨hp.coop, fun hf => Bool.noConfusion hf, fun hf => Bool.noConfusion hf,
      fun hf => Bool.noConfusion hf, fun hf => Bool.noConfusion hf⟩
  | true =>
    obtain ⟨work, hs⟩ := @onConnected_cases cfg h hhop
    rw [hs]
    exact ⟨hp.coop, fun hf => Bool.noConfusion hf, fun hf => Bool.noConfusion hf,
      fun hf => Bool.noConfusion hf, fun hf => Bool.noConfusion hf⟩

/-- A disconnect begins it. -/
theorem Parked.onDisconnected (hhop : cfg.channelHop = true) :
    Parked cfg true (channelHopEpOnDisconnected cfg h) := by
  unfold channelHopEpOnDisconnected
  rw [hhop, Bool.not_true, if_neg Bool.false_ne_true]
  simp only []
  split
  · exact ⟨fun hne => absurd rfl hne, fun _ => hhop, fun _ => rfl, fun _ => rfl, fun _ => rfl⟩
  · rename_i hcoop
    have hidle : h.coopHopState = .idle := by
      by_contra hne
      exact hcoop (hp.coop hne)
    exact ⟨hp.coop, fun _ => hhop, fun _ => rfl, fun _ => rfl, fun _ => hidle⟩

end Entry

theorem quiescent_onDisconnected (hhop : cfg.channelHop = true) :
    Quiescent (channelHopEpOnDisconnected cfg h) := by
  unfold channelHopEpOnDisconnected
  rw [hhop, Bool.not_true, if_neg Bool.false_ne_true]
  simp only []
  split <;> exact ⟨rfl, rfl, rfl, rfl, rfl, rfl, rfl⟩

theorem Quiescent.onTxFail (hq : Quiescent h) (hfail : OnTxFail cfg now h h') : Quiescent h' := by
  cases hfail <;> exact ⟨hq.1, hq.2, hq.3, hq.4, hq.5, hq.6, hq.7⟩

theorem Quiescent.onTxSuccess (hq : Quiescent h) :
    Quiescent (channelHopEpOnTxSuccessIsr cfg now h) := by
  rcases @onTxSuccessIsr_cases cfg now h with hs | ⟨tag, state, work, hstate, hs⟩
  · rw [hs]
    exact hq
  · rw [hs]
    exact ⟨hq.1, hq.2, hq.3, hq.4, hq.5, hq.6, hq.7⟩

theorem Quiescent.onLinkDegraded (hq : Quiescent h) :
    Quiescent (channelHopEpOnLinkDegradedIsr cfg now h) := by
  rcases @onLinkDegradedIsr_cases cfg now h with hs | ⟨-, -, -, -, hs⟩
  · rw [hs]
    exact hq
  · rw [hs]
    exact ⟨hq.1, hq.2, hq.3, hq.4, hq.5, hq.6, hq.7⟩

/-- User traffic and a `REQUEST` do nothing on a link that is down. -/
theorem Quiescent.noteUserTx (hq : Quiescent h) (hlink : h.linkUp = false) :
    Quiescent (channelHopEpNoteUserTx cfg h) := by
  rcases @noteUserTx_cases cfg h with hs | ⟨hup, -⟩
  · rw [hs]
    exact hq
  · exact Bool.noConfusion (hlink.symm.trans hup)

theorem Quiescent.onRequest (hq : Quiescent h) (hlink : h.linkUp = false) :
    Quiescent (channelHopEpOnRequest cfg now h) := by
  rcases @onRequest_cases cfg now h with hs | ⟨hup, -⟩
  · rw [hs]
    exact hq
  · exact Bool.noConfusion (hlink.symm.trans hup)

/-- What is no `CONFIRM` to take moves the target of a handshake at most. -/
theorem onRx_of_not_settles {buf : List UInt8} {len : Nat} (hset : settles buf len = false) :
    ∃ coopHopTarget, channelHopEpOnRx cfg h buf len = { h with coopHopTarget } := by
  simp only [channelHopEpOnRx, onHopAccept]
  split
  · exact ⟨_, rfl⟩
  · split
    · exact ⟨_, rfl⟩
    · split
      · repeat' split
        all_goals exact ⟨_, rfl⟩
      · split
        · exact ⟨_, rfl⟩
        · rename_i hlen
          split
          · exact ⟨_, rfl⟩
          · rename_i htype
            rw [bne_iff_ne, not_not] at htype
            split
            · exact ⟨_, rfl⟩
            · rename_i hband
              -- it would be one
              have hlen' : 3 ≤ len := by omega
              have hband' : (buf.getD 1 0).toNat < channelHopChannelCount := by omega
              simp only [settles, htype, beq_self_eq_true, hlen', hband', decide_true,
                Bool.and_self, Bool.true_eq_false] at hset

theorem committedNext_onRx (hhop : cfg.channelHop = true) {buf : List UInt8} {len : Nat}
    (hset : settles buf len = true) :
    (channelHopEpOnRx cfg h buf len).committedNext ≠ channelHopInvalid := by
  simp only [settles, Bool.and_eq_true, beq_iff_eq, decide_eq_true_eq] at hset
  obtain ⟨⟨htype, hlen⟩, hband⟩ := hset
  have hother : (buf.getD 0 0 == esbPktHopAccept) = false := by rw [htype]; rfl
  have hpos : ¬ len < 1 := by omega
  have hthree : ¬ len < 3 := by omega
  have hlow : ¬ channelHopChannelCount ≤ (buf.getD 1 0).toNat := by omega
  unfold channelHopEpOnRx
  rw [hhop, Bool.not_true, if_neg Bool.false_ne_true, if_neg hpos, hother, Bool.and_false,
    if_neg Bool.false_ne_true, if_neg hthree, htype, bne_self_eq_false,
    if_neg Bool.false_ne_true, if_neg hlow]
  intro hinvalid
  have hhigh : (buf.getD 1 0).toNat = channelHopInvalid.toNat := congrArg UInt8.toNat hinvalid
  have hcount : channelHopInvalid.toNat = 255 := rfl
  have hband' : (buf.getD 1 0).toNat < 101 := hband
  omega

/-- **An answer disturbs a quiescent manager just when it is a `CONFIRM`
to take.** -/
theorem Quiescent.onRx_iff (hq : Quiescent h) (hhop : cfg.channelHop = true) (buf : List UInt8)
    (len : Nat) : Quiescent (channelHopEpOnRx cfg h buf len) ↔ settles buf len = false := by
  cases hset : settles buf len with
  | true =>
    exact iff_of_false (fun hq' => committedNext_onRx hhop hset hq'.committedNext) (by simp)
  | false =>
    obtain ⟨target, hs⟩ := @onRx_of_not_settles cfg h buf len hset
    rw [hs]
    exact iff_of_true ⟨hq.1, hq.2, hq.3, hq.4, hq.5, hq.6, hq.7⟩ rfl

/-! ## Steps -/

theorem Parked.up (hp : Parked cfg down h) : Parked cfg false h :=
  ⟨hp.coop, fun hf => Bool.noConfusion hf, fun hf => Bool.noConfusion hf,
    fun hf => Bool.noConfusion hf, fun hf => Bool.noConfusion hf⟩

/-- A disconnect keeps a link down that is down. -/
theorem Parked.disconnect (hp : Parked cfg down h) :
    Parked cfg down (channelHopEpOnDisconnected cfg h) := by
  cases hhop : cfg.channelHop with
  | false =>
    unfold channelHopEpOnDisconnected
    rw [hhop, Bool.not_false, if_pos rfl]
    exact hp
  | true =>
    cases down with
    | false => exact (hp.onDisconnected hhop).up
    | true => exact hp.onDisconnected hhop

theorem Parked.connect (hp : Parked cfg down h) (hcon : cfg.channelHop = true → down = false) :
    Parked cfg down (channelHopEpOnConnected cfg h) := by
  cases hhop : cfg.channelHop with
  | false =>
    unfold channelHopEpOnConnected
    rw [hhop, Bool.not_false, if_pos rfl]
    exact hp
  | true =>
    rw [hcon hhop]
    exact hp.onConnected

/-- **What a step that does not connect keeps.** -/
theorem Parked.step {op : HopOp} (hp : Parked cfg down s.e.hop)
    (hcon : down = true → epConnects cfg s (.step op) = false) :
    Parked cfg down (hopStep cfg s op).e.hop := by
  have hdown : cfg.channelHop = true → epConnects cfg s (.step op) = true → down = false := by
    intro _ hyes
    rw [Bool.eq_false_iff]
    exact fun hd => Bool.noConfusion ((hcon hd).symm.trans hyes)
  have hmoves := @hopMoves_hopStep cfg s op
  generalize (hopStep cfg s op).e.hop = h' at hmoves ⊢
  cases hmoves with
  | kept => exact hp
  | noted pipe data => exact hp.noteUserTx
  | ended hdone =>
    exact hdone.keeps (fun _ hp => hp.onTxSuccess) (fun _ hp => hp.onLinkDegraded)
      (fun _ hp => hp.onTxFail onTxFail_onTxFailIsr) hp
  | stopped => exact hp.disconnect
  | packet hfree hrx =>
    exact hrx.keeps hfree hp hp.noteUserTx
      (fun hyes => hp.connect fun hhop => hdown hhop (hyes hhop)) (fun _ => hp.disconnect)
      (hp.onRx _ _) hp.onRequest
  | idled hidle =>
    simp only [entersIdle, Bool.and_eq_true] at hidle
    -- an endpoint that is down is not active, so it does not go idle
    have hnot : down = true → False :=
      fun hd => Bool.noConfusion (hidle.2.symm.trans (hp.active hd))
    unfold enterIdleBegin
    simp only []
    split
    · exact ⟨fun hne => absurd rfl hne, hp.hop, hp.linkUp, fun hd => (hnot hd).elim, fun _ => rfl⟩
    · exact ⟨hp.coop, hp.hop, hp.linkUp, fun hd => (hnot hd).elim, hp.shut⟩
  | hop hfree hdue hwork =>
    cases hwork <;> exact ⟨hp.coop, hp.hop, hp.linkUp, hp.active, hp.shut⟩
  | offerDropped prng =>
    exact ⟨fun hne => absurd rfl hne, hp.hop, hp.linkUp, hp.active, fun _ => rfl⟩
  | offerSent => exact hp.noteUserTx
  | @offerWithdrawn h₁ hsent =>
    have hnoted : Parked cfg down h₁ := by
      rcases hsent with rfl | rfl
      · exact hp
      · exact hp.noteUserTx
    exact ⟨fun hne => absurd rfl hne, hnoted.hop, hnoted.linkUp, hnoted.active, fun _ => rfl⟩
  | commit hfree hdue hwork =>
    cases hwork with
    | unarmed hstate => exact ⟨hp.coop, hp.hop, hp.linkUp, hp.active, hp.shut⟩
    | _ => exact ⟨fun hne => absurd rfl hne, hp.hop, hp.linkUp, hp.active, fun _ => rfl⟩
  | _ => exact ⟨hp.coop, hp.hop, hp.linkUp, hp.active, hp.shut⟩

theorem Parked.call (hp : Parked cfg down s.e.hop) {entry : HopCall}
    (hcon : down = true → epConnects cfg s (.call entry) = false) :
    Parked cfg down (entry.apply cfg now s.e.hop) := by
  cases entry with
  | onConnected =>
    refine hp.connect fun hhop => ?_
    rw [Bool.eq_false_iff]
    intro hd
    have hno := hcon hd
    rw [epConnects, hhop] at hno
    exact Bool.noConfusion hno
  | onDisconnected => exact hp.disconnect
  | noteUserTx => exact hp.noteUserTx
  | onTxFailIsr => exact hp.onTxFail onTxFail_onTxFailIsr
  | onTxSuccessIsr => exact hp.onTxSuccess
  | onLinkDegradedIsr => exact hp.onLinkDegraded
  | onRx buf len => exact hp.onRx buf len
  | onRequest => exact hp.onRequest

/-- A disconnect leaves the manager parked and quiescent. -/
theorem of_epDisconnects (hp : Parked cfg down s.e.hop) {op : EpOp}
    (hdis : epDisconnects cfg s op = true) :
    Parked cfg true (epStep cfg s op).e.hop ∧ Quiescent (epStep cfg s op).e.hop := by
  have hleft : cfg.channelHop = true ∧
      (epStep cfg s op).e.hop = channelHopEpOnDisconnected cfg s.e.hop := by
    cases op with
    | step op => exact hop_of_disconnects hdis
    | call entry =>
      rw [epDisconnects, Bool.and_eq_true, beq_iff_eq] at hdis
      obtain ⟨hhop, rfl⟩ := hdis
      exact ⟨hhop, rfl⟩
  rw [hleft.2]
  exact ⟨hp.onDisconnected hleft.1, quiescent_onDisconnected hleft.1⟩

/-- **The run's own record of the link is right.** -/
theorem Parked.downStep (hp : Parked cfg t.down t.s.e.hop) (op : EpOp) :
    Parked cfg (downStep cfg t op).down (downStep cfg t op).s.e.hop := by
  unfold EsbEndpoint.downStep
  cases hdis : epDisconnects cfg t.s op with
  | true => exact (of_epDisconnects hp hdis).1
  | false =>
    rw [Bool.false_or]
    have hkept : Parked cfg (t.down && !epConnects cfg t.s op) t.s.e.hop := by
      cases epConnects cfg t.s op with
      | false =>
        rw [Bool.not_false, Bool.and_true]
        exact hp
      | true =>
        rw [Bool.not_true, Bool.and_false]
        exact hp.up
    have hcon : (t.down && !epConnects cfg t.s op) = true → epConnects cfg t.s op = false := by
      intro hd
      rw [Bool.and_eq_true, Bool.not_eq_true'] at hd
      exact hd.2
    cases op with
    | step op => exact hkept.step hcon
    | call entry => exact hkept.call hcon

/-! ## What disturbs a link that is down -/

section Down

variable (hq : Quiescent s.e.hop)
include hq

/-- A packet does just when it is a `CONFIRM` to take. -/
theorem quiescent_rx_iff (hp : Parked cfg true s.e.hop) {buf : List UInt8} {len : Nat}
    (hcon : epConnects cfg s (.step (.rx buf len)) = false) :
    Quiescent (hopStep cfg s (.rx buf len)).e.hop ↔
      (s.workq = .free → settles buf len = false) := by
  have hhop := hp.hop rfl
  have hlink := hp.linkUp rfl
  by_cases hfree : s.workq = .free
  · have hstep : (hopStep cfg s (.rx buf len)).e = pairingOnRx cfg s.e buf len := by
      rw [hopStep, HopTrace.fire, if_pos ⟨hfree, rfl⟩]
    rw [hstep]
    simp only [hfree, forall_const]
    cases hset : settles buf len with
    | true =>
      -- a `CONFIRM` settles the next channel, on a link that is down as well
      have hset' := hset
      simp only [settles, Bool.and_eq_true, beq_iff_eq, decide_eq_true_eq] at hset'
      have hpos : ¬ len < 1 := by omega
      have htaken : pairingOnRx cfg s.e buf len =
          s.e.mapHop fun h => channelHopEpOnRx cfg h buf len := by
        rw [pairingOnRx, if_neg hpos, hset'.1.1]
        exact if_pos hhop
      rw [htaken]
      exact iff_of_false (fun hq' => committedNext_onRx hhop hset hq'.committedNext) (by simp)
    | false =>
      refine iff_of_true ?_ rfl
      exact OnRx.keeps hfree hq (hq.noteUserTx hlink)
        (fun hyes => Bool.noConfusion (hcon.symm.trans (hyes hhop)))
        (fun _ => quiescent_onDisconnected hhop) ((hq.onRx_iff hhop buf len).2 hset)
        (hq.onRequest hlink) (onRx_pairingOnRx buf len)
  · refine iff_of_true ?_ fun h => absurd h hfree
    rw [hopStep, HopTrace.fire, if_neg fun h => hfree h.1]
    exact hq

/-- A queued hop does, unless it finds no channel to go to. -/
theorem quiescent_hop_iff :
    Quiescent (hopStep cfg s .hop).e.hop ↔
      (s.workq = .free → s.e.hop.hopWork = true →
        hopChoice cfg (s.e.mapHop fun h => { h with hopWork := false }) = none) := by
  obtain ⟨hrun, hstep⟩ | ⟨hrun, hwork⟩ := @hopStep_hop_cases cfg s
  · refine iff_of_true ?_ fun hfree hdue => absurd ⟨hfree, hdue⟩ hrun
    rw [hstep]
    exact hq
  · simp only [hrun.1, hrun.2, forall_const]
    generalize (hopStep cfg s .hop).e.tp.channel = c at hwork
    generalize (hopStep cfg s .hop).e.hop = h' at hwork ⊢
    cases hwork with
    | stayed pending prng hchoice =>
      exact iff_of_true ⟨hq.1, hq.2, hq.3, hq.4, hq.5, hq.6, hq.7⟩ hchoice
    | refused pending prng hchoice hno =>
      refine iff_of_false (fun hq' => ?_) (by simp [hchoice])
      exact absurd hq'.hopRetryWork (by simp)
    | hopped pending prng quarantine prev remaining candidate burstWork hchoice hyes =>
      refine iff_of_false (fun hq' => ?_) (by simp [hchoice])
      exact absurd hq'.negotiateWork (by simp)

/-- So does the end of a side-trip: the count it takes one from is zero. -/
theorem quiescent_sideTripEnd_iff :
    Quiescent (hopStep cfg s .sideTripEnd).e.hop ↔ s.workq ≠ .sideTrip := by
  rw [hopStep]
  split
  · rename_i htrip
    obtain ⟨candidate, work, hhop⟩ := @hop_postHopBurstResume cfg s.e
    refine iff_of_false (fun hq' => ?_) fun hne => hne htrip
    have hzero := hq'.postHopBurst
    rw [hhop, hq.postHopBurst] at hzero
    exact absurd (show (0 : UInt8) - 1 = 0 from hzero) (by decide)
  · rename_i htrip
    exact iff_of_true hq htrip

/-- Nothing else does. -/
theorem Quiescent.step (hp : Parked cfg true s.e.hop) {op : HopOp}
    (hrx : ∀ buf len, op ≠ .rx buf len) (hhop : op ≠ .hop) (htrip : op ≠ .sideTripEnd) :
    Quiescent (hopStep cfg s op).e.hop := by
  have hlink := hp.linkUp rfl
  have hdue : ∀ {work : Delayable}, work = none → work.isSome = true → False := by
    rintro _ rfl hsome
    exact Bool.noConfusion hsome
  have hmoves := @hopMoves_hopStep cfg s op
  generalize (hopStep cfg s op).e.hop = h' at hmoves ⊢
  cases hmoves with
  | kept => exact hq
  | noted pipe data => exact hq.noteUserTx hlink
  | ended hdone =>
    exact hdone.keeps (fun _ hq => hq.onTxSuccess) (fun _ hq => hq.onLinkDegraded)
      (fun _ hq => hq.onTxFail onTxFail_onTxFailIsr) hq
  | stopped => exact quiescent_onDisconnected (hp.hop rfl)
  | packet hfree hpacket => exact absurd rfl (hrx _ _)
  | negotiated prng synced burst work hsome => exact (hdue hq.negotiateWork hsome).elim
  | idled hidle =>
    simp only [entersIdle, Bool.and_eq_true] at hidle
    exact Bool.noConfusion (hlink.symm.trans hidle.1.2)
  | burst prng candidate remaining work hsome => exact (hdue hq.postHopBurstWork hsome).elim
  | burstResumed candidate work hphase => exact absurd rfl htrip
  | hop hfree hqueued hwork => exact absurd rfl hhop
  | retried hsome => exact (hdue hq.hopRetryWork hsome).elim
  | offerSent => exact hq.noteUserTx hlink
  | @offerWithdrawn h₁ hsent =>
    have hnoted : Quiescent h₁ := by
      rcases hsent with rfl | rfl
      · exact hq
      · exact hq.noteUserTx hlink
    exact ⟨hnoted.1, hnoted.2, hnoted.3, hnoted.4, hnoted.5, hnoted.6, hnoted.7⟩
  | commit hfree hqueued hwork =>
    have hshut : s.e.hop.coopHopState ≠ .armed := by rw [hp.shut rfl]; simp
    cases hwork with
    | unarmed hstate => exact ⟨hq.1, hq.2, hq.3, hq.4, hq.5, hq.6, hq.7⟩
    | stayed hstate htarget => exact absurd hstate hshut
    | refused hstate htarget hno => exact absurd hstate hshut
    | committed _ _ _ _ hstate htarget hyes => exact absurd hstate hshut
  | _ => exact ⟨hq.1, hq.2, hq.3, hq.4, hq.5, hq.6, hq.7⟩

/-- Nor does a call, but for a `CONFIRM` to take. -/
theorem quiescent_call_iff (hp : Parked cfg true s.e.hop) {entry : HopCall}
    (hcon : epConnects cfg s (.call entry) = false) :
    Quiescent (entry.apply cfg now s.e.hop) ↔
      ∀ buf len, entry = .onRx buf len → settles buf len = false := by
  have hhop := hp.hop rfl
  have hlink := hp.linkUp rfl
  cases entry with
  | onConnected =>
    rw [epConnects, hhop] at hcon
    exact Bool.noConfusion hcon
  | onDisconnected => exact iff_of_true (quiescent_onDisconnected hhop) (by simp)
  | noteUserTx => exact iff_of_true (hq.noteUserTx hlink) (by simp)
  | onTxFailIsr => exact iff_of_true (hq.onTxFail onTxFail_onTxFailIsr) (by simp)
  | onTxSuccessIsr => exact iff_of_true hq.onTxSuccess (by simp)
  | onLinkDegradedIsr => exact iff_of_true hq.onLinkDegraded (by simp)
  | onRx buf len =>
    have hrx := hq.onRx_iff hhop buf len
    constructor
    · rintro hq' _ _ heq
      obtain ⟨rfl, rfl⟩ := HopCall.onRx.inj heq
      exact hrx.1 hq'
    · exact fun hset => hrx.2 (hset buf len rfl)
  | onRequest => exact iff_of_true (hq.onRequest hlink) (by simp)

end Down

/-- A packet or a call that ends or begins a connection is no `CONFIRM`. -/
theorem leavesQuiet_of_link {op : EpOp}
    (hlink : epDisconnects cfg t.s op = true ∨ epConnects cfg t.s op = true) :
    LeavesQuiet cfg t op := by
  have hother : ∀ {buf : List UInt8} {len : Nat}, buf.getD 0 0 ≠ esbPktChannelHopConfirm →
      settles buf len = false := by
    intro buf len htype
    rw [settles, beq_eq_false_iff_ne.2 htype, Bool.false_and, Bool.false_and]
  intro _
  cases op with
  | step op =>
    cases op with
    | rx buf len =>
      intro _
      refine hother ?_
      simp only [epDisconnects, disconnects, epConnects, Bool.and_eq_true, Bool.or_eq_true,
        beq_iff_eq] at hlink
      rcases hlink with ⟨-, htype | ⟨htype, -⟩⟩ | ⟨-, ⟨htype, -⟩ | ⟨⟨htype, -⟩, -⟩⟩
      all_goals
        rw [htype]
        decide
    | _ => rcases hlink with hlink | hlink <;> trivial
  | call entry =>
    cases entry with
    | onRx buf len =>
      simp [epDisconnects, epConnects] at hlink
    | _ => trivial

theorem quiescentWhileDown_step_iff (hp : Parked cfg t.down t.s.e.hop)
    (hq : QuiescentWhileDown t) (op : EpOp) :
    QuiescentWhileDown (downStep cfg t op) ↔ LeavesQuiet cfg t op := by
  cases hdis : epDisconnects cfg t.s op with
  | true =>
    exact iff_of_true (fun _ => (of_epDisconnects hp hdis).2) (leavesQuiet_of_link (Or.inl hdis))
  | false =>
    have hdown : (downStep cfg t op).down = (t.down && !epConnects cfg t.s op) := by
      rw [downStep, hdis, Bool.false_or]
    unfold QuiescentWhileDown
    rw [hdown]
    cases hcon : epConnects cfg t.s op with
    | true =>
      rw [Bool.not_true, Bool.and_false]
      exact iff_of_true (fun hf => Bool.noConfusion hf) (leavesQuiet_of_link (Or.inr hcon))
    | false =>
      rw [Bool.not_false, Bool.and_true]
      unfold LeavesQuiet
      refine forall_congr' fun hd => ?_
      have hq' := hq hd
      rw [hd] at hp
      cases op with
      | step op =>
        cases op with
        | rx buf len => exact quiescent_rx_iff hq' hp hcon
        | hop => exact quiescent_hop_iff hq'
        | sideTripEnd => exact quiescent_sideTripEnd_iff hq'
        | _ => exact iff_of_true (hq'.step hp (by simp) (by simp) (by simp)) trivial
      | call entry =>
        have hcall := @quiescent_call_iff cfg t.s t.s.e.now hq' hp entry hcon
        cases entry with
        | onRx buf len =>
          refine hcall.trans ⟨fun h => h buf len rfl, fun h _ _ heq => ?_⟩
          obtain ⟨rfl, rfl⟩ := HopCall.onRx.inj heq
          exact h
        | _ => exact iff_of_true (hcall.2 (by simp)) trivial

theorem parked_start (cfg : Config) (deviceId : List UInt8) (saved : Option PairedRec) :
    Parked cfg false (HopTrace.start cfg deviceId saved).e.hop := by
  rw [hop_start]
  exact ⟨fun hne => absurd rfl hne, fun hf => Bool.noConfusion hf, fun hf => Bool.noConfusion hf,
    fun hf => Bool.noConfusion hf, fun hf => Bool.noConfusion hf⟩

/-- **A link that is down is quiescent, exactly when** no `CONFIRM` is
taken on it, no hop left in the queue finds a channel to go to, and no
side-trip ends. -/
theorem quiescentWhileDown_iff (cfg : Config) (deviceId : List UInt8) (saved : Option PairedRec)
    (ops : List EpOp) :
    Throughout (downStep cfg) QuiescentWhileDown { s := HopTrace.start cfg deviceId saved } ops ↔
      Guarded (downStep cfg) (LeavesQuiet cfg) { s := HopTrace.start cfg deviceId saved } ops :=
  throughout_iff_guarded (I := fun t => Parked cfg t.down t.s.e.hop) (D := fun _ _ => True)
    (fun _ op hp _ => hp.downStep op) (fun _ op hp _ hq => quiescentWhileDown_step_iff hp hq op)
    (parked_start cfg deviceId saved) (fun hf => Bool.noConfusion hf)
    (Guarded.of_forall fun _ _ => trivial)

/-- A `CONFIRM` that comes while the keyboard verifies the dongle again is
settled. -/
theorem not_quiescentWhileDown : ¬ ∀ (cfg : Config) (deviceId : List UInt8)
    (saved : Option PairedRec) (ops : List EpOp),
    Throughout (downStep cfg) QuiescentWhileDown { s := HopTrace.start cfg deviceId saved }
      ops := by
  intro h
  have hrun := (h .default [] none
    [.step .pairingStart, .step (.rx [esbPktPairReq, 1, 2, 3, 4, 5, 6] 7),
      .step (.rx [esbPktResync] 1), .step (.rx [esbPktChannelHopConfirm, 20, 0] 3)]).last
  exact absurd (hrun (by decide +kernel)).committedNext (by decide +kernel)

end EsbEndpoint
