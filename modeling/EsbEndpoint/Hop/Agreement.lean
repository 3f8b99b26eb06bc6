import EsbEndpoint.Common.Run
import EsbEndpoint.Hop.Handshake

/-!
# What a cooperative hop rests on

An offer is armed by the acknowledgement of a packet, which the peer's
radio gives whether or not the peer reads it, and the target it hops to is
the one it offered until a `HOP_ACCEPT` moves it. So the channel it
commits to is one the peer has agreed to exactly when the peer has
answered before the commit fires (`agreed_iff`).

The hop manager's work and the receive work share one queue, whose thread
waits inside a side-trip and may be interrupted before it sends an offer;
radio events and the other threads come at any time.
-/

namespace EsbEndpoint

variable (cfg : Config)

/-! ## Runs -/

/-- Where the work queue's thread is between two steps. -/
inductive WorkqPhase
  | free
  | sideTrip
  | offering (pkt : List UInt8)
  deriving DecidableEq

/-- The endpoint, with the channels the peer has agreed to in answer to
the current offer. -/
structure HopTrace where
  e : Endpoint
  workq : WorkqPhase := .free
  accepts : List UInt8 := []

inductive HopOp
  /-- `esb_transport_send`, from wherever it is called -/
  | send (pipe : Nat) (data : List UInt8)
  /-- a transmission ends and its events are handled -/
  | txDone (outcome : TxOutcome)
  | flushTx
  | slotStart
  | slotStop
  | pairingStart
  | pairingStop
  | pairingUnpair
  | tick (ms : Nat)
  /-- `pairing_on_rx` over this buffer -/
  | rx (buf : List UInt8) (len : Nat)
  -- the work items; a flush and the `IDLE` packet follow `idleCheck` as
  -- steps of their own
  | beacon
  | verify
  | negotiate
  | idleCheck
  | postHopBurst
  | sideTripEnd
  | hop
  | hopRetry
  | offer
  | offerSend
  | commit
  deriving DecidableEq

/-- The channel of a `HOP_ACCEPT` that `channel_hop_ep_on_rx` finds to
answer the offer numbered `seq`. -/
def agreedChannel (seq : UInt8) (buf : List UInt8) (len : Nat) : Option UInt8 :=
  if cfg.channelHop = true ∧ cfg.coopHop = true ∧ buf.getD 0 0 = esbPktHopAccept ∧ 4 ≤ len ∧
      buf.getD 3 0 = seq then
    some (buf.getD 1 0)
  else none

/-- The step of a work item: it runs if it is due and the queue's thread
is free. -/
def HopTrace.fire (s : HopTrace) (due : Bool) (next : HopTrace) : HopTrace :=
  if s.workq = .free ∧ due = true then next else s

/-- `idle_check_work_fn` up to its flush. -/
def idleCheckBegin (e : Endpoint) : Endpoint :=
  if e.hop.linkUp && e.hop.active then e.mapHop (enterIdleBegin cfg) else e

def hopStep (s : HopTrace) : HopOp → HopTrace
  | .send pipe data => { s with e := (esbTransportSend cfg s.e pipe data).1 }
  | .txDone outcome => { s with e := txDone cfg s.e outcome }
  | .flushTx => { s with e := esbTransportFlushTx cfg s.e }
  | .slotStart => { s with e := esbTransportOnSlotStart cfg s.e }
  | .slotStop => { s with e := esbTransportOnSlotStop cfg s.e }
  | .pairingStart => { s with e := pairingStart cfg s.e }
  | .pairingStop => { s with e := pairingStop cfg s.e }
  | .pairingUnpair => { s with e := pairingUnpair cfg s.e }
  | .tick ms => { s with e := { s.e with uptime := s.e.uptime + ms } }
  | .rx buf len =>
    s.fire true
      { s with
        e := pairingOnRx cfg s.e buf len
        accepts := s.accepts ++ (agreedChannel cfg s.e.hop.coopHopSeq buf len).toList }
  | .beacon =>
    s.fire s.e.pairing.beaconWork.isSome
      { s with e := beaconWorkFn cfg (s.e.mapPairing fun p => { p with beaconWork := none }) }
  | .verify =>
    s.fire s.e.pairing.verifyWork.isSome
      { s with e := verifyWorkFn cfg (s.e.mapPairing fun p => { p with verifyWork := none }) }
  | .negotiate =>
    s.fire s.e.hop.negotiateWork.isSome
      { s with e := negotiateWorkFn cfg (s.e.mapHop fun h => { h with negotiateWork := none }) }
  | .idleCheck =>
    s.fire s.e.hop.idleCheckWork.isSome
      { s with
        e := idleCheckBegin cfg (s.e.mapHop fun h => { h with idleCheckWork := none }) }
  | .postHopBurst =>
    let (e, waiting) :=
      postHopBurstWorkFn cfg (s.e.mapHop fun h => { h with postHopBurstWork := none })
    s.fire s.e.hop.postHopBurstWork.isSome
      { s with e, workq := if waiting then .sideTrip else .free }
  | .sideTripEnd =>
    if s.workq = .sideTrip then { s with e := postHopBurstResume cfg s.e, workq := .free } else s
  | .hop =>
    s.fire s.e.hop.hopWork
      { s with e := hopWorkFn cfg (s.e.mapHop fun h => { h with hopWork := false }) }
  | .hopRetry =>
    s.fire s.e.hop.hopRetryWork.isSome
      { s with e := hopRetryWorkFn (s.e.mapHop fun h => { h with hopRetryWork := none }) }
  | .offer =>
    let (e, pkt) := coopHopOfferBegin cfg (s.e.mapHop fun h => { h with coopHopOfferWork := none })
    s.fire s.e.hop.coopHopOfferWork.isSome
      { e
        workq := match pkt with
          | none => .free
          | some pkt => .offering pkt
        -- a new number: nothing has answered it yet
        accepts := if pkt.isSome then [] else s.accepts }
  | .offerSend =>
    match s.workq with
    | .offering pkt => { s with e := coopHopOfferSend cfg s.e pkt, workq := .free }
    | _ => s
  | .commit =>
    s.fire s.e.hop.coopHopCommitWork.isSome
      { s with
        e := coopHopCommitWorkFn cfg (s.e.mapHop fun h => { h with coopHopCommitWork := none }) }

/-- The endpoint in its first slot, with its record read. -/
def HopTrace.start (deviceId : List UInt8) (saved : Option PairedRec) : HopTrace where
  e := pairingInit (Endpoint.start cfg deviceId saved)

/-- **A commit moves to a channel the peer agreed to**, in a `HOP_ACCEPT`
that answers the current offer. -/
def Agreed (s : HopTrace) (op : HopOp) : Prop :=
  op = .commit → (hopStep cfg s op).e.tp.channel ≠ s.e.tp.channel →
    (hopStep cfg s op).e.tp.channel ∈ s.accepts

instance (s : HopTrace) (op : HopOp) : Decidable (Agreed cfg s op) :=
  inferInstanceAs (Decidable (op = .commit → (hopStep cfg s op).e.tp.channel ≠ s.e.tp.channel →
    (hopStep cfg s op).e.tp.channel ∈ s.accepts))

/-- The commit timer runs out on a handshake that would hop. -/
def commitsHop (s : HopTrace) : Bool :=
  s.workq == .free && s.e.hop.coopHopCommitWork.isSome && s.e.hop.coopHopState == .armed &&
    s.e.hop.coopHopTarget != s.e.tp.channel && canSwitch cfg s.e s.e.hop.coopHopTarget

/-- The condition on a commit: by the time it would hop, the peer has
answered the offer with some channel of the band. -/
def AnsweredFirst (s : HopTrace) (op : HopOp) : Prop :=
  op = .commit → commitsHop cfg s = true → ∃ c ∈ s.accepts, c.toNat < channelHopChannelCount

variable {cfg} {e : Endpoint} {s : HopTrace}

/-- **An offer is a run**: its first half and its send. -/
theorem coopHopOfferWorkFn_eq_run (hfree : s.workq = .free)
    (hdue : s.e.hop.coopHopOfferWork.isSome = true) :
    (runFrom (hopStep cfg) s [.offer, .offerSend]).e =
      coopHopOfferWorkFn cfg (s.e.mapHop fun h => { h with coopHopOfferWork := none }) := by
  simp only [runFrom_cons, runFrom_nil, hopStep, HopTrace.fire, hfree, hdue, and_self, if_true,
    coopHopOfferWorkFn]
  generalize coopHopOfferBegin cfg _ = begun
  obtain ⟨e, pkt⟩ := begun
  cases pkt with
  | none => rfl
  | some pkt => rfl

/-- And so is going idle: the state change, the flush and the packet. -/
theorem idleCheckWorkFn_eq_run (hfree : s.workq = .free)
    (hdue : s.e.hop.idleCheckWork.isSome = true) (hlink : s.e.hop.linkUp = true)
    (hactive : s.e.hop.active = true) :
    (runFrom (hopStep cfg) s [.idleCheck, .flushTx, .send esbPipeData [esbPktIdle]]).e =
      idleCheckWorkFn cfg (s.e.mapHop fun h => { h with idleCheckWork := none }) := by
  simp only [runFrom_cons, runFrom_nil, hopStep, HopTrace.fire, hfree, hdue, and_self, if_true,
    idleCheckBegin, hlink, hactive, Bool.and_self, idleCheckWorkFn, enterIdleState,
    Endpoint.mapHop_hop, Bool.not_true, Bool.or_self, Bool.false_eq_true, if_false, sendIdlePacket]

/-! ## The two changes of the channel -/

/-- The work item does nothing, or what `hop_work_fn` does. -/
theorem hopStep_hop_cases (s : HopTrace) :
    ¬ (s.workq = .free ∧ s.e.hop.hopWork = true) ∧ hopStep cfg s .hop = s ∨
      (s.workq = .free ∧ s.e.hop.hopWork = true) ∧
        HopWork cfg (s.e.mapHop fun h => { h with hopWork := false })
          (hopStep cfg s .hop).e.hop (hopStep cfg s .hop).e.tp.channel := by
  rw [hopStep, HopTrace.fire]
  by_cases hrun : s.workq = .free ∧ s.e.hop.hopWork = true
  · rw [if_pos hrun]
    exact Or.inr ⟨hrun, hopWork_hopWorkFn⟩
  · rw [if_neg hrun]
    exact Or.inl ⟨hrun, rfl⟩

theorem hopStep_commit_cases (s : HopTrace) :
    ¬ (s.workq = .free ∧ s.e.hop.coopHopCommitWork.isSome = true) ∧ hopStep cfg s .commit = s ∨
      (s.workq = .free ∧ s.e.hop.coopHopCommitWork.isSome = true) ∧
        CommitWork cfg (s.e.mapHop fun h => { h with coopHopCommitWork := none })
          (hopStep cfg s .commit).e.hop (hopStep cfg s .commit).e.tp.channel := by
  rw [hopStep, HopTrace.fire]
  by_cases hrun : s.workq = .free ∧ s.e.hop.coopHopCommitWork.isSome = true
  · rw [if_pos hrun]
    exact Or.inr ⟨hrun, commitWork_coopHopCommitWorkFn⟩
  · rw [if_neg hrun]
    exact Or.inl ⟨hrun, rfl⟩

/-! ## The handshake of a run -/

/-- A step that is no answer, no offer and no commit. -/
def HopOp.plain : HopOp → Bool
  | .rx _ _ | .offer | .commit => false
  | _ => true

/-- A work item keeps what it keeps when it runs. -/
theorem fire_keeps {Q : HopTrace → Prop} {due : Bool} {next : HopTrace} (hs : Q s)
    (hnext : due = true → Q next) : Q (s.fire due next) := by
  rw [HopTrace.fire]
  split
  · rename_i h
    exact hnext h.2
  · exact hs

/-- **A plain step** answers nothing and keeps what is closed. -/
theorem hopStep_of_plain {P : Handshake → Prop} {op : HopOp} (hP : Handshake.Closed P)
    (hp : P s.e.hop.handshake) (hplain : op.plain = true) :
    (hopStep cfg s op).accepts = s.accepts ∧ P (hopStep cfg s op).e.hop.handshake := by
  -- most of them leave the handshake as it is
  have hkept : ∀ e' : Endpoint, e'.hop.handshake = s.e.hop.handshake →
      P e'.hop.handshake := fun e' h => h.symm ▸ hp
  have hfire : ∀ (due : Bool) (next : HopTrace), next.accepts = s.accepts →
      P next.e.hop.handshake →
      (s.fire due next).accepts = s.accepts ∧ P (s.fire due next).e.hop.handshake :=
    fun due next haccepts hnext => fire_keeps (Q := fun s' => s'.accepts = s.accepts ∧
      P s'.e.hop.handshake) ⟨rfl, hp⟩ fun _ => ⟨haccepts, hnext⟩
  cases op with
  | send pipe data => exact ⟨rfl, hkept _ (handshake_esbTransportSend pipe data)⟩
  | txDone outcome => exact ⟨rfl, handshake_txDone hP hp outcome⟩
  | flushTx => exact ⟨rfl, hp⟩
  | slotStart => exact ⟨rfl, hkept _ (congrArg HopEp.handshake hop_esbTransportOnSlotStart)⟩
  | slotStop => exact ⟨rfl, hp⟩
  | pairingStart => exact ⟨rfl, hp⟩
  | pairingStop =>
    refine ⟨rfl, ?_⟩
    unfold hopStep pairingStop
    dsimp only
    rw [hop_notifyDisconnected]
    exact handshake_onDisconnected hP hp
  | pairingUnpair => exact ⟨rfl, hp⟩
  | tick ms => exact ⟨rfl, hp⟩
  | beacon => exact hfire _ _ rfl (hkept _ (congrArg HopEp.handshake hop_beaconWorkFn))
  | verify => exact hfire _ _ rfl (hkept _ (congrArg HopEp.handshake hop_verifyWorkFn))
  | negotiate => exact hfire _ _ rfl (hkept _ handshake_negotiateWorkFn)
  | idleCheck =>
    refine hfire _ _ rfl ?_
    simp only [idleCheckBegin]
    split
    · exact handshake_enterIdleBegin hP hp
    · exact hp
  | postHopBurst => exact hfire _ _ rfl (hkept _ handshake_postHopBurstWorkFn)
  | sideTripEnd =>
    rw [hopStep]
    split
    · exact ⟨rfl, hkept _ handshake_postHopBurstResume⟩
    · exact ⟨rfl, hp⟩
  | hop => exact hfire _ _ rfl (hkept _ handshake_hopWorkFn)
  | hopRetry => exact hfire _ _ rfl hp
  | offerSend =>
    simp only [hopStep]
    split
    · exact ⟨rfl, handshake_coopHopOfferSend hP hp _⟩
    · exact ⟨rfl, hp⟩
  | _ => exact Bool.noConfusion hplain

/-- Either the target is agreed or nothing has answered: the invariant of
an offer from its tag to its commit. A tagged packet belongs to an offer
that is out, with no other due. -/
structure Tracks (accepts : List UInt8) (h : Handshake) : Prop where
  tagged : h.lastTxWasOffer = true → h.state = .offered ∧ h.offerPending = false
  target_lt : h.state = .armed ∨ h.lastTxWasOffer = true →
    h.target.toNat < channelHopChannelCount
  follows : h.state = .armed ∨ h.lastTxWasOffer = true →
    (∃ c ∈ accepts, c.toNat < channelHopChannelCount) → h.target ∈ accepts

variable {accepts : List UInt8} {h : Handshake}

/-- Outside an offer there is nothing to track. -/
theorem Tracks.of_idle (hstate : h.state ≠ .armed) (htag : h.lastTxWasOffer = false) :
    Tracks accepts h := by
  have hnot : ¬(h.state = .armed ∨ h.lastTxWasOffer = true) := by simp [hstate, htag]
  exact ⟨fun h' => absurd (Or.inr h') hnot, fun h' => absurd h' hnot, fun h' => absurd h' hnot⟩

/-- An armed handshake has spent its tag. -/
theorem Tracks.tag_of_state (ht : Tracks accepts h) (hstate : h.state ≠ .offered) :
    h.lastTxWasOffer = false := by
  cases htag : h.lastTxWasOffer with
  | false => rfl
  | true => exact absurd (ht.tagged htag).1 hstate

theorem tracks_closed (accepts : List UInt8) : Handshake.Closed (Tracks accepts) where
  delivered h ht := by
    rw [Handshake.tagSpent]
    split
    · rename_i htag
      rw [if_pos (ht.tagged htag).1]
      exact ⟨fun h' => Bool.noConfusion h', fun _ => ht.target_lt (Or.inr htag),
        fun _ => ht.follows (Or.inr htag)⟩
    · exact ht
  failed h ht := by
    rw [Handshake.tagSpent]
    split
    · rename_i htag
      rw [if_pos (ht.tagged htag).1]
      exact Tracks.of_idle (by simp) rfl
    · exact ht
  degraded h ht := by
    rw [Handshake.degraded]
    split
    · rename_i hidle
      exact Tracks.of_idle (by simp) (ht.tag_of_state (by rw [hidle]; simp))
    · exact ht
  aborted h _ := Tracks.of_idle (by simp [Handshake.aborted]) rfl
  withdrawn h _ := Tracks.of_idle (by simp [Handshake.withdrawn]) rfl

/-- A packet that is no answer to the current offer. -/
theorem handshake_onRx_of_none {buf : List UInt8} {len : Nat}
    (hnone : agreedChannel cfg e.hop.coopHopSeq buf len = none) :
    (channelHopEpOnRx cfg e.hop buf len).handshake = e.hop.handshake := by
  simp only [agreedChannel, ite_eq_right_iff, reduceCtorEq, imp_false, not_and] at hnone
  simp only [channelHopEpOnRx]
  split
  · rfl
  · rename_i hhop
    rw [Bool.not_eq_true', Bool.not_eq_false] at hhop
    split
    · rfl
    · split
      · rename_i haccept
        rw [Bool.and_eq_true, beq_iff_eq] at haccept
        rw [onHopAccept]
        split
        · rfl
        · rename_i hlen
          rw [if_pos (bne_iff_ne.2 (hnone hhop haccept.1 haccept.2 (by omega)))]
      · split
        · rfl
        · split
          · rfl
          · split <;> rfl

/-- One that is moves the target, if the handshake is open and the channel
one of the band. -/
theorem pairingOnRx_accept {buf : List UInt8} {len : Nat} {c : UInt8}
    (hsome : agreedChannel cfg e.hop.coopHopSeq buf len = some c) :
    (pairingOnRx cfg e buf len).hop.handshake =
      if e.hop.coopHopState ≠ .idle ∧ c.toNat < channelHopChannelCount then
        { e.hop.handshake with target := c }
      else e.hop.handshake := by
  simp only [agreedChannel, Option.ite_none_right_eq_some, Option.some.injEq] at hsome
  obtain ⟨⟨hhop, hcoop, htype, hlen, hseq⟩, rfl⟩ := hsome
  have hrx : pairingOnRx cfg e buf len = e.mapHop fun h => channelHopEpOnRx cfg h buf len := by
    rw [pairingOnRx, if_neg (by omega), htype]
    exact if_pos hhop
  have haccept : channelHopEpOnRx cfg e.hop buf len = onHopAccept e.hop buf len := by
    simp only [channelHopEpOnRx, hhop, hcoop, htype, Bool.not_true, Bool.false_eq_true, if_false,
      beq_self_eq_true, Bool.and_self, if_true]
    exact if_neg (by omega)
  rw [hrx, Endpoint.mapHop_hop, haccept, onHopAccept, if_neg (by omega), hseq, if_neg (by simp)]
  split
  · rename_i hclosed
    rw [if_neg]
    rintro ⟨hopen, -⟩
    cases hstate : e.hop.coopHopState <;> simp_all
  · rename_i hopen
    split
    · rename_i hhigh
      rw [if_neg fun h => absurd h.2 (Nat.not_lt.2 hhigh)]
    · rename_i hlow
      rw [if_pos ⟨fun hidle => hopen (by rw [hidle]; rfl), Nat.lt_of_not_le hlow⟩]
      rfl

theorem tracks_rx {buf : List UInt8} {len : Nat} (ht : Tracks s.accepts s.e.hop.handshake) :
    Tracks (s.accepts ++ (agreedChannel cfg s.e.hop.coopHopSeq buf len).toList)
      (pairingOnRx cfg s.e buf len).hop.handshake := by
  cases hagreed : agreedChannel cfg s.e.hop.coopHopSeq buf len with
  | none =>
    rw [Option.toList_none, List.append_nil]
    refine handshake_pairingOnRx (tracks_closed _) ht ?_
    rw [handshake_onRx_of_none hagreed]
    exact ht
  | some c =>
    rw [Option.toList_some, pairingOnRx_accept hagreed]
    split
    · rename_i hmoved
      exact ⟨ht.tagged, fun _ => hmoved.2, fun _ _ => by simp⟩
    · rename_i hkept
      refine ⟨ht.tagged, ht.target_lt, fun hout hex => ?_⟩
      have hopen : s.e.hop.coopHopState ≠ .idle := by
        rcases hout with hstate | htag
        · exact fun hidle => absurd (hidle.symm.trans hstate) (by simp)
        · exact fun hidle => absurd (hidle.symm.trans (ht.tagged htag).1) (by simp)
      -- the new channel is off the band, so it is an older answer
      obtain ⟨c', hmem, hlt⟩ := hex
      rcases List.mem_append.1 hmem with hmem | hmem
      · exact List.mem_append_left _ (ht.follows hout ⟨c', hmem, hlt⟩)
      · rw [List.mem_singleton] at hmem
        rw [hmem] at hlt
        exact absurd ⟨hopen, hlt⟩ hkept

theorem tracks_offer (ht : Tracks accepts e.hop.handshake)
    (hdue : e.hop.coopHopOfferWork.isSome = true) :
    Tracks
      (if (coopHopOfferBegin cfg
          (e.mapHop fun h => { h with coopHopOfferWork := none })).2.isSome then [] else accepts)
      (coopHopOfferBegin cfg
        (e.mapHop fun h => { h with coopHopOfferWork := none })).1.hop.handshake := by
  have htag : e.hop.lastTxWasOffer = false := by
    cases htag : e.hop.lastTxWasOffer with
    | false => rfl
    | true => exact Bool.noConfusion (hdue.symm.trans (ht.tagged htag).2)
  rcases @coopHopOfferBegin_cases cfg (e.mapHop fun h => { h with coopHopOfferWork := none }) with
    ⟨hnone, hkept | hidle⟩ | ⟨target, hlt, hstate, hsome, hbegun⟩
  · rw [hnone, hkept, Option.isSome_none, if_neg Bool.false_ne_true]
    exact ⟨fun h => Bool.noConfusion (htag.symm.trans h), ht.target_lt, ht.follows⟩
  · rw [hidle]
    exact Tracks.of_idle (by simp) htag
  · rw [hsome, if_pos rfl, hbegun]
    exact ⟨fun _ => ⟨hstate, rfl⟩, fun _ => hlt, fun _ hex => by simp at hex⟩

theorem tracks_commit (ht : Tracks accepts e.hop.handshake) :
    Tracks accepts (coopHopCommitWorkFn cfg
      (e.mapHop fun h => { h with coopHopCommitWork := none })).hop.handshake := by
  have hcommit := @handshake_coopHopCommitWorkFn cfg
    (e.mapHop fun h => { h with coopHopCommitWork := none })
  by_cases harmed : e.hop.coopHopState = .armed
  · rcases hcommit with hkept | hidle
    · rw [hkept]
      exact ht
    · rw [hidle]
      exact Tracks.of_idle (by simp)
        (ht.tag_of_state (show e.hop.coopHopState ≠ .offered by rw [harmed]; simp))
  · have hnot :
        (e.mapHop fun h => { h with coopHopCommitWork := none }).hop.coopHopState ≠ .armed :=
      harmed
    rw [coopHopCommitWorkFn, if_pos (bne_iff_ne.2 hnot)]
    exact ht

/-- The run's answers track its handshake. -/
def HopTrace.Tracked (s : HopTrace) : Prop := Tracks s.accepts s.e.hop.handshake

/-- **Every step tracks the offer.** -/
theorem HopTrace.Tracked.step (ht : s.Tracked) (op : HopOp) : (hopStep cfg s op).Tracked := by
  cases hplain : op.plain with
  | true =>
    obtain ⟨haccepts, hkept⟩ := @hopStep_of_plain cfg s _ op (tracks_closed s.accepts) ht hplain
    rw [HopTrace.Tracked, haccepts]
    exact hkept
  | false =>
    cases op with
    | rx buf len => exact fire_keeps (Q := HopTrace.Tracked) ht fun _ => tracks_rx ht
    | offer => exact fire_keeps (Q := HopTrace.Tracked) ht fun hdue => tracks_offer ht hdue
    | commit => exact fire_keeps (Q := HopTrace.Tracked) ht fun _ => tracks_commit ht
    | _ => exact Bool.noConfusion hplain

theorem tracked_start (cfg : Config) (deviceId : List UInt8) (saved : Option PairedRec) :
    (HopTrace.start cfg deviceId saved).Tracked := by
  have hboot : (HopTrace.start cfg deviceId saved).e.hop.handshake = HopEp.handshake {} := by
    have hinit : ∀ e : Endpoint, (pairingInit e).hop = e.hop := fun _ => rfl
    rw [HopTrace.start, hinit, Endpoint.start, hop_esbTransportOnSlotStart]
    rfl
  rw [HopTrace.Tracked, hboot]
  exact Tracks.of_idle (by decide) rfl

/-! ## Agreement -/

/-- **The channel after a commit.** -/
theorem channel_commit :
    (hopStep cfg s .commit).e.tp.channel =
      if commitsHop cfg s = true then s.e.hop.coopHopTarget else s.e.tp.channel := by
  have hwork : (coopHopCommitWorkFn cfg
      (s.e.mapHop fun h => { h with coopHopCommitWork := none })).tp.channel =
        if s.e.hop.coopHopState = .armed ∧ canSwitch cfg s.e s.e.hop.coopHopTarget = true then
          s.e.hop.coopHopTarget
        else s.e.tp.channel :=
    channel_coopHopCommitWorkFn
  simp only [hopStep, HopTrace.fire, commitsHop, Bool.and_eq_true, beq_iff_eq, bne_iff_ne]
  split
  · rename_i hdue
    refine hwork.trans ?_
    simp only [hdue, true_and]
    by_cases hsame : s.e.hop.coopHopTarget = s.e.tp.channel
    · rw [hsame, ite_self, ite_self]
    · simp only [hsame, ne_eq, not_false_eq_true, and_true]
  · rename_i hdue
    rw [if_neg fun h => hdue h.1.1.1]

theorem agreed_step_iff (ht : s.Tracked) (op : HopOp) :
    Agreed cfg s op ↔ AnsweredFirst cfg s op := by
  by_cases hcommit : op = .commit
  · subst hcommit
    simp only [Agreed, AnsweredFirst, forall_const, channel_commit]
    by_cases hhops : commitsHop cfg s = true
    · have hhops' := hhops
      simp only [commitsHop, Bool.and_eq_true, beq_iff_eq, bne_iff_ne] at hhops'
      have harmed : s.e.hop.handshake.state = .armed ∨ s.e.hop.handshake.lastTxWasOffer = true :=
        Or.inl hhops'.1.1.2
      simp only [hhops, if_true, forall_const]
      exact ⟨fun h => ⟨_, h hhops'.1.2, ht.target_lt harmed⟩, fun hex _ => ht.follows harmed hex⟩
    · rw [if_neg hhops]
      exact iff_of_true (fun h => absurd rfl h) fun h => absurd h hhops
  · exact iff_of_true (fun h => absurd h hcommit) fun h => absurd h hcommit

/-- **A cooperative hop has the dongle's agreement, exactly when the
dongle has answered each offer before its commit fires.** -/
theorem agreed_iff (cfg : Config) (deviceId : List UInt8) (saved : Option PairedRec)
    (ops : List HopOp) :
    Guarded (hopStep cfg) (Agreed cfg) (HopTrace.start cfg deviceId saved) ops ↔
      Guarded (hopStep cfg) (AnsweredFirst cfg) (HopTrace.start cfg deviceId saved) ops :=
  guarded_congr (I := HopTrace.Tracked) (fun _ op ht => ht.step op)
    (fun _ op ht => agreed_step_iff ht op) (tracked_start cfg deviceId saved)

/-- A dongle that only acknowledges is followed to a channel it never
agreed to. -/
theorem not_agreed : ¬ ∀ (cfg : Config) (deviceId : List UInt8) (saved : Option PairedRec)
    (ops : List HopOp),
    Guarded (hopStep cfg) (Agreed cfg) (HopTrace.start cfg deviceId saved) ops := by
  intro h
  have hrun := h .default [] none
    [.pairingStart, .rx [esbPktPairReq, 1, 2, 3, 4, 5, 6] 7, .txDone (.acked 0 []),
      .send esbPipeData [esbPktHidReport, esbReportKeyboard, 0, 0, 4, 0, 0, 0, 0, 0],
      .txDone (.acked 1 []),
      .send esbPipeData [esbPktHidReport, esbReportKeyboard, 0, 0, 0, 0, 0, 0, 0, 0],
      .txDone (.acked 1 []),
      .send esbPipeData [esbPktHidReport, esbReportKeyboard, 0, 0, 4, 0, 0, 0, 0, 0],
      .txDone (.acked 1 []),
      .send esbPipeData [esbPktHidReport, esbReportKeyboard, 0, 0, 0, 0, 0, 0, 0, 0],
      .txDone (.acked 1 []),
      .offer, .offerSend, .txDone (.acked 0 []), .commit]
  exact absurd hrun (by decide +kernel)

end EsbEndpoint
