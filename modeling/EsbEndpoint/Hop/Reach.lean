import EsbEndpoint.Hop.Agreement

/-!
# What a step can do to the hop manager

`HopMoves` lists what each step of the endpoint leaves in the hop
manager's statics, with what had to be the case for it (`HopWork` and
`CommitWork`, where it changes the channel). Every invariant of the
manager is proved from these lists, and for its entry points called on
their own as well, in any order (`EpOp`).
-/

namespace EsbEndpoint

variable (cfg : Config)

/-! ## Steps -/

/-- An entry point of the manager, called on its own. -/
inductive HopCall
  | onConnected
  | onDisconnected
  | noteUserTx
  | onTxFailIsr
  | onTxSuccessIsr
  | onLinkDegradedIsr
  | onRx (buf : List UInt8) (len : Nat)
  | onRequest
  deriving DecidableEq

def HopCall.apply (now : UInt32) (h : HopEp) : HopCall → HopEp
  | .onConnected => channelHopEpOnConnected cfg h
  | .onDisconnected => channelHopEpOnDisconnected cfg h
  | .noteUserTx => channelHopEpNoteUserTx cfg h
  | .onTxFailIsr => channelHopEpOnTxFailIsr cfg now h
  | .onTxSuccessIsr => channelHopEpOnTxSuccessIsr cfg now h
  | .onLinkDegradedIsr => channelHopEpOnLinkDegradedIsr cfg now h
  | .onRx buf len => channelHopEpOnRx cfg h buf len
  | .onRequest => channelHopEpOnRequest cfg now h

/-- A step of the endpoint, or a call of the manager by anyone. -/
inductive EpOp
  | step (op : HopOp)
  | call (entry : HopCall)
  deriving DecidableEq

def epStep (s : HopTrace) : EpOp → HopTrace
  | .step op => hopStep cfg s op
  | .call entry => { s with e := s.e.mapHop fun h => entry.apply cfg s.e.now h }

/-- `hop_work_fn` or `coop_hop_commit_work_fn` changes the channel. -/
def changesChannel (s : HopTrace) (op : EpOp) : Bool :=
  (op == .step .hop || op == .step .commit) && (epStep cfg s op).e.tp.channel != s.e.tp.channel

/-- `channel_hop_ep_on_disconnected` is called: by `pairing_stop`, by a
`DISCONNECT`, or by a `RESYNC` in `CONNECTED`. -/
def disconnects (s : HopTrace) : HopOp → Bool
  | .pairingStop => cfg.channelHop
  | .rx buf len =>
    cfg.channelHop && s.workq == .free && 0 < len &&
      (buf.getD 0 0 == esbPktDisconnect ||
        buf.getD 0 0 == esbPktResync && s.e.pairing.state == .connected)
  | _ => false

/-- Or by anyone. -/
def epDisconnects (s : HopTrace) : EpOp → Bool
  | .step op => disconnects cfg s op
  | .call entry => cfg.channelHop && entry == .onDisconnected

/-- `channel_hop_ep_on_connected` is called: by a `PAIR_REQ` in `UNPAIRED`,
by the peer's `VERIFY_RESP` in `VERIFYING`, or by anyone. -/
def epConnects (s : HopTrace) : EpOp → Bool
  | .step (.rx buf len) =>
    cfg.channelHop && s.workq == .free && 7 ≤ len &&
      (buf.getD 0 0 == esbPktPairReq && s.e.pairing.state == .unpaired ||
        buf.getD 0 0 == esbPktVerifyResp && s.e.pairing.state == .verifying &&
          deviceIdOf buf == s.e.pairing.peerDeviceId)
  | .step _ => false
  | .call entry => cfg.channelHop && entry == .onConnected

/-- `idle_check_work_fn` runs and finds the endpoint active. -/
def entersIdle (s : HopTrace) (op : HopOp) : Bool :=
  op == .idleCheck && s.workq == .free && s.e.hop.idleCheckWork.isSome && s.e.hop.linkUp &&
    s.e.hop.active

/-- What a step leaves in the hop manager. A work item has taken itself
off its queue. -/
inductive HopMoves (s : HopTrace) : HopOp → HopEp → Prop
  | kept (op : HopOp) : HopMoves s op s.e.hop
  | noted (pipe : Nat) (data : List UInt8) :
      HopMoves s (.send pipe data) (channelHopEpNoteUserTx cfg s.e.hop)
  | ended {outcome : TxOutcome} {h' : HopEp} (h : OnTxDone cfg s.e outcome h') :
      HopMoves s (.txDone outcome) h'
  | stopped : HopMoves s .pairingStop (channelHopEpOnDisconnected cfg s.e.hop)
  | packet {buf : List UInt8} {len : Nat} {p' : Pairing} {h' : HopEp} (hfree : s.workq = .free)
      (h : OnRx cfg s.e buf len p' h') : HopMoves s (.rx buf len) h'
  | negotiated (prngState : UInt32) (committedSynced : Bool) (requestBurstRemaining : UInt8)
      (negotiateWork : Delayable) (hdue : s.e.hop.negotiateWork.isSome = true) :
      HopMoves s .negotiate
        { s.e.hop with prngState, committedSynced, requestBurstRemaining, negotiateWork }
  | idleChecked (hdue : s.e.hop.idleCheckWork.isSome = true) :
      HopMoves s .idleCheck { s.e.hop with idleCheckWork := none }
  | idled (hidle : entersIdle s .idleCheck = true) :
      HopMoves s .idleCheck (enterIdleBegin cfg { s.e.hop with idleCheckWork := none })
  | burst (prngState : UInt32) (pendingCandidate postHopBurstRemaining : UInt8)
      (postHopBurstWork : Delayable) (hdue : s.e.hop.postHopBurstWork.isSome = true) :
      HopMoves s .postHopBurst
        { s.e.hop with prngState, pendingCandidate, postHopBurstRemaining, postHopBurstWork }
  | burstResumed (pendingCandidate : UInt8) (postHopBurstWork : Delayable)
      (htrip : s.workq = .sideTrip) :
      HopMoves s .sideTripEnd
        { s.e.hop with
          postHopBurstRemaining := s.e.hop.postHopBurstRemaining - 1
          pendingCandidate, postHopBurstWork }
  | hop {h' : HopEp} {channel : UInt8} (hfree : s.workq = .free) (hdue : s.e.hop.hopWork = true)
      (h : HopWork cfg (s.e.mapHop fun h => { h with hopWork := false }) h' channel) :
      HopMoves s .hop h'
  | retried (hdue : s.e.hop.hopRetryWork.isSome = true) :
      HopMoves s .hopRetry { s.e.hop with hopRetryWork := none, hopWork := true }
  | offerStale : HopMoves s .offer { s.e.hop with coopHopOfferWork := none }
  | offerDropped (prngState : UInt32) :
      HopMoves s .offer
        { s.e.hop with coopHopOfferWork := none, prngState, coopHopState := .idle }
  | offerBegun (prngState : UInt32) (target : UInt8) (hstate : s.e.hop.coopHopState = .offered) :
      HopMoves s .offer
        { s.e.hop with
          coopHopOfferWork := none
          prngState
          coopHopTarget := target
          coopHopSeq := s.e.hop.coopHopSeq + 1
          lastTxWasOffer := true }
  | offerSent : HopMoves s .offerSend (channelHopEpNoteUserTx cfg s.e.hop)
  | offerWithdrawn {h' : HopEp} (h : h' = s.e.hop ∨ h' = channelHopEpNoteUserTx cfg s.e.hop) :
      HopMoves s .offerSend { h' with lastTxWasOffer := false, coopHopState := .idle }
  | commit {h' : HopEp} {channel : UInt8} (hfree : s.workq = .free)
      (hdue : s.e.hop.coopHopCommitWork.isSome = true)
      (h : CommitWork cfg (s.e.mapHop fun h => { h with coopHopCommitWork := none }) h' channel) :
      HopMoves s .commit h'

variable {cfg}

/-- A work item that does not run keeps the manager as it is. -/
theorem HopMoves.fire {op : HopOp} {due : Bool} {next : HopTrace}
    (h : s.workq = .free → due = true → HopMoves cfg s op next.e.hop) :
    HopMoves cfg s op (s.fire due next).e.hop := by
  unfold HopTrace.fire
  split
  · rename_i hrun
    exact h hrun.1 hrun.2
  · exact HopMoves.kept op

theorem hopMoves_offer : HopMoves cfg s .offer
    (coopHopOfferBegin cfg (s.e.mapHop fun h => { h with coopHopOfferWork := none })).1.hop := by
  unfold coopHopOfferBegin
  split
  · exact HopMoves.offerDropped s.e.hop.prngState
  · split
    · exact HopMoves.offerStale
    · rename_i hstate
      rw [bne_iff_ne, not_not] at hstate
      obtain ⟨prngState, hpick⟩ : ∃ prngState, (coopHopPickTarget cfg
          (s.e.mapHop fun h => { h with coopHopOfferWork := none })).1 =
            s.e.mapHop fun h => { h with coopHopOfferWork := none, prngState } := by
        unfold coopHopPickTarget
        split <;> exact ⟨_, rfl⟩
      generalize coopHopPickTarget cfg
        (s.e.mapHop fun h => { h with coopHopOfferWork := none }) = picked at hpick
      obtain ⟨e', target⟩ := picked
      obtain rfl : e' = _ := hpick
      simp only []
      split
      · exact HopMoves.offerDropped prngState
      · exact HopMoves.offerBegun prngState target hstate

theorem hopMoves_offerSend (pkt : List UInt8) :
    HopMoves cfg s .offerSend (coopHopOfferSend cfg s.e pkt).hop := by
  have hsend := hop_esbTransportSend cfg s.e esbPipeData pkt
  unfold coopHopOfferSend
  split
  · rename_i heq
    rw [heq] at hsend
    rcases hsend with hsend | hsend
    · rw [hsend]
      exact HopMoves.kept _
    · rw [hsend]
      exact HopMoves.offerSent
  · rename_i heq
    rw [heq] at hsend
    exact HopMoves.offerWithdrawn hsend

/-- **Every step is one of the list.** -/
theorem hopMoves_hopStep (op : HopOp) : HopMoves cfg s op (hopStep cfg s op).e.hop := by
  cases op with
  | send pipe data =>
    rcases hop_esbTransportSend cfg s.e pipe data with h | h
    · rw [hopStep, h]
      exact HopMoves.kept _
    · rw [hopStep, h]
      exact HopMoves.noted pipe data
  | txDone outcome => exact HopMoves.ended (onTxDone_txDone outcome)
  | slotStart =>
    rw [hopStep, hop_esbTransportOnSlotStart]
    exact HopMoves.kept _
  | pairingStop =>
    rw [hopStep, pairingStop, hop_notifyDisconnected]
    exact HopMoves.stopped
  | rx buf len =>
    exact HopMoves.fire fun hfree _ => HopMoves.packet hfree (onRx_pairingOnRx buf len)
  | beacon =>
    refine HopMoves.fire fun _ _ => ?_
    rw [hop_beaconWorkFn]
    exact HopMoves.kept _
  | verify =>
    refine HopMoves.fire fun _ _ => ?_
    rw [hop_verifyWorkFn]
    exact HopMoves.kept _
  | negotiate =>
    refine HopMoves.fire fun _ hdue => ?_
    obtain ⟨_, _, _, _, hhop⟩ := @hop_negotiateWorkFn cfg
      (s.e.mapHop fun h => { h with negotiateWork := none })
    rw [hhop]
    exact HopMoves.negotiated _ _ _ _ hdue
  | idleCheck =>
    refine HopMoves.fire fun hfree hdue => ?_
    unfold idleCheckBegin
    split
    · rename_i hup
      refine HopMoves.idled ?_
      simp only [Endpoint.mapHop_hop, Bool.and_eq_true] at hup
      simp only [entersIdle, beq_self_eq_true, hfree, hdue, hup.1, hup.2, Bool.and_self]
    · exact HopMoves.idleChecked hdue
  | postHopBurst =>
    have hburst : s.e.hop.postHopBurstWork.isSome = true → HopMoves cfg s .postHopBurst
        (postHopBurstWorkFn cfg
          (s.e.mapHop fun h => { h with postHopBurstWork := none })).1.hop := by
      intro hdue
      obtain ⟨_, _, _, _, hhop⟩ := @hop_postHopBurstWorkFn cfg
        (s.e.mapHop fun h => { h with postHopBurstWork := none })
      rw [hhop]
      exact HopMoves.burst _ _ _ _ hdue
    exact HopMoves.fire fun _ hdue => hburst hdue
  | sideTripEnd =>
    rw [hopStep]
    split
    · rename_i htrip
      obtain ⟨_, _, hhop⟩ := @hop_postHopBurstResume cfg s.e
      rw [hhop]
      exact HopMoves.burstResumed _ _ htrip
    · exact HopMoves.kept _
  | hop =>
    exact HopMoves.fire fun hfree hdue => HopMoves.hop hfree hdue hopWork_hopWorkFn
  | hopRetry => exact HopMoves.fire fun _ hdue => HopMoves.retried hdue
  | offer => exact HopMoves.fire fun _ _ => hopMoves_offer
  | offerSend =>
    rw [hopStep]
    split
    · exact hopMoves_offerSend _
    · exact HopMoves.kept _
  | commit =>
    exact HopMoves.fire fun hfree hdue =>
      HopMoves.commit hfree hdue commitWork_coopHopCommitWorkFn
  | _ => exact HopMoves.kept _

theorem changesChannel_eq_false {op : EpOp} (hhop : op ≠ .step .hop)
    (hcommit : op ≠ .step .commit) : changesChannel cfg s op = false := by
  rw [changesChannel, beq_eq_false_iff_ne.2 hhop, beq_eq_false_iff_ne.2 hcommit, Bool.false_or,
    Bool.false_and]

/-- A packet that disconnects is one of the two. -/
theorem disconnects_of_disconnect {buf : List UInt8} {len : Nat} (hhop : cfg.channelHop = true)
    (hfree : s.workq = .free) (htype : buf.getD 0 0 = esbPktDisconnect) (hlen : 0 < len) :
    disconnects cfg s (.rx buf len) = true := by
  simp only [disconnects, hhop, hfree, htype, hlen, decide_true, beq_self_eq_true, Bool.and_self,
    Bool.true_or]

theorem disconnects_of_resync {buf : List UInt8} {len : Nat} (hhop : cfg.channelHop = true)
    (hfree : s.workq = .free) (htype : buf.getD 0 0 = esbPktResync) (hlen : 0 < len)
    (hstate : s.e.pairing.state = .connected) : disconnects cfg s (.rx buf len) = true := by
  simp only [disconnects, hhop, hfree, htype, hlen, hstate, decide_true, beq_self_eq_true,
    Bool.and_self, Bool.or_true]

/-- A packet that connects is one of the two. -/
theorem epConnects_of_paired {buf : List UInt8} {len : Nat} (hhop : cfg.channelHop = true)
    (hfree : s.workq = .free) (htype : buf.getD 0 0 = esbPktPairReq) (hlen : 7 ≤ len)
    (hstate : s.e.pairing.state = .unpaired) : epConnects cfg s (.step (.rx buf len)) = true := by
  simp only [epConnects, hhop, hfree, htype, hlen, hstate, decide_true, beq_self_eq_true,
    Bool.and_self, Bool.true_or]

theorem epConnects_of_verified {buf : List UInt8} {len : Nat} (hhop : cfg.channelHop = true)
    (hfree : s.workq = .free) (htype : buf.getD 0 0 = esbPktVerifyResp) (hlen : 7 ≤ len)
    (hstate : s.e.pairing.state = .verifying) (hid : deviceIdOf buf = s.e.pairing.peerDeviceId) :
    epConnects cfg s (.step (.rx buf len)) = true := by
  simp only [epConnects, hhop, hfree, htype, hlen, hstate, hid, decide_true, beq_self_eq_true,
    Bool.and_self, Bool.or_true]

/-- **What the manager's entry points keep, a received packet keeps.** -/
theorem OnRx.keeps {P : HopEp → Prop} {buf : List UInt8} {len : Nat} {p' : Pairing} {h' : HopEp}
    (hfree : s.workq = .free) (hp : P s.e.hop) (hnote : P (channelHopEpNoteUserTx cfg s.e.hop))
    (hconnect : (cfg.channelHop = true → epConnects cfg s (.step (.rx buf len)) = true) →
      P (channelHopEpOnConnected cfg s.e.hop))
    (hdisconnect : (cfg.channelHop = true → disconnects cfg s (.rx buf len) = true) →
      P (channelHopEpOnDisconnected cfg s.e.hop))
    (hanswer : P (channelHopEpOnRx cfg s.e.hop buf len))
    (hrequest : P (channelHopEpOnRequest cfg s.e.now s.e.hop))
    (hrx : OnRx cfg s.e buf len p' h') : P h' := by
  cases hrx with
  | ignored => exact hp
  | nudged => exact hnote
  | paired htype hlen hstate =>
    exact hconnect fun hhop => epConnects_of_paired hhop hfree htype hlen hstate
  | verified htype hlen hstate hid =>
    exact hconnect fun hhop => epConnects_of_verified hhop hfree htype hlen hstate hid
  | disconnected htype hlen =>
    exact hdisconnect fun hhop => disconnects_of_disconnect hhop hfree htype hlen
  | resynced htype hlen hstate =>
    exact hdisconnect fun hhop => disconnects_of_resync hhop hfree htype hlen hstate
  | answered htype => exact hanswer
  | requested htype hlen => exact hrequest

/-- A disconnect is what a step that makes one leaves. -/
theorem hop_of_disconnects {op : HopOp} (hdis : disconnects cfg s op = true) :
    cfg.channelHop = true ∧
      (hopStep cfg s op).e.hop = channelHopEpOnDisconnected cfg s.e.hop := by
  cases op with
  | pairingStop =>
    refine ⟨hdis, ?_⟩
    rw [hopStep, pairingStop, hop_notifyDisconnected]
    rfl
  | rx buf len =>
    simp only [disconnects, Bool.and_eq_true, Bool.or_eq_true, beq_iff_eq, decide_eq_true_eq]
      at hdis
    obtain ⟨⟨⟨hhop, hfree⟩, hlen⟩, htype⟩ := hdis
    have hpos : ¬ len < 1 := by omega
    have hstep : (hopStep cfg s (.rx buf len)).e = pairingOnRx cfg s.e buf len := by
      rw [hopStep, HopTrace.fire, if_pos ⟨hfree, rfl⟩]
    refine ⟨hhop, ?_⟩
    rw [hstep, pairingOnRx, if_neg hpos]
    rcases htype with htype | ⟨htype, hstate⟩
    · rw [htype]
      exact hop_notifyDisconnected
    · have hresync : (onResync cfg s.e).hop = channelHopEpOnDisconnected cfg s.e.hop := by
        rw [onResync, if_pos (beq_iff_eq.2 hstate), hop_notifyDisconnected]
        rfl
      rw [htype]
      exact hresync
  | _ => exact Bool.noConfusion hdis

/-- A run starts with the manager's statics as they are declared. -/
theorem hop_start (deviceId : List UInt8) (saved : Option PairedRec) :
    (HopTrace.start cfg deviceId saved).e.hop = {} := by
  have hinit : ∀ e : Endpoint, (pairingInit e).hop = e.hop := fun _ => rfl
  rw [HopTrace.start, hinit, Endpoint.start, hop_esbTransportOnSlotStart]
  rfl

end EsbEndpoint
