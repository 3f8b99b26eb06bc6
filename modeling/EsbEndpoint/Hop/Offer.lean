import EsbEndpoint.Hop.Quiescent

/-!
# The offer's own event

A handshake waits in `OFFERED` for what becomes of its `HOP_OFFER`. The
manager does not follow the packet: `m_last_tx_was_offer` is set when the
packet is handed to the transport, and the next event that reaches the
manager is taken for its own. That is right when the offer is on the air
at that event and wrong when an older packet is, or when the offer was
dropped in the quiet window or flushed; and a `REQUEST` is no event at all
(`OfferTagged`).
-/

namespace EsbEndpoint

variable (cfg : Config)

/-! ## Events of the offer -/

/-- The packet on the air is the offer that carries the current number. -/
def offerOnAir (e : Endpoint) : Bool :=
  match e.radio.state.onAir with
  | some q => isType esbPktHopOffer q.data && q.data.getD 3 0 == e.hop.coopHopSeq
  | none => false

/-- The offer's `TX_SUCCESS`. -/
def acksOffer (e : Endpoint) : HopOp → Bool
  | .txDone outcome => canEnd cfg e outcome && outcome != .exhausted && offerOnAir e
  | _ => false

/-- The offer's `TX_FAILED`. -/
def failsOffer (e : Endpoint) : HopOp → Bool
  | .txDone outcome => canEnd cfg e outcome && outcome == .exhausted && offerOnAir e
  | _ => false

/-- `coop_hop_offer_work_fn` gives up: it has no channel to offer, or its
send fails. -/
def refusesOffer (s : HopTrace) : HopOp → Bool
  | .offer =>
    (coopHopOfferBegin cfg (s.e.mapHop fun h => { h with coopHopOfferWork := none })).2.isNone
  | .offerSend =>
    match s.workq with
    | .offering pkt => (esbTransportSend cfg s.e esbPipeData pkt).2.isSome
    | _ => false
  | _ => false

/-- **`OFFERED` is left on the offer's own event**: for `ARMED` exactly at
its `TX_SUCCESS`, and for `IDLE` only at its `TX_FAILED`, when it could
not be sent, on going idle, or when the link goes down. -/
def OwnEvent (s : HopTrace) (op : HopOp) : Prop :=
  s.e.hop.coopHopState = .offered →
    ((hopStep cfg s op).e.hop.coopHopState = .armed ↔ acksOffer cfg s.e op = true) ∧
    ((hopStep cfg s op).e.hop.coopHopState = .idle →
      failsOffer cfg s.e op = true ∨ refusesOffer cfg s op = true ∨ entersIdle s op = true ∨
        disconnects cfg s op = true)

instance (s : HopTrace) (op : HopOp) : Decidable (OwnEvent cfg s op) :=
  inferInstanceAs (Decidable (_ → (_ ↔ _) ∧ (_ → _ ∨ _ ∨ _ ∨ _)))

/-- The condition on a step of a handshake in `OFFERED`: a success finds
the tag set, outside a side-trip, just when the offer is on the air; a
failure that reaches the manager with the tag set finds it there; and a
`REQUEST` does not find the tag set. -/
def OfferTagged (s : HopTrace) (op : HopOp) : Prop :=
  s.e.hop.coopHopState = .offered →
    match op with
    | .txDone outcome =>
      canEnd cfg s.e outcome = true →
        if outcome = .exhausted then
          syncing cfg s.e = false → s.e.hop.lastTxWasOffer = true → 0 < failHooks cfg s.e →
            offerOnAir s.e = true
        else (syncing cfg s.e = false ∧ s.e.hop.lastTxWasOffer = true ↔ offerOnAir s.e = true)
    | .rx buf len =>
      s.workq = .free → 0 < len → buf.getD 0 0 = esbPktChannelHopRequest →
        s.e.hop.linkUp = true → s.e.hop.lastTxWasOffer = false
    | _ => True

variable {cfg} {s : HopTrace} {h h' : HopEp} {now : UInt32}

/-! ## What an event does to an offer that is out -/

theorem state_onTxSuccess_of_offered (hcoop : cfg.coopHop = true)
    (hoffered : h.coopHopState = .offered) :
    (channelHopEpOnTxSuccessIsr cfg now h).coopHopState =
      if h.lastTxWasOffer = true then .armed else .offered := by
  have hhop := cfg.coopHop_dep hcoop
  unfold channelHopEpOnTxSuccessIsr
  rw [hhop, Bool.not_true, if_neg Bool.false_ne_true]
  simp only [onOfferAcked, hcoop, Bool.true_and]
  split
  · rw [hoffered, beq_self_eq_true, if_pos rfl]
  · exact hoffered

/-- A failure without the tag moves no handshake. -/
theorem state_onTxFail_of_untagged (htag : h.lastTxWasOffer = false) :
    (channelHopEpOnTxFailIsr cfg now h).coopHopState = h.coopHopState ∧
      (channelHopEpOnTxFailIsr cfg now h).lastTxWasOffer = false := by
  have hoffer : onOfferFailed cfg h = (h, false) := by
    unfold onOfferFailed
    rw [htag, Bool.and_false, if_neg Bool.false_ne_true]
  simp only [channelHopEpOnTxFailIsr, hoffer, Bool.false_eq_true, if_false]
  repeat' split
  all_goals exact ⟨rfl, htag⟩

/-- One with it ends an offer, and spends it. -/
theorem state_onTxFail_of_offered (hcoop : cfg.coopHop = true)
    (hoffered : h.coopHopState = .offered) :
    (channelHopEpOnTxFailIsr cfg now h).coopHopState =
        (if h.lastTxWasOffer = true then .idle else .offered) ∧
      (channelHopEpOnTxFailIsr cfg now h).lastTxWasOffer = false := by
  have hhop := cfg.coopHop_dep hcoop
  cases htag : h.lastTxWasOffer with
  | true =>
    have hoffer : onOfferFailed cfg h =
        ({ h with lastTxWasOffer := false, coopHopState := .idle }, true) := by
      simp only [onOfferFailed, hcoop, htag, Bool.and_self, if_true, hoffered, beq_self_eq_true]
    simp only [channelHopEpOnTxFailIsr, hhop, hoffer, Bool.not_true, Bool.false_eq_true, if_false,
      if_true, and_self]
  | false =>
    obtain ⟨hstate, hkept⟩ := @state_onTxFail_of_untagged cfg h now htag
    exact ⟨hstate.trans hoffered, hkept⟩

/-- **Failures end a tagged offer**, however many triggers they set off. -/
theorem state_failed (hcoop : cfg.coopHop = true) (hoffered : h.coopHopState = .offered) (n : Nat) :
    ((channelHopEpOnTxFailIsr cfg now)^[n] h).coopHopState =
      if h.lastTxWasOffer = true ∧ 0 < n then .idle else .offered := by
  have hspent : ∀ n, ((channelHopEpOnTxFailIsr cfg now)^[n + 1] h).coopHopState =
        (if h.lastTxWasOffer = true then .idle else .offered) ∧
      ((channelHopEpOnTxFailIsr cfg now)^[n + 1] h).lastTxWasOffer = false := by
    intro n
    induction n with
    | zero => exact state_onTxFail_of_offered hcoop hoffered
    | succ n ih =>
      rw [Function.iterate_succ_apply']
      have hkept := @state_onTxFail_of_untagged cfg _ now ih.2
      exact ⟨hkept.1.trans ih.1, hkept.2⟩
  cases n with
  | zero => simp only [Function.iterate_zero_apply, hoffered, lt_irrefl, and_false, if_false]
  | succ n =>
    rw [(hspent n).1]
    simp only [Nat.succ_pos, and_true]

/-- A disconnect ends every handshake. -/
theorem state_onDisconnected (hcoop : cfg.coopHop = true) :
    (channelHopEpOnDisconnected cfg h).coopHopState = .idle := by
  unfold channelHopEpOnDisconnected
  rw [cfg.coopHop_dep hcoop, Bool.not_true, if_neg Bool.false_ne_true, hcoop]
  rfl

/-! ## Steps and runs -/

/-- A step that has nothing to do with an offer that is out. -/
def HopOp.passesBy : HopOp → Bool
  | .txDone _ | .rx _ _ | .pairingStop | .idleCheck | .offer | .offerSend => false
  | _ => true

theorem state_of_passesBy {op : HopOp} (hpasses : op.passesBy = true)
    (hoffered : s.e.hop.coopHopState = .offered) :
    (hopStep cfg s op).e.hop.coopHopState = .offered := by
  have hmoves := @hopMoves_hopStep cfg s op
  generalize (hopStep cfg s op).e.hop = h' at hmoves ⊢
  cases hmoves with
  | noted pipe data =>
    exact (congrArg Handshake.state (@handshake_noteUserTx cfg s.e.hop)).trans hoffered
  | hop hfree hdue hwork => cases hwork <;> exact hoffered
  | commit hfree hdue hwork =>
    have hunarmed : s.e.hop.coopHopState ≠ .armed := by rw [hoffered]; simp
    cases hwork with
    | unarmed hstate => exact hoffered
    | stayed hstate htarget => exact absurd hstate hunarmed
    | refused hstate htarget hno => exact absurd hstate hunarmed
    | committed _ _ _ _ hstate htarget hyes => exact absurd hstate hunarmed
  | ended hdone => exact Bool.noConfusion hpasses
  | stopped => exact Bool.noConfusion hpasses
  | packet hfree hrx => exact Bool.noConfusion hpasses
  | idled hidle => exact Bool.noConfusion hpasses
  | offerDropped prng => exact Bool.noConfusion hpasses
  | offerSent => exact Bool.noConfusion hpasses
  | offerWithdrawn hsent => exact Bool.noConfusion hpasses
  | _ => exact hoffered

/-- A step that leaves the handshake out asks nothing of the offer. -/
theorem ownEvent_of_offered {op : HopOp} (hout : (hopStep cfg s op).e.hop.coopHopState = .offered)
    (hack : acksOffer cfg s.e op = false) : OwnEvent cfg s op := by
  intro _
  refine ⟨iff_of_false ?_ (by simp [hack]), fun hidle => ?_⟩
  · rw [hout]
    simp
  · exact absurd (hout.symm.trans hidle) (by simp)

section Step

variable (hcoop : cfg.coopHop = true) (hoffered : s.e.hop.coopHopState = .offered)
include hcoop hoffered

/-- **A success** arms the offer just where the tag is set outside a
side-trip. -/
theorem ownEvent_success_iff {outcome : TxOutcome} (hout : outcome ≠ .exhausted) :
    OwnEvent cfg s (.txDone outcome) ↔ OfferTagged cfg s (.txDone outcome) := by
  have hhop := cfg.coopHop_dep hcoop
  have hneq : (outcome != .exhausted) = true := bne_iff_ne.2 hout
  have hdone := @onTxDone_txDone cfg s.e outcome
  have hkept : (txDone cfg s.e outcome).hop = s.e.hop →
      (canEnd cfg s.e outcome = true → syncing cfg s.e = true) →
      (OwnEvent cfg s (.txDone outcome) ↔ OfferTagged cfg s (.txDone outcome)) := by
    -- the handler passes the manager by, and so do the two conditions
    intro hsame hsync
    simp only [OwnEvent, OfferTagged, hopStep, hsame, hoffered, acksOffer, hneq, Bool.and_true,
      Bool.and_eq_true, hout, if_false, forall_const, reduceCtorEq, false_iff, false_implies,
      and_true, not_and]
    refine forall_congr' fun hend => ?_
    simp only [hsync hend, Bool.true_eq_false, false_and, false_iff]
  have hended : ∀ h', (txDone cfg s.e outcome).hop = h' → canEnd cfg s.e outcome = true →
      syncing cfg s.e = false →
      h'.coopHopState = (if s.e.hop.lastTxWasOffer = true then .armed else .offered) →
      (OwnEvent cfg s (.txDone outcome) ↔ OfferTagged cfg s (.txDone outcome)) := by
    intro h' hh' hend hsync hstate
    have hidle : (if s.e.hop.lastTxWasOffer = true then CoopHopState.armed else .offered) ≠
        .idle := by
      split <;> simp
    have harmed : (if s.e.hop.lastTxWasOffer = true then CoopHopState.armed else .offered) =
        .armed ↔ s.e.hop.lastTxWasOffer = true := by
      split <;> simp_all
    simp only [OwnEvent, OfferTagged, hopStep, hh', hstate, hoffered, acksOffer, hneq, hend, hsync,
      Bool.and_true, Bool.true_and, hout, if_false, forall_const, harmed, true_and, hidle,
      false_implies, and_true]
  generalize hh' : (txDone cfg s.e outcome).hop = h' at hdone
  cases hdone with
  | kept hno =>
    refine hkept hh' fun hend => ?_
    rcases hno with hno | hno | hno
    · exact Bool.noConfusion (hno.symm.trans hend)
    · exact hno
    · exact Bool.noConfusion (hno.symm.trans hhop)
  | acked hend _ hsync =>
    exact hended _ hh' hend hsync (state_onTxSuccess_of_offered hcoop hoffered)
  | degraded hend _ hsync =>
    refine hended _ hh' hend hsync ?_
    have hstate := @state_onTxSuccess_of_offered cfg s.e.hop s.e.now hcoop hoffered
    -- a degraded link makes no new offer while one is out
    rcases @onLinkDegradedIsr_cases cfg s.e.now (channelHopEpOnTxSuccessIsr cfg s.e.now s.e.hop)
      with hs | ⟨-, -, -, hidle, -⟩
    · rw [hs]
      exact hstate
    · rw [hidle] at hstate
      split at hstate <;> exact absurd hstate (by simp)
  | failed hend hexhausted hsync => exact absurd hexhausted hout

/-- **A failure** that reaches the manager ends the offer just where the
tag is set. -/
theorem ownEvent_failure_iff :
    OwnEvent cfg s (.txDone .exhausted) ↔ OfferTagged cfg s (.txDone .exhausted) := by
  have hhop := cfg.coopHop_dep hcoop
  have hdone := @onTxDone_txDone cfg s.e .exhausted
  have hrest : refusesOffer cfg s (.txDone .exhausted) = false ∧
      entersIdle s (.txDone .exhausted) = false ∧
      disconnects cfg s (.txDone .exhausted) = false := by
    refine ⟨rfl, ?_, rfl⟩
    simp [entersIdle]
  have hstate : (txDone cfg s.e .exhausted).hop.coopHopState =
      if canEnd cfg s.e .exhausted = true ∧ syncing cfg s.e = false ∧
        s.e.hop.lastTxWasOffer = true ∧ 0 < failHooks cfg s.e then .idle else .offered := by
    generalize hh' : (txDone cfg s.e .exhausted).hop = h' at hdone
    cases hdone with
    | kept hno =>
      rw [if_neg]
      · exact hoffered
      · rintro ⟨hend, hsync, -⟩
        rcases hno with hno | hno | hno
        · exact Bool.noConfusion (hno.symm.trans hend)
        · exact Bool.noConfusion (hsync.symm.trans hno)
        · exact Bool.noConfusion (hno.symm.trans hhop)
    | acked _ hout _ => exact absurd rfl hout
    | degraded _ hout _ => exact absurd rfl hout
    | failed hend _ hsync =>
      rw [state_failed hcoop hoffered]
      simp only [hend, hsync, true_and]
  simp only [OwnEvent, OfferTagged, hopStep, hstate, hoffered, acksOffer, failsOffer, hrest,
    bne_self_eq_false, beq_self_eq_true, Bool.and_false, Bool.false_and, Bool.and_true,
    Bool.and_eq_true, forall_const, Bool.false_eq_true, or_false, iff_false, if_true]
  constructor
  · rintro ⟨-, hidle⟩ hend hsync htag hhooks
    refine (hidle ?_).2
    rw [if_pos ⟨hend, hsync, htag, hhooks⟩]
  · intro htagged
    constructor
    · split <;> simp
    -- the offer ended, so the tag was set and some trigger tripped
    · intro hidle
      split at hidle
      · rename_i hall
        exact ⟨hall.1, htagged hall.1 hall.2.1 hall.2.2.1 hall.2.2.2⟩
      · exact absurd hidle (by simp)

/-- A `REQUEST` on a link that is up fails the packet that holds the tag. -/
theorem state_of_request {buf : List UInt8} {len : Nat} (hfree : s.workq = .free)
    (hlen : 0 < len) (htype : buf.getD 0 0 = esbPktChannelHopRequest)
    (hlink : s.e.hop.linkUp = true) :
    (hopStep cfg s (.rx buf len)).e.hop.coopHopState =
      if s.e.hop.lastTxWasOffer = true then .idle else .offered := by
  have hhop := cfg.coopHop_dep hcoop
  have hpos : ¬ len < 1 := by omega
  have hrx : pairingOnRx cfg s.e buf len = s.e.mapHop (channelHopEpOnRequest cfg s.e.now) := by
    rw [pairingOnRx, if_neg hpos, htype]
    exact if_pos hhop
  have hstep : (hopStep cfg s (.rx buf len)).e = pairingOnRx cfg s.e buf len := by
    rw [hopStep, HopTrace.fire, if_pos ⟨hfree, rfl⟩]
  have hasked : channelHopEpOnRequest cfg s.e.now s.e.hop =
      channelHopEpOnTxFailIsr cfg s.e.now
        { s.e.hop with
          requestBurstRemaining := UInt8.ofNat cfg.channelHopRequestBurstCount
          committedSynced := false
          negotiateWork := some 0 } := by
    unfold channelHopEpOnRequest
    rw [if_neg (by simp [hhop]), if_neg (by simp [hlink])]
  rw [hstep, hrx, Endpoint.mapHop_hop, hasked]
  refine (@state_onTxFail_of_offered cfg _ s.e.now hcoop ?_).1
  exact hoffered

/-- So it ends the offer just where that is the offer's tag. -/
theorem ownEvent_request_iff {buf : List UInt8} {len : Nat} (hfree : s.workq = .free)
    (hlen : 0 < len) (htype : buf.getD 0 0 = esbPktChannelHopRequest)
    (hlink : s.e.hop.linkUp = true) :
    OwnEvent cfg s (.rx buf len) ↔ OfferTagged cfg s (.rx buf len) := by
  have hstate := state_of_request hcoop hoffered hfree hlen htype hlink
  have hnone : acksOffer cfg s.e (.rx buf len) = false ∧
      failsOffer cfg s.e (.rx buf len) = false ∧ refusesOffer cfg s (.rx buf len) = false ∧
      entersIdle s (.rx buf len) = false ∧ disconnects cfg s (.rx buf len) = false := by
    have hneither : (esbPktChannelHopRequest == esbPktDisconnect ||
        esbPktChannelHopRequest == esbPktResync && s.e.pairing.state == .connected) = false := rfl
    refine ⟨rfl, rfl, rfl, ?_, ?_⟩
    · simp [entersIdle]
    · rw [disconnects, htype, hneither, Bool.and_false]
  simp only [OwnEvent, OfferTagged, hstate, hoffered, hnone, hfree, hlen, htype, hlink,
    forall_const, Bool.false_eq_true, or_false, imp_false]
  cases s.e.hop.lastTxWasOffer <;> simp

/-- No other packet ends it but with the link. -/
theorem ownEvent_of_no_request {buf : List UInt8} {len : Nat} (hfree : s.workq = .free)
    (hrequest : ¬((0 < len ∧ buf.getD 0 0 = esbPktChannelHopRequest) ∧ s.e.hop.linkUp = true)) :
    OwnEvent cfg s (.rx buf len) := by
  have hhop := cfg.coopHop_dep hcoop
  have hack : acksOffer cfg s.e (.rx buf len) = false := rfl
  have hstep : (hopStep cfg s (.rx buf len)).e = pairingOnRx cfg s.e buf len := by
    rw [hopStep, HopTrace.fire, if_pos ⟨hfree, rfl⟩]
  have hrx := @onRx_pairingOnRx cfg s.e buf len
  rw [← hstep] at hrx
  generalize hp' : (hopStep cfg s (.rx buf len)).e.pairing = p' at hrx
  generalize hh' : (hopStep cfg s (.rx buf len)).e.hop = h' at hrx
  have hleft : h'.coopHopState = .offered → OwnEvent cfg s (.rx buf len) :=
    fun hout => ownEvent_of_offered (by rw [hh']; exact hout) hack
  have hdown : disconnects cfg s (.rx buf len) = true → h'.coopHopState = .idle →
      OwnEvent cfg s (.rx buf len) := by
    intro hdis hidle _
    refine ⟨iff_of_false ?_ (by simp [hack]), fun _ => Or.inr (Or.inr (Or.inr hdis))⟩
    rw [hh', hidle]
    simp
  cases hrx with
  | ignored => exact hleft hoffered
  | nudged =>
    exact hleft ((congrArg Handshake.state (@handshake_noteUserTx cfg s.e.hop)).trans hoffered)
  | paired htype hlen hstate =>
    exact hleft ((congrArg Handshake.state (@handshake_onConnected cfg s.e.hop)).trans hoffered)
  | verified htype hlen hstate hid =>
    exact hleft ((congrArg Handshake.state (@handshake_onConnected cfg s.e.hop)).trans hoffered)
  | disconnected htype hlen =>
    exact hdown (disconnects_of_disconnect hhop hfree htype hlen) (state_onDisconnected hcoop)
  | resynced htype hlen hstate =>
    exact hdown (disconnects_of_resync hhop hfree htype hlen hstate) (state_onDisconnected hcoop)
  | answered htype =>
    obtain ⟨_, _, _, _, _, hs⟩ := @onRx_cases cfg s.e.hop buf len
    refine hleft ?_
    rw [hs]
    exact hoffered
  | requested htype hlen =>
    rcases @onRequest_cases cfg s.e.now s.e.hop with hs | ⟨hlink, -⟩
    · refine hleft ?_
      rw [hs]
      exact hoffered
    · exact absurd ⟨⟨hlen, htype⟩, hlink⟩ hrequest

/-- **A packet** ends the offer without being its event just where it is a
`REQUEST` that finds the tag set. -/
theorem ownEvent_rx_iff (buf : List UInt8) (len : Nat) :
    OwnEvent cfg s (.rx buf len) ↔ OfferTagged cfg s (.rx buf len) := by
  by_cases hfree : s.workq = .free
  · by_cases hrequest : (0 < len ∧ buf.getD 0 0 = esbPktChannelHopRequest) ∧
        s.e.hop.linkUp = true
    · exact ownEvent_request_iff hcoop hoffered hfree hrequest.1.1 hrequest.1.2 hrequest.2
    · refine iff_of_true (ownEvent_of_no_request hcoop hoffered hfree hrequest) ?_
      intro _ _ hlen htype hlink
      exact absurd ⟨⟨hlen, htype⟩, hlink⟩ hrequest
  · have hstep : hopStep cfg s (.rx buf len) = s := by
      rw [hopStep, HopTrace.fire, if_neg fun h => hfree h.1]
    refine iff_of_true (ownEvent_of_offered (by rw [hstep]; exact hoffered) rfl) ?_
    exact fun _ hfree' => absurd hfree' hfree

end Step

section Step

variable (hoffered : s.e.hop.coopHopState = .offered)
include hoffered

/-- The offer's own work item leaves it only where it gives up. -/
theorem ownEvent_offer : OwnEvent cfg s .offer := by
  by_cases hrun : s.workq = .free ∧ s.e.hop.coopHopOfferWork.isSome = true
  · have hhop : (hopStep cfg s .offer).e = (coopHopOfferBegin cfg
        (s.e.mapHop fun h => { h with coopHopOfferWork := none })).1 := by
      simp only [hopStep, HopTrace.fire, if_pos hrun]
    rcases @coopHopOfferBegin_cases cfg (s.e.mapHop fun h => { h with coopHopOfferWork := none })
      with ⟨hnone, hstate⟩ | ⟨target, -, -, -, hbegun⟩
    · intro _
      have hgave : refusesOffer cfg s .offer = true := by rw [refusesOffer, hnone]; rfl
      refine ⟨iff_of_false ?_ Bool.false_ne_true, fun _ => Or.inr (Or.inl hgave)⟩
      rw [hhop]
      rcases hstate with hstate | hstate
      · have hkept := (congrArg Handshake.state hstate).trans hoffered
        exact fun harmed => absurd (hkept.symm.trans harmed) (by simp)
      · have hidle := congrArg Handshake.state hstate
        exact fun harmed => absurd (hidle.symm.trans harmed) (by simp)
    · refine ownEvent_of_offered ?_ rfl
      rw [hhop]
      exact (congrArg Handshake.state hbegun).trans hoffered
  · have hstep : hopStep cfg s .offer = s := by
      simp only [hopStep, HopTrace.fire, if_neg hrun]
    exact ownEvent_of_offered (by rw [hstep]; exact hoffered) rfl

/-- And so does its send. -/
theorem ownEvent_offerSend : OwnEvent cfg s .offerSend := by
  cases hphase : s.workq with
  | offering pkt =>
    have hhop : (hopStep cfg s .offerSend).e = coopHopOfferSend cfg s.e pkt := by
      simp only [hopStep, hphase]
    have hsent := @handshake_esbTransportSend cfg s.e esbPipeData pkt
    cases hsend : esbTransportSend cfg s.e esbPipeData pkt with
    | mk e' err =>
      rw [hsend] at hsent
      cases err with
      | none =>
        refine ownEvent_of_offered ?_ rfl
        rw [hhop, coopHopOfferSend, hsend]
        exact (congrArg Handshake.state hsent).trans hoffered
      | some err =>
        intro _
        have hgave : refusesOffer cfg s .offerSend = true := by
          simp only [refusesOffer, hphase, hsend, Option.isSome_some]
        refine ⟨iff_of_false ?_ Bool.false_ne_true, fun _ => Or.inr (Or.inl hgave)⟩
        rw [hhop, coopHopOfferSend, hsend]
        exact fun harmed => absurd harmed (by simp)
  | _ =>
    refine ownEvent_of_offered ?_ rfl
    simp only [hopStep, hphase]
    exact hoffered

/-- **Every step leaves the offer to its own event, exactly when the tag
stands for it.** -/
theorem ownEvent_step_iff (hcoop : cfg.coopHop = true) (op : HopOp) :
    OwnEvent cfg s op ↔ OfferTagged cfg s op := by
  cases op with
  | txDone outcome =>
    by_cases hout : outcome = .exhausted
    · subst hout
      exact ownEvent_failure_iff hcoop hoffered
    · exact ownEvent_success_iff hcoop hoffered hout
  | rx buf len => exact ownEvent_rx_iff hcoop hoffered buf len
  | offer => exact iff_of_true (ownEvent_offer hoffered) fun _ => trivial
  | offerSend => exact iff_of_true (ownEvent_offerSend hoffered) fun _ => trivial
  | pairingStop =>
    refine iff_of_true (fun _ => ?_) fun _ => trivial
    have hhop := cfg.coopHop_dep hcoop
    have hidle : (hopStep cfg s .pairingStop).e.hop.coopHopState = .idle := by
      rw [hopStep, pairingStop, hop_notifyDisconnected]
      exact state_onDisconnected hcoop
    refine ⟨iff_of_false ?_ Bool.false_ne_true, fun _ => Or.inr (Or.inr (Or.inr hhop))⟩
    rw [hidle]
    simp
  | idleCheck =>
    refine iff_of_true ?_ fun _ => trivial
    have hmoves := @hopMoves_hopStep cfg s .idleCheck
    generalize hh' : (hopStep cfg s .idleCheck).e.hop = h' at hmoves
    cases hmoves with
    | kept => exact ownEvent_of_offered (by rw [hh']; exact hoffered) rfl
    | idleChecked hdue => exact ownEvent_of_offered (by rw [hh']; exact hoffered) rfl
    | idled hidle =>
      intro _
      refine ⟨iff_of_false ?_ Bool.false_ne_true, fun _ => Or.inr (Or.inr (Or.inl hidle))⟩
      rw [hh', enterIdleBegin, hcoop]
      simp [coopHopAbort]
  | _ =>
    exact iff_of_true (ownEvent_of_offered (state_of_passesBy rfl hoffered) rfl) fun _ => trivial

end Step

/-- **The handshake reacts to its offer's own event, exactly when the tag
stands for the offer** at every event and every `REQUEST` it meets in
`OFFERED`. -/
theorem ownEvents_iff (cfg : Config) (deviceId : List UInt8) (saved : Option PairedRec)
    (ops : List HopOp) :
    Guarded (hopStep cfg) (OwnEvent cfg) (HopTrace.start cfg deviceId saved) ops ↔
      Guarded (hopStep cfg) (OfferTagged cfg) (HopTrace.start cfg deviceId saved) ops := by
  refine guarded_congr (I := fun s => Parked cfg false s.e.hop)
    (fun _ op hp => hp.step fun hf => Bool.noConfusion hf) (fun s op hp => ?_)
    (parked_start cfg deviceId saved)
  by_cases hoffered : s.e.hop.coopHopState = .offered
  · exact ownEvent_step_iff hoffered (hp.coop (by rw [hoffered]; simp)) op
  · exact iff_of_true (fun h => absurd h hoffered) fun h => absurd h hoffered

/-- A key press queued ahead of the offer arms it. -/
theorem not_ownEvents : ¬ ∀ (cfg : Config) (deviceId : List UInt8) (saved : Option PairedRec)
    (ops : List HopOp),
    Guarded (hopStep cfg) (OwnEvent cfg) (HopTrace.start cfg deviceId saved) ops := by
  intro h
  have hrun := h .default [] none
    [.pairingStart, .rx [esbPktPairReq, 1, 2, 3, 4, 5, 6] 7, .txDone (.acked 0 []),
      .send esbPipeData [esbPktHidReport, esbReportKeyboard, 0, 0, 4, 0, 0, 0, 0, 0],
      .txDone (.acked 1 []),
      .send esbPipeData [esbPktHidReport, esbReportKeyboard, 0, 0, 0, 0, 0, 0, 0, 0],
      .txDone (.acked 1 []),
      .send esbPipeData [esbPktHidReport, esbReportKeyboard, 0, 0, 4, 0, 0, 0, 0, 0],
      .txDone (.acked 1 []),
      .send esbPipeData [esbPktHidReport, esbReportKeyboard, 0, 0, 0, 0, 0, 0, 0, 0],
      .txDone (.acked 1 []),
      .send esbPipeData [esbPktHidReport, esbReportKeyboard, 0, 0, 4, 0, 0, 0, 0, 0],
      .offer, .offerSend, .txDone (.acked 0 [])]
  exact absurd hrun (by decide +kernel)

end EsbEndpoint
