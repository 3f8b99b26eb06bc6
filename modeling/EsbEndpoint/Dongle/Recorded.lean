import EsbEndpoint.Common.Run
import EsbEndpoint.Dongle.Traffic

/-!
# The keyboard the dongle records

The dongle records the sender of the `BEACON` it takes and answers it with
a `PAIR_REQ`, which names the dongle alone and goes out with the next
acknowledgement on the pipe. Whichever unpaired keyboard that
acknowledges takes the `PAIR_REQ` for its own and sends its `PAIR_RESP`,
whose id the dongle does not read. So the two ids agree as long as no
keyboard but the recorded one gets to take a `PAIR_REQ`.
-/

namespace EsbEndpoint

variable {ι : Type*} [DecidableEq ι]

/-- **The dongle connects to the keyboard it recorded**: the `PAIR_RESP`
that moves `esb_evt_handler` to `DONGLE_CONNECTED` carries the peer's id. -/
def ConnectsRecorded (s : Link ι) : LinkOp ι → Prop
  | .handle =>
    ∀ p ∈ s.rxFifo.head?, acceptsPairResp s.dongle p.2 → deviceIdOf p.2 = s.dongle.peerDeviceId
  | _ => True

/-- The condition on a step: a keyboard that takes a `PAIR_REQ` would
answer with the id the dongle recorded. -/
def TakenByRecorded (s : Link ι) : LinkOp ι → Prop
  | .station i .rxCall =>
    (s.station i).takesPairReq = true →
      deviceIdOf (pairRespPacket (s.station i).e.pairing) = s.dongle.peerDeviceId
  | _ => True

/-- A packet that, if it is a `PAIR_RESP`, carries the recorded id. -/
def Dongle.Names (d : Dongle) (data : List UInt8) : Prop :=
  pktType data = some esbPktPairResp → d.Engaged ∧ deviceIdOf data = d.peerDeviceId

/-- Every `PAIR_RESP` under way carries the recorded id. -/
structure Recorded (cfg : Config) (s : Link ι) : Prop where
  traffic : Traffic cfg s
  sent : ∀ i q, ((s.station i).e.path cfg).Has q → s.dongle.Names q.data
  heard : ∀ p ∈ s.rxFifo, s.dongle.Names p.2

variable {cfg : Config} {s : Link ι} {st : Station} {d d' : Dongle}

theorem Dongle.Onward.names (h : d.Onward d') {data : List UInt8} (hdata : d.Names data) :
    d'.Names data := by
  intro htype
  obtain ⟨hengaged, hid⟩ := hdata htype
  exact ⟨h.engaged hengaged, hid.trans (h.peer hengaged).symm⟩

/-- What a keyboard sends names the peer, if the `PAIR_REQ` it takes was
meant for it. -/
theorem StationSends.names {op : StationOp} {data : List UInt8} (h : StationSends st op data)
    (hst : st.Sane cfg d) (htaken : op = .rxCall → st.takesPairReq = true →
      deviceIdOf (pairRespPacket st.e.pairing) = d.peerDeviceId) : d.Names data := by
  cases h with
  | beacon => exact fun htype => absurd htype (pktType_ne rfl (by decide))
  | verify => exact fun htype => absurd htype (pktType_ne rfl (by decide))
  | pairResp htakes =>
    obtain ⟨len, -, htype, -⟩ := Station.takesPairReq_iff.1 htakes
    exact fun _ => ⟨hst.received.1.1 htype, htaken rfl htakes⟩
  | ordinary hdata =>
    intro htype
    unfold isPairingPacket at hdata
    have hresp : isType esbPktPairResp data = true := beq_iff_eq.2 htype
    simp only [hresp, Bool.or_true, Bool.true_or, Bool.true_eq_false] at hdata

/-- A `PAIR_RESP` goes out as it was sent. -/
theorem Queued.SentAs.names {q : Queued} {pipe : Nat} {data : List UInt8}
    (h : q.SentAs pipe data) (hdata : d.Names data) : d.Names q.data := by
  intro htype
  have hdatatype : pktType data = some esbPktPairResp := h.2.1 ▸ htype
  rw [h.2.2.2 (isMouseReport_eq_false hdatatype (by decide))]
  exact hdata hdatatype

theorem Recorded.set (h : Recorded cfg s) {i : ι} (htraffic : Traffic cfg (s.set i st))
    (hsent : ∀ q, (st.e.path cfg).Has q → s.dongle.Names q.data) : Recorded cfg (s.set i st) := by
  refine ⟨htraffic, ?_, h.heard⟩
  show ∀ j q, ((Function.update s.station i st j).e.path cfg).Has q → s.dongle.Names q.data
  rw [Function.forall_update_iff s.station fun _ st' => ∀ q, (st'.e.path cfg).Has q →
    s.dongle.Names q.data]
  exact ⟨hsent, fun j _ => h.sent j⟩

theorem Recorded.txDone (h : Recorded cfg s) {i : ι} {outcome : TxOutcome}
    (htraffic : Traffic cfg (s.txDone cfg i outcome)) : Recorded cfg (s.txDone cfg i outcome) :=
  h.set htraffic fun q hq => h.sent i q (has_of_txDone (h.traffic.station i).sound hq)

omit [DecidableEq ι] in
theorem Recorded.onward (h : Recorded cfg s) (hd : s.dongle.Onward d') :
    Recorded cfg { s with dongle := d' } :=
  ⟨h.traffic.onward hd, fun i q hq => hd.names (h.sent i q hq), fun p hp => hd.names (h.heard p hp)⟩

/-- **Every step keeps them so**, where no other keyboard takes a
`PAIR_REQ`. -/
theorem Recorded.step (h : Recorded cfg s) (op : LinkOp ι) (hop : TakenByRecorded s op) :
    Recorded cfg (linkStep cfg s op) := by
  have htraffic := h.traffic.step op
  cases op with
  | station i op =>
    have hst := h.traffic.station i
    refine h.set htraffic fun q hq => ?_
    -- what is queued was there before, or is what this step sends
    rcases sends_stationStep hst.sound hst.received.1.2.2 hq with hold | ⟨pipe, data, hsends, hsent⟩
    · exact h.sent i q hold
    · refine hsent.names (hsends.names hst ?_)
      rintro rfl
      exact hop
  | hear i =>
    unfold linkStep at htraffic ⊢
    dsimp only at htraffic ⊢
    cases hair : (s.station i).e.radio.state.onAir with
    | none => exact h
    | some q =>
      rw [hair] at htraffic
      have hset : Recorded cfg (s.set i { s.station i with heard := some q }) :=
        h.set ⟨htraffic.station, h.traffic.heard, htraffic.acks⟩ (h.sent i)
      refine ⟨htraffic, hset.sent, fun p hp => ?_⟩
      rcases List.mem_append.1 hp with hold | hnew
      · exact h.heard p hold
      · rw [List.mem_singleton.1 hnew]
        exact h.sent i q (Or.inr hair)
  | handle =>
    unfold linkStep at htraffic ⊢
    dsimp only at htraffic ⊢
    cases hfifo : s.rxFifo with
    | nil => exact h
    | cons p rest =>
      rw [hfifo] at htraffic
      have hp := h.traffic.heard p (by rw [hfifo]; exact List.mem_cons_self)
      have hafter := h.onward (@onward_dongleOnPacket s.dongle p.1 p.2 hp)
      refine ⟨htraffic, hafter.sent, fun p' hp' => hafter.heard p' ?_⟩
      show p' ∈ s.rxFifo
      rw [hfifo]
      exact List.mem_cons_of_mem p hp'
  | sent i => exact h.txDone htraffic
  | exhausted i => exact h.txDone htraffic
  | acked i retries withReply =>
    unfold linkStep
    dsimp only
    cases hair : (s.station i).e.radio.state.onAir with
    | none => exact h
    | some q =>
      dsimp only
      split
      · exact h
      · split
        · have hdone : Recorded cfg (s.txDone cfg i (.acked retries (s.dongle.ackFor q.pipe))) :=
            h.txDone (h.traffic.acked i retries q.pipe)
          exact hdone.onward (onward_dropAck q.pipe)
        · exact h.txDone (h.traffic.acked_bare i retries)
  | loseReply pipe => exact h.onward (onward_dropAck pipe)

omit [DecidableEq ι] in
theorem recorded_start (cfg : Config) (deviceId : ι → List UInt8) (saved : ι → Option PairedRec)
    (dongleId : List UInt8) : Recorded cfg (Link.start cfg deviceId saved dongleId) := by
  refine ⟨traffic_start cfg deviceId saved dongleId, fun i q hq => ?_, fun p hp => ?_⟩
  · have hpath : ((Link.start cfg deviceId saved dongleId).station i).e.path cfg = TxPath.start :=
      path_start cfg _ _
    rw [hpath] at hq
    exact absurd hq (by simp [TxPath.Has, TxPath.start])
  · exact absurd hp (by simp [Link.start])

/-! ## The run -/

/-- **For every number of keyboards and every order of their steps, the
dongle connects to the keyboard it recorded**, if the recorded keyboard
alone gets to take a `PAIR_REQ`. -/
theorem connectsRecorded_of_takenByRecorded (cfg : Config) (deviceId : ι → List UInt8)
    (saved : ι → Option PairedRec) (dongleId : List UInt8) (ops : List (LinkOp ι))
    (h : Guarded (linkStep cfg) TakenByRecorded (Link.start cfg deviceId saved dongleId) ops) :
    Guarded (linkStep cfg) ConnectsRecorded (Link.start cfg deviceId saved dongleId) ops := by
  refine Guarded.of_invariant (I := Recorded cfg) (fun s op hs hop => hs.step op hop)
    (fun s op hs _ => ?_) (recorded_start cfg deviceId saved dongleId) h
  cases op with
  | handle =>
    intro p hp hresp
    exact (hs.heard p (List.mem_of_mem_head? hp) hresp.1).2
  | _ => trivial

/-- Two keyboards that no dongle has paired with. -/
def twoKeyboards : Link Bool :=
  Link.start .default (fun i => List.replicate 6 (if i then 2 else 1)) (fun _ => none)
    (List.replicate 6 9)

/-- The keyboard whose `BEACON` the dongle took is the next to be
acknowledged. -/
theorem connectsRecorded_pairing :
    Guarded (linkStep .default) ConnectsRecorded twoKeyboards
      [.station false .start, .station true .start, .station false .beacon, .hear false, .handle,
        .acked false 0 false, .station false .beacon, .hear false, .acked false 0 true,
        .station false .rxEnter, .station false .rxBuild, .station false .rxCall, .hear false,
        .handle, .handle] :=
  connectsRecorded_of_takenByRecorded .default _ _ _ _
    ⟨trivial, trivial, trivial, trivial, trivial, trivial, trivial, trivial, trivial, trivial,
      trivial, fun _ => by decide, trivial, trivial, trivial, trivial⟩

/-- **The dongle takes the `BEACON` of one keyboard and acknowledges
another**, which answers its `PAIR_REQ`: the dongle connects with the
first one recorded. -/
theorem not_connectsRecorded :
    ¬ Guarded (linkStep .default) ConnectsRecorded twoKeyboards
      [.station false .start, .station true .start, .station false .beacon, .hear false, .handle,
        .station true .beacon, .hear true, .acked true 0 true, .station true .rxEnter,
        .station true .rxBuild, .station true .rxCall, .hear true, .handle, .handle] := by
  rintro ⟨-, -, -, -, -, -, -, -, -, -, -, -, -, hlast, -⟩
  have hid := hlast (1, esbPktPairResp :: List.replicate 6 2 ++ [esbCapAll]) (by decide) (by decide)
  exact absurd hid (by decide)

end EsbEndpoint
