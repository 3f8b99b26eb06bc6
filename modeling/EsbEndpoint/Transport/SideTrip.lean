import EsbEndpoint.Transport.Step

/-!
# A side-trip

`esb_transport_send_blocking` sends one packet on another channel and comes
back. Its wait ends with the packet's event or with a timeout, and other
things happen in it: `visitsOnly_iff` says of every call, whatever comes in
its wait and after it, whether it was a visit and nothing more.
-/

namespace EsbEndpoint

variable (cfg : Config) (e : Endpoint)

/-! ## Slots with side-trips -/

/-- An operation of a slot: one of the transport, or its start or stop. -/
inductive SlotOp
  | tx (op : TxOp)
  | slotStart
  | slotStop

def slotStep : SlotOp → Endpoint
  | .tx op => txStep cfg e op
  | .slotStart => esbTransportOnSlotStart cfg e
  | .slotStop => esbTransportOnSlotStop cfg e

/-- Or a side-trip, up to its wait and from there on. -/
inductive TripOp
  | slot (op : SlotOp)
  | sendBlockingBegin (channel : UInt8) (pipe : Nat) (data : List UInt8)
  | sendBlockingEnd

def tripStep : TripOp → Endpoint
  | .slot op => slotStep cfg e op
  | .sendBlockingBegin channel pipe data => (sendBlockingBegin cfg e channel pipe data).1
  | .sendBlockingEnd => (sendBlockingEnd cfg e).1

/-- The step is the end of the transmission of the `n`-th packet, and the
handler takes it for one of the active channel. -/
def RegularEvent (n : Nat) (e : Endpoint) : TripOp → Prop
  | .slot (.tx (.txDone outcome)) =>
    canEnd cfg e outcome = true ∧ (e.path cfg).syncing = false ∧
      ∃ q, e.radio.state.onAir = some q ∧ q.serial = n
  | _ => False

/-! ## A call -/

section Call

variable (channel : UInt8) (pipe : Nat) (data : List UInt8) (ops : List SlotOp)

/-- `esb_transport_send_blocking`, with what happens in its wait. -/
def sendBlocking : Endpoint × Option Errno :=
  match sendBlockingBegin cfg e channel pipe data with
  | (e, some err) => (e, some err)
  | (e, none) => sendBlockingEnd cfg (runFrom (slotStep cfg) e ops)

/-- **A visit and nothing more**: when the call returns, the radio is on
the active channel and no side-trip under way, and the packet it has sent
has no event to come that is taken for one of the active channel, in
whatever comes. -/
structure VisitsOnly : Prop where
  restored : (sendBlocking cfg e channel pipe data ops).1.radio.rfChannel =
    (sendBlocking cfg e channel pipe data ops).1.tp.channel
  flag : (sendBlocking cfg e channel pipe data ops).1.tp.syncTxInProgress = false
  events : (sendBlockingBegin cfg e channel pipe data).2 = none → ∀ later : List TripOp,
    Guarded (tripStep cfg) (fun e' op => ¬ RegularEvent cfg e.radio.written e' op)
      (sendBlocking cfg e channel pipe data ops).1 later

/-- The call returns before its write. -/
def refusesTrip : Bool :=
  decide (cfg.esbMaxPayloadLength < data.length) || !e.tp.configured || e.tp.syncTxInProgress ||
    decide (100 < channel) || e.radio.state != .idle

/-- The radio visits the channel, with the call's flag set. -/
def visiting : Endpoint :=
  ((esbFlushTxAndReset cfg e).mapRadio fun r => { r with rfChannel := channel }).mapTp fun tp =>
    { tp with syncTxDone := false, syncTxResultSuccess := false, syncTxInProgress := true }

/-- What the radio says to the call's write. -/
def tripWriteError : Option Errno :=
  writeError cfg (visiting cfg e channel).radio ⟨pipe, false, data⟩

/-- When the wait for packet `n` ends, the packet is not on the air, and
the radio can be set back or has been. -/
structure TripOver (n : Nat) (e : Endpoint) : Prop where
  lands : e.radio.state = .idle ∧ e.tp.channel ≤ 100 ∨ e.radio.rfChannel = e.tp.channel
  landed : ∀ q ∈ e.radio.state.onAir, q.serial ≠ n

/-- The condition on a call: one that returns before its write finds the
radio on the active channel and no side-trip under way, one whose write is
refused can set the radio back, and one that waits is over when its wait
ends. -/
def TripClean : Prop :=
  if refusesTrip cfg e channel data = true then
    e.radio.rfChannel = e.tp.channel ∧ e.tp.syncTxInProgress = false
  else if tripWriteError cfg e channel pipe data ≠ none then e.tp.channel ≤ 100
  else
    TripOver e.radio.written
      (runFrom (slotStep cfg) (sendBlockingBegin cfg e channel pipe data).1 ops)

end Call

instance (n : Nat) (e : Endpoint) : Decidable (TripOver n e) :=
  decidable_of_iff (_ ∧ ∀ q ∈ e.radio.state.onAir, q.serial ≠ n)
    ⟨fun h => ⟨h.1, h.2⟩, fun h => ⟨h.lands, h.landed⟩⟩

variable {cfg} {e} {n : Nat}

/-! ## Steps with a side-trip under way -/

/-- A move that neither queues nor ends anything. -/
theorem path_txStep_syncing (hsync : (e.path cfg).syncing = true) {op : TxOp}
    (hop : ∀ outcome, op ≠ .txDone outcome) :
    ∃ move : TxMove, (txStep cfg e op).path cfg = move.apply cfg (e.path cfg) ∧
      ((∃ now, move = .rest now) ∨ ∃ newChannel, move = .flush newChannel) := by
  refine ⟨op.move cfg e, path_txStep_of_ne cfg e op hop, ?_⟩
  cases op with
  | send pipe data =>
    have hdropped : sendQueues cfg e data = false := by
      have hsync' : (cfg.rendezvous && e.tp.syncTxInProgress) = true := hsync
      simp only [sendQueues, sendReaches, hsync', Bool.not_true, Bool.and_false, Bool.false_and]
    rw [TxOp.move, hdropped, if_neg Bool.false_ne_true]
    exact Or.inl ⟨_, rfl⟩
  | txDone outcome => exact absurd rfl (hop outcome)
  | setChannel channel =>
    rw [TxOp.move]
    split
    · exact Or.inl ⟨_, rfl⟩
    · exact Or.inr ⟨_, rfl⟩
  | flushTx => exact Or.inr ⟨_, rfl⟩
  | idleBegin => exact Or.inl ⟨_, rfl⟩
  | connected => exact Or.inl ⟨_, rfl⟩
  | tick ms => exact Or.inl ⟨_, rfl⟩

/-- The end of a side-trip's transmission gives its flag back. -/
theorem path_txDone_syncing (hsync : (e.path cfg).syncing = true) (outcome : TxOutcome) :
    (txDone cfg e outcome).path cfg =
      if canEnd cfg e outcome then
        if outcome = .exhausted then { (e.path cfg).halt.flush with syncing := false }
        else { (e.path cfg).advance with syncing := false }
      else e.path cfg := by
  have hsync' : (cfg.rendezvous && e.tp.syncTxInProgress) = true := hsync
  have hended : ∀ (e' : Endpoint) success, (endSyncTx e' success).path cfg =
      { e'.path cfg with syncing := false } := by
    intro e' success
    have hflag : (endSyncTx e' success).tp.syncTxInProgress = false := rfl
    simp only [Endpoint.path, hflag, Bool.and_false]
    rfl
  have hcb : ∀ r n, (zmkEsbTransportEvtCb cfg (e.mapRadio fun _ => r) .txSuccess n).path cfg =
      { (e.mapRadio fun _ => r).path cfg with syncing := false } := by
    intro r n
    have htp : (e.mapRadio fun _ => r).tp = e.tp := rfl
    simp only [zmkEsbTransportEvtCb, Endpoint.mapTp_tp, htp, hsync', if_true]
    exact hended _ _
  rw [txDone, canEnd]
  cases hdone : radioDone cfg e.radio outcome with
  | none => rfl
  | some out =>
  obtain ⟨r, events⟩ := out
  rw [Option.isSome_some, if_pos rfl]
  rcases radioDone_cases cfg hdone with
    ⟨q, -, hout, hleft, hevents⟩ | ⟨q, -, rfl, rfl, rfl⟩
  · rw [if_neg hout, ← path_headLeft cfg e hleft]
    rcases hevents with rfl | rfl
    · exact hcb _ _
    · exact (path_onRxReceived cfg _).trans (hcb _ _)
  · rw [if_pos rfl]
    simp only [esbEvtIrqHandler, List.foldl_cons, List.foldl_nil, zmkEsbTransportEvtCb,
      Endpoint.mapTp_tp, Endpoint.mapRadio_tp, hsync', if_true]
    rw [path_esbFlushTxAndReset, hended]
    rfl

/-! ## A packet that is gone -/

theorem path_esbTransportOnSlotStop : (esbTransportOnSlotStop cfg e).path cfg =
    { e.path cfg with initialized := false, ready := true, fifo := [], onAir := none } := rfl

/-- An end of a transmission brings no packet. -/
theorem gone_txDone (h : (e.path cfg).Gone n) (outcome : TxOutcome) :
    ((txDone cfg e outcome).path cfg).Gone n := by
  cases hsync : (e.path cfg).syncing with
  | false =>
    have hmove := path_txStep cfg e (.txDone outcome) hsync
    rw [txStep] at hmove
    rw [hmove]
    exact h.apply _
  | true =>
    rw [path_txDone_syncing hsync]
    split
    · split
      · refine h.of_has (Nat.le_refl _) fun q hq => Or.inl ?_
        exact TxPath.Has.of_halt (TxPath.Has.of_flush hq)
      · exact h.of_has (Nat.le_refl _) fun q hq => Or.inl (TxPath.Has.of_advance hq)
    · exact h

theorem gone_slotStep (h : (e.path cfg).Gone n) (op : SlotOp) :
    ((slotStep cfg e op).path cfg).Gone n := by
  cases op with
  | tx op =>
    by_cases hdone : ∃ outcome, op = .txDone outcome
    · obtain ⟨outcome, rfl⟩ := hdone
      exact gone_txDone h outcome
    · rw [slotStep, path_txStep_of_ne cfg e op fun outcome hop => hdone ⟨outcome, hop⟩]
      exact h.apply _
  | slotStart =>
    rw [slotStep, path_esbTransportOnSlotStart]
    exact TxPath.Gone.of_empty rfl rfl h.1
  | slotStop =>
    rw [slotStep, path_esbTransportOnSlotStop]
    exact TxPath.Gone.of_empty rfl rfl h.1

theorem path_restoreRfChannel : (restoreRfChannel cfg e).path cfg = e.path cfg := by
  obtain ⟨channel', hset⟩ := esbSetRfChannel_fst cfg e.radio e.tp.channel
  rw [restoreRfChannel, path_mapRadio_eq]
  rw [hset]
  exact ⟨rfl, rfl, rfl, rfl⟩

/-! ## A call, up to its wait -/

section Begin

variable {channel : UInt8} {pipe : Nat} {data : List UInt8}

/-- A call that returns before its write has flushed at most. -/
theorem sendBlockingBegin_of_refuses (hfast : cfg.esbFastChannelSwitching = false)
    (hrefuses : refusesTrip cfg e channel data = true) :
    (sendBlockingBegin cfg e channel pipe data).2 ≠ none ∧
      ((sendBlockingBegin cfg e channel pipe data).1 = e ∨
        (sendBlockingBegin cfg e channel pipe data).1 = esbFlushTxAndReset cfg e) := by
  simp only [refusesTrip, Bool.or_eq_true, decide_eq_true_eq, Bool.not_eq_true', bne_iff_ne]
    at hrefuses
  unfold sendBlockingBegin
  split
  · exact ⟨by simp, Or.inl rfl⟩
  · rename_i hlen
    split
    · exact ⟨by simp, Or.inl rfl⟩
    · rename_i hconf
      rw [Bool.not_eq_true', Bool.not_eq_false] at hconf
      split
      · exact ⟨by simp, Or.inl rfl⟩
      · rename_i hsync
        have hchannel : 100 < channel ∨ e.radio.state ≠ .idle := by
          rcases hrefuses with (((hlong | hoff) | hbusy) | hhigh) | hair
          · exact absurd hlong hlen
          · exact Bool.noConfusion (hconf.symm.trans hoff)
          · exact absurd hbusy hsync
          · exact Or.inl hhigh
          · exact Or.inr hair
        have hset : (esbSetRfChannel cfg (esbFlushTxAndReset cfg e).radio channel).2 ≠ none := by
          unfold esbSetRfChannel
          rw [(esbFlushTxAndReset_radio cfg e).1]
          split
          · simp
          · rename_i hlow
            have hair := hchannel.resolve_left hlow
            rw [if_pos (by rw [hfast, Bool.not_false, Bool.and_true, bne_iff_ne]; exact hair)]
            simp
        dsimp only
        split
        · exact ⟨by simp, Or.inr rfl⟩
        · rename_i heq
          rw [heq] at hset
          exact absurd rfl hset

/-- One that gets to it visits the channel. -/
theorem sendBlockingBegin_of_visits (hrefuses : refusesTrip cfg e channel data = false) :
    sendBlockingBegin cfg e channel pipe data =
      match esbWritePayload cfg (visiting cfg e channel).radio ⟨pipe, false, data⟩ with
      | (_, some err) =>
        (restoreRfChannel cfg
          ((visiting cfg e channel).mapTp fun tp => { tp with syncTxInProgress := false }),
          some err)
      | (r, none) => ((visiting cfg e channel).mapRadio fun _ => r, none) := by
  simp only [refusesTrip, Bool.or_eq_false_iff, decide_eq_false_iff_not, Bool.not_eq_false',
    bne_eq_false_iff_eq] at hrefuses
  obtain ⟨⟨⟨⟨hlen, hconf⟩, hsync⟩, hlow⟩, hidle⟩ := hrefuses
  have hset : esbSetRfChannel cfg (esbFlushTxAndReset cfg e).radio channel =
      ({ (esbFlushTxAndReset cfg e).radio with rfChannel := channel }, none) := by
    have hrest := (esbFlushTxAndReset_radio cfg e).1.trans hidle
    unfold esbSetRfChannel
    rw [if_neg hlow, if_neg (by rw [hrest, bne_self_eq_false, Bool.false_and]; simp)]
  unfold sendBlockingBegin
  rw [if_neg hlen, hconf, Bool.not_true, if_neg Bool.false_ne_true, hsync,
    if_neg Bool.false_ne_true]
  dsimp only
  rw [hset]
  rfl

/-- The visit on the path: a flush under the call's flag. -/
theorem path_visiting (hrdv : cfg.rendezvous = true) : (visiting cfg e channel).path cfg =
    { (e.path cfg).flush with syncing := true } := by
  have hflush := path_esbFlushTxAndReset cfg e
  have hpath : (visiting cfg e channel).path cfg =
      { (esbFlushTxAndReset cfg e).path cfg with syncing := cfg.rendezvous && true } := rfl
  rw [hpath, hflush, hrdv]
  rfl

theorem path_offFlag (b : Bool) {e' : Endpoint} :
    (e'.mapTp fun tp => { tp with syncTxInProgress := b }).path cfg =
      { e'.path cfg with syncing := cfg.rendezvous && b } := rfl

/-- **What a call does to the path up to its wait**: nothing, a flush, or
a flush and its write. -/
theorem path_sendBlockingBegin (hrdv : cfg.rendezvous = true)
    (hfast : cfg.esbFastChannelSwitching = false) :
    (sendBlockingBegin cfg e channel pipe data).2 ≠ none ∧
        ((sendBlockingBegin cfg e channel pipe data).1.path cfg = e.path cfg ∨
          ∃ syncing, (sendBlockingBegin cfg e channel pipe data).1.path cfg =
            { (e.path cfg).flush with syncing }) ∨
      (sendBlockingBegin cfg e channel pipe data).2 = none ∧
        (sendBlockingBegin cfg e channel pipe data).1.path cfg =
          ({ (e.path cfg).flush with syncing := true } : TxPath).put ⟨pipe, false, data⟩ := by
  cases hrefuses : refusesTrip cfg e channel data with
  | true =>
    obtain ⟨herr, hsame | hflushed⟩ :=
      @sendBlockingBegin_of_refuses cfg e channel pipe data hfast hrefuses
    · exact Or.inl ⟨herr, Or.inl (by rw [hsame])⟩
    · refine Or.inl ⟨herr, Or.inr ⟨(e.path cfg).syncing, ?_⟩⟩
      rw [hflushed, path_esbFlushTxAndReset]
      rfl
  | false =>
    rw [sendBlockingBegin_of_visits hrefuses, ← @path_visiting cfg e channel hrdv]
    cases hwrite : writeError cfg (visiting cfg e channel).radio ⟨pipe, false, data⟩ with
    | some err =>
      simp only [esbWritePayload, hwrite]
      refine Or.inl ⟨by simp, Or.inr ⟨false, ?_⟩⟩
      rw [path_restoreRfChannel, path_offFlag, path_visiting hrdv, hrdv]
      rfl
    | none =>
      obtain ⟨hok, happended⟩ := esbWritePayload_appended cfg hwrite
      generalize esbWritePayload cfg (visiting cfg e channel).radio ⟨pipe, false, data⟩ = w
        at hok happended
      obtain ⟨r, err⟩ := w
      obtain rfl : err = none := hok
      exact Or.inr ⟨rfl, path_appended cfg _ happended⟩

end Begin

theorem sendBlockingEnd_fst : (sendBlockingEnd cfg e).1 =
    if e.tp.syncTxDone = true then restoreRfChannel cfg e
    else (restoreRfChannel cfg e).mapTp fun tp => { tp with syncTxInProgress := false } := by
  unfold sendBlockingEnd
  cases e.tp.syncTxDone <;> rfl

/-- From its wait on, a call changes but its flag on the path. -/
theorem path_sendBlockingEnd : ∃ syncing,
    (sendBlockingEnd cfg e).1.path cfg = { e.path cfg with syncing } := by
  rw [sendBlockingEnd_fst, ← @path_restoreRfChannel cfg e]
  split
  · exact ⟨_, rfl⟩
  · exact ⟨cfg.rendezvous && false, rfl⟩

/-- **What is gone stays gone**, whatever comes. -/
theorem gone_tripStep (hrdv : cfg.rendezvous = true) (hfast : cfg.esbFastChannelSwitching = false)
    (h : (e.path cfg).Gone n) (op : TripOp) : ((tripStep cfg e op).path cfg).Gone n := by
  cases op with
  | slot op => exact gone_slotStep h op
  | sendBlockingBegin channel pipe data =>
    have hflushed : ∀ syncing, ({ (e.path cfg).flush with syncing } : TxPath).Gone n :=
      fun syncing => h.of_has (Nat.le_refl _) fun q hq => Or.inl (TxPath.Has.of_flush hq)
    rw [tripStep]
    rcases @path_sendBlockingBegin cfg e channel pipe data hrdv hfast with
      ⟨-, hsame | ⟨syncing, hpath⟩⟩ | ⟨-, hpath⟩
    · rw [hsame]
      exact h
    · rw [hpath]
      exact hflushed syncing
    · rw [hpath]
      refine (hflushed true).of_has (Nat.le_succ _) fun q hq => ?_
      exact (TxPath.Has.of_put hq).imp_right fun hnew => by rw [hnew]
  | sendBlockingEnd =>
    obtain ⟨syncing, hpath⟩ := @path_sendBlockingEnd cfg e
    rw [tripStep, hpath]
    exact h.of_has (Nat.le_refl _) fun q hq => Or.inl hq

/-! ## Its wait -/

/-- Where the call stands in its wait for packet `n`: the packet is on the
air, or the slot has been stopped under it, or it has ended. -/
inductive Waiting (cfg : Config) (n : Nat) (e : Endpoint) : Prop
  | out {q : Queued} (hsync : (e.path cfg).syncing = true) (hdone : e.tp.syncTxDone = false)
      (hwritten : n < (e.path cfg).written) (hinit : (e.path cfg).initialized = true)
      (hair : (e.path cfg).onAir = some q) (hserial : q.serial = n)
      (hfifo : (e.path cfg).fifo = [] ∨ (e.path cfg).fifo = [q])
  | lost (hsync : (e.path cfg).syncing = true) (hdone : e.tp.syncTxDone = false)
      (hwritten : n < (e.path cfg).written) (hair : (e.path cfg).onAir = none)
      (hfifo : (e.path cfg).fifo = [])
  | ended (hsync : (e.path cfg).syncing = false) (hgone : (e.path cfg).Gone n)

theorem syncing_apply (move : TxMove) (p : TxPath) : (move.apply cfg p).syncing = p.syncing := by
  have hqueue : ∀ (p : TxPath) pipe data, (p.queue cfg pipe data).1.syncing = p.syncing := by
    intro p pipe data
    simp only [TxPath.queue, TxPath.tryPut]
    split <;> rfl
  cases move with
  | rest now => rfl
  | flush newChannel =>
    rw [TxMove.apply]
    split <;> rfl
  | queue flushed pipe data =>
    rw [TxMove.apply, hqueue]
    split <;> rfl
  | advance => rfl
  | fail =>
    simp only [TxMove.apply, TxPath.fail]
    split <;> rfl

/-- Only an end of a transmission gives the semaphore. -/
theorem syncTxDone_txStep (hsync : (e.path cfg).syncing = true) {op : TxOp}
    (hop : ∀ outcome, op ≠ .txDone outcome) :
    (txStep cfg e op).tp.syncTxDone = e.tp.syncTxDone := by
  have hsync' : (cfg.rendezvous && e.tp.syncTxInProgress) = true := hsync
  cases op with
  | send pipe data =>
    have hnoted : (cfg.rendezvous && (noteHanded e pipe data).tp.syncTxInProgress) = true := hsync
    simp only [txStep, esbTransportSend, hnoted, if_true]
    split <;> rfl
  | txDone outcome => exact absurd rfl (hop outcome)
  | setChannel channel =>
    simp only [txStep, esbTransportSetChannel]
    split
    · rfl
    · split
      · rfl
      · simp only [Endpoint.mapTp_tp, onNewChannel]
        split <;> rfl
  | flushTx => rfl
  | idleBegin =>
    simp only [txStep]
    split <;> rfl
  | connected => rfl
  | tick ms => rfl

theorem syncTxDone_slotStart : (esbTransportOnSlotStart cfg e).tp.syncTxDone = e.tp.syncTxDone := by
  simp only [esbTransportOnSlotStart, esbInitAndConfigure, Endpoint.mapTp_tp]
  split <;> split <;> rfl

/-- The packet on the air flies on, with what is behind it or without. -/
structure TxPath.FliesOn (p p' : TxPath) : Prop where
  syncing : p'.syncing = p.syncing
  initialized : p'.initialized = p.initialized
  written : p'.written = p.written
  onAir : p'.onAir = p.onAir
  fifo : p'.fifo = p.fifo ∨ p'.fifo = []

theorem TxPath.fliesOn_flush (p : TxPath) : p.FliesOn p.flush := by
  refine ⟨rfl, rfl, rfl, rfl, ?_⟩
  unfold flush
  split
  · exact Or.inr rfl
  · exact Or.inl rfl

/-- Under the call's flag nothing but the end of a transmission matters. -/
theorem Waiting.fliesOn {e' : Endpoint} (h : Waiting cfg n e)
    (hsync : (e.path cfg).syncing = true) (hpath : (e.path cfg).FliesOn (e'.path cfg))
    (hkept : e'.tp.syncTxDone = e.tp.syncTxDone) : Waiting cfg n e' := by
  cases h with
  | out _ hdone hwritten hinit hair hserial hfifo =>
    refine .out (hpath.syncing.trans hsync) (hkept.trans hdone) ?_
      (hpath.initialized.trans hinit) (hpath.onAir.trans hair) hserial ?_
    · rw [hpath.written]
      exact hwritten
    · rcases hpath.fifo with hsame | hnil
      · rw [hsame]
        exact hfifo
      · exact Or.inl hnil
  | lost _ hdone hwritten hair hfifo =>
    refine .lost (hpath.syncing.trans hsync) (hkept.trans hdone) ?_ (hpath.onAir.trans hair) ?_
    · rw [hpath.written]
      exact hwritten
    · rcases hpath.fifo with hsame | hnil
      · exact hsame.trans hfifo
      · exact hnil
  | ended hended _ => exact Bool.noConfusion (hsync.symm.trans hended)

/-- A slot that stops or starts under the call loses its packet. -/
theorem Waiting.emptied {e' : Endpoint} (h : Waiting cfg n e)
    (hsync : (e.path cfg).syncing = true) (hsync' : (e'.path cfg).syncing = true)
    (hwritten : (e'.path cfg).written = (e.path cfg).written)
    (hair : (e'.path cfg).onAir = none) (hfifo : (e'.path cfg).fifo = [])
    (hkept : e'.tp.syncTxDone = e.tp.syncTxDone) : Waiting cfg n e' := by
  cases h with
  | out _ hdone hlt =>
    exact .lost hsync' (hkept.trans hdone) (by rw [hwritten]; exact hlt) hair hfifo
  | lost _ hdone hlt =>
    exact .lost hsync' (hkept.trans hdone) (by rw [hwritten]; exact hlt) hair hfifo
  | ended hended _ => exact Bool.noConfusion (hsync.symm.trans hended)

/-- The end of a transmission in the wait ends the call's. -/
theorem Waiting.txDone (h : Waiting cfg n e) (hsync : (e.path cfg).syncing = true)
    (outcome : TxOutcome) : Waiting cfg n (txDone cfg e outcome) := by
  have hpath := path_txDone_syncing hsync outcome
  cases hend : canEnd cfg e outcome with
  | false =>
    have hsame : EsbEndpoint.txDone cfg e outcome = e := by
      rw [canEnd, Option.isSome_eq_false_iff, Option.isNone_iff_eq_none] at hend
      rw [EsbEndpoint.txDone, hend]
    rw [hsame]
    exact h
  | true =>
    rw [hend, if_pos rfl] at hpath
    cases h with
    | out _ hdone hwritten hinit hair hserial hfifo =>
      refine .ended ?_ ?_
      · rw [hpath]
        split <;> rfl
      · rw [hpath]
        split
        · exact TxPath.Gone.of_empty (TxPath.fifo_flush hinit) rfl hwritten
        · have htail : (e.path cfg).fifo.tail = [] := by
            rcases hfifo with hnil | hone
            · rw [hnil, List.tail_nil]
            · rw [hone, List.tail_cons]
          refine TxPath.Gone.of_empty htail ?_ hwritten
          show (e.path cfg).fifo.tail.head? = none
          rw [htail, List.head?_nil]
    | lost _ _ _ hair _ =>
      obtain ⟨q, hq⟩ := onAir_of_canEnd cfg e hend
      exact absurd (hair.symm.trans hq) (by simp)
    | ended hended _ => exact Bool.noConfusion (hsync.symm.trans hended)

/-- **Whatever comes in its wait**, the call stands somewhere in it. -/
theorem Waiting.step (h : Waiting cfg n e) (op : SlotOp) : Waiting cfg n (slotStep cfg e op) := by
  cases hsync : (e.path cfg).syncing with
  | true =>
    -- in the wait the packet flies on until its own event
    cases op with
    | tx op =>
      by_cases hdone : ∃ outcome, op = .txDone outcome
      · obtain ⟨outcome, rfl⟩ := hdone
        exact h.txDone hsync outcome
      · have hop : ∀ outcome, op ≠ .txDone outcome := fun outcome hop => hdone ⟨outcome, hop⟩
        obtain ⟨move, hpath, hmove⟩ := path_txStep_syncing hsync hop
        refine h.fliesOn hsync ?_ (syncTxDone_txStep hsync hop)
        rw [slotStep, hpath]
        rcases hmove with ⟨now, rfl⟩ | ⟨newChannel, rfl⟩
        · exact ⟨rfl, rfl, rfl, rfl, Or.inl rfl⟩
        · have hflush := TxPath.fliesOn_flush (e.path cfg)
          rw [TxMove.apply]
          split
          · exact ⟨rfl, rfl, rfl, rfl, hflush.fifo⟩
          · exact hflush
    | slotStart =>
      have hpath := path_esbTransportOnSlotStart cfg e
      refine h.emptied hsync ?_ ?_ ?_ ?_ syncTxDone_slotStart
      · rw [slotStep, hpath]
        exact hsync
      · rw [slotStep, hpath]
      · rw [slotStep, hpath]
      · rw [slotStep, hpath]
    | slotStop => exact h.emptied hsync hsync rfl rfl rfl rfl
  | false =>
    -- behind it nothing brings the packet back
    cases h with
    | out hbusy => exact Bool.noConfusion (hsync.symm.trans hbusy)
    | lost hbusy => exact Bool.noConfusion (hsync.symm.trans hbusy)
    | ended _ hgone =>
      refine .ended ?_ (gone_slotStep hgone op)
      cases op with
      | tx op =>
        rw [slotStep, path_txStep cfg e op hsync, syncing_apply]
        exact hsync
      | slotStart =>
        rw [slotStep, path_esbTransportOnSlotStart]
        exact hsync
      | slotStop => exact hsync

theorem Waiting.run (h : Waiting cfg n e) (ops : List SlotOp) :
    Waiting cfg n (runFrom (slotStep cfg) e ops) :=
  (Throughout.of_step (P := fun e => Waiting cfg n e) (fun _ op h => h.step op) h).last

/-! ## Its return -/

/-- The radio is set back where it is idle. -/
theorem restoreRfChannel_iff (hfast : cfg.esbFastChannelSwitching = false) :
    (restoreRfChannel cfg e).radio.rfChannel = e.tp.channel ↔
      e.radio.state = .idle ∧ e.tp.channel ≤ 100 ∨ e.radio.rfChannel = e.tp.channel := by
  have hradio : (restoreRfChannel cfg e).radio = (esbSetRfChannel cfg e.radio e.tp.channel).1 := rfl
  rw [hradio, esbSetRfChannel]
  split
  · rename_i hhigh
    exact (or_iff_right fun h => absurd hhigh (UInt8.not_lt.2 h.2)).symm
  · rename_i hlow
    split
    · rename_i hbusy
      rw [hfast, Bool.not_false, Bool.and_true, bne_iff_ne] at hbusy
      exact (or_iff_right fun h => hbusy h.1).symm
    · rename_i hidle
      rw [hfast, Bool.not_false, Bool.and_true, bne_iff_ne, not_not] at hidle
      exact iff_of_true rfl (Or.inl ⟨hidle, UInt8.not_lt.1 hlow⟩)

/-- What the end of the call leaves to be known of it. -/
theorem sendBlockingEnd_spec (hrdv : cfg.rendezvous = true) (h : Waiting cfg n e) :
    (sendBlockingEnd cfg e).1.radio = (restoreRfChannel cfg e).radio ∧
      (sendBlockingEnd cfg e).1.tp.channel = e.tp.channel ∧
      (sendBlockingEnd cfg e).1.tp.syncTxInProgress = false := by
  have hflag : e.tp.syncTxDone = true → e.tp.syncTxInProgress = false := by
    intro hgiven
    cases h with
    | out _ hdone => exact Bool.noConfusion (hgiven.symm.trans hdone)
    | lost _ hdone => exact Bool.noConfusion (hgiven.symm.trans hdone)
    | ended hsync _ =>
      have hsync' : (cfg.rendezvous && e.tp.syncTxInProgress) = false := hsync
      rwa [hrdv, Bool.true_and] at hsync'
  rw [sendBlockingEnd_fst]
  split
  · rename_i hgiven
    exact ⟨rfl, rfl, hflag hgiven⟩
  · exact ⟨rfl, rfl, rfl⟩

/-- The packet of a call that stands somewhere in its wait is gone unless
it is on the air. -/
theorem Waiting.gone_iff (h : Waiting cfg n e) :
    (e.path cfg).Gone n ↔ ∀ q ∈ e.radio.state.onAir, q.serial ≠ n := by
  refine ⟨fun hgone q hq => hgone.2 q (Or.inr hq), fun hlanded => ?_⟩
  cases h with
  | out _ _ _ _ hair hserial _ => exact absurd hserial (hlanded _ hair)
  | lost _ _ hwritten hair hfifo => exact TxPath.Gone.of_empty hfifo hair hwritten
  | ended _ hgone => exact hgone

/-- **No event to come** is taken for one of the active channel exactly if
the packet is gone. -/
theorem no_regularEvent_iff (hrdv : cfg.rendezvous = true)
    (hfast : cfg.esbFastChannelSwitching = false) (hsync : (e.path cfg).syncing = false)
    (hair : (∀ q ∈ e.radio.state.onAir, q.serial ≠ n) → (e.path cfg).Gone n) :
    (∀ later : List TripOp,
        Guarded (tripStep cfg) (fun e' op => ¬ RegularEvent cfg n e' op) e later) ↔
      (e.path cfg).Gone n := by
  constructor
  · intro h
    refine hair fun q hq hserial => ?_
    obtain ⟨outcome, hend⟩ := exists_canEnd cfg e hq
    exact (h [.slot (.tx (.txDone outcome))]).1 ⟨hend, hsync, q, hq, hserial⟩
  · intro hgone later
    refine Guarded.of_invariant (I := fun e => (e.path cfg).Gone n) (C := fun _ _ => True)
      (fun _ op h _ => gone_tripStep hrdv hfast h op) (fun e' op h _ hregular => ?_) hgone
      (Guarded.of_forall fun _ _ => trivial)
    unfold RegularEvent at hregular
    split at hregular
    · obtain ⟨-, -, q, hq, hserial⟩ := hregular
      exact h.2 q (Or.inr hq) hserial
    · exact hregular

/-- A call that gets to its wait has its packet on the air. -/
theorem waiting_sendBlockingBegin (hrdv : cfg.rendezvous = true) {channel : UInt8} {pipe : Nat}
    {data : List UInt8} (hrefuses : refusesTrip cfg e channel data = false)
    (hwrite : tripWriteError cfg e channel pipe data = none) :
    (sendBlockingBegin cfg e channel pipe data).2 = none ∧
      Waiting cfg e.radio.written (sendBlockingBegin cfg e channel pipe data).1 := by
  have hidle : e.radio.state = .idle := by
    simp only [refusesTrip, Bool.or_eq_false_iff, bne_eq_false_iff_eq] at hrefuses
    exact hrefuses.2
  have hinit : e.radio.initialized = true := by
    have hradio : (visiting cfg e channel).radio.initialized = e.radio.initialized :=
      congrArg TxPath.initialized (path_esbFlushTxAndReset cfg e)
    rw [← hradio]
    by_contra hoff
    rw [Bool.not_eq_true] at hoff
    rw [tripWriteError, writeError, hoff, Bool.not_false, if_pos rfl] at hwrite
    exact absurd hwrite (by simp)
  obtain ⟨hok, happended⟩ := esbWritePayload_appended cfg hwrite
  rw [sendBlockingBegin_of_visits hrefuses]
  generalize esbWritePayload cfg (visiting cfg e channel).radio ⟨pipe, false, data⟩ = w
    at hok happended
  obtain ⟨r, err⟩ := w
  obtain rfl : err = none := hok
  refine ⟨rfl, ?_⟩
  have hpath := path_appended cfg (visiting cfg e channel) happended
  rw [path_visiting hrdv] at hpath
  have hfifo : ((e.path cfg).flush).fifo = [] := TxPath.fifo_flush hinit
  have hready : ((e.path cfg).flush).ready = true := by
    show readyToStart cfg e.radio = true
    rw [readyToStart, hidle]
    rfl
  refine .out (q := { pipe, noack := false, data, serial := e.radio.written }) ?_ rfl ?_ ?_ ?_ rfl
    (Or.inr ?_)
  · exact congrArg TxPath.syncing hpath
  · rw [show ((visiting cfg e channel).mapRadio fun _ => r).path cfg = _ from hpath]
    exact Nat.lt_succ_self _
  · exact (congrArg TxPath.initialized hpath).trans hinit
  · refine (congrArg TxPath.onAir hpath).trans ?_
    simp only [TxPath.put, hfifo, hready, if_true, List.nil_append, List.head?_cons]
    rfl
  · refine (congrArg TxPath.fifo hpath).trans ?_
    simp only [TxPath.put, hfifo, List.nil_append]
    rfl

/-! ## The call as a whole -/

section Call

variable {channel : UInt8} {pipe : Nat} {data : List UInt8} {ops : List SlotOp}

theorem sendBlocking_of_error (herr : (sendBlockingBegin cfg e channel pipe data).2 ≠ none) :
    sendBlocking cfg e channel pipe data ops = sendBlockingBegin cfg e channel pipe data := by
  unfold sendBlocking
  split
  · rename_i heq
    exact heq.symm
  · rename_i heq
    rw [heq] at herr
    exact absurd rfl herr

theorem sendBlocking_of_wait (hwait : (sendBlockingBegin cfg e channel pipe data).2 = none) :
    sendBlocking cfg e channel pipe data ops =
      sendBlockingEnd cfg
        (runFrom (slotStep cfg) (sendBlockingBegin cfg e channel pipe data).1 ops) := by
  unfold sendBlocking
  split
  · rename_i heq
    rw [heq] at hwait
    exact absurd hwait (by simp)
  · rename_i heq
    rw [heq]

/-- A call that returns before its write leaves the radio as it finds it. -/
theorem visitsOnly_of_refuses (hfast : cfg.esbFastChannelSwitching = false)
    (hrefuses : refusesTrip cfg e channel data = true) :
    VisitsOnly cfg e channel pipe data ops ↔
      e.radio.rfChannel = e.tp.channel ∧ e.tp.syncTxInProgress = false := by
  obtain ⟨herr, hleft⟩ := @sendBlockingBegin_of_refuses cfg e channel pipe data hfast hrefuses
  have hreturn := @sendBlocking_of_error cfg e channel pipe data ops herr
  have hsame : (sendBlocking cfg e channel pipe data ops).1.radio.rfChannel = e.radio.rfChannel ∧
      (sendBlocking cfg e channel pipe data ops).1.tp.channel = e.tp.channel ∧
      (sendBlocking cfg e channel pipe data ops).1.tp.syncTxInProgress =
        e.tp.syncTxInProgress := by
    rw [hreturn]
    rcases hleft with hkept | hflushed
    · rw [hkept]
      exact ⟨rfl, rfl, rfl⟩
    · rw [hflushed]
      exact ⟨(esbFlushTxAndReset_radio cfg e).2, rfl, rfl⟩
  obtain ⟨hrf, hchannel, hflag⟩ := hsame
  constructor
  · intro h
    exact ⟨by rw [← hrf, h.restored, hchannel], by rw [← hflag, h.flag]⟩
  · rintro ⟨hon, hoff⟩
    exact ⟨by rw [hrf, hon, hchannel], hflag.trans hoff, fun hwait => absurd hwait herr⟩

/-- One whose write is refused sets the radio back, which is idle. -/
theorem visitsOnly_of_unwritten (hfast : cfg.esbFastChannelSwitching = false)
    (hrefuses : refusesTrip cfg e channel data = false)
    (hwrite : tripWriteError cfg e channel pipe data ≠ none) :
    VisitsOnly cfg e channel pipe data ops ↔ e.tp.channel ≤ 100 := by
  obtain ⟨err, herr⟩ := Option.ne_none_iff_exists'.1 hwrite
  have hbegin : sendBlockingBegin cfg e channel pipe data =
      (restoreRfChannel cfg
        ((visiting cfg e channel).mapTp fun tp => { tp with syncTxInProgress := false }),
        some err) := by
    rw [tripWriteError] at herr
    rw [sendBlockingBegin_of_visits hrefuses]
    simp only [esbWritePayload, herr]
  have hreturn := @sendBlocking_of_error cfg e channel pipe data ops (by rw [hbegin]; simp)
  rw [hbegin] at hreturn
  simp only [refusesTrip, Bool.or_eq_false_iff, decide_eq_false_iff_not, bne_eq_false_iff_eq]
    at hrefuses
  obtain ⟨⟨-, hlow⟩, hidle⟩ := hrefuses
  have hrest : (visiting cfg e channel).radio.state = .idle :=
    (esbFlushTxAndReset_radio cfg e).1.trans hidle
  have hrestored := @restoreRfChannel_iff cfg
    ((visiting cfg e channel).mapTp fun tp => { tp with syncTxInProgress := false }) hfast
  constructor
  · intro h
    have hback := h.restored
    rw [hreturn] at hback
    rcases hrestored.1 hback with ⟨-, hle⟩ | hsame
    · exact hle
    · -- the channel it went to is the active one
      have hchannel : channel = e.tp.channel := hsame
      rw [← hchannel]
      exact UInt8.not_lt.1 hlow
  · intro hle
    refine ⟨?_, ?_, fun hwait => ?_⟩
    · rw [hreturn]
      exact hrestored.2 (Or.inl ⟨hrest, hle⟩)
    · rw [hreturn]
      rfl
    · rw [hbegin] at hwait
      exact absurd hwait (by simp)

/-- One that waits is judged by the end of its wait. -/
theorem visitsOnly_of_waits (hrdv : cfg.rendezvous = true)
    (hfast : cfg.esbFastChannelSwitching = false)
    (hrefuses : refusesTrip cfg e channel data = false)
    (hwrite : tripWriteError cfg e channel pipe data = none) :
    VisitsOnly cfg e channel pipe data ops ↔
      TripOver e.radio.written
        (runFrom (slotStep cfg) (sendBlockingBegin cfg e channel pipe data).1 ops) := by
  obtain ⟨hwait, hbegun⟩ := waiting_sendBlockingBegin hrdv hrefuses hwrite
  have hreturn := @sendBlocking_of_wait cfg e channel pipe data ops hwait
  have hwaited := hbegun.run ops
  generalize runFrom (slotStep cfg) (sendBlockingBegin cfg e channel pipe data).1 ops = e'
    at hreturn hwaited
  obtain ⟨hradio, hchannel, hflag⟩ := sendBlockingEnd_spec hrdv hwaited
  have hlands : (sendBlockingEnd cfg e').1.radio.rfChannel =
      (sendBlockingEnd cfg e').1.tp.channel ↔
        e'.radio.state = .idle ∧ e'.tp.channel ≤ 100 ∨ e'.radio.rfChannel = e'.tp.channel := by
    rw [hradio, hchannel]
    exact restoreRfChannel_iff hfast
  obtain ⟨syncing, hpath⟩ := @path_sendBlockingEnd cfg e'
  have hair : (sendBlockingEnd cfg e').1.radio.state.onAir = e'.radio.state.onAir :=
    congrArg TxPath.onAir hpath
  have hgone : ((sendBlockingEnd cfg e').1.path cfg).Gone e.radio.written ↔
      ∀ q ∈ e'.radio.state.onAir, q.serial ≠ e.radio.written := by
    rw [← hwaited.gone_iff, hpath]
    exact Iff.rfl
  have hsync : ((sendBlockingEnd cfg e').1.path cfg).syncing = false := by
    show (cfg.rendezvous && (sendBlockingEnd cfg e').1.tp.syncTxInProgress) = false
    rw [hflag, Bool.and_false]
  have hevents := no_regularEvent_iff (n := e.radio.written) hrdv hfast hsync
    (by rw [hair]; exact hgone.2)
  -- what the call promises, told of the state its wait ends in
  constructor
  · intro h
    have hback := h.restored
    have hnone := h.events hwait
    rw [hreturn] at hback hnone
    exact ⟨hlands.1 hback, hgone.1 (hevents.1 hnone)⟩
  · intro h
    refine ⟨?_, ?_, fun _ => ?_⟩
    · rw [hreturn]
      exact hlands.2 h.lands
    · rw [hreturn]
      exact hflag
    · rw [hreturn]
      exact hevents.2 (hgone.2 h.landed)

end Call

/-- **A side-trip visits and never commits** exactly if it is clean: for
every call from any state, whatever comes in its wait and after it, with
the radio refusing to be tuned unless it is idle. -/
theorem visitsOnly_iff (cfg : Config) (hrdv : cfg.rendezvous = true)
    (hfast : cfg.esbFastChannelSwitching = false) (e : Endpoint) (channel : UInt8) (pipe : Nat)
    (data : List UInt8) (ops : List SlotOp) :
    VisitsOnly cfg e channel pipe data ops ↔ TripClean cfg e channel pipe data ops := by
  unfold TripClean
  split
  · rename_i hrefuses
    exact visitsOnly_of_refuses hfast hrefuses
  · rename_i hvisits
    rw [Bool.not_eq_true] at hvisits
    split
    · rename_i hwrite
      exact visitsOnly_of_unwritten hfast hvisits hwrite
    · rename_i hwrite
      exact visitsOnly_of_waits hrdv hfast hvisits (not_not.1 hwrite)

/-- A dongle that is there acknowledges the visit. -/
theorem visitsOnly_acked : VisitsOnly .default (Endpoint.start .default [] none) 40 esbPipeData
    [esbPktChannelHopProposal, 78, 78] [.tx (.tick 1), .tx (.txDone (.acked 0 []))] :=
  (visitsOnly_iff .default rfl rfl _ 40 esbPipeData _ _).2 (by
    unfold TripClean
    decide +kernel)

/-- **A dongle that is not there** leaves the packet on the air when the
wait is over, and the radio on the channel visited. -/
theorem not_visitsOnly : ¬ ∀ (cfg : Config), cfg.rendezvous = true →
    cfg.esbFastChannelSwitching = false → ∀ (e : Endpoint) (channel : UInt8) (pipe : Nat)
      (data : List UInt8) (ops : List SlotOp), VisitsOnly cfg e channel pipe data ops := by
  intro h
  have hvisit := h .default rfl rfl (Endpoint.start .default [] none) 40 esbPipeData
    [esbPktChannelHopProposal, 78, 78] [.tx (.tick 10)]
  exact absurd hvisit.restored (by decide +kernel)

end EsbEndpoint
