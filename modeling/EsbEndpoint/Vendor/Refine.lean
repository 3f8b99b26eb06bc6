import EsbEndpoint.Common.Run
import EsbEndpoint.Vendor.Driver

/-!
# The radio as a transmitter, refined

`Radio` is what the rest of the development sees of `esb.c` in PTX mode: a
list for a FIFO and a transmission that ends in one step. Here it is read
off the statics (`Driver.radio`), and every call of the library and every
interrupt of the radio is one operation of `Radio` or none
(`refines_driverStep`): an attempt that is to be repeated changes nothing it
sees.
-/

namespace EsbEndpoint

namespace Driver

variable (cfg : Config) (d : Driver)

/-! ## What `Radio` sees -/

/-- The packet on the air, as it was queued. -/
def current : Queued :=
  ⟨⟨d.txAddress, !d.txPayloadBuffer.noAck, d.txPayloadBuffer.data⟩, d.txPayloadBuffer.serial⟩

/-- `esb_state`, with the packet on the air. -/
def esbState : EsbState :=
  match d.state with
  | .ptxTx => .ptxTx d.current
  | .ptxTxAck | .ptxRxAck => .ptxTxAck d.current d.esbCfg.retransmitCount
  | .ptxTxidle => .ptxTxidle
  | .idle | .prx | .prxSendAck => .idle

def radio : Radio where
  initialized := d.initialized
  state := d.esbState
  txFifo := (d.txFifo.contents cfg.esbTxFifoSize).map Slot.toQueued
  rxFifo := (d.rxFifo.contents cfg.esbRxFifoSize).map fun p => p.data
  rfChannel := d.rfChannel
  retransmitCount := d.esbCfg.retransmitCount
  retransmitDelay := d.esbCfg.retransmitDelay
  selectiveAutoAck := d.esbCfg.selectiveAutoAck
  lastTxAttempts := d.lastTxAttempts
  written := d.written

/-- **The transmitter's statics fit together**: the FIFOs are well formed
and no more retransmissions are left than the packet was given. -/
structure PtxSound : Prop where
  mode : d.esbCfg.mode = .ptx
  state_ne : d.state ≠ .prx ∧ d.state ≠ .prxSendAck
  txFifo : d.txFifo.Sound cfg.esbTxFifoSize
  rxFifo : d.rxFifo.Sound cfg.esbRxFifoSize
  remaining_le : d.state = .ptxTxAck ∨ d.state = .ptxRxAck →
    d.retransmitsRemaining ≤ d.esbCfg.retransmitCount

variable {cfg d}

theorem readyToStart_radio (h : d.PtxSound cfg) :
    EsbEndpoint.readyToStart cfg (d.radio cfg) = d.readyToStart cfg := by
  unfold EsbEndpoint.readyToStart readyToStart
  show (d.esbState == .idle || cfg.esbNeverDisableTx && d.esbState == .ptxTxidle) = _
  unfold esbState
  cases hstate : d.state with
  | prx => exact absurd hstate h.state_ne.1
  | prxSendAck => exact absurd hstate h.state_ne.2
  | idle => rfl
  | ptxTxidle => rfl
  | ptxTx => rfl
  | ptxTxAck => rfl
  | ptxRxAck => rfl

/-! ## Function by function -/

/-- A start puts the oldest payload on the air. -/
theorem radio_startTxTransaction (htx : d.txFifo.Sound cfg.esbTxFifoSize)
    (hcount : d.txFifo.count ≠ 0) :
    d.startTxTransaction.radio cfg = EsbEndpoint.startTxTransaction (d.radio cfg) := by
  have hfifo : (d.radio cfg).txFifo = d.txFifo.peek.toQueued ::
      ((d.txFifo.pop cfg.esbTxFifoSize).contents cfg.esbTxFifoSize).map Slot.toQueued :=
    (congrArg (List.map Slot.toQueued) (htx.contents_cons hcount)).trans (List.map_cons ..)
  unfold EsbEndpoint.startTxTransaction
  split
  · rename_i hnil
    exact absurd (hnil.symm.trans hfifo) (by simp)
  · rename_i q qs hcons
    obtain rfl : q = d.txFifo.peek.toQueued := (List.cons.inj (hcons.symm.trans hfifo)).1
    have hack : (d.radio cfg).selectiveAutoAck = d.esbCfg.selectiveAutoAck := rfl
    unfold startTxTransaction
    dsimp only
    rw [hack]
    split
    · simp only [radio, esbState, current, Bool.not_not]
    · simp only [radio, esbState, current, Bool.not_not]

theorem ptxSound_startTxTransaction (h : d.PtxSound cfg) : d.startTxTransaction.PtxSound cfg := by
  unfold startTxTransaction
  dsimp only
  split
  · exact ⟨h.mode, by simp, h.txFifo, h.rxFifo, fun _ => Nat.le_refl _⟩
  · exact ⟨h.mode, by simp, h.txFifo, h.rxFifo, by simp⟩

/-- After the head has left, the FIFO decides. -/
theorem radio_startNextOr {settled : DriverState} (settled' : EsbState)
    (htx : d.txFifo.Sound cfg.esbTxFifoSize)
    (hsettled : { d with state := settled }.esbState = settled') :
    (d.startNextOr settled).radio cfg = EsbEndpoint.startNextOr (d.radio cfg) settled' := by
  unfold startNextOr EsbEndpoint.startNextOr
  by_cases hcount : d.txFifo.count = 0
  · have hempty : (d.radio cfg).txFifo.isEmpty = true := by
      rw [List.isEmpty_iff]
      exact (congrArg (List.map Slot.toQueued) (WrapFifo.contents_eq_nil_iff.2 hcount)).trans rfl
    rw [if_pos hcount, if_pos hempty, ← hsettled]
    rfl
  · have hne : ¬ (d.radio cfg).txFifo.isEmpty = true := by
      rw [List.isEmpty_iff]
      exact fun h => hcount (WrapFifo.contents_eq_nil_iff.1 (List.map_eq_nil_iff.1 h))
    rw [if_neg hcount, if_neg hne, radio_startTxTransaction htx hcount]

theorem ptxSound_startNextOr {settled : DriverState} (h : d.PtxSound cfg)
    (hsettled : settled = .idle ∨ settled = .ptxTxidle) :
    (d.startNextOr settled).PtxSound cfg := by
  unfold startNextOr
  split
  · rcases hsettled with rfl | rfl
    · exact ⟨h.mode, by simp, h.txFifo, h.rxFifo, by simp⟩
    · exact ⟨h.mode, by simp, h.txFifo, h.rxFifo, by simp⟩
  · exact ptxSound_startTxTransaction h

theorem radio_txFifoRemoveLast (htx : d.txFifo.Sound cfg.esbTxFifoSize) :
    (d.txFifoRemoveLast cfg).radio cfg = EsbEndpoint.txFifoRemoveLast (d.radio cfg) := by
  have htail : ((d.txFifo.pop cfg.esbTxFifoSize).contents cfg.esbTxFifoSize).map Slot.toQueued =
      (d.radio cfg).txFifo.tail := by
    rw [htx.contents_pop]
    exact List.map_tail
  unfold EsbEndpoint.txFifoRemoveLast
  rw [← htail]
  rfl

theorem PtxSound.txFifoRemoveLast (h : d.PtxSound cfg) : (d.txFifoRemoveLast cfg).PtxSound cfg :=
  ⟨h.mode, h.state_ne, h.txFifo.pop, h.rxFifo, h.remaining_le⟩

/-- A payload goes into the receive FIFO under the same conditions. -/
theorem radio_rxFifoPushRfbuf (hrx : d.rxFifo.Sound cfg.esbRxFifoSize) (pipe : Nat) (pdu : Pdu) :
    (d.rxFifoPushRfbuf cfg pipe pdu).map (radio cfg) =
      EsbEndpoint.rxFifoPushRfbuf cfg (d.radio cfg) pdu.data := by
  have hlength : (d.radio cfg).rxFifo.length = d.rxFifo.count := by
    show ((d.rxFifo.contents cfg.esbRxFifoSize).map _).length = _
    rw [List.length_map, WrapFifo.length_contents]
  unfold rxFifoPushRfbuf EsbEndpoint.rxFifoPushRfbuf
  rw [hlength]
  by_cases hfull : cfg.esbRxFifoSize ≤ d.rxFifo.count
  · rw [if_pos hfull, if_pos (Or.inl hfull)]
    rfl
  · by_cases hlong : cfg.esbMaxPayloadLength < pdu.data.length
    · rw [if_neg hfull, if_pos hlong, if_pos (Or.inr hlong)]
      rfl
    · rw [if_neg hfull, if_neg hlong, if_neg (not_or.2 ⟨hfull, hlong⟩), Option.map_some]
      refine congrArg some ?_
      have hpush := hrx.contents_push (Nat.lt_of_not_le hfull) (received pipe pdu)
      unfold radio
      simp only [hpush, List.map_append, List.map_singleton]
      rfl

/-- What a push of the receive FIFO leaves. -/
theorem rxFifoPushRfbuf_eq_some {pipe : Nat} {pdu : Pdu} {d' : Driver}
    (h : d.rxFifoPushRfbuf cfg pipe pdu = some d') :
    d.rxFifo.count < cfg.esbRxFifoSize ∧ pdu.data.length ≤ cfg.esbMaxPayloadLength ∧
      d' = { d with rxFifo := d.rxFifo.push cfg.esbRxFifoSize (received pipe pdu) } := by
  unfold rxFifoPushRfbuf at h
  split at h
  · exact absurd h (by simp)
  · rename_i hfull
    split at h
    · exact absurd h (by simp)
    · rename_i hlong
      exact ⟨Nat.lt_of_not_le hfull, Nat.le_of_not_lt hlong, (Option.some.inj h).symm⟩

/-! ## The ends of a transmission -/

end Driver

/-- The flag of an event is set. -/
def Interrupts.note (f : Interrupts) : EsbEvtId → Interrupts
  | .txSuccess => { f with txSuccess := true }
  | .txFailed => { f with txFailed := true }
  | .rxReceived => { f with rxDataReceived := true }

namespace Driver

variable {cfg : Config} {d : Driver}

/-- A transmission has ended: what `Radio` sees of it, with the flags of
its events set. -/
def EndsAs (cfg : Config) (d : Driver) (outcome : TxOutcome) (events : List EsbEvtId)
    (d' : Driver) : Prop :=
  radioDone cfg (d.radio cfg) outcome = some (d'.radio cfg, events) ∧
    d'.interruptFlags = events.foldl Interrupts.note d.interruptFlags

/-- The payload of an ACK goes into the receive FIFO. -/
def TakesReply (cfg : Config) (d : Driver) (pdu : Pdu) : Prop :=
  0 < pdu.data.length ∧ d.rxFifo.count < cfg.esbRxFifoSize ∧
    pdu.data.length ≤ cfg.esbMaxPayloadLength

instance (cfg : Config) (d : Driver) (pdu : Pdu) : Decidable (TakesReply cfg d pdu) :=
  inferInstanceAs (Decidable (_ ∧ _))

theorem radio_raise (f : Interrupts → Interrupts) : (d.raise f).radio cfg = d.radio cfg := rfl

theorem PtxSound.raise (h : d.PtxSound cfg) (f : Interrupts → Interrupts) :
    (d.raise f).PtxSound cfg := ⟨h.mode, h.state_ne, h.txFifo, h.rxFifo, h.remaining_le⟩

theorem interruptFlags_startNextOr (settled : DriverState) :
    (d.startNextOr settled).interruptFlags = d.interruptFlags := by
  unfold startNextOr
  split
  · rfl
  · unfold startTxTransaction
    dsimp only
    split <;> rfl

/-- A packet that asks for no ACK has left. -/
theorem endsAs_sent (h : d.PtxSound cfg) (hstate : d.state = .ptxTx) :
    EndsAs cfg d .sent [.txSuccess] (d.onRadioDisabledTxNoack cfg) := by
  have hon : (d.radio cfg).state = .ptxTx d.current := by
    show d.esbState = _
    unfold esbState
    rw [hstate]
  have hsound := (h.raise fun f => { f with txSuccess := true }).txFifoRemoveLast
  refine ⟨?_, interruptFlags_startNextOr _⟩
  simp only [radioDone, hon, EsbEndpoint.onRadioEndTxNoack]
  rw [Driver.onRadioDisabledTxNoack, radio_startNextOr
    (if cfg.esbNeverDisableTx then .ptxTxidle else .idle) hsound.txFifo (by split <;> rfl),
    radio_txFifoRemoveLast (h.raise _).txFifo, radio_raise]

theorem PtxSound.onRadioDisabledTxNoack (h : d.PtxSound cfg) :
    (d.onRadioDisabledTxNoack cfg).PtxSound cfg := by
  refine ptxSound_startNextOr (h.raise _).txFifoRemoveLast ?_
  split
  · exact Or.inr rfl
  · exact Or.inl rfl

/-- What is on the air while an ACK is waited for. -/
theorem radio_state_of_ptxRxAck (hstate : d.state = .ptxRxAck) :
    (d.radio cfg).state = .ptxTxAck d.current d.esbCfg.retransmitCount := by
  show d.esbState = _
  unfold esbState
  rw [hstate]

theorem PtxSound.ackReceived (h : d.PtxSound cfg) : (d.ackReceived cfg).PtxSound cfg :=
  ⟨h.mode, h.state_ne, h.txFifo.pop, h.rxFifo, h.remaining_le⟩

/-- An ACK's payload is taken where `Radio` takes it. -/
theorem radio_takeReply (h : d.PtxSound cfg) (pdu : Pdu) :
    (¬ TakesReply cfg d pdu ∧
      (if pdu.data.isEmpty then none
        else EsbEndpoint.rxFifoPushRfbuf cfg (d.radio cfg) pdu.data) = none ∧
      d.takeReply cfg pdu = d) ∨
    (TakesReply cfg d pdu ∧
      (if pdu.data.isEmpty then none
        else EsbEndpoint.rxFifoPushRfbuf cfg (d.radio cfg) pdu.data) =
          some ((d.takeReply cfg pdu).radio cfg) ∧
      (d.takeReply cfg pdu).interruptFlags = d.interruptFlags.note .rxReceived ∧
      (d.takeReply cfg pdu).PtxSound cfg) := by
  have hpush := radio_rxFifoPushRfbuf h.rxFifo d.txAddress pdu
  unfold takeReply
  by_cases hempty : pdu.data.isEmpty = true
  · have hlength : ¬ 0 < pdu.data.length := by
      rw [List.isEmpty_iff.1 hempty]
      exact Nat.lt_irrefl 0
    rw [if_pos hempty, if_neg hlength]
    exact Or.inl ⟨fun htakes => hlength htakes.1, rfl, rfl⟩
  · have hlength : 0 < pdu.data.length := List.length_pos_iff.2 fun hnil =>
      hempty (List.isEmpty_iff.2 hnil)
    rw [if_neg hempty, if_pos hlength, ← hpush]
    cases hsome : d.rxFifoPushRfbuf cfg d.txAddress pdu with
    | none =>
      refine Or.inl ⟨fun htakes => ?_, rfl, rfl⟩
      rw [Driver.rxFifoPushRfbuf, if_neg (Nat.not_le_of_lt htakes.2.1),
        if_neg (Nat.not_lt_of_le htakes.2.2)] at hsome
      exact absurd hsome (by simp)
    | some d' =>
      obtain ⟨hroom, hfits, rfl⟩ := rxFifoPushRfbuf_eq_some hsome
      refine Or.inr ⟨⟨hlength, hroom, hfits⟩, rfl, rfl, ?_⟩
      exact ⟨h.mode, h.state_ne, h.txFifo, h.rxFifo.push hroom _, h.remaining_le⟩

theorem PtxSound.takeReply (h : d.PtxSound cfg) (pdu : Pdu) :
    (d.takeReply cfg pdu).PtxSound cfg := by
  rcases radio_takeReply h pdu with ⟨-, -, hsame⟩ | ⟨-, -, -, hsound⟩
  · rw [hsame]
    exact h
  · exact hsound

/-- **An ACK has come**, with or without a payload. -/
theorem endsAs_acked (h : d.PtxSound cfg) (hstate : d.state = .ptxRxAck) (pdu : Pdu) :
    EndsAs cfg d (.acked (d.esbCfg.retransmitCount - d.retransmitsRemaining) pdu.data)
      (.txSuccess :: if TakesReply cfg d pdu then [.rxReceived] else [])
      (d.onRadioDisabledTxWaitForAck cfg (some pdu)) := by
  have hle := h.remaining_le (Or.inr hstate)
  have hretries : (d.radio cfg).retransmitCount -
      (d.esbCfg.retransmitCount - (d.esbCfg.retransmitCount - d.retransmitsRemaining)) + 1 =
        d.esbCfg.retransmitCount - d.retransmitsRemaining + 1 := by
    show d.esbCfg.retransmitCount - _ + 1 = _
    omega
  have htaken : (d.ackReceived cfg).radio cfg = EsbEndpoint.txFifoRemoveLast
      { d.radio cfg with
        lastTxAttempts := d.esbCfg.retransmitCount - d.retransmitsRemaining + 1 } :=
    @radio_txFifoRemoveLast cfg
      { d.raise fun f => { f with txSuccess := true } with
        lastTxAttempts := d.esbCfg.retransmitCount - d.retransmitsRemaining + 1 } h.txFifo
  dsimp only at htaken
  have hend : radioDone cfg (d.radio cfg)
      (.acked (d.esbCfg.retransmitCount - d.retransmitsRemaining) pdu.data) =
        some (EsbEndpoint.onAckReceived cfg (d.radio cfg) d.esbCfg.retransmitCount
          (d.esbCfg.retransmitCount - d.retransmitsRemaining) pdu.data) := by
    simp only [radioDone, radio_state_of_ptxRxAck hstate]
    exact if_pos (Nat.sub_le _ _)
  unfold EndsAs
  rw [hend]
  unfold EsbEndpoint.onAckReceived onRadioDisabledTxWaitForAck
  dsimp only
  rw [hretries, ← htaken]
  rcases radio_takeReply h.ackReceived pdu with
    ⟨htakes, hnone, hsame⟩ | ⟨htakes, hsome, hflags, hsound⟩
  · have hno : ¬ TakesReply cfg d pdu := htakes
    rw [hnone, hsame, if_neg hno]
    exact ⟨by rw [radio_startNextOr .idle h.ackReceived.txFifo rfl], interruptFlags_startNextOr _⟩
  · have hyes : TakesReply cfg d pdu := htakes
    rw [hsome, if_pos hyes]
    refine ⟨by rw [radio_startNextOr .idle hsound.txFifo rfl], ?_⟩
    rw [interruptFlags_startNextOr, hflags]
    rfl

/-- The retransmissions are spent. -/
theorem endsAs_exhausted (hstate : d.state = .ptxRxAck) (hspent : d.retransmitsRemaining = 0) :
    EndsAs cfg d .exhausted [.txFailed] (d.onRadioDisabledTxWaitForAck cfg none) := by
  refine ⟨?_, ?_⟩
  · simp only [radioDone, radio_state_of_ptxRxAck hstate, onRadioDisabledTxWaitForAck, hspent,
      if_true]
    rfl
  · simp only [onRadioDisabledTxWaitForAck, hspent, if_true]
    rfl

/-- An attempt that is to be repeated is nothing to `Radio`. -/
theorem radio_retransmit (hstate : d.state = .ptxRxAck) (hleft : d.retransmitsRemaining ≠ 0) :
    (d.onRadioDisabledTxWaitForAck cfg none).radio cfg = d.radio cfg ∧
      (d.onRadioDisabledTxWaitForAck cfg none).interruptFlags = d.interruptFlags := by
  unfold onRadioDisabledTxWaitForAck
  dsimp only
  rw [if_neg hleft]
  refine ⟨?_, rfl⟩
  unfold radio esbState
  rw [hstate]
  rfl

theorem PtxSound.onRadioDisabledTxWaitForAck (h : d.PtxSound cfg) (hstate : d.state = .ptxRxAck)
    (reply : Option Pdu) : (d.onRadioDisabledTxWaitForAck cfg reply).PtxSound cfg := by
  cases reply with
  | some pdu => exact ptxSound_startNextOr (h.ackReceived.takeReply pdu) (Or.inl rfl)
  | none =>
    unfold Driver.onRadioDisabledTxWaitForAck
    dsimp only
    have hle := h.remaining_le (Or.inr hstate)
    split
    · exact ⟨h.mode, by simp, h.txFifo, h.rxFifo, by simp⟩
    · exact ⟨h.mode, by simp, h.txFifo, h.rxFifo, fun _ => (Nat.sub_le _ _).trans hle⟩

/-! ## The calls -/

theorem radio_writeError (p : EsbPayload) :
    EsbEndpoint.writeError cfg (d.radio cfg) p = d.writeError cfg p := by
  have hlength : (d.radio cfg).txFifo.length = d.txFifo.count := by
    show ((d.txFifo.contents cfg.esbTxFifoSize).map _).length = _
    rw [List.length_map, WrapFifo.length_contents]
  unfold EsbEndpoint.writeError writeError EsbEndpoint.esbTxFull
  rw [hlength]
  simp only [decide_eq_true_eq]
  rfl

theorem room_of_writeError {p : EsbPayload} (h : d.writeError cfg p = none) :
    d.txFifo.count < cfg.esbTxFifoSize := by
  unfold writeError at h
  by_contra hfull
  rw [if_pos (Nat.le_of_not_lt hfull)] at h
  split at h
  · exact absurd h (by simp)
  · split at h
    · exact absurd h (by simp)
    · exact absurd h (by simp)

theorem radio_enqueue (h : d.PtxSound cfg) {p : EsbPayload}
    (hroom : d.txFifo.count < cfg.esbTxFifoSize) :
    (d.enqueue cfg p).radio cfg = EsbEndpoint.enqueue (d.radio cfg) p ∧
      (d.enqueue cfg p).PtxSound cfg := by
  have hpush := h.txFifo.contents_push hroom (d.stored p)
  refine ⟨?_, h.mode, h.state_ne, h.txFifo.push hroom _, h.rxFifo, h.remaining_le⟩
  unfold radio enqueue EsbEndpoint.enqueue
  dsimp only
  rw [hpush, List.map_append, List.map_singleton]
  rfl

/-- **A write** is refused for the same reason or appends the same payload,
and starts it under the same condition. -/
theorem radio_esbWritePayload (h : d.PtxSound cfg) (p : EsbPayload) :
    ((d.esbWritePayload cfg p).1.radio cfg, (d.esbWritePayload cfg p).2) =
      EsbEndpoint.esbWritePayload cfg (d.radio cfg) p ∧
    (d.esbWritePayload cfg p).1.PtxSound cfg := by
  unfold EsbEndpoint.esbWritePayload esbWritePayload
  rw [radio_writeError]
  cases herr : d.writeError cfg p with
  | some err => exact ⟨rfl, h⟩
  | none =>
    have hroom := room_of_writeError herr
    obtain ⟨hradio, hsound⟩ := @radio_enqueue cfg d h p hroom
    rw [h.mode]
    dsimp only
    rw [← hradio, readyToStart_radio hsound]
    split
    · refine ⟨?_, ptxSound_startTxTransaction hsound⟩
      rw [radio_startTxTransaction hsound.txFifo (Nat.succ_ne_zero _)]
    · exact ⟨rfl, hsound⟩

/-- A read takes the oldest payload. -/
theorem radio_esbReadRxPayload (h : d.PtxSound cfg) :
    ((d.esbReadRxPayload cfg).map fun out => (out.1.data, out.2.radio cfg)) =
      EsbEndpoint.esbReadRxPayload (d.radio cfg) := by
  have hinit : (d.radio cfg).initialized = d.initialized := rfl
  unfold EsbEndpoint.esbReadRxPayload esbReadRxPayload
  rw [hinit]
  split
  · rfl
  · split
    · rename_i hcount
      split
      · rfl
      · rename_i data rest hfifo
        have hnil : (d.radio cfg).rxFifo = [] :=
          (congrArg (List.map _) (WrapFifo.contents_eq_nil_iff.2 hcount)).trans rfl
        exact absurd (hfifo.symm.trans hnil) (by simp)
    · rename_i hcount
      have hcons : (d.radio cfg).rxFifo = d.rxFifo.peek.data ::
          ((d.rxFifo.pop cfg.esbRxFifoSize).contents cfg.esbRxFifoSize).map fun p => p.data :=
        (congrArg (List.map _) (h.rxFifo.contents_cons hcount)).trans (List.map_cons ..)
      split
      · rename_i hnil
        exact absurd (hnil.symm.trans hcons) (by simp)
      · rename_i data rest hfifo
        obtain ⟨rfl, rfl⟩ := List.cons.inj (hfifo.symm.trans hcons)
        rfl

theorem PtxSound.esbReadRxPayload (h : d.PtxSound cfg) {slot : Slot} {d' : Driver}
    (hread : d.esbReadRxPayload cfg = some (slot, d')) : d'.PtxSound cfg := by
  unfold Driver.esbReadRxPayload at hread
  split at hread
  · exact absurd hread (by simp)
  · split at hread
    · exact absurd hread (by simp)
    · obtain ⟨-, rfl⟩ := Prod.mk.inj (Option.some.inj hread)
      exact ⟨h.mode, h.state_ne, h.txFifo, h.rxFifo.pop, h.remaining_le⟩

theorem radio_esbFlushTx (h : d.PtxSound cfg) :
    d.esbFlushTx.radio cfg = EsbEndpoint.esbFlushTx (d.radio cfg) ∧
      d.esbFlushTx.PtxSound cfg := by
  have hinit : (d.radio cfg).initialized = d.initialized := rfl
  unfold EsbEndpoint.esbFlushTx esbFlushTx
  rw [hinit]
  split
  · exact ⟨rfl, h.mode, h.state_ne, WrapFifo.Sound.clear h.txFifo.pos, h.rxFifo, h.remaining_le⟩
  · exact ⟨rfl, h⟩

/-- A setting is refused in the same states. -/
theorem busy_radio (h : d.PtxSound cfg) :
    ((d.radio cfg).state != .idle) = (d.state != .idle) := by
  show (d.esbState != .idle) = _
  unfold esbState
  cases hstate : d.state with
  | prx => exact absurd hstate h.state_ne.1
  | prxSendAck => exact absurd hstate h.state_ne.2
  | idle => rfl
  | ptxTxidle => rfl
  | ptxTx => rfl
  | ptxTxAck => rfl
  | ptxRxAck => rfl

theorem state_of_not_busy (hidle : ¬ (d.state != .idle) = true) : d.state = .idle := by
  simpa using hidle

theorem radio_esbSetRfChannel (h : d.PtxSound cfg) (channel : UInt8) :
    ((d.esbSetRfChannel cfg channel).1.radio cfg, (d.esbSetRfChannel cfg channel).2) =
      EsbEndpoint.esbSetRfChannel cfg (d.radio cfg) channel ∧
    (d.esbSetRfChannel cfg channel).1.PtxSound cfg := by
  unfold EsbEndpoint.esbSetRfChannel esbSetRfChannel
  rw [busy_radio h]
  split
  · exact ⟨rfl, h⟩
  · split
    · exact ⟨rfl, h⟩
    · exact ⟨rfl, h.mode, h.state_ne, h.txFifo, h.rxFifo, h.remaining_le⟩

theorem radio_esbSetRetransmitDelay (h : d.PtxSound cfg) (delay : Nat) :
    ((d.esbSetRetransmitDelay delay).1.radio cfg, (d.esbSetRetransmitDelay delay).2) =
      EsbEndpoint.esbSetRetransmitDelay (d.radio cfg) delay ∧
    (d.esbSetRetransmitDelay delay).1.PtxSound cfg := by
  unfold EsbEndpoint.esbSetRetransmitDelay esbSetRetransmitDelay
  rw [busy_radio h]
  split
  · exact ⟨rfl, h⟩
  · split
    · exact ⟨rfl, h⟩
    · exact ⟨rfl, h.mode, h.state_ne, h.txFifo, h.rxFifo, h.remaining_le⟩

/-- The count does not change under a transmission, so what is left of it
stays within it. -/
theorem radio_esbSetRetransmitCount (h : d.PtxSound cfg) (count : Nat) :
    ((d.esbSetRetransmitCount count).1.radio cfg, (d.esbSetRetransmitCount count).2) =
      EsbEndpoint.esbSetRetransmitCount (d.radio cfg) count ∧
    (d.esbSetRetransmitCount count).1.PtxSound cfg := by
  unfold EsbEndpoint.esbSetRetransmitCount esbSetRetransmitCount
  rw [busy_radio h]
  split
  · exact ⟨rfl, h⟩
  · rename_i hbusy
    have hidle := state_of_not_busy hbusy
    refine ⟨?_, h.mode, h.state_ne, h.txFifo, h.rxFifo, fun hair => ?_⟩
    · unfold radio esbState
      dsimp only
      rw [hidle]
    · rw [show d.state = .idle from hidle] at hair
      exact absurd hair (by simp)

theorem radio_esbDisable (h : d.PtxSound cfg) :
    d.esbDisable.radio cfg = EsbEndpoint.esbDisable (d.radio cfg) ∧ d.esbDisable.PtxSound cfg :=
  ⟨rfl, h.mode, by simp [esbDisable], WrapFifo.Sound.clear h.txFifo.pos,
    WrapFifo.Sound.clear h.rxFifo.pos, by simp [esbDisable]⟩

/-- `esb_init` with the configuration `esb_init_and_configure` builds. -/
theorem radio_esbInit (h : d.PtxSound cfg) {esbCfg : EsbConfig} (hmode : esbCfg.mode = .ptx)
    (hack : esbCfg.selectiveAutoAck = cfg.hidNoack)
    (hcount : esbCfg.retransmitCount = cfg.retransmitCount)
    (hdelay : esbCfg.retransmitDelay = cfg.retransmitDelayUs) :
    (d.esbInit esbCfg).radio cfg = EsbEndpoint.esbInit cfg (d.radio cfg) ∧
      (d.esbInit esbCfg).PtxSound cfg := by
  refine ⟨?_, hmode, by simp [esbInit], WrapFifo.Sound.clear h.txFifo.pos,
    WrapFifo.Sound.clear h.rxFifo.pos, by simp [esbInit]⟩
  unfold radio EsbEndpoint.esbInit esbInit
  dsimp only
  rw [hack, hcount, hdelay]
  rfl

end Driver

end EsbEndpoint
