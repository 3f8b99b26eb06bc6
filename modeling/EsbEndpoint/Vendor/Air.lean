import EsbEndpoint.Vendor.OnAir
import EsbEndpoint.Vendor.Receiver

/-!
# Two radios and the air between them

A transmitter and a receiver, each with the calls of its application, and
the air, which loses what it likes in either direction. An ACK is sent as
soon as its packet has come, so it has come or is lost before the
transmitter stops waiting, and no earlier one is left when the transmitter
sends again: that is what `attempt` and `window` say, and all that is
assumed of time.

`written`, `read`, `offered` and `replies` are history: what the four calls
that move payloads have moved.
-/

namespace EsbEndpoint

structure RadioLink where
  keyboard : Driver
  dongle : Driver
  /-- written by the keyboard -/
  written : List Slot := []
  /-- read by the dongle -/
  read : List Slot := []
  /-- written by the dongle, to go with an ACK -/
  offered : List Slot := []
  /-- read by the keyboard -/
  replies : List Slot := []

inductive RadioLinkOp
  | keyboard (op : DriverOp)
  | dongle (op : DriverOp)
  /-- the keyboard's packet leaves, and reaches the dongle or does not -/
  | attempt (heard : Bool)
  /-- the keyboard's wait for an ACK ends -/
  | window (arrives : Bool)

def radioLinkStep (cfg cfg' : Config) (crc : Nat → Nat → Bool → List UInt8 → UInt16)
    (l : RadioLink) : RadioLinkOp → RadioLink
  | .keyboard op =>
    let out := driverStep cfg crc l.keyboard op
    { l with
      keyboard := out.1
      written := l.written ++ DriverOp.accepted l.keyboard op out.2
      replies := l.replies ++ out.2.read }
  | .dongle op =>
    let out := driverStep cfg' crc l.dongle op
    { l with
      dongle := out.1
      offered := l.offered ++ DriverOp.accepted l.dongle op out.2
      read := l.read ++ out.2.read }
  | .attempt heard =>
    match l.keyboard.state with
    | .ptxTx | .ptxTxAck =>
      let dongle := l.dongle.onRadioDisabled cfg' crc none
      { l with
        keyboard := l.keyboard.onRadioDisabled cfg crc none
        dongle :=
          if heard then
            dongle.onRadioDisabled cfg' crc
              (some (l.keyboard.txAddress, l.keyboard.txPayloadBuffer))
          else dongle }
    | _ => l
  | .window arrives =>
    match l.keyboard.state with
    | .ptxRxAck =>
      { l with
        keyboard := l.keyboard.onRadioDisabled cfg crc
          (if arrives ∧ l.dongle.state = .prxSendAck then
            some (l.dongle.txAddress, l.dongle.txPayloadBuffer)
          else none)
        dongle := l.dongle.onRadioDisabled cfg' crc none }
    | _ => l

/-- The calls the two applications make. The keyboard may empty its FIFO
and take its radio down and up again. -/
def RadioLinkOp.Calls (cfg : Config) : RadioLinkOp → Prop
  | .keyboard op => op.Transmits cfg ∧ ∀ received, op ≠ .radio received
  | .dongle op => op.Serves
  | _ => True

/-- Both radios up, the dongle's listening. -/
def RadioLink.up (kcfg dcfg : EsbConfig) : RadioLink :=
  { keyboard := Driver.boot.esbInit kcfg, dongle := (Driver.boot.esbInit dcfg).esbStartRx.1 }

namespace RadioLink

/-- What the receiver has taken. -/
def delivered (cfg' : Config) (l : RadioLink) : List Slot :=
  l.read ++ l.dongle.rxFifo.contents cfg'.esbRxFifoSize

/-- How many of the written payloads have left the transmitter's FIFO. -/
def gone (d : Driver) (written : List Slot) : Nat := written.length - d.txFifo.count

/-- The receiver has noted a payload as the last of its pipe. -/
def Noted (crc : Nat → Nat → Bool → List UInt8 → UInt16) (dongle : Driver) (w : Slot) : Prop :=
  (dongle.rxPipeInfo w.pipe).pid = w.pid ∧
    (dongle.rxPipeInfo w.pipe).crc = crc w.pipe w.pid (!w.noack) w.data

/-- **The transmitter and its history**: a payload's number is its place,
the FIFO holds the last ones written, and what is on the air is one of those
before them or the first of them. -/
structure Sender (cfg : Config) (d : Driver) (written : List Slot) : Prop where
  sound : d.PtxSound cfg
  serial : ∀ i (hi : i < written.length), (written[i]).serial = i
  written_eq : d.written = written.length
  count_le : d.txFifo.count ≤ written.length
  queue : d.txQueue cfg = written.drop (gone d written)
  air : d.Active → ∃ w ∈ written, w.serial ≤ gone d written ∧ d.Sends w

/-- What may still be sent is not behind the mark, and what is just before
it has been noted. -/
def Ahead (crc : Nat → Nat → Bool → List UInt8 → UInt16) (dongle : Driver) (mark : Nat)
    (w : Slot) : Prop :=
  mark ≤ w.serial + 1 ∧ (mark = w.serial + 1 → Noted crc dongle w)

/-- **The receiver is not ahead of the transmitter.** -/
structure InOrder (cfg : Config) (crc : Nat → Nat → Bool → List UInt8 → UInt16)
    (d dongle : Driver) (written delivered : List Slot) (mark : Nat) : Prop where
  delivered : delivered.Sublist (written.take mark)
  mark_le : mark ≤ written.length
  air : d.Active → ∀ w, d.Sends w → Ahead crc dongle mark w
  head : ∀ w, (d.txQueue cfg).head? = some w → Ahead crc dongle mark w

variable {cfg cfg' : Config} {crc : Nat → Nat → Bool → List UInt8 → UInt16} {d d' dongle : Driver}
  {written delivered : List Slot} {mark : Nat} {w w' : Slot}

/-! ## The transmitter's side of a step -/

theorem eq_of_sends (h : d.Sends w) (h' : d.Sends w') : w = w' := by
  obtain ⟨⟨⟨pipe, noack, data⟩, serial⟩, pid⟩ := w
  obtain ⟨⟨⟨pipe', noack', data'⟩, serial'⟩, pid'⟩ := w'
  have hpipe : pipe = pipe' := h.1.symm.trans h'.1
  obtain ⟨hpid, hnoack, hdata, hserial⟩ := Pdu.mk.inj (h.2.symm.trans h'.2)
  obtain rfl : pid = pid' := hpid
  obtain rfl : data = data' := hdata
  obtain rfl : serial = serial' := hserial
  obtain rfl : noack = noack' := Bool.not_inj hnoack
  rw [hpipe]

theorem accepted_cases (d : Driver) (op : DriverOp) (out : DriverOut) :
    DriverOp.accepted d op out = [] ∨
      ∃ p, op = .write p ∧ DriverOp.accepted d op out = [d.stored p] := by
  unfold DriverOp.accepted
  split
  · exact Or.inr ⟨_, rfl, rfl⟩
  · exact Or.inl rfl

theorem length_txQueue (cfg : Config) (d : Driver) : (d.txQueue cfg).length = d.txFifo.count :=
  WrapFifo.length_contents

theorem Sender.gone_add (h : Sender cfg d written) :
    gone d written + d.txFifo.count = written.length := Nat.sub_add_cancel h.count_le

/-- A payload is known by its number. -/
theorem Sender.eq_of_serial (h : Sender cfg d written) (hw : w ∈ written) (hw' : w' ∈ written)
    (heq : w.serial = w'.serial) : w = w' := by
  obtain ⟨i, hi, rfl⟩ := List.mem_iff_getElem.1 hw
  obtain ⟨j, hj, rfl⟩ := List.mem_iff_getElem.1 hw'
  rw [h.serial i hi, h.serial j hj] at heq
  subst heq
  rfl

/-- The head of the FIFO is the first that has not gone. -/
theorem Sender.head (h : Sender cfg d written) (hw : (d.txQueue cfg).head? = some w) :
    w ∈ written ∧ w.serial = gone d written := by
  rw [h.queue, List.head?_drop] at hw
  obtain ⟨hlt, heq⟩ := List.getElem?_eq_some_iff.1 hw
  exact ⟨heq ▸ List.getElem_mem hlt, heq ▸ h.serial _ hlt⟩

/-- A step that leaves the packet on the air alone or starts the head. -/
theorem Sender.of_airStep (h : Sender cfg d written) {acc : List Slot} (hsound : d'.PtxSound cfg)
    (hserial : ∀ i (hi : i < (written ++ acc).length), ((written ++ acc)[i]).serial = i)
    (hwritten : d'.written = (written ++ acc).length)
    (hcount : d'.txFifo.count ≤ (written ++ acc).length)
    (hgone : gone d written ≤ gone d' (written ++ acc))
    (hqueue : d'.txQueue cfg = (written ++ acc).drop (gone d' (written ++ acc)))
    (hair : d.AirStep cfg d') : Sender cfg d' (written ++ acc) := by
  refine ⟨hsound, hserial, hwritten, hcount, hqueue, fun hactive => ?_⟩
  cases hair with
  | quiet hquiet => exact absurd hactive hquiet
  | goesOn hstate haddress hbuffer =>
    have hactive' : d.Active := by
      unfold Driver.Active
      rw [← hstate]
      exact hactive
    obtain ⟨w, hw, hle, hsends⟩ := h.air hactive'
    exact ⟨w, List.mem_append_left _ hw, hle.trans hgone, haddress.trans hsends.1,
      hbuffer.trans hsends.2⟩
  | starts w hstarts =>
    have hhead := hstarts.head
    rw [hqueue, List.head?_drop] at hhead
    obtain ⟨hlt, heq⟩ := List.getElem?_eq_some_iff.1 hhead
    refine ⟨w, heq ▸ List.getElem_mem hlt, ?_, hstarts.sends⟩
    rw [← heq, hserial]

/-- A payload that is accepted gets the next number. -/
theorem Sender.serial_append (h : Sender cfg d written) (op : DriverOp) (out : DriverOut) :
    ∀ i (hi : i < (written ++ DriverOp.accepted d op out).length),
      ((written ++ DriverOp.accepted d op out)[i]).serial = i := by
  intro i hi
  rcases accepted_cases d op out with hnil | ⟨p, -, hone⟩
  · simp only [hnil, List.append_nil] at hi ⊢
    exact h.serial i hi
  · simp only [hone, List.length_append, List.length_singleton] at hi ⊢
    rcases Nat.lt_or_ge i written.length with hlt | hge
    · rw [List.getElem_append_left hlt]
      exact h.serial i hlt
    · obtain rfl : i = written.length := by omega
      rw [List.getElem_concat_length rfl]
      exact h.written_eq

/-- **A call of the keyboard's.** -/
theorem Sender.of_call (h : Sender cfg d written) {op : DriverOp} {out : DriverOut}
    (hsound : d'.PtxSound cfg) (hcalled : Driver.Called cfg d op d' out) :
    Sender cfg d' (written ++ DriverOp.accepted d op out) := by
  have hadd := h.gone_add
  have hwritten : d'.written = (written ++ DriverOp.accepted d op out).length := by
    rw [hcalled.written, h.written_eq, List.length_append]
  rcases hcalled.queue with ⟨hempty, hnil⟩ | hqueue
  · have hcount : d'.txFifo.count = 0 := WrapFifo.contents_eq_nil_iff.1 hempty
    have hall : gone d' (written ++ DriverOp.accepted d op out) =
        (written ++ DriverOp.accepted d op out).length := by
      rw [gone, hcount, Nat.sub_zero]
    refine h.of_airStep hsound (h.serial_append op out) hwritten (by omega) ?_ ?_ hcalled.air
    · rw [hall, List.length_append]
      omega
    · rw [hall, List.drop_length]
      exact hempty
  · have hcount : d'.txFifo.count = d.txFifo.count + (DriverOp.accepted d op out).length := by
      rw [← length_txQueue cfg, hqueue, List.length_append, length_txQueue]
    have hsame : gone d' (written ++ DriverOp.accepted d op out) = gone d written := by
      rw [gone, gone, List.length_append, hcount]
      omega
    refine h.of_airStep hsound (h.serial_append op out) hwritten ?_ hsame.ge ?_ hcalled.air
    · rw [List.length_append, hcount]
      omega
    · rw [hsame, hqueue, h.queue, List.drop_append_of_le_length (by omega)]

/-- The head has left. -/
theorem Sender.of_left (h : Sender cfg d written) (hsound : d'.PtxSound cfg)
    (hleft : Driver.Left cfg d d') : Sender cfg d' written := by
  have hadd := h.gone_add
  have hcount : d'.txFifo.count = d.txFifo.count - 1 := by
    rw [← length_txQueue cfg, hleft.queue, List.length_tail, length_txQueue]
  have hair : d.AirStep cfg d' := by
    rcases hleft.air with hquiet | ⟨w, hstarts⟩
    · exact .quiet hquiet
    · exact .starts w hstarts
  have hlist : written ++ [] = written := List.append_nil _
  rw [← hlist]
  refine h.of_airStep hsound ?_ ?_ ?_ ?_ ?_ hair
  · rw [hlist]
    exact h.serial
  · rw [hlist, hleft.frame.2.1]
    exact h.written_eq
  · rw [hlist]
    omega
  · rw [hlist, gone, gone]
    omega
  · rw [hlist, hleft.queue, h.queue, List.tail_drop]
    by_cases hzero : d.txFifo.count = 0
    · rw [List.drop_of_length_le, List.drop_of_length_le]
      · rw [gone]
        omega
      · omega
    · congr 1
      rw [gone, gone]
      omega

/-- The packet stays on the air, or the radio halts. -/
theorem Sender.of_kept (h : Sender cfg d written) (hsound : d'.PtxSound cfg)
    (hfifo : d'.txFifo = d.txFifo) (hw : d'.written = d.written)
    (haddress : d'.txAddress = d.txAddress) (hbuffer : d'.txPayloadBuffer = d.txPayloadBuffer)
    (hactive : d'.Active → d.Active) : Sender cfg d' written := by
  have hgone : gone d' written = gone d written := by rw [gone, gone, hfifo]
  refine ⟨hsound, h.serial, hw.trans h.written_eq, hfifo ▸ h.count_le, ?_, fun hactive' => ?_⟩
  · rw [hgone, Driver.txQueue, hfifo]
    exact h.queue
  · obtain ⟨w, hmem, hle, hsends⟩ := h.air (hactive hactive')
    exact ⟨w, hmem, hgone ▸ hle, haddress.trans hsends.1, hbuffer.trans hsends.2⟩

/-! ## The order is kept -/

/-- What a call can put at the head of the FIFO. -/
theorem InOrder.head_of_call (hs : Sender cfg d written)
    (h : InOrder cfg crc d dongle written delivered mark) {op : DriverOp} {out : DriverOut}
    (hcalled : Driver.Called cfg d op d' out) (hw : (d'.txQueue cfg).head? = some w) :
    Ahead crc dongle mark w := by
  rcases hcalled.queue with ⟨hempty, -⟩ | hqueue
  · rw [hempty] at hw
    exact absurd hw (by simp)
  · rw [hqueue] at hw
    cases hold : d.txQueue cfg with
    | cons u us =>
      refine h.head w ?_
      rw [hold] at hw ⊢
      exact hw
    | nil =>
      -- it is the payload just accepted, and nothing delivered is as new
      rw [hold, List.nil_append] at hw
      rcases accepted_cases d op out with hnil | ⟨p, -, hone⟩
      · rw [hnil] at hw
        exact absurd hw (by simp)
      · rw [hone] at hw
        obtain rfl : d.stored p = w := Option.some.inj hw
        have hserial : (d.stored p).serial = written.length := hs.written_eq
        have hmark := h.mark_le
        exact ⟨by omega, fun heq => absurd heq (by omega)⟩

theorem InOrder.of_call (hs : Sender cfg d written)
    (h : InOrder cfg crc d dongle written delivered mark) {op : DriverOp} {out : DriverOut}
    (hcalled : Driver.Called cfg d op d' out) :
    InOrder cfg crc d' dongle (written ++ DriverOp.accepted d op out) delivered mark := by
  refine ⟨?_, ?_, fun hactive w hsends => ?_, fun w hw => h.head_of_call hs hcalled hw⟩
  · rw [List.take_append_of_le_length h.mark_le]
    exact h.delivered
  · rw [List.length_append]
    exact h.mark_le.trans (Nat.le_add_right _ _)
  · cases hcalled.air with
    | quiet hquiet => exact absurd hactive hquiet
    | goesOn hstate haddress hbuffer =>
      have hactive' : d.Active := by
        unfold Driver.Active
        rw [← hstate]
        exact hactive
      exact h.air hactive' w ⟨haddress.symm.trans hsends.1, hbuffer.symm.trans hsends.2⟩
    | starts u hstarts =>
      obtain rfl := eq_of_sends hsends hstarts.sends
      exact h.head_of_call hs hcalled hstarts.head

theorem InOrder.of_left (hs : Sender cfg d written)
    (h : InOrder cfg crc d dongle written delivered mark) (hs' : Sender cfg d' written)
    (hleft : Driver.Left cfg d d') : InOrder cfg crc d' dongle written delivered mark := by
  have hnext : ∀ w, (d'.txQueue cfg).head? = some w → Ahead crc dongle mark w := by
    intro w hw
    have hserial := (hs'.head hw).2
    rw [hleft.queue] at hw
    cases hold : d.txQueue cfg with
    | nil =>
      rw [hold] at hw
      exact absurd hw (by simp)
    | cons u us =>
      have hu := h.head u (by rw [hold]; rfl)
      have huserial := (hs.head (by rw [hold]; rfl : (d.txQueue cfg).head? = some u)).2
      have hcount : d'.txFifo.count + 1 = d.txFifo.count := by
        rw [← length_txQueue cfg, ← length_txQueue cfg, hleft.queue, hold]
        rfl
      have hadd := hs.gone_add
      have hadd' := hs'.gone_add
      have hle := hu.1
      exact ⟨by omega, fun heq => absurd heq (by omega)⟩
  refine ⟨h.delivered, h.mark_le, fun hactive w hsends => ?_, hnext⟩
  rcases hleft.air with hquiet | ⟨u, hstarts⟩
  · exact absurd hactive hquiet
  · obtain rfl := eq_of_sends hsends hstarts.sends
    exact hnext _ hstarts.head

theorem InOrder.of_kept (h : InOrder cfg crc d dongle written delivered mark)
    (hfifo : d'.txFifo = d.txFifo) (haddress : d'.txAddress = d.txAddress)
    (hbuffer : d'.txPayloadBuffer = d.txPayloadBuffer) (hactive : d'.Active → d.Active) :
    InOrder cfg crc d' dongle written delivered mark := by
  refine ⟨h.delivered, h.mark_le, fun hactive' w hsends => ?_, fun w hw => h.head w ?_⟩
  · exact h.air (hactive hactive') w
      ⟨haddress.symm.trans hsends.1, hbuffer.symm.trans hsends.2⟩
  · rw [Driver.txQueue, hfifo] at hw
    exact hw

/-- What the receiver has noted of its pipes decides. -/
theorem InOrder.of_noted {dongle' : Driver}
    (h : InOrder cfg crc d dongle written delivered mark)
    (hpipes : ∀ pipe, (dongle'.rxPipeInfo pipe).pid = (dongle.rxPipeInfo pipe).pid ∧
      (dongle'.rxPipeInfo pipe).crc = (dongle.rxPipeInfo pipe).crc) :
    InOrder cfg crc d dongle' written delivered mark := by
  have hahead : ∀ w, Ahead crc dongle mark w → Ahead crc dongle' mark w := by
    rintro w ⟨hle, hnoted⟩
    refine ⟨hle, fun heq => ?_⟩
    obtain ⟨hpid, hcrc⟩ := hnoted heq
    exact ⟨(hpipes _).1.trans hpid, (hpipes _).2.trans hcrc⟩
  exact ⟨h.delivered, h.mark_le, fun hactive w hsends => hahead w (h.air hactive w hsends),
    fun w hw => hahead w (h.head w hw)⟩

/-- A packet repeats the last of its pipe exactly where it has been noted. -/
theorem repeats_iff_noted : dongle.repeats crc w.pipe w.pdu = true ↔ Noted crc dongle w := by
  unfold Driver.repeats Noted
  rw [Bool.and_eq_true, beq_iff_eq, beq_iff_eq]
  exact ⟨fun h => ⟨h.2.symm, h.1.symm⟩, fun h => ⟨h.2.symm, h.1.symm⟩⟩

theorem Heard.noted {dongle' : Driver} (h : Driver.Heard cfg' crc w.pipe w.pdu dongle dongle') :
    Noted crc dongle' w := by
  unfold Noted
  rw [h.rxPipeInfo, Function.update_self]
  exact ⟨rfl, rfl⟩

/-- A packet comes back as the payload it was. -/
theorem received_pdu (w : Slot) : Driver.received w.pipe w.pdu = w := by
  obtain ⟨⟨⟨pipe, noack, data⟩, serial⟩, pid⟩ := w
  simp [Driver.received, Slot.pdu]

/-- **The packet on the air is heard**: it goes behind what has been
delivered, unless it has been delivered before. -/
theorem InOrder.of_heard {dongle' : Driver} (hs : Sender cfg d written)
    (h : InOrder cfg crc d dongle written delivered mark) (hactive : d.Active)
    (hw : w ∈ written) (hle : w.serial ≤ gone d written) (hsends : d.Sends w)
    (hheard : Driver.Heard cfg' crc w.pipe w.pdu dongle dongle') :
    ∃ mark', InOrder cfg crc d dongle' written
      (delivered ++ if dongle.takes cfg' crc w.pipe w.pdu then [w] else []) mark' := by
  have hahead := h.air hactive w hsends
  have hnoted : Noted crc dongle' w := Heard.noted hheard
  -- what could still be sent is this packet or a later one
  have hlater : ∀ mark', mark' ≤ w.serial + 1 → ∀ u,
      (d.txQueue cfg).head? = some u → Ahead crc dongle' mark' u := by
    intro mark' hmark' u hu
    obtain ⟨humem, huserial⟩ := hs.head hu
    refine ⟨by omega, fun heq => ?_⟩
    obtain rfl : u = w := hs.eq_of_serial humem hw (by omega)
    exact hnoted
  have hself : ∀ mark', mark' ≤ w.serial + 1 → ∀ u, d.Sends u → Ahead crc dongle' mark' u := by
    intro mark' hmark' u hu
    obtain rfl := eq_of_sends hu hsends
    exact ⟨hmark', fun _ => hnoted⟩
  by_cases htakes : dongle.takes cfg' crc w.pipe w.pdu = true
  · -- not noted before, so not delivered before
    have hnew : mark ≤ w.serial := by
      unfold Driver.takes at htakes
      rw [Bool.and_eq_true, Bool.not_eq_true'] at htakes
      have hne : mark ≠ w.serial + 1 := fun heq =>
        Bool.noConfusion (htakes.1.symm.trans (repeats_iff_noted.2 (hahead.2 heq)))
      have := hahead.1
      omega
    obtain ⟨i, hi, hiw⟩ := List.mem_iff_getElem.1 hw
    have hiserial : w.serial = i := hiw ▸ hs.serial i hi
    refine ⟨w.serial + 1, ?_, by omega, fun _ => hself _ (Nat.le_refl _), hlater _ (Nat.le_refl _)⟩
    rw [if_pos htakes, hiserial, List.take_add_one, List.getElem?_eq_getElem hi, hiw]
    exact (h.delivered.trans (List.take_sublist_take_left (hiserial ▸ hnew))).append
      (List.Sublist.refl _)
  · refine ⟨mark, ?_, h.mark_le, fun _ => hself _ hahead.1, hlater _ hahead.1⟩
    rw [if_neg htakes, List.append_nil]
    exact h.delivered

/-! ## Runs of the link -/

/-- **The invariant of the link.** -/
structure Carried (cfg cfg' : Config) (crc : Nat → Nat → Bool → List UInt8 → UInt16)
    (l : RadioLink) : Prop where
  sender : Sender cfg l.keyboard l.written
  dongle : l.dongle.PrxSound cfg'
  order : ∃ mark, InOrder cfg crc l.keyboard l.dongle l.written (l.delivered cfg') mark

/-- A packet that comes to a receiver with no ACK on the way is heard, or
is nothing to it. -/
theorem hears (h : dongle.PrxSound cfg') (hstate : dongle.state ≠ .prxSendAck) (pipe : Nat)
    (pdu : Pdu) :
    dongle.onRadioDisabled cfg' crc (some (pipe, pdu)) = dongle ∨
      dongle.state = .prx ∧ dongle.rxFifo.count < cfg'.esbRxFifoSize ∧
        Driver.Heard cfg' crc pipe pdu dongle
          (dongle.onRadioDisabled cfg' crc (some (pipe, pdu))) := by
  unfold Driver.onRadioDisabled
  rcases h.state with hidle | hprx | hsend
  · rw [hidle]
    exact Or.inl rfl
  · rw [hprx]
    by_cases hroom : dongle.rxFifo.count < cfg'.esbRxFifoSize
    · exact Or.inr ⟨rfl, hroom, h.heard hroom pipe pdu⟩
    · exact Or.inl (if_pos (Nat.le_of_not_lt hroom))
  · exact absurd hsend hstate

variable {l : RadioLink}

theorem Carried.keyboard_step (h : Carried cfg cfg' crc l) {op : DriverOp}
    (hop : op.Transmits cfg) (hcall : ∀ received, op ≠ .radio received) :
    Carried cfg cfg' crc (radioLinkStep cfg cfg' crc l (.keyboard op)) := by
  have hcalled := @Driver.called_driverStep cfg l.keyboard crc h.sender.sound op hop hcall
  have hsound := (@Driver.refines_driverStep cfg crc l.keyboard h.sender.sound op hop).sound
  obtain ⟨mark, horder⟩ := h.order
  exact ⟨h.sender.of_call hsound hcalled, h.dongle, mark, horder.of_call h.sender hcalled⟩

/-- A call of the receiver delivers nothing and loses nothing. -/
theorem delivered_dongle {op : DriverOp} (h : l.dongle.PrxSound cfg') (hop : op.Serves) :
    (radioLinkStep cfg cfg' crc l (.dongle op)).delivered cfg' = l.delivered cfg' := by
  have hserved := @Driver.PrxSound.served cfg' crc l.dongle h op hop
  show l.read ++ _ ++ _ = l.read ++ _
  rw [hserved.rx, List.append_assoc]
  rfl

theorem Carried.dongle_step (h : Carried cfg cfg' crc l) {op : DriverOp} (hop : op.Serves) :
    Carried cfg cfg' crc (radioLinkStep cfg cfg' crc l (.dongle op)) := by
  have hserved := @Driver.PrxSound.served cfg' crc l.dongle h.dongle op hop
  have hsound := (@Driver.PrxSound.driverStep cfg' crc l.dongle h.dongle op
    (Driver.listens_of_serves hop)).1
  obtain ⟨mark, horder⟩ := h.order
  have hdelivered := @delivered_dongle cfg cfg' crc l op h.dongle hop
  refine ⟨h.sender, hsound, mark, ?_⟩
  rw [hdelivered]
  refine horder.of_noted fun pipe => ?_
  have hinfo : (radioLinkStep cfg cfg' crc l (.dongle op)).dongle.rxPipeInfo =
      l.dongle.rxPipeInfo :=
    hserved.rxPipeInfo
  rw [hinfo]
  exact ⟨rfl, rfl⟩

/-- The receiver's half of an attempt. -/
theorem Carried.hear (h : Carried cfg cfg' crc l) (hactive : l.keyboard.Active) (heard : Bool) :
    let dongle := l.dongle.onRadioDisabled cfg' crc none
    Carried cfg cfg' crc { l with
      dongle :=
        if heard then
          dongle.onRadioDisabled cfg' crc (some (l.keyboard.txAddress, l.keyboard.txPayloadBuffer))
        else dongle } := by
  intro dongle
  obtain ⟨hsound, hstate, state, heq⟩ := @Driver.PrxSound.settled cfg' crc l.dongle h.dongle
  have hne : dongle.state ≠ .prxSendAck := by
    rw [hstate]
    split <;> simp
  obtain ⟨mark, horder⟩ := h.order
  have hsettled : Carried cfg cfg' crc { l with dongle := dongle } := by
    refine ⟨h.sender, hsound, mark, ?_⟩
    have hdelivered : delivered cfg' { l with dongle := dongle } = l.delivered cfg' := by
      show l.read ++ dongle.rxFifo.contents _ = _
      rw [show dongle = { l.dongle with state := state } from heq]
      rfl
    rw [hdelivered]
    refine horder.of_noted fun pipe => ?_
    show (dongle.rxPipeInfo pipe).pid = _ ∧ (dongle.rxPipeInfo pipe).crc = _
    rw [show dongle = { l.dongle with state := state } from heq]
    exact ⟨rfl, rfl⟩
  cases heard with
  | false => exact hsettled
  | true =>
    rw [if_pos rfl]
    rcases @hears cfg' crc dongle hsound hne l.keyboard.txAddress l.keyboard.txPayloadBuffer with
      hsame | ⟨-, -, hheard⟩
    · rw [hsame]
      exact hsettled
    · obtain ⟨w, hw, hle, hsends⟩ := h.sender.air hactive
      obtain ⟨mark, horder⟩ := hsettled.order
      rw [hsends.1, hsends.2] at hheard ⊢
      obtain ⟨mark', horder'⟩ := horder.of_heard h.sender hactive hw hle hsends hheard
      refine ⟨h.sender, hheard.sound, mark', ?_⟩
      have hdelivered : delivered cfg' { l with
          dongle := dongle.onRadioDisabled cfg' crc (some (w.pipe, w.pdu)) } =
            delivered cfg' { l with dongle := dongle } ++
              if dongle.takes cfg' crc w.pipe w.pdu then [w] else [] := by
        show l.read ++ _ = l.read ++ _ ++ _
        rw [hheard.rxFifo, List.append_assoc, received_pdu]
      rw [hdelivered]
      exact horder'

/-- The transmitter's half of an attempt, or of its end. -/
theorem Carried.of_left (h : Carried cfg cfg' crc l) (hsound : d'.PtxSound cfg)
    (hleft : Driver.Left cfg l.keyboard d') :
    Carried cfg cfg' crc { l with keyboard := d' } := by
  obtain ⟨mark, horder⟩ := h.order
  have hsender := h.sender.of_left hsound hleft
  exact ⟨hsender, h.dongle, mark, horder.of_left h.sender hsender hleft⟩

theorem Carried.of_kept (h : Carried cfg cfg' crc l) (hsound : d'.PtxSound cfg)
    (hfifo : d'.txFifo = l.keyboard.txFifo) (hwritten : d'.written = l.keyboard.written)
    (haddress : d'.txAddress = l.keyboard.txAddress)
    (hbuffer : d'.txPayloadBuffer = l.keyboard.txPayloadBuffer)
    (hactive : d'.Active → l.keyboard.Active) :
    Carried cfg cfg' crc { l with keyboard := d' } := by
  obtain ⟨mark, horder⟩ := h.order
  exact ⟨h.sender.of_kept hsound hfifo hwritten haddress hbuffer hactive, h.dongle, mark,
    horder.of_kept hfifo haddress hbuffer hactive⟩

theorem Carried.attempt_step (h : Carried cfg cfg' crc l) (heard : Bool) :
    Carried cfg cfg' crc (radioLinkStep cfg cfg' crc l (.attempt heard)) := by
  unfold radioLinkStep
  cases hstate : l.keyboard.state with
  | ptxTx =>
    have hsound := h.sender.sound.onRadioDisabledTxNoack
    obtain ⟨-, hleft⟩ := Driver.left_onRadioDisabledTxNoack h.sender.sound
    have hdef : l.keyboard.onRadioDisabled cfg crc none =
        l.keyboard.onRadioDisabledTxNoack cfg := by
      unfold Driver.onRadioDisabled
      rw [hstate]
    dsimp only
    rw [hdef]
    exact (h.hear (Or.inl hstate) heard).of_left hsound hleft
  | ptxTxAck =>
    have hdef : l.keyboard.onRadioDisabled cfg crc none = l.keyboard.onRadioDisabledTx := by
      unfold Driver.onRadioDisabled
      rw [hstate]
    have hsound : l.keyboard.onRadioDisabledTx.PtxSound cfg :=
      ⟨h.sender.sound.mode, by simp [Driver.onRadioDisabledTx], h.sender.sound.txFifo,
        h.sender.sound.rxFifo, fun _ => h.sender.sound.remaining_le (Or.inl hstate)⟩
    dsimp only
    rw [hdef]
    exact (h.hear (Or.inr (Or.inl hstate)) heard).of_kept hsound rfl rfl rfl rfl
      fun _ => Or.inr (Or.inl hstate)
  | _ => exact h

theorem Carried.window_step (h : Carried cfg cfg' crc l) (arrives : Bool) :
    Carried cfg cfg' crc (radioLinkStep cfg cfg' crc l (.window arrives)) := by
  unfold radioLinkStep
  cases hstate : l.keyboard.state with
  | ptxRxAck =>
    have hactive : l.keyboard.Active := Or.inr (Or.inr hstate)
    have hdongle := h.hear hactive false
    have hdef : ∀ received, l.keyboard.onRadioDisabled cfg crc received =
        l.keyboard.onRadioDisabledTxWaitForAck cfg (received.map Prod.snd) := by
      intro received
      unfold Driver.onRadioDisabled
      rw [hstate]
    dsimp only
    rw [hdef]
    split
    · exact hdongle.of_left (h.sender.sound.onRadioDisabledTxWaitForAck hstate _)
        (Driver.left_acked h.sender.sound _).2
    · obtain ⟨-, state, flags, remaining, attempts, heq⟩ := @Driver.lost_spec cfg l.keyboard
      have hsound := h.sender.sound.onRadioDisabledTxWaitForAck hstate none
      rw [Option.map_none]
      rw [heq] at hsound ⊢
      exact hdongle.of_kept hsound rfl rfl rfl rfl fun _ => hactive
  | _ => exact h

theorem Carried.step (h : Carried cfg cfg' crc l) {op : RadioLinkOp} (hop : op.Calls cfg) :
    Carried cfg cfg' crc (radioLinkStep cfg cfg' crc l op) := by
  cases op with
  | keyboard op => exact h.keyboard_step hop.1 hop.2
  | dongle op => exact h.dongle_step hop
  | attempt heard => exact h.attempt_step heard
  | window arrives => exact h.window_step arrives

theorem Carried.run (h : Carried cfg cfg' crc l) {ops : List RadioLinkOp}
    (hops : ∀ op ∈ ops, op.Calls cfg) :
    Carried cfg cfg' crc (runFrom (radioLinkStep cfg cfg' crc) l ops) := by
  induction ops generalizing l with
  | nil => exact h
  | cons op ops ih =>
    exact ih (h.step (hops op List.mem_cons_self))
      fun op' hop' => hops op' (List.mem_cons_of_mem op hop')

theorem carried_up (cfg cfg' : Config) (crc : Nat → Nat → Bool → List UInt8 → UInt16)
    {kcfg dcfg : EsbConfig} (hkeyboard : DriverOp.Transmits cfg (.init kcfg))
    (hdongle : dcfg.mode = .prx) : Carried cfg cfg' crc (RadioLink.up kcfg dcfg) := by
  have hsound := (Driver.radio_esbInit (Driver.ptxSound_boot cfg) hkeyboard.1 hkeyboard.2.1
    hkeyboard.2.2.1 hkeyboard.2.2.2).2
  have hprx : (Driver.boot.esbInit dcfg).PrxSound cfg' :=
    Driver.PrxSound.esbInit cfg'.rxFifo_pos hdongle
  refine ⟨⟨hsound, fun i hi => absurd hi (Nat.not_lt_zero i), rfl, Nat.le_refl _, rfl,
    fun hactive => ?_⟩, ⟨hprx.initialized, hprx.mode, Or.inr (Or.inl rfl), hprx.rxFifo,
      hprx.pool⟩, 0, ⟨List.Sublist.refl _, Nat.le_refl _, fun hactive => ?_, fun w hw => ?_⟩⟩
  · exact absurd hactive (by simp [Driver.Active, RadioLink.up, Driver.esbInit])
  · exact absurd hactive (by simp [Driver.Active, RadioLink.up, Driver.esbInit])
  · exact absurd hw (by simp [Driver.txQueue, RadioLink.up, Driver.esbInit, WrapFifo.contents,
      WrapFifo.clear])

/-- **Nothing is made up, doubled or reordered.** Whatever is lost on the
air, and however the keyboard empties its FIFO and restarts its radio, what
the dongle has read, with what it still holds, is some of what the keyboard
has written, in the order it was written. -/
theorem delivered_sublist {kcfg dcfg : EsbConfig}
    (hkeyboard : DriverOp.Transmits cfg (.init kcfg)) (hdongle : dcfg.mode = .prx)
    {ops : List RadioLinkOp} (hops : ∀ op ∈ ops, op.Calls cfg) :
    let l := runFrom (radioLinkStep cfg cfg' crc) (RadioLink.up kcfg dcfg) ops
    (l.delivered cfg').Sublist l.written := by
  intro l
  obtain ⟨mark, horder⟩ := ((carried_up cfg cfg' crc hkeyboard hdongle).run hops).order
  exact horder.delivered.trans (List.take_sublist _ _)

/-- An ACK is lost, so the packet comes twice; the next one is flushed on
its way, and still comes. -/
def lostAck : List RadioLinkOp :=
  [.keyboard (.write ⟨1, false, [7]⟩), .attempt true, .window false, .attempt true, .window true,
    .dongle .read, .keyboard (.write ⟨1, false, [8]⟩), .keyboard .flushTx, .attempt true,
    .window true, .dongle .read]

theorem delivered_sublist_lostAck :
    let l := runFrom (radioLinkStep Config.default Config.default fun _ pid _ _ => pid.toUInt16)
      (RadioLink.up ⟨.ptx, false, 5, 570⟩ ⟨.prx, true, 5, 570⟩) lostAck
    (l.delivered Config.default).Sublist l.written :=
  delivered_sublist ⟨rfl, rfl, rfl, rfl⟩ rfl
    (by simp [lostAck, RadioLinkOp.Calls, DriverOp.Transmits, DriverOp.Serves])

end RadioLink

end EsbEndpoint
