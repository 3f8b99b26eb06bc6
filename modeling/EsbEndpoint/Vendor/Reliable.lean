import EsbEndpoint.Vendor.Air

/-!
# The link, without interference

Two applications that only write and read, with every packet asking for an
ACK. A packet id is the number of payloads of its pipe modulo four, so the
one that follows the last one heard is never taken for a repetition of it
(`Paced.not_noted`), and the receiver is at most one payload ahead of the
transmitter's FIFO. In the other direction an ACK payload goes when the
next packet shows that it has been got.
-/

namespace EsbEndpoint

/-- **Steady calls**: the keyboard writes packets that ask for an ACK, reads
and sets, the dongle writes and reads, and neither restarts or flushes. -/
def RadioLinkOp.Steady (cfg : Config) : RadioLinkOp → Prop
  | .keyboard op => op.Transmits cfg ∧ op.Keeps ∧ ∀ p, op = .write p → p.noack = false
  | .dongle op => op.Serves ∧ op ≠ .flushTx
  | _ => True

namespace RadioLink

variable {cfg cfg' : Config} {crc : Nat → Nat → Bool → List UInt8 → UInt16} {d d' dongle : Driver}
  {written acc : List Slot} {got : Nat} {w : Slot}

/-- How many payloads were written to a pipe. -/
def sentOn (written : List Slot) (pipe : Nat) : Nat := written.countP fun w => w.pipe == pipe

/-- **A packet id is the number of its payload on its pipe.** -/
structure Numbered (cfg : Config) (d : Driver) (written : List Slot) : Prop where
  asks : ∀ w ∈ written, w.noack = false
  fits : ∀ w ∈ written, w.data.length ≤ cfg.esbMaxPayloadLength
  pid : ∀ i (hi : i < written.length),
    (written[i]).pid = sentOn (written.take (i + 1)) (written[i]).pipe % (pidMax + 1)
  pids : ∀ pipe, d.pids pipe = sentOn written pipe % (pidMax + 1)

/-- **The receiver and the transmitter's FIFO**: what has gone has been
delivered, and at most the head besides. -/
structure Paced (cfg : Config) (crc : Nat → Nat → Bool → List UInt8 → UInt16) (d dongle : Driver)
    (written : List Slot) (got : Nat) : Prop where
  state : d.state ≠ .ptxTx
  air : d.Active → ∃ w, (d.txQueue cfg).head? = some w ∧ d.Sends w
  gone_le : gone d written ≤ got
  le_gone : got ≤ gone d written + 1
  le_length : got ≤ written.length
  noted : got = gone d written + 1 → ∀ w, (d.txQueue cfg).head? = some w → Noted crc dongle w
  last : ∀ pipe, (dongle.rxPipeInfo pipe).pid = sentOn (written.take got) pipe % (pidMax + 1)
  answered : d.state = .ptxRxAck → dongle.state = .prxSendAck → got = gone d written + 1

theorem sentOn_append (ws ws' : List Slot) (pipe : Nat) :
    sentOn (ws ++ ws') pipe = sentOn ws pipe + sentOn ws' pipe := List.countP_append

theorem sentOn_singleton (w : Slot) (pipe : Nat) :
    sentOn [w] pipe = if w.pipe = pipe then 1 else 0 := by
  rw [sentOn, List.countP_singleton]
  simp only [beq_iff_eq]

/-- A payload that is written gets the next id of its pipe. -/
theorem Numbered.of_call (h : Numbered cfg d written) {op : DriverOp} {out : DriverOut}
    (hcalled : Driver.Called cfg d op d' out) (hkeeps : op.Keeps)
    (hout : ∀ p, op = .write p → out = .result none → d.writeError cfg p = none)
    (hasks : ∀ p, op = .write p → p.noack = false) :
    Numbered cfg d' (written ++ DriverOp.accepted d op out) := by
  have hpids := (hcalled.keeps hkeeps).2.1
  rcases accepted_cases d op out with hnil | ⟨p, hwrite, hone⟩
  · rw [hnil] at hpids ⊢
    rw [List.append_nil]
    exact ⟨h.asks, h.fits, h.pid, fun pipe => by rw [hpids]; exact h.pids pipe⟩
  · have haccepted : out = .result none := by
      unfold DriverOp.accepted at hone
      split at hone
      · rfl
      · exact absurd hone (by simp)
    obtain ⟨⟨-, hfits⟩, -, -⟩ := Driver.writeError_eq_none (hout p hwrite haccepted)
    have hnext : (d.stored p).pid = (sentOn written p.pipe + 1) % (pidMax + 1) := by
      show (d.pids p.pipe + 1) % (pidMax + 1) = _
      rw [h.pids, Nat.mod_add_mod]
    rw [hone] at hpids ⊢
    refine ⟨fun w hw => ?_, fun w hw => ?_, fun i hi => ?_, fun pipe => ?_⟩
    · rcases List.mem_append.1 hw with hold | hnew
      · exact h.asks w hold
      · obtain rfl := List.mem_singleton.1 hnew
        exact hasks p hwrite
    · rcases List.mem_append.1 hw with hold | hnew
      · exact h.fits w hold
      · obtain rfl := List.mem_singleton.1 hnew
        exact hfits
    · rw [List.length_append, List.length_singleton] at hi
      rcases Nat.lt_or_ge i written.length with hlt | hge
      · rw [List.getElem_append_left hlt, List.take_append_of_le_length hlt]
        exact h.pid i hlt
      · obtain rfl : i = written.length := by omega
        have hall : (written ++ [d.stored p]).take (written.length + 1) =
            written ++ [d.stored p] := List.take_of_length_le (by simp)
        rw [List.getElem_concat_length rfl, hall, sentOn_append, sentOn_singleton, if_pos rfl]
        exact hnext
    · rw [hpids, sentOn_append, sentOn_singleton]
      show Function.update d.pids p.pipe (d.stored p).pid pipe = _
      have hpipe : (d.stored p).pipe = p.pipe := rfl
      rw [hpipe]
      split
      · rename_i heq
        rw [← heq, Function.update_self]
        exact hnext
      · rename_i hne
        rw [Function.update_of_ne (Ne.symm hne), Nat.add_zero]
        exact h.pids pipe

/-- **The next payload is not taken for a repetition.** -/
theorem Paced.not_noted (hs : Sender cfg d written) (hn : Numbered cfg d written)
    (h : Paced cfg crc d dongle written got) (heq : got = gone d written)
    (hw : (d.txQueue cfg).head? = some w) : ¬ Noted crc dongle w := by
  rintro ⟨hpid, -⟩
  obtain ⟨hmem, hserial⟩ := hs.head hw
  obtain ⟨i, hi, rfl⟩ := List.mem_iff_getElem.1 hmem
  rw [hs.serial i hi] at hserial
  have hown := hn.pid i hi
  rw [List.take_add_one, List.getElem?_eq_getElem hi, Option.toList_some, sentOn_append,
    sentOn_singleton, if_pos rfl] at hown
  have hlast := h.last (written[i]).pipe
  rw [hpid, heq, ← hserial, hown] at hlast
  have hmax : pidMax + 1 = 4 := rfl
  rw [hmax] at hlast
  omega

/-! ## The pace is kept -/

theorem gone_of_append (hs : Sender cfg d written) {acc : List Slot}
    (hqueue : d'.txQueue cfg = d.txQueue cfg ++ acc) :
    gone d' (written ++ acc) = gone d written := by
  have hcount : d'.txFifo.count = d.txFifo.count + acc.length := by
    rw [← length_txQueue cfg, hqueue, List.length_append, length_txQueue]
  have hadd := hs.gone_add
  rw [gone, gone, List.length_append, hcount]
  omega

/-- Where the receiver is ahead, the FIFO has a head. -/
theorem Paced.head_of_ahead (hs : Sender cfg d written)
    (h : Paced cfg crc d dongle written got) (heq : got = gone d written + 1) :
    ∃ w, (d.txQueue cfg).head? = some w := by
  have hadd := hs.gone_add
  have hle := h.le_length
  cases hold : d.txQueue cfg with
  | nil =>
    have hzero : d.txFifo.count = 0 := by rw [← length_txQueue cfg, hold]; rfl
    omega
  | cons w ws => exact ⟨w, rfl⟩

/-- A started packet is one that is answered. -/
theorem state_of_starts (hasks : w.noack = false) (h : d.Starts cfg w) : d.state = .ptxTxAck := by
  rw [h.state, hasks]
  rfl

theorem Paced.of_call (hs : Sender cfg d written) (hs' : Sender cfg d' (written ++ acc))
    (hn' : Numbered cfg d' (written ++ acc)) (h : Paced cfg crc d dongle written got)
    (hqueue : d'.txQueue cfg = d.txQueue cfg ++ acc) (hair : d.AirStep cfg d') :
    Paced cfg crc d' dongle (written ++ acc) got := by
  have hgone := gone_of_append hs hqueue
  have hold : ∀ w, (d.txQueue cfg).head? = some w → (d'.txQueue cfg).head? = some w := by
    intro w hw
    rw [hqueue, List.head?_append, hw]
    rfl
  have hstate : d'.state = d.state ∨ ¬ d'.Active ∨
      ∃ w, d'.Starts cfg w ∧ d'.state = .ptxTxAck := by
    cases hair with
    | quiet hquiet => exact Or.inr (Or.inl hquiet)
    | goesOn hstate haddress hbuffer => exact Or.inl hstate
    | starts w hstarts =>
      exact Or.inr (Or.inr ⟨w, hstarts,
        state_of_starts (hn'.asks w (hs'.head hstarts.head).1) hstarts⟩)
  refine ⟨?_, fun hactive => ?_, hgone ▸ h.gone_le, hgone ▸ h.le_gone, ?_, fun heq w hw => ?_, ?_,
    fun hwait hsend => ?_⟩
  · rcases hstate with hsame | hquiet | ⟨w, -, hack⟩
    · rw [hsame]
      exact h.state
    · exact fun htx => hquiet (Or.inl htx)
    · rw [hack]
      simp
  · cases hair with
    | quiet hquiet => exact absurd hactive hquiet
    | goesOn hsame haddress hbuffer =>
      have hactive' : d.Active := by
        unfold Driver.Active
        rw [← hsame]
        exact hactive
      obtain ⟨w, hw, hsends⟩ := h.air hactive'
      exact ⟨w, hold w hw, haddress.trans hsends.1, hbuffer.trans hsends.2⟩
    | starts w hstarts => exact ⟨w, hstarts.head, hstarts.sends⟩
  · rw [List.length_append]
    exact h.le_length.trans (Nat.le_add_right _ _)
  · rw [hgone] at heq
    obtain ⟨u, hu⟩ := h.head_of_ahead hs heq
    obtain rfl := Option.some.inj ((hold u hu).symm.trans hw)
    exact h.noted heq u hu
  · rw [List.take_append_of_le_length h.le_length]
    exact h.last
  · rw [hgone]
    rcases hstate with hsame | hquiet | ⟨w, -, hack⟩
    · exact h.answered (hsame ▸ hwait) hsend
    · exact absurd (Or.inr (Or.inr hwait)) hquiet
    · rw [hack] at hwait
      exact absurd hwait (by simp)

/-- What the receiver has noted of its pipes, and whether it sends an ACK,
decides. -/
theorem Paced.of_noted {dongle' : Driver} (h : Paced cfg crc d dongle written got)
    (hinfo : dongle'.rxPipeInfo = dongle.rxPipeInfo)
    (hstate : dongle'.state = .prxSendAck → dongle.state = .prxSendAck) :
    Paced cfg crc d dongle' written got := by
  refine ⟨h.state, h.air, h.gone_le, h.le_gone, h.le_length, fun heq w hw => ?_, ?_,
    fun hwait hsend => h.answered hwait (hstate hsend)⟩
  · unfold Noted
    rw [hinfo]
    exact h.noted heq w hw
  · rw [hinfo]
    exact h.last

/-- **The head is heard**: it is taken the first time, and only then. -/
theorem Paced.of_heard {dongle' : Driver} (hs : Sender cfg d written)
    (hn : Numbered cfg d written) (h : Paced cfg crc d dongle written got)
    (hmax : cfg.esbMaxPayloadLength ≤ cfg'.esbMaxPayloadLength)
    (hw : (d.txQueue cfg).head? = some w)
    (hheard : Driver.Heard cfg' crc w.pipe w.pdu dongle dongle') :
    Paced cfg crc d dongle' written (gone d written + 1) ∧
      (dongle.takes cfg' crc w.pipe w.pdu = true ↔ got = gone d written) ∧
      (dongle.repeats crc w.pipe w.pdu = true ↔ got = gone d written + 1) := by
  obtain ⟨hmem, hserial⟩ := hs.head hw
  have hge := h.gone_le
  have hle := h.le_gone
  have hadd := hs.gone_add
  obtain ⟨i, hi, hiw⟩ := List.mem_iff_getElem.1 hmem
  have hgone : gone d written = i := by rw [← hserial, ← hiw, hs.serial i hi]
  have hrepeats : dongle.repeats crc w.pipe w.pdu = true ↔ got = gone d written + 1 := by
    rw [repeats_iff_noted]
    constructor
    · intro hnoted
      by_contra hne
      exact h.not_noted hs hn (by omega) hw hnoted
    · exact fun heq => h.noted heq w hw
  have htakes : dongle.takes cfg' crc w.pipe w.pdu = true ↔ got = gone d written := by
    have hfits : w.pdu.data.length ≤ cfg'.esbMaxPayloadLength := (hn.fits w hmem).trans hmax
    unfold Driver.takes
    rw [Bool.and_eq_true, Bool.not_eq_true', ← Bool.not_eq_true, hrepeats, decide_eq_true_iff]
    constructor
    · exact fun hboth => by omega
    · exact fun heq => ⟨by omega, hfits⟩
  refine ⟨⟨h.state, h.air, by omega, Nat.le_refl _, by omega, fun _ u hu => ?_, fun pipe => ?_,
    fun _ _ => rfl⟩, htakes, hrepeats⟩
  · obtain rfl := Option.some.inj (hw.symm.trans hu)
    exact Heard.noted hheard
  · -- the pipe of the packet has its id, and the others have what they had
    rw [hheard.rxPipeInfo, hgone, List.take_add_one, List.getElem?_eq_getElem hi, hiw,
      Option.toList_some, sentOn_append, sentOn_singleton]
    by_cases hpipe : pipe = w.pipe
    · rw [hpipe, Function.update_self, if_pos rfl]
      have hown := hn.pid i hi
      rw [List.take_add_one, List.getElem?_eq_getElem hi, Option.toList_some, sentOn_append,
        sentOn_singleton, if_pos rfl, hiw] at hown
      exact hown
    · rw [Function.update_of_ne hpipe, if_neg (Ne.symm hpipe), Nat.add_zero, h.last]
      -- up to the packet itself, no more was sent on the other pipes
      rcases Nat.eq_or_lt_of_le hge with heq | hlt
      · rw [← heq, hgone]
      · have hnext : got = i + 1 := by omega
        rw [hnext, List.take_add_one, List.getElem?_eq_getElem hi, hiw, Option.toList_some,
          sentOn_append, sentOn_singleton, if_neg (Ne.symm hpipe), Nat.add_zero]

/-- The packet has left, and the ACK is waited for. -/
theorem Paced.of_out (h : Paced cfg crc d dongle written got) (hstate : d.state = .ptxTxAck)
    (hsend : dongle.state = .prxSendAck → got = gone d written + 1) :
    Paced cfg crc d.onRadioDisabledTx dongle written got :=
  ⟨by simp [Driver.onRadioDisabledTx], fun _ => h.air (Or.inr (Or.inl hstate)), h.gone_le,
    h.le_gone, h.le_length, h.noted, h.last, fun _ => hsend⟩

/-- **The ACK has come**: the head, which has been delivered, goes. -/
theorem Paced.of_left (hs : Sender cfg d written) (hs' : Sender cfg d' written)
    (hn : Numbered cfg d written) (h : Paced cfg crc d dongle written got)
    (heq : got = gone d written + 1) (hleft : Driver.Left cfg d d') :
    Paced cfg crc d' dongle written got ∧ got = gone d' written := by
  obtain ⟨w, hw⟩ := h.head_of_ahead hs heq
  have hcount : d'.txFifo.count + 1 = d.txFifo.count := by
    have hlength := congrArg List.length hleft.queue
    rw [List.length_tail, length_txQueue, length_txQueue] at hlength
    have hne : d.txFifo.count ≠ 0 := by
      rw [← length_txQueue cfg]
      intro hzero
      rw [List.length_eq_zero_iff.1 hzero] at hw
      exact absurd hw (by simp)
    omega
  have hadd := hs.gone_add
  have hadd' := hs'.gone_add
  have hgone : got = gone d' written := by omega
  have hstate : ¬ d'.Active ∨ d'.state = .ptxTxAck := by
    rcases hleft.air with hquiet | ⟨u, hstarts⟩
    · exact Or.inl hquiet
    · exact Or.inr (state_of_starts (hn.asks u (hs'.head hstarts.head).1) hstarts)
  refine ⟨⟨?_, fun hactive => ?_, hgone.ge, by omega, h.le_length, fun hno => by omega, h.last,
    fun hwait => ?_⟩, hgone⟩
  · rcases hstate with hquiet | hack
    · exact fun htx => hquiet (Or.inl htx)
    · rw [hack]
      simp
  · rcases hleft.air with hquiet | ⟨u, hstarts⟩
    · exact absurd hactive hquiet
    · exact ⟨u, hstarts.head, hstarts.sends⟩
  · rcases hstate with hquiet | hack
    · exact absurd (Or.inr (Or.inr hwait)) hquiet
    · rw [hack] at hwait
      exact absurd hwait (by simp)

/-- No ACK has come. -/
theorem Paced.of_lost (h : Paced cfg crc d dongle written got) (hactive : d.Active)
    (hstate : ¬ d'.Active ∨ d'.state = .ptxTxAck) (hfifo : d'.txFifo = d.txFifo)
    (haddress : d'.txAddress = d.txAddress) (hbuffer : d'.txPayloadBuffer = d.txPayloadBuffer) :
    Paced cfg crc d' dongle written got := by
  have hgone : gone d' written = gone d written := by rw [gone, gone, hfifo]
  have hqueue : d'.txQueue cfg = d.txQueue cfg := by rw [Driver.txQueue, Driver.txQueue, hfifo]
  refine ⟨?_, fun _ => ?_, hgone ▸ h.gone_le, hgone ▸ h.le_gone, h.le_length, fun heq w hw => ?_,
    h.last, fun hwait => ?_⟩
  · rcases hstate with hquiet | hack
    · exact fun htx => hquiet (Or.inl htx)
    · rw [hack]
      simp
  · obtain ⟨w, hw, hsends⟩ := h.air hactive
    exact ⟨w, hqueue ▸ hw, haddress.trans hsends.1, hbuffer.trans hsends.2⟩
  · exact h.noted (hgone ▸ heq) w (hqueue ▸ hw)
  · rcases hstate with hquiet | hack
    · exact absurd (Or.inr (Or.inr hwait)) hquiet
    · rw [hack] at hwait
      exact absurd hwait (by simp)

/-! ## Runs of the link -/

/-- **The invariant of a link without interference.** -/
structure Exact (cfg cfg' : Config) (crc : Nat → Nat → Bool → List UInt8 → UInt16) (l : RadioLink) :
    Prop where
  sender : Sender cfg l.keyboard l.written
  dongle : l.dongle.PrxSound cfg'
  numbered : Numbered cfg l.keyboard l.written
  paced : Paced cfg crc l.keyboard l.dongle l.written (l.delivered cfg').length
  isPrefix : l.delivered cfg' <+: l.written

theorem Numbered.of_pids (h : Numbered cfg d written) (hpids : d'.pids = d.pids) :
    Numbered cfg d' written := ⟨h.asks, h.fits, h.pid, fun pipe => hpids ▸ h.pids pipe⟩

theorem err_esbWritePayload (h : d.PtxSound cfg) (p : EsbPayload) :
    (d.esbWritePayload cfg p).2 = d.writeError cfg p := by
  unfold Driver.esbWritePayload
  cases d.writeError cfg p with
  | some err => rfl
  | none => rw [h.mode]

variable {l : RadioLink}

theorem Exact.keyboard_step (h : Exact cfg cfg' crc l) {op : DriverOp} (hop : op.Transmits cfg)
    (hkeeps : op.Keeps) (hasks : ∀ p, op = .write p → p.noack = false) :
    Exact cfg cfg' crc (radioLinkStep cfg cfg' crc l (.keyboard op)) := by
  have hcall : ∀ received, op ≠ .radio received := by
    rintro received rfl
    exact hkeeps
  have hcalled := @Driver.called_driverStep cfg l.keyboard crc h.sender.sound op hop hcall
  have hsound := (@Driver.refines_driverStep cfg crc l.keyboard h.sender.sound op hop).sound
  have hsender := h.sender.of_call hsound hcalled
  have hout : ∀ p, op = .write p → (driverStep cfg crc l.keyboard op).2 = .result none →
      l.keyboard.writeError cfg p = none := by
    rintro p rfl hresult
    rw [← err_esbWritePayload h.sender.sound]
    exact DriverOut.result.inj hresult
  have hnumbered := h.numbered.of_call hcalled hkeeps hout hasks
  exact ⟨hsender, h.dongle, hnumbered,
    h.paced.of_call h.sender hsender hnumbered (hcalled.keeps hkeeps).1 hcalled.air,
    h.isPrefix.trans (List.prefix_append _ _)⟩

theorem Exact.dongle_step (h : Exact cfg cfg' crc l) {op : DriverOp} (hop : op.Serves) :
    Exact cfg cfg' crc (radioLinkStep cfg cfg' crc l (.dongle op)) := by
  have hserved := @Driver.PrxSound.served cfg' crc l.dongle h.dongle op hop
  have hsound := (@Driver.PrxSound.driverStep cfg' crc l.dongle h.dongle op
    (Driver.listens_of_serves hop)).1
  have hdelivered := @delivered_dongle cfg cfg' crc l op h.dongle hop
  refine ⟨h.sender, hsound, h.numbered, ?_, hdelivered ▸ h.isPrefix⟩
  rw [hdelivered]
  refine h.paced.of_noted hserved.rxPipeInfo fun hsend => ?_
  rcases hserved.state with hsame | hprx
  · exact hsame.symm.trans hsend
  · exact absurd (hprx.symm.trans hsend) (by simp)

/-- The packet on the air is the head's, and asks for an ACK. -/
theorem Exact.on_air (h : Exact cfg cfg' crc l) (hactive : l.keyboard.Active) :
    ∃ w, (l.keyboard.txQueue cfg).head? = some w ∧ l.keyboard.Sends w ∧
      l.dongle.answers w.pdu = true := by
  obtain ⟨w, hw, hsends⟩ := h.paced.air hactive
  refine ⟨w, hw, hsends, ?_⟩
  have hasks := h.numbered.asks w (h.sender.head hw).1
  show (!l.dongle.esbCfg.selectiveAutoAck || !w.noack) = true
  rw [hasks, Bool.not_false, Bool.or_true]

/-- The receiver once its ACK is out. -/
theorem Exact.settle (h : Exact cfg cfg' crc l) :
    Exact cfg cfg' crc { l with dongle := l.dongle.onRadioDisabled cfg' crc none } := by
  obtain ⟨hsound, hstate, state, heq⟩ := @Driver.PrxSound.settled cfg' crc l.dongle h.dongle
  have hdelivered : delivered cfg' { l with dongle := l.dongle.onRadioDisabled cfg' crc none } =
      l.delivered cfg' := by
    show l.read ++ _ = _
    rw [heq]
    rfl
  have hinfo : (l.dongle.onRadioDisabled cfg' crc none).rxPipeInfo = l.dongle.rxPipeInfo := by
    rw [heq]
  refine ⟨h.sender, hsound, h.numbered, ?_, hdelivered ▸ h.isPrefix⟩
  rw [hdelivered]
  refine h.paced.of_noted hinfo fun hsend => ?_
  rw [hstate] at hsend
  split at hsend <;> exact absurd hsend (by simp)

/-- **A packet that is heard** while no ACK is on the way. -/
theorem Exact.hear (h : Exact cfg cfg' crc l)
    (hmax : cfg.esbMaxPayloadLength ≤ cfg'.esbMaxPayloadLength) {w : Slot}
    (hw : (l.keyboard.txQueue cfg).head? = some w) {dongle' : Driver}
    (hheard : Driver.Heard cfg' crc w.pipe w.pdu l.dongle dongle') :
    Exact cfg cfg' crc { l with dongle := dongle' } ∧
      (delivered cfg' { l with dongle := dongle' }).length = gone l.keyboard l.written + 1 := by
  obtain ⟨hpaced, htakes, -⟩ := h.paced.of_heard h.sender h.numbered hmax hw hheard
  obtain ⟨hmem, hserial⟩ := h.sender.head hw
  have hdelivered : delivered cfg' { l with dongle := dongle' } =
      l.delivered cfg' ++ if l.dongle.takes cfg' crc w.pipe w.pdu then [w] else [] := by
    show l.read ++ _ = l.read ++ _ ++ _
    rw [hheard.rxFifo, List.append_assoc, received_pdu]
  have hge := h.paced.gone_le
  have hle := h.paced.le_gone
  by_cases hyes : l.dongle.takes cfg' crc w.pipe w.pdu = true
  · rw [if_pos hyes] at hdelivered
    have hlength : (delivered cfg' { l with dongle := dongle' }).length =
        gone l.keyboard l.written + 1 := by
      rw [hdelivered, List.length_append, List.length_singleton, htakes.1 hyes]
    refine ⟨⟨h.sender, hheard.sound, h.numbered, hlength ▸ hpaced, ?_⟩, hlength⟩
    -- the head is the payload after those delivered
    obtain ⟨i, hi, hiw⟩ := List.mem_iff_getElem.1 hmem
    have hnext : (l.delivered cfg').length = i := by
      rw [htakes.1 hyes, ← hserial, ← hiw, h.sender.serial i hi]
    have htake := List.prefix_iff_eq_take.1 h.isPrefix
    rw [hnext] at htake
    rw [hdelivered, htake, ← hiw]
    have hsucc : l.written.take i ++ [l.written[i]] = l.written.take (i + 1) := by
      rw [List.take_add_one, List.getElem?_eq_getElem hi, Option.toList_some]
    rw [hsucc]
    exact List.take_prefix _ _
  · have hne : (l.delivered cfg').length ≠ gone l.keyboard l.written := fun heq =>
      hyes (htakes.2 heq)
    rw [if_neg hyes, List.append_nil] at hdelivered
    have hlength : (delivered cfg' { l with dongle := dongle' }).length =
        gone l.keyboard l.written + 1 := by
      rw [hdelivered]
      omega
    exact ⟨⟨h.sender, hheard.sound, h.numbered, hlength ▸ hpaced, hdelivered ▸ h.isPrefix⟩,
      hlength⟩

/-- The transmitter once its packet is out. -/
theorem Exact.out (h : Exact cfg cfg' crc l) (hstate : l.keyboard.state = .ptxTxAck)
    (hsend : l.dongle.state = .prxSendAck →
      (l.delivered cfg').length = gone l.keyboard l.written + 1) :
    Exact cfg cfg' crc { l with keyboard := l.keyboard.onRadioDisabledTx } := by
  have hsound : l.keyboard.onRadioDisabledTx.PtxSound cfg :=
    ⟨h.sender.sound.mode, by simp [Driver.onRadioDisabledTx], h.sender.sound.txFifo,
      h.sender.sound.rxFifo, fun _ => h.sender.sound.remaining_le (Or.inl hstate)⟩
  exact ⟨h.sender.of_kept hsound rfl rfl rfl rfl fun _ => Or.inr (Or.inl hstate), h.dongle,
    h.numbered.of_pids rfl, h.paced.of_out hstate hsend, h.isPrefix⟩

theorem Exact.attempt_step (h : Exact cfg cfg' crc l)
    (hmax : cfg.esbMaxPayloadLength ≤ cfg'.esbMaxPayloadLength) (heard : Bool) :
    Exact cfg cfg' crc (radioLinkStep cfg cfg' crc l (.attempt heard)) := by
  unfold radioLinkStep
  cases hstate : l.keyboard.state with
  | ptxTx => exact absurd hstate h.paced.state
  | ptxTxAck =>
    have hdef : l.keyboard.onRadioDisabled cfg crc none = l.keyboard.onRadioDisabledTx := by
      unfold Driver.onRadioDisabled
      rw [hstate]
    obtain ⟨hsound, hprx, -⟩ := @Driver.PrxSound.settled cfg' crc l.dongle h.dongle
    have hne : (l.dongle.onRadioDisabled cfg' crc none).state ≠ .prxSendAck := by
      rw [hprx]
      split <;> simp
    dsimp only
    rw [hdef]
    cases heard with
    | false => exact h.settle.out hstate fun hsend => absurd hsend hne
    | true =>
      rw [if_pos rfl]
      rcases @hears cfg' crc (l.dongle.onRadioDisabled cfg' crc none) hsound hne
        l.keyboard.txAddress l.keyboard.txPayloadBuffer with hsame | ⟨-, -, hheard⟩
      · rw [hsame]
        exact h.settle.out hstate fun hsend => absurd hsend hne
      · obtain ⟨w, hw, hsends, -⟩ := h.on_air (Or.inr (Or.inl hstate))
        rw [hsends.1, hsends.2] at hheard ⊢
        obtain ⟨hexact, hlength⟩ := h.settle.hear hmax hw hheard
        exact hexact.out hstate fun _ => hlength
  | _ => exact h

theorem Exact.window_step (h : Exact cfg cfg' crc l) (arrives : Bool) :
    Exact cfg cfg' crc (radioLinkStep cfg cfg' crc l (.window arrives)) := by
  unfold radioLinkStep
  cases hstate : l.keyboard.state with
  | ptxRxAck =>
    have hdef : ∀ received, l.keyboard.onRadioDisabled cfg crc received =
        l.keyboard.onRadioDisabledTxWaitForAck cfg (received.map Prod.snd) := by
      intro received
      unfold Driver.onRadioDisabled
      rw [hstate]
    have hdongle := h.settle
    dsimp only
    rw [hdef]
    split
    · rename_i harrives
      have hsound := h.sender.sound.onRadioDisabledTxWaitForAck hstate
        (some l.dongle.txPayloadBuffer)
      have hleft := (Driver.left_acked h.sender.sound l.dongle.txPayloadBuffer).2
      have hsender := h.sender.of_left hsound hleft
      have hlength : (delivered cfg' { l with
          dongle := l.dongle.onRadioDisabled cfg' crc none }).length =
            gone l.keyboard l.written + 1 := by
        obtain ⟨-, -, state, heq⟩ := @Driver.PrxSound.settled cfg' crc l.dongle h.dongle
        have hahead := h.paced.answered hstate harrives.2
        rw [heq]
        exact hahead
      exact ⟨hsender, hdongle.dongle, h.numbered.of_pids hleft.frame.1,
        (hdongle.paced.of_left h.sender hsender h.numbered hlength hleft).1, hdongle.isPrefix⟩
    · obtain ⟨hlast, state, flags, remaining, attempts, heq⟩ := @Driver.lost_spec cfg l.keyboard
      have hsound := h.sender.sound.onRadioDisabledTxWaitForAck hstate none
      have hactive : l.keyboard.Active := Or.inr (Or.inr hstate)
      rw [Option.map_none]
      rw [heq] at hsound hlast ⊢
      exact ⟨h.sender.of_kept hsound rfl rfl rfl rfl fun _ => hactive, hdongle.dongle,
        h.numbered.of_pids rfl, hdongle.paced.of_lost hactive hlast rfl rfl rfl,
        hdongle.isPrefix⟩
  | _ => exact h

theorem Exact.step (h : Exact cfg cfg' crc l)
    (hmax : cfg.esbMaxPayloadLength ≤ cfg'.esbMaxPayloadLength) {op : RadioLinkOp}
    (hop : op.Steady cfg) : Exact cfg cfg' crc (radioLinkStep cfg cfg' crc l op) := by
  cases op with
  | keyboard op => exact h.keyboard_step hop.1 hop.2.1 hop.2.2
  | dongle op => exact h.dongle_step hop.1
  | attempt heard => exact h.attempt_step hmax heard
  | window arrives => exact h.window_step arrives

theorem Exact.run (h : Exact cfg cfg' crc l)
    (hmax : cfg.esbMaxPayloadLength ≤ cfg'.esbMaxPayloadLength) {ops : List RadioLinkOp}
    (hops : ∀ op ∈ ops, op.Steady cfg) :
    Exact cfg cfg' crc (runFrom (radioLinkStep cfg cfg' crc) l ops) := by
  induction ops generalizing l with
  | nil => exact h
  | cons op ops ih =>
    exact ih (h.step hmax (hops op List.mem_cons_self))
      fun op' hop' => hops op' (List.mem_cons_of_mem op hop')

theorem exact_up (cfg cfg' : Config) (crc : Nat → Nat → Bool → List UInt8 → UInt16)
    {kcfg dcfg : EsbConfig} (hkeyboard : DriverOp.Transmits cfg (.init kcfg))
    (hdongle : dcfg.mode = .prx) : Exact cfg cfg' crc (RadioLink.up kcfg dcfg) := by
  have hcarried := carried_up cfg cfg' crc hkeyboard hdongle
  refine ⟨hcarried.sender, hcarried.dongle,
    ⟨fun w hw => absurd hw List.not_mem_nil, fun w hw => absurd hw List.not_mem_nil,
      fun i hi => absurd hi (Nat.not_lt_zero i), fun _ => rfl⟩,
    ⟨by simp [RadioLink.up, Driver.esbInit], fun hactive => ?_, Nat.le_refl _, Nat.le_succ _,
      Nat.le_refl _, fun hno => absurd hno (by simp [gone, RadioLink.up, delivered, Driver.esbInit,
        Driver.esbStartRx, WrapFifo.clear, WrapFifo.contents]), fun _ => rfl,
      fun hwait => ?_⟩, List.prefix_refl _⟩
  · exact absurd hactive (by simp [Driver.Active, RadioLink.up, Driver.esbInit])
  · exact absurd hwait (by simp [RadioLink.up, Driver.esbInit])

/-- **The link is a FIFO.** Where the calls are steady and the dongle takes
payloads as long as the keyboard's (`hmax`), the dongle has taken the first
payloads the keyboard wrote, each once: all that have left the keyboard's
FIFO, and the next one at most. -/
theorem delivered_prefix {kcfg dcfg : EsbConfig}
    (hkeyboard : DriverOp.Transmits cfg (.init kcfg)) (hdongle : dcfg.mode = .prx)
    (hmax : cfg.esbMaxPayloadLength ≤ cfg'.esbMaxPayloadLength) {ops : List RadioLinkOp}
    (hops : ∀ op ∈ ops, op.Steady cfg) :
    let l := runFrom (radioLinkStep cfg cfg' crc) (RadioLink.up kcfg dcfg) ops
    l.delivered cfg' <+: l.written ∧
      l.written.length ≤ (l.delivered cfg').length + l.keyboard.txFifo.count ∧
      (l.delivered cfg').length + l.keyboard.txFifo.count ≤ l.written.length + 1 := by
  intro l
  have h : Exact cfg cfg' crc l := (exact_up cfg cfg' crc hkeyboard hdongle).run hmax hops
  have hadd := h.sender.gone_add
  have hge := h.paced.gone_le
  have hle := h.paced.le_gone
  exact ⟨h.isPrefix, by omega, by omega⟩

theorem delivered_prefix_lostAck :
    let l := runFrom (radioLinkStep Config.default Config.default fun _ pid _ _ => pid.toUInt16)
      (RadioLink.up ⟨.ptx, false, 5, 570⟩ ⟨.prx, true, 5, 570⟩) (lostAck.take 6)
    l.delivered Config.default <+: l.written ∧
      l.written.length ≤ (l.delivered Config.default).length + l.keyboard.txFifo.count ∧
      (l.delivered Config.default).length + l.keyboard.txFifo.count ≤ l.written.length + 1 :=
  delivered_prefix ⟨rfl, rfl, rfl, rfl⟩ rfl (Nat.le_refl _)
    (by simp [lostAck, RadioLinkOp.Steady, DriverOp.Transmits, DriverOp.Keeps, DriverOp.Serves])

end RadioLink

end EsbEndpoint
