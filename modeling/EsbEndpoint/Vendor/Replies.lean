import EsbEndpoint.Vendor.Reliable

/-!
# The link, the other way

The ACK payloads of a pipe on a link without interference. The dongle
offers the first one with every ACK until the next packet that is no
repetition, and by then the keyboard has it; `due` is the payload that the
keyboard has got and the dongle does not know of.
-/

namespace EsbEndpoint

/-- What of a payload goes over the air with an ACK. -/
def Slot.message (w : Slot) : Nat × List UInt8 × Nat := (w.pipe, w.data, w.serial)

namespace RadioLink

variable {cfg cfg' : Config} {crc : Nat → Nat → Bool → List UInt8 → UInt16} {l : RadioLink}

/-- The payloads among some that are on a pipe. -/
def on (pipe : Nat) (ws : List Slot) : List Slot := ws.filter fun w => w.pipe == pipe

/-- What the keyboard has taken with ACKs. -/
def replied (cfg : Config) (l : RadioLink) : List Slot :=
  l.replies ++ l.keyboard.rxFifo.contents cfg.esbRxFifoSize

/-- The packet on the pipe has been delivered and its ACK has not come. -/
def Open (cfg cfg' : Config) (l : RadioLink) (pipe : Nat) : Prop :=
  (l.delivered cfg').length = gone l.keyboard l.written + 1 ∧
    ((l.keyboard.txQueue cfg).head?.map fun w => w.pipe) = some pipe

instance (cfg cfg' : Config) (l : RadioLink) (pipe : Nat) : Decidable (Open cfg cfg' l pipe) :=
  inferInstanceAs (Decidable (_ ∧ _))

/-- An ACK payload has been got, and is still queued. -/
def due (cfg cfg' : Config) (l : RadioLink) (pipe : Nat) : Nat :=
  if (l.dongle.rxPipeInfo pipe).ackPayload = true ∧ ¬ Open cfg cfg' l pipe then 1 else 0

/-- What an ACK on a pipe carries. -/
def offer (cfg' : Config) (dongle : Driver) (pipe : Nat) : Option Slot :=
  if (dongle.rxPipeInfo pipe).ackPayload then (dongle.ackQueue cfg' pipe).head? else none

/-- **The ACK payloads and where they are**: of those offered on a pipe the
first are gone, the rest are queued, and the keyboard has got the first and
what is due. -/
structure Replying (cfg cfg' : Config) (l : RadioLink) : Prop where
  fits : ∀ s ∈ l.offered, 0 < s.data.length ∧ s.data.length ≤ cfg'.esbMaxPayloadLength
  flagged : ∀ pipe, (l.dongle.rxPipeInfo pipe).ackPayload = true →
    l.dongle.ackQueue cfg' pipe ≠ []
  queue : ∀ pipe, ∃ k ≤ (on pipe l.offered).length,
    l.dongle.ackQueue cfg' pipe = (on pipe l.offered).drop k ∧
      (on pipe (l.replied cfg)).map Slot.message =
        ((on pipe l.offered).take (k + due cfg cfg' l pipe)).map Slot.message
  answer : l.keyboard.state = .ptxRxAck → l.dongle.state = .prxSendAck →
    ∀ w, (l.keyboard.txQueue cfg).head? = some w → l.dongle.txAddress = w.pipe ∧
      l.dongle.txPayloadBuffer = Driver.ackWith w.pdu (offer cfg' l.dongle w.pipe)

theorem on_append (pipe : Nat) (ws ws' : List Slot) :
    on pipe (ws ++ ws') = on pipe ws ++ on pipe ws' := List.filter_append ws ws'

theorem mem_on {pipe : Nat} {ws : List Slot} {w : Slot} :
    w ∈ on pipe ws ↔ w ∈ ws ∧ w.pipe = pipe := by
  rw [on, List.mem_filter, beq_iff_eq]

theorem on_singleton (pipe : Nat) (w : Slot) : on pipe [w] = if w.pipe = pipe then [w] else [] := by
  unfold on
  by_cases h : w.pipe = pipe <;> simp [h]

/-- What is due is one of those queued. -/
theorem Replying.due_le_length (h : Replying cfg cfg' l) {pipe k : Nat}
    (hk : k ≤ (on pipe l.offered).length)
    (hqueue : l.dongle.ackQueue cfg' pipe = (on pipe l.offered).drop k) :
    k + due cfg cfg' l pipe ≤ (on pipe l.offered).length := by
  unfold due
  split
  · rename_i hdue
    have hne := h.flagged pipe hdue.1
    rw [hqueue] at hne
    have hpos := List.length_pos_iff.2 hne
    rw [List.length_drop] at hpos
    omega
  · exact hk

/-- A step that changes nothing of all this. -/
theorem Replying.of_same (h : Replying cfg cfg' l) {l' : RadioLink}
    (hoffered : l'.offered = l.offered)
    (hqueue : ∀ pipe, l'.dongle.ackQueue cfg' pipe = l.dongle.ackQueue cfg' pipe)
    (hinfo : l'.dongle.rxPipeInfo = l.dongle.rxPipeInfo)
    (hreplied : l'.replied cfg = l.replied cfg)
    (hopen : ∀ pipe, Open cfg cfg' l' pipe ↔ Open cfg cfg' l pipe)
    (hanswer : l'.keyboard.state = .ptxRxAck → l'.dongle.state = .prxSendAck →
      ∀ w, (l'.keyboard.txQueue cfg).head? = some w → l'.dongle.txAddress = w.pipe ∧
        l'.dongle.txPayloadBuffer = Driver.ackWith w.pdu (offer cfg' l'.dongle w.pipe)) :
    Replying cfg cfg' l' := by
  have hdue : ∀ pipe, due cfg cfg' l' pipe = due cfg cfg' l pipe := by
    intro pipe
    unfold due
    rw [hinfo]
    simp only [hopen]
  refine ⟨hoffered ▸ h.fits, fun pipe hflag => ?_, fun pipe => ?_, hanswer⟩
  · rw [hqueue]
    rw [hinfo] at hflag
    exact h.flagged pipe hflag
  · rw [hqueue, hoffered, hreplied, hdue]
    exact h.queue pipe

theorem open_congr {l' : RadioLink} (hdelivered : l'.delivered cfg' = l.delivered cfg')
    (hgone : gone l'.keyboard l'.written = gone l.keyboard l.written)
    (hhead : (l.delivered cfg').length = gone l.keyboard l.written + 1 →
      (l'.keyboard.txQueue cfg).head? = (l.keyboard.txQueue cfg).head?) (pipe : Nat) :
    Open cfg cfg' l' pipe ↔ Open cfg cfg' l pipe := by
  unfold Open
  rw [hdelivered, hgone]
  exact and_congr_right fun heq => by rw [hhead heq]

/-- A call of the keyboard's. -/
theorem Replying.keyboard_step (hx : Exact cfg cfg' crc l) (h : Replying cfg cfg' l)
    {op : DriverOp} (hop : op.Transmits cfg) (hkeeps : op.Keeps) :
    Replying cfg cfg' (radioLinkStep cfg cfg' crc l (.keyboard op)) := by
  have hcall : ∀ received, op ≠ .radio received := by
    rintro received rfl
    exact hkeeps
  have hcalled := @Driver.called_driverStep cfg l.keyboard crc hx.sender.sound op hop hcall
  obtain ⟨hqueue, -, -, hrx⟩ := hcalled.keeps hkeeps
  have hhead : ∀ w, (l.keyboard.txQueue cfg).head? = some w →
      ((driverStep cfg crc l.keyboard op).1.txQueue cfg).head? = some w := by
    intro w hw
    rw [hqueue, List.head?_append, hw]
    rfl
  refine h.of_same rfl (fun _ => rfl) rfl ?_ (open_congr rfl (gone_of_append hx.sender hqueue)
    fun heq => ?_) fun hwait hsend w hw => ?_
  · show l.replies ++ _ ++ _ = l.replies ++ _
    rw [hrx, List.append_assoc]
    rfl
  · obtain ⟨w, hw⟩ := hx.paced.head_of_ahead hx.sender heq
    rw [hw]
    exact hhead w hw
  · -- a call starts no wait for an ACK
    cases hcalled.air with
    | quiet hquiet => exact absurd (Or.inr (Or.inr hwait)) hquiet
    | goesOn hstate haddress hbuffer =>
      have hwait' : l.keyboard.state = .ptxRxAck := hstate.symm.trans hwait
      obtain ⟨u, hu, -⟩ := hx.paced.air (Or.inr (Or.inr hwait'))
      obtain rfl := Option.some.inj ((hhead u hu).symm.trans hw)
      exact h.answer hwait' hsend u hu
    | starts u hstarts =>
      have hstate := hstarts.state
      rw [show (driverStep cfg crc l.keyboard op).1.state = .ptxRxAck from hwait] at hstate
      split at hstate <;> exact absurd hstate (by simp)

variable {dongle : Driver}

/-- What a call of the dongle's accepts, and what that does to the queues. -/
theorem serve_accepted (h : dongle.PrxSound cfg') {op : DriverOp} (hop : op.Serves)
    (hflush : op ≠ .flushTx) :
    (∀ pipe, (driverStep cfg' crc dongle op).1.ackQueue cfg' pipe = dongle.ackQueue cfg' pipe ++
      on pipe (DriverOp.accepted dongle op (driverStep cfg' crc dongle op).2)) ∧
    ∀ s ∈ DriverOp.accepted dongle op (driverStep cfg' crc dongle op).2,
      0 < s.data.length ∧ s.data.length ≤ cfg'.esbMaxPayloadLength := by
  have hqueue := (@Driver.PrxSound.driverStep cfg' crc dongle h op
    (Driver.listens_of_serves hop)).2
  cases op with
  | write p =>
    have hresult : (driverStep cfg' crc dongle (.write p)).2 =
        .result (dongle.writeError cfg' p) := congrArg DriverOut.result (h.esbWritePayload p).2
    rw [hresult]
    by_cases hok : dongle.writeError cfg' p = none
    · have hops : dongle.ackOps cfg' crc (.write p) = [.append p.pipe (dongle.stored p)] :=
        if_pos hok
      obtain ⟨⟨hne, hle⟩, -, -⟩ := Driver.writeError_eq_none hok
      rw [hok]
      refine ⟨fun pipe => ?_, fun s hs => ?_⟩
      · rw [hqueue, hops]
        show (if pipe = p.pipe then dongle.ackQueue cfg' pipe ++ [dongle.stored p]
          else dongle.ackQueue cfg' pipe) = _ ++ on pipe [dongle.stored p]
        rw [on_singleton]
        by_cases hpipe : pipe = p.pipe
        · rw [if_pos hpipe, if_pos (show (dongle.stored p).pipe = pipe from hpipe.symm)]
        · rw [if_neg hpipe, if_neg (show ¬ (dongle.stored p).pipe = pipe from Ne.symm hpipe),
            List.append_nil]
      · obtain rfl := List.mem_singleton.1 hs
        exact ⟨Nat.pos_of_ne_zero hne, hle⟩
    · have hops : dongle.ackOps cfg' crc (.write p) = [] := if_neg hok
      have hnone :
          DriverOp.accepted dongle (.write p) (.result (dongle.writeError cfg' p)) = [] := by
        obtain ⟨err, herr⟩ := Option.ne_none_iff_exists'.1 hok
        rw [herr]
        rfl
      rw [hnone]
      refine ⟨fun pipe => ?_, fun s hs => absurd hs List.not_mem_nil⟩
      rw [hqueue, hops]
      exact (List.append_nil _).symm
  | flushTx => exact absurd rfl hflush
  | init esbCfg => exact absurd hop fun hno => hno
  | disable => exact absurd hop fun hno => hno
  | radio received => exact absurd hop fun hno => hno
  | _ => exact ⟨fun pipe => (hqueue pipe).trans (List.append_nil _).symm,
      fun s hs => absurd hs List.not_mem_nil⟩

/-- A call of the dongle's. -/
theorem Replying.dongle_step (hx : Exact cfg cfg' crc l) (h : Replying cfg cfg' l)
    {op : DriverOp} (hop : op.Serves) (hflush : op ≠ .flushTx) :
    Replying cfg cfg' (radioLinkStep cfg cfg' crc l (.dongle op)) := by
  obtain ⟨hqueue, hfits⟩ := @serve_accepted cfg' crc l.dongle hx.dongle op hop hflush
  have hserved := @Driver.PrxSound.served cfg' crc l.dongle hx.dongle op hop
  have hinfo : (radioLinkStep cfg cfg' crc l (.dongle op)).dongle.rxPipeInfo =
      l.dongle.rxPipeInfo :=
    hserved.rxPipeInfo
  have hdelivered := @delivered_dongle cfg cfg' crc l op hx.dongle hop
  have hdue : ∀ pipe, due cfg cfg' (radioLinkStep cfg cfg' crc l (.dongle op)) pipe =
      due cfg cfg' l pipe := by
    intro pipe
    have hopen := @open_congr cfg cfg' l (radioLinkStep cfg cfg' crc l (.dongle op)) hdelivered rfl
      (fun _ => rfl) pipe
    unfold due
    rw [hinfo]
    simp only [hopen]
  -- what a flagged pipe offers is in front of what the call adds
  have hoffer : ∀ pipe, offer cfg' (radioLinkStep cfg cfg' crc l (.dongle op)).dongle pipe =
      offer cfg' l.dongle pipe := by
    intro pipe
    unfold offer
    rw [hinfo]
    split
    · rename_i hflag
      obtain ⟨s, ss, hcons⟩ := List.exists_cons_of_ne_nil (h.flagged pipe hflag)
      have hnew : (radioLinkStep cfg cfg' crc l (.dongle op)).dongle.ackQueue cfg' pipe =
          l.dongle.ackQueue cfg' pipe ++ _ := hqueue pipe
      rw [hnew, hcons]
      rfl
    · rfl
  refine ⟨fun s hs => ?_, fun pipe hflag => ?_, fun pipe => ?_, fun hwait hsend w hw => ?_⟩
  · rcases List.mem_append.1 hs with hold | hnew
    · exact h.fits s hold
    · exact hfits s hnew
  · rw [hinfo] at hflag
    refine (hqueue pipe).symm ▸ List.append_ne_nil_of_left_ne_nil (h.flagged pipe hflag) _
  · obtain ⟨k, hk, hdrop, hreplied⟩ := h.queue pipe
    have hle := h.due_le_length hk hdrop
    have hoffered : on pipe (radioLinkStep cfg cfg' crc l (.dongle op)).offered =
        on pipe l.offered ++
          on pipe (DriverOp.accepted l.dongle op (driverStep cfg' crc l.dongle op).2) :=
      on_append pipe _ _
    refine ⟨k, ?_, ?_, ?_⟩
    · rw [hoffered, List.length_append]
      omega
    · rw [hoffered, List.drop_append_of_le_length hk, ← hdrop]
      exact hqueue pipe
    · rw [hoffered, hdue, List.take_append_of_le_length hle]
      exact hreplied
  · rw [hoffer]
    have hsend' : l.dongle.state = .prxSendAck := by
      rcases hserved.state with hsame | hprx
      · exact hsame.symm.trans hsend
      · exact absurd (hprx.symm.trans hsend) (by simp)
    obtain ⟨haddress, hbuffer⟩ := h.answer hwait hsend' w hw
    exact ⟨hserved.txAddress.trans haddress, hserved.txPayloadBuffer.trans hbuffer⟩

/-- The receiver once its ACK is out. -/
theorem Replying.settle (h : Replying cfg cfg' l) (hdongle : l.dongle.PrxSound cfg') :
    Replying cfg cfg' { l with dongle := l.dongle.onRadioDisabled cfg' crc none } := by
  obtain ⟨-, hstate, state, heq⟩ := @Driver.PrxSound.settled cfg' crc l.dongle hdongle
  have hdelivered : delivered cfg' { l with dongle := l.dongle.onRadioDisabled cfg' crc none } =
      l.delivered cfg' := by
    show l.read ++ _ = _
    rw [heq]
    rfl
  refine h.of_same rfl (fun pipe => ?_) ?_ rfl (open_congr hdelivered rfl fun _ => rfl)
    fun _ hsend => ?_
  · show (l.dongle.onRadioDisabled cfg' crc none).ackQueue cfg' pipe = _
    rw [heq]
    rfl
  · show (l.dongle.onRadioDisabled cfg' crc none).rxPipeInfo = _
    rw [heq]
  · rw [show (l.dongle.onRadioDisabled cfg' crc none).state = .prxSendAck from hsend] at hstate
    split at hstate <;> exact absurd hstate (by simp)

/-- **A packet that is heard** moves the queue of its pipe on, if it is no
repetition. -/
theorem Replying.hear (hx : Exact cfg cfg' crc l) (h : Replying cfg cfg' l)
    (hmax : cfg.esbMaxPayloadLength ≤ cfg'.esbMaxPayloadLength) {w : Slot}
    (hw : (l.keyboard.txQueue cfg).head? = some w)
    (hanswers : l.dongle.answers w.pdu = true) (hstate : l.keyboard.state = .ptxTxAck)
    {dongle' : Driver} (hheard : Driver.Heard cfg' crc w.pipe w.pdu l.dongle dongle') :
    Replying cfg cfg' { l with dongle := dongle' } ∧ dongle'.txAddress = w.pipe ∧
      dongle'.txPayloadBuffer = Driver.ackWith w.pdu (offer cfg' dongle' w.pipe) := by
  obtain ⟨-, -, hrepeats⟩ := hx.paced.of_heard hx.sender hx.numbered hmax hw hheard
  obtain ⟨-, hlength⟩ := hx.hear hmax hw hheard
  have hflag : (dongle'.rxPipeInfo w.pipe).ackPayload =
      !(dongle'.ackQueue cfg' w.pipe).isEmpty := by
    rw [hheard.rxPipeInfo, Function.update_self, hanswers]
    rfl
  have hother : ∀ pipe, pipe ≠ w.pipe → dongle'.rxPipeInfo pipe = l.dongle.rxPipeInfo pipe ∧
      dongle'.ackQueue cfg' pipe = l.dongle.ackQueue cfg' pipe := by
    intro pipe hne
    refine ⟨?_, ?_⟩
    · rw [hheard.rxPipeInfo, Function.update_of_ne hne]
    · rw [hheard.queue, if_neg fun hboth => hne hboth.1]
  -- the packet's own pipe is open now, and no other
  have hopen : ∀ pipe, Open cfg cfg' { l with dongle := dongle' } pipe ↔ pipe = w.pipe := by
    intro pipe
    unfold Open
    rw [hlength]
    show _ ∧ (l.keyboard.txQueue cfg).head?.map (fun w => w.pipe) = some pipe ↔ _
    rw [hw, Option.map_some, Option.some.injEq]
    exact ⟨fun hboth => hboth.2.symm, fun heq => ⟨rfl, heq.symm⟩⟩
  have hwas : ∀ pipe, Open cfg cfg' l pipe → pipe = w.pipe := by
    rintro pipe ⟨-, hpipe⟩
    rw [hw, Option.map_some, Option.some.injEq] at hpipe
    exact hpipe.symm
  refine ⟨⟨h.fits, fun pipe hyes => ?_, fun pipe => ?_, fun hwait => ?_⟩, ?_⟩
  · by_cases hpipe : pipe = w.pipe
    · rw [hpipe] at hyes ⊢
      rw [show (dongle'.rxPipeInfo w.pipe).ackPayload = true from hyes] at hflag
      intro hnil
      rw [show dongle'.ackQueue cfg' w.pipe = [] from hnil] at hflag
      exact absurd hflag (by simp)
    · obtain ⟨hinfo, hqueue⟩ := hother pipe hpipe
      show dongle'.ackQueue cfg' pipe ≠ []
      rw [hqueue]
      refine h.flagged pipe ?_
      rw [← hinfo]
      exact hyes
  · obtain ⟨k, hk, hdrop, hreplied⟩ := h.queue pipe
    have hle := h.due_le_length hk hdrop
    by_cases hpipe : pipe = w.pipe
    · have hdue' : due cfg cfg' { l with dongle := dongle' } pipe = 0 :=
        if_neg fun hboth => hboth.2 ((hopen pipe).2 hpipe)
      subst hpipe
      rw [hdue']
      refine ⟨k + due cfg cfg' l w.pipe, hle, ?_, hreplied⟩
      show dongle'.ackQueue cfg' w.pipe = _
      rw [hheard.queue, hdrop]
      -- it is dropped exactly when it is due
      by_cases hrep : l.dongle.repeats crc w.pipe w.pdu = true
      · have hno : l.dongle.drops cfg' crc w.pipe w.pdu = false := by
          rw [Driver.drops, hrep, Bool.not_true, Bool.and_false, Bool.false_and]
        have hopened : Open cfg cfg' l w.pipe := by
          refine ⟨hrepeats.1 hrep, ?_⟩
          rw [hw]
          rfl
        have hzero : due cfg cfg' l w.pipe = 0 := if_neg fun hboth => hboth.2 hopened
        rw [hno, if_neg (by simp), hzero, Nat.add_zero]
      · have hclosed : ¬ Open cfg cfg' l w.pipe := fun hyes => hrep (hrepeats.2 hyes.1)
        rw [Bool.not_eq_true] at hrep
        by_cases hflagged : (l.dongle.rxPipeInfo w.pipe).ackPayload = true
        · have hyes : l.dongle.drops cfg' crc w.pipe w.pdu = true := by
            have hne := h.flagged w.pipe hflagged
            have hempty : (l.dongle.ackQueue cfg' w.pipe).isEmpty = false := by simpa using hne
            rw [Driver.drops, hanswers, hflagged, hrep, hempty]
            rfl
          have hone : due cfg cfg' l w.pipe = 1 := if_pos ⟨hflagged, hclosed⟩
          rw [if_pos ⟨rfl, hyes⟩, hone, List.tail_drop]
        · have hzero : due cfg cfg' l w.pipe = 0 := if_neg fun hboth => hflagged hboth.1
          have hno : l.dongle.drops cfg' crc w.pipe w.pdu = false := by
            rw [Bool.not_eq_true] at hflagged
            rw [Driver.drops, hflagged, Bool.and_false, Bool.false_and, Bool.false_and]
          rw [hno, if_neg (by simp), hzero, Nat.add_zero]
    · obtain ⟨hinfo, hqueue⟩ := hother pipe hpipe
      have hdue : due cfg cfg' { l with dongle := dongle' } pipe = due cfg cfg' l pipe := by
        have hno : ¬ Open cfg cfg' l pipe := fun hyes => hpipe (hwas pipe hyes)
        have hno' : ¬ Open cfg cfg' { l with dongle := dongle' } pipe := fun hyes =>
          hpipe ((hopen pipe).1 hyes)
        unfold due
        simp only [hno, hno', not_false_eq_true, and_true]
        show (if (dongle'.rxPipeInfo pipe).ackPayload = true then 1 else 0) = _
        rw [hinfo]
      refine ⟨k, hk, ?_, ?_⟩
      · show dongle'.ackQueue cfg' pipe = _
        rw [hqueue]
        exact hdrop
      · rw [hdue]
        exact hreplied
  · rw [show l.keyboard.state = .ptxRxAck from hwait] at hstate
    exact absurd hstate (by simp)
  · obtain ⟨haddress, hbuffer⟩ := hheard.answer hanswers
    refine ⟨haddress, hbuffer.trans ?_⟩
    unfold offer
    rw [hflag]
    cases dongle'.ackQueue cfg' w.pipe <;> rfl

/-- The transmitter once its packet is out. -/
theorem Replying.out (h : Replying cfg cfg' l)
    (hanswer : l.dongle.state = .prxSendAck → ∀ w, (l.keyboard.txQueue cfg).head? = some w →
      l.dongle.txAddress = w.pipe ∧
        l.dongle.txPayloadBuffer = Driver.ackWith w.pdu (offer cfg' l.dongle w.pipe)) :
    Replying cfg cfg' { l with keyboard := l.keyboard.onRadioDisabledTx } :=
  h.of_same rfl (fun _ => rfl) rfl rfl (open_congr rfl rfl fun _ => rfl) fun _ => hanswer

theorem Replying.attempt_step (hx : Exact cfg cfg' crc l) (h : Replying cfg cfg' l)
    (hmax : cfg.esbMaxPayloadLength ≤ cfg'.esbMaxPayloadLength) (heard : Bool) :
    Replying cfg cfg' (radioLinkStep cfg cfg' crc l (.attempt heard)) := by
  unfold radioLinkStep
  cases hstate : l.keyboard.state with
  | ptxTx => exact absurd hstate hx.paced.state
  | ptxTxAck =>
    have hdef : l.keyboard.onRadioDisabled cfg crc none = l.keyboard.onRadioDisabledTx := by
      unfold Driver.onRadioDisabled
      rw [hstate]
    obtain ⟨hsound, hprx, -⟩ := @Driver.PrxSound.settled cfg' crc l.dongle hx.dongle
    have hne : (l.dongle.onRadioDisabled cfg' crc none).state ≠ .prxSendAck := by
      rw [hprx]
      split <;> simp
    have hsettled := @Replying.settle cfg cfg' crc l h hx.dongle
    dsimp only
    rw [hdef]
    cases heard with
    | false => exact hsettled.out fun hsend => absurd hsend hne
    | true =>
      rw [if_pos rfl]
      rcases @hears cfg' crc (l.dongle.onRadioDisabled cfg' crc none) hsound hne
        l.keyboard.txAddress l.keyboard.txPayloadBuffer with hsame | ⟨-, -, hheard⟩
      · rw [hsame]
        exact hsettled.out fun hsend => absurd hsend hne
      · obtain ⟨w, hw, hsends, hanswers⟩ := hx.settle.on_air (Or.inr (Or.inl hstate))
        rw [hsends.1, hsends.2] at hheard ⊢
        obtain ⟨hreplying, haddress, hbuffer⟩ :=
          hsettled.hear hx.settle hmax hw hanswers hstate hheard
        refine hreplying.out fun _ u hu => ?_
        obtain rfl := Option.some.inj (hw.symm.trans hu)
        exact ⟨haddress, hbuffer⟩
  | _ => exact h

/-- **An ACK has come**: the keyboard has got what it carried, and that is
now due. -/
theorem Replying.acked (hx : Exact cfg cfg' crc l) (h : Replying cfg cfg' l)
    (hmax : cfg'.esbMaxPayloadLength ≤ cfg.esbMaxPayloadLength)
    (hroom : l.keyboard.rxFifo.count < cfg.esbRxFifoSize) (hstate : l.keyboard.state = .ptxRxAck)
    (hsend : l.dongle.state = .prxSendAck) {d' : Driver}
    (hrx : d'.rxFifo.contents cfg.esbRxFifoSize =
      l.keyboard.rxFifo.contents cfg.esbRxFifoSize ++
        (if Driver.TakesReply cfg l.keyboard l.dongle.txPayloadBuffer then
          [Driver.received l.keyboard.txAddress l.dongle.txPayloadBuffer] else []))
    (hgone : (l.delivered cfg').length = gone d' l.written) (hwait : d'.state ≠ .ptxRxAck) :
    Replying cfg cfg' { l with keyboard := d' } := by
  obtain ⟨w, hw, hsends, -⟩ := hx.on_air (Or.inr (Or.inr hstate))
  obtain ⟨-, hbuffer⟩ := h.answer hstate hsend w hw
  have hahead := hx.paced.answered hstate hsend
  have hopen : ∀ pipe, Open cfg cfg' l pipe ↔ pipe = w.pipe := by
    intro pipe
    unfold Open
    rw [hw, Option.map_some, Option.some.injEq]
    exact ⟨fun hboth => hboth.2.symm, fun heq => ⟨hahead, heq.symm⟩⟩
  have hclosed : ∀ pipe, ¬ Open cfg cfg' { l with keyboard := d' } pipe := by
    rintro pipe ⟨heq, -⟩
    have hlength : (l.delivered cfg').length = gone d' l.written + 1 := heq
    omega
  -- the reply is the head of the queue, where there is one to offer
  have hreply : replied cfg { l with keyboard := d' } = l.replied cfg ++
      if Driver.TakesReply cfg l.keyboard l.dongle.txPayloadBuffer then
        [Driver.received w.pipe l.dongle.txPayloadBuffer] else [] := by
    show l.replies ++ d'.rxFifo.contents _ = l.replies ++ _ ++ _
    rw [hrx, List.append_assoc, hsends.1]
  refine ⟨h.fits, h.flagged, fun pipe => ?_, fun hno => absurd hno hwait⟩
  obtain ⟨k, hk, hdrop, hreplied⟩ := h.queue pipe
  refine ⟨k, hk, hdrop, ?_⟩
  rw [hreply, on_append, List.map_append, hreplied]
  have hdue' : due cfg cfg' { l with keyboard := d' } pipe =
      if (l.dongle.rxPipeInfo pipe).ackPayload = true then 1 else 0 := by
    unfold due
    simp only [hclosed, not_false_eq_true, and_true]
  by_cases hpipe : pipe = w.pipe
  · have hdue : due cfg cfg' l pipe = 0 := if_neg fun hboth => hboth.2 ((hopen pipe).2 hpipe)
    subst hpipe
    rw [hdue, hdue', hbuffer, Nat.add_zero]
    unfold offer
    by_cases hflag : (l.dongle.rxPipeInfo w.pipe).ackPayload = true
    · obtain ⟨s, ss, hcons⟩ := List.exists_cons_of_ne_nil (h.flagged w.pipe hflag)
      have hmem : s ∈ on w.pipe l.offered := by
        have hin : s ∈ l.dongle.ackQueue cfg' w.pipe := hcons ▸ List.mem_cons_self
        rw [hdrop] at hin
        exact List.mem_of_mem_drop hin
      obtain ⟨hoffered, hspipe⟩ := mem_on.1 hmem
      obtain ⟨hpos, hlong⟩ := h.fits s hoffered
      have htakes : Driver.TakesReply cfg l.keyboard (Driver.ackWith w.pdu (some s)) :=
        ⟨hpos, hroom, hlong.trans hmax⟩
      have hpipe : (Driver.received w.pipe (Driver.ackWith w.pdu (some s))).pipe = w.pipe := rfl
      rw [if_pos hflag, if_pos hflag, hcons, List.head?_cons, if_pos htakes, on_singleton,
        if_pos hpipe, List.map_singleton]
      show _ = ((on w.pipe l.offered).take (k + 1)).map Slot.message
      rw [List.take_add_one, List.map_append]
      -- the payload comes back as it was offered
      have hnext : (on w.pipe l.offered)[k]? = some s := by
        rw [← List.head?_drop, ← hdrop, hcons, List.head?_cons]
      rw [hnext, Option.toList_some, List.map_singleton]
      have hmessage : (Driver.received w.pipe (Driver.ackWith w.pdu (some s))).message =
          s.message := by
        show (w.pipe, s.data, s.serial) = (s.pipe, s.data, s.serial)
        rw [hspipe]
      rw [hmessage]
    · have htakes : ¬ Driver.TakesReply cfg l.keyboard (Driver.ackWith w.pdu none) := fun hyes =>
        absurd hyes.1 (Nat.lt_irrefl 0)
      rw [if_neg hflag, if_neg hflag, if_neg htakes]
      exact List.append_nil _
  · have hdue : due cfg cfg' l pipe = due cfg cfg' { l with keyboard := d' } pipe := by
      have hno : ¬ Open cfg cfg' l pipe := fun hyes => hpipe ((hopen pipe).1 hyes)
      rw [hdue']
      unfold due
      simp only [hno, not_false_eq_true, and_true]
    rw [hdue]
    split
    · have hother : ¬ (Driver.received w.pipe l.dongle.txPayloadBuffer).pipe = pipe := Ne.symm hpipe
      rw [on_singleton, if_neg hother]
      exact List.append_nil _
    · exact List.append_nil _

theorem Replying.window_step (hx : Exact cfg cfg' crc l) (h : Replying cfg cfg' l)
    (hmax : cfg'.esbMaxPayloadLength ≤ cfg.esbMaxPayloadLength)
    (hroom : l.keyboard.rxFifo.count < cfg.esbRxFifoSize) (arrives : Bool) :
    Replying cfg cfg' (radioLinkStep cfg cfg' crc l (.window arrives)) := by
  unfold radioLinkStep
  cases hstate : l.keyboard.state with
  | ptxRxAck =>
    have hdef : ∀ received, l.keyboard.onRadioDisabled cfg crc received =
        l.keyboard.onRadioDisabledTxWaitForAck cfg (received.map Prod.snd) := by
      intro received
      unfold Driver.onRadioDisabled
      rw [hstate]
    dsimp only
    rw [hdef]
    split
    · rename_i harrives
      have hsound := hx.sender.sound.onRadioDisabledTxWaitForAck hstate
        (some l.dongle.txPayloadBuffer)
      obtain ⟨hrx, hleft⟩ := Driver.left_acked hx.sender.sound l.dongle.txPayloadBuffer
      have hsender := hx.sender.of_left hsound hleft
      have hgone := (hx.paced.of_left hx.sender hsender hx.numbered
        (hx.paced.answered hstate harrives.2) hleft).2
      have hwait : (l.keyboard.onRadioDisabledTxWaitForAck cfg
          (some l.dongle.txPayloadBuffer)).state ≠ .ptxRxAck := by
        rcases hleft.air with hquiet | ⟨w, hstarts⟩
        · exact fun hno => hquiet (Or.inr (Or.inr hno))
        · rw [state_of_starts (hx.numbered.asks w (hsender.head hstarts.head).1) hstarts]
          simp
      exact (h.acked hx hmax hroom hstate harrives.2 hrx hgone hwait).settle hx.dongle
    · obtain ⟨hlast, state, flags, remaining, attempts, heq⟩ := @Driver.lost_spec cfg l.keyboard
      have hkept : Replying cfg cfg' { l with
          keyboard := l.keyboard.onRadioDisabledTxWaitForAck cfg none } := by
        refine h.of_same rfl (fun _ => rfl) rfl ?_ (open_congr rfl ?_ fun _ => ?_) fun hwait => ?_
        · show l.replies ++ (l.keyboard.onRadioDisabledTxWaitForAck cfg none).rxFifo.contents _ = _
          rw [heq]
          rfl
        · show gone (l.keyboard.onRadioDisabledTxWaitForAck cfg none) l.written = _
          rw [heq]
          rfl
        · show ((l.keyboard.onRadioDisabledTxWaitForAck cfg none).txQueue cfg).head? = _
          rw [heq]
          rfl
        · rcases hlast with hquiet | hack
          · exact absurd (Or.inr (Or.inr hwait)) hquiet
          · exact absurd (hwait.symm.trans hack) (by simp)
      exact hkept.settle hx.dongle
  | _ => exact h

/-- The end of a wait for an ACK finds room in the keyboard's receive
FIFO. -/
def HasRoom (cfg : Config) (l : RadioLink) : RadioLinkOp → Prop
  | .window _ => l.keyboard.rxFifo.count < cfg.esbRxFifoSize
  | _ => True

instance (cfg : Config) (l : RadioLink) : (op : RadioLinkOp) → Decidable (HasRoom cfg l op)
  | .window _ => inferInstanceAs (Decidable (_ < _))
  | .keyboard _ | .dongle _ | .attempt _ => .isTrue trivial

theorem replying_run (hx : Exact cfg cfg' crc l) (h : Replying cfg cfg' l)
    (hmax : cfg.esbMaxPayloadLength = cfg'.esbMaxPayloadLength) {ops : List RadioLinkOp}
    (hops : ∀ op ∈ ops, op.Steady cfg)
    (hroom : Guarded (radioLinkStep cfg cfg' crc) (HasRoom cfg) l ops) :
    Exact cfg cfg' crc (runFrom (radioLinkStep cfg cfg' crc) l ops) ∧
      Replying cfg cfg' (runFrom (radioLinkStep cfg cfg' crc) l ops) := by
  induction ops generalizing l with
  | nil => exact ⟨hx, h⟩
  | cons op ops ih =>
    have hsteady := hops op List.mem_cons_self
    refine ih (hx.step hmax.le hsteady) ?_
      (fun op' hop' => hops op' (List.mem_cons_of_mem op hop')) hroom.2
    cases op with
    | keyboard op => exact h.keyboard_step hx hsteady.1 hsteady.2.1
    | dongle op => exact h.dongle_step hx hsteady.1 hsteady.2
    | attempt heard => exact h.attempt_step hx hmax.le heard
    | window arrives => exact h.window_step hx hmax.ge hroom.1 arrives

theorem replying_up (cfg cfg' : Config) (kcfg dcfg : EsbConfig) :
    Replying cfg cfg' (RadioLink.up kcfg dcfg) := by
  refine ⟨fun s hs => absurd hs List.not_mem_nil, fun pipe hflag => absurd hflag Bool.false_ne_true,
    fun pipe => ⟨0, Nat.zero_le _, Driver.ackQueue_esbInit dcfg pipe, rfl⟩, fun hwait => ?_⟩
  exact absurd hwait (by simp [RadioLink.up, Driver.esbInit])

/-- **ACK payloads come back in order.** Where the calls are steady, both
take payloads of one length (`hmax`) and the keyboard keeps room in its
receive FIFO, what it has got on a pipe is the first of what the dongle
wrote to it, each once and unchanged, and what it has not got the dongle
still queues. -/
theorem replied_prefix {kcfg dcfg : EsbConfig}
    (hkeyboard : DriverOp.Transmits cfg (.init kcfg)) (hdongle : dcfg.mode = .prx)
    (hmax : cfg.esbMaxPayloadLength = cfg'.esbMaxPayloadLength) {ops : List RadioLinkOp}
    (hops : ∀ op ∈ ops, op.Steady cfg)
    (hroom : Guarded (radioLinkStep cfg cfg' crc) (HasRoom cfg) (RadioLink.up kcfg dcfg) ops)
    (pipe : Nat) :
    let l := runFrom (radioLinkStep cfg cfg' crc) (RadioLink.up kcfg dcfg) ops
    (on pipe (l.replied cfg)).map Slot.message <+: (on pipe l.offered).map Slot.message ∧
      (on pipe l.offered).length ≤
        (on pipe (l.replied cfg)).length + (l.dongle.ackQueue cfg' pipe).length := by
  intro l
  have h : Replying cfg cfg' l :=
    (replying_run (exact_up cfg cfg' crc hkeyboard hdongle) (replying_up cfg cfg' kcfg dcfg) hmax
      hops hroom).2
  obtain ⟨k, hk, hdrop, hreplied⟩ := h.queue pipe
  have hle := h.due_le_length hk hdrop
  refine ⟨?_, ?_⟩
  · rw [hreplied, List.map_take]
    exact List.take_prefix _ _
  · have hlength := congrArg List.length hreplied
    rw [List.length_map, List.length_map, List.length_take] at hlength
    rw [hdrop, List.length_drop]
    omega

/-- Two packets, and an ACK payload for each; the first ACK is lost. -/
def twoReplies : List RadioLinkOp :=
  [.dongle (.write ⟨1, false, [1]⟩), .dongle (.write ⟨1, false, [2]⟩),
    .keyboard (.write ⟨1, false, [7]⟩), .attempt true, .window false, .attempt true, .window true,
    .keyboard (.write ⟨1, false, [8]⟩), .attempt true, .window true, .keyboard .read]

theorem replied_prefix_twoReplies :
    let l := runFrom (radioLinkStep Config.default Config.default fun _ pid _ _ => pid.toUInt16)
      (RadioLink.up ⟨.ptx, false, 5, 570⟩ ⟨.prx, true, 5, 570⟩) twoReplies
    (on 1 (l.replied Config.default)).map Slot.message <+: (on 1 l.offered).map Slot.message ∧
      (on 1 l.offered).length ≤
        (on 1 (l.replied Config.default)).length + (l.dongle.ackQueue Config.default 1).length :=
  replied_prefix ⟨rfl, rfl, rfl, rfl⟩ rfl rfl
    (by simp [twoReplies, RadioLinkOp.Steady, DriverOp.Transmits, DriverOp.Keeps, DriverOp.Serves])
    (by decide) 1

end RadioLink

end EsbEndpoint
