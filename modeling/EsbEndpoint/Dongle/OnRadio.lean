import EsbEndpoint.Dongle.Main
import EsbEndpoint.Vendor.Progress

/-!
# The dongle's program on its radio

`esb_evt_handler` runs in the interrupt of the driver's events and reads
until there is nothing left, while the radio's own interrupt may come
between any two payloads. `evt` is that interrupt and `pass` one round of
the loop, with what the program writes. The receiver is taken as started.
-/

namespace EsbEndpoint

/-! ## Steps -/

/-- What the program makes of a payload. -/
def onSlot (d : Dongle) (slot : Slot) : Dongle := dongleOnPacket d slot.pipe slot.data

/-- The ACK payloads it writes meanwhile. -/
def acksFor (d : Dongle) (slot : Slot) : List EsbPayload :=
  ((onSlot d slot).ackPayloads.drop d.ackPayloads.length).map fun p => ⟨p.1, false, p.2⟩

/-- The radios, the dongle's program, and whether it is in the loop of
`esb_evt_handler`. -/
structure DongleLink where
  air : RadioLink
  dongle : Dongle
  handling : Bool := false

inductive DongleLinkOp
  /-- the keyboard, or the air -/
  | air (op : RadioLinkOp)
  | evt
  | pass

/-- The event interrupt, which enters the loop on `RX_RECEIVED`. -/
def DongleLink.evt (cfg cfg' : Config) (crc : Nat → Nat → Bool → List UInt8 → UInt16)
    (s : DongleLink) : DongleLink :=
  if s.handling then s
  else
    { s with
      air := radioLinkStep cfg cfg' crc s.air (.dongle .evt)
      handling := s.air.dongle.esbEvtIrqHandler.2.contains .rxReceived }

/-- A round of the loop: a payload is read and handled, or there is none
and the handler returns. -/
def DongleLink.pass (cfg cfg' : Config) (crc : Nat → Nat → Bool → List UInt8 → UInt16)
    (s : DongleLink) : DongleLink :=
  if s.handling then
    match s.air.dongle.esbReadRxPayload cfg' with
    | none => { s with handling := false }
    | some (slot, _) =>
      { s with
        air := runFrom (radioLinkStep cfg cfg' crc) s.air
          (.dongle .read :: (acksFor s.dongle slot).map fun p => .dongle (.write p))
        dongle := onSlot s.dongle slot }
  else s

def dongleLinkStep (cfg cfg' : Config) (crc : Nat → Nat → Bool → List UInt8 → UInt16)
    (s : DongleLink) : DongleLinkOp → DongleLink
  | .air op => { s with air := radioLinkStep cfg cfg' crc s.air op }
  | .evt => s.evt cfg cfg' crc
  | .pass => s.pass cfg cfg' crc

/-- The dongle's calls are those of its program, the keyboard's are steady. -/
def DongleLinkOp.Steady (cfg : Config) : DongleLinkOp → Prop
  | .air op => op.Steady cfg ∧ ∀ op', op ≠ .dongle op'
  | _ => True

/-- Both radios up, with the receiver started, and the program as `main`
leaves it. -/
def DongleLink.up (kcfg dcfg : EsbConfig) (myDeviceId : List UInt8) : DongleLink where
  air := RadioLink.up kcfg dcfg
  dongle := .start myDeviceId

namespace DongleLink

variable {cfg cfg' : Config} {crc : Nat → Nat → Bool → List UInt8 → UInt16}

/-! ## What the receiver flags -/

/-- A payload that has come is flagged, and no flag goes. -/
structure Flags (d d' : Driver) : Prop where
  came : d'.rxFifo = d.rxFifo ∨ d'.interruptFlags.rxDataReceived = true
  stays : d.interruptFlags.rxDataReceived = true → d'.interruptFlags.rxDataReceived = true

theorem Flags.refl (d : Driver) : Flags d d := ⟨Or.inl rfl, fun h => h⟩

theorem Flags.trans {d₁ d₂ d₃ : Driver} (h : Flags d₁ d₂) (h' : Flags d₂ d₃) : Flags d₁ d₃ := by
  refine ⟨?_, fun hflag => h'.stays (h.stays hflag)⟩
  rcases h'.came with hsame | hflag
  · rw [hsame]
    exact h.came.imp_right fun hflag => h'.stays hflag
  · exact Or.inr hflag

/-- The ACK leaves the receive FIFO and its flag alone. -/
theorem rx_onRadioDisabledRxDpl (d : Driver) (retransmitPayload : Bool) (pipe : Nat) (pdu : Pdu) :
    (d.onRadioDisabledRxDpl retransmitPayload pipe pdu).rxFifo = d.rxFifo ∧
      (d.onRadioDisabledRxDpl retransmitPayload pipe pdu).interruptFlags.rxDataReceived =
        d.interruptFlags.rxDataReceived := by
  unfold Driver.onRadioDisabledRxDpl
  dsimp only
  split
  · split
    · exact ⟨rfl, rfl⟩
    · exact ⟨rfl, rfl⟩
  · exact ⟨rfl, rfl⟩

/-- A packet that is stored is flagged. -/
theorem flags_deliver (d : Driver) (retransmitPayload : Bool) (pipe : Nat) (pdu : Pdu) :
    Flags d (d.deliver cfg' retransmitPayload pipe pdu) := by
  unfold Driver.deliver
  split
  · exact Flags.refl d
  · split
    · exact ⟨Or.inr rfl, fun _ => rfl⟩
    · exact Flags.refl d

theorem flags_noted (d : Driver) (pipe : Nat) (pdu : Pdu) : Flags d (d.noted crc pipe pdu) := by
  unfold Driver.noted
  dsimp only
  split
  · obtain ⟨hfifo, hflag⟩ := rx_onRadioDisabledRxDpl (d.setPipeInfo pipe
      { d.rxPipeInfo pipe with pid := pdu.pid, crc := crc pipe pdu.pid pdu.noAck pdu.data })
      (d.repeats crc pipe pdu) pipe pdu
    exact ⟨Or.inl hfifo, fun h => hflag.trans h⟩
  · exact ⟨Or.inl rfl, fun h => h⟩

theorem flags_onRadioDisabledRx (d : Driver) (pipe : Nat) (pdu : Pdu) :
    Flags d (d.onRadioDisabledRx cfg' crc pipe pdu) := by
  by_cases hroom : d.rxFifo.count < cfg'.esbRxFifoSize
  · rw [Driver.onRadioDisabledRx_eq hroom]
    exact (flags_noted d pipe pdu).trans (flags_deliver _ _ pipe pdu)
  · have hfull : d.onRadioDisabledRx cfg' crc pipe pdu = d := if_pos (Nat.le_of_not_lt hroom)
    rw [hfull]
    exact Flags.refl d

/-- **The radio's interrupt flags what it stores.** -/
theorem flags_onRadioDisabled {d : Driver} (h : d.PrxSound cfg') (received : Option (Nat × Pdu)) :
    Flags d (d.onRadioDisabled cfg' crc received) := by
  unfold Driver.onRadioDisabled
  rcases h.state with hstate | hstate | hstate
  · rw [hstate]
    exact Flags.refl d
  · rw [hstate]
    cases received with
    | none => exact Flags.refl d
    | some packet => exact flags_onRadioDisabledRx d packet.1 packet.2
  · rw [hstate]
    exact ⟨Or.inl rfl, fun h => h⟩

/-- What the air does to the receiver is flagged, and read by no one. -/
theorem flags_air {l : RadioLink} (h : l.dongle.PrxSound cfg') {op : RadioLinkOp}
    (hop : ∀ op', op ≠ .dongle op') :
    Flags l.dongle (radioLinkStep cfg cfg' crc l op).dongle ∧
      (radioLinkStep cfg cfg' crc l op).read = l.read := by
  have hsettled := (@Driver.PrxSound.settled cfg' crc l.dongle h).1
  have hnone := @flags_onRadioDisabled cfg' crc l.dongle h none
  have hheard : ∀ (heard : Bool) (packet : Nat × Pdu), Flags l.dongle
      (if heard then
        (l.dongle.onRadioDisabled cfg' crc none).onRadioDisabled cfg' crc (some packet)
      else l.dongle.onRadioDisabled cfg' crc none) := by
    intro heard packet
    cases heard with
    | true => exact hnone.trans (flags_onRadioDisabled hsettled _)
    | false => exact hnone
  cases op with
  | keyboard op => exact ⟨Flags.refl l.dongle, rfl⟩
  | dongle op => exact absurd rfl (hop op)
  | attempt heard =>
    unfold radioLinkStep
    cases l.keyboard.state with
    | ptxTx => exact ⟨hheard heard _, rfl⟩
    | ptxTxAck => exact ⟨hheard heard _, rfl⟩
    | _ => exact ⟨Flags.refl l.dongle, rfl⟩
  | window arrives =>
    unfold radioLinkStep
    cases l.keyboard.state with
    | ptxRxAck => exact ⟨hnone, rfl⟩
    | _ => exact ⟨Flags.refl l.dongle, rfl⟩

/-! ## Runs -/

/-- **What the program is, and what it has still to see**: it has handled
what it has read, and while anything is left to read it is in its loop or
the driver has an event for it. -/
structure Forwarded (cfg cfg' : Config) (crc : Nat → Nat → Bool → List UInt8 → UInt16)
    (start : Dongle) (s : DongleLink) : Prop where
  exact : RadioLink.Exact cfg cfg' crc s.air
  dongle : s.dongle = s.air.read.foldl onSlot start
  served : s.air.dongle.rxFifo.count ≠ 0 →
    s.handling = true ∨ s.air.dongle.interruptFlags.rxDataReceived = true

variable {start : Dongle} {s : DongleLink}

theorem Forwarded.air_step (h : Forwarded cfg cfg' crc start s)
    (hmax : cfg.esbMaxPayloadLength ≤ cfg'.esbMaxPayloadLength) {op : RadioLinkOp}
    (hop : op.Steady cfg) (hair : ∀ op', op ≠ .dongle op') :
    Forwarded cfg cfg' crc start (dongleLinkStep cfg cfg' crc s (.air op)) := by
  obtain ⟨hflags, hread⟩ := @flags_air cfg cfg' crc s.air h.exact.dongle op hair
  refine ⟨h.exact.step hmax hop, ?_, fun hcount => ?_⟩
  · show s.dongle = (radioLinkStep cfg cfg' crc s.air op).read.foldl onSlot start
    rw [hread]
    exact h.dongle
  · rcases hflags.came with hsame | hflag
    · have hold : s.air.dongle.rxFifo.count ≠ 0 := hsame ▸ hcount
      exact (h.served hold).imp_right hflags.stays
    · exact Or.inr hflag

theorem Forwarded.evt_step (h : Forwarded cfg cfg' crc start s) :
    Forwarded cfg cfg' crc start (s.evt cfg cfg' crc) := by
  unfold DongleLink.evt
  by_cases hhandling : s.handling = true
  · rw [if_pos hhandling]
    exact h
  · rw [if_neg hhandling]
    refine ⟨h.exact.dongle_step trivial, ?_, fun hcount => Or.inl ?_⟩
    · rw [h.dongle]
      exact congrArg (List.foldl onSlot start) (List.append_nil _).symm
    · have hflag := (h.served hcount).resolve_left hhandling
      simp [Driver.esbEvtIrqHandler, hflag]

/-- The program's writes read nothing. -/
theorem read_writes (l : RadioLink) (ps : List EsbPayload) :
    (runFrom (radioLinkStep cfg cfg' crc) l (ps.map fun p => .dongle (.write p))).read = l.read := by
  induction ps generalizing l with
  | nil => rfl
  | cons p ps ih => exact (ih _).trans (List.append_nil _)

theorem Forwarded.pass_step (h : Forwarded cfg cfg' crc start s)
    (hmax : cfg.esbMaxPayloadLength ≤ cfg'.esbMaxPayloadLength) :
    Forwarded cfg cfg' crc start (s.pass cfg cfg' crc) := by
  unfold DongleLink.pass
  by_cases hhandling : s.handling = true
  · rw [if_pos hhandling]
    cases hread : s.air.dongle.esbReadRxPayload cfg' with
    | none =>
      refine ⟨h.exact, h.dongle, fun hcount => ?_⟩
      -- the loop ends at an empty FIFO
      unfold Driver.esbReadRxPayload at hread
      rw [if_neg (by rw [h.exact.dongle.initialized]; simp), if_neg hcount] at hread
      exact absurd hread (by simp)
    | some out =>
      have hsteady : ∀ op ∈ (RadioLinkOp.dongle .read ::
          (acksFor s.dongle out.1).map fun p => .dongle (.write p)), op.Steady cfg := by
        intro op hop
        rcases List.mem_cons.1 hop with rfl | hwrite
        · exact ⟨trivial, by simp⟩
        · obtain ⟨p, -, rfl⟩ := List.mem_map.1 hwrite
          exact ⟨trivial, by simp⟩
      refine ⟨h.exact.run hmax hsteady, ?_, fun _ => Or.inl hhandling⟩
      have hslot : (radioLinkStep cfg cfg' crc s.air (.dongle .read)).read =
          s.air.read ++ [out.1] := by
        unfold radioLinkStep driverStep
        dsimp only
        rw [hread]
        rfl
      have hreads : (runFrom (radioLinkStep cfg cfg' crc) s.air (RadioLinkOp.dongle .read ::
          (acksFor s.dongle out.1).map fun p => .dongle (.write p))).read =
            s.air.read ++ [out.1] := by
        rw [runFrom_cons, read_writes, hslot]
      show onSlot s.dongle out.1 = _
      rw [hreads, List.foldl_append, ← h.dongle]
      rfl
  · rw [if_neg hhandling]
    exact h

theorem Forwarded.run (h : Forwarded cfg cfg' crc start s)
    (hmax : cfg.esbMaxPayloadLength ≤ cfg'.esbMaxPayloadLength) {ops : List DongleLinkOp}
    (hops : ∀ op ∈ ops, op.Steady cfg) :
    Forwarded cfg cfg' crc start (runFrom (dongleLinkStep cfg cfg' crc) s ops) := by
  induction ops generalizing s with
  | nil => exact h
  | cons op ops ih =>
    have hrest : ∀ op' ∈ ops, op'.Steady cfg := fun op' hop' =>
      hops op' (List.mem_cons_of_mem op hop')
    have hop := hops op List.mem_cons_self
    rw [runFrom_cons]
    cases op with
    | air op => exact ih (h.air_step hmax hop.1 hop.2) hrest
    | evt => exact ih h.evt_step hrest
    | pass => exact ih (h.pass_step hmax) hrest

/-- **From the keyboard's writes to the host's reports.** Where the receiver
is started, takes payloads as long as the keyboard's (`hmax`) and is called
by its program alone, and the keyboard's calls are steady, the dongle's
program is what the first packets the keyboard wrote make of it, each
handled once and in order. The others are in one of the two FIFOs, and none
waits in the dongle's without an event to come. -/
theorem dongle_of_written {kcfg dcfg : EsbConfig}
    (hkeyboard : DriverOp.Transmits cfg (.init kcfg)) (hdongle : dcfg.mode = .prx)
    (hmax : cfg.esbMaxPayloadLength ≤ cfg'.esbMaxPayloadLength) (myDeviceId : List UInt8)
    {ops : List DongleLinkOp} (hops : ∀ op ∈ ops, op.Steady cfg) :
    let s := runFrom (dongleLinkStep cfg cfg' crc) (DongleLink.up kcfg dcfg myDeviceId) ops
    ∃ handled, s.dongle = (s.air.written.take handled).foldl onSlot (.start myDeviceId) ∧
      s.air.written.length ≤
        handled + s.air.dongle.rxFifo.count + s.air.keyboard.txFifo.count ∧
      (s.air.dongle.rxFifo.count ≠ 0 →
        s.handling = true ∨ s.air.dongle.interruptFlags.rxDataReceived = true) := by
  intro s
  have hup : Forwarded cfg cfg' crc (.start myDeviceId) (DongleLink.up kcfg dcfg myDeviceId) :=
    ⟨RadioLink.exact_up cfg cfg' crc hkeyboard hdongle, rfl, fun hcount => absurd rfl hcount⟩
  have h : Forwarded cfg cfg' crc (.start myDeviceId) s := hup.run hmax hops
  have hadd := h.exact.sender.gone_add
  have hge := h.exact.paced.gone_le
  have hdelivered : s.air.delivered cfg' =
      s.air.read ++ s.air.dongle.rxFifo.contents cfg'.esbRxFifoSize := rfl
  have hlength : (s.air.delivered cfg').length =
      s.air.read.length + s.air.dongle.rxFifo.count := by
    rw [hdelivered, List.length_append, WrapFifo.length_contents]
  have hprefix : s.air.read <+: s.air.written :=
    (List.prefix_append _ _).trans (hdelivered ▸ h.exact.isPrefix)
  refine ⟨s.air.read.length, ?_, by omega, h.served⟩
  rw [← List.prefix_iff_eq_take.1 hprefix]
  exact h.dongle

/-- A keyboard is paired and sends a report, which waits in the dongle's
FIFO while the first two packets are handled. -/
def pairedAndTyping : List DongleLinkOp :=
  [.air (.keyboard (.write ⟨0, false, esbPktBeacon :: List.replicate 7 1⟩)),
    .air (.attempt true), .air (.window true), .evt, .pass,
    .air (.keyboard (.write ⟨0, false, esbPktPairResp :: List.replicate 7 1⟩)),
    .air (.keyboard (.write ⟨1, false, [esbPktHidReport, esbReportKeyboard, 0, 0, 4]⟩)),
    .air (.attempt true), .air (.window false), .air (.attempt true), .air (.window true),
    .air (.attempt true), .pass, .air (.window true), .pass, .pass, .evt]

theorem dongle_of_written_pairedAndTyping :
    let s := runFrom (dongleLinkStep Config.default Config.default fun _ pid _ _ => pid.toUInt16)
      (DongleLink.up ⟨.ptx, false, 5, 570⟩ ⟨.prx, true, 5, 570⟩ []) pairedAndTyping
    ∃ handled, s.dongle = (s.air.written.take handled).foldl onSlot (.start []) ∧
      s.air.written.length ≤
        handled + s.air.dongle.rxFifo.count + s.air.keyboard.txFifo.count ∧
      (s.air.dongle.rxFifo.count ≠ 0 →
        s.handling = true ∨ s.air.dongle.interruptFlags.rxDataReceived = true) :=
  dongle_of_written ⟨rfl, rfl, rfl, rfl⟩ rfl (Nat.le_refl _) []
    (by simp [pairedAndTyping, DongleLinkOp.Steady, RadioLinkOp.Steady, DriverOp.Transmits,
      DriverOp.Keeps])

/-! ## As `main` leaves the receiver -/

/-- `esb_dongle_init`, which does not start it. -/
def esbDongleInit (cfg' : Config) : Driver :=
  ((Driver.boot.esbInit ⟨.prx, true, 5, 570⟩).esbSetRfChannel cfg' 78).1

theorem state_esbDongleInit (cfg' : Config) : (esbDongleInit cfg').state = .idle := by
  rw [esbDongleInit, Driver.esbSetRfChannel, if_neg (by decide)]
  simp [Driver.esbInit]

/-- No event is up. -/
theorem evt_esbDongleInit (cfg' : Config) :
    (esbDongleInit cfg').esbEvtIrqHandler = (esbDongleInit cfg', []) := by
  rw [esbDongleInit, Driver.esbSetRfChannel, if_neg (by decide)]
  simp [Driver.esbInit, Driver.esbEvtIrqHandler]

/-- An idle receiver hears nothing. -/
theorem onRadioDisabled_of_idle {d : Driver} (h : d.state = .idle)
    (received : Option (Nat × Pdu)) : d.onRadioDisabled cfg' crc received = d := by
  unfold Driver.onRadioDisabled
  rw [h]

/-- Nor does it answer. -/
theorem dongle_of_idle {l : RadioLink} (h : l.dongle.state = .idle) {op : RadioLinkOp}
    (hop : ∀ op', op ≠ .dongle op') :
    (radioLinkStep cfg cfg' crc l op).dongle = l.dongle := by
  have hdeaf := @onRadioDisabled_of_idle cfg' crc l.dongle h
  cases op with
  | keyboard op => rfl
  | dongle op => exact absurd rfl (hop op)
  | attempt heard =>
    unfold radioLinkStep
    cases l.keyboard.state with
    | ptxTx => simp only [hdeaf, ite_self]
    | ptxTxAck => simp only [hdeaf, ite_self]
    | _ => rfl
  | window arrives =>
    unfold radioLinkStep
    cases l.keyboard.state with
    | ptxRxAck => exact hdeaf none
    | _ => rfl

/-- The receiver and its program are as `main` left them. -/
structure Deaf (cfg' : Config) (myDeviceId : List UInt8) (s : DongleLink) : Prop where
  receiver : s.air.dongle = esbDongleInit cfg'
  program : s.dongle = .start myDeviceId
  handling : s.handling = false

theorem Deaf.step {myDeviceId : List UInt8} (h : Deaf cfg' myDeviceId s) {op : DongleLinkOp}
    (hop : ∀ op', op ≠ .air (.dongle op')) :
    Deaf cfg' myDeviceId (dongleLinkStep cfg cfg' crc s op) := by
  have hidle : s.air.dongle.state = .idle := h.receiver ▸ state_esbDongleInit cfg'
  cases op with
  | air op =>
    have hair : ∀ op', op ≠ .dongle op' := fun op' heq => hop op' (congrArg _ heq)
    exact ⟨(dongle_of_idle hidle hair).trans h.receiver, h.program, h.handling⟩
  | evt =>
    have hevt := evt_esbDongleInit cfg'
    rw [← h.receiver] at hevt
    show Deaf cfg' myDeviceId (s.evt cfg cfg' crc)
    unfold DongleLink.evt
    rw [if_neg (by rw [h.handling]; simp)]
    refine ⟨(congrArg Prod.fst hevt).trans h.receiver, h.program, ?_⟩
    rw [hevt]
    rfl
  | pass =>
    show Deaf cfg' myDeviceId (s.pass cfg cfg' crc)
    unfold DongleLink.pass
    rw [if_neg (by rw [h.handling]; simp)]
    exact h

theorem Deaf.run {myDeviceId : List UInt8} (h : Deaf cfg' myDeviceId s) {ops : List DongleLinkOp}
    (hops : ∀ op ∈ ops, ∀ op', op ≠ .air (.dongle op')) :
    Deaf cfg' myDeviceId (runFrom (dongleLinkStep cfg cfg' crc) s ops) := by
  induction ops generalizing s with
  | nil => exact h
  | cons op ops ih =>
    exact ih (h.step (hops op List.mem_cons_self))
      fun op' hop' => hops op' (List.mem_cons_of_mem op hop')

/-- **The dongle as `main` leaves it is deaf.** No call starts its
receiver, so whatever keyboard transmits and whatever the air lets through,
nothing is ever read, handled or acknowledged, and the program stays as it
began. -/
theorem deaf (cfg cfg' : Config) (crc : Nat → Nat → Bool → List UInt8 → UInt16)
    (keyboard : Driver) (myDeviceId : List UInt8) {ops : List DongleLinkOp}
    (hops : ∀ op ∈ ops, ∀ op', op ≠ .air (.dongle op')) :
    let s := runFrom (dongleLinkStep cfg cfg' crc)
      ⟨⟨keyboard, esbDongleInit cfg', [], [], [], []⟩, .start myDeviceId, false⟩ ops
    s.air.dongle = esbDongleInit cfg' ∧ s.dongle = .start myDeviceId ∧
      ∀ op, true ∉ s.air.answer op := by
  intro s
  have h : Deaf cfg' myDeviceId s := Deaf.run ⟨rfl, rfl, rfl⟩ hops
  refine ⟨h.receiver, h.program, fun op => ?_⟩
  have hidle : s.air.dongle.state = .idle := h.receiver ▸ state_esbDongleInit cfg'
  cases op with
  | window arrives =>
    unfold RadioLink.answer
    dsimp only
    split
    · rw [hidle]
      simp
    · exact List.not_mem_nil
  | _ => exact List.not_mem_nil

/-- Nobody answers the beacon. -/
theorem deaf_pairedAndTyping :
    let s := runFrom (dongleLinkStep Config.default Config.default fun _ pid _ _ => pid.toUInt16)
      ⟨⟨Driver.boot.esbInit ⟨.ptx, false, 5, 570⟩, esbDongleInit Config.default, [], [], [], []⟩,
        .start [], false⟩ pairedAndTyping
    s.air.dongle = esbDongleInit Config.default ∧ s.dongle = .start [] ∧
      ∀ op, true ∉ s.air.answer op :=
  deaf _ _ _ _ _ (by simp [pairedAndTyping])

end DongleLink

end EsbEndpoint
