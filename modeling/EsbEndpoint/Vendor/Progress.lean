import EsbEndpoint.Common.Losses
import EsbEndpoint.Vendor.Reliable

/-!
# The link makes progress

On a link without interference a wait for an ACK ends with it or without
(`answers`). Where no more waits in a row go without than the radio has
retransmissions, the transmitter never gives a packet up: it is at work
until all is delivered, and has at most so many waits for each payload.
-/

namespace EsbEndpoint

/-- A call that leaves the radio at least `n` retransmissions. -/
def RadioLinkOp.Insists (n : Nat) : RadioLinkOp → Prop
  | .keyboard (.setRetransmitCount count) => n ≤ count
  | _ => True

namespace RadioLink

/-- How a wait for an ACK ends. -/
def answer (l : RadioLink) : RadioLinkOp → List Bool
  | .window arrives =>
    if l.keyboard.state = .ptxRxAck then [arrives && l.dongle.state == .prxSendAck] else []
  | _ => []

/-- How the waits of a run end. -/
def answers (cfg cfg' : Config) (crc : Nat → Nat → Bool → List UInt8 → UInt16) (l : RadioLink) :
    List RadioLinkOp → List Bool
  | [] => []
  | op :: ops => l.answer op ++ answers cfg cfg' crc (radioLinkStep cfg cfg' crc l op) ops

/-- **The transmitter goes on trying**, `k` waits after the last ACK: it is
at work or has nothing to do, and what it has left covers what can still be
lost. -/
structure Trying (n k : Nat) (d : Driver) : Prop where
  rests : d.Active ∨ d.state = .idle ∧ d.txFifo.count = 0
  count_le : n ≤ d.esbCfg.retransmitCount
  left : d.Active → n ≤ d.retransmitsRemaining + k
  fresh : ¬ d.Active → k = 0
  unfailed : d.interruptFlags.txFailed = false

variable {cfg cfg' : Config} {crc : Nat → Nat → Bool → List UInt8 → UInt16} {d d' : Driver}
  {l : RadioLink} {n k : Nat}

/-- The radio is idle, so nothing is under way. -/
theorem not_active_of_idle (h : d.state = .idle) : ¬ d.Active := by
  unfold Driver.Active
  rw [h]
  simp

/-- A packet that is started has all its retransmissions. -/
theorem trying_startTxTransaction (hack : d.startTxTransaction.state ≠ .ptxTx)
    (hcount : n ≤ d.esbCfg.retransmitCount) (hflag : d.interruptFlags.txFailed = false) :
    Trying n k d.startTxTransaction := by
  unfold Driver.startTxTransaction at hack ⊢
  dsimp only at hack ⊢
  split
  · have hactive : ∀ d' : Driver, d'.state = .ptxTxAck → d'.Active := fun d' h => Or.inr (Or.inl h)
    exact ⟨Or.inl (hactive _ rfl), hcount, fun _ => Nat.le_add_right_of_le hcount,
      fun hquiet => absurd (hactive _ rfl) hquiet, hflag⟩
  · rename_i hno
    rw [if_neg hno] at hack
    exact absurd rfl hack

/-- A step that leaves all this alone. -/
theorem Trying.of_same (h : Trying n k d) (hstate : d'.state = d.state)
    (hfifo : d'.txFifo = d.txFifo) (hcfg : d'.esbCfg.retransmitCount = d.esbCfg.retransmitCount)
    (hleft : d'.retransmitsRemaining = d.retransmitsRemaining)
    (hflag : d'.interruptFlags.txFailed = false) : Trying n k d' := by
  have hactive : d'.Active ↔ d.Active := by
    unfold Driver.Active
    rw [hstate]
  refine ⟨?_, hcfg ▸ h.count_le, fun ha => ?_, fun hq => h.fresh (mt hactive.2 hq), hflag⟩
  · rw [hactive, hstate, hfifo]
    exact h.rests
  · rw [hleft]
    exact h.left (hactive.1 ha)

/-- **A call leaves the transmitter trying.** -/
theorem Trying.call (h : Trying n k d) (hsound : d.PtxSound cfg) {op : DriverOp}
    (hop : op.Transmits cfg) (hkeeps : op.Keeps)
    (hinsists : (RadioLinkOp.keyboard op).Insists n)
    (hack : (driverStep cfg crc d op).1.state ≠ .ptxTx) :
    Trying n k (driverStep cfg crc d op).1 := by
  cases op with
  | write p =>
    change (d.esbWritePayload cfg p).1.state ≠ .ptxTx at hack
    show Trying n k (d.esbWritePayload cfg p).1
    unfold Driver.esbWritePayload at hack ⊢
    cases herr : d.writeError cfg p with
    | some err => exact h
    | none =>
      rw [herr, hsound.mode] at hack
      rw [hsound.mode]
      dsimp only at hack ⊢
      split
      · rename_i hready
        rw [if_pos hready] at hack
        exact trying_startTxTransaction hack h.count_le h.unfailed
      · rename_i hbusy
        -- a radio that is not ready is at work on an older packet
        have hactive : d.Active := h.rests.resolve_right fun hidle =>
          hbusy (by rw [Driver.readyToStart, Driver.enqueue]; simp [hidle.1])
        exact ⟨Or.inl hactive, h.count_le, fun _ => h.left hactive,
          fun hquiet => absurd hactive hquiet, h.unfailed⟩
  | read =>
    unfold driverStep
    cases hread : d.esbReadRxPayload cfg with
    | none => exact h
    | some out =>
      unfold Driver.esbReadRxPayload at hread
      split at hread
      · exact absurd hread (by simp)
      · split at hread
        · exact absurd hread (by simp)
        · obtain rfl := Option.some.inj hread
          exact h.of_same rfl rfl rfl rfl h.unfailed
  | setRfChannel channel =>
    show Trying n k (d.esbSetRfChannel cfg channel).1
    unfold Driver.esbSetRfChannel
    split
    · exact h
    · split
      · exact h
      · exact h.of_same rfl rfl rfl rfl h.unfailed
  | setRetransmitDelay delay =>
    show Trying n k (d.esbSetRetransmitDelay delay).1
    unfold Driver.esbSetRetransmitDelay
    split
    · exact h
    · split
      · exact h
      · exact h.of_same rfl rfl rfl rfl h.unfailed
  | setRetransmitCount count =>
    show Trying n k (d.esbSetRetransmitCount count).1
    unfold Driver.esbSetRetransmitCount
    split
    · exact h
    · rename_i hidle
      have hstate : d.state = .idle := by simpa using hidle
      have hquiet : ¬ d.Active := not_active_of_idle hstate
      exact ⟨h.rests, hinsists, fun hactive => absurd hactive hquiet, h.fresh, h.unfailed⟩
  | evt => exact h.of_same rfl rfl rfl rfl rfl
  | startRx => exact absurd hop fun hno => hno
  | flushTx => exact absurd hkeeps fun hno => hno
  | init esbCfg => exact absurd hkeeps fun hno => hno
  | disable => exact absurd hkeeps fun hno => hno
  | radio received => exact absurd hkeeps fun hno => hno

/-- What an ACK's payload leaves alone. -/
theorem takeReply_frame (pdu : Pdu) :
    (d.takeReply cfg pdu).esbCfg = d.esbCfg ∧
      (d.takeReply cfg pdu).interruptFlags.txFailed = d.interruptFlags.txFailed := by
  unfold Driver.takeReply Driver.rxFifoPushRfbuf
  split
  · split
    · rename_i d' hsome
      split at hsome
      · exact absurd hsome (by simp)
      · split at hsome
        · exact absurd hsome (by simp)
        · obtain rfl := Option.some.inj hsome
          exact ⟨rfl, rfl⟩
    · exact ⟨rfl, rfl⟩
  · exact ⟨rfl, rfl⟩

/-- **An ACK ends the losses.** -/
theorem Trying.acked (h : Trying n k d) (pdu : Pdu)
    (hack : (d.onRadioDisabledTxWaitForAck cfg (some pdu)).state ≠ .ptxTx) :
    Trying n 0 (d.onRadioDisabledTxWaitForAck cfg (some pdu)) := by
  obtain ⟨hcfg, hflag⟩ := @takeReply_frame cfg (d.ackReceived cfg) pdu
  have hcount : n ≤ ((d.ackReceived cfg).takeReply cfg pdu).esbCfg.retransmitCount :=
    hcfg ▸ h.count_le
  have hunfailed : ((d.ackReceived cfg).takeReply cfg pdu).interruptFlags.txFailed = false :=
    hflag.trans h.unfailed
  change (((d.ackReceived cfg).takeReply cfg pdu).startNextOr .idle).state ≠ .ptxTx at hack
  show Trying n 0 (((d.ackReceived cfg).takeReply cfg pdu).startNextOr .idle)
  generalize (d.ackReceived cfg).takeReply cfg pdu = d₁ at hack hcount hunfailed ⊢
  unfold Driver.startNextOr at hack ⊢
  split
  · rename_i hempty
    exact ⟨Or.inr ⟨rfl, hempty⟩, hcount,
      fun hactive => absurd hactive (not_active_of_idle rfl), fun _ => rfl, hunfailed⟩
  · rename_i hne
    rw [if_neg hne] at hack
    exact trying_startTxTransaction hack hcount hunfailed

/-- **A loss that is borne**: a retransmission is left for it. -/
theorem Trying.lost (h : Trying n k d) (hstate : d.state = .ptxRxAck) (hk : k < n) :
    Trying n (k + 1) (d.onRadioDisabledTxWaitForAck cfg none) := by
  have hleft := h.left (Or.inr (Or.inr hstate))
  have hremaining : d.retransmitsRemaining ≠ 0 := by omega
  unfold Driver.onRadioDisabledTxWaitForAck
  dsimp only
  rw [if_neg hremaining]
  refine ⟨Or.inl (Or.inr (Or.inl rfl)), h.count_le, fun _ => ?_, fun hquiet => ?_, h.unfailed⟩
  · dsimp only
    omega
  · exact absurd (Or.inr (Or.inl rfl)) hquiet

theorem answer_window (hstate : l.keyboard.state = .ptxRxAck) {arrives : Bool} :
    l.answer (.window arrives) = [arrives && l.dongle.state == .prxSendAck] := if_pos hstate

theorem answer_of_ne (hstate : l.keyboard.state ≠ .ptxRxAck) {arrives : Bool} :
    l.answer (.window arrives) = [] := if_neg hstate

/-- The transmitter once a wait has ended. -/
theorem keyboard_window (hstate : l.keyboard.state = .ptxRxAck) {arrives : Bool} :
    (radioLinkStep cfg cfg' crc l (.window arrives)).keyboard =
      l.keyboard.onRadioDisabledTxWaitForAck cfg
        (if arrives = true ∧ l.dongle.state = .prxSendAck then some l.dongle.txPayloadBuffer
        else none) := by
  unfold radioLinkStep Driver.onRadioDisabled
  rw [hstate]
  dsimp only
  split <;> rfl

theorem window_of_ne (hstate : l.keyboard.state ≠ .ptxRxAck) {arrives : Bool} :
    radioLinkStep cfg cfg' crc l (.window arrives) = l := by
  unfold radioLinkStep
  cases hcases : l.keyboard.state with
  | ptxRxAck => exact absurd hcases hstate
  | _ => rfl

/-- **A step, with how the wait it ends went.** -/
theorem Trying.step (hx : Exact cfg cfg' crc l) (h : Trying n k l.keyboard)
    (hmax : cfg.esbMaxPayloadLength ≤ cfg'.esbMaxPayloadLength) {op : RadioLinkOp}
    (hop : op.Steady cfg) (hinsists : op.Insists n) (hlost : LossesAtMost n k (l.answer op)) :
    Trying n (lossesAfter k (l.answer op)) (radioLinkStep cfg cfg' crc l op).keyboard := by
  have hack := (hx.step hmax hop).paced.state
  cases op with
  | keyboard op => exact h.call hx.sender.sound hop.1 hop.2.1 hinsists hack
  | dongle op => exact h
  | attempt heard =>
    show Trying n k _
    unfold radioLinkStep
    cases hstate : l.keyboard.state with
    | ptxTx => exact absurd hstate hx.paced.state
    | ptxTxAck =>
      have hdef : l.keyboard.onRadioDisabled cfg crc none = l.keyboard.onRadioDisabledTx := by
        unfold Driver.onRadioDisabled
        rw [hstate]
      have hactive : l.keyboard.Active := Or.inr (Or.inl hstate)
      dsimp only
      rw [hdef]
      exact ⟨Or.inl (Or.inr (Or.inr rfl)), h.count_le, fun _ => h.left hactive,
        fun hquiet => absurd (Or.inr (Or.inr rfl)) hquiet, h.unfailed⟩
    | _ => exact h
  | window arrives =>
    by_cases hstate : l.keyboard.state = .ptxRxAck
    · rw [answer_window hstate] at hlost ⊢
      rw [keyboard_window hstate] at hack ⊢
      by_cases hgot : arrives = true ∧ l.dongle.state = .prxSendAck
      · have htrue : (arrives && l.dongle.state == .prxSendAck) = true := by
          rw [hgot.1, hgot.2]
          rfl
        rw [if_pos hgot] at hack ⊢
        rw [htrue]
        exact h.acked l.dongle.txPayloadBuffer hack
      · have hfalse : (arrives && l.dongle.state == .prxSendAck) = false := by
          rw [← Bool.not_eq_true, Bool.and_eq_true, beq_iff_eq]
          exact hgot
        rw [hfalse] at hlost ⊢
        rw [if_neg hgot]
        exact h.lost hstate hlost.1
    · rw [window_of_ne hstate, answer_of_ne hstate]
      exact h

/-- **What has gone grows with the ACKs.** -/
theorem gone_step (hx : Exact cfg cfg' crc l)
    (hmax : cfg.esbMaxPayloadLength ≤ cfg'.esbMaxPayloadLength) {op : RadioLinkOp}
    (hop : op.Steady cfg) :
    gone (radioLinkStep cfg cfg' crc l op).keyboard (radioLinkStep cfg cfg' crc l op).written =
      gone l.keyboard l.written + (l.answer op).count true := by
  have hsender := (hx.step hmax hop).sender
  cases op with
  | keyboard op =>
    have hcall : ∀ received, op ≠ .radio received := by
      rintro received rfl
      exact hop.2.1
    have hcalled := @Driver.called_driverStep cfg l.keyboard crc hx.sender.sound op hop.1 hcall
    exact gone_of_append hx.sender (hcalled.keeps hop.2.1).1
  | dongle op => rfl
  | attempt heard =>
    show _ = gone l.keyboard l.written
    unfold radioLinkStep
    cases hstate : l.keyboard.state with
    | ptxTx => exact absurd hstate hx.paced.state
    | ptxTxAck =>
      have hfifo : (l.keyboard.onRadioDisabled cfg crc none).txFifo = l.keyboard.txFifo := by
        unfold Driver.onRadioDisabled
        rw [hstate]
        rfl
      show gone (l.keyboard.onRadioDisabled cfg crc none) l.written = _
      rw [gone, gone, hfifo]
    | _ => rfl
  | window arrives =>
    by_cases hstate : l.keyboard.state = .ptxRxAck
    · have hwritten : (radioLinkStep cfg cfg' crc l (.window arrives)).written = l.written := by
        unfold radioLinkStep
        rw [hstate]
      rw [hwritten] at hsender ⊢
      rw [keyboard_window hstate] at hsender ⊢
      rw [answer_window hstate]
      by_cases hgot : arrives = true ∧ l.dongle.state = .prxSendAck
      · rw [if_pos hgot] at hsender ⊢
        have hahead := hx.paced.answered hstate hgot.2
        have hleft := (Driver.left_acked hx.sender.sound l.dongle.txPayloadBuffer).2
        have hnext := (hx.paced.of_left hx.sender hsender hx.numbered hahead hleft).2
        rw [hgot.1, hgot.2, ← hnext, hahead]
        rfl
      · have hfalse : (arrives && l.dongle.state == .prxSendAck) = false := by
          rw [← Bool.not_eq_true, Bool.and_eq_true, beq_iff_eq]
          exact hgot
        obtain ⟨-, state, flags, remaining, attempts, heq⟩ := @Driver.lost_spec cfg l.keyboard
        rw [if_neg hgot, hfalse, heq]
        rfl
    · rw [window_of_ne hstate, answer_of_ne hstate]
      rfl

/-! ## Runs -/

/-- At rest, all is delivered. -/
theorem Trying.delivered (hx : Exact cfg cfg' crc l) (h : Trying n k l.keyboard) :
    l.keyboard.Active ∨ l.delivered cfg' = l.written := by
  refine h.rests.imp_right fun hidle => ?_
  have hadd := hx.sender.gone_add
  have hle := hx.paced.gone_le
  exact hx.isPrefix.eq_of_length_le (by omega)

/-- **The run lemma.** -/
theorem Trying.run (hx : Exact cfg cfg' crc l) (h : Trying n k l.keyboard)
    (hmax : cfg.esbMaxPayloadLength ≤ cfg'.esbMaxPayloadLength) {ops : List RadioLinkOp}
    (hops : ∀ op ∈ ops, op.Steady cfg) (hinsists : ∀ op ∈ ops, op.Insists n)
    (hlost : LossesAtMost n k (answers cfg cfg' crc l ops)) :
    Throughout (radioLinkStep cfg cfg' crc)
        (fun l => Exact cfg cfg' crc l ∧ ∃ k, Trying n k l.keyboard) l ops ∧
      Trying n (lossesAfter k (answers cfg cfg' crc l ops))
        (runFrom (radioLinkStep cfg cfg' crc) l ops).keyboard ∧
      gone (runFrom (radioLinkStep cfg cfg' crc) l ops).keyboard
          (runFrom (radioLinkStep cfg cfg' crc) l ops).written =
        gone l.keyboard l.written + (answers cfg cfg' crc l ops).count true := by
  induction ops generalizing l k with
  | nil => exact ⟨⟨hx, k, h⟩, h, rfl⟩
  | cons op ops ih =>
    obtain ⟨hfirst, hrest⟩ := lossesAtMost_append.1 hlost
    have hop := hops op List.mem_cons_self
    obtain ⟨hthroughout, hlast, hgone⟩ :=
      ih (hx.step hmax hop) (h.step hx hmax hop (hinsists op List.mem_cons_self) hfirst)
        (fun op' hop' => hops op' (List.mem_cons_of_mem op hop'))
        (fun op' hop' => hinsists op' (List.mem_cons_of_mem op hop')) hrest
    have hanswers : answers cfg cfg' crc l (op :: ops) = l.answer op ++
        answers cfg cfg' crc (radioLinkStep cfg cfg' crc l op) ops := rfl
    refine ⟨⟨⟨hx, k, h⟩, hthroughout⟩, ?_, ?_⟩
    · rw [hanswers, lossesAfter_append]
      exact hlast
    · rw [hanswers, List.count_append, ← Nat.add_assoc, ← gone_step hx hmax hop]
      exact hgone

/-- No more waits than payloads times `n + 1`. -/
theorem Trying.length_answers_le (hx : Exact cfg cfg' crc l) {outcomes : List Bool}
    (h : Trying n (lossesAfter 0 outcomes) l.keyboard) (hlost : LossesAtMost n 0 outcomes)
    (hgone : gone l.keyboard l.written = outcomes.count true) :
    outcomes.length ≤ (n + 1) * l.written.length := by
  have hlength := hlost.length_le (Nat.zero_le n)
  have hlosses := hlost.lossesAfter_le (Nat.zero_le n)
  have hadd := hx.sender.gone_add
  rw [← hgone] at hlength
  by_cases hactive : l.keyboard.Active
  · -- the packet on the air is still in the FIFO
    have hcount : l.keyboard.txFifo.count ≠ 0 := by
      obtain ⟨w, hw, -⟩ := hx.paced.air hactive
      rw [← length_txQueue cfg]
      intro hzero
      rw [List.length_eq_zero_iff.1 hzero] at hw
      exact absurd hw (by simp)
    calc outcomes.length ≤ (n + 1) * gone l.keyboard l.written + n := by omega
      _ ≤ (n + 1) * (gone l.keyboard l.written + 1) := by rw [Nat.mul_add]; omega
      _ ≤ (n + 1) * l.written.length := Nat.mul_le_mul_left _ (by omega)
  · have hfresh := h.fresh hactive
    calc outcomes.length ≤ (n + 1) * gone l.keyboard l.written := by omega
      _ ≤ (n + 1) * l.written.length := Nat.mul_le_mul_left _ (by omega)

/-- **All is delivered, and in time.** Where the calls are steady, the
dongle takes payloads as long as the keyboard's (`hmax`), no more than `n`
waits in a row go without an ACK and the radio always has `n`
retransmissions, no packet is ever given up, the transmitter is at work
until all that was written is delivered, and all its waits for an ACK are
at most `n + 1` times as many as the payloads written. -/
theorem delivered_of_lossesAtMost {kcfg dcfg : EsbConfig}
    (hkeyboard : DriverOp.Transmits cfg (.init kcfg)) (hdongle : dcfg.mode = .prx)
    (hmax : cfg.esbMaxPayloadLength ≤ cfg'.esbMaxPayloadLength) (hcount : n ≤ kcfg.retransmitCount)
    {ops : List RadioLinkOp} (hops : ∀ op ∈ ops, op.Steady cfg)
    (hinsists : ∀ op ∈ ops, op.Insists n)
    (hlost : LossesAtMost n 0 (answers cfg cfg' crc (RadioLink.up kcfg dcfg) ops)) :
    Throughout (radioLinkStep cfg cfg' crc)
        (fun l => l.keyboard.interruptFlags.txFailed = false ∧
          (l.keyboard.Active ∨ l.delivered cfg' = l.written)) (RadioLink.up kcfg dcfg) ops ∧
      (answers cfg cfg' crc (RadioLink.up kcfg dcfg) ops).length ≤ (n + 1) *
        (runFrom (radioLinkStep cfg cfg' crc) (RadioLink.up kcfg dcfg) ops).written.length := by
  have hx : Exact cfg cfg' crc (RadioLink.up kcfg dcfg) := exact_up cfg cfg' crc hkeyboard hdongle
  have hquiet : ¬ (RadioLink.up kcfg dcfg).keyboard.Active := not_active_of_idle rfl
  have htrying : Trying n 0 (RadioLink.up kcfg dcfg).keyboard :=
    ⟨Or.inr ⟨rfl, rfl⟩, hcount, fun hactive => absurd hactive hquiet, fun _ => rfl, rfl⟩
  obtain ⟨hthroughout, hlast, hgone⟩ := htrying.run hx hmax hops hinsists hlost
  refine ⟨hthroughout.imp fun l hl => ?_, ?_⟩
  · obtain ⟨hexact, k, hk⟩ := hl
    exact ⟨hk.unfailed, hk.delivered hexact⟩
  · refine hlast.length_answers_le hthroughout.last.1 hlost (hgone.trans ?_)
    rw [show gone (RadioLink.up kcfg dcfg).keyboard (RadioLink.up kcfg dcfg).written = 0 from rfl,
      Nat.zero_add]

theorem delivered_of_lossesAtMost_lostAck :
    Throughout (radioLinkStep Config.default Config.default fun _ pid _ _ => pid.toUInt16)
        (fun l => l.keyboard.interruptFlags.txFailed = false ∧
          (l.keyboard.Active ∨ l.delivered Config.default = l.written))
        (RadioLink.up ⟨.ptx, false, 5, 570⟩ ⟨.prx, true, 5, 570⟩) (lostAck.take 6) ∧
      (answers Config.default Config.default (fun _ pid _ _ => pid.toUInt16)
        (RadioLink.up ⟨.ptx, false, 5, 570⟩ ⟨.prx, true, 5, 570⟩) (lostAck.take 6)).length ≤
      (1 + 1) * (runFrom (radioLinkStep Config.default Config.default fun _ pid _ _ => pid.toUInt16)
        (RadioLink.up ⟨.ptx, false, 5, 570⟩ ⟨.prx, true, 5, 570⟩)
        (lostAck.take 6)).written.length :=
  delivered_of_lossesAtMost ⟨rfl, rfl, rfl, rfl⟩ rfl (Nat.le_refl _) (by decide)
    (by simp [lostAck, RadioLinkOp.Steady, DriverOp.Transmits, DriverOp.Keeps, DriverOp.Serves])
    (by simp [lostAck, RadioLinkOp.Insists]) (by decide +kernel)

end RadioLink

end EsbEndpoint
