import EsbEndpoint.Transport.Step

/-!
# A queued packet and the air

The radio starts a packet when one is written to it at rest, and when one
has just left. It does not start one after a failure: the packet stays at
the head and the radio halts. The handler of `TX_FAILED` empties a full
FIFO and does nothing for one that is neither full nor empty, so what is
queued there waits for the next send.
-/

namespace EsbEndpoint

variable (cfg : Config) (e : Endpoint)

/-- A path that does not stall: something is on the air if something is
queued. -/
def TxPath.Moving (p : TxPath) : Prop := p.fifo ≠ [] → p.onAir.isSome = true

theorem moving_advance (p : TxPath) : (TxMove.advance.apply cfg p).Moving := by
  intro hne
  obtain ⟨q, qs, hfifo⟩ := List.exists_cons_of_ne_nil hne
  have htail : p.fifo.tail = q :: qs := hfifo
  simp only [TxMove.apply, TxPath.consume, TxPath.withMotion, TxPath.advance, htail,
    List.head?_cons, Option.isSome_some]

/-- **After a failure** the path moves just when nothing is left queued:
the FIFO was full, and is flushed, or was empty. -/
theorem moving_fail_iff {p : TxPath} (h : p.Sound) :
    (TxMove.fail.apply cfg p).Moving ↔ p.full cfg = true ∨ p.fifo = [] := by
  have hfull : (p.halt.consume cfg true).full cfg = p.full cfg := rfl
  simp only [TxPath.Moving, TxMove.apply, TxPath.fail, hfull]
  cases p.full cfg with
  | true =>
    rw [if_pos rfl]
    refine iff_of_true (fun hne => absurd ?_ hne) (Or.inl rfl)
    exact if_pos h.initialized
  | false =>
    rw [if_neg Bool.false_ne_true]
    constructor
    · intro hmove
      refine Or.inr ?_
      by_contra hne
      exact Bool.noConfusion (hmove hne)
    · rintro (hf | hnil)
      · exact Bool.noConfusion hf
      · exact fun hne => absurd hnil hne

/-- After an operation that handles a TX event, a non-empty FIFO is being
transmitted. -/
def TransmitsAfterEvent (op : TxOp) : Prop :=
  ∀ outcome, op = .txDone outcome → canEnd cfg e outcome = true →
    (txStep cfg e op).radio.txFifo ≠ [] → (txStep cfg e op).radio.state.onAir.isSome = true

/-- Retries run out on a full FIFO or an empty one. -/
def FailsFullOrEmpty (op : TxOp) : Prop :=
  op = .txDone .exhausted → canEnd cfg e .exhausted = true →
    esbTxFull cfg e.radio = true ∨ e.radio.txFifo = []

theorem transmitsAfterEvent_iff (h : (e.path cfg).Sound) (op : TxOp) :
    TransmitsAfterEvent cfg e op ↔ FailsFullOrEmpty cfg e op := by
  have hmove : ∀ outcome, canEnd cfg e outcome = true →
      (((txStep cfg e (.txDone outcome)).path cfg).Moving ↔
        (outcome = .exhausted → esbTxFull cfg e.radio = true ∨ e.radio.txFifo = [])) := by
    intro outcome hend
    rw [path_txStep cfg e _ h.syncing, TxOp.move, if_pos hend]
    by_cases hout : outcome = .exhausted
    · rw [if_pos hout, moving_fail_iff cfg h]
      exact ⟨fun hor _ => hor, fun himp => himp hout⟩
    · rw [if_neg hout]
      exact iff_of_true (moving_advance cfg _) fun heq => absurd heq hout
  constructor
  · rintro hafter rfl hend
    exact (hmove _ hend).1 (hafter _ rfl hend) rfl
  · rintro hfails outcome rfl hend
    refine (hmove outcome hend).2 fun hout => ?_
    subst hout
    exact hfails rfl hend

/-- **A queued packet is on the air after every TX event, exactly when no
packet fails on a FIFO that holds some but not all it can.** -/
theorem transmitsAfterEvents_iff (deviceId : List UInt8) (saved : Option PairedRec)
    (ops : List TxOp) :
    Guarded (txStep cfg) (TransmitsAfterEvent cfg) (Endpoint.start cfg deviceId saved) ops ↔
      Guarded (txStep cfg) (FailsFullOrEmpty cfg) (Endpoint.start cfg deviceId saved) ops :=
  guarded_congr (I := fun e => (e.path cfg).Sound) (fun _ op h => sound_txStep cfg h op)
    (fun e op h => transmitsAfterEvent_iff cfg e h op) (sound_of_start cfg deviceId saved)

/-- One keyboard report that fails in an otherwise empty FIFO stalls. -/
theorem not_transmitsAfterEvents : ¬ ∀ (cfg : Config) (deviceId : List UInt8)
    (saved : Option PairedRec) (ops : List TxOp),
    Guarded (txStep cfg) (TransmitsAfterEvent cfg) (Endpoint.start cfg deviceId saved) ops := by
  intro h
  have hrun := h Config.default [] none
    [.send esbPipeData [esbPktHidReport, esbReportKeyboard, 0, 0, 4, 0, 0, 0, 0, 0],
      .txDone .exhausted]
  exact absurd (hrun.2.1 .exhausted rfl (by decide +kernel) (by decide +kernel)) (by decide +kernel)

end EsbEndpoint
