import EsbEndpoint.Transport.InFlight

/-!
# A slot after a slot

`esb_transport_on_slot_stop` disables the radio, which drops what is
queued without an event, and `esb_transport_on_slot_start` initialises it
again. Neither goes through `esb_flush_tx_and_reset`, and neither touches
the per-send bookkeeping: the next slot starts with the books of the last
(`slotRestart_clean_iff`).
-/

namespace EsbEndpoint

variable (cfg : Config) (e : Endpoint)

/-- `esb_transport_on_slot_stop`, then `esb_transport_on_slot_start`. -/
def slotRestart : Endpoint := esbTransportOnSlotStart cfg (esbTransportOnSlotStop cfg e)

/-- Every send has had its event, or its flush: the rings are empty and no
report is counted as in flight; and no side-trip is under way. -/
structure Settled : Prop where
  noack : cfg.channelHop = true → e.tp.recentNoack.isEmpty = true
  critical : cfg.criticalMaxRetransmit = true → e.tp.recentCritical.isEmpty = true
  motion : e.tp.motion.recent.isEmpty = true
  inflight : e.tp.motion.pointerInflightCount = 0
  syncing : cfg.rendezvous = true → e.tp.syncTxInProgress = false

/-- **A clean start**: settled, with the FIFO empty, and no pointer report
is held back. -/
structure CleanStart : Prop extends Settled cfg e where
  fifo : e.radio.txFifo = []
  backpressure : esbTransportPointerBackpressure cfg e = false

variable {cfg e}

theorem path_slotRestart :
    (slotRestart cfg e).path cfg =
      { e.path cfg with initialized := true, ready := true, fifo := [], onAir := none } :=
  path_esbTransportOnSlotStart cfg (esbTransportOnSlotStop cfg e)

theorem flags_slotRestart : (slotRestart cfg e).flags = e.flags :=
  flags_esbTransportOnSlotStart cfg (esbTransportOnSlotStop cfg e)

/-- The books go through a restart as they are. -/
theorem settled_slotRestart_iff : Settled cfg (slotRestart cfg e) ↔ Settled cfg e := by
  have hpath := @path_slotRestart cfg e
  have hflags := @flags_slotRestart cfg e
  have hmotion : (slotRestart cfg e).tp.motion = e.tp.motion := congrArg TxPath.motion hpath
  have hnoack : (slotRestart cfg e).tp.recentNoack = e.tp.recentNoack :=
    congrArg Flags.noack hflags
  have hcritical : (slotRestart cfg e).tp.recentCritical = e.tp.recentCritical :=
    congrArg Flags.critical hflags
  have hsyncing : cfg.rendezvous = true →
      (slotRestart cfg e).tp.syncTxInProgress = e.tp.syncTxInProgress := by
    intro hrdv
    have hsync : (cfg.rendezvous && (slotRestart cfg e).tp.syncTxInProgress) =
        (cfg.rendezvous && e.tp.syncTxInProgress) := congrArg TxPath.syncing hpath
    rwa [hrdv, Bool.true_and, Bool.true_and] at hsync
  constructor
  · intro h
    exact ⟨fun hhop => hnoack ▸ h.noack hhop, fun hmax => hcritical ▸ h.critical hmax,
      hmotion ▸ h.motion, hmotion ▸ h.inflight, fun hrdv => hsyncing hrdv ▸ h.syncing hrdv⟩
  · intro h
    exact ⟨fun hhop => hnoack.symm ▸ h.noack hhop, fun hmax => hcritical.symm ▸ h.critical hmax,
      hmotion.symm ▸ h.motion, hmotion.symm ▸ h.inflight,
      fun hrdv => (hsyncing hrdv).symm ▸ h.syncing hrdv⟩

/-! ## What it comes to -/

/-- From a clean start the next send's slots are the only ones, so that
its event pops them. -/
theorem CleanStart.fresh_send (h : CleanStart cfg e) {pipe : Nat} {data : List UInt8}
    (hwrites : SendWrites cfg e pipe data) :
    ∃ q, Fresh cfg (esbTransportSend cfg e pipe data).1 q := by
  obtain ⟨hreach, hi, hpacket⟩ := hwrites
  have hfull : esbTxFull cfg e.radio = false := by
    rw [esbTxFull, h.fifo]
    exact decide_eq_false (Nat.not_le.2 cfg.txFifo_pos)
  have hflush : sendFlushes cfg e data = false := by
    rw [sendFlushes, hfull, Bool.and_false, Bool.false_and]
  have hq : sendQueues cfg e data = true := by
    rw [sendQueues, hreach, hfull, Bool.false_and, Bool.not_false, Bool.and_self]
  -- a flush would change nothing
  have hreset : e.tp.motion.flush = e.tp.motion := by
    unfold Motion.flush
    rw [Ring.reset_of_isEmpty _ h.motion, ← h.inflight]
  have hpath : (e.path cfg).flush = e.path cfg := by
    have hfifo : (e.path cfg).fifo = [] := h.fifo
    unfold TxPath.flush
    rw [show (e.path cfg).motion.flush = (e.path cfg).motion from hreset, if_pos
      (show (e.path cfg).initialized = true from hi), ← hfifo]
  have hflags : e.flags.reset cfg = e.flags := Flags.reset_of_isEmpty h.noack h.critical
  have hsync : (e.path cfg).syncing = false := by
    simp only [sendReaches, Bool.and_eq_true, Bool.not_eq_true'] at hreach
    exact hreach.1.2
  refine @Fresh.of_flushed cfg e pipe data _ hsync hi ?_ ?_
  · rw [hpath, path_send_of_taken hq ((send_taken_iff hq).2 ⟨hi, hpacket⟩), sendBase, hflush,
      if_neg Bool.false_ne_true]
  · rw [hflags, flags_esbTransportSend, hq, if_pos rfl, hflush, if_neg Bool.false_ne_true]

/-- While the rings are in step with the FIFO, what is left on the books
is what is left in the FIFO. -/
theorem settled_iff_of_mirror (hmirror : (e.path cfg).Mirror cfg)
    (hflags : e.flags.Mirror cfg e.radio.txFifo)
    (hsync : (e.path cfg).syncing = false) : Settled cfg e ↔ e.radio.txFifo = [] := by
  have hcontents : e.tp.motion.recent.contents (motionSlot cfg) =
      e.radio.txFifo.map fun q => recordOf q.toEsbPayload := hmirror.contents
  constructor
  · intro h
    rw [(Ring.contents_eq_nil_iff _ _).2 h.motion] at hcontents
    exact List.map_eq_nil_iff.1 hcontents.symm
  · intro hnil
    rw [hnil] at hcontents hflags
    refine ⟨fun hhop => ?_, fun hmax => ?_, ?_, ?_, fun hrdv => ?_⟩
    · exact (Ring.contents_eq_nil_iff _ _).1 (hflags.noack hhop)
    · exact (Ring.contents_eq_nil_iff _ _).1 (hflags.critical hmax)
    · exact (Ring.contents_eq_nil_iff _ _).1 hcontents
    · have hcount : e.tp.motion.pointerInflightCount = e.radio.txFifo.countP TxPath.carriesMotion :=
        hmirror.inflight
      rw [hcount, hnil]
      rfl
    · have hsync' : (cfg.rendezvous && e.tp.syncTxInProgress) = false := hsync
      rwa [hrdv, Bool.true_and] at hsync'

/-! ## A slot after a slot -/

/-- **A slot starts clean after a slot** exactly if the last one left
nothing on the books, which while the rings are in step with the FIFO is
that it left nothing queued. Then the next send's slots are the only ones,
so that its event pops them. -/
theorem slotRestart_clean_iff (cfg : Config) (e : Endpoint) :
    (CleanStart cfg (slotRestart cfg e) ↔ Settled cfg e) ∧
      ((e.path cfg).Mirror cfg → e.flags.Mirror cfg e.radio.txFifo →
        (e.path cfg).syncing = false → (Settled cfg e ↔ e.radio.txFifo = [])) ∧
      (Settled cfg e → ∀ pipe data, SendWrites cfg (slotRestart cfg e) pipe data →
        ∃ q, Fresh cfg (esbTransportSend cfg (slotRestart cfg e) pipe data).1 q) := by
  have hclean : CleanStart cfg (slotRestart cfg e) ↔ Settled cfg e := by
    rw [← settled_slotRestart_iff]
    refine ⟨CleanStart.toSettled, fun h => ⟨h, ?_, ?_⟩⟩
    · exact congrArg TxPath.fifo path_slotRestart
    · have hcap := cfg.inflightCap_pos
      rw [esbTransportPointerBackpressure, show (slotRestart cfg e).motion.pointerInflightCount = 0
        from h.inflight, decide_eq_false_iff_not]
      omega
  exact ⟨hclean, settled_iff_of_mirror, fun h pipe data hwrites =>
    (hclean.2 h).fresh_send hwrites⟩

/-- **A slot stopped with a pointer report queued** starts the next one
with its record, and counts it as in flight. -/
theorem not_slotRestart_clean : ¬ ∀ (cfg : Config) (deviceId : List UInt8)
    (saved : Option PairedRec) (ops : List TxOp),
    CleanStart cfg (slotRestart cfg (runFrom (txStep cfg) (Endpoint.start cfg deviceId saved)
      ops)) := by
  intro h
  have hclean := h .default [] none
    [.send esbPipeData [esbPktHidReport, esbReportMouse, 0, 5, 0, 0, 0, 0, 0, 0, 0]]
  exact absurd hclean.inflight (by decide +kernel)

end EsbEndpoint
