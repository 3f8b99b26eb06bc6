import EsbEndpoint.Common.Fifo
import EsbEndpoint.Transport.Events

/-!
# The per-send rings

A send pushes a record on the noack ring, the override ring and the motion
ring, and its event consumes them. The first two are of a power of two and
are queues for good. The motion ring may be of any size, and its 32-bit
counters are indexed by the remainder: unless the size divides `2 ^ 32`,
the ring loses a record when they wrap (`ringsFifo`).
-/

namespace EsbEndpoint

variable (cfg : Config)

/-! ## Pushes and consumes of the source -/

section Calls

variable (tp : Transport) (m : Motion)

theorem recentNoack_pushNoack (e : Endpoint) (noack : Bool) (hhop : cfg.channelHop = true) :
    (pushNoack cfg e noack).tp.recentNoack = e.tp.recentNoack.push (noackSlot cfg) noack := by
  rw [pushNoack, hhop, Bool.not_true, if_neg Bool.false_ne_true]
  rfl

theorem recentNoack_consumeRecentNoack :
    (consumeRecentNoack cfg tp).1.recentNoack = tp.recentNoack.consume := by
  rw [consumeRecentNoack, Ring.consume]
  split
  · rfl
  · rfl

theorem recentCritical_overrideCritical (e : Endpoint) (data : List UInt8)
    (hmax : cfg.criticalMaxRetransmit = true) :
    (overrideCritical cfg e data).tp.recentCritical =
      e.tp.recentCritical.push (criticalSlot cfg) (isCritical data) := by
  rw [overrideCritical, hmax, Bool.not_true, if_neg Bool.false_ne_true]
  dsimp only
  split
  · rfl
  · rfl

theorem recentCritical_consumeRecentOverride :
    (consumeRecentOverride cfg tp).1.recentCritical = tp.recentCritical.consume := by
  rw [consumeRecentOverride, Ring.consume]
  split
  · rfl
  · rfl

theorem recent_motionRingPush (body : Option MouseBody) (overrode : Bool) :
    (motionRingPush cfg body overrode m).recent =
      m.recent.push (motionSlot cfg) ⟨(body.map MouseBody.deltas).getD 0, overrode⟩ := rfl

theorem recent_motionRingConsume (now : UInt32) (failed : Bool) :
    (motionRingConsume cfg now failed m).1.recent = m.recent.consume := by
  rw [motionRingConsume, Ring.consume]
  split
  · rfl
  · rfl

end Calls

/-! ## The indices -/

/-- A mask one below a power of two is a remainder. -/
theorem toNat_and_pow {k : Nat} (hk : 2 ^ k ≤ 64) (c : BitVec 8) :
    (c &&& BitVec.ofNat 8 (2 ^ k - 1)).toNat = c.toNat % 2 ^ k :=
  Ring.toNat_and_mask c ((Nat.pow_le_pow_iff_right (by decide)).1 (hk.trans (by decide : 64 ≤ 2 ^ 8)))

theorem noackSlot_eq (c : BitVec 8) :
    noackSlot cfg c = c.toNat % cfg.linkQualityNoackRingSize := by
  obtain ⟨k, hk⟩ := cfg.noackRing_pow
  have hle := cfg.noackRing_le
  rw [noackSlot, hk]
  exact toNat_and_pow (hk ▸ hle) c

theorem criticalSlot_eq (c : BitVec 8) :
    criticalSlot cfg c = c.toNat % cfg.critOverrideRingSize := by
  obtain ⟨k, hk⟩ := cfg.critRing_pow
  have hle := cfg.critRing_le
  rw [criticalSlot, hk]
  exact toNat_and_pow (hk ▸ hle) c

/-- A power of two that small divides the range of a byte. -/
theorem dvd_of_pow {n : Nat} (hn : ∃ k, n = 2 ^ k) (hle : n ≤ 64) : n ∣ 2 ^ 8 := by
  obtain ⟨k, rfl⟩ := hn
  exact Nat.pow_dvd_pow 2
    ((Nat.pow_le_pow_iff_right (by decide)).1 (hle.trans (by decide : 64 ≤ 2 ^ 8)))

/-! ## Runs -/

/-- **The rings are queues across a wrap**: the noack and the override ring
always, and the motion ring exactly in the runs in which each push after a
wrap of its head, as long as it is fewer than `2 ^ 32 % SIZE` counts past
it, repeats the record `2 ^ 32 % SIZE` places before it if that one is
still outstanding. -/
theorem ringsFifo (cfg : Config) (noacks criticals : List (RingOp Bool))
    (motions : List (RingOp MotionRecord))
    (hnoacks : Guarded (queueStep (noackSlot cfg)) (AtMost cfg.linkQualityNoackRingSize)
      ⟨Ring.empty false, []⟩ noacks)
    (hcriticals : Guarded (queueStep (criticalSlot cfg)) (AtMost cfg.critOverrideRingSize)
      ⟨Ring.empty false, []⟩ criticals)
    (hmotions : Guarded (queueStep (motionSlot cfg)) (AtMost cfg.pointerMotionRingSize)
      ⟨Motion.boot.recent, []⟩ motions) :
    Throughout (queueStep (noackSlot cfg)) (IsQueue (noackSlot cfg))
        ⟨Ring.empty false, []⟩ noacks ∧
      Throughout (queueStep (criticalSlot cfg)) (IsQueue (criticalSlot cfg))
        ⟨Ring.empty false, []⟩ criticals ∧
      (Throughout (queueStep (motionSlot cfg)) (IsQueue (motionSlot cfg))
          ⟨Motion.boot.recent, []⟩ motions ↔
        Guarded (queueStep (motionSlot cfg)) (KeepsOldest cfg.pointerMotionRingSize)
          ⟨Motion.boot.recent, []⟩ motions) := by
  have hsmall : 64 < 2 ^ 8 := by decide
  have hlarge : 64 < 2 ^ 32 := by decide
  refine ⟨?_, ?_, ?_⟩
  · exact isQueue_of_dvd (cfg.noackRing_le.trans_lt hsmall) (noackSlot_eq cfg)
      (dvd_of_pow cfg.noackRing_pow cfg.noackRing_le) (isQueue_empty false) hnoacks
  · exact isQueue_of_dvd (cfg.critRing_le.trans_lt hsmall) (criticalSlot_eq cfg)
      (dvd_of_pow cfg.critRing_pow cfg.critRing_le) (isQueue_empty false) hcriticals
  · exact isQueue_iff_keepsOldest (cfg.motionRing_le.trans_lt hlarge) (fun _ => rfl)
      (isQueue_empty _) hmotions

/-- Each ring filled, drained in part and filled again. -/
theorem ringsFifo_default :
    Throughout (queueStep (noackSlot .default)) (IsQueue (noackSlot .default))
        ⟨Ring.empty false, []⟩ [.push true, .push false, .consume, .push true, .consume] ∧
      Throughout (queueStep (criticalSlot .default)) (IsQueue (criticalSlot .default))
        ⟨Ring.empty false, []⟩ [.push true, .consume, .consume, .push false] ∧
      (Throughout (queueStep (motionSlot .default)) (IsQueue (motionSlot .default))
          ⟨Motion.boot.recent, []⟩ [.push ⟨0, true⟩, .push ⟨0, false⟩, .consume] ↔
        Guarded (queueStep (motionSlot .default)) (KeepsOldest 24)
          ⟨Motion.boot.recent, []⟩ [.push ⟨0, true⟩, .push ⟨0, false⟩, .consume]) :=
  ringsFifo .default _ _ _ (by decide) (by decide) (by decide)

/-- The motion ring of 24 at its wrap: `2 ^ 32 - 16` records come and go,
sixteen pile up, and the next one lands on the first of them. -/
theorem not_ringsFifo : ¬ ∀ (cfg : Config) (motions : List (RingOp MotionRecord)),
    Guarded (queueStep (motionSlot cfg)) (AtMost cfg.pointerMotionRingSize)
        ⟨Motion.boot.recent, []⟩ motions →
      Throughout (queueStep (motionSlot cfg)) (IsQueue (motionSlot cfg))
        ⟨Motion.boot.recent, []⟩ motions := by
  intro h
  have hsize : 24 < 2 ^ 32 := by decide
  have hslot : ∀ c, motionSlot .default c = c.toNat % 24 := fun _ => rfl
  obtain ⟨hpairs, hnone, hcount⟩ := @run_pairs 32 _ (motionSlot .default) 24
    ⟨Motion.boot.recent, []⟩ (by decide) ⟨0, false⟩ (2 ^ 32 - 16) rfl
  generalize hstart : (List.replicate (2 ^ 32 - 16)
    [RingOp.push (⟨0, false⟩ : MotionRecord), .consume]).flatten = pairs at hpairs hnone hcount
  generalize ht : runFrom (queueStep (motionSlot .default)) ⟨Motion.boot.recent, []⟩ pairs = t at *
  obtain ⟨hpiled, hout, hhead⟩ := @run_pushes 32 _ (motionSlot .default) 24 t ⟨0, false⟩ 16
    (by rw [hnone]; decide)
  rw [hnone, List.nil_append] at hout
  rw [hcount] at hhead
  have hwithin : Guarded (queueStep (motionSlot .default)) (AtMost 24) ⟨Motion.boot.recent, []⟩
      (pairs ++ (List.replicate 16 (.push ⟨0, false⟩) ++ [.push ⟨0, true⟩])) := by
    refine guarded_append.2 ⟨hpairs, ?_⟩
    rw [ht]
    refine guarded_append.2 ⟨hpiled, ?_, trivial⟩
    show (runFrom _ t _).outstanding.length < 24
    rw [hout]
    decide
  have hqueue := h .default _ hwithin
  have hkeeps := (isQueue_iff_keepsOldest hsize hslot (isQueue_empty _) hwithin).1 hqueue
  change Guarded _ _ (⟨Motion.boot.recent, []⟩ : QueueTrace 32 MotionRecord) _ at hkeeps
  rw [guarded_append, ht, guarded_append] at hkeeps
  have hlast : KeepsOldest 24 _ (.push (⟨0, true⟩ : MotionRecord)) := hkeeps.2.2.1
  rw [KeepsOldest, hout, hhead] at hlast
  have hsame := hlast (by decide) (by decide)
  have hfirst : some (⟨0, false⟩ : MotionRecord) = some ⟨0, true⟩ := hsame
  injection hfirst with hrecord
  injection hrecord with _ hoverrode
  exact Bool.noConfusion hoverrode

end EsbEndpoint
