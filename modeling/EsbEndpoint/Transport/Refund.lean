import EsbEndpoint.Common.Carry
import EsbEndpoint.Common.Run
import EsbEndpoint.Transport.Motion

/-!
# The refund pool

The deltas of failed pointer reports wait in a pool for the next mouse
body, which takes as much of each axis as an `int16_t` holds: on each axis
the pool is a debt and a body's delta an input (`refundAll_axis`). The
pool's time stamp is set with its first deltas and cleared with its last
by an application, but not when a failure gives back the opposite of what
is there.
-/

namespace EsbEndpoint

variable (cfg : Config)

/-! ## The stamp -/

/-- What is done to the motion statics. -/
inductive MotionOp
  /-- `motion_ring_push` -/
  | push (body : Option MouseBody) (overrode : Bool)
  /-- `motion_ring_consume` -/
  | consume (now : UInt32) (failed : Bool)
  /-- `motion_refund_apply` -/
  | apply (now : UInt32) (body : MouseBody)
  | flush
  /-- a channel change, after its flush -/
  | newChannel

def refundStep (m : Motion) : MotionOp → Motion
  | .push body overrode => motionRingPush cfg body overrode m
  | .consume now failed => (motionRingConsume cfg now failed m).1
  | .apply now body => { m with refund := (motionRefundApply cfg now m.refund body).1 }
  | .flush => m.flush
  | .newChannel => m.dropRefund

/-- **The time stamp marks a non-empty pool.** -/
def StampMarks (m : Motion) : Prop := m.refund.stampMs = 0 ↔ m.refund.pool = 0

/-- A failure does not give back the opposite of the pool. -/
def NoCancel (m : Motion) : MotionOp → Prop
  | .consume _ true =>
    m.recent.isEmpty = false → (m.recent.front (motionSlot cfg)).deltas ≠ 0 →
      (fun a => i32 (m.refund.pool a + (m.recent.front (motionSlot cfg)).deltas a)) ≠ (0 : Deltas)
  | _ => True

instance (m : Motion) : Decidable (StampMarks m) :=
  inferInstanceAs (Decidable (_ = _ ↔ _ = _))

variable {cfg} {m : Motion}

/-- Deltas given back leave the stamp set, -/
theorem MotionRefund.stampMs_give {now : UInt32} {d : Deltas} (r : MotionRefund) (hd : d ≠ 0) :
    (r.give now d).stampMs ≠ 0 ∧ (r.give now d).pool = fun a => i32 (r.pool a + d a) := by
  rw [give, if_neg (by rw [Deltas.isZero_iff]; exact hd)]
  refine ⟨?_, rfl⟩
  dsimp only
  split
  · exact stampOf_ne_zero now
  · rename_i hne
    exact fun h => hne (beq_iff_eq.2 h)

/-- and an application clears it with the pool. -/
theorem stampMarks_apply {now : UInt32} {body : MouseBody} (h : StampMarks m) :
    StampMarks { m with refund := (motionRefundApply cfg now m.refund body).1 } := by
  unfold StampMarks motionRefundApply
  dsimp only
  split
  · exact ⟨fun _ => rfl, fun _ => rfl⟩
  · split
    · exact h
    · rename_i hpool
      have hstamp : m.refund.stampMs ≠ 0 := fun hs => hpool (Deltas.isZero_iff.2 (h.1 hs))
      dsimp only
      split
      · rename_i hzero
        exact ⟨fun _ => Deltas.isZero_iff.1 hzero, fun _ => rfl⟩
      · rename_i hzero
        exact ⟨fun hs => absurd hs hstamp, fun hp => absurd (Deltas.isZero_iff.2 hp) hzero⟩

theorem stampMarks_consume_iff {now : UInt32} {failed : Bool} (h : StampMarks m) :
    StampMarks (motionRingConsume cfg now failed m).1 ↔ NoCancel cfg m (.consume now failed) := by
  unfold motionRingConsume
  cases hempty : m.recent.isEmpty with
  | true =>
    refine iff_of_true h ?_
    cases failed with
    | false => trivial
    | true => exact fun hnot => absurd (hempty.symm.trans hnot) (by decide)
  | false =>
    cases failed with
    | false => exact iff_of_true h trivial
    | true =>
      rw [if_neg Bool.false_ne_true]
      show StampMarks ⟨_, m.refund.give now (m.recent.front (motionSlot cfg)).deltas, _⟩ ↔ _
      by_cases hd : (m.recent.front (motionSlot cfg)).deltas = 0
      · refine iff_of_true ?_ fun _ hne => absurd hd hne
        unfold StampMarks
        rw [MotionRefund.give, if_pos (Deltas.isZero_iff.2 hd)]
        exact h
      · -- the stamp is set, so the pool must not come to zero
        obtain ⟨hstamp, hpool⟩ := @MotionRefund.stampMs_give now _ m.refund hd
        unfold StampMarks
        rw [hpool]
        constructor
        · intro hmarks _ _ hzero
          exact hstamp (hmarks.2 hzero)
        · intro hno
          exact iff_of_false hstamp (hno hempty hd)

/-- **In every sequence** the stamp marks a non-empty pool just when no
failure gives back the opposite of what is in the pool. -/
theorem stampMarks_iff (ops : List MotionOp) :
    Throughout (refundStep cfg) StampMarks Motion.boot ops ↔
      Guarded (refundStep cfg) (NoCancel cfg) Motion.boot ops := by
  refine throughout_iff_guarded (I := fun _ => True) (D := fun _ _ => True)
    (fun _ _ _ _ => trivial) (fun m op _ _ h => ?_) trivial ⟨fun _ => rfl, fun _ => rfl⟩
    (Guarded.of_forall fun _ _ => trivial)
  cases op with
  | push body overrode => exact iff_of_true h trivial
  | consume now failed => exact stampMarks_consume_iff h
  | apply now body => exact iff_of_true (stampMarks_apply h) trivial
  | flush => exact iff_of_true h trivial
  | newChannel => exact iff_of_true ⟨fun _ => rfl, fun _ => rfl⟩ trivial

/-- A body that moves on one axis. -/
def bodyOn (a : Axis) (d : Int) : MouseBody := ⟨0, fun a' => if a' = a then d else 0⟩

/-- **The stamp outlives the pool**: five to the right and five to the left
are both lost. -/
theorem not_stampMarks :
    ¬ Throughout (refundStep Config.default) StampMarks Motion.boot
      [.push (some (bodyOn .dX 5)) true, .push (some (bodyOn .dX (-5))) true,
        .consume 10 true, .consume 20 true] := by
  decide +kernel

/-! ## Applying refunds -/

variable (cfg)

/-- `motion_refund_apply` on one body after another. -/
def refundAll (refund : MotionRefund) : List (UInt32 × MouseBody) → MotionRefund × List MouseBody
  | [] => (refund, [])
  | (now, body) :: calls =>
    let (refund, out) := motionRefundApply cfg now refund body
    let (refund, outs) := refundAll refund calls
    (refund, out :: outs)

/-- No call finds the pool stale. -/
def StaysFresh (refund : MotionRefund) : List (UInt32 × MouseBody) → Prop
  | [] => True
  | (now, body) :: calls =>
    (refund.stampMs != 0 && cfg.pointerRefundStaleMs ≤ elapsed refund.stampMs now) = false ∧
      StaysFresh (motionRefundApply cfg now refund body).1 calls

instance decidableStaysFresh : (refund : MotionRefund) → (calls : List (UInt32 × MouseBody)) →
    Decidable (StaysFresh cfg refund calls)
  | _, [] => inferInstanceAs (Decidable True)
  | refund, (now, body) :: calls =>
    haveI := decidableStaysFresh (motionRefundApply cfg now refund body).1 calls
    inferInstanceAs (Decidable (_ = false ∧ _))

/-- **Refunds conserve motion through saturation**, on each axis. -/
structure RefundConserves (refund : MotionRefund) (calls : List (UInt32 × MouseBody))
    (a : Axis) : Prop where
  conserved : refund.pool a + (calls.map fun call => call.2.deltas a).sum =
    ((refundAll cfg refund calls).2.map fun out => out.deltas a).sum +
      (refundAll cfg refund calls).1.pool a
  fits : ∀ out ∈ (refundAll cfg refund calls).2, IsInt16 (out.deltas a)
  bounded : ((refundAll cfg refund calls).1.pool a).natAbs ≤ (refund.pool a).natAbs
  saturated : ∀ last, (refundAll cfg refund calls).2.getLast? = some last →
    (0 < (refundAll cfg refund calls).1.pool a → last.deltas a = 32767) ∧
      ((refundAll cfg refund calls).1.pool a < 0 → last.deltas a = -32768)
  /-- `⌈|p| / 32767⌉` bodies without a delta empty a pool of `p`. -/
  emptied : (∀ call ∈ calls, call.2.deltas a = 0) →
    ((refund.pool a).natAbs + 32766) / 32767 ≤ calls.length →
    (refundAll cfg refund calls).1.pool a = 0

variable {cfg} {refund : MotionRefund} {now : UInt32} {body : MouseBody}

/-- **One application** is a step of the debt on each axis. -/
theorem motionRefundApply_axis
    (hfresh : (refund.stampMs != 0 &&
      cfg.pointerRefundStaleMs ≤ elapsed refund.stampMs now) = false)
    (hpool : ∀ a, (refund.pool a).natAbs < 2147450880) (hbody : ∀ a, IsInt16 (body.deltas a))
    (a : Axis) :
    (motionRefundApply cfg now refund body).2.deltas a =
        Carry.sent (-32768) 32767 (refund.pool a) (body.deltas a) ∧
      (motionRefundApply cfg now refund body).1.pool a =
        Carry.rest (-32768) 32767 (refund.pool a) (body.deltas a) := by
  have hp := hpool a
  have hb := hbody a
  unfold IsInt16 at hb
  unfold motionRefundApply
  rw [hfresh, if_neg Bool.false_ne_true]
  unfold Carry.rest Carry.sent
  split
  · -- an empty pool passes the body on as it is
    rename_i hzero
    have hnone : refund.pool a = 0 := congrFun (Deltas.isZero_iff.1 hzero) a
    dsimp only
    rw [hnone]
    omega
  · -- the bound on the pool keeps the sum from wrapping
    have hsum : i32 (body.deltas a + refund.pool a) = body.deltas a + refund.pool a := by
      refine i32_eq_iff.2 ?_
      unfold IsInt32
      omega
    dsimp only
    rw [hsum]
    unfold sat16
    omega

/-- **And a sequence of them** a run of it. -/
theorem refundAll_axis {calls : List (UInt32 × MouseBody)} (hfresh : StaysFresh cfg refund calls)
    (hpool : ∀ a, (refund.pool a).natAbs < 2147450880)
    (hbody : ∀ call ∈ calls, ∀ a, IsInt16 (call.2.deltas a)) (a : Axis) :
    ((refundAll cfg refund calls).2.map fun out => out.deltas a) =
        Carry.sentAll (-32768) 32767 (refund.pool a) (calls.map fun call => call.2.deltas a) ∧
      (refundAll cfg refund calls).1.pool a =
        Carry.carried (-32768) 32767 (refund.pool a) (calls.map fun call => call.2.deltas a) := by
  induction calls generalizing refund with
  | nil => exact ⟨rfl, rfl⟩
  | cons call calls ih =>
    obtain ⟨now, body⟩ := call
    obtain ⟨hnow, hlater⟩ := hfresh
    obtain ⟨hfirst, hrest⟩ := List.forall_mem_cons.1 hbody
    have hstep := motionRefundApply_axis hnow hpool hfirst
    -- what is left is no larger, so the next call meets the bound
    have hsmaller :
        ∀ a, ((motionRefundApply cfg now refund body).1.pool a).natAbs < 2147450880 := by
      intro a
      rw [(hstep a).2]
      exact lt_of_le_of_lt (Carry.natAbs_rest_le (hfirst a).1 (hfirst a).2) (hpool a)
    obtain ⟨houts, hleft⟩ := ih hlater hsmaller hrest
    rw [(hstep a).2] at houts hleft
    refine ⟨?_, hleft⟩
    show (motionRefundApply cfg now refund body).2.deltas a ::
      ((refundAll cfg (motionRefundApply cfg now refund body).1 calls).2.map fun out =>
        out.deltas a) = _
    rw [(hstep a).1, houts]
    rfl

/-- **Every sequence of mouse bodies that finds the pool fresh** conserves
motion on each axis, whatever saturates. -/
theorem refundConserves {calls : List (UInt32 × MouseBody)} (hfresh : StaysFresh cfg refund calls)
    (hpool : ∀ a, (refund.pool a).natAbs < 2147450880)
    (hbody : ∀ call ∈ calls, ∀ a, IsInt16 (call.2.deltas a)) (a : Axis) :
    RefundConserves cfg refund calls a := by
  obtain ⟨houts, hleft⟩ := refundAll_axis hfresh hpool hbody a
  have hinputs : ∀ input ∈ calls.map fun call => call.2.deltas a,
      -32768 ≤ input ∧ input ≤ 32767 := by
    intro input hinput
    obtain ⟨call, hcall, rfl⟩ := List.mem_map.1 hinput
    exact hbody call hcall a
  refine ⟨?_, fun out hout => ?_, ?_, fun last hlast => ?_, fun hzero hlong => ?_⟩
  · rw [houts, hleft]
    exact Carry.conserve
  · have hmem : out.deltas a ∈ (refundAll cfg refund calls).2.map fun out => out.deltas a :=
      List.mem_map_of_mem hout
    rw [houts] at hmem
    exact Carry.sentAll_bounds (by decide) _ hmem
  · rw [hleft]
    exact Carry.natAbs_carried_le hinputs
  · rw [hleft]
    refine Carry.getLast?_sentAll (by decide) ?_
    rw [← houts, List.getLast?_map, hlast]
    rfl
  · rw [hleft]
    refine Carry.carried_eq_zero (by decide) (by decide) (fun input hinput => ?_) ?_ ?_
    · obtain ⟨call, hcall, rfl⟩ := List.mem_map.1 hinput
      exact hzero call hcall
    · rw [List.length_map]
      omega
    · rw [List.length_map]
      omega

/-- With the defaults, a debt of three steps on one axis. -/
theorem refundConserves_default :
    RefundConserves Config.default ⟨(bodyOn .dX 70000).deltas, 1⟩
      [(2, bodyOn .dX 5), (3, bodyOn .dX (-5)), (4, bodyOn .dY 7)] .dX :=
  refundConserves (by decide +kernel) (fun a => by cases a <;> decide)
    (fun call hcall a => by
      simp only [List.mem_cons, List.not_mem_nil, or_false] at hcall
      obtain rfl | rfl | rfl := hcall <;> cases a <;> decide) .dX

end EsbEndpoint
