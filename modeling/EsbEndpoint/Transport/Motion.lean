import EsbEndpoint.Config
import EsbEndpoint.Protocol
import EsbEndpoint.Common.Clock
import EsbEndpoint.Common.Codec
import EsbEndpoint.Common.Ring
import Mathlib.Algebra.Group.Pi.Basic

/-!
# Pointer motion

The statics of `src/esb/esb_transport.c` that account for pointer motion:
the per-send ring `m_recent_motion`, the refund pool `m_motion_refund`
and the count of queued pointer reports. A mouse body's four deltas are a
function of the axis, so that what holds "on each axis" is stated and
proved once.
-/

namespace EsbEndpoint

/-- The four delta fields of a mouse body. -/
inductive Axis
  | dX
  | dY
  | scrollX
  | scrollY
  deriving DecidableEq

/-- One value for each axis. -/
abbrev Deltas := Axis → Int

namespace Deltas

/-- `(d_x | d_y | d_scroll_x | d_scroll_y) == 0` -/
def isZero (d : Deltas) : Bool :=
  d .dX == 0 && d .dY == 0 && d .scrollX == 0 && d .scrollY == 0

@[simp] theorem isZero_iff {d : Deltas} : d.isZero = true ↔ d = 0 := by
  simp only [isZero, Bool.and_eq_true, beq_iff_eq]
  constructor
  · rintro ⟨⟨⟨hx, hy⟩, hsx⟩, hsy⟩
    funext a
    cases a
    · exact hx
    · exact hy
    · exact hsx
    · exact hsy
  · rintro rfl
    exact ⟨⟨⟨rfl, rfl⟩, rfl⟩, rfl⟩

@[simp] theorem isZero_zero : isZero 0 = true := rfl

theorem isZero_eq_false_iff {d : Deltas} : d.isZero = false ↔ d ≠ 0 := by
  rw [← Bool.not_eq_true, isZero_iff]

instance (d d' : Deltas) : Decidable (d = d') :=
  decidable_of_iff (d .dX = d' .dX ∧ d .dY = d' .dY ∧ d .scrollX = d' .scrollX ∧
      d .scrollY = d' .scrollY)
    ⟨fun h => funext fun a => by cases a <;> simp only [h],
      fun h => ⟨congrFun h _, congrFun h _, congrFun h _, congrFun h _⟩⟩

end Deltas

/-- `struct esb_mouse_body` -/
structure MouseBody where
  buttons : UInt8
  deltas : Deltas

/-- `sizeof(struct esb_mouse_body)` -/
abbrev sizeofMouseBody : Nat := 9

/-- `is_mouse_report` -/
def isMouseReport (data : List UInt8) : Bool :=
  2 + sizeofMouseBody ≤ data.length && isHidReport esbReportMouse data

/-- `mouse_body_of`, read. -/
def mouseBodyOf (data : List UInt8) : MouseBody where
  buttons := data.getD 2 0
  deltas
    | .dX => readLe16 (data.getD 3 0) (data.getD 4 0)
    | .dY => readLe16 (data.getD 5 0) (data.getD 6 0)
    | .scrollY => readLe16 (data.getD 7 0) (data.getD 8 0)
    | .scrollX => readLe16 (data.getD 9 0) (data.getD 10 0)

/-- The nine bytes of a mouse body. -/
def MouseBody.bytes (body : MouseBody) : List UInt8 :=
  [body.buttons,
    lowByte (body.deltas .dX), highByte (body.deltas .dX),
    lowByte (body.deltas .dY), highByte (body.deltas .dY),
    lowByte (body.deltas .scrollY), highByte (body.deltas .scrollY),
    lowByte (body.deltas .scrollX), highByte (body.deltas .scrollX)]

/-- `mouse_body_of`, written through. -/
def putMouseBody (body : MouseBody) (data : List UInt8) : List UInt8 :=
  data.take 2 ++ body.bytes ++ data.drop (2 + sizeofMouseBody)

/-- `struct pointer_motion_record` -/
structure MotionRecord where
  deltas : Deltas
  overrode : Bool

/-- `m_motion_refund` -/
structure MotionRefund where
  pool : Deltas
  stampMs : UInt32

/-- The motion statics together. -/
structure Motion where
  /-- `m_recent_motion` with its two counters -/
  recent : Ring 32 MotionRecord
  refund : MotionRefund
  /-- `m_pointer_inflight_count` -/
  pointerInflightCount : Nat

def Motion.boot : Motion := ⟨Ring.empty ⟨0, false⟩, ⟨0, 0⟩, 0⟩

variable (cfg : Config) (now : UInt32)

/-- `motion_refund_apply` -/
def motionRefundApply (refund : MotionRefund) (body : MouseBody) : MotionRefund × MouseBody :=
  if refund.stampMs != 0 && cfg.pointerRefundStaleMs ≤ elapsed refund.stampMs now then
    (⟨0, 0⟩, body)
  else if refund.pool.isZero then (refund, body)
  else
    let total : Deltas := fun a => i32 (body.deltas a + refund.pool a)
    let deltas : Deltas := fun a => sat16 (total a)
    let pool : Deltas := fun a => total a - deltas a
    (⟨pool, if pool.isZero then 0 else refund.stampMs⟩, { body with deltas })

/-- The slot of a counter value: `c % POINTER_MOTION_RING_SIZE`. -/
def motionSlot (c : BitVec 32) : Nat := c.toNat % cfg.pointerMotionRingSize

/-- `motion_ring_push`, with `none` for a null body. -/
def motionRingPush (body : Option MouseBody) (overrode : Bool) (m : Motion) : Motion :=
  let deltas : Deltas := (body.map MouseBody.deltas).getD 0
  { m with
    recent := m.recent.push (motionSlot cfg) ⟨deltas, overrode⟩
    pointerInflightCount :=
      if !deltas.isZero && m.pointerInflightCount < 255 then m.pointerInflightCount + 1
      else m.pointerInflightCount }

/-- The deltas of a failed record, back in the pool. -/
def MotionRefund.give (d : Deltas) (refund : MotionRefund) : MotionRefund :=
  if d.isZero then refund
  else
    { pool := fun a => i32 (refund.pool a + d a)
      stampMs := if refund.stampMs == 0 then stampOf now else refund.stampMs }

/-- `motion_ring_consume`, with whether the popped record asks for the
retransmit count to be restored. -/
def motionRingConsume (failed : Bool) (m : Motion) : Motion × Bool :=
  if m.recent.isEmpty then (m, false)
  else
    let record := m.recent.front (motionSlot cfg)
    ({ recent := m.recent.pop
       pointerInflightCount :=
        if !record.deltas.isZero && 0 < m.pointerInflightCount then m.pointerInflightCount - 1
        else m.pointerInflightCount
       refund := if failed then m.refund.give now record.deltas else m.refund },
      record.overrode)

/-- The motion part of `esb_flush_tx_and_reset`. -/
def Motion.flush (m : Motion) : Motion :=
  { m with recent := m.recent.reset, pointerInflightCount := 0 }

/-- The motion part of `esb_transport_set_channel`. -/
def Motion.dropRefund (m : Motion) : Motion := { m with refund := ⟨0, 0⟩ }

/-! ## Bodies read and written -/

/-- A mouse report has its two header bytes and its body. -/
theorem exists_of_isMouseReport {data : List UInt8} (h : isMouseReport data = true) :
    ∃ a b rest, data = a :: b :: rest := by
  simp only [isMouseReport, Bool.and_eq_true, decide_eq_true_eq] at h
  match data, h with
  | a :: b :: rest, _ => exact ⟨a, b, rest, rfl⟩

theorem length_putMouseBody {data : List UInt8} {body : MouseBody} (h : isMouseReport data = true) :
    (putMouseBody body data).length = data.length := by
  have hlen : 11 ≤ data.length := by
    simp only [isMouseReport, Bool.and_eq_true, decide_eq_true_eq] at h
    exact h.1
  simp only [putMouseBody, MouseBody.bytes, sizeofMouseBody, List.length_append, List.length_take,
    List.length_drop, List.length_cons, List.length_nil]
  omega

theorem isMouseReport_putMouseBody {body : MouseBody} {data : List UInt8}
    (h : isMouseReport data = true) : isMouseReport (putMouseBody body data) = true := by
  have hlen := @length_putMouseBody data body h
  obtain ⟨a, b, rest, rfl⟩ := exists_of_isMouseReport h
  rw [isMouseReport, hlen]
  exact h

/-- **What is written into a report is read back from it.** -/
theorem mouseBodyOf_putMouseBody {body : MouseBody} {data : List UInt8}
    (h : isMouseReport data = true) (hbody : ∀ a, IsInt16 (body.deltas a)) :
    mouseBodyOf (putMouseBody body data) = body := by
  obtain ⟨a, b, rest, rfl⟩ := exists_of_isMouseReport h
  have hdeltas : (mouseBodyOf (putMouseBody body (a :: b :: rest))).deltas = body.deltas := by
    funext axis
    simp only [mouseBodyOf, putMouseBody, MouseBody.bytes, List.take_succ_cons, List.take_zero,
      List.cons_append, List.nil_append, List.getD_cons_succ, List.getD_cons_zero]
    cases axis
    · exact readLe16_write (hbody .dX)
    · exact readLe16_write (hbody .dY)
    · exact readLe16_write (hbody .scrollX)
    · exact readLe16_write (hbody .scrollY)
  exact congrArg (MouseBody.mk body.buttons) hdeltas

theorem isInt16_mouseBodyOf (data : List UInt8) (a : Axis) :
    IsInt16 ((mouseBodyOf data).deltas a) := by
  simp only [mouseBodyOf]
  cases a <;> exact isInt16_readLe16 _ _

/-- A refund saturates, so the body it leaves still fits its fields. -/
theorem isInt16_motionRefundApply {cfg : Config} {now : UInt32} {refund : MotionRefund}
    {body : MouseBody} (hbody : ∀ a, IsInt16 (body.deltas a)) (a : Axis) :
    IsInt16 ((motionRefundApply cfg now refund body).2.deltas a) := by
  simp only [motionRefundApply]
  split
  · exact hbody a
  · split
    · exact hbody a
    · exact isInt16_sat16 _

end EsbEndpoint
