/-!
# A 32-bit millisecond clock

`k_uptime_get_32` and the wrap-safe comparison the sources make against
it: a deadline is ahead of `now` when their difference, read as a signed
word, is positive.
-/

namespace EsbEndpoint

/-- `(int32_t)(deadline - now) > 0` -/
def after (deadline now : UInt32) : Bool :=
  deadline - now != 0 && deadline - now < 0x80000000

/-- `(now == 0) ? 1 : now`: a time stamp for which zero means "never". -/
def stampOf (now : UInt32) : UInt32 := if now == 0 then 1 else now

theorem stampOf_ne_zero (now : UInt32) : stampOf now ≠ 0 := by
  unfold stampOf
  split
  · decide
  · rename_i hne
    exact fun h => hne (beq_iff_eq.2 h)

/-- Milliseconds from `start` to `now`, over the wrap. -/
def elapsed (start now : UInt32) : Nat := (now - start).toNat

/-- One step of `xorshift32`. -/
def xorshift32 (x : UInt32) : UInt32 :=
  let x := x ^^^ (x <<< 13)
  let x := x ^^^ (x >>> 17)
  x ^^^ (x <<< 5)

end EsbEndpoint
