import EsbEndpoint.Common.Clock
import Mathlib.Data.List.GetD

/-!
# Quarantine and candidate selection

`src/esb/channel_hop.c`. A quarantine store maps each channel to the
uptime its hold ends at; selection filters the band by the store and by a
distance that is relaxed until something is left, and draws from what is
left with a generator of its own.
-/

namespace EsbEndpoint

abbrev channelHopChannelCount : Nat := 101

abbrev channelHopInvalid : UInt8 := 0xFF

/-- `struct quarantine_state`: `expires_at`, read and written on
`0..100` only. -/
abbrev QuarantineState := UInt8 → UInt32

def quarantineReset : QuarantineState := fun _ => 0

variable (q : QuarantineState) (now : UInt32)

/-- `m_quarantine.expires_at[channel] = expiry` -/
def setExpiry (channel : UInt8) (expiry : UInt32) : QuarantineState :=
  fun ch => if ch = channel then expiry else q ch

def quarantineAdd (channel : UInt8) (holdMs : UInt32) : QuarantineState :=
  if channelHopChannelCount ≤ channel.toNat then q
  else
    let newExpiry := now + holdMs
    if q channel < newExpiry then setExpiry q channel newExpiry else q

def quarantineIs (channel : UInt8) : Bool :=
  if channelHopChannelCount ≤ channel.toNat then true
  else if q channel == 0 then false
  else after (q channel) now

/-- The band, `0..100`. -/
def channels : List UInt8 := (List.range channelHopChannelCount).map UInt8.ofNat

def withinDistanceOfQuarantine (channel : UInt8) (distance : Nat) : Bool :=
  (List.range (2 * distance + 1)).any fun k =>
    let i : Int := channel.toNat - distance + k
    0 ≤ i && i < channelHopChannelCount && i != channel.toNat &&
      quarantineIs q now (UInt8.ofNat i.toNat)

/-- Whether the loop of `channel_hop_pick` at distance `d` keeps `ch`. -/
def isCandidate (avoidChannel : UInt8) (d : Nat) (ch : UInt8) : Bool :=
  !quarantineIs q now ch && ch != avoidChannel &&
    !(0 < d && withinDistanceOfQuarantine q now ch d) &&
    !(0 < d && avoidChannel.toNat < channelHopChannelCount &&
      ((ch.toNat : Int) - avoidChannel.toNat).natAbs ≤ d)

/-- The candidates at the largest distance up to `d` that has any. -/
def candidates (avoidChannel : UInt8) : Nat → List UInt8
  | 0 => channels.filter (isCandidate q now avoidChannel 0)
  | d + 1 =>
    let found := channels.filter (isCandidate q now avoidChannel (d + 1))
    if found.isEmpty then candidates avoidChannel d else found

/-- `prng_next`: the new state is also the number drawn. -/
def prngNext (cycle prngState : UInt32) : UInt32 :=
  let seed := if prngState == 0 then now ^^^ (cycle * 2654435761) else prngState
  xorshift32 (if seed == 0 then 0xdeadbeef else seed)

/-- `channel_hop_pick`, with the generator's next state. -/
def channelHopPick (cycle prngState : UInt32) (minDistance : Nat) (avoidChannel : UInt8) :
    UInt8 × UInt32 :=
  match candidates q now avoidChannel minDistance with
  | [] => (channelHopInvalid, prngState)
  | c :: cs =>
    let r := prngNext now cycle prngState
    ((c :: cs).getD (r.toNat % (c :: cs).length) channelHopInvalid, r)

/-! ## What a pick can be -/

variable {q now}

theorem mem_candidates {avoidChannel ch : UInt8} {d : Nat}
    (h : ch ∈ candidates q now avoidChannel d) :
    quarantineIs q now ch = false ∧ ch ≠ avoidChannel := by
  have hkeep : ∀ d', ch ∈ channels.filter (isCandidate q now avoidChannel d') →
      quarantineIs q now ch = false ∧ ch ≠ avoidChannel := by
    intro d' hmem
    have hcand := (List.mem_filter.1 hmem).2
    simp only [isCandidate, Bool.and_eq_true, Bool.not_eq_true', bne_iff_ne] at hcand
    exact ⟨hcand.1.1.1, hcand.1.1.2⟩
  induction d with
  | zero => exact hkeep 0 h
  | succ d ih =>
    rw [candidates] at h
    split at h
    · exact ih h
    · exact hkeep (d + 1) h

/-- A pick is invalid, or an unquarantined channel other than the avoided
one. -/
theorem channelHopPick_spec (cycle prngState : UInt32) (minDistance : Nat) (avoidChannel : UInt8) :
    (channelHopPick q now cycle prngState minDistance avoidChannel).1 = channelHopInvalid ∨
      quarantineIs q now (channelHopPick q now cycle prngState minDistance avoidChannel).1 = false ∧
        (channelHopPick q now cycle prngState minDistance avoidChannel).1 ≠ avoidChannel := by
  rw [channelHopPick]
  split
  · exact Or.inl rfl
  · rename_i c cs heq
    right
    have hlt : (prngNext now cycle prngState).toNat % (c :: cs).length < (c :: cs).length :=
      Nat.mod_lt _ (Nat.succ_pos _)
    refine @mem_candidates q now avoidChannel _ minDistance ?_
    have hdrawn := List.getElem_mem hlt
    rw [← List.getD_eq_getElem _ channelHopInvalid hlt] at hdrawn
    rw [heq]
    exact hdrawn

/-- An unquarantined channel is one of the band. -/
theorem lt_of_quarantineIs_eq_false {channel : UInt8} (h : quarantineIs q now channel = false) :
    channel.toNat < channelHopChannelCount := by
  rw [quarantineIs] at h
  split at h
  · exact Bool.noConfusion h
  · omega

end EsbEndpoint
