import EsbEndpoint.Common.Deadline
import EsbEndpoint.Common.Run
import EsbEndpoint.Hop.Pick

/-!
# How long a hold lasts

`quarantine_add` keeps the greater of two expiries as plain numbers, and
`quarantine_is` compares them over the wrap. So an add near the wrap of
the clock can be refused in favour of a hold that has long ended, and a
hold that has ended is not cleared: half a turn of the clock after its end
it is back.
-/

namespace EsbEndpoint

/-! ## An add -/

section Add

variable (q : QuarantineState) (now : UInt32) (channel : UInt8) (holdMs : UInt32)

/-- **The add takes effect**: the channel is quarantined for the whole
hold, and the other channels are as they were. -/
structure TakesEffect : Prop where
  held : ∀ k, k < holdMs.toNat →
    quarantineIs (quarantineAdd q now channel holdMs) (now + UInt32.ofNat k) channel = true
  others : ∀ c, c ≠ channel → ∀ t,
    quarantineIs (quarantineAdd q now channel holdMs) t c = quarantineIs q t c

/-- The new expiry is the greater number, or the hold there is has not
ended and covers the new one. -/
def HoldFits : Prop :=
  q channel < now + holdMs ∨
    q channel ≠ 0 ∧ holdMs.toNat ≤ (q channel - now).toNat ∧
      (q channel - now).toNat < 2147483648

instance : Decidable (HoldFits q now channel holdMs) :=
  inferInstanceAs (Decidable (_ ∨ _ ∧ _ ∧ _))

variable {q now channel holdMs}

theorem quarantineIs_iff (hband : channel.toNat < channelHopChannelCount) :
    quarantineIs q now channel = true ↔ q channel ≠ 0 ∧ after (q channel) now = true := by
  unfold quarantineIs
  rw [if_neg (Nat.not_le.2 hband)]
  by_cases hzero : q channel = 0
  · rw [hzero]
    exact iff_of_false (by simp) fun h => h.1 rfl
  · rw [if_neg (by rw [beq_iff_eq]; exact hzero)]
    exact ⟨fun h => ⟨hzero, h⟩, fun h => h.2⟩

theorem quarantineAdd_apply (hband : channel.toNat < channelHopChannelCount) :
    quarantineAdd q now channel holdMs channel =
      if q channel < now + holdMs then now + holdMs else q channel := by
  unfold quarantineAdd
  rw [if_neg (Nat.not_le.2 hband)]
  split
  · exact if_pos rfl
  · rfl

/-- An add touches the one channel. -/
theorem quarantineAdd_of_ne {c : UInt8} (hne : c ≠ channel) :
    quarantineAdd q now channel holdMs c = q c := by
  unfold quarantineAdd
  split
  · rfl
  · dsimp only
    split
    · exact if_neg hne
    · rfl

theorem quarantineIs_congr {q' : QuarantineState} {c : UInt8} (h : q' c = q c) (t : UInt32) :
    quarantineIs q' t c = quarantineIs q t c := by
  unfold quarantineIs
  rw [h]

/-- The hold lasts exactly as long as the expiry stays ahead. -/
theorem after_throughout_iff {expiry : UInt32} (hpos : 0 < holdMs) :
    (∀ k, k < holdMs.toNat → after expiry (now + UInt32.ofNat k) = true) ↔
      holdMs.toNat ≤ (expiry - now).toNat ∧ (expiry - now).toNat < 2147483648 := by
  have hlt := holdMs.toNat_lt
  have hdiff : ∀ k, k < holdMs.toNat → (expiry - (now + UInt32.ofNat k)).toNat =
      (4294967296 - k + (expiry - now).toNat) % 4294967296 := by
    intro k hk
    have hk' : (UInt32.ofNat k).toNat = k := UInt32.toNat_ofNat_of_lt' (by
      unfold UInt32.size
      omega)
    rw [show expiry - (now + UInt32.ofNat k) = expiry - now - UInt32.ofNat k from by grind,
      UInt32.toNat_sub, hk']
  have hleft := (expiry - now).toNat_lt
  rw [UInt32.lt_iff_toNat_lt] at hpos
  have hzero : (0 : UInt32).toNat = 0 := rfl
  constructor
  · intro hall
    have hfirst := after_iff.1 (hall 0 (by omega))
    rw [hdiff _ (by omega)] at hfirst
    refine ⟨?_, by omega⟩
    by_contra hshort
    -- the deadline itself falls within the hold
    have hends := after_iff.1 (hall (expiry - now).toNat (by omega))
    rw [hdiff _ (by omega)] at hends
    omega
  · rintro ⟨hcover, hhalf⟩ k hk
    rw [after_iff, hdiff k hk]
    omega

/-- **An add takes effect** just when the hold fits the one there is: for
every store, every uptime, every channel of the band and every hold under
half a turn. -/
theorem takesEffect_iff (q : QuarantineState) (now : UInt32) (channel : UInt8) (holdMs : UInt32)
    (hband : channel.toNat < channelHopChannelCount) (hpos : 0 < holdMs)
    (hhalf : holdMs.toNat < 2147483648) :
    TakesEffect q now channel holdMs ↔ HoldFits q now channel holdMs := by
  have hothers : ∀ c, c ≠ channel → ∀ t,
      quarantineIs (quarantineAdd q now channel holdMs) t c = quarantineIs q t c :=
    fun c hne t => quarantineIs_congr (quarantineAdd_of_ne hne) t
  have hheld : (∀ k, k < holdMs.toNat →
      quarantineIs (quarantineAdd q now channel holdMs) (now + UInt32.ofNat k) channel = true) ↔
        HoldFits q now channel holdMs := by
    have hexpiry := @quarantineAdd_apply q now channel holdMs hband
    simp only [quarantineIs_iff hband, hexpiry]
    unfold HoldFits
    by_cases hnew : q channel < now + holdMs
    · rw [if_pos hnew]
      refine iff_of_true (fun k hk => ⟨?_, ?_⟩) (Or.inl hnew)
      · intro hzero
        rw [hzero] at hnew
        exact absurd hnew UInt32.not_lt_zero
      · refine (after_throughout_iff hpos).2 ?_ k hk
        rw [show now + holdMs - now = holdMs from by grind]
        exact ⟨Nat.le_refl _, hhalf⟩
    · rw [if_neg hnew, or_iff_right hnew, ← after_throughout_iff hpos]
      have hfirst : 0 < holdMs.toNat := UInt32.lt_iff_toNat_lt.1 hpos
      exact ⟨fun h => ⟨(h 0 hfirst).1, fun k hk => (h k hk).2⟩, fun h k hk => ⟨h.1, h.2 k hk⟩⟩
  exact ⟨fun h => hheld.1 h.held, fun h => ⟨hheld.2 h, hothers⟩⟩

/-- The first hold of channel 40. -/
theorem takesEffect_first : TakesEffect quarantineReset 1000 40 300000 :=
  (takesEffect_iff quarantineReset 1000 40 300000 (by decide) (by decide) (by decide)).2
    (by decide)

/-- **An add near the wrap of the clock is refused** for a hold that ended
five seconds ago: the new expiry is the lesser number. -/
theorem not_takesEffect :
    quarantineIs (quarantineAdd quarantineReset 4294657296 40 300000) 4294962296 40 = false ∧
      ¬ TakesEffect (quarantineAdd quarantineReset 4294657296 40 300000) 4294962296 40 300000 := by
  refine ⟨by decide, fun h => ?_⟩
  have hheld := h.held 0 (by decide)
  exact absurd hheld (by decide)

end Add

/-! ## Histories -/

/-- A store on a clock that runs for ever. `endsAt` is the true time the
hold kept for a channel ends at, and `ended` whether `quarantine_is` has
been false for it since its last add. -/
structure QuarantineRun where
  q : QuarantineState := quarantineReset
  uptime : Nat
  endsAt : UInt8 → Nat := fun _ => 0
  ended : UInt8 → Bool := fun _ => true

inductive QuarantineOp
  | reset
  | add (channel : UInt8) (holdMs : UInt32)
  /-- time passes -/
  | wait (ms : Nat)

namespace QuarantineRun

variable (s : QuarantineRun)

/-- `k_uptime_get_32` -/
def now : UInt32 := UInt32.ofNat s.uptime

/-- What the operation does to the store and the clock. -/
def apply : QuarantineOp → QuarantineRun
  | .reset => { s with q := quarantineReset }
  | .add channel holdMs =>
    { s with
      q := quarantineAdd s.q s.now channel holdMs
      endsAt := fun ch =>
        if ch = channel ∧ s.q channel < s.now + holdMs then s.uptime + holdMs.toNat
        else s.endsAt ch
      ended := fun ch => if ch = channel then false else s.ended ch }
  | .wait ms => { s with uptime := s.uptime + ms }

/-- And what is then seen of it. -/
def observe : QuarantineRun :=
  { s with ended := fun ch => s.ended ch || !quarantineIs s.q s.now ch }

def step (op : QuarantineOp) : QuarantineRun := (s.apply op).observe

/-- A store that has just been reset. -/
def start (uptime : Nat) : QuarantineRun := { uptime }

/-- **What is over stays over**: no channel of the band is quarantined
that was seen not to be since its last add. -/
def StaysOver : Prop :=
  ∀ ch ∈ channels, s.ended ch = true → quarantineIs s.q s.now ch = false

instance : Decidable s.StaysOver :=
  inferInstanceAs (Decidable (∀ ch ∈ channels, s.ended ch = true → _ = false))

/-- The clock goes to where no hold that is over and was never cleared
comes back, and none of half a turn or more, which is over from the start,
begins. -/
def Passes : QuarantineOp → Prop
  | .wait ms =>
    ∀ ch ∈ channels, s.ended ch = true → s.q ch ≠ 0 →
      if s.endsAt ch ≤ s.uptime + ms then ¬ ComesBack (s.uptime + ms - s.endsAt ch)
      else s.uptime + ms + 2147483648 ≤ s.endsAt ch
  | _ => True

instance : (op : QuarantineOp) → Decidable (s.Passes op)
  | .wait ms =>
    inferInstanceAs (Decidable (∀ ch ∈ channels, s.ended ch = true → s.q ch ≠ 0 →
      if s.endsAt ch ≤ s.uptime + ms then ¬ ComesBack (s.uptime + ms - s.endsAt ch)
      else s.uptime + ms + 2147483648 ≤ s.endsAt ch))
  | .reset => inferInstanceAs (Decidable True)
  | .add _ _ => inferInstanceAs (Decidable True)

/-- What the store holds of a channel is the end of its hold, and that is
less than a turn away. -/
structure Sound : Prop where
  ends : ∀ ch ∈ channels, s.q ch ≠ 0 → s.q ch = UInt32.ofNat (s.endsAt ch)
  near : ∀ ch ∈ channels, s.q ch ≠ 0 → s.endsAt ch < s.uptime + 4294967296

theorem sound_start (uptime : Nat) : (start uptime).Sound :=
  ⟨fun _ _ hne => absurd rfl hne, fun _ _ hne => absurd rfl hne⟩

variable {s}

theorem Sound.step (h : s.Sound) (op : QuarantineOp) : (s.step op).Sound := by
  cases op with
  | reset => exact ⟨fun _ _ hne => absurd rfl hne, fun _ _ hne => absurd rfl hne⟩
  | wait ms =>
    refine ⟨h.ends, fun ch hch hne => ?_⟩
    have hnear := h.near ch hch hne
    show s.endsAt ch < s.uptime + ms + 4294967296
    omega
  | add channel holdMs =>
    -- an add moves the hold of its own channel at most, and only if it is later
    have hother : ∀ ch, ch ≠ channel → (s.step (.add channel holdMs)).q ch = s.q ch ∧
        (s.step (.add channel holdMs)).endsAt ch = s.endsAt ch :=
      fun ch hne => ⟨quarantineAdd_of_ne hne, if_neg fun hadd => hne hadd.1⟩
    have hadded : channel ∈ channels →
        (s.step (.add channel holdMs)).q channel = s.q channel ∧
            (s.step (.add channel holdMs)).endsAt channel = s.endsAt channel ∨
          (s.step (.add channel holdMs)).q channel = s.now + holdMs ∧
            (s.step (.add channel holdMs)).endsAt channel = s.uptime + holdMs.toNat := by
      intro hband
      have happly := @quarantineAdd_apply s.q s.now channel holdMs (mem_channels.1 hband)
      by_cases hnew : s.q channel < s.now + holdMs
      · rw [if_pos hnew] at happly
        exact Or.inr ⟨happly, if_pos ⟨rfl, hnew⟩⟩
      · rw [if_neg hnew] at happly
        exact Or.inl ⟨happly, if_neg fun hadd => hnew hadd.2⟩
    have hlt := holdMs.toNat_lt
    refine ⟨fun ch hch hne => ?_, fun ch hch hne => ?_⟩
    · by_cases hsame : ch = channel
      · subst hsame
        rcases hadded hch with ⟨hq, hends⟩ | ⟨hq, hends⟩
        · rw [hq] at hne ⊢
          rw [hends, h.ends ch hch hne]
        · rw [hq, hends]
          exact ofNat_add_ofNat _ _
      · obtain ⟨hq, hends⟩ := hother ch hsame
        rw [hq] at hne ⊢
        rw [hends, h.ends ch hch hne]
    · show (s.step (.add channel holdMs)).endsAt ch < s.uptime + 4294967296
      by_cases hsame : ch = channel
      · subst hsame
        rcases hadded hch with ⟨hq, hends⟩ | ⟨-, hends⟩
        · rw [hq] at hne
          rw [hends]
          exact h.near ch hch hne
        · rw [hends]
          omega
      · obtain ⟨hq, hends⟩ := hother ch hsame
        rw [hq] at hne
        rw [hends]
        exact h.near ch hch hne

/-- What a step has just seen to be over is no matter: only a channel that
was over before can be back. -/
theorem staysOver_step_iff (op : QuarantineOp) :
    (s.step op).StaysOver ↔ ∀ ch ∈ channels, (s.apply op).ended ch = true →
      quarantineIs (s.apply op).q (s.apply op).now ch = false := by
  refine forall₂_congr fun ch _ => ?_
  show ((s.apply op).ended ch || !quarantineIs (s.apply op).q (s.apply op).now ch) = true →
    quarantineIs (s.apply op).q (s.apply op).now ch = false ↔ _
  cases quarantineIs (s.apply op).q (s.apply op).now ch with
  | true => rw [Bool.not_true, Bool.or_false]
  | false => exact iff_of_true (fun _ => rfl) fun _ => rfl

/-- **One step** keeps what is over just when it passes. -/
theorem staysOver_iff_passes (h : s.Sound) (hover : s.StaysOver) (op : QuarantineOp) :
    (s.step op).StaysOver ↔ s.Passes op := by
  rw [staysOver_step_iff]
  cases op with
  | reset =>
    refine iff_of_true (fun ch hch _ => ?_) trivial
    rw [Bool.eq_false_iff, ne_eq, quarantineIs_iff (mem_channels.1 hch)]
    exact fun hquar => hquar.1 rfl
  | add channel holdMs =>
    refine iff_of_true (fun ch hch hkept => ?_) trivial
    have hne : ch ≠ channel := by
      rintro rfl
      have hfalse : (s.apply (.add ch holdMs)).ended ch = false := if_pos rfl
      exact Bool.noConfusion (hkept.symm.trans hfalse)
    have hwas : s.ended ch = true := by
      rw [← hkept]
      exact (if_neg hne).symm
    exact (quarantineIs_congr (quarantineAdd_of_ne hne) s.now).trans (hover ch hch hwas)
  | wait ms =>
    refine forall₂_congr fun ch hch => forall_congr' fun _ => ?_
    rw [Bool.eq_false_iff, ne_eq, quarantineIs_iff (mem_channels.1 hch), not_and]
    refine forall_congr' fun hne => ?_
    show ¬ after (s.q ch) (UInt32.ofNat (s.uptime + ms)) = true ↔ _
    rw [h.ends ch hch hne]
    have hnear := h.near ch hch hne
    split
    · rename_i hpast
      rw [after_ofNat_of_past hpast]
    · rename_i hahead
      rw [after_ofNat_of_le (by omega) (by omega)]
      omega

end QuarantineRun

/-- **An expired quarantine stays expired** through a history from a reset
on, whenever that was, exactly if the clock passes every hold that is
over. -/
theorem staysOver_run_iff (uptime : Nat) (ops : List QuarantineOp) :
    Throughout QuarantineRun.step QuarantineRun.StaysOver (.start uptime) ops ↔
      Guarded QuarantineRun.step QuarantineRun.Passes (.start uptime) ops := by
  refine throughout_iff_guarded (I := QuarantineRun.Sound) (D := fun _ _ => True)
    (fun _ op h _ => h.step op)
    (fun _ op h _ hover => QuarantineRun.staysOver_iff_passes h hover op)
    (QuarantineRun.sound_start uptime) (fun ch hch _ => ?_) (Guarded.of_forall fun _ _ => trivial)
  rw [Bool.eq_false_iff, ne_eq, quarantineIs_iff (mem_channels.1 hch)]
  exact fun hquar => hquar.1 rfl

/-- **Half a turn after its end a hold is back**: channel 40, held for
five minutes, and seen to be free when they are over. -/
theorem not_staysOver :
    ¬ Throughout QuarantineRun.step QuarantineRun.StaysOver (.start 0)
      [.add 40 300000, .wait 300000, .wait 2147483649] := by
  decide +kernel

end EsbEndpoint
