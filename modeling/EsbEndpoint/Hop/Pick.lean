import EsbEndpoint.Common.Xorshift
import EsbEndpoint.Hop.Quarantine
import Mathlib.Order.Bounds.Basic

/-!
# What a pick is

`channel_hop_pick` relaxes its distance until some channel is left, and
draws from what is left. In terms of the band: it finds the greatest
distance up to the one asked for at which some usable channel is clear of
every quarantined one, and every channel clear by that distance can be
drawn.
-/

namespace EsbEndpoint

variable (q : QuarantineState) (now : UInt32) (avoidChannel : UInt8)

/-- How far apart two channels are. -/
def channelGap (a b : UInt8) : Nat := ((a.toNat : Int) - b.toNat).natAbs

/-- A channel of the band that is neither quarantined nor the avoided
one. -/
structure Usable (ch : UInt8) : Prop where
  inBand : ch.toNat < channelHopChannelCount
  free : quarantineIs q now ch = false
  ne_avoid : ch ≠ avoidChannel

/-- A usable channel more than `d` away from every quarantined one and,
where there is a distance to keep, from the avoided one too. -/
structure ClearBy (d : Nat) (ch : UInt8) : Prop extends Usable q now avoidChannel ch where
  quarantined : ∀ c : UInt8, c.toNat < channelHopChannelCount → quarantineIs q now c = true →
    d < channelGap ch c
  avoided : 0 < d → avoidChannel.toNat < channelHopChannelCount → d < channelGap ch avoidChannel

/-- The distances up to `minDistance` by which some channel is clear. -/
def clearDistances (minDistance : Nat) : Set Nat :=
  {d | d ≤ minDistance ∧ ∃ ch, ClearBy q now avoidChannel d ch}

/-- **A maximal pick**, drawn by the state of a generator. -/
structure PicksMaximally (minDistance : Nat) (pick : UInt32 → UInt8) : Prop where
  invalid_iff : ∀ prngState,
    pick prngState = channelHopInvalid ↔ ¬ ∃ ch, Usable q now avoidChannel ch
  usable : ∀ prngState, (∃ ch, Usable q now avoidChannel ch) →
    Usable q now avoidChannel (pick prngState)
  relaxed : (∃ ch, Usable q now avoidChannel ch) →
    ∃ d, IsGreatest (clearDistances q now avoidChannel minDistance) d
  clear : ∀ prngState d, IsGreatest (clearDistances q now avoidChannel minDistance) d →
    ClearBy q now avoidChannel d (pick prngState)
  drawn : ∀ d, IsGreatest (clearDistances q now avoidChannel minDistance) d →
    ∀ ch, ClearBy q now avoidChannel d ch → ∃ prngState, pick prngState = ch

variable {q now avoidChannel}

/-! ## The loops -/

theorem channelHopChannelCount_lt_size : channelHopChannelCount < UInt8.size := by decide

theorem mem_channels {ch : UInt8} : ch ∈ channels ↔ ch.toNat < channelHopChannelCount := by
  unfold channels
  rw [List.mem_map]
  constructor
  · rintro ⟨n, hn, rfl⟩
    have hlt := List.mem_range.1 hn
    rw [UInt8.toNat_ofNat_of_lt' (Nat.lt_trans hlt channelHopChannelCount_lt_size)]
    exact hlt
  · intro h
    exact ⟨ch.toNat, List.mem_range.2 h, UInt8.ofNat_toNat⟩

theorem channelGap_pos {a b : UInt8} (h : a ≠ b) : 0 < channelGap a b := by
  have hne : a.toNat ≠ b.toNat := fun heq => h (UInt8.toNat_inj.1 heq)
  unfold channelGap
  omega

/-- The scan of the neighbourhood finds the quarantined channels in it. -/
theorem withinDistanceOfQuarantine_iff {ch : UInt8} {d : Nat} :
    withinDistanceOfQuarantine q now ch d = true ↔
      ∃ c : UInt8, c.toNat < channelHopChannelCount ∧ c ≠ ch ∧ quarantineIs q now c = true ∧
        channelGap ch c ≤ d := by
  unfold withinDistanceOfQuarantine
  simp only [List.any_eq_true, List.mem_range, Bool.and_eq_true, decide_eq_true_eq, bne_iff_ne]
  constructor
  · rintro ⟨k, hk, ⟨⟨hlo, hhi⟩, hne⟩, hquar⟩
    have hnat : (UInt8.ofNat ((ch.toNat : Int) - d + k).toNat).toNat =
        ((ch.toNat : Int) - d + k).toNat :=
      UInt8.toNat_ofNat_of_lt' (Nat.lt_trans (by omega) channelHopChannelCount_lt_size)
    refine ⟨_, by omega, ?_, hquar, ?_⟩
    · rintro heq
      have := congrArg UInt8.toNat heq
      omega
    · unfold channelGap
      omega
  · rintro ⟨c, hband, hne, hquar, hgap⟩
    unfold channelGap at hgap
    have hval : ((ch.toNat : Int) - d + (c.toNat + d - ch.toNat : Nat)) = c.toNat := by omega
    refine ⟨c.toNat + d - ch.toNat, by omega, ?_⟩
    rw [hval, Int.toNat_natCast, UInt8.ofNat_toNat]
    refine ⟨⟨⟨by omega, by omega⟩, fun heq => hne (UInt8.toNat_inj.1 ?_)⟩, hquar⟩
    omega

/-- **What the loop keeps** at a distance is what is clear by it. -/
theorem isCandidate_iff {ch : UInt8} {d : Nat} :
    ch ∈ channels.filter (isCandidate q now avoidChannel d) ↔ ClearBy q now avoidChannel d ch := by
  rw [List.mem_filter, mem_channels]
  unfold isCandidate
  simp only [Bool.and_eq_true, Bool.not_eq_true', bne_iff_ne, Bool.and_eq_false_iff,
    decide_eq_false_iff_not, Nat.not_lt]
  constructor
  · rintro ⟨hband, ⟨⟨hfree, hne⟩, hnear⟩, havoid⟩
    refine ⟨⟨hband, hfree, hne⟩, fun c hc hquar => ?_, fun hd hin => ?_⟩
    · have hdiff : c ≠ ch := by
        rintro rfl
        exact Bool.noConfusion (hfree.symm.trans hquar)
      rcases hnear with hd | hnone
      · have := channelGap_pos hdiff.symm
        omega
      · by_contra hle
        rw [Bool.eq_false_iff] at hnone
        exact hnone (withinDistanceOfQuarantine_iff.2 ⟨c, hc, hdiff, hquar, Nat.not_lt.1 hle⟩)
    · unfold channelGap
      omega
  · rintro ⟨⟨hband, hfree, hne⟩, hquar, havoid⟩
    refine ⟨hband, ⟨⟨hfree, hne⟩, ?_⟩, ?_⟩
    · refine Or.inr (Bool.eq_false_iff.2 fun hnear => ?_)
      obtain ⟨c, hc, -, hcquar, hgap⟩ := withinDistanceOfQuarantine_iff.1 hnear
      exact absurd hgap (Nat.not_le.2 (hquar c hc hcquar))
    · unfold channelGap at havoid
      omega

/-- With no distance to keep, every usable channel is clear. -/
theorem clearBy_zero {ch : UInt8} (h : Usable q now avoidChannel ch) :
    ClearBy q now avoidChannel 0 ch := by
  refine ⟨h, fun c hc hquar => channelGap_pos ?_, fun hpos => absurd hpos (Nat.lt_irrefl 0)⟩
  rintro rfl
  exact Bool.noConfusion (h.free.symm.trans hquar)

/-- **The relaxation stops at the greatest distance** that leaves a
channel, and runs out just when none is usable. -/
theorem candidates_spec (d : Nat) :
    candidates q now avoidChannel d = [] ∧ (¬ ∃ ch, Usable q now avoidChannel ch) ∨
      ∃ d', IsGreatest (clearDistances q now avoidChannel d) d' ∧
        candidates q now avoidChannel d =
          channels.filter (isCandidate q now avoidChannel d') := by
  have hkeep : ∀ d', channels.filter (isCandidate q now avoidChannel d') = [] ∨
      ∃ ch, ClearBy q now avoidChannel d' ch := by
    intro d'
    cases hfound : channels.filter (isCandidate q now avoidChannel d') with
    | nil => exact Or.inl rfl
    | cons ch chs =>
      refine Or.inr ⟨ch, isCandidate_iff.1 ?_⟩
      rw [hfound]
      exact List.mem_cons_self
  induction d with
  | zero =>
    rcases hkeep 0 with hnil | ⟨ch, hch⟩
    · refine Or.inl ⟨hnil, ?_⟩
      rintro ⟨ch, hch⟩
      have hmem := isCandidate_iff.2 (clearBy_zero hch)
      rw [hnil] at hmem
      exact absurd hmem List.not_mem_nil
    · exact Or.inr ⟨0, ⟨⟨Nat.le_refl 0, ch, hch⟩, fun d' hd' => hd'.1⟩, rfl⟩
  | succ d ih =>
    unfold candidates
    dsimp only
    rcases hkeep (d + 1) with hnil | ⟨ch, hch⟩
    · rw [hnil, List.isEmpty_nil, if_pos rfl]
      -- nothing is clear by the distance just given up
      have hdrop : clearDistances q now avoidChannel (d + 1) =
          clearDistances q now avoidChannel d := by
        ext d'
        refine and_congr_left ?_
        rintro ⟨ch, hch⟩
        refine ⟨fun hle => ?_, fun hle => by omega⟩
        by_contra hlt
        obtain rfl : d' = d + 1 := by omega
        have hmem := isCandidate_iff.2 hch
        rw [hnil] at hmem
        exact absurd hmem List.not_mem_nil
      rw [hdrop]
      exact ih
    · have hmem := isCandidate_iff.2 hch
      have hne : (channels.filter (isCandidate q now avoidChannel (d + 1))).isEmpty = false := by
        rw [List.isEmpty_eq_false_iff]
        exact List.ne_nil_of_mem hmem
      rw [hne, if_neg Bool.false_ne_true]
      exact Or.inr ⟨d + 1, ⟨⟨Nat.le_refl _, ch, hch⟩, fun d' hd' => hd'.1⟩, rfl⟩

/-! ## The draw -/

theorem length_candidates_le (d : Nat) :
    (candidates q now avoidChannel d).length ≤ channelHopChannelCount := by
  have hfilter : ∀ d', (channels.filter (isCandidate q now avoidChannel d')).length ≤
      channelHopChannelCount := by
    intro d'
    refine Nat.le_trans (List.length_filter_le _ _) (Nat.le_of_eq ?_)
    unfold channels
    rw [List.length_map, List.length_range]
  rcases @candidates_spec q now avoidChannel d with ⟨hnil, -⟩ | ⟨d', -, hfound⟩
  · rw [hnil]
    exact Nat.zero_le _
  · rw [hfound]
    exact hfilter d'

theorem channelHopPick_mem {cycle prngState : UInt32} {d : Nat}
    (hne : candidates q now avoidChannel d ≠ []) :
    (channelHopPick q now cycle prngState d avoidChannel).1 ∈ candidates q now avoidChannel d := by
  unfold channelHopPick
  cases hfound : candidates q now avoidChannel d with
  | nil => exact absurd hfound hne
  | cons c cs =>
    have hlt : (prngNext now cycle prngState).toNat % (c :: cs).length < (c :: cs).length :=
      Nat.mod_lt _ (Nat.succ_pos _)
    dsimp only
    rw [List.getD_eq_getElem _ channelHopInvalid hlt]
    exact List.getElem_mem hlt

/-- **Every candidate is drawn** from some state of the generator. -/
theorem exists_channelHopPick_eq (cycle : UInt32) {d : Nat} {ch : UInt8}
    (hch : ch ∈ candidates q now avoidChannel d) :
    ∃ prngState, (channelHopPick q now cycle prngState d avoidChannel).1 = ch := by
  have hle := @length_candidates_le q now avoidChannel d
  obtain ⟨i, hi, hget⟩ := List.getElem_of_mem hch
  have hcount : channelHopChannelCount = 101 := rfl
  -- one turn past the index, so that the number drawn is not zero
  have hnat : (UInt32.ofNat (i + (candidates q now avoidChannel d).length)).toNat =
      i + (candidates q now avoidChannel d).length :=
    UInt32.toNat_ofNat_of_lt' (by unfold UInt32.size; omega)
  obtain ⟨prngState, hstate, hdraw⟩ := @exists_xorshift32_eq
    (UInt32.ofNat (i + (candidates q now avoidChannel d).length)) (by
      intro hzero
      have hzero' := congrArg UInt32.toNat hzero
      rw [hnat] at hzero'
      have : (0 : UInt32).toNat = 0 := rfl
      omega)
  refine ⟨prngState, ?_⟩
  have hnext : prngNext now cycle prngState =
      UInt32.ofNat (i + (candidates q now avoidChannel d).length) := by
    have hseed : (prngState == 0) = false := beq_eq_false_iff_ne.2 hstate
    unfold prngNext
    simp only [hseed, Bool.false_eq_true, if_false, hdraw]
  unfold channelHopPick
  dsimp only
  rw [hnext, hnat]
  generalize candidates q now avoidChannel d = found at hi hget ⊢
  cases found with
  | nil => exact absurd hi (Nat.not_lt_zero _)
  | cons c cs =>
    dsimp only
    rw [Nat.add_mod_right, Nat.mod_eq_of_lt hi, List.getD_eq_getElem _ channelHopInvalid hi, hget]

/-- **`channel_hop_pick` picks maximally**, for every store, uptime,
distance and avoided channel, and whatever the cycle counter shows. -/
theorem channelHopPick_maximal (q : QuarantineState) (now : UInt32) (avoidChannel : UInt8)
    (cycle : UInt32) (minDistance : Nat) :
    PicksMaximally q now avoidChannel minDistance fun prngState =>
      (channelHopPick q now cycle prngState minDistance avoidChannel).1 := by
  have hinvalid : ¬ Usable q now avoidChannel channelHopInvalid :=
    fun h => absurd h.inBand (by decide)
  rcases @candidates_spec q now avoidChannel minDistance with ⟨hnil, hnone⟩ | ⟨d, hd, hfound⟩
  · have hpick : ∀ prngState, (channelHopPick q now cycle prngState minDistance avoidChannel).1 =
        channelHopInvalid := by
      intro prngState
      unfold channelHopPick
      rw [hnil]
    have hno : ∀ d', ¬ IsGreatest (clearDistances q now avoidChannel minDistance) d' := by
      rintro d' ⟨⟨-, ch, hch⟩, -⟩
      exact hnone ⟨ch, hch.toUsable⟩
    exact ⟨fun s => iff_of_true (hpick s) hnone, fun _ h => absurd h hnone,
      fun h => absurd h hnone, fun _ d' h => absurd h (hno d'), fun d' h => absurd h (hno d')⟩
  · obtain ⟨-, ch₀, hch₀⟩ := hd.1
    have hne : candidates q now avoidChannel minDistance ≠ [] := by
      rw [hfound]
      exact List.ne_nil_of_mem (isCandidate_iff.2 hch₀)
    have hpick : ∀ prngState, ClearBy q now avoidChannel d
        (channelHopPick q now cycle prngState minDistance avoidChannel).1 := by
      intro prngState
      refine isCandidate_iff.1 ?_
      rw [← hfound]
      exact channelHopPick_mem hne
    refine ⟨fun s => iff_of_false (fun heq => ?_) fun hnone => hnone ⟨ch₀, hch₀.toUsable⟩,
      fun s _ => (hpick s).toUsable, fun _ => ⟨d, hd⟩, fun s d' hd' => ?_, fun d' hd' ch hch => ?_⟩
    · exact hinvalid (heq ▸ (hpick s).toUsable)
    · rw [← hd.unique hd']
      exact hpick s
    · rw [← hd.unique hd'] at hch
      refine exists_channelHopPick_eq cycle ?_
      rw [hfound]
      exact isCandidate_iff.2 hch

end EsbEndpoint
