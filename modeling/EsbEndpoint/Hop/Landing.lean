import EsbEndpoint.Hop.Dwell

/-!
# Where a hop lands

A channel is picked from those out of quarantine, but one that was agreed
on earlier may have been quarantined since. The functions that propose a
channel test it again; `hop_work_fn` and `coop_hop_commit_work_fn`, which
go there, do not. So a hop lands on a channel out of quarantine exactly
when the agreed one still is (`landsClear_iff`).
-/

namespace EsbEndpoint

variable (cfg : Config)

/-- **A hop lands clear**: other than in a revert or a fallback, on a
channel of the band, elsewhere, and out of quarantine as the hop is
made. -/
def LandsClear (s : HopTrace) (op : EpOp) : Prop :=
  changesChannel cfg s op = true → (op = .step .hop → hopKind cfg s.e = .normal) →
    (epStep cfg s op).e.tp.channel.toNat < channelHopChannelCount ∧
      (epStep cfg s op).e.tp.channel ≠ s.e.tp.channel ∧
      quarantineIs s.e.hop.quarantine s.e.now (epStep cfg s op).e.tp.channel = false

instance (s : HopTrace) (op : EpOp) : Decidable (LandsClear cfg s op) :=
  inferInstanceAs (Decidable (_ → (_ → _) → _ ∧ _ ∧ _))

/-- The channel agreed on in advance that a work item which is due would
hop to: the one a `CONFIRM` has settled, or the target of an armed
handshake. -/
def agreedTarget (s : HopTrace) : EpOp → Option UInt8
  | .step .hop =>
    if s.workq = .free ∧ s.e.hop.hopWork = true ∧ hopKind cfg s.e = .normal ∧
        s.e.hop.committedNext ≠ channelHopInvalid ∧ s.e.hop.committedNext ≠ s.e.tp.channel then
      some s.e.hop.committedNext
    else none
  | .step .commit =>
    if s.workq = .free ∧ s.e.hop.coopHopCommitWork.isSome = true ∧
        s.e.hop.coopHopState = .armed ∧ targetElsewhere s.e = true then
      some s.e.hop.coopHopTarget
    else none
  | _ => none

/-- The condition on a step: the agreed channel is out of quarantine, where
the radio would take it. -/
def TargetClear (s : HopTrace) (op : EpOp) : Prop :=
  ∀ c, agreedTarget cfg s op = some c → canSwitch cfg s.e c = true →
    quarantineIs s.e.hop.quarantine s.e.now c = false

variable {cfg} {s : HopTrace} {op : EpOp} {c : UInt8}

/-- An attempt the radio takes lands where it was meant to. -/
theorem channel_of_attempted (hattempt : attempted cfg s op = some c)
    (hyes : canSwitch cfg s.e c = true) : (epStep cfg s op).e.tp.channel = c := by
  unfold attempted at hattempt
  split at hattempt
  · split at hattempt
    · rename_i hrun
      obtain ⟨_, _, ⟨hnone, -, -⟩ | ⟨target, hchoice, ⟨hno, -, -⟩ | ⟨-, -, hchannel⟩⟩⟩ :=
        @hopWorkFn_cases cfg (s.e.mapHop fun h => { h with hopWork := false })
      · exact absurd (hnone.symm.trans hattempt) (by simp)
      · obtain rfl := Option.some.inj (hchoice.symm.trans hattempt)
        exact Bool.noConfusion (hno.symm.trans hyes)
      · obtain rfl := Option.some.inj (hchoice.symm.trans hattempt)
        rw [epStep, hopStep, HopTrace.fire, if_pos hrun]
        exact hchannel
    · exact absurd hattempt (by simp)
  · split at hattempt
    · rename_i hrun
      obtain rfl := Option.some.inj hattempt
      have hcommits : commitsHop cfg s = true := by
        have htarget := hrun.2.2.2
        rw [targetElsewhere, Bool.and_eq_true] at htarget
        rw [commitsHop, hrun.1, hrun.2.1, hrun.2.2.1, htarget.2, hyes]
        rfl
      rw [epStep, channel_commit, if_pos hcommits]
    · exact absurd hattempt (by simp)
  · exact absurd hattempt (by simp)

/-- What is agreed on is what is attempted. -/
theorem attempted_of_agreedTarget (hagreed : agreedTarget cfg s op = some c) :
    attempted cfg s op = some c ∧ (op = .step .hop → hopKind cfg s.e = .normal) := by
  unfold agreedTarget at hagreed
  split at hagreed
  · split at hagreed
    · rename_i hrun
      obtain ⟨hfree, hdue, hkind, hvalid, helse⟩ := hrun
      obtain rfl := Option.some.inj hagreed
      refine ⟨?_, fun _ => hkind⟩
      have hkind' : hopKind cfg (s.e.mapHop fun h => { h with hopWork := false }) = .normal := hkind
      have hnext : (s.e.hop.committedNext != channelHopInvalid &&
          s.e.hop.committedNext != s.e.tp.channel) = true := by
        rw [Bool.and_eq_true, bne_iff_ne, bne_iff_ne]
        exact ⟨hvalid, helse⟩
      unfold attempted
      dsimp only
      rw [if_pos ⟨hfree, hdue⟩, hopChoice, hkind', hopTarget]
      exact congrArg Prod.snd (if_pos hnext)
    · exact absurd hagreed (by simp)
  · exact ⟨hagreed, fun h => absurd h (by simp)⟩
  · exact absurd hagreed (by simp)

/-- What is attempted is agreed on, or picked from the channels out of
quarantine. -/
theorem agreedTarget_of_attempted (hattempt : attempted cfg s op = some c)
    (hkind : op = .step .hop → hopKind cfg s.e = .normal) :
    agreedTarget cfg s op = some c ∨ quarantineIs s.e.hop.quarantine s.e.now c = false := by
  unfold attempted at hattempt
  split at hattempt
  · split at hattempt
    · rename_i hrun
      have hkind' : hopKind cfg (s.e.mapHop fun h => { h with hopWork := false }) = .normal :=
        hkind rfl
      rw [hopChoice, hkind'] at hattempt
      simp only [hopTarget] at hattempt
      split at hattempt
      · rename_i hnext
        rw [Bool.and_eq_true, bne_iff_ne, bne_iff_ne] at hnext
        left
        rw [agreedTarget, if_pos ⟨hrun.1, hrun.2, hkind rfl, hnext.1, hnext.2⟩]
        exact hattempt
      · split at hattempt
        · exact absurd hattempt (by simp)
        · rename_i hvalid
          rw [beq_iff_eq] at hvalid
          obtain rfl := Option.some.inj hattempt
          rcases @channelHopPick_spec s.e.hop.quarantine s.e.now s.e.cycle s.e.hop.prngState
            cfg.channelQuarantineMinDistance s.e.tp.channel with hinvalid | hpick
          · exact absurd hinvalid hvalid
          · exact Or.inr hpick.1
    · exact absurd hattempt (by simp)
  · exact Or.inl hattempt
  · exact absurd hattempt (by simp)

/-- **One step lands clear exactly when its agreed target is clear.** -/
theorem landsClear_step_iff : LandsClear cfg s op ↔ TargetClear cfg s op := by
  constructor
  · intro hlands c hagreed hyes
    obtain ⟨hattempt, hkind⟩ := attempted_of_agreedTarget hagreed
    have hchannel := channel_of_attempted hattempt hyes
    have hchanges : changesChannel cfg s op = true := by
      rcases @attempt_cases cfg s op with ⟨-, hno⟩ | ⟨hchanges, -⟩
      · exact Bool.noConfusion ((hno c hattempt).symm.trans hyes)
      · exact hchanges
    have hclear := (hlands hchanges hkind).2.2
    rw [hchannel] at hclear
    exact hclear
  · intro htarget hchanges hkind
    rcases @attempt_cases cfg s op with ⟨hsame, -⟩ | ⟨-, ⟨c, hattempt, hyes⟩, -⟩
    · exact Bool.noConfusion (hsame.symm.trans hchanges)
    · have hchannel := channel_of_attempted hattempt hyes
      have hclear : quarantineIs s.e.hop.quarantine s.e.now c = false := by
        rcases agreedTarget_of_attempted hattempt hkind with hagreed | hpicked
        · exact htarget c hagreed hyes
        · exact hpicked
      have helse : (epStep cfg s op).e.tp.channel ≠ s.e.tp.channel := by
        rw [changesChannel, Bool.and_eq_true, bne_iff_ne] at hchanges
        exact hchanges.2
      rw [hchannel] at helse ⊢
      exact ⟨lt_of_quarantineIs_eq_false hclear, helse, hclear⟩

/-- **Every hop of a run lands clear, exactly when each agreed channel is
still out of quarantine as it is hopped to.** -/
theorem landsClear_iff (cfg : Config) (deviceId : List UInt8) (saved : Option PairedRec)
    (ops : List EpOp) :
    Guarded (epStep cfg) (LandsClear cfg) (HopTrace.start cfg deviceId saved) ops ↔
      Guarded (epStep cfg) (TargetClear cfg) (HopTrace.start cfg deviceId saved) ops :=
  guarded_congr (I := fun _ => True) (fun _ _ _ => trivial) (fun _ _ _ => landsClear_step_iff)
    trivial

/-- A `CONFIRM` for the channel just left takes the endpoint back to it
within its quarantine. -/
theorem not_landsClear : ¬ ∀ (cfg : Config) (deviceId : List UInt8) (saved : Option PairedRec)
    (ops : List EpOp),
    Guarded (epStep cfg) (LandsClear cfg) (HopTrace.start cfg deviceId saved) ops := by
  intro h
  have hrun := h .default [] none
    [.step .pairingStart, .step (.rx [esbPktPairReq, 1, 2, 3, 4, 5, 6] 7),
      .step (.txDone (.acked 0 [])), .step (.rx [esbPktChannelHopRequest] 1), .step .hop,
      .step (.tick 300),
      .step (.send esbPipeData [esbPktHidReport, esbReportKeyboard, 0, 0, 4, 0, 0, 0, 0, 0]),
      .step (.txDone (.acked 0 [])), .step (.rx [esbPktChannelHopConfirm, 78, 1] 3),
      .step (.rx [esbPktChannelHopRequest] 1), .step .hop]
  exact absurd hrun (by decide +kernel)

end EsbEndpoint
