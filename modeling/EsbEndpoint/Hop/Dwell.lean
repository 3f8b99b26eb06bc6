import EsbEndpoint.Common.Deadline
import EsbEndpoint.Hop.Clock

/-!
# The dwell after a hop

After a channel change the endpoint stays for `CHANNEL_HOP_COOLDOWN_MS`
before `hop_work_fn` may change it again, but for a fallback to the
rendezvous channel. The cooldown is tested where a hop is asked for. So a
hop asked for before a change and still queued, or waiting to be retried,
when another one is made, fires within its cooldown; and so does one that
is queued by a retry that the cooldown does not test (`DwellKept`).
-/

namespace EsbEndpoint

variable (cfg : Config)

/-! ## Runs -/

/-- A run, with the times at which it changed the channel since the last
disconnect, latest first. -/
structure DwellTrace where
  s : HopTrace
  commits : List Nat := []

def dwellStep (t : DwellTrace) (op : EpOp) : DwellTrace where
  s := epStep cfg t.s op
  commits :=
    if epDisconnects cfg t.s op then []
    else if changesChannel cfg t.s op then t.s.e.uptime :: t.commits
    else t.commits

/-- **The dwell is respected**: a hop that is no fallback comes a cooldown
after every channel change before it. -/
def DwellRespected (t : DwellTrace) (op : EpOp) : Prop :=
  op = .step .hop → changesChannel cfg t.s op = true → hopKind cfg t.s.e ≠ .fallback →
    ∀ t₁ ∈ t.commits, t₁ + cfg.channelHopCooldownMs ≤ t.s.e.uptime

instance (t : DwellTrace) (op : EpOp) : Decidable (DwellRespected cfg t op) :=
  inferInstanceAs (Decidable (_ → _ → _ → ∀ t₁ ∈ t.commits, _))

/-- The channel a work item that is due would go to. -/
def attempted (s : HopTrace) : EpOp → Option UInt8
  | .step .hop =>
    if s.workq = .free ∧ s.e.hop.hopWork = true then
      hopChoice cfg (s.e.mapHop fun h => { h with hopWork := false })
    else none
  | .step .commit =>
    if s.workq = .free ∧ s.e.hop.coopHopCommitWork.isSome = true ∧
        s.e.hop.coopHopState = .armed ∧ targetElsewhere s.e = true then
      some s.e.hop.coopHopTarget
    else none
  | _ => none

/-- A channel change is still within its cooldown. -/
def DwellTrace.cooling (t : DwellTrace) : Bool :=
  t.commits.any fun t₁ => t.s.e.uptime < t₁ + cfg.channelHopCooldownMs

/-- The condition on a step. A change of the channel finds no hop to be
retried, and if it is the cooperative one none queued but a fallback; its
cooldown does not end at zero, which reads as no cooldown. And within a
cooldown the radio refuses no change. -/
def DwellKept (t : DwellTrace) (op : EpOp) : Prop :=
  0 < cfg.channelHopCooldownMs → ∀ target, attempted cfg t.s op = some target →
    if canSwitch cfg t.s.e target = true then
      t.s.e.hop.hopRetryWork = none ∧
        (op = .step .commit → t.s.e.hop.hopWork = true →
          cfg.rendezvous = true ∧ t.s.e.hop.rendezvousFallbackPending = true) ∧
        t.s.e.now + UInt32.ofNat cfg.channelHopCooldownMs ≠ 0
    else t.cooling cfg = false

instance (t : DwellTrace) (op : EpOp) : Decidable (DwellKept cfg t op) :=
  inferInstanceAs (Decidable (_ → ∀ target ∈ attempted cfg t.s op,
    if canSwitch cfg t.s.e target = true then _ ∧ (_ → _ → _ ∧ _) ∧ _ else _))

/-- What a cooldown up to `deadline` keeps out: a retry, and a queued hop
that is no fallback. -/
structure Cooling (deadline : UInt32) (h : HopEp) : Prop where
  until_eq : h.hopCooldownUntil = deadline
  retry : h.hopRetryWork = none
  queued : h.hopWork = true → cfg.rendezvous = true ∧ h.rendezvousFallbackPending = true

/-- What every run that keeps the dwell satisfies. -/
structure DwellTrace.Sound (t : DwellTrace) : Prop where
  past : ∀ t₁ ∈ t.commits, t₁ ≤ t.s.e.uptime
  latest : ∀ t₁ ∈ t.commits, ∀ last, t.commits.head? = some last → t₁ ≤ last
  cooling : ∀ last, t.commits.head? = some last →
    t.s.e.uptime < last + cfg.channelHopCooldownMs →
      UInt32.ofNat (last + cfg.channelHopCooldownMs) ≠ 0 ∧
        Cooling cfg (UInt32.ofNat (last + cfg.channelHopCooldownMs)) t.s.e.hop

variable {cfg} {s : HopTrace} {t : DwellTrace} {h h' : HopEp} {now deadline : UInt32}

/-! ## The clock of a cooldown -/

/-- Before its deadline a cooldown is active. -/
theorem after_of_lt {last uptime : Nat} (hpast : last ≤ uptime)
    (hlt : uptime < last + cfg.channelHopCooldownMs) :
    after (UInt32.ofNat (last + cfg.channelHopCooldownMs)) (UInt32.ofNat uptime) = true := by
  have hle := cfg.cooldown_le
  exact (after_ofNat_of_le (by omega) (by omega)).2 ⟨hlt, by omega⟩

theorem hopCooldownActive_of_lt {last uptime : Nat} (hpast : last ≤ uptime)
    (hlt : uptime < last + cfg.channelHopCooldownMs)
    (hne : UInt32.ofNat (last + cfg.channelHopCooldownMs) ≠ 0)
    (huntil : h.hopCooldownUntil = UInt32.ofNat (last + cfg.channelHopCooldownMs)) :
    hopCooldownActive (UInt32.ofNat uptime) h = true := by
  unfold hopCooldownActive
  rw [huntil, if_neg (by rw [beq_iff_eq]; exact hne)]
  exact after_of_lt hpast hlt

/-! ## What an attempt comes to -/

/-- What a change of the channel leaves. -/
structure Changed (cfg : Config) (s : HopTrace) (h' : HopEp) : Prop where
  until_eq : h'.hopCooldownUntil = s.e.now + UInt32.ofNat cfg.channelHopCooldownMs
  retry : h'.hopRetryWork = s.e.hop.hopRetryWork

theorem attempt_hop :
    (hopStep cfg s .hop).e.tp.channel = s.e.tp.channel ∧
        (∀ target, attempted cfg s (.step .hop) = some target → canSwitch cfg s.e target = false) ∨
      (hopStep cfg s .hop).e.tp.channel ≠ s.e.tp.channel ∧
        (∃ target, attempted cfg s (.step .hop) = some target ∧
          canSwitch cfg s.e target = true) ∧
        Changed cfg s (hopStep cfg s .hop).e.hop ∧ s.e.hop.hopWork = true ∧
          (hopStep cfg s .hop).e.hop.hopWork = false := by
  obtain ⟨hrun, hstep⟩ | ⟨hrun, hwork⟩ := @hopStep_hop_cases cfg s
  · have hattempt : attempted cfg s (.step .hop) = none := if_neg hrun
    rw [hstep, hattempt]
    exact Or.inl ⟨rfl, fun _ h => absurd h (by simp)⟩
  · have hattempt : attempted cfg s (.step .hop) =
        hopChoice cfg (s.e.mapHop fun h => { h with hopWork := false }) := if_pos hrun
    rw [hattempt]
    generalize (hopStep cfg s .hop).e.tp.channel = c at hwork ⊢
    generalize (hopStep cfg s .hop).e.hop = h' at hwork ⊢
    cases hwork with
    | stayed pending prng hchoice =>
      exact Or.inl ⟨rfl, fun target h => absurd (hchoice.symm.trans h) (by simp)⟩
    | refused pending prng hchoice hno =>
      refine Or.inl ⟨rfl, fun target h => ?_⟩
      obtain rfl := Option.some.inj (hchoice.symm.trans h)
      exact hno
    | hopped pending prng quarantine prev remaining candidate burstWork hchoice hyes =>
      have hne := hopChoice_ne hchoice
      exact Or.inr ⟨hne, ⟨_, hchoice, hyes⟩, ⟨rfl, rfl⟩, hrun.2, rfl⟩

theorem attempt_commit :
    (hopStep cfg s .commit).e.tp.channel = s.e.tp.channel ∧
        (∀ target, attempted cfg s (.step .commit) = some target →
          canSwitch cfg s.e target = false) ∨
      (hopStep cfg s .commit).e.tp.channel ≠ s.e.tp.channel ∧
        (∃ target, attempted cfg s (.step .commit) = some target ∧
          canSwitch cfg s.e target = true) ∧
        Changed cfg s (hopStep cfg s .commit).e.hop ∧
          (hopStep cfg s .commit).e.hop.hopWork = s.e.hop.hopWork ∧
          (hopStep cfg s .commit).e.hop.rendezvousFallbackPending =
            s.e.hop.rendezvousFallbackPending := by
  obtain ⟨hrun, hstep⟩ | ⟨hrun, hwork⟩ := @hopStep_commit_cases cfg s
  · have hattempt : attempted cfg s (.step .commit) = none :=
      if_neg fun h => hrun ⟨h.1, h.2.1⟩
    rw [hstep, hattempt]
    exact Or.inl ⟨rfl, fun _ h => absurd h (by simp)⟩
  · have hattempt : attempted cfg s (.step .commit) =
        if s.e.hop.coopHopState = .armed ∧ targetElsewhere s.e = true then
          some s.e.hop.coopHopTarget else none := by
      simp only [attempted, hrun.1, hrun.2, true_and]
    rw [hattempt]
    generalize (hopStep cfg s .commit).e.tp.channel = c at hwork ⊢
    generalize (hopStep cfg s .commit).e.hop = h' at hwork ⊢
    cases hwork with
    | unarmed hstate =>
      refine Or.inl ⟨rfl, fun target h => ?_⟩
      rw [if_neg fun harmed => hstate harmed.1] at h
      exact absurd h (by simp)
    | stayed hstate htarget =>
      refine Or.inl ⟨rfl, fun target h => ?_⟩
      rw [if_neg fun harmed => Bool.noConfusion (htarget.symm.trans harmed.2)] at h
      exact absurd h (by simp)
    | refused hstate htarget hno =>
      refine Or.inl ⟨rfl, fun target h => ?_⟩
      rw [if_pos ⟨hstate, htarget⟩] at h
      obtain rfl := Option.some.inj h
      exact hno
    | committed quarantine remaining candidate burstWork hstate htarget hyes =>
      have hne := htarget
      rw [targetElsewhere, Bool.and_eq_true, bne_iff_ne, bne_iff_ne] at hne
      exact Or.inr ⟨hne.2, ⟨_, if_pos ⟨hstate, htarget⟩, hyes⟩, ⟨rfl, rfl⟩, rfl, rfl⟩

/-- **An attempt succeeds just where the channel can be switched**, and
starts a cooldown. -/
theorem attempt_cases (op : EpOp) :
    changesChannel cfg s op = false ∧
        (∀ target, attempted cfg s op = some target → canSwitch cfg s.e target = false) ∨
      changesChannel cfg s op = true ∧
        (∃ target, attempted cfg s op = some target ∧ canSwitch cfg s.e target = true) ∧
        Changed cfg s (epStep cfg s op).e.hop ∧
        (op = .step .hop ∧ s.e.hop.hopWork = true ∧ (epStep cfg s op).e.hop.hopWork = false ∨
          op = .step .commit ∧ (epStep cfg s op).e.hop.hopWork = s.e.hop.hopWork ∧
            (epStep cfg s op).e.hop.rendezvousFallbackPending =
              s.e.hop.rendezvousFallbackPending) := by
  by_cases hhop : op = .step .hop
  · subst hhop
    have hchanges : changesChannel cfg s (.step .hop) =
        ((hopStep cfg s .hop).e.tp.channel != s.e.tp.channel) := by
      rw [changesChannel, beq_self_eq_true, Bool.true_or, Bool.true_and, epStep]
    rw [hchanges]
    rcases @attempt_hop cfg s with ⟨hsame, hno⟩ | ⟨hne, hyes, hchanged, hdue, hdone⟩
    · exact Or.inl ⟨by rw [hsame, bne_self_eq_false], hno⟩
    · exact Or.inr ⟨bne_iff_ne.2 hne, hyes, hchanged, Or.inl ⟨rfl, hdue, hdone⟩⟩
  · by_cases hcommit : op = .step .commit
    · subst hcommit
      have hchanges : changesChannel cfg s (.step .commit) =
          ((hopStep cfg s .commit).e.tp.channel != s.e.tp.channel) := by
        rw [changesChannel, beq_self_eq_true, Bool.or_true, Bool.true_and, epStep]
      rw [hchanges]
      rcases @attempt_commit cfg s with ⟨hsame, hno⟩ | ⟨hne, hyes, hchanged, hkept⟩
      · exact Or.inl ⟨by rw [hsame, bne_self_eq_false], hno⟩
      · exact Or.inr ⟨bne_iff_ne.2 hne, hyes, hchanged, Or.inr ⟨rfl, hkept⟩⟩
    · refine Or.inl ⟨?_, fun target h => ?_⟩
      · exact changesChannel_eq_false hhop hcommit
      · unfold attempted at h
        split at h
        · exact absurd rfl hhop
        · exact absurd rfl hcommit
        · exact absurd h (by simp)

/-! ## Within a cooldown -/

section Cooling

variable (hclock : ∀ h : HopEp, h.hopCooldownUntil = deadline → hopCooldownActive now h = true)
  (hc : Cooling cfg deadline h)
include hc

theorem Cooling.onTxSuccess : Cooling cfg deadline (channelHopEpOnTxSuccessIsr cfg now h) := by
  rcases @onTxSuccessIsr_cases cfg now h with hs | ⟨tag, state, work, hstate, hs⟩
  · rw [hs]
    exact hc
  · rw [hs]
    exact ⟨hc.until_eq, hc.retry, hc.queued⟩

theorem Cooling.onLinkDegraded :
    Cooling cfg deadline (channelHopEpOnLinkDegradedIsr cfg now h) := by
  rcases @onLinkDegradedIsr_cases cfg now h with hs | ⟨-, -, -, -, hs⟩
  · rw [hs]
    exact hc
  · rw [hs]
    exact ⟨hc.until_eq, hc.retry, hc.queued⟩

theorem Cooling.noteUserTx : Cooling cfg deadline (channelHopEpNoteUserTx cfg h) := by
  rcases @noteUserTx_cases cfg h with hs | ⟨-, work, hs⟩
  · rw [hs]
    exact hc
  · rw [hs]
    exact ⟨hc.until_eq, hc.retry, hc.queued⟩

theorem Cooling.onRx (buf : List UInt8) (len : Nat) :
    Cooling cfg deadline (channelHopEpOnRx cfg h buf len) := by
  obtain ⟨_, _, _, _, _, hs⟩ := @onRx_cases cfg h buf len
  rw [hs]
  exact ⟨hc.until_eq, hc.retry, hc.queued⟩

theorem Cooling.onConnected : Cooling cfg deadline (channelHopEpOnConnected cfg h) := by
  cases hhop : cfg.channelHop with
  | false =>
    unfold channelHopEpOnConnected
    rw [hhop, Bool.not_false, if_pos rfl]
    exact hc
  | true =>
    obtain ⟨work, hs⟩ := @onConnected_cases cfg h hhop
    rw [hs]
    exact ⟨hc.until_eq, hc.retry, hc.queued⟩

/-- Without the manager nothing is disconnected. -/
theorem Cooling.onDisconnected (hoff : cfg.channelHop = true → False) :
    Cooling cfg deadline (channelHopEpOnDisconnected cfg h) := by
  unfold channelHopEpOnDisconnected
  split
  · exact hc
  · rename_i hhop
    rw [Bool.not_eq_true', Bool.not_eq_false] at hhop
    exact (hoff hhop).elim

include hclock

/-- A failure asks for a fallback at most. -/
theorem Cooling.onTxFail : Cooling cfg deadline (channelHopEpOnTxFailIsr cfg now h) := by
  have hfail := @onTxFail_onTxFailIsr cfg now h
  generalize channelHopEpOnTxFailIsr cfg now h = h' at hfail ⊢
  cases hfail with
  | noted tag state hstate => exact ⟨hc.until_eq, hc.retry, hc.queued⟩
  | asked tag hactive hcool =>
    exact Bool.noConfusion (hcool.symm.trans (hclock h hc.until_eq))
  | fellBack tag hactive hrdv => exact ⟨hc.until_eq, hc.retry, fun _ => ⟨hrdv, rfl⟩⟩

theorem Cooling.onRequest : Cooling cfg deadline (channelHopEpOnRequest cfg now h) := by
  rcases @onRequest_cases cfg now h with hs | ⟨-, burst, synced, work, hs⟩
  · rw [hs]
    exact hc
  · have hasked : Cooling cfg deadline
        { h with
          requestBurstRemaining := burst, committedSynced := synced, negotiateWork := work } :=
      ⟨hc.until_eq, hc.retry, hc.queued⟩
    rw [hs]
    exact hasked.onTxFail hclock

end Cooling

section Step

variable
  (hclock : ∀ h : HopEp, h.hopCooldownUntil = deadline → hopCooldownActive s.e.now h = true)
  (hc : Cooling cfg deadline s.e.hop)
include hclock hc

/-- **A step that attempts no change keeps the cooldown.** -/
theorem Cooling.step {op : HopOp} (hdis : disconnects cfg s op = false)
    (hstay : attempted cfg s (.step op) = none) :
    Cooling cfg deadline (hopStep cfg s op).e.hop := by
  have hmoves := @hopMoves_hopStep cfg s op
  generalize (hopStep cfg s op).e.hop = h' at hmoves ⊢
  cases hmoves with
  | kept => exact hc
  | noted pipe data => exact hc.noteUserTx
  | ended hdone =>
    exact hdone.keeps (fun _ hc => hc.onTxSuccess) (fun _ hc => hc.onLinkDegraded)
      (fun _ hc => hc.onTxFail hclock) hc
  | stopped => exact hc.onDisconnected fun hhop => Bool.noConfusion (hdis.symm.trans hhop)
  | packet hfree hrx =>
    have hoff := Bool.eq_false_iff.1 hdis
    exact hrx.keeps hfree hc hc.noteUserTx (fun _ => hc.onConnected)
      (fun hyes => hc.onDisconnected fun hhop => hoff (hyes hhop)) (hc.onRx _ _)
      (hc.onRequest hclock)
  | idled hidle =>
    unfold enterIdleBegin
    simp only []
    split <;> exact ⟨hc.until_eq, hc.retry, hc.queued⟩
  | hop hfree hdue hwork =>
    -- a queued hop finds no channel to go to
    have hnone : hopChoice cfg (s.e.mapHop fun h => { h with hopWork := false }) = none := by
      rw [← hstay]
      exact (if_pos ⟨hfree, hdue⟩).symm
    cases hwork with
    | stayed pending prng hchoice =>
      exact ⟨hc.until_eq, hc.retry, fun hf => Bool.noConfusion hf⟩
    | refused pending prng hchoice hno => exact absurd (hnone.symm.trans hchoice) (by simp)
    | hopped _ _ _ _ _ _ _ hchoice hyes => exact absurd (hnone.symm.trans hchoice) (by simp)
  | retried hdue =>
    -- no retry is scheduled
    rw [hc.retry] at hdue
    exact Bool.noConfusion hdue
  | offerSent => exact hc.noteUserTx
  | @offerWithdrawn h₁ hsent =>
    have hnoted : Cooling cfg deadline h₁ := by
      rcases hsent with rfl | rfl
      · exact hc
      · exact hc.noteUserTx
    exact ⟨hnoted.until_eq, hnoted.retry, hnoted.queued⟩
  | commit hfree hdue hwork =>
    have hnone : ∀ {target : UInt8}, s.e.hop.coopHopState = .armed → targetElsewhere s.e = true →
        target = s.e.hop.coopHopTarget → False := by
      intro target hstate htarget _
      rw [attempted, if_pos ⟨hfree, hdue, hstate, htarget⟩] at hstay
      exact absurd hstay (by simp)
    cases hwork with
    | unarmed hstate => exact ⟨hc.until_eq, hc.retry, hc.queued⟩
    | stayed hstate htarget => exact ⟨hc.until_eq, hc.retry, hc.queued⟩
    | refused hstate htarget hno => exact (hnone hstate htarget rfl).elim
    | committed _ _ _ _ hstate htarget hyes => exact (hnone hstate htarget rfl).elim
  | _ => exact ⟨hc.until_eq, hc.retry, hc.queued⟩

theorem Cooling.call (entry : HopCall)
    (hdis : epDisconnects cfg s (.call entry) = false) :
    Cooling cfg deadline (entry.apply cfg s.e.now s.e.hop) := by
  cases entry with
  | onConnected => exact hc.onConnected
  | onDisconnected =>
    refine hc.onDisconnected fun hhop => ?_
    rw [epDisconnects, hhop] at hdis
    exact Bool.noConfusion hdis
  | noteUserTx => exact hc.noteUserTx
  | onTxFailIsr => exact hc.onTxFail hclock
  | onTxSuccessIsr => exact hc.onTxSuccess
  | onLinkDegradedIsr => exact hc.onLinkDegraded
  | onRx buf len => exact hc.onRx buf len
  | onRequest => exact hc.onRequest hclock

end Step

/-! ## Runs that keep the dwell -/

theorem DwellTrace.cooling_iff : t.cooling cfg = true ↔
    ∃ t₁ ∈ t.commits, t.s.e.uptime < t₁ + cfg.channelHopCooldownMs := by
  simp only [DwellTrace.cooling, List.any_eq_true, decide_eq_true_eq]

/-- In a cooldown, the manager is in the latest one. -/
theorem DwellTrace.Sound.of_cooling (h : t.Sound cfg) {t₁ : Nat} (hmem : t₁ ∈ t.commits)
    (hlt : t.s.e.uptime < t₁ + cfg.channelHopCooldownMs) : ∃ deadline,
      (∀ h : HopEp, h.hopCooldownUntil = deadline → hopCooldownActive t.s.e.now h = true) ∧
        Cooling cfg deadline t.s.e.hop := by
  obtain ⟨last, rest, hcommits⟩ := List.exists_cons_of_ne_nil (List.ne_nil_of_mem hmem)
  have hhead : t.commits.head? = some last := by rw [hcommits, List.head?_cons]
  have hle := h.latest t₁ hmem last hhead
  have hlt' : t.s.e.uptime < last + cfg.channelHopCooldownMs := by omega
  have hpast : last ≤ t.s.e.uptime := h.past last (by rw [hcommits]; exact List.mem_cons_self)
  obtain ⟨hne, hcool⟩ := h.cooling last hhead hlt'
  exact ⟨_, fun h₁ huntil => hopCooldownActive_of_lt hpast hlt' hne huntil, hcool⟩

/-- **A step that changes no channel** keeps the run sound: in a cooldown
it attempts none. -/
theorem DwellTrace.Sound.stay (h : t.Sound cfg) {op : EpOp} (hkept : DwellKept cfg t op)
    (hdis : epDisconnects cfg t.s op = false)
    (hno : ∀ target, attempted cfg t.s op = some target → canSwitch cfg t.s.e target = false) :
    DwellTrace.Sound cfg { s := epStep cfg t.s op, commits := t.commits } := by
  have htime := @uptime_epStep cfg t.s op
  refine ⟨fun t₁ hmem => ?_, h.latest, fun last hhead hlt => ?_⟩
  · have hpast := h.past t₁ hmem
    simp only [htime]
    omega
  · simp only [htime] at hlt
    have hmem : last ∈ t.commits := List.mem_of_mem_head? hhead
    have hlt' : t.s.e.uptime < last + cfg.channelHopCooldownMs := by omega
    have hpast := h.past last hmem
    obtain ⟨hne, hcool⟩ := h.cooling last hhead hlt'
    have hclock : ∀ h₁ : HopEp, h₁.hopCooldownUntil = _ →
        hopCooldownActive t.s.e.now h₁ = true :=
      fun h₁ huntil => hopCooldownActive_of_lt hpast hlt' hne huntil
    have hstay : attempted cfg t.s op = none := by
      cases hattempt : attempted cfg t.s op with
      | none => rfl
      | some target =>
        have hcooling : t.cooling cfg = true := DwellTrace.cooling_iff.2 ⟨last, hmem, hlt'⟩
        have hpos : 0 < cfg.channelHopCooldownMs := by omega
        have hrefused := hkept hpos target hattempt
        rw [hno target hattempt, if_neg Bool.false_ne_true] at hrefused
        exact Bool.noConfusion (hrefused.symm.trans hcooling)
    refine ⟨hne, ?_⟩
    cases op with
    | step op => exact hcool.step hclock hdis hstay
    | call entry => exact hcool.call hclock entry hdis

/-- **One that changes it** starts a cooldown that keeps out what it
should. -/
theorem DwellTrace.Sound.change (h : t.Sound cfg) {op : EpOp} (hkept : DwellKept cfg t op)
    {target : UInt8} (hattempt : attempted cfg t.s op = some target)
    (hyes : canSwitch cfg t.s.e target = true)
    (hchanged : Changed cfg t.s (epStep cfg t.s op).e.hop)
    (hqueue : (epStep cfg t.s op).e.hop.hopWork = false ∨
      op = .step .commit ∧ (epStep cfg t.s op).e.hop.hopWork = t.s.e.hop.hopWork ∧
        (epStep cfg t.s op).e.hop.rendezvousFallbackPending =
          t.s.e.hop.rendezvousFallbackPending) :
    DwellTrace.Sound cfg
      { s := epStep cfg t.s op, commits := t.s.e.uptime :: t.commits } := by
  have htime := @uptime_epStep cfg t.s op
  refine ⟨fun t₁ hmem => ?_, fun t₁ hmem last hhead => ?_, fun last hhead hlt => ?_⟩
  · simp only [htime]
    rcases List.mem_cons.1 hmem with rfl | hmem
    · omega
    · have hpast := h.past t₁ hmem
      omega
  · obtain rfl := Option.some.inj hhead
    rcases List.mem_cons.1 hmem with rfl | hmem
    · exact le_rfl
    · exact h.past t₁ hmem
  · obtain rfl := Option.some.inj hhead
    simp only [htime] at hlt
    have hpos : 0 < cfg.channelHopCooldownMs := by omega
    have hcond := hkept hpos target hattempt
    rw [if_pos hyes] at hcond
    obtain ⟨hretry, hqueued, hne⟩ := hcond
    have hdeadline : t.s.e.now + UInt32.ofNat cfg.channelHopCooldownMs =
        UInt32.ofNat (t.s.e.uptime + cfg.channelHopCooldownMs) := (UInt32.ofNat_add _ _).symm
    rw [hdeadline] at hne
    refine ⟨hne, hchanged.until_eq.trans hdeadline, hchanged.retry.trans hretry, fun hdue => ?_⟩
    rcases hqueue with hdone | ⟨hcommit, hwork, hpending⟩
    · exact Bool.noConfusion (hdone.symm.trans hdue)
    · rw [hpending]
      exact hqueued hcommit (hwork.symm.trans hdue)

/-- **Every step that meets the condition keeps the run sound.** -/
theorem DwellTrace.Sound.step (h : t.Sound cfg) (op : EpOp) (hkept : DwellKept cfg t op) :
    (dwellStep cfg t op).Sound cfg := by
  unfold dwellStep
  cases hdis : epDisconnects cfg t.s op with
  | true =>
    rw [if_pos rfl]
    exact ⟨fun t₁ hmem => absurd hmem List.not_mem_nil,
      fun t₁ hmem => absurd hmem List.not_mem_nil, fun last hhead => absurd hhead (by simp)⟩
  | false =>
    rw [if_neg Bool.false_ne_true]
    rcases @attempt_cases cfg t.s op with ⟨hsame, hno⟩ | ⟨hchanges, ⟨target, hattempt, hyes⟩,
      hchanged, hqueue⟩
    · rw [hsame, if_neg Bool.false_ne_true]
      exact h.stay hkept hdis hno
    · rw [hchanges, if_pos rfl]
      refine h.change hkept hattempt hyes hchanged ?_
      rcases hqueue with ⟨-, -, hdone⟩ | hcommit
      · exact Or.inl hdone
      · exact Or.inr hcommit

/-- **A sound run respects the dwell**: in a cooldown only a fallback is
queued. -/
theorem DwellTrace.Sound.dwellRespected (h : t.Sound cfg) (op : EpOp) :
    DwellRespected cfg t op := by
  rintro rfl hchanges hkind t₁ hmem
  by_contra hlate
  rw [Nat.not_le] at hlate
  rcases @attempt_cases cfg t.s (.step .hop) with ⟨hsame, -⟩ | ⟨-, -, -, hqueue⟩
  · exact Bool.noConfusion (hsame.symm.trans hchanges)
  · rcases hqueue with ⟨-, hdue, -⟩ | ⟨hcommit, -⟩
    · obtain ⟨deadline, -, hcool⟩ := h.of_cooling hmem hlate
      obtain ⟨hrdv, hpending⟩ := hcool.queued hdue
      refine hkind ?_
      rw [hopKind, hrdv, hpending, Bool.and_self, if_pos rfl]
    · exact absurd hcommit (by simp)

/-- **The dwell after a hop is respected in every run** whose channel
changes find nothing queued or to be retried that the cooldown should keep
out, and whose cooldowns see no refused change. -/
theorem dwellRespected_of_dwellKept (cfg : Config) (deviceId : List UInt8)
    (saved : Option PairedRec) (ops : List EpOp)
    (h : Guarded (dwellStep cfg) (DwellKept cfg) { s := HopTrace.start cfg deviceId saved } ops) :
    Guarded (dwellStep cfg) (DwellRespected cfg) { s := HopTrace.start cfg deviceId saved } ops :=
  h.of_invariant (I := fun t => t.Sound cfg) (fun _ op hs hkept => hs.step op hkept)
    (fun _ op hs _ => hs.dwellRespected op)
    ⟨fun t₁ hmem => absurd hmem List.not_mem_nil, fun t₁ hmem => absurd hmem List.not_mem_nil,
      fun last hhead => absurd hhead (by simp)⟩

/-- Two hops the dongle requests, with a dwell between them. -/
theorem dwellRespected_requests :
    Guarded (dwellStep .default) (DwellRespected .default)
      { s := HopTrace.start .default [] none }
      [.step .pairingStart, .step (.rx [esbPktPairReq, 1, 2, 3, 4, 5, 6] 7),
        .step (.txDone (.acked 0 [])), .step (.rx [esbPktChannelHopRequest] 1), .step .hop,
        .step (.tick 300), .step (.rx [esbPktChannelHopRequest] 1), .step .hop] :=
  dwellRespected_of_dwellKept .default [] none _ (by decide +kernel)

/-- A hop the radio refused is retried three milliseconds after another
one was made. -/
theorem not_dwellRespected : ¬ ∀ (cfg : Config) (deviceId : List UInt8)
    (saved : Option PairedRec) (ops : List EpOp),
    Guarded (dwellStep cfg) (DwellRespected cfg) { s := HopTrace.start cfg deviceId saved }
      ops := by
  intro h
  have hrun := h .default [] none
    [.step .pairingStart, .step (.rx [esbPktPairReq, 1, 2, 3, 4, 5, 6] 7),
      .step (.rx [esbPktChannelHopRequest] 1), .step .hop, .step (.tick 2),
      .step (.txDone (.acked 0 [])), .step (.rx [esbPktChannelHopRequest] 1), .step .hop,
      .step (.tick 3), .step .hopRetry, .step .hop]
  exact absurd hrun (by decide +kernel)

end EsbEndpoint
