import EsbEndpoint.Common.Run
import EsbEndpoint.Transport.Health

/-!
# The weak-link trigger

The trigger goes by a time stamp: that of the last success, or of its own
last call, on the current channel. Nothing is said of what was sent since,
so a failure that ends a pause finds the stamp as old as the pause. A run
keeps when the endpoint became active and when the events came, and
`sustained_iff` says which failures find a call out of place.
-/

namespace EsbEndpoint

variable (cfg : Config)

/-! ## Runs -/

/-- An endpoint, with the uptime since when it has been active without a
break, that of its last success, and that of the last success or
weak-link call on the current channel. -/
structure ActivityTrace where
  e : Endpoint
  activeSince : Option Nat := none
  lastSuccess : Option Nat := none
  anchor : Option Nat := none

/-- How old a stamp taken at `anchor` reads at `uptime`. -/
def stampAge (anchor uptime : Nat) : Nat :=
  elapsed (stampOf (UInt32.ofNat anchor)) (UInt32.ofNat uptime)

/-- The last success or weak-link call is `WEAK_LINK_MS` old. -/
def anchorOld (s : ActivityTrace) : Bool :=
  match s.anchor with
  | none => false
  | some anchor =>
    0 < cfg.channelHopWeakLinkMs && cfg.channelHopWeakLinkMs ≤ stampAge anchor s.e.uptime

def activityStep (s : ActivityTrace) (op : HealthOp) : ActivityTrace :=
  let e := healthStep cfg s.e op
  { e
    activeSince :=
      if !e.hop.active then none
      else if s.e.hop.active then s.activeSince
      else some s.e.uptime
    lastSuccess :=
      match linkMove cfg s.e op with
      | .succeed _ _ => some s.e.uptime
      | _ => s.lastSuccess
    anchor :=
      match linkMove cfg s.e op with
      | .succeed _ _ => some s.e.uptime
      | .fail => if anchorOld cfg s then some s.e.uptime else s.anchor
      | .newChannel => none
      | _ => s.anchor }

/-- The endpoint has been active for `WEAK_LINK_MS` without a break, and
in that time there was no success. -/
structure Sustained (s : ActivityTrace) : Prop where
  active : ∃ since, s.activeSince = some since ∧ since + cfg.channelHopWeakLinkMs ≤ s.e.uptime
  failing : ∀ success, s.lastSuccess = some success →
    success + cfg.channelHopWeakLinkMs < s.e.uptime

/-- **The branch calls `channel_hop_ep_on_tx_fail_isr` only after
sustained activity.** -/
def CallsSustained (s : ActivityTrace) (op : HealthOp) : Prop :=
  linkMove cfg s.e op = .fail → weakLinkTrips cfg s.e = true → Sustained cfg s

/-- A failure that comes `WEAK_LINK_MS` after the last success or call
comes in sustained activity. -/
def FailsSustained (s : ActivityTrace) (op : HealthOp) : Prop :=
  linkMove cfg s.e op = .fail → anchorOld cfg s = true → Sustained cfg s

instance (s : ActivityTrace) : Decidable (Sustained cfg s) :=
  decidable_of_iff
    ((∃ since ∈ s.activeSince, since + cfg.channelHopWeakLinkMs ≤ s.e.uptime) ∧
      ∀ success ∈ s.lastSuccess, success + cfg.channelHopWeakLinkMs < s.e.uptime)
    ⟨fun h => ⟨h.1, h.2⟩, fun h => ⟨h.active, h.failing⟩⟩

instance (s : ActivityTrace) (op : HealthOp) : Decidable (CallsSustained cfg s op) :=
  inferInstanceAs (Decidable (_ = _ → _ = true → _))

instance (s : ActivityTrace) (op : HealthOp) : Decidable (FailsSustained cfg s op) :=
  inferInstanceAs (Decidable (_ = _ → _ = true → _))

/-! ## The stamp -/

namespace LinkHealth

variable (h : LinkHealth)

theorem succeed_lastTxSuccessMs (hhop : cfg.channelHop = true) (wasNoack : Bool) (n : Nat) :
    (h.succeed cfg wasNoack n).lastTxSuccessMs = stampOf h.now := by
  cases wasNoack with
  | true => rw [h.succeed_of_noack cfg hhop]
  | false =>
    obtain ⟨armed, hsucceed⟩ := h.succeed_eq cfg hhop n
    rw [hsucceed]

theorem fail_lastTxSuccessMs (hhop : cfg.channelHop = true) :
    (h.fail cfg).lastTxSuccessMs =
      if h.callsWeakLink cfg then stampOf h.now else h.lastTxSuccessMs := by
  obtain ⟨first, hfirst⟩ := h.checkFailWindow_eq cfg
  rw [fail, if_neg (by rw [hhop]; decide), hfirst]
  show (LinkHealth.checkWeakLink cfg { h with firstFailMs := first }).lastTxSuccessMs = _
  unfold checkWeakLink
  split
  · rename_i hcalls
    exact (if_pos hcalls).symm
  · rename_i hcalls
    exact (if_neg hcalls).symm

end LinkHealth

/-- What a run keeps: the stamp is that of the anchor. -/
def Stamped (s : ActivityTrace) : Prop :=
  s.e.tp.lastTxSuccessMs =
    match s.anchor with
    | none => 0
    | some anchor => stampOf (UInt32.ofNat anchor)

variable {cfg} {s : ActivityTrace}

/-- **The branch calls just when the anchor is old.** -/
theorem Stamped.weakLinkTrips_eq (hs : Stamped s) :
    weakLinkTrips cfg s.e = anchorOld cfg s := by
  unfold Stamped at hs
  unfold weakLinkTrips anchorOld
  cases hanchor : s.anchor with
  | none =>
    -- the stamp is zero, which the branch does not measure from
    rw [hanchor] at hs
    rw [hs]
    dsimp only
    rw [bne_self_eq_false, Bool.and_false, Bool.false_and]
  | some anchor =>
    -- and no stamp of a time is zero
    rw [hanchor] at hs
    rw [hs]
    dsimp only
    rw [bne_iff_ne.2 (stampOf_ne_zero _), Bool.and_true]
    rfl

theorem Stamped.step (hhop : cfg.channelHop = true) (hs : Stamped s) (op : HealthOp) :
    Stamped (activityStep cfg s op) := by
  have hhealth := congrArg LinkHealth.lastTxSuccessMs (health_healthStep cfg s.e op)
  have htrips := @Stamped.weakLinkTrips_eq cfg s hs
  unfold Stamped activityStep
  dsimp only
  generalize linkMove cfg s.e op = m at hhealth
  refine hhealth.trans ?_
  cases m with
  | succeed wasNoack n => exact s.e.health.succeed_lastTxSuccessMs cfg hhop wasNoack n
  | fail =>
    refine (s.e.health.fail_lastTxSuccessMs cfg hhop).trans ?_
    rw [show s.e.health.callsWeakLink cfg = weakLinkTrips cfg s.e from rfl, htrips]
    split
    · rfl
    · exact hs
  | newChannel =>
    rw [LinkHealth.move, LinkHealth.newChannel, hhop]
    rfl
  | _ => exact hs

/-- **In every run** the branch calls only after sustained activity just
when no failure comes long after the last success or call but short after
a pause; and where it calls, the hop manager is called. -/
theorem sustained_iff (hhop : cfg.channelHop = true) (deviceId : List UInt8)
    (saved : Option PairedRec) (ops : List HealthOp) :
    (Guarded (activityStep cfg) (CallsSustained cfg)
        { e := Endpoint.start cfg deviceId saved } ops ↔
      Guarded (activityStep cfg) (FailsSustained cfg)
        { e := Endpoint.start cfg deviceId saved } ops) ∧
      Guarded (activityStep cfg) (fun s => FailReaches cfg s.e)
        { e := Endpoint.start cfg deviceId saved } ops := by
  refine ⟨guarded_congr (I := Stamped) (fun s op hs => Stamped.step hhop hs op)
    (fun s op hs => ?_) ?_, Guarded.of_forall fun s => failReaches hhop s.e⟩
  · unfold CallsSustained FailsSustained
    rw [hs.weakLinkTrips_eq]
  · exact congrArg LinkHealth.lastTxSuccessMs (health_start cfg deviceId saved)

/-- With the defaults, a failure after 82 ms of activity and 81 without a
success. -/
theorem sustained_default :
    Guarded (activityStep Config.default) (CallsSustained Config.default)
      { e := Endpoint.start Config.default [] none }
      [.tick 1, .connected, .tick 1, .txSuccess 1, .tick 81, .txFailed] :=
  (sustained_iff rfl [] none _).1.2 (by decide +kernel)

/-- A pause in typing: a success, the idle threshold, and one more packet a
while later. -/
def pauseInTyping : List HealthOp :=
  [.tick 1, .connected, .txSuccess 1, .tick 50, .idleCheck, .tick 100,
    .send esbPipeData [esbPktHidReport, 1, 0, 0, 0, 0, 0, 0, 0, 0], .tick 1, .txFailed]

/-- **The trigger does not need sustained activity**: the loss of that one
packet submits a hop. -/
theorem not_sustained :
    ¬ Guarded (activityStep Config.default) (CallsSustained Config.default)
        { e := Endpoint.start Config.default [] none } pauseInTyping ∧
      (runFrom (activityStep Config.default)
        { e := Endpoint.start Config.default [] none } pauseInTyping).e.hop.hopWork = true := by
  decide +kernel

end EsbEndpoint
