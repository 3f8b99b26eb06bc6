import EsbEndpoint.Config
import EsbEndpoint.Protocol
import Mathlib.Data.Finset.Card
import Mathlib.Data.Finset.SDiff
import Mathlib.Logic.Function.Basic

/-!
# The PPI channels of the vendored radio

`vendor/nrf-esb/subsys/esb_ppi.c` takes six channels and a group from the
allocator of nrfx, and borrows channel 6 of the BLE controller. It connects
and enables them around each transmission. The allocator and the timer
driver are not here: they are a parameter (`Nrfx`), and what is relied on
of them is said once (`Nrfx.KeepsToPool`, `Nrfx.Documented`). The fork of
`egu_ramp_up`, and which channels are in the group, are not part of the
model.
-/

namespace EsbEndpoint

inductive PpiEvent
  | egu
  | radioAddress
  | radioDisabled
  | radioEnd
  | timerCompare0
  | timerCompare1
  deriving DecidableEq

inductive PpiTask
  | egu
  | radioRxen
  | radioTxen
  | radioDisable
  | timerStart
  | timerShutdown
  deriving DecidableEq

/-- The endpoints of a channel: none, those of the driver, or what someone
else wrote there. -/
inductive PpiEnds
  | zero
  | driver (event : PpiEvent) (task : PpiTask)
  | others (eep tep : Nat)
  deriving DecidableEq

/-- `NRF_PPI`, and the statics of nrfx. -/
structure PpiHw (σ : Type) where
  nrfx : σ
  chen : BitVec 32 := 0
  ends : Nat → PpiEnds := fun _ => .zero

/-- What is allocated, and whether the timer is initialised. -/
structure NrfxView where
  channels : Finset Nat := ∅
  groups : Finset Nat := ∅
  timer : Bool := false

/-- **What the driver calls of nrfx**, with its state at boot. -/
structure Nrfx (σ : Type) where
  boot : σ
  view : σ → NrfxView
  /-- `nrfx_ppi_channel_alloc` -/
  channelAlloc : PpiHw σ → PpiHw σ × Option Nat
  /-- `nrfx_ppi_channel_free`, and whether it succeeds -/
  channelFree : Nat → PpiHw σ → PpiHw σ × Bool
  /-- `nrfx_ppi_group_alloc` -/
  groupAlloc : PpiHw σ → PpiHw σ × Option Nat
  /-- `nrfx_ppi_group_free` -/
  groupFree : Nat → PpiHw σ → PpiHw σ × Bool
  /-- `nrfx_timer_init` -/
  timerInit : σ → σ × Bool
  /-- `nrfx_timer_uninit` -/
  timerUninit : σ → σ

variable {σ : Type}

/-- The channels outside the pool are the same. -/
def PpiHw.SameOutside (h h' : PpiHw σ) : Prop :=
  ∀ i, 6 ≤ i → h'.chen.getLsbD i = h.chen.getLsbD i ∧ h'.ends i = h.ends i

section Nrfx

variable (n : Nrfx σ)

/-- **nrfx keeps to its pool**, channels 0 to 5. -/
structure Nrfx.KeepsToPool : Prop where
  channelAlloc_lt : ∀ h c, (n.channelAlloc h).2 = some c → c < 6
  channelAlloc : ∀ h : PpiHw σ, h.SameOutside (n.channelAlloc h).1
  channelFree : ∀ (h : PpiHw σ) (c : Nat), c < 6 → h.SameOutside (n.channelFree c h).1
  groupAlloc : ∀ h : PpiHw σ, h.SameOutside (n.groupAlloc h).1
  groupFree : ∀ (h : PpiHw σ) (g : Nat), h.SameOutside (n.groupFree g h).1

/-- **nrfx does what it documents**, and nobody has taken anything at boot:
what it gives is free, it refuses only where nothing is, what is freed is
free, and freeing succeeds on what is allocated. -/
structure Nrfx.Documented : Prop extends n.KeepsToPool where
  boot : n.view n.boot = {}
  channelAlloc_some : ∀ h c, (n.channelAlloc h).2 = some c →
    c ∉ (n.view h.nrfx).channels ∧ n.view (n.channelAlloc h).1.nrfx =
      { n.view h.nrfx with channels := insert c (n.view h.nrfx).channels }
  channelAlloc_none : ∀ h, (n.channelAlloc h).2 = none →
    Finset.range 6 ⊆ (n.view h.nrfx).channels
  channelFree_view : ∀ h c, n.view (n.channelFree c h).1.nrfx =
    { n.view h.nrfx with channels := (n.view h.nrfx).channels.erase c }
  channelFree_ok : ∀ h, ∀ c ∈ (n.view h.nrfx).channels, (n.channelFree c h).2 = true
  groupAlloc_some : ∀ h g, (n.groupAlloc h).2 = some g →
    n.view (n.groupAlloc h).1.nrfx =
      { n.view h.nrfx with groups := insert g (n.view h.nrfx).groups }
  groupAlloc_none : ∀ h, (n.groupAlloc h).2 = none → (n.view h.nrfx).groups.Nonempty
  groupFree_view : ∀ h g, n.view (n.groupFree g h).1.nrfx =
    { n.view h.nrfx with groups := (n.view h.nrfx).groups.erase g }
  groupFree_ok : ∀ h, ∀ g ∈ (n.view h.nrfx).groups, (n.groupFree g h).2 = true
  timerInit_ok : ∀ s, (n.view s).timer = false →
    (n.timerInit s).2 = true ∧ n.view (n.timerInit s).1 = { n.view s with timer := true }
  timerUninit_view : ∀ s, n.view (n.timerUninit s) = { n.view s with timer := false }

end Nrfx

/-- The statics of `esb_ppi.c` that name a channel. -/
inductive PpiChannel
  | eguRampUp
  | disabledEgu
  | eguTimerStart
  | radioAddressTimerStop
  | timerCompare0RadioDisable
  | timerCompare1RadioTxen
  | radioEndTimerStart
  deriving DecidableEq

/-- Those that are allocated, in their order. -/
def PpiChannel.allocated : List PpiChannel :=
  [.eguRampUp, .disabledEgu, .eguTimerStart, .radioAddressTimerStop, .timerCompare0RadioDisable,
    .timerCompare1RadioTxen]

/-- The hardware, and the statics of `esb_ppi.c`. `stray` is history:
something was freed that is not allocated. -/
structure Ppi (σ : Type) where
  hw : PpiHw σ
  channel : PpiChannel → Nat := fun _ => 0
  rampUpPpiGroup : Nat := 0
  stray : Bool := false

variable (cfg : Config) (n : Nrfx σ) (p : Ppi σ)

/-- The bits of some channels. -/
def channelsMask (cs : List Nat) : BitVec 32 := cs.foldr (fun c mask => 1#32 <<< c ||| mask) 0

/-- `nrf_ppi_channels_enable` -/
def Ppi.enable (chs : List PpiChannel) : Ppi σ :=
  { p with hw := { p.hw with chen := p.hw.chen ||| channelsMask (chs.map p.channel) } }

/-- `nrf_ppi_channels_disable` -/
def Ppi.disable (chs : List PpiChannel) : Ppi σ :=
  { p with hw := { p.hw with chen := p.hw.chen &&& ~~~channelsMask (chs.map p.channel) } }

/-- `nrf_ppi_channel_endpoint_setup` -/
def Ppi.setup (ch : PpiChannel) (ends : PpiEnds) : Ppi σ :=
  { p with hw := { p.hw with ends := Function.update p.hw.ends (p.channel ch) ends } }

/-! ## Transmissions -/

/-- What the channels are enabled for: `esb_ppi_for_*_set`, and disabled
after, `esb_ppi_for_*_clear`. -/
inductive PpiUse
  | fem
  | txrx (rx timerStart : Bool)
  | retransmission
  | waitForAck
  | waitForRx

/-- The channels of a use, with what they connect. -/
def PpiUse.connections : PpiUse → List (PpiChannel × PpiEnds)
  | .fem => [(.eguTimerStart, .driver .egu .timerStart)]
  | .txrx rx timerStart =>
    [(.eguRampUp, .driver .egu (if rx then .radioRxen else .radioTxen)),
      (.disabledEgu, .driver .radioDisabled .egu)] ++
      if timerStart then [(.eguTimerStart, .driver .egu .timerStart)] else []
  | .retransmission =>
    [(.disabledEgu, .driver .radioDisabled .egu),
      (.timerCompare1RadioTxen, .driver .timerCompare1 .radioTxen)]
  | .waitForAck =>
    [(.radioAddressTimerStop, .driver .radioAddress .timerShutdown),
      (.timerCompare0RadioDisable, .driver .timerCompare0 .radioDisable)]
  | .waitForRx => [(.radioEndTimerStart, .driver .radioEnd .timerStart)]

def Ppi.setups (connections : List (PpiChannel × PpiEnds)) : Ppi σ :=
  connections.foldl (fun p connection => p.setup connection.1 connection.2) p

/-- `esb_ppi_for_*_set` -/
def esbPpiForSet (u : PpiUse) : Ppi σ :=
  (p.setups u.connections).enable (u.connections.map Prod.fst)

/-- `esb_ppi_for_*_clear` -/
def esbPpiForClear (u : PpiUse) : Ppi σ :=
  (p.disable (u.connections.map Prod.fst)).setups
    (u.connections.map fun connection => (connection.1, .zero))

/-! ## Initialisation -/

/-- The channels one by one, up to the first that is refused. -/
def allocChannels : List PpiChannel → Ppi σ → Ppi σ × Option Errno
  | [], p => (p, none)
  | ch :: chs, p =>
    match n.channelAlloc p.hw with
    | (hw, none) => ({ p with hw }, some .enodev)
    | (hw, some c) =>
      allocChannels chs { p with hw, channel := Function.update p.channel ch c }

/-- The channel that is not allocated. -/
def borrowChannel : Ppi σ :=
  if cfg.esbNeverDisableTx then
    { p with channel := Function.update p.channel .radioEndTimerStart 6 }
  else p

/-- `esb_ppi_init` -/
def esbPpiInit : Ppi σ × Option Errno :=
  match allocChannels n PpiChannel.allocated p with
  | (p, some err) => (p, some err)
  | (p, none) =>
    let p := borrowChannel cfg p
    match n.groupAlloc p.hw with
    | (hw, none) => ({ p with hw }, some .enodev)
    | (hw, some g) => ({ p with hw, rampUpPpiGroup := g }, none)

/-- `esb_ppi_disable_all` -/
def esbPpiDisableAll : Ppi σ :=
  p.disable ([.eguRampUp, .disabledEgu, .eguTimerStart, .radioAddressTimerStop,
    .timerCompare0RadioDisable, .radioEndTimerStart] ++
      if cfg.esbNeverDisableTx then [.timerCompare1RadioTxen] else [])

/-- The channels one by one, up to the first that is not freed. -/
def freeChannels : List PpiChannel → Ppi σ → Ppi σ × Bool
  | [], p => (p, true)
  | ch :: chs, p =>
    let freed := n.channelFree (p.channel ch) p.hw
    let p' : Ppi σ :=
      { p with
        hw := freed.1
        stray := p.stray || decide (p.channel ch ∉ (n.view p.hw.nrfx).channels) }
    if freed.2 then freeChannels chs p' else (p', false)

/-- `esb_ppi_deinit`, and whether it came past `__ASSERT(false)`. -/
def esbPpiDeinit : Ppi σ × Bool :=
  match freeChannels n PpiChannel.allocated p with
  | (p, false) => (p, false)
  | (p, true) =>
    let p := if cfg.esbNeverDisableTx then p.setup .radioEndTimerStart .zero else p
    let freed := n.groupFree p.rampUpPpiGroup p.hw
    ({ p with
        hw := freed.1
        stray := p.stray || decide (p.rampUpPpiGroup ∉ (n.view p.hw.nrfx).groups) },
      freed.2)

/-! ## Which channels are enabled -/

theorem getLsbD_channelsMask (cs : List Nat) (i : Nat) :
    (channelsMask cs).getLsbD i = decide (i < 32 ∧ i ∈ cs) := by
  induction cs with
  | nil => simp [channelsMask]
  | cons c cs ih =>
    have hbit : (1#32 <<< c).getLsbD i = decide (i < 32 ∧ i = c) := by
      rw [BitVec.getLsbD_shiftLeft, BitVec.getLsbD_one]
      by_cases hi : i < 32 <;> by_cases hc : i < c <;> simp [hi, hc] <;> omega
    rw [channelsMask, List.foldr_cons, BitVec.getLsbD_or, hbit, ← channelsMask, ih,
      ← Bool.decide_or]
    exact decide_eq_decide.2 (by rw [List.mem_cons, and_or_left])

variable {cfg n p}

theorem getLsbD_enable (chs : List PpiChannel) {i : Nat} (hi : i < 32) :
    (p.enable chs).hw.chen.getLsbD i =
      (p.hw.chen.getLsbD i || decide (i ∈ chs.map p.channel)) := by
  rw [Ppi.enable, BitVec.getLsbD_or, getLsbD_channelsMask]
  simp only [hi, true_and]

theorem getLsbD_disable (chs : List PpiChannel) {i : Nat} (hi : i < 32) :
    (p.disable chs).hw.chen.getLsbD i =
      (p.hw.chen.getLsbD i && !decide (i ∈ chs.map p.channel)) := by
  rw [Ppi.disable, BitVec.getLsbD_and, BitVec.getLsbD_not, getLsbD_channelsMask]
  simp only [hi, true_and, decide_true, Bool.true_and]

/-- What is set up is set up on the channels' own endpoints. -/
theorem setups_eq (connections : List (PpiChannel × PpiEnds)) :
    ∃ ends, p.setups connections = { p with hw := { p.hw with ends } } ∧
      ∀ i, (∀ ch, p.channel ch ≠ i) → ends i = p.hw.ends i := by
  induction connections generalizing p with
  | nil => exact ⟨p.hw.ends, rfl, fun _ _ => rfl⟩
  | cons connection connections ih =>
    obtain ⟨ends, heq, hsame⟩ := @ih (p.setup connection.1 connection.2)
    refine ⟨ends, heq, fun i hi => (hsame i hi).trans ?_⟩
    exact Function.update_of_ne (hi connection.1).symm _ _

/-! ## What is outside the pool -/

/-- The statics name channels of the pool, and the borrowed one. -/
structure Ppi.Placed (p : Ppi σ) : Prop where
  allocated : ∀ ch ∈ PpiChannel.allocated, p.channel ch < 6
  borrowed : p.channel .radioEndTimerStart ≤ 6

theorem PpiHw.SameOutside.refl (h : PpiHw σ) : h.SameOutside h := fun _ _ => ⟨rfl, rfl⟩

theorem PpiHw.SameOutside.trans {h h' h'' : PpiHw σ} (h₁ : h.SameOutside h')
    (h₂ : h'.SameOutside h'') : h.SameOutside h'' :=
  fun i hi => ⟨(h₂ i hi).1.trans (h₁ i hi).1, (h₂ i hi).2.trans (h₁ i hi).2⟩

/-- A static that names a new channel of the pool. -/
theorem Ppi.Placed.update (hp : p.Placed) {ch : PpiChannel} (hch : ch ∈ PpiChannel.allocated)
    {hw : PpiHw σ} {c : Nat} (hc : c < 6) :
    ({ p with hw, channel := Function.update p.channel ch c } : Ppi σ).Placed := by
  refine ⟨fun ch' hch' => ?_, ?_⟩
  · show Function.update p.channel ch c ch' < 6
    rw [Function.update_apply]
    split
    · exact hc
    · exact hp.allocated ch' hch'
  · have hne : PpiChannel.radioEndTimerStart ≠ ch := fun h => absurd hch (by rw [← h]; decide)
    exact (Function.update_of_ne hne _ _).le.trans hp.borrowed

theorem allocChannels_outside (hn : n.KeepsToPool) {chs : List PpiChannel}
    (hchs : ∀ ch ∈ chs, ch ∈ PpiChannel.allocated) (hp : p.Placed) :
    (allocChannels n chs p).1.Placed ∧ p.hw.SameOutside (allocChannels n chs p).1.hw := by
  induction chs generalizing p with
  | nil => exact ⟨hp, .refl _⟩
  | cons ch chs ih =>
    have hsame := hn.channelAlloc p.hw
    have hlt := hn.channelAlloc_lt p.hw
    rw [allocChannels]
    rcases hget : n.channelAlloc p.hw with ⟨hw, _ | c⟩ <;> rw [hget] at hsame hlt
    · exact ⟨⟨hp.allocated, hp.borrowed⟩, hsame⟩
    · obtain ⟨hplaced, hrest⟩ := ih (fun ch' hmem => hchs ch' (List.mem_cons_of_mem _ hmem))
        (hp.update (hchs ch (List.mem_cons_self ..)) (hlt c rfl))
      exact ⟨hplaced, hsame.trans hrest⟩

theorem Ppi.Placed.borrowChannel (hp : p.Placed) : (borrowChannel cfg p).Placed := by
  rw [EsbEndpoint.borrowChannel]
  split
  · constructor
    · intro ch hch
      have hne : ch ≠ .radioEndTimerStart := fun h => absurd hch (by rw [h]; decide)
      exact (Function.update_of_ne hne 6 p.channel).trans_lt (hp.allocated ch hch)
    · exact (Function.update_self PpiChannel.radioEndTimerStart 6 p.channel).le
  · exact hp

@[simp] theorem hw_borrowChannel : (borrowChannel cfg p).hw = p.hw := by
  rw [borrowChannel]
  split <;> rfl

/-- **The driver is initialised**, or not, within the pool. -/
theorem esbPpiInit_outside (hn : n.KeepsToPool) (hp : p.Placed) :
    (esbPpiInit cfg n p).1.Placed ∧ p.hw.SameOutside (esbPpiInit cfg n p).1.hw := by
  obtain ⟨hplaced, hsame⟩ := allocChannels_outside hn (fun _ h => h) hp
  rw [esbPpiInit]
  rcases hget : allocChannels n PpiChannel.allocated p with ⟨p', _ | err⟩ <;>
    rw [hget] at hplaced hsame
  · have hgroup := hn.groupAlloc (borrowChannel cfg p').hw
    have hborrow := @Ppi.Placed.borrowChannel σ cfg p' hplaced
    dsimp only
    rcases hgot : n.groupAlloc (borrowChannel cfg p').hw with ⟨hw, _ | g⟩ <;>
      rw [hgot, hw_borrowChannel] at hgroup <;>
      exact ⟨⟨hborrow.allocated, hborrow.borrowed⟩, hsame.trans hgroup⟩
  · exact ⟨hplaced, hsame⟩

theorem freeChannels_outside (hn : n.KeepsToPool) {chs : List PpiChannel}
    (hlt : ∀ ch ∈ chs, p.channel ch < 6) :
    (freeChannels n chs p).1.channel = p.channel ∧
      p.hw.SameOutside (freeChannels n chs p).1.hw := by
  induction chs generalizing p with
  | nil => exact ⟨rfl, .refl _⟩
  | cons ch chs ih =>
    have hsame := hn.channelFree p.hw _ (hlt ch (List.mem_cons_self ..))
    rw [freeChannels]
    split
    · obtain ⟨hchannel, hrest⟩ := @ih
        { p with
          hw := (n.channelFree (p.channel ch) p.hw).1
          stray := p.stray || decide (p.channel ch ∉ (n.view p.hw.nrfx).channels) }
        (fun ch' hmem => hlt ch' (List.mem_cons_of_mem _ hmem))
      exact ⟨hchannel, hsame.trans hrest⟩
    · exact ⟨rfl, hsame⟩

/-- **The driver gives up its channels**, or fails to, and touches none
outside the pool but for the endpoints of the borrowed one. -/
theorem esbPpiDeinit_outside (hn : n.KeepsToPool) (hp : p.Placed) :
    (esbPpiDeinit cfg n p).1.channel = p.channel ∧
      ∀ i, 6 ≤ i → (esbPpiDeinit cfg n p).1.hw.chen.getLsbD i = p.hw.chen.getLsbD i ∧
        (i ≠ 6 → (esbPpiDeinit cfg n p).1.hw.ends i = p.hw.ends i) := by
  obtain ⟨hchannel, hsame⟩ := freeChannels_outside hn hp.allocated
  rw [esbPpiDeinit]
  rcases hget : freeChannels n PpiChannel.allocated p with ⟨p', _ | _⟩ <;>
    rw [hget] at hchannel hsame
  · exact ⟨hchannel, fun i hi => ⟨(hsame i hi).1, fun _ => (hsame i hi).2⟩⟩
  · have hborrowed : p'.channel .radioEndTimerStart ≤ 6 := hchannel ▸ hp.borrowed
    dsimp only
    split
    · refine ⟨hchannel, fun i hi => ?_⟩
      have hgroup := hn.groupFree (p'.setup .radioEndTimerStart .zero).hw p'.rampUpPpiGroup i hi
      refine ⟨hgroup.1.trans (hsame i hi).1, fun hne => (hgroup.2.trans ?_).trans (hsame i hi).2⟩
      exact Function.update_of_ne (by omega) _ _
    · have hgroup := hn.groupFree p'.hw p'.rampUpPpiGroup
      exact ⟨hchannel, fun i hi =>
        ⟨(hgroup i hi).1.trans (hsame i hi).1, fun _ => (hgroup i hi).2.trans (hsame i hi).2⟩⟩

/-- With nothing refused, the endpoints of the borrowed channel are zero. -/
theorem ends_esbPpiDeinit (hn : n.KeepsToPool) (hp : p.Placed)
    (hborrowed : p.channel .radioEndTimerStart = 6) (hnever : cfg.esbNeverDisableTx = true)
    (hok : (esbPpiDeinit cfg n p).2 = true) : (esbPpiDeinit cfg n p).1.hw.ends 6 = .zero := by
  obtain ⟨hchannel, -⟩ := freeChannels_outside hn hp.allocated
  rw [esbPpiDeinit] at hok ⊢
  rcases hget : freeChannels n PpiChannel.allocated p with ⟨p', _ | _⟩ <;> rw [hget] at hchannel
  · rw [hget] at hok
    exact absurd hok Bool.false_ne_true
  · dsimp only
    rw [if_pos hnever]
    have hgroup := hn.groupFree (p'.setup .radioEndTimerStart .zero).hw p'.rampUpPpiGroup 6 le_rfl
    refine hgroup.2.trans ?_
    show Function.update p'.hw.ends (p'.channel .radioEndTimerStart) .zero 6 = .zero
    rw [hchannel, hborrowed, Function.update_self]

/-! ## What is allocated -/

/-- **What nrfx has given**: to a driver that is initialised its channels,
a group and the timer, to another nothing. -/
def PoolAccounted (n : Nrfx σ) (initialized : Bool) (p : Ppi σ) : Prop :=
  if initialized then
    (PpiChannel.allocated.map p.channel).Nodup ∧ n.view p.hw.nrfx =
      ⟨(PpiChannel.allocated.map p.channel).toFinset, {p.rampUpPpiGroup}, true⟩
  else n.view p.hw.nrfx = {}

/-- **There is a channel for each**, and none is given twice. -/
theorem allocChannels_spec (hn : n.Documented) {chs : List PpiChannel} (hnodup : chs.Nodup)
    (hroom : (n.view p.hw.nrfx).channels.card + chs.length ≤ 6) :
    ∃ hw channel, allocChannels n chs p = ({ p with hw, channel }, none) ∧
      (chs.map channel).Nodup ∧ (∀ ch ∈ chs, channel ch ∉ (n.view p.hw.nrfx).channels) ∧
      (∀ ch, ch ∉ chs → channel ch = p.channel ch) ∧
      n.view hw.nrfx = { n.view p.hw.nrfx with
        channels := (n.view p.hw.nrfx).channels ∪ (chs.map channel).toFinset } := by
  induction chs generalizing p with
  | nil =>
    refine ⟨p.hw, p.channel, rfl, List.nodup_nil, fun _ h => absurd h List.not_mem_nil,
      fun _ _ => rfl, ?_⟩
    rw [List.map_nil, List.toFinset_nil, Finset.union_empty]
  | cons ch chs ih =>
    obtain ⟨hch, hnodup⟩ := List.nodup_cons.1 hnodup
    rw [List.length_cons] at hroom
    rcases hget : n.channelAlloc p.hw with ⟨hw₁, _ | c⟩
    · have hall := Finset.card_le_card (hn.channelAlloc_none p.hw (by rw [hget]))
      rw [Finset.card_range] at hall
      omega
    · obtain ⟨hfree, hview⟩ := hn.channelAlloc_some p.hw c (by rw [hget])
      rw [hget] at hview
      dsimp only at hview
      obtain ⟨hw, channel, heq, hmap, hnew, hrest, hview'⟩ := @ih
        { p with hw := hw₁, channel := Function.update p.channel ch c } hnodup
        (by
          show (n.view hw₁.nrfx).channels.card + _ ≤ 6
          rw [hview]
          show (insert c (n.view p.hw.nrfx).channels).card + _ ≤ 6
          rw [Finset.card_insert_of_notMem hfree]
          omega)
      have hself : channel ch = c := (hrest ch hch).trans (Function.update_self _ _ _)
      have hnew' : ∀ ch' ∈ chs, channel ch' ≠ c ∧ channel ch' ∉ (n.view p.hw.nrfx).channels := by
        intro ch' hmem
        have hnot := hnew ch' hmem
        dsimp only at hnot
        rw [hview] at hnot
        exact ⟨fun h => hnot (h ▸ Finset.mem_insert_self _ _),
          fun h => hnot (Finset.mem_insert_of_mem h)⟩
      refine ⟨hw, channel, ?_, ?_, ?_, ?_, ?_⟩
      · rw [allocChannels, hget]
        exact heq
      · rw [List.map_cons, List.nodup_cons, hself]
        refine ⟨fun hmem => ?_, hmap⟩
        obtain ⟨ch', hch', hc⟩ := List.mem_map.1 hmem
        exact (hnew' ch' hch').1 hc
      · intro ch' hmem
        rcases List.mem_cons.1 hmem with rfl | hmem
        · rw [hself]
          exact hfree
        · exact (hnew' ch' hmem).2
      · intro ch' hnot
        rw [List.mem_cons, not_or] at hnot
        rw [hrest ch' hnot.2]
        exact Function.update_of_ne hnot.1 _ _
      · rw [hview']
        dsimp only
        rw [hview, List.map_cons, List.toFinset_cons, hself, Finset.insert_union,
          Finset.union_insert]

/-- **The driver is given what it asks for.** -/
theorem esbPpiInit_spec (hn : n.Documented) (hchannels : (n.view p.hw.nrfx).channels = ∅)
    (hgroups : (n.view p.hw.nrfx).groups = ∅) (htimer : (n.view p.hw.nrfx).timer = true) :
    (esbPpiInit cfg n p).2 = none ∧ (esbPpiInit cfg n p).1.stray = p.stray ∧
      PoolAccounted n true (esbPpiInit cfg n p).1 ∧
      (cfg.esbNeverDisableTx = true →
        (esbPpiInit cfg n p).1.channel .radioEndTimerStart = 6) := by
  obtain ⟨hw, channel, heq, hmap, -, -, hview⟩ := @allocChannels_spec σ n p hn
    PpiChannel.allocated (by decide) (by rw [hchannels]; decide)
  have hborrow : ∃ channel', borrowChannel cfg { p with hw, channel } =
      { p with hw, channel := channel' } ∧
        (∀ ch ∈ PpiChannel.allocated, channel' ch = channel ch) ∧
        (cfg.esbNeverDisableTx = true → channel' .radioEndTimerStart = 6) := by
    rw [borrowChannel]
    split
    · refine ⟨_, rfl, fun ch hch => Function.update_of_ne ?_ _ _,
        fun _ => Function.update_self _ _ _⟩
      exact fun h => absurd hch (by rw [h]; decide)
    · rename_i hnot
      exact ⟨channel, rfl, fun _ _ => rfl, fun h => absurd h hnot⟩
  obtain ⟨channel', hborrow, hsame, hsix⟩ := hborrow
  rw [esbPpiInit, heq]
  dsimp only
  rw [hborrow]
  rcases hgot : n.groupAlloc hw with ⟨hw', _ | g⟩
  · obtain ⟨g, hg⟩ := hn.groupAlloc_none hw (by rw [hgot])
    rw [hview] at hg
    exact absurd (hgroups ▸ hg) (Finset.notMem_empty _)
  · have hview' := hn.groupAlloc_some hw g (by rw [hgot])
    rw [hgot] at hview'
    refine ⟨rfl, rfl, ?_, hsix⟩
    rw [PoolAccounted, if_pos rfl]
    dsimp only at hview' ⊢
    rw [List.map_congr_left hsame, hview', hview]
    refine ⟨hmap, ?_⟩
    dsimp only
    rw [hchannels, hgroups, htimer, Finset.empty_union]
    rfl

/-- **What is in use is freed.** -/
theorem freeChannels_spec (hn : n.Documented) {chs : List PpiChannel}
    (hnodup : (chs.map p.channel).Nodup)
    (hmem : ∀ ch ∈ chs, p.channel ch ∈ (n.view p.hw.nrfx).channels) :
    ∃ hw, freeChannels n chs p = ({ p with hw }, true) ∧
      n.view hw.nrfx = { n.view p.hw.nrfx with
        channels := (n.view p.hw.nrfx).channels \ (chs.map p.channel).toFinset } := by
  induction chs generalizing p with
  | nil =>
    refine ⟨p.hw, rfl, ?_⟩
    rw [List.map_nil, List.toFinset_nil, Finset.sdiff_empty]
  | cons ch chs ih =>
    have hch := hmem ch (List.mem_cons_self ..)
    rw [List.map_cons] at hnodup
    obtain ⟨hnot, hnodup⟩ := List.nodup_cons.1 hnodup
    have hview := hn.channelFree_view p.hw (p.channel ch)
    obtain ⟨hw, heq, hview'⟩ := @ih { p with hw := (n.channelFree (p.channel ch) p.hw).1 } hnodup
      (by
        intro ch' hch'
        dsimp only
        rw [hview]
        exact Finset.mem_erase.2 ⟨fun h => hnot (h ▸ List.mem_map_of_mem hch'),
          hmem ch' (List.mem_cons_of_mem _ hch')⟩)
    refine ⟨hw, ?_, ?_⟩
    · rw [freeChannels, if_pos (hn.channelFree_ok _ _ hch), decide_eq_false (not_not.2 hch),
        Bool.or_false]
      exact heq
    · rw [hview']
      dsimp only
      rw [hview, List.map_cons, List.toFinset_cons, Finset.erase_sdiff_comm,
        Finset.sdiff_insert]

/-- **Where nothing is in use** nothing is freed, and what is asked for is
stray. -/
theorem freeChannels_of_none (hn : n.Documented) (chs : List PpiChannel)
    (hnone : (n.view p.hw.nrfx).channels = ∅) :
    n.view (freeChannels n chs p).1.hw.nrfx = n.view p.hw.nrfx ∧
      ((freeChannels n chs p).1.stray = true ↔ p.stray = true ∨ chs ≠ []) := by
  induction chs generalizing p with
  | nil => exact ⟨rfl, by simp [freeChannels]⟩
  | cons ch chs ih =>
    have hview : n.view (n.channelFree (p.channel ch) p.hw).1.nrfx = n.view p.hw.nrfx := by
      rw [hn.channelFree_view, hnone, Finset.erase_empty, ← hnone]
    have hstray : p.channel ch ∉ (n.view p.hw.nrfx).channels := by
      rw [hnone]
      exact Finset.notMem_empty _
    rw [freeChannels, decide_eq_true hstray, Bool.or_true]
    split
    · obtain ⟨hrest, hiff⟩ := @ih
        { p with hw := (n.channelFree (p.channel ch) p.hw).1, stray := true }
        (by dsimp only; rw [hview, hnone])
      exact ⟨hrest.trans hview, by simp [hiff]⟩
    · exact ⟨hview, by simp⟩

/-- **What was given is given back**, but for the timer. -/
theorem esbPpiDeinit_spec (hn : n.Documented)
    (hnodup : (PpiChannel.allocated.map p.channel).Nodup)
    (hchannels : (n.view p.hw.nrfx).channels = (PpiChannel.allocated.map p.channel).toFinset)
    (hgroups : (n.view p.hw.nrfx).groups = {p.rampUpPpiGroup}) :
    (esbPpiDeinit cfg n p).2 = true ∧ (esbPpiDeinit cfg n p).1.stray = p.stray ∧
      n.view (esbPpiDeinit cfg n p).1.hw.nrfx = ⟨∅, ∅, (n.view p.hw.nrfx).timer⟩ := by
  obtain ⟨hw, heq, hview⟩ := @freeChannels_spec σ n p hn PpiChannel.allocated hnodup
    (fun ch hch => hchannels ▸ List.mem_toFinset.2 (List.mem_map_of_mem hch))
  have hgroup : ∀ hw' : PpiHw σ, hw'.nrfx = hw.nrfx →
      p.rampUpPpiGroup ∈ (n.view hw'.nrfx).groups ∧
        n.view (n.groupFree p.rampUpPpiGroup hw').1.nrfx = ⟨∅, ∅, (n.view p.hw.nrfx).timer⟩ := by
    intro hw' hsame
    rw [hn.groupFree_view, hsame, hview]
    dsimp only
    rw [hchannels, hgroups, Finset.sdiff_self, Finset.erase_singleton]
    exact ⟨Finset.mem_singleton_self _, rfl⟩
  rw [esbPpiDeinit, heq]
  dsimp only
  split
  · obtain ⟨hmem, hview'⟩ := hgroup (Ppi.setup { p with hw } .radioEndTimerStart .zero).hw rfl
    refine ⟨hn.groupFree_ok _ _ hmem, ?_, hview'⟩
    exact (congrArg (p.stray || ·) (decide_eq_false (not_not.2 hmem))).trans (Bool.or_false _)
  · obtain ⟨hmem, hview'⟩ := hgroup hw rfl
    refine ⟨hn.groupFree_ok _ _ hmem, ?_, hview'⟩
    exact (congrArg (p.stray || ·) (decide_eq_false (not_not.2 hmem))).trans (Bool.or_false _)

/-- A driver that has nothing asks to free what is not allocated. -/
theorem esbPpiDeinit_of_none (hn : n.Documented) (hnone : (n.view p.hw.nrfx).channels = ∅)
    (hgroups : (n.view p.hw.nrfx).groups = ∅) :
    (esbPpiDeinit cfg n p).1.stray = true ∧
      n.view (esbPpiDeinit cfg n p).1.hw.nrfx = n.view p.hw.nrfx := by
  obtain ⟨hview, hstray⟩ := @freeChannels_of_none σ n p hn PpiChannel.allocated hnone
  have hyes := hstray.2 (Or.inr (by decide))
  rw [esbPpiDeinit]
  rcases hget : freeChannels n PpiChannel.allocated p with ⟨p', _ | _⟩ <;>
    rw [hget] at hview hyes
  · exact ⟨hyes, hview⟩
  · have hgroup : ∀ hw' : PpiHw σ, hw'.nrfx = p'.hw.nrfx →
        n.view (n.groupFree p'.rampUpPpiGroup hw').1.nrfx = n.view p.hw.nrfx := by
      intro hw' hsame
      rw [hn.groupFree_view, hsame, hview, hgroups, Finset.erase_empty, ← hgroups]
    dsimp only at hyes ⊢
    split
    · exact ⟨by rw [show (p'.setup .radioEndTimerStart .zero).stray = p'.stray from rfl, hyes,
        Bool.true_or], hgroup _ rfl⟩
    · exact ⟨by rw [hyes, Bool.true_or], hgroup _ rfl⟩

/-! ## An allocator -/

/-- Flags for what is allocated, the lowest that is free given first. -/
def Nrfx.flags : Nrfx NrfxView where
  boot := {}
  view := id
  channelAlloc hw :=
    match (List.range 6).find? (· ∉ hw.nrfx.channels) with
    | none => (hw, none)
    | some c =>
      ({ hw with nrfx := { hw.nrfx with channels := insert c hw.nrfx.channels } }, some c)
  channelFree c hw :=
    ({ hw with
        nrfx := { hw.nrfx with channels := hw.nrfx.channels.erase c }
        chen := hw.chen &&& ~~~channelsMask [c] },
      decide (c ∈ hw.nrfx.channels))
  groupAlloc hw :=
    match (List.range 4).find? (· ∉ hw.nrfx.groups) with
    | none => (hw, none)
    | some g => ({ hw with nrfx := { hw.nrfx with groups := insert g hw.nrfx.groups } }, some g)
  groupFree g hw :=
    ({ hw with nrfx := { hw.nrfx with groups := hw.nrfx.groups.erase g } },
      decide (g ∈ hw.nrfx.groups))
  timerInit nrfx := ({ nrfx with timer := true }, !nrfx.timer)
  timerUninit nrfx := { nrfx with timer := false }

theorem Nrfx.flags_keepsToPool : Nrfx.flags.KeepsToPool where
  channelAlloc_lt hw c h := by
    unfold Nrfx.flags at h
    dsimp only at h
    split at h
    · exact absurd h (by simp)
    · rename_i c' hfind
      obtain rfl := Option.some.inj h
      exact List.mem_range.1 (List.mem_of_find?_eq_some hfind)
  channelAlloc hw i _ := by
    unfold Nrfx.flags
    dsimp only
    split <;> exact ⟨rfl, rfl⟩
  channelFree hw c hc i hi := by
    refine ⟨?_, rfl⟩
    have hnot : ¬(i < 32 ∧ i ∈ [c]) := by
      rw [List.mem_singleton]
      omega
    show (hw.chen &&& ~~~channelsMask [c]).getLsbD i = hw.chen.getLsbD i
    rw [BitVec.getLsbD_and, BitVec.getLsbD_not, getLsbD_channelsMask, decide_eq_false hnot]
    by_cases h32 : i < 32
    · simp [h32]
    · rw [BitVec.getLsbD_of_ge hw.chen i (by omega), Bool.false_and]
  groupAlloc hw i _ := by
    unfold Nrfx.flags
    dsimp only
    split <;> exact ⟨rfl, rfl⟩
  groupFree hw g i _ := ⟨rfl, rfl⟩

theorem Nrfx.flags_documented : Nrfx.flags.Documented where
  toKeepsToPool := flags_keepsToPool
  boot := rfl
  channelAlloc_some hw c h := by
    unfold Nrfx.flags at h ⊢
    dsimp only at h ⊢
    split at h
    · exact absurd h (by simp)
    · rename_i c' hfind
      obtain rfl := Option.some.inj h
      have hfree := @List.find?_some _ (fun c => decide (c ∉ hw.nrfx.channels)) _ _ hfind
      exact ⟨of_decide_eq_true hfree, rfl⟩
  channelAlloc_none hw h := by
    unfold Nrfx.flags at h ⊢
    dsimp only at h ⊢
    split at h
    · rename_i hfind
      intro c hc
      have hused := List.find?_eq_none.1 hfind c (List.mem_range.2 (Finset.mem_range.1 hc))
      simpa using hused
    · exact absurd h (by simp)
  channelFree_view hw c := rfl
  channelFree_ok hw c hc := decide_eq_true hc
  groupAlloc_some hw g h := by
    unfold Nrfx.flags at h ⊢
    dsimp only at h ⊢
    split at h
    · exact absurd h (by simp)
    · obtain rfl := Option.some.inj h
      rfl
  groupAlloc_none hw h := by
    unfold Nrfx.flags at h ⊢
    dsimp only at h ⊢
    split at h
    · rename_i hfind
      have hused := List.find?_eq_none.1 hfind 0 (by decide)
      exact ⟨0, by simpa using hused⟩
    · exact absurd h (by simp)
  groupFree_view hw g := rfl
  groupFree_ok hw g hg := decide_eq_true hg
  timerInit_ok s h := ⟨by rw [show Nrfx.flags.view s = s from rfl] at h; simp [Nrfx.flags, h], rfl⟩
  timerUninit_view s := rfl

end EsbEndpoint
