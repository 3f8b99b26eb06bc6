import EsbEndpoint.Common.Run
import EsbEndpoint.Vendor.Ppi
import Mathlib.Tactic.IntervalCases

/-!
# Handing the hardware over

`src/esb/esb_transport.c`: at a slot's start the transport switches the
BLE controller's PPI channels off, holds the crystal, initialises the radio
driver and points the RADIO vector at it; at the stop it undoes all of it.
Each part has a flag of its own, so that a start or stop that comes twice
does nothing, except that `esb_disable` has none: it switches off and frees
what the statics of `esb_ppi.c` name, whoever uses it now. The controller's
interrupts stay on, so that it could set its channels at any time; where
the results need it to leave them alone in a slot, they say so
(`LlPassive`).
-/

namespace EsbEndpoint

variable {σ : Type} (cfg : Config) (n : Nrfx σ)

/-- `BT_LL_PPI_MASK` -/
def btLlPpiMask : BitVec 32 := 0x02CFFFC0#32

/-- What the two stacks share, with the statics that say who has it.
`othersHf`, `ll`, `llEnds` and `asserted` are history: the references others
hold to the crystal, the channels the controller has enabled and what it
has connected over them, and whether an `__ASSERT(false)` was met, after
which the model goes on. -/
structure Handover (σ : Type) where
  ppi : Ppi σ
  esbInitialized : Bool := false
  btLlSuspended : Bool := false
  savedBtLlPpiChen : BitVec 32 := 0
  hfclkHeld : Bool := false
  hfRefs : Nat := 0
  /-- `m_ram_vtor[16 + RADIO_IRQn]` is the driver's. -/
  esbVector : Bool := false
  othersHf : Nat := 0
  ll : BitVec 32 := 0
  llEnds : Nat → PpiEnds := fun _ => .zero
  asserted : Bool := false

namespace Handover

def boot : Handover σ := { ppi := { hw := { nrfx := n.boot } } }

variable (s : Handover σ)

/-- `bt_ll_suspend` -/
def btLlSuspend : Handover σ :=
  if s.btLlSuspended then s
  else
    { s with
      savedBtLlPpiChen := s.ppi.hw.chen &&& btLlPpiMask
      ppi := { s.ppi with hw := { s.ppi.hw with chen := s.ppi.hw.chen &&& ~~~btLlPpiMask } }
      btLlSuspended := true }

/-- `bt_ll_resume` -/
def btLlResume : Handover σ :=
  if s.btLlSuspended then
    { s with
      ppi := { s.ppi with hw := { s.ppi.hw with chen := s.ppi.hw.chen ||| s.savedBtLlPpiChen } }
      btLlSuspended := false }
  else s

/-- `hfxo_request`, with whether the crystal starts. -/
def hfxoRequest (hfxo : Bool) : Handover σ :=
  if s.hfclkHeld then s
  else if hfxo then { s with hfclkHeld := true, hfRefs := s.hfRefs + 1 }
  else s

/-- `hfxo_release` -/
def hfxoRelease : Handover σ :=
  if s.hfclkHeld then { s with hfclkHeld := false, hfRefs := s.hfRefs - 1 } else s

/-- `sys_timer_deinit` -/
def sysTimerDeinit (p : Ppi σ) : Ppi σ :=
  { p with hw := { p.hw with nrfx := n.timerUninit p.hw.nrfx } }

/-- `esb_disable`, as far as it is about the timer and the channels. -/
def esbDisable : Handover σ :=
  let freed := esbPpiDeinit cfg n (sysTimerDeinit n (esbPpiDisableAll cfg s.ppi))
  { s with ppi := freed.1, esbInitialized := false, asserted := s.asserted || !freed.2 }

/-- `sys_timer_init` and `esb_ppi_init`, one after the other. -/
def initHardware (p : Ppi σ) : Ppi σ × Option Errno :=
  match n.timerInit p.hw.nrfx with
  | (nrfx, false) => ({ p with hw := { p.hw with nrfx } }, some .efault)
  | (nrfx, true) => esbPpiInit cfg n { p with hw := { p.hw with nrfx } }

/-- `esb_init`, as far as it is about the timer and the channels. -/
def esbInit : Handover σ × Option Errno :=
  let s := if s.esbInitialized then s.esbDisable cfg n else s
  match initHardware cfg n s.ppi with
  | (ppi, some err) => ({ s with ppi }, some err)
  | (ppi, none) => ({ s with ppi, esbInitialized := true }, none)

/-- `esb_transport_on_slot_start` -/
def esbTransportOnSlotStart (hfxo : Bool) : Handover σ :=
  match ((s.btLlSuspend.hfxoRequest hfxo).esbInit cfg n) with
  | (s, some _) => s
  | (s, none) => { s with esbVector := true }

/-- `esb_transport_on_slot_stop` -/
def esbTransportOnSlotStop : Handover σ :=
  ({ s.esbDisable cfg n with esbVector := false }).btLlResume.hfxoRelease

end Handover

inductive HandoverOp
  | slotStart (hfxo : Bool)
  | slotStop
  /-- the driver, which uses its channels while it is initialised -/
  | set (u : PpiUse)
  | clear (u : PpiUse)
  /-- the controller, at any time -/
  | ll (chen : BitVec 32) (ends : Nat → PpiEnds)
  /-- others that use the crystal -/
  | hfRequest
  | hfRelease

/-- The controller sets its channels. -/
def llSet (chen : BitVec 32) (ends : Nat → PpiEnds) (hw : PpiHw σ) : PpiHw σ :=
  { hw with
    chen := hw.chen &&& ~~~btLlPpiMask ||| chen &&& btLlPpiMask
    ends := fun i => if btLlPpiMask.getLsbD i then ends i else hw.ends i }

def handoverStep (s : Handover σ) : HandoverOp → Handover σ
  | .slotStart hfxo => s.esbTransportOnSlotStart cfg n hfxo
  | .slotStop => s.esbTransportOnSlotStop cfg n
  | .set u => if s.esbInitialized then { s with ppi := esbPpiForSet s.ppi u } else s
  | .clear u => if s.esbInitialized then { s with ppi := esbPpiForClear s.ppi u } else s
  | .ll chen ends =>
    { s with
      ppi := { s.ppi with hw := llSet chen ends s.ppi.hw }
      ll := chen &&& btLlPpiMask
      llEnds := ends }
  | .hfRequest => { s with hfRefs := s.hfRefs + 1, othersHf := s.othersHf + 1 }
  | .hfRelease =>
    if 0 < s.othersHf then { s with hfRefs := s.hfRefs - 1, othersHf := s.othersHf - 1 } else s

/-- The controller leaves its channels alone while they are suspended. -/
def LlPassive (s : Handover σ) : HandoverOp → Prop
  | .ll _ _ => s.btLlSuspended = false
  | _ => True

instance (s : Handover σ) : (op : HandoverOp) → Decidable (LlPassive s op)
  | .ll _ _ => inferInstanceAs (Decidable (_ = _))
  | .slotStart _ | .slotStop | .set _ | .clear _ | .hfRequest | .hfRelease =>
    inferInstanceAs (Decidable True)

/-! ## What is shared -/

/-- **What the driver has of the controller's**: in a slot the channel it
borrows may be enabled, and no other. -/
structure Handover.Borrows (s : Handover σ) : Prop where
  placed : s.ppi.Placed
  slot : s.esbInitialized = true → s.btLlSuspended = true
  off : s.btLlSuspended = true → ∀ i, btLlPpiMask.getLsbD i = true →
    s.ppi.hw.chen.getLsbD i = true →
      s.esbInitialized = true ∧ s.ppi.channel .radioEndTimerStart = i
  ll : ∀ i, s.ll.getLsbD i = true → btLlPpiMask.getLsbD i = true

/-- **The controller's channels are as it left them**, or are kept for it,
and connect what it connected, the endpoints of channel 6 apart, which
`esb_ppi_deinit` zeroes. -/
def LlKept (s : Handover σ) : Prop :=
  ∀ i, btLlPpiMask.getLsbD i = true →
    (if s.btLlSuspended then s.savedBtLlPpiChen else s.ppi.hw.chen).getLsbD i = s.ll.getLsbD i ∧
      (i ≠ 6 → s.ppi.hw.ends i = s.llEnds i)

/-- The condition on a stop: the controller's channels are suspended, or
the one borrowed last is none the controller has enabled. -/
def StopFindsSlot (s : Handover σ) : HandoverOp → Prop
  | .slotStop => s.btLlSuspended = true ∨
    s.ll.getLsbD (s.ppi.channel .radioEndTimerStart) = false
  | _ => True

instance (s : Handover σ) : (op : HandoverOp) → Decidable (StopFindsSlot s op)
  | .slotStop => inferInstanceAs (Decidable (_ ∨ _))
  | .slotStart _ | .set _ | .clear _ | .ll _ _ | .hfRequest | .hfRelease =>
    inferInstanceAs (Decidable True)

/-- **Who has what**: the flags agree, nothing of the pool is lost or has
two users, the controller's channels are off in a slot, and the crystal
runs for everyone who asked for it. -/
structure Handover.Sound (s : Handover σ) : Prop extends s.Borrows where
  suspended : s.btLlSuspended = s.esbInitialized
  vector : s.esbVector = s.esbInitialized
  pool : PoolAccounted n s.esbInitialized s.ppi
  borrowed : s.esbInitialized = true → cfg.esbNeverDisableTx = true →
    s.ppi.channel .radioEndTimerStart = 6
  hf : s.hfRefs = s.othersHf + s.hfclkHeld.toNat
  held : s.hfclkHeld = true → s.esbInitialized = true

/-- **What a slot comes to**: a start initialises the driver, and the stop
leaves nothing connected over the channel it borrowed. -/
def SlotDone (s : Handover σ) : HandoverOp → Prop
  | .slotStart hfxo => (s.esbTransportOnSlotStart cfg n hfxo).esbInitialized = true
  | .slotStop => s.esbInitialized = true → cfg.esbNeverDisableTx = true →
    (s.esbTransportOnSlotStop cfg n).ppi.hw.ends 6 = .zero
  | _ => True

variable {cfg n} {s : Handover σ} {p : Ppi σ}

/-! ## The controller's channels -/

theorem btLlPpiMask_getLsbD {i : Nat} (h : btLlPpiMask.getLsbD i = true) : 6 ≤ i ∧ i < 32 := by
  have h32 : i < 32 := by
    by_contra hge
    rw [BitVec.getLsbD_of_ge _ _ (by omega)] at h
    exact Bool.false_ne_true h
  refine ⟨?_, h32⟩
  by_contra hlt
  interval_cases i <;> exact absurd h (by decide)

/-- **A channel of the controller's** is one of the driver's only if it is
the borrowed one. -/
theorem Ppi.Placed.mem_iff (hp : p.Placed) {i : Nat} (hi : btLlPpiMask.getLsbD i = true)
    (chs : List PpiChannel) :
    i ∈ chs.map p.channel ↔
      PpiChannel.radioEndTimerStart ∈ chs ∧ p.channel .radioEndTimerStart = i := by
  rw [List.mem_map]
  constructor
  · rintro ⟨ch, hmem, rfl⟩
    have h6 := (btLlPpiMask_getLsbD hi).1
    by_cases hch : ch = .radioEndTimerStart
    · subst hch
      exact ⟨hmem, rfl⟩
    · have := hp.allocated ch (by cases ch <;> first | decide | exact absurd rfl hch)
      omega
  · rintro ⟨hmem, rfl⟩
    exact ⟨_, hmem, rfl⟩

/-- But for channel 6, none is. -/
theorem Ppi.Placed.ne (hp : p.Placed) {i : Nat} (hi : btLlPpiMask.getLsbD i = true)
    (hne : i ≠ 6) (ch : PpiChannel) : p.channel ch ≠ i := by
  intro heq
  have h6 := (btLlPpiMask_getLsbD hi).1
  obtain ⟨-, hborrowed⟩ := (hp.mem_iff hi [ch]).1 (heq ▸ List.mem_cons_self ..)
  have := hp.borrowed
  omega

/-- Set up, they connect what they did. -/
theorem ends_setups (hp : p.Placed) (connections : List (PpiChannel × PpiEnds)) {i : Nat}
    (hi : btLlPpiMask.getLsbD i = true) (hne : i ≠ 6) :
    (p.setups connections).hw.ends i = p.hw.ends i := by
  obtain ⟨ends, heq, hsame⟩ := @setups_eq σ p connections
  rw [heq]
  exact hsame i (hp.ne hi hne)

/-- All that is switched off of the controller's channels is the borrowed
one. -/
theorem getLsbD_esbPpiDisableAll (hp : p.Placed) {i : Nat} (hi : btLlPpiMask.getLsbD i = true) :
    (esbPpiDisableAll cfg p).hw.chen.getLsbD i =
      (p.hw.chen.getLsbD i && !decide (p.channel .radioEndTimerStart = i)) := by
  rw [esbPpiDisableAll, getLsbD_disable _ (btLlPpiMask_getLsbD hi).2]
  congr 2
  refine decide_eq_decide.2 ((hp.mem_iff hi _).trans (and_iff_right ?_))
  exact List.mem_append_left _ (by decide)

/-- What is on as the borrowed channel alone is off when that is. -/
theorem off_of_borrowed {on : Bool} {c i : Nat} (h : on = true → c = i) :
    (on && !decide (c = i)) = false := by
  cases on with
  | false => rfl
  | true => rw [h rfl, decide_eq_true rfl, Bool.not_true, Bool.and_false]

/-- **The driver gives up**, whatever nrfx makes of it. -/
theorem esbDisable_outside (hn : n.KeepsToPool) (hp : s.ppi.Placed) :
    ∃ ppi asserted, s.esbDisable cfg n = { s with ppi, esbInitialized := false, asserted } ∧
      ppi.channel = s.ppi.channel ∧ ∀ i, btLlPpiMask.getLsbD i = true →
        ppi.hw.chen.getLsbD i =
            (s.ppi.hw.chen.getLsbD i && !decide (s.ppi.channel .radioEndTimerStart = i)) ∧
          (i ≠ 6 → ppi.hw.ends i = s.ppi.hw.ends i) := by
  obtain ⟨hchannel, hsame⟩ := @esbPpiDeinit_outside σ cfg n
    (Handover.sysTimerDeinit n (esbPpiDisableAll cfg s.ppi)) hn ⟨hp.allocated, hp.borrowed⟩
  refine ⟨_, _, rfl, hchannel, fun i hi => ?_⟩
  obtain ⟨hchen, hends⟩ := hsame i (btLlPpiMask_getLsbD hi).1
  exact ⟨hchen.trans (getLsbD_esbPpiDisableAll hp hi), hends⟩

theorem initHardware_outside (hn : n.KeepsToPool) (hp : p.Placed) :
    (Handover.initHardware cfg n p).1.Placed ∧
      p.hw.SameOutside (Handover.initHardware cfg n p).1.hw := by
  rw [Handover.initHardware]
  rcases n.timerInit p.hw.nrfx with ⟨nrfx, _ | _⟩
  · exact ⟨⟨hp.allocated, hp.borrowed⟩, fun _ _ => ⟨rfl, rfl⟩⟩
  · obtain ⟨hplaced, hsame⟩ := @esbPpiInit_outside σ cfg n { p with hw := { p.hw with nrfx } } hn
      ⟨hp.allocated, hp.borrowed⟩
    exact ⟨hplaced, hsame⟩

/-- **The driver is initialised**, or not, and has given up before what it
had. -/
theorem esbInit_outside (hn : n.KeepsToPool) (hp : s.ppi.Placed)
    (hoff : ∀ i, btLlPpiMask.getLsbD i = true → s.ppi.hw.chen.getLsbD i = true →
      s.esbInitialized = true ∧ s.ppi.channel .radioEndTimerStart = i) :
    ∃ ppi esbInitialized asserted,
      (s.esbInit cfg n).1 = { s with ppi, esbInitialized, asserted } ∧ ppi.Placed ∧
        ∀ i, btLlPpiMask.getLsbD i = true →
          ppi.hw.chen.getLsbD i = false ∧ (i ≠ 6 → ppi.hw.ends i = s.ppi.hw.ends i) := by
  have hready : ∃ ppi asserted,
      (if s.esbInitialized then s.esbDisable cfg n else s) =
          { s with ppi, esbInitialized := false, asserted } ∧
        ppi.Placed ∧ ∀ i, btLlPpiMask.getLsbD i = true →
          ppi.hw.chen.getLsbD i = false ∧ (i ≠ 6 → ppi.hw.ends i = s.ppi.hw.ends i) := by
    cases hinit : s.esbInitialized with
    | false =>
      refine ⟨s.ppi, s.asserted, by rw [if_neg Bool.false_ne_true, ← hinit], hp,
        fun i hi => ⟨?_, fun _ => rfl⟩⟩
      exact Bool.eq_false_iff.2 fun hon => Bool.false_ne_true (hinit.symm.trans (hoff i hi hon).1)
    | true =>
      obtain ⟨ppi, asserted, heq, hchannel, hsame⟩ := @esbDisable_outside σ cfg n s hn hp
      refine ⟨ppi, asserted, heq, ⟨hchannel ▸ hp.allocated, hchannel ▸ hp.borrowed⟩,
        fun i hi => ⟨?_, (hsame i hi).2⟩⟩
      exact (hsame i hi).1.trans (off_of_borrowed fun hon => (hoff i hi hon).2)
  obtain ⟨ppi, asserted, heq, hplaced, hbits⟩ := hready
  obtain ⟨hplaced', hsame⟩ := @initHardware_outside σ cfg n ppi hn hplaced
  have hbits' : ∀ i, btLlPpiMask.getLsbD i = true →
      (Handover.initHardware cfg n ppi).1.hw.chen.getLsbD i = false ∧
        (i ≠ 6 → (Handover.initHardware cfg n ppi).1.hw.ends i = s.ppi.hw.ends i) :=
    fun i hi => ⟨(hsame i (btLlPpiMask_getLsbD hi).1).1.trans (hbits i hi).1,
      fun hne => (hsame i (btLlPpiMask_getLsbD hi).1).2.trans ((hbits i hi).2 hne)⟩
  rw [Handover.esbInit, heq]
  dsimp only
  rcases hgot : Handover.initHardware cfg n ppi with ⟨ppi', _ | err⟩ <;>
    rw [hgot] at hplaced' hbits' <;> exact ⟨ppi', _, asserted, rfl, hplaced', hbits'⟩

/-- Suspended, the controller's channels are off but for what the driver
borrows already. -/
theorem btLlSuspend_spec (hb : s.Borrows) :
    ∃ chen, s.btLlSuspend =
        { s with
          ppi := { s.ppi with hw := { s.ppi.hw with chen } }
          btLlSuspended := true
          savedBtLlPpiChen :=
            if s.btLlSuspended then s.savedBtLlPpiChen else s.ppi.hw.chen &&& btLlPpiMask } ∧
      ∀ i, btLlPpiMask.getLsbD i = true → chen.getLsbD i = true →
        s.esbInitialized = true ∧ s.ppi.channel .radioEndTimerStart = i := by
  cases hsusp : s.btLlSuspended with
  | true =>
    refine ⟨s.ppi.hw.chen, ?_, hb.off hsusp⟩
    rw [Handover.btLlSuspend, if_pos hsusp, if_pos rfl, ← hsusp]
  | false =>
    refine ⟨s.ppi.hw.chen &&& ~~~btLlPpiMask, ?_, fun i hi hon => ?_⟩
    · rw [Handover.btLlSuspend, hsusp]
      rfl
    · simp [hi] at hon

/-! ## Starts and stops -/

/-- What a request for the crystal leaves alone. -/
theorem hfxoRequest_eq (s : Handover σ) (hfxo : Bool) :
    s.hfxoRequest hfxo =
      { s with
        hfclkHeld := s.hfclkHeld || hfxo
        hfRefs := s.hfRefs + (!s.hfclkHeld && hfxo).toNat } := by
  obtain ⟨ppi, init, susp, saved, held, refs, vector, others, ll, llEnds, asserted⟩ := s
  cases held <;> cases hfxo <;> rfl

theorem hfxoRelease_eq (s : Handover σ) :
    s.hfxoRelease = { s with hfclkHeld := false, hfRefs := s.hfRefs - s.hfclkHeld.toNat } := by
  obtain ⟨ppi, init, susp, saved, held, refs, vector, others, ll, llEnds, asserted⟩ := s
  cases held <;> rfl

/-- **A start** takes the controller's channels over unless it has them. -/
theorem slotStart_outside (hn : n.KeepsToPool) (hb : s.Borrows) (hfxo : Bool) :
    ∃ ppi esbInitialized esbVector asserted, s.esbTransportOnSlotStart cfg n hfxo =
        { s with
          ppi
          esbInitialized
          btLlSuspended := true
          savedBtLlPpiChen :=
            if s.btLlSuspended then s.savedBtLlPpiChen else s.ppi.hw.chen &&& btLlPpiMask
          hfclkHeld := s.hfclkHeld || hfxo
          hfRefs := s.hfRefs + (!s.hfclkHeld && hfxo).toNat
          esbVector
          asserted } ∧
      ppi.Placed ∧ ∀ i, btLlPpiMask.getLsbD i = true →
        ppi.hw.chen.getLsbD i = false ∧ (i ≠ 6 → ppi.hw.ends i = s.ppi.hw.ends i) := by
  obtain ⟨chen, hsuspend, hoff⟩ := btLlSuspend_spec hb
  obtain ⟨ppi, init, asserted, heq, hspec⟩ := @esbInit_outside σ cfg n
    (s.btLlSuspend.hfxoRequest hfxo) hn
    (by
      rw [hfxoRequest_eq, hsuspend]
      exact ⟨hb.placed.allocated, hb.placed.borrowed⟩)
    (by
      rw [hfxoRequest_eq, hsuspend]
      exact hoff)
  rw [Handover.esbTransportOnSlotStart]
  rcases hgot : (s.btLlSuspend.hfxoRequest hfxo).esbInit cfg n with ⟨s', _ | err⟩ <;>
    rw [hgot, hfxoRequest_eq, hsuspend] at heq <;> rw [hfxoRequest_eq, hsuspend] at hspec <;>
    dsimp only at heq hspec ⊢ <;> rw [heq] <;> exact ⟨ppi, init, _, asserted, rfl, hspec⟩

/-- **A stop** gives everything back. The controller's channels get their
bits where they were taken, and lose the driver's last one where not. -/
theorem slotStop_outside (hn : n.KeepsToPool) (hb : s.Borrows) :
    ∃ ppi asserted, s.esbTransportOnSlotStop cfg n =
        { s with
          ppi
          esbInitialized := false
          btLlSuspended := false
          hfclkHeld := false
          hfRefs := s.hfRefs - s.hfclkHeld.toNat
          esbVector := false
          asserted } ∧
      ppi.channel = s.ppi.channel ∧ ∀ i, btLlPpiMask.getLsbD i = true →
        ppi.hw.chen.getLsbD i =
            (if s.btLlSuspended then s.savedBtLlPpiChen.getLsbD i
            else s.ppi.hw.chen.getLsbD i && !decide (s.ppi.channel .radioEndTimerStart = i)) ∧
          (i ≠ 6 → ppi.hw.ends i = s.ppi.hw.ends i) := by
  obtain ⟨ppi, asserted, hdisable, hchannel, hbits⟩ := @esbDisable_outside σ cfg n s hn hb.placed
  cases hsusp : s.btLlSuspended with
  | false =>
    refine ⟨ppi, asserted, ?_, hchannel, hbits⟩
    rw [Handover.esbTransportOnSlotStop, hdisable, Handover.btLlResume, if_neg (by simp [hsusp]),
      hfxoRelease_eq, hsusp]
  | true =>
    refine ⟨{ ppi with hw := { ppi.hw with chen := ppi.hw.chen ||| s.savedBtLlPpiChen } },
      asserted, ?_, hchannel, fun i hi => ⟨?_, (hbits i hi).2⟩⟩
    · rw [Handover.esbTransportOnSlotStop, hdisable, Handover.btLlResume, if_pos hsusp,
        hfxoRelease_eq]
    · have hoff : ppi.hw.chen.getLsbD i = false :=
        (hbits i hi).1.trans (off_of_borrowed fun hon => (hb.off hsusp i hi hon).2)
      rw [BitVec.getLsbD_or, hoff, Bool.false_or, if_pos rfl]

/-! ## Runs, whatever nrfx makes of the calls -/

theorem borrows_boot (n : Nrfx σ) : (Handover.boot n).Borrows :=
  ⟨⟨fun _ _ => Nat.zero_lt_succ _, Nat.zero_le _⟩, fun h => absurd h Bool.false_ne_true,
    fun h => absurd h Bool.false_ne_true, fun i h => by simp [Handover.boot] at h⟩

/-- **Every step** borrows no more than the one channel. -/
theorem Handover.Borrows.step (hn : n.KeepsToPool) (hb : s.Borrows) {op : HandoverOp}
    (hpassive : LlPassive s op) : (handoverStep cfg n s op).Borrows := by
  cases op with
  | slotStart hfxo =>
    obtain ⟨ppi, init, vector, asserted, heq, hplaced, hoff⟩ :=
      @slotStart_outside σ cfg n s hn hb hfxo
    rw [handoverStep, heq]
    exact ⟨hplaced, fun _ => rfl,
      fun _ i hi hon => absurd (hon.symm.trans (hoff i hi).1) (by decide), hb.ll⟩
  | slotStop =>
    obtain ⟨ppi, asserted, heq, hchannel, -⟩ := @slotStop_outside σ cfg n s hn hb
    rw [handoverStep, heq]
    exact ⟨⟨hchannel ▸ hb.placed.allocated, hchannel ▸ hb.placed.borrowed⟩,
      fun h => absurd h Bool.false_ne_true, fun h => absurd h Bool.false_ne_true, hb.ll⟩
  | set u =>
    rw [handoverStep]
    split
    · rename_i hinit
      obtain ⟨ends, heq, -⟩ := @setups_eq σ s.ppi u.connections
      rw [esbPpiForSet, heq]
      refine ⟨⟨hb.placed.allocated, hb.placed.borrowed⟩, hb.slot, fun hsusp i hi hon => ?_, hb.ll⟩
      rw [getLsbD_enable _ (btLlPpiMask_getLsbD hi).2, Bool.or_eq_true, decide_eq_true_eq] at hon
      rcases hon with hon | hmem
      · exact hb.off hsusp i hi hon
      · exact ⟨hinit, ((hb.placed.mem_iff hi _).1 hmem).2⟩
    · exact hb
  | clear u =>
    rw [handoverStep]
    split
    · obtain ⟨ends, heq, -⟩ := @setups_eq σ (s.ppi.disable (u.connections.map Prod.fst))
        (u.connections.map fun connection => (connection.1, .zero))
      rw [esbPpiForClear, heq]
      refine ⟨⟨hb.placed.allocated, hb.placed.borrowed⟩, hb.slot, fun hsusp i hi hon => ?_, hb.ll⟩
      have hbit := (getLsbD_disable (u.connections.map Prod.fst)
        (btLlPpiMask_getLsbD hi).2).symm.trans hon
      rw [Bool.and_eq_true] at hbit
      exact hb.off hsusp i hi hbit.1
    · exact hb
  | ll chen ends =>
    refine ⟨⟨hb.placed.allocated, hb.placed.borrowed⟩, hb.slot,
      fun hsusp => absurd (hpassive.symm.trans hsusp) Bool.false_ne_true, fun i hi => ?_⟩
    have hbits : (chen &&& btLlPpiMask).getLsbD i = true := hi
    rw [BitVec.getLsbD_and, Bool.and_eq_true] at hbits
    exact hbits.2
  | hfRequest => exact ⟨hb.placed, hb.slot, hb.off, hb.ll⟩
  | hfRelease =>
    rw [handoverStep]
    split
    · exact ⟨hb.placed, hb.slot, hb.off, hb.ll⟩
    · exact hb

/-- The driver's use of its channels changes registers alone. -/
theorem handoverStep_use (cfg : Config) (n : Nrfx σ) (s : Handover σ) {u : PpiUse}
    {op : HandoverOp} (hop : op = .set u ∨ op = .clear u) :
    ∃ chen ends, handoverStep cfg n s op =
      { s with ppi := { s.ppi with hw := { s.ppi.hw with chen, ends } } } := by
  rcases hop with rfl | rfl
  · rw [handoverStep]
    split
    · obtain ⟨ends, heq, -⟩ := @setups_eq σ s.ppi u.connections
      rw [esbPpiForSet, heq]
      exact ⟨_, ends, rfl⟩
    · exact ⟨s.ppi.hw.chen, s.ppi.hw.ends, rfl⟩
  · rw [handoverStep]
    split
    · obtain ⟨ends, heq, -⟩ := @setups_eq σ (s.ppi.disable (u.connections.map Prod.fst))
        (u.connections.map fun connection => (connection.1, .zero))
      rw [esbPpiForClear, heq]
      exact ⟨_, ends, rfl⟩
    · exact ⟨s.ppi.hw.chen, s.ppi.hw.ends, rfl⟩

/-- **What a step does to the controller's channels.** -/
theorem llKept_step_iff (hn : n.KeepsToPool) (hb : s.Borrows) {op : HandoverOp}
    (hpassive : LlPassive s op) (h : LlKept s) :
    LlKept (handoverStep cfg n s op) ↔ StopFindsSlot s op := by
  cases op with
  | slotStart hfxo =>
    refine iff_of_true (fun i hi => ?_) trivial
    obtain ⟨ppi, init, vector, asserted, heq, -, hsame⟩ := @slotStart_outside σ cfg n s hn hb hfxo
    obtain ⟨hbit, hends⟩ := h i hi
    rw [handoverStep, heq, if_pos rfl]
    refine ⟨?_, fun hne => ((hsame i hi).2 hne).trans (hends hne)⟩
    dsimp only
    split at hbit
    · rename_i hsusp
      rw [if_pos hsusp]
      exact hbit
    · rename_i hsusp
      rw [if_neg hsusp, BitVec.getLsbD_and, hi, Bool.and_true]
      exact hbit
  | slotStop =>
    obtain ⟨ppi, asserted, heq, hchannel, hbits⟩ := @slotStop_outside σ cfg n s hn hb
    rw [handoverStep, heq, StopFindsSlot]
    have hends : ∀ i, btLlPpiMask.getLsbD i = true → i ≠ 6 → ppi.hw.ends i = s.llEnds i :=
      fun i hi hne => ((hbits i hi).2 hne).trans ((h i hi).2 hne)
    cases hsusp : s.btLlSuspended with
    | true =>
      refine iff_of_true (fun i hi => ⟨(hbits i hi).1.trans ?_, hends i hi⟩) (Or.inl rfl)
      have hbit := (h i hi).1
      rw [if_pos hsusp] at hbit
      rw [if_pos hsusp]
      exact hbit
    | false =>
      have hoff : ¬s.btLlSuspended = true := by simp [hsusp]
      have hlost : ∀ i, btLlPpiMask.getLsbD i = true → ppi.hw.chen.getLsbD i =
          (s.ll.getLsbD i && !decide (s.ppi.channel .radioEndTimerStart = i)) := by
        intro i hi
        have hbit := (h i hi).1
        rw [if_neg hoff] at hbit
        rw [(hbits i hi).1, if_neg hoff, hbit]
      constructor
      · intro hkept
        refine Or.inr (Bool.eq_false_iff.2 fun hon => ?_)
        have hbit := (hlost _ (hb.ll _ hon)).symm.trans (hkept _ (hb.ll _ hon)).1
        rw [hon, decide_eq_true rfl] at hbit
        exact Bool.false_ne_true hbit
      · rintro (hno | hll) i hi
        · exact absurd hno Bool.false_ne_true
        · refine ⟨(hlost i hi).trans ?_, hends i hi⟩
          by_cases hch : s.ppi.channel .radioEndTimerStart = i
          · subst hch
            rw [hll, Bool.false_and]
          · rw [decide_eq_false hch, Bool.not_false, Bool.and_true]
  | set u =>
    refine iff_of_true (fun i hi => ?_) trivial
    obtain ⟨hbit, hends⟩ := h i hi
    rw [handoverStep]
    split
    · rename_i hinit
      have hsusp := hb.slot hinit
      rw [if_pos hsusp] at hbit
      refine ⟨(congrArg (BitVec.getLsbD · i) (if_pos hsusp)).trans hbit, fun hne => ?_⟩
      exact (ends_setups hb.placed u.connections hi hne).trans (hends hne)
    · exact ⟨hbit, hends⟩
  | clear u =>
    refine iff_of_true (fun i hi => ?_) trivial
    obtain ⟨hbit, hends⟩ := h i hi
    rw [handoverStep]
    split
    · rename_i hinit
      have hsusp := hb.slot hinit
      rw [if_pos hsusp] at hbit
      refine ⟨(congrArg (BitVec.getLsbD · i) (if_pos hsusp)).trans hbit, fun hne => ?_⟩
      exact (@ends_setups σ (s.ppi.disable (u.connections.map Prod.fst))
        ⟨hb.placed.allocated, hb.placed.borrowed⟩ _ i hi hne).trans (hends hne)
    · exact ⟨hbit, hends⟩
  | ll chen ends =>
    refine iff_of_true (fun i hi => ?_) trivial
    have hsusp : ¬s.btLlSuspended = true := by rw [show s.btLlSuspended = false from hpassive]; simp
    rw [handoverStep, if_neg hsusp]
    refine ⟨?_, fun _ => if_pos hi⟩
    rw [llSet, BitVec.getLsbD_or, BitVec.getLsbD_and, BitVec.getLsbD_not]
    simp [hi]
  | hfRequest => exact iff_of_true h trivial
  | hfRelease =>
    refine iff_of_true ?_ trivial
    rw [handoverStep]
    split <;> exact h

/-- **The controller finds its channels as it left them**, in every run in
which it leaves them alone in a slot and whatever nrfx refuses, exactly
when no stop that finds them not suspended comes while the channel
borrowed last is enabled. -/
theorem llKept_iff (cfg : Config) (n : Nrfx σ) (hn : n.KeepsToPool) (ops : List HandoverOp)
    (hpassive : Guarded (handoverStep cfg n) LlPassive (.boot n) ops) :
    Throughout (handoverStep cfg n) LlKept (.boot n) ops ↔
      Guarded (handoverStep cfg n) StopFindsSlot (.boot n) ops :=
  throughout_iff_guarded (I := Handover.Borrows) (D := LlPassive)
    (fun _ _ hb hop => hb.step hn hop) (fun _ _ hb hop h => llKept_step_iff hn hb hop h)
    (borrows_boot n) (fun i _ => ⟨by simp [Handover.boot], fun _ => rfl⟩) hpassive

/-- A slot in which the driver borrows a channel the controller had on. -/
def oneSlot : List HandoverOp :=
  [.ll 0x40 (fun _ => .others 1 2), .slotStart true, .set .waitForRx, .slotStop]

theorem llKept_iff_oneSlot :
    Throughout (handoverStep .default .flags) LlKept (.boot .flags) oneSlot :=
  (llKept_iff .default .flags Nrfx.flags_keepsToPool oneSlot (by decide +kernel)).2
    (by decide +kernel)

/-! ## Runs, with nrfx as it documents itself -/

/-- Nothing of what was given is refused back, -/
theorem deinit_spec (hn : n.Documented) (hpool : PoolAccounted n true p) :
    (esbPpiDeinit cfg n (Handover.sysTimerDeinit n (esbPpiDisableAll cfg p))).2 = true ∧
      (esbPpiDeinit cfg n (Handover.sysTimerDeinit n (esbPpiDisableAll cfg p))).1.stray =
        p.stray ∧
      n.view (esbPpiDeinit cfg n
        (Handover.sysTimerDeinit n (esbPpiDisableAll cfg p))).1.hw.nrfx = {} := by
  obtain ⟨hnodup, hview⟩ := hpool
  have hview' : n.view (Handover.sysTimerDeinit n (esbPpiDisableAll cfg p)).hw.nrfx =
      ⟨(PpiChannel.allocated.map p.channel).toFinset, {p.rampUpPpiGroup}, false⟩ :=
    (hn.timerUninit_view _).trans (by rw [show (esbPpiDisableAll cfg p).hw.nrfx =
      p.hw.nrfx from rfl, hview])
  obtain ⟨hok, hstray, hfreed⟩ := @esbPpiDeinit_spec σ cfg n
    (Handover.sysTimerDeinit n (esbPpiDisableAll cfg p)) hn hnodup (by rw [hview']; rfl)
    (by rw [hview']; rfl)
  exact ⟨hok, hstray, hfreed.trans (by rw [hview'])⟩

/-- **so the driver gives it back**, -/
theorem esbDisable_spec (hn : n.Documented) (hpool : PoolAccounted n true s.ppi) :
    (s.esbDisable cfg n).asserted = s.asserted ∧
      (s.esbDisable cfg n).ppi.stray = s.ppi.stray ∧
      PoolAccounted n false (s.esbDisable cfg n).ppi := by
  obtain ⟨hok, hstray, hfreed⟩ := @deinit_spec σ cfg n s.ppi hn hpool
  refine ⟨?_, hstray, hfreed⟩
  show (s.asserted || !(esbPpiDeinit cfg n _).2) = s.asserted
  rw [hok, Bool.not_true, Bool.or_false]

/-- and one that has nothing asks to free what it has not. -/
theorem esbDisable_of_none (hn : n.Documented) (hpool : PoolAccounted n false s.ppi) :
    (s.esbDisable cfg n).ppi.stray = true ∧ PoolAccounted n false (s.esbDisable cfg n).ppi := by
  have hview : n.view (Handover.sysTimerDeinit n (esbPpiDisableAll cfg s.ppi)).hw.nrfx = {} :=
    (hn.timerUninit_view _).trans (by rw [show (esbPpiDisableAll cfg s.ppi).hw.nrfx =
      s.ppi.hw.nrfx from rfl, show n.view s.ppi.hw.nrfx = {} from hpool])
  obtain ⟨hstray, hsame⟩ := @esbPpiDeinit_of_none σ cfg n
    (Handover.sysTimerDeinit n (esbPpiDisableAll cfg s.ppi)) hn (by rw [hview]) (by rw [hview])
  exact ⟨hstray, hsame.trans hview⟩

theorem initHardware_spec (hn : n.Documented) (hpool : PoolAccounted n false p) :
    (Handover.initHardware cfg n p).2 = none ∧
      (Handover.initHardware cfg n p).1.stray = p.stray ∧
      PoolAccounted n true (Handover.initHardware cfg n p).1 ∧
      (cfg.esbNeverDisableTx = true →
        (Handover.initHardware cfg n p).1.channel .radioEndTimerStart = 6) := by
  have hnone : n.view p.hw.nrfx = {} := hpool
  obtain ⟨hok, hview⟩ := hn.timerInit_ok p.hw.nrfx (by rw [hnone])
  rw [hnone] at hview
  rw [Handover.initHardware]
  rcases hgot : n.timerInit p.hw.nrfx with ⟨nrfx, _ | _⟩ <;> rw [hgot] at hok hview
  · exact absurd hok Bool.false_ne_true
  · exact @esbPpiInit_spec σ cfg n { p with hw := { p.hw with nrfx } } hn (by rw [hview])
      (by rw [hview]) (by rw [hview])

/-- **The driver is initialised**, whether it was before or not. -/
theorem esbInit_spec (hn : n.Documented) (hpool : PoolAccounted n s.esbInitialized s.ppi) :
    (s.esbInit cfg n).2 = none ∧ (s.esbInit cfg n).1.esbInitialized = true ∧
      (s.esbInit cfg n).1.asserted = s.asserted ∧
      (s.esbInit cfg n).1.ppi.stray = s.ppi.stray ∧
      PoolAccounted n true (s.esbInit cfg n).1.ppi ∧
      (cfg.esbNeverDisableTx = true →
        (s.esbInit cfg n).1.ppi.channel .radioEndTimerStart = 6) := by
  have hready : ∀ s' : Handover σ, s' = (if s.esbInitialized then s.esbDisable cfg n else s) →
      s'.asserted = s.asserted ∧ s'.ppi.stray = s.ppi.stray ∧ PoolAccounted n false s'.ppi := by
    rintro s' rfl
    split
    · rename_i hinit
      rw [hinit] at hpool
      exact esbDisable_spec hn hpool
    · rename_i hinit
      rw [Bool.not_eq_true] at hinit
      rw [hinit] at hpool
      exact ⟨rfl, rfl, hpool⟩
  rw [Handover.esbInit]
  generalize hs' : (if s.esbInitialized then s.esbDisable cfg n else s) = s'
  obtain ⟨hassert, hstray, hfree⟩ := hready s' hs'.symm
  obtain ⟨hok, hstray', hpool', hborrowed⟩ := @initHardware_spec σ cfg n s'.ppi hn hfree
  rcases hgot : Handover.initHardware cfg n s'.ppi with ⟨ppi, _ | err⟩ <;>
    rw [hgot] at hok hstray' hpool' hborrowed
  · exact ⟨rfl, rfl, hassert, hstray'.trans hstray, hpool', hborrowed⟩
  · exact absurd hok (by simp)

/-- **A start succeeds.** -/
theorem slotStart_spec (hn : n.Documented) (hpool : PoolAccounted n s.esbInitialized s.ppi)
    (hfxo : Bool) :
    (s.esbTransportOnSlotStart cfg n hfxo).esbInitialized = true ∧
      (s.esbTransportOnSlotStart cfg n hfxo).esbVector = true ∧
      (s.esbTransportOnSlotStart cfg n hfxo).asserted = s.asserted ∧
      (s.esbTransportOnSlotStart cfg n hfxo).ppi.stray = s.ppi.stray ∧
      PoolAccounted n true (s.esbTransportOnSlotStart cfg n hfxo).ppi ∧
      (cfg.esbNeverDisableTx = true →
        (s.esbTransportOnSlotStart cfg n hfxo).ppi.channel .radioEndTimerStart = 6) := by
  have hsuspend : ∃ chen saved suspended, s.btLlSuspend =
      { s with
        ppi := { s.ppi with hw := { s.ppi.hw with chen } }
        savedBtLlPpiChen := saved
        btLlSuspended := suspended } := by
    rw [Handover.btLlSuspend]
    split
    · exact ⟨_, _, _, rfl⟩
    · exact ⟨_, _, _, rfl⟩
  obtain ⟨chen, saved, suspended, hsuspend⟩ := hsuspend
  have hspec := @esbInit_spec σ cfg n (s.btLlSuspend.hfxoRequest hfxo) hn
    (by
      rw [hfxoRequest_eq, hsuspend]
      exact hpool)
  rw [Handover.esbTransportOnSlotStart]
  rcases hgot : (s.btLlSuspend.hfxoRequest hfxo).esbInit cfg n with ⟨s', _ | err⟩ <;>
    rw [hgot, hfxoRequest_eq, hsuspend] at hspec
  · obtain ⟨-, hinit, hassert, hstray, hpool', hborrowed⟩ := hspec
    exact ⟨hinit, rfl, hassert, hstray, hpool', hborrowed⟩
  · exact absurd hspec.1 (by simp)

/-- What a stop has of the channels is what `esb_disable` leaves. -/
theorem slotStop_ppi (s : Handover σ) :
    ∃ chen, (s.esbTransportOnSlotStop cfg n).ppi =
        { (s.esbDisable cfg n).ppi with hw := { (s.esbDisable cfg n).ppi.hw with chen } } ∧
      (s.esbTransportOnSlotStop cfg n).asserted = (s.esbDisable cfg n).asserted := by
  rw [Handover.esbTransportOnSlotStop, hfxoRelease_eq, Handover.btLlResume]
  split
  · exact ⟨_, rfl, rfl⟩
  · exact ⟨_, rfl, rfl⟩

/-- **A stop in a slot** gives back what the driver was given; outside one
it asks to free what is not allocated. -/
theorem slotStop_spec (hn : n.Documented) (hpool : PoolAccounted n s.esbInitialized s.ppi) :
    PoolAccounted n false (s.esbTransportOnSlotStop cfg n).ppi ∧
      (s.esbTransportOnSlotStop cfg n).ppi.stray = (s.ppi.stray || !s.esbInitialized) ∧
      (s.esbInitialized = true → (s.esbTransportOnSlotStop cfg n).asserted = s.asserted) := by
  obtain ⟨chen, hppi, hassert⟩ := @slotStop_ppi σ cfg n s
  rw [hppi, hassert]
  cases hinit : s.esbInitialized with
  | false =>
    rw [hinit] at hpool
    obtain ⟨hstray, hpool'⟩ := @esbDisable_of_none σ cfg n s hn hpool
    exact ⟨hpool', hstray.trans (Bool.or_true _).symm, fun h => absurd h Bool.false_ne_true⟩
  | true =>
    rw [hinit] at hpool
    obtain ⟨hsame, hstray, hpool'⟩ := @esbDisable_spec σ cfg n s hn hpool
    exact ⟨hpool', hstray.trans (Bool.or_false _).symm, fun _ => hsame⟩

theorem sound_boot (hn : n.Documented) : (Handover.boot n).Sound cfg n :=
  ⟨borrows_boot n, rfl, rfl, hn.boot, fun h => absurd h Bool.false_ne_true, rfl,
    fun h => absurd h Bool.false_ne_true⟩

/-- **Every step keeps the account.** -/
theorem Handover.Sound.step (hn : n.Documented) (hs : s.Sound cfg n) {op : HandoverOp}
    (hpassive : LlPassive s op) : (handoverStep cfg n s op).Sound cfg n := by
  have hb : (handoverStep cfg n s op).Borrows := hs.toBorrows.step hn.toKeepsToPool hpassive
  cases op with
  | slotStart hfxo =>
    obtain ⟨hinit, hvector, -, -, hpool, hborrowed⟩ := @slotStart_spec σ cfg n s hn hs.pool hfxo
    obtain ⟨ppi, init, vector, asserted, heq, -⟩ :=
      @slotStart_outside σ cfg n s hn.toKeepsToPool hs.toBorrows hfxo
    rw [handoverStep] at hb ⊢
    rw [heq] at hb hinit hvector hpool hborrowed ⊢
    dsimp only at hinit hvector
    subst hinit hvector
    refine ⟨hb, rfl, rfl, hpool, fun _ => hborrowed, ?_, fun _ => rfl⟩
    have hheld : ∀ held hfxo : Bool, held.toNat + (!held && hfxo).toNat = (held || hfxo).toNat := by
      decide
    dsimp only
    rw [hs.hf, Nat.add_assoc, hheld]
  | slotStop =>
    obtain ⟨hpool, -, -⟩ := @slotStop_spec σ cfg n s hn hs.pool
    obtain ⟨ppi, asserted, heq, -⟩ :=
      @slotStop_outside σ cfg n s hn.toKeepsToPool hs.toBorrows
    rw [handoverStep] at hb ⊢
    rw [heq] at hb hpool ⊢
    refine ⟨hb, rfl, rfl, hpool, fun h => absurd h Bool.false_ne_true, ?_,
      fun h => absurd h Bool.false_ne_true⟩
    dsimp only
    rw [hs.hf, Nat.add_sub_cancel]
    rfl
  | set u =>
    obtain ⟨chen, ends, heq⟩ := @handoverStep_use σ cfg n s u (.set u) (Or.inl rfl)
    rw [heq] at hb ⊢
    exact ⟨hb, hs.suspended, hs.vector, hs.pool, hs.borrowed, hs.hf, hs.held⟩
  | clear u =>
    obtain ⟨chen, ends, heq⟩ := @handoverStep_use σ cfg n s u (.clear u) (Or.inr rfl)
    rw [heq] at hb ⊢
    exact ⟨hb, hs.suspended, hs.vector, hs.pool, hs.borrowed, hs.hf, hs.held⟩
  | ll chen ends =>
    exact ⟨hb, hs.suspended, hs.vector, hs.pool, hs.borrowed, hs.hf, hs.held⟩
  | hfRequest =>
    refine ⟨hb, hs.suspended, hs.vector, hs.pool, hs.borrowed, ?_, hs.held⟩
    have := hs.hf
    simp only [handoverStep]
    omega
  | hfRelease =>
    rw [handoverStep] at hb ⊢
    split
    · rename_i hothers
      rw [if_pos hothers] at hb
      refine ⟨hb, hs.suspended, hs.vector, hs.pool, hs.borrowed, ?_, hs.held⟩
      have := hs.hf
      dsimp only
      omega
    · exact hs

/-- **A slot comes to what it should.** -/
theorem Handover.Sound.slotDone (hn : n.Documented) (hs : s.Sound cfg n) (op : HandoverOp) :
    SlotDone cfg n s op := by
  cases op with
  | slotStart hfxo => exact (slotStart_spec hn hs.pool hfxo).1
  | slotStop =>
    intro hinit hnever
    obtain ⟨chen, hppi, -⟩ := @slotStop_ppi σ cfg n s
    obtain ⟨hok, -⟩ := @deinit_spec σ cfg n s.ppi hn (hinit ▸ hs.pool)
    rw [hppi]
    exact ends_esbPpiDeinit hn.toKeepsToPool ⟨hs.placed.allocated, hs.placed.borrowed⟩
      (hs.borrowed hinit hnever) hnever hok
  | _ => trivial

/-- **In every run** in which the controller leaves its channels alone in a
slot, the pool is whole and what the flags say agrees, every start
initialises the driver, and every stop leaves the borrowed channel
unconnected. -/
theorem sound_run (cfg : Config) (n : Nrfx σ) (hn : n.Documented) (ops : List HandoverOp)
    (hpassive : Guarded (handoverStep cfg n) LlPassive (.boot n) ops) :
    Throughout (handoverStep cfg n) (Handover.Sound cfg n) (.boot n) ops ∧
      Guarded (handoverStep cfg n) (SlotDone cfg n) (.boot n) ops :=
  ⟨Throughout.of_guarded (fun _ _ hs hop => hs.step hn hop) (sound_boot hn) hpassive,
    Guarded.of_invariant (I := Handover.Sound cfg n) (fun _ _ hs hop => hs.step hn hop)
      (fun _ op hs _ => hs.slotDone hn op) (sound_boot hn) hpassive⟩

theorem sound_run_oneSlot :
    Throughout (handoverStep .default .flags) (Handover.Sound .default .flags) (.boot .flags)
        oneSlot ∧
      Guarded (handoverStep .default .flags) (SlotDone .default .flags) (.boot .flags) oneSlot :=
  sound_run .default .flags Nrfx.flags_documented oneSlot (by decide +kernel)

end EsbEndpoint
