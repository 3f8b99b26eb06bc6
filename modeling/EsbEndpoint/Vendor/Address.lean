import EsbEndpoint.Common.BitPerm
import EsbEndpoint.Common.Run
import EsbEndpoint.Config
import EsbEndpoint.Protocol

/-!
# The addresses of the vendored radio

`vendor/nrf-esb/subsys/esb.c` keeps a base address for pipe 0, one for the
others and a prefix for each pipe, and writes them with their bits turned
round into four registers whenever they are set. `esb_init` writes the
registers of the default addresses and leaves the statics as they are, so
after a restart the two need not agree. Pointers are not null, and the
workaround for an erratum is not part of the model.
-/

namespace EsbEndpoint

/-! ## Words -/

/-- Four bytes as the little-endian processor loads them. -/
def loadWord (b : Fin 4 → UInt8) : BitVec 32 :=
  (b 3).toBitVec ++ (b 2).toBitVec ++ (b 1).toBitVec ++ (b 0).toBitVec

/-- `__RBIT` -/
def rbit (w : BitVec 32) : BitVec 32 := w.reverse

/-- `__REV`, and `sys_cpu_to_be32` -/
def rev (w : BitVec 32) : BitVec 32 :=
  w.extractLsb' 0 8 ++ w.extractLsb' 8 8 ++ w.extractLsb' 16 8 ++ w.extractLsb' 24 8

/-- `bytewise_bit_swap` where there is an instruction for it. -/
def bytewiseBitSwapCortexM4 (input : Fin 4 → UInt8) : BitVec 32 := rev (rbit (loadWord input))

/-- `bytewise_bit_swap` elsewhere. -/
def bytewiseBitSwapGeneric (input : Fin 4 → UInt8) : BitVec 32 :=
  let inp := loadWord input
  let inp := swapGroups 0xF0F0F0F0 0x0F0F0F0F 4 inp
  let inp := swapGroups 0xCCCCCCCC 0x33333333 2 inp
  swapGroups 0xAAAAAAAA 0x55555555 1 inp

/-- `bytewise_bit_swap` -/
def bytewiseBitSwap (cortexM4 : Bool) (input : Fin 4 → UInt8) : BitVec 32 :=
  if cortexM4 then bytewiseBitSwapCortexM4 input else bytewiseBitSwapGeneric input

/-- `addr_conv` -/
def addrConv (cortexM4 : Bool) (addr : Fin 4 → UInt8) : BitVec 32 :=
  rev (bytewiseBitSwap cortexM4 addr)

theorem takes_rev (w : BitVec 32) : Takes (fun i => 8 * (3 - i / 8) + i % 8) (rev w) w := by
  intro i hi
  refine ⟨by dsimp only; omega, ?_⟩
  obtain hbyte | hbyte | hbyte | hbyte : i / 8 = 0 ∨ i / 8 = 1 ∨ i / 8 = 2 ∨ i / 8 = 3 := by omega
  all_goals
    simp only [rev, BitVec.getLsbD_append, BitVec.getLsbD_extractLsb', hbyte]
    grind

/-- The place of a bit in its byte, turned round. -/
def mirrored (i : Nat) : Nat := 8 * (i / 8) + (7 - i % 8)

theorem takes_cortexM4 (input : Fin 4 → UInt8) :
    Takes mirrored (bytewiseBitSwapCortexM4 input) (loadWord input) := by
  have htakes := (takes_rev (rbit (loadWord input))).trans (takes_reverse (loadWord input))
  intro i hi
  have hplace : 32 - 1 - (8 * (3 - i / 8) + i % 8) = mirrored i := by
    rw [mirrored]
    omega
  exact hplace ▸ htakes i hi

theorem takes_generic (input : Fin 4 → UInt8) :
    Takes mirrored (bytewiseBitSwapGeneric input) (loadWord input) := by
  have hfour : ∀ w : BitVec 32, Takes (otherGroup 4) (swapGroups 0xF0F0F0F0 0x0F0F0F0F 4 w) w :=
    takes_swapGroups (by decide) (by decide) (by decide) (by decide)
  have htwo : ∀ w : BitVec 32, Takes (otherGroup 2) (swapGroups 0xCCCCCCCC 0x33333333 2 w) w :=
    takes_swapGroups (by decide) (by decide) (by decide) (by decide)
  have hone : ∀ w : BitVec 32, Takes (otherGroup 1) (swapGroups 0xAAAAAAAA 0x55555555 1 w) w :=
    takes_swapGroups (by decide) (by decide) (by decide) (by decide)
  have hplaces : ∀ i, i < 32 → otherGroup 4 (otherGroup 2 (otherGroup 1 i)) = mirrored i := by
    decide
  intro i hi
  exact hplaces i hi ▸ ((hone _).trans ((htwo _).trans (hfour (loadWord input)))) i hi

/-- **The two paths agree.** -/
theorem bytewiseBitSwap_eq (input : Fin 4 → UInt8) :
    bytewiseBitSwapCortexM4 input = bytewiseBitSwapGeneric input :=
  (takes_cortexM4 input).unique (takes_generic input) fun _ _ => rfl

/-- The bytes of a word. -/
theorem extractLsb'_loadWord (b : Fin 4 → UInt8) (i : Fin 4) :
    (loadWord b).extractLsb' (8 * i) 8 = (b i).toBitVec := by
  refine BitVec.eq_of_getLsbD_eq fun j hj => ?_
  obtain ⟨i, hi⟩ := i
  obtain rfl | rfl | rfl | rfl : i = 0 ∨ i = 1 ∨ i = 2 ∨ i = 3 := by omega
  all_goals
    simp only [loadWord, BitVec.getLsbD_append, BitVec.getLsbD_extractLsb']
    grind

theorem loadWord_injective : Function.Injective loadWord := by
  intro b b' h
  funext i
  exact UInt8.toBitVec_inj.1 ((extractLsb'_loadWord b i).symm.trans
    ((congrArg _ h).trans (extractLsb'_loadWord b' i)))

theorem rev_injective : Function.Injective rev :=
  Takes.injective takes_rev fun i hi => ⟨8 * (3 - i / 8) + i % 8, by omega, by omega⟩

theorem takes_bytewiseBitSwap (cortexM4 : Bool) (input : Fin 4 → UInt8) :
    Takes mirrored (bytewiseBitSwap cortexM4 input) (loadWord input) := by
  cases cortexM4 with
  | true => exact takes_cortexM4 input
  | false => exact takes_generic input

theorem bytewiseBitSwap_injective (cortexM4 : Bool) :
    Function.Injective (bytewiseBitSwap cortexM4) := by
  intro b b' h
  refine loadWord_injective (BitVec.eq_of_getLsbD_eq fun i hi => ?_)
  have hplace : mirrored (mirrored i) = i := by
    simp only [mirrored]
    omega
  have hlt : mirrored i < 32 := by
    rw [mirrored]
    omega
  have hbit := (takes_bytewiseBitSwap cortexM4 b _ hlt).2
  have hbit' := (takes_bytewiseBitSwap cortexM4 b' _ hlt).2
  rw [hplace] at hbit hbit'
  rw [← hbit, ← hbit', h]

/-- **An address can be read back.** -/
theorem addrConv_injective (cortexM4 : Bool) : Function.Injective (addrConv cortexM4) :=
  rev_injective.comp (bytewiseBitSwap_injective cortexM4)

/-! ## The statics and the registers -/

/-- The fields of `struct esb_address` that make addresses. -/
structure EsbAddress where
  baseAddrP0 : Fin 4 → UInt8 := fun _ => 0xE7
  baseAddrP1 : Fin 4 → UInt8 := fun _ => 0xC2
  pipePrefixes : Fin 8 → UInt8 := fun i =>
    [0xE7, 0xC2, 0xC3, 0xC4, 0xC5, 0xC6, 0xC7, 0xC8].getD i 0
  numPipes : Nat
  rxPipesEnabled : UInt8 := 0xFF

/-- `esb_addr` as declared. -/
def EsbAddress.initial (cfg : Config) : EsbAddress := { numPipes := cfg.esbPipeCount }

structure AddrRegisters where
  base0 : BitVec 32 := 0
  base1 : BitVec 32 := 0
  prefix0 : BitVec 32 := 0
  prefix1 : BitVec 32 := 0
  deriving DecidableEq

/-- The driver as far as its addresses go. `idle` is
`esb_state == ESB_STATE_IDLE`. -/
structure AddrDriver where
  esbAddr : EsbAddress
  regs : AddrRegisters := {}
  idle : Bool := true

variable (cfg : Config) (cortexM4 : Bool)

/-- The statics and the radio after a reset. -/
def AddrDriver.boot : AddrDriver := { esbAddr := .initial cfg }

variable (d : AddrDriver)

/-- The registers of the prefixes. -/
def prefixRegisters (pipePrefixes : Fin 8 → UInt8) : BitVec 32 × BitVec 32 :=
  (bytewiseBitSwap cortexM4 fun i => pipePrefixes (i.castAdd 4),
    bytewiseBitSwap cortexM4 fun i => pipePrefixes (i.addNat 4))

/-- The registers of `update_radio_addresses`, by what its mask asks for. -/
def updateRadioAddresses (base0 base1 prefixes : Bool) (a : EsbAddress) (regs : AddrRegisters) :
    AddrRegisters where
  base0 := if base0 then addrConv cortexM4 a.baseAddrP0 else regs.base0
  base1 := if base1 then addrConv cortexM4 a.baseAddrP1 else regs.base1
  prefix0 := if prefixes then (prefixRegisters cortexM4 a.pipePrefixes).1 else regs.prefix0
  prefix1 := if prefixes then (prefixRegisters cortexM4 a.pipePrefixes).2 else regs.prefix1

/-- `esb_init`, which writes the registers of the default addresses. -/
def AddrDriver.esbInit : AddrDriver :=
  { d with
    regs := ⟨0xE7E7E7E7, 0x43434343, 0x23C343E7, 0x13E363A3⟩
    idle := true }

/-- `esb_set_base_address_0` -/
def esbSetBaseAddress0 (addr : Fin 4 → UInt8) : AddrDriver × Option Errno :=
  if !d.idle then (d, some .ebusy)
  else
    let esbAddr := { d.esbAddr with baseAddrP0 := addr }
    ({ d with esbAddr, regs := updateRadioAddresses cortexM4 true false false esbAddr d.regs },
      none)

/-- `esb_set_base_address_1` -/
def esbSetBaseAddress1 (addr : Fin 4 → UInt8) : AddrDriver × Option Errno :=
  if !d.idle then (d, some .ebusy)
  else
    let esbAddr := { d.esbAddr with baseAddrP1 := addr }
    ({ d with esbAddr, regs := updateRadioAddresses cortexM4 false true false esbAddr d.regs },
      none)

/-- `BIT_MASK_UINT_8` -/
def bitMaskUint8 (x : Nat) : UInt8 := UInt8.ofNat (0xFF >>> (8 - x))

/-- `esb_set_prefixes` -/
def esbSetPrefixes (prefixes : Fin 8 → UInt8) (numPipes : Nat) : AddrDriver × Option Errno :=
  if !d.idle then (d, some .ebusy)
  else if cfg.esbPipeCount < numPipes then (d, some .einval)
  else
    let esbAddr := { d.esbAddr with
      pipePrefixes := fun i => if i < numPipes then prefixes i else d.esbAddr.pipePrefixes i
      numPipes
      rxPipesEnabled := bitMaskUint8 numPipes }
    ({ d with esbAddr, regs := updateRadioAddresses cortexM4 false false true esbAddr d.regs },
      none)

/-- `esb_update_prefix` -/
def esbUpdatePrefix (pipe : Fin 8) (pfx : UInt8) : AddrDriver × Option Errno :=
  if !d.idle then (d, some .ebusy)
  else if cfg.esbPipeCount ≤ pipe then (d, some .einval)
  else
    let esbAddr := { d.esbAddr with
      pipePrefixes := Function.update d.esbAddr.pipePrefixes pipe pfx }
    ({ d with esbAddr, regs := updateRadioAddresses cortexM4 false false true esbAddr d.regs },
      none)

/-- `esb_enable_pipes` -/
def esbEnablePipes (enableMask : UInt8) : AddrDriver × Option Errno :=
  if !d.idle then (d, some .ebusy)
  else if enableMask ||| bitMaskUint8 cfg.esbPipeCount ≠ bitMaskUint8 cfg.esbPipeCount then
    (d, some .einval)
  else ({ d with esbAddr := { d.esbAddr with rxPipesEnabled := enableMask } }, none)

/-! ## Runs -/

inductive AddrCall
  | setBase0 (addr : Fin 4 → UInt8)
  | setBase1 (addr : Fin 4 → UInt8)
  | setPrefixes (prefixes : Fin 8 → UInt8) (numPipes : Nat)
  | updatePrefix (pipe : Fin 8) (pfx : UInt8)
  | enablePipes (enableMask : UInt8)

def addrCall (d : AddrDriver) : AddrCall → AddrDriver × Option Errno
  | .setBase0 addr => esbSetBaseAddress0 cortexM4 d addr
  | .setBase1 addr => esbSetBaseAddress1 cortexM4 d addr
  | .setPrefixes prefixes numPipes => esbSetPrefixes cfg cortexM4 d prefixes numPipes
  | .updatePrefix pipe pfx => esbUpdatePrefix cfg cortexM4 d pipe pfx
  | .enablePipes enableMask => esbEnablePipes cfg d enableMask

/-- What a call sets: either base address, or the prefixes. -/
def AddrCall.sets : AddrCall → Bool × Bool × Bool
  | .setBase0 _ => (true, false, false)
  | .setBase1 _ => (false, true, false)
  | .setPrefixes _ _ | .updatePrefix _ _ => (false, false, true)
  | .enablePipes _ => (false, false, false)

inductive AddrOp
  | init
  | call (c : AddrCall)
  /-- the radio starts or ends something -/
  | radio (idle : Bool)

/-- A driver with its history: what has been set since the last
`esb_init`. -/
structure AddrTrace where
  d : AddrDriver
  base0 : Bool := false
  base1 : Bool := false
  prefixes : Bool := false

def addrTraceStep (t : AddrTrace) : AddrOp → AddrTrace
  | .init => { d := t.d.esbInit }
  | .radio idle => { t with d := { t.d with idle } }
  | .call c =>
    match addrCall cfg cortexM4 t.d c with
    | (d, some _) => { t with d }
    | (d, none) =>
      { d
        base0 := c.sets.1 || t.base0
        base1 := c.sets.2.1 || t.base1
        prefixes := c.sets.2.2 || t.prefixes }

/-- What the registers hold of these addresses. -/
structure AddrRegisters.Hold (regs : AddrRegisters) (a : EsbAddress) : Prop where
  base0 : regs.base0 = addrConv cortexM4 a.baseAddrP0
  base1 : regs.base1 = addrConv cortexM4 a.baseAddrP1
  prefixes : (regs.prefix0, regs.prefix1) = prefixRegisters cortexM4 a.pipePrefixes

/-- The addresses in force: of the statics where they were set, and the
defaults of `esb_init` elsewhere. -/
def AddrTrace.inForce (t : AddrTrace) : EsbAddress :=
  { t.d.esbAddr with
    baseAddrP0 := if t.base0 then t.d.esbAddr.baseAddrP0 else (EsbAddress.initial cfg).baseAddrP0
    baseAddrP1 := if t.base1 then t.d.esbAddr.baseAddrP1 else (EsbAddress.initial cfg).baseAddrP1
    pipePrefixes :=
      if t.prefixes then t.d.esbAddr.pipePrefixes else (EsbAddress.initial cfg).pipePrefixes }

variable {cfg cortexM4}

/-- The constants of `esb_init` are the defaults of the statics. -/
theorem hold_esbInit (d : AddrDriver) :
    d.esbInit.regs.Hold cortexM4 (EsbAddress.initial cfg) := by
  have hbase0 : (0xE7E7E7E7 : BitVec 32) = addrConv cortexM4 fun _ => 0xE7 := by
    cases cortexM4 <;> decide +kernel
  have hbase1 : (0x43434343 : BitVec 32) = addrConv cortexM4 fun _ => 0xC2 := by
    cases cortexM4 <;> decide +kernel
  have hprefixes : ((0x23C343E7, 0x13E363A3) : BitVec 32 × BitVec 32) =
      prefixRegisters cortexM4 fun i =>
        [0xE7, 0xC2, 0xC3, 0xC4, 0xC5, 0xC6, 0xC7, 0xC8].getD i 0 := by
    cases cortexM4 <;> decide +kernel
  exact ⟨hbase0, hbase1, hprefixes⟩

/-- **What a call does**: it is refused, or it writes the registers of what
it sets from the statics, of which it changes no others. -/
theorem addrCall_cases (d : AddrDriver) (c : AddrCall) :
    (∃ err, addrCall cfg cortexM4 d c = (d, some err)) ∨
      ∃ esbAddr, addrCall cfg cortexM4 d c =
          ({ d with
              esbAddr
              regs := updateRadioAddresses cortexM4 c.sets.1 c.sets.2.1 c.sets.2.2 esbAddr
                d.regs }, none) ∧
        (c.sets.1 = false → esbAddr.baseAddrP0 = d.esbAddr.baseAddrP0) ∧
        (c.sets.2.1 = false → esbAddr.baseAddrP1 = d.esbAddr.baseAddrP1) ∧
        (c.sets.2.2 = false → esbAddr.pipePrefixes = d.esbAddr.pipePrefixes) := by
  cases c with
  | setBase0 addr =>
    simp only [addrCall, esbSetBaseAddress0]
    split
    · exact .inl ⟨_, rfl⟩
    · exact .inr ⟨_, rfl, by simp [AddrCall.sets], fun _ => rfl, fun _ => rfl⟩
  | setBase1 addr =>
    simp only [addrCall, esbSetBaseAddress1]
    split
    · exact .inl ⟨_, rfl⟩
    · exact .inr ⟨_, rfl, fun _ => rfl, by simp [AddrCall.sets], fun _ => rfl⟩
  | setPrefixes prefixes numPipes =>
    simp only [addrCall, esbSetPrefixes]
    split_ifs
    · exact .inl ⟨_, rfl⟩
    · exact .inl ⟨_, rfl⟩
    · exact .inr ⟨_, rfl, fun _ => rfl, fun _ => rfl, by simp [AddrCall.sets]⟩
  | updatePrefix pipe pfx =>
    simp only [addrCall, esbUpdatePrefix]
    split_ifs
    · exact .inl ⟨_, rfl⟩
    · exact .inl ⟨_, rfl⟩
    · exact .inr ⟨_, rfl, fun _ => rfl, fun _ => rfl, by simp [AddrCall.sets]⟩
  | enablePipes enableMask =>
    simp only [addrCall, esbEnablePipes]
    split_ifs
    · exact .inl ⟨_, rfl⟩
    · exact .inl ⟨_, rfl⟩
    · exact .inr ⟨_, rfl, fun _ => rfl, fun _ => rfl, fun _ => rfl⟩

theorem hold_init (t : AddrTrace) :
    (addrTraceStep cfg cortexM4 t .init).d.regs.Hold cortexM4
      ((addrTraceStep cfg cortexM4 t .init).inForce cfg) := by
  have hinit := @hold_esbInit cfg cortexM4 t.d
  exact ⟨hinit.base0, hinit.base1, hinit.prefixes⟩

/-- **One operation** keeps the registers at the addresses in force. -/
theorem hold_step {t : AddrTrace} (h : t.d.regs.Hold cortexM4 (t.inForce cfg)) (op : AddrOp) :
    (addrTraceStep cfg cortexM4 t op).d.regs.Hold cortexM4
      ((addrTraceStep cfg cortexM4 t op).inForce cfg) := by
  cases op with
  | init => exact hold_init t
  | radio idle => exact h
  | call c =>
    rcases @addrCall_cases cfg cortexM4 t.d c with ⟨err, hout⟩ | ⟨esbAddr, hout, h0, h1, hp⟩
    · simp only [addrTraceStep, hout]
      exact h
    · simp only [addrTraceStep, hout]
      constructor
      · cases hset : c.sets.1 with
        | true => rfl
        | false =>
          rw [AddrTrace.inForce, h0 hset]
          exact h.base0
      · cases hset : c.sets.2.1 with
        | true => rfl
        | false =>
          rw [AddrTrace.inForce, h1 hset]
          exact h.base1
      · cases hset : c.sets.2.2 with
        | true => rfl
        | false =>
          rw [AddrTrace.inForce, hp hset]
          exact h.prefixes

/-- **Registers hold one address.** -/
theorem AddrRegisters.Hold.unique {regs : AddrRegisters} {a a' : EsbAddress}
    (h : regs.Hold cortexM4 a) (h' : regs.Hold cortexM4 a') :
    a.baseAddrP0 = a'.baseAddrP0 ∧ a.baseAddrP1 = a'.baseAddrP1 ∧
      a.pipePrefixes = a'.pipePrefixes := by
  refine ⟨addrConv_injective cortexM4 (h.base0.symm.trans h'.base0),
    addrConv_injective cortexM4 (h.base1.symm.trans h'.base1), funext fun i => ?_⟩
  obtain ⟨hlow, hhigh⟩ := Prod.ext_iff.1 (h.prefixes.symm.trans h'.prefixes)
  have hlow := congrFun (bytewiseBitSwap_injective cortexM4 hlow)
  have hhigh := congrFun (bytewiseBitSwap_injective cortexM4 hhigh)
  rcases Nat.lt_or_ge i 4 with hi | hi
  · exact hlow ⟨i, hi⟩
  · have hplace : (⟨i - 4, by omega⟩ : Fin 4).addNat 4 = i := Fin.ext (Nat.sub_add_cancel hi)
    have hat := hhigh ⟨i - 4, by omega⟩
    rwa [hplace] at hat

/-- **Statics and radio agree** after some run with an `esb_init`, exactly
when each of the base addresses and the prefixes has been set since the
last one or is the default: a restart alone puts the radio back to the
default addresses, whatever the statics say. -/
theorem registers_hold_iff (cfg : Config) (cortexM4 : Bool) (before ops : List AddrOp) :
    let t := runFrom (addrTraceStep cfg cortexM4) { d := .boot cfg } (before ++ .init :: ops)
    t.d.regs.Hold cortexM4 t.d.esbAddr ↔
      (t.base0 = true ∨ t.d.esbAddr.baseAddrP0 = (EsbAddress.initial cfg).baseAddrP0) ∧
      (t.base1 = true ∨ t.d.esbAddr.baseAddrP1 = (EsbAddress.initial cfg).baseAddrP1) ∧
      (t.prefixes = true ∨ t.d.esbAddr.pipePrefixes = (EsbAddress.initial cfg).pipePrefixes) := by
  intro t
  have hforce : t.d.regs.Hold cortexM4 (t.inForce cfg) := by
    have hinit := @hold_init cfg cortexM4
      (runFrom (addrTraceStep cfg cortexM4) { d := .boot cfg } before)
    have hrun : Throughout (addrTraceStep cfg cortexM4)
        (fun t => t.d.regs.Hold cortexM4 (t.inForce cfg)) _ ops :=
      Throughout.of_step (fun _ op h => hold_step h op) hinit
    have hlast := hrun.last
    rwa [← runFrom_cons, ← runFrom_append] at hlast
  constructor
  · intro h
    obtain ⟨h0, h1, hp⟩ := h.unique hforce
    refine ⟨?_, ?_, ?_⟩
    · cases hset : t.base0 with
      | true => exact .inl rfl
      | false => exact .inr (by simpa [AddrTrace.inForce, hset] using h0)
    · cases hset : t.base1 with
      | true => exact .inl rfl
      | false => exact .inr (by simpa [AddrTrace.inForce, hset] using h1)
    · cases hset : t.prefixes with
      | true => exact .inl rfl
      | false => exact .inr (by simpa [AddrTrace.inForce, hset] using hp)
  · rintro ⟨h0, h1, hp⟩
    refine ⟨hforce.base0.trans (congrArg _ ?_), hforce.base1.trans (congrArg _ ?_),
      hforce.prefixes.trans (congrArg _ ?_)⟩
    · rcases h0 with hset | heq
      · exact if_pos hset
      · exact (congrArg (ite _ _) heq.symm).trans (ite_self _)
    · rcases h1 with hset | heq
      · exact if_pos hset
      · exact (congrArg (ite _ _) heq.symm).trans (ite_self _)
    · rcases hp with hset | heq
      · exact if_pos hset
      · exact (congrArg (ite _ _) heq.symm).trans (ite_self _)

/-! ## Two radios -/

/-- The base address and the prefix a pipe is on, as the radio has them. -/
def AddrRegisters.pipe (regs : AddrRegisters) (p : Fin 8) : BitVec 32 × BitVec 8 :=
  (if p = 0 then regs.base0 else regs.base1,
    (if p < 4 then regs.prefix0 else regs.prefix1).extractLsb' (8 * (p % 4)) 8)

/-- The addresses of `esb_init_and_configure`, and of `esb_dongle_init`: a
start, and what the devicetree says of two pipes. -/
def configureAddresses (cfg : Config) (cortexM4 : Bool) (d : AddrDriver)
    (base0 base1 : Fin 4 → UInt8) (prefixes : Fin 8 → UInt8) : AddrDriver :=
  let d := d.esbInit
  let d := (esbSetBaseAddress0 cortexM4 d base0).1
  let d := (esbSetBaseAddress1 cortexM4 d base1).1
  (esbSetPrefixes cfg cortexM4 d prefixes 2).1

/-- A byte of a register is the byte it was made of, turned round. -/
theorem extractLsb'_bytewiseBitSwap (input : Fin 4 → UInt8) (i : Fin 4) :
    (bytewiseBitSwap cortexM4 input).extractLsb' (8 * i) 8 = (input i).toBitVec.reverse := by
  refine BitVec.eq_of_getLsbD_eq fun j hj => ?_
  have hplace : mirrored (8 * i + j) = 8 * i + (7 - j) := by
    rw [mirrored]
    omega
  have hbit := (takes_bytewiseBitSwap cortexM4 input (8 * i + j) (by omega)).2
  have hbyte := congrArg (fun w => w.getLsbD (7 - j)) (extractLsb'_loadWord input i)
  simp only [BitVec.getLsbD_extractLsb', decide_eq_true (show 7 - j < 8 by omega),
    Bool.true_and] at hbyte
  rw [BitVec.getLsbD_extractLsb', decide_eq_true hj, Bool.true_and, hbit, hplace, hbyte,
    BitVec.getLsbD_reverse, BitVec.getMsbD_eq_getLsbD, decide_eq_true hj, Bool.true_and]

/-- What the radio has of a pipe that was configured. -/
theorem pipe_configureAddresses (hpipes : 2 ≤ cfg.esbPipeCount) (d : AddrDriver)
    (base0 base1 : Fin 4 → UInt8) (prefixes : Fin 8 → UInt8) {p : Fin 8} (hp : p < 2) :
    (configureAddresses cfg cortexM4 d base0 base1 prefixes).regs.pipe p =
      (addrConv cortexM4 (if p = 0 then base0 else base1), (prefixes p).toBitVec.reverse) := by
  have hcount : ¬cfg.esbPipeCount < 2 := by omega
  have hregs : (configureAddresses cfg cortexM4 d base0 base1 prefixes).regs =
      updateRadioAddresses cortexM4 true true true
        { d.esbAddr with
          baseAddrP0 := base0
          baseAddrP1 := base1
          pipePrefixes := fun i => if i < 2 then prefixes i else d.esbAddr.pipePrefixes i }
        d.esbInit.regs := by
    simp only [configureAddresses, esbSetBaseAddress0, esbSetBaseAddress1, esbSetPrefixes,
      AddrDriver.esbInit, Bool.not_true, Bool.false_eq_true, if_false, if_neg hcount]
    rfl
  obtain ⟨i, hi⟩ : ∃ i : Fin 4, i.castAdd 4 = p := ⟨⟨p, by omega⟩, rfl⟩
  have hplace : 8 * (p % 4 : Nat) = 8 * i := by
    rw [← hi, Fin.val_castAdd, Nat.mod_eq_of_lt i.isLt]
  have hprefix : (if i.castAdd 4 < 2 then prefixes (i.castAdd 4)
      else d.esbAddr.pipePrefixes (i.castAdd 4)) = prefixes p := by
    rw [hi, if_pos hp]
  rw [hregs, AddrRegisters.pipe, if_pos (by omega : p < 4)]
  refine Prod.ext ?_ ?_
  · dsimp only [updateRadioAddresses]
    split <;> rfl
  · exact (congrArg (fun k => BitVec.extractLsb' k 8 _) hplace).trans
      ((extractLsb'_bytewiseBitSwap _ i).trans (congrArg (fun b => b.toBitVec.reverse) hprefix))

/-- The processor makes no difference to an address. -/
theorem addrConv_eq (cortexM4 cortexM4' : Bool) : addrConv cortexM4 = addrConv cortexM4' := by
  funext addr
  have hgeneric : ∀ m4, bytewiseBitSwap m4 addr = bytewiseBitSwapGeneric addr := by
    intro m4
    cases m4 with
    | true => exact bytewiseBitSwap_eq addr
    | false => rfl
  rw [addrConv, addrConv, hgeneric, hgeneric]

/-- **Keyboard and dongle meet** on a pipe, whatever processors they have
and whatever state their drivers were in, exactly when the devicetree of
the one and the tables of the other give it one address. -/
theorem meet_iff (cfg cfg' : Config) (cortexM4 cortexM4' : Bool) (hpipes : 2 ≤ cfg.esbPipeCount)
    (hpipes' : 2 ≤ cfg'.esbPipeCount) (d d' : AddrDriver)
    (base0 base1 base0' base1' : Fin 4 → UInt8) (prefixes prefixes' : Fin 8 → UInt8) {p : Fin 8}
    (hp : p < 2) :
    (configureAddresses cfg cortexM4 d base0 base1 prefixes).regs.pipe p =
        (configureAddresses cfg' cortexM4' d' base0' base1' prefixes').regs.pipe p ↔
      (if p = 0 then base0 else base1) = (if p = 0 then base0' else base1') ∧
        prefixes p = prefixes' p := by
  have hreverse : Function.Injective (BitVec.reverse : BitVec 8 → BitVec 8) := fun x y h => by
    rw [← BitVec.reverse_reverse_eq (x := x), h, BitVec.reverse_reverse_eq]
  rw [pipe_configureAddresses hpipes d base0 base1 prefixes hp,
    pipe_configureAddresses hpipes' d' base0' base1' prefixes' hp, Prod.mk.injEq,
    addrConv_eq cortexM4' cortexM4, (addrConv_injective cortexM4).eq_iff, hreverse.eq_iff,
    UInt8.toBitVec_inj]

/-- `pairing_base_addr`, `data_base_addr` and `addr_prefixes` of
`dongle/src/main.c`, which the overlay of the example keyboard repeats. -/
def pairingBaseAddr : Fin 4 → UInt8 := fun i => [0x17, 0xF4, 0x07, 0xAA].getD i 0

def dataBaseAddr : Fin 4 → UInt8 := fun i => [0xB9, 0x8A, 0x16, 0x22].getD i 0

def addrPrefixes : Fin 8 → UInt8 := fun i =>
  [0x24, 0xC2, 0xC3, 0xC4, 0xC5, 0xC6, 0xC7, 0xC8].getD i 0

/-- A keyboard with a data address of its own, and the dongle on another
processor. -/
theorem meet_iff_dataPipe :
    (configureAddresses .default true (.boot .default) pairingBaseAddr (fun _ => 0xC2)
        addrPrefixes).regs.pipe 1 =
        (configureAddresses .default false (.boot .default) pairingBaseAddr dataBaseAddr
          addrPrefixes).regs.pipe 1 ↔
      (if (1 : Fin 8) = 0 then pairingBaseAddr else fun _ => 0xC2) =
          (if (1 : Fin 8) = 0 then pairingBaseAddr else dataBaseAddr) ∧
        addrPrefixes 1 = addrPrefixes 1 :=
  meet_iff .default .default true false (by decide) (by decide) _ _ _ _ _ _ _ _ (by decide)

end EsbEndpoint
