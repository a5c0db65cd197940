import Mathlib.Data.Nat.Bitwise
import Mathlib.Tactic.IntervalCases

/-! # Data model of the Tegra pin controller driver

The objects `pinctrl-tegra234.c` works on: the register banks behind `pmx->regs`, the
configuration parameters of `enum tegra_pinconf_param` and their packing into one
`unsigned long`, the pin-group descriptor `struct tegra_pingroup` and the SoC description
`struct tegra_pinctrl_soc_data`.

Descriptor fields are kept as the integers the C initialisers write (`-1` marks a register
or bit a group does not have). Registers are 32-bit words; a register is named by its bank
and its byte offset, as `pmx_readl` and `pmx_writel` address it. -/

namespace TegraPinctrl

/-! ## Error numbers -/

/-- `EINVAL`. -/
def EINVAL : Int := 22

/-- `ENOTSUPP`, the kernel-internal "operation not supported". -/
def ENOTSUPP : Int := 524

/-- `ENOMEM`. -/
def ENOMEM : Int := 12

/-- `ENOSPC`. -/
def ENOSPC : Int := 28

theorem errno_pos : 0 < EINVAL ∧ 0 < ENOTSUPP ∧ 0 < ENOMEM ∧ 0 < ENOSPC := by decide

/-! ## Registers -/

/-- The register banks: the word at byte offset `reg` of bank `bank`. -/
def RegFile := Int → Int → BitVec 32

/-- `pmx_readl`. -/
def pmxReadl (regs : RegFile) (bank reg : Int) : BitVec 32 := regs bank reg

/-- `pmx_writel`: store `val`; the read-back that flushes the posted write changes nothing. -/
def pmxWritel (regs : RegFile) (val : BitVec 32) (bank reg : Int) : RegFile :=
  fun b r => if b = bank ∧ r = reg then val else regs b r

@[simp] theorem pmxReadl_pmxWritel_self (regs : RegFile) (val : BitVec 32) (bank reg : Int) :
    pmxReadl (pmxWritel regs val bank reg) bank reg = val := by
  simp [pmxReadl, pmxWritel]

theorem pmxWritel_apply_of_ne {regs : RegFile} {val : BitVec 32} {bank reg b r : Int}
    (h : ¬(b = bank ∧ r = reg)) : pmxWritel regs val bank reg b r = regs b r := by
  simp [pmxWritel, h]

@[simp] theorem pmxWritel_apply_self (regs : RegFile) (val : BitVec 32) (bank reg : Int) :
    pmxWritel regs val bank reg bank reg = val := by
  simp [pmxWritel]

/-- The state of `struct tegra_pmx` that outlives a call: the registers, the `backup_regs` area
suspend fills, the `gpio_conf` area that saves a pin's mux register while it is a GPIO (both
indexed by 32-bit word), the size of the memory resource of each bank, and the names the
probe wrote into `group_pins`. -/
structure TegraPmx where
  regs : RegFile
  backupRegs : Nat → BitVec 32
  gpioConf : Nat → BitVec 32
  resources : List Nat
  groupPins : List String

/-! ## Configuration parameters -/

/-- Modelled from the spec: `enum tegra_pinconf_param` is declared in `pinctrl-tegra234.h`,
which is not among the sources. Its constants are numbered in the order the spec lists the
parameter kinds, which is also the order of the cases of `tegra_pinconf_reg`. -/
inductive TegraPinconfParam
  | pull | tristate | enableInput | openDrain | lock | ioreset | rcvSel | loopback
  | highSpeedMode | schmitt | lowPowerMode | driveDownStrength | driveUpStrength
  | slewRateFalling | slewRateRising | driveType | function | padPower
  deriving DecidableEq, Repr

namespace TegraPinconfParam

/-- Every parameter, in enumeration order. -/
def all : List TegraPinconfParam :=
  [pull, tristate, enableInput, openDrain, lock, ioreset, rcvSel, loopback, highSpeedMode,
    schmitt, lowPowerMode, driveDownStrength, driveUpStrength, slewRateFalling, slewRateRising,
    driveType, function, padPower]

/-- The value of the enumeration constant. -/
def val (p : TegraPinconfParam) : Nat := p.toCtorIdx

/-- The constant with value `n`, if there is one; any other value reaches the `default` case
of `tegra_pinconf_reg`. -/
def ofNat? (n : Nat) : Option TegraPinconfParam := all[n]?

@[simp] theorem ofNat?_val (p : TegraPinconfParam) : ofNat? p.val = some p := by
  cases p <;> rfl

theorem val_injective : Function.Injective val := by
  intro p q h
  simpa using congrArg ofNat? h

@[simp] theorem val_inj {p q : TegraPinconfParam} : p.val = q.val ↔ p = q :=
  val_injective.eq_iff

theorem eq_of_ofNat?_eq_some {n : Nat} {p : TegraPinconfParam} (h : ofNat? n = some p) :
    p.val = n := by
  simp only [ofNat?, all, List.getElem?_eq_some_iff] at h
  obtain ⟨hn, rfl⟩ := h
  simp only [List.length_cons, List.length_nil] at hn
  interval_cases n <;> rfl

end TegraPinconfParam

/-- `cfg_params`: the device-tree property of each parameter, in table order. Both
`nvidia,rcv-sel` and `nvidia,io-hv` set `TEGRA_PINCONF_PARAM_RCV_SEL`. -/
def cfgParams : List (String × TegraPinconfParam) :=
  [("nvidia,pull", .pull), ("nvidia,tristate", .tristate),
    ("nvidia,enable-input", .enableInput), ("nvidia,open-drain", .openDrain),
    ("nvidia,lock", .lock), ("nvidia,io-reset", .ioreset), ("nvidia,rcv-sel", .rcvSel),
    ("nvidia,io-hv", .rcvSel), ("nvidia,loopback", .loopback),
    ("nvidia,high-speed-mode", .highSpeedMode), ("nvidia,schmitt", .schmitt),
    ("nvidia,low-power-mode", .lowPowerMode),
    ("nvidia,pull-down-strength", .driveDownStrength),
    ("nvidia,pull-up-strength", .driveUpStrength),
    ("nvidia,slew-rate-falling", .slewRateFalling),
    ("nvidia,slew-rate-rising", .slewRateRising), ("nvidia,drive-type", .driveType),
    ("nvidia,func", .function), ("nvidia,pad-power", .padPower)]

/-! ## Packed configurations -/

/-- Modelled from the spec: `TEGRA_PINCONF_PACK` of the missing `pinctrl-tegra234.h`. The
spec packs a (parameter, argument) pair into one configuration; the driver reads the
argument back into a `u16`, so the argument occupies the low 16 bits and the parameter the
bits above them. -/
def tegraPinconfPack (param arg : Nat) : Nat := param <<< 16 ||| arg

/-- Modelled from the spec: `TEGRA_PINCONF_UNPACK_PARAM`, the bits above the argument. -/
def tegraPinconfUnpackParam (config : Nat) : Nat := config >>> 16

/-- Modelled from the spec: `TEGRA_PINCONF_UNPACK_ARG`, the low 16 bits. -/
def tegraPinconfUnpackArg (config : Nat) : Nat := config &&& 0xffff

theorem testBit_of_lt_two_pow {a n i : Nat} (h : a < 2 ^ n) (hi : n ≤ i) :
    a.testBit i = false :=
  Nat.testBit_eq_false_of_lt (lt_of_lt_of_le h (Nat.pow_le_pow_right (by decide) hi))

@[simp] theorem tegraPinconfUnpackParam_pack {param arg : Nat} (h : arg < 2 ^ 16) :
    tegraPinconfUnpackParam (tegraPinconfPack param arg) = param := by
  apply Nat.eq_of_testBit_eq
  intro i
  simp [tegraPinconfUnpackParam, tegraPinconfPack, Nat.testBit_or,
    testBit_of_lt_two_pow h (Nat.le_add_right 16 i)]

@[simp] theorem tegraPinconfUnpackArg_pack {param arg : Nat} (h : arg < 2 ^ 16) :
    tegraPinconfUnpackArg (tegraPinconfPack param arg) = arg := by
  apply Nat.eq_of_testBit_eq
  intro i
  have hmask : (0xffff : Nat) = 2 ^ 16 - 1 := rfl
  rw [tegraPinconfUnpackArg, tegraPinconfPack, hmask, Nat.testBit_and, Nat.testBit_or,
    Nat.testBit_two_pow_sub_one, Nat.testBit_shiftLeft]
  by_cases hi : i < 16
  · simp [hi, Nat.not_le.mpr hi]
  · simp [hi, testBit_of_lt_two_pow h (Nat.le_of_not_lt hi)]

theorem tegraPinconfUnpackArg_lt (config : Nat) : tegraPinconfUnpackArg config < 2 ^ 16 :=
  lt_of_le_of_lt Nat.and_le_right (by decide)

/-- Every configuration is the packing of its parameter and argument. -/
theorem tegraPinconfPack_unpack (config : Nat) :
    tegraPinconfPack (tegraPinconfUnpackParam config) (tegraPinconfUnpackArg config) = config := by
  apply Nat.eq_of_testBit_eq
  intro i
  have hmask : (0xffff : Nat) = 2 ^ 16 - 1 := rfl
  rw [tegraPinconfPack, tegraPinconfUnpackParam, tegraPinconfUnpackArg, hmask, Nat.testBit_or,
    Nat.testBit_shiftLeft, Nat.testBit_shiftRight, Nat.testBit_and, Nat.testBit_two_pow_sub_one]
  by_cases hi : 16 ≤ i
  · simp [hi, Nat.not_lt.mpr hi, Nat.add_sub_cancel' hi]
  · simp [hi, Nat.lt_of_not_le hi]

/-! ## Descriptors -/

/-- `struct tegra_pingroup`, with the fields the driver reads. A group has exactly four
function slots: the mux field is two bits wide. -/
structure TegraPingroup where
  name : String
  pins : List Nat
  funcs : List Nat
  funcs_length : funcs.length = 4
  muxReg : Int
  muxBank : Int
  muxBit : Int
  pupdReg : Int
  pupdBank : Int
  pupdBit : Int
  triReg : Int
  triBank : Int
  triBit : Int
  einputBit : Int
  odrainBit : Int
  lockBit : Int
  ioresetBit : Int
  rcvSelBit : Int
  lpbkReg : Int
  lpbkBank : Int
  lpbkBit : Int
  hsmBit : Int
  schmittBit : Int
  lpmdBit : Int
  drvReg : Int
  drvBank : Int
  drvdnBit : Int
  drvdnWidth : Int
  drvupBit : Int
  drvupWidth : Int
  slwrBit : Int
  slwrWidth : Int
  slwfBit : Int
  slwfWidth : Int
  drvtypeBit : Int
  sfselBit : Int
  padReg : Int
  padBank : Int
  padBit : Int
  parkedBitmask : BitVec 32

/-- `struct tegra_pinctrl_soc_data`: the function names, the groups and the placement flags
of the parameters whose register differs between SoC generations. -/
structure TegraPinctrlSocData where
  ngpios : Nat
  functions : List String
  groups : List TegraPingroup
  hsmInMux : Bool
  schmittInMux : Bool
  drvtypeInMux : Bool
  sfselInMux : Bool

end TegraPinctrl
