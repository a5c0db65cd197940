import TegraPinctrl.Tegra234

/-! # Handing a pin to the GPIO controller

`tegra_pinctrl_gpio_request_enable` saves the mux register of the pin's group into
`gpio_conf[pin]` and clears the group's SFIO-select bit, which gives the pin to the GPIO
controller; `tegra_pinctrl_gpio_disable_free` writes the saved value back. The save, the
restore and the request each look up the pin's group with their own copy of one loop: the first
group whose only pin is the pin (`gpioGroupScan`).

On tegra234 every group has one pin and no two groups share it (`tegra234_pins_distinct`), so
the scan finds exactly the group of the pin (`tegra234_getElem?_gpioGroupScan`). -/

namespace TegraPinctrl

/-- The pin-to-group loop of `tegra_pinctrl_gpio_save_config`, `tegra_pinctrl_gpio_restore_config`
and `tegra_pinctrl_gpio_request_enable`: the index of the first group whose only pin is
`offset`, or `ngroups` when there is none. -/
def gpioGroupScan (groups : List TegraPingroup) (offset : Nat) : Nat :=
  groups.findIdx fun g => g.pins.length = 1 ∧ g.pins.head? = some offset

/-- `tegra_pinctrl_gpio_save_config`. -/
def tegraPinctrlGpioSaveConfig (soc : TegraPinctrlSocData) (pmx : TegraPmx) (offset : Nat) :
    Int × TegraPmx :=
  match soc.groups[gpioGroupScan soc.groups offset]? with
  | none => (-EINVAL, pmx)
  | some g =>
    if 0 ≤ g.muxReg then
      (0, { pmx with gpioConf :=
        Function.update pmx.gpioConf offset (pmxReadl pmx.regs g.muxBank g.muxReg) })
    else (0, pmx)

/-- `tegra_pinctrl_gpio_restore_config`. -/
def tegraPinctrlGpioRestoreConfig (soc : TegraPinctrlSocData) (pmx : TegraPmx) (offset : Nat) :
    Int × TegraPmx :=
  match soc.groups[gpioGroupScan soc.groups offset]? with
  | none => (-EINVAL, pmx)
  | some g =>
    if 0 ≤ g.muxReg then
      (0, { pmx with regs := pmxWritel pmx.regs (pmx.gpioConf offset) g.muxBank g.muxReg })
    else (0, pmx)

/-- `value & ~BIT(n)` on a `u32` value. `BIT(n)` is the kernel's `1UL << n`, 64 bits wide, so
a bit past 31 clears nothing; `none` for amounts the shift leaves undefined. -/
def clearBit (value : BitVec 32) (n : Int) : Option (BitVec 32) :=
  if 0 ≤ n ∧ n < 64 then some (value &&& ~~~(1#32 <<< n.toNat)) else none

/-- `tegra_pinctrl_gpio_request_enable`. `none` where it reads the group past the end of the
table, which the save before it rules out. -/
def tegraPinctrlGpioRequestEnable (soc : TegraPinctrlSocData) (pmx : TegraPmx) (offset : Nat) :
    Option (Int × TegraPmx) :=
  let (ret, pmx) := tegraPinctrlGpioSaveConfig soc pmx offset
  if ret ≠ 0 then some (ret, pmx) else
  if !soc.sfselInMux then some (0, pmx) else
  match soc.groups[gpioGroupScan soc.groups offset]? with
  | none => none
  | some g =>
    if g.muxReg < 0 ∨ g.sfselBit < 0 then some (-EINVAL, pmx) else do
    let value ← clearBit (pmxReadl pmx.regs g.muxBank g.muxReg) g.sfselBit
    return (0, { pmx with regs := pmxWritel pmx.regs value g.muxBank g.muxReg })

/-- `tegra_pinctrl_gpio_disable_free`: the restore, whose result it drops. -/
def tegraPinctrlGpioDisableFree (soc : TegraPinctrlSocData) (pmx : TegraPmx) (offset : Nat) :
    TegraPmx :=
  (tegraPinctrlGpioRestoreConfig soc pmx offset).2

/-! ## The group of a pin -/

/-- The scan finds the first group whose only pin is `offset`. -/
theorem getElem?_gpioGroupScan (groups : List TegraPingroup) (offset : Nat) :
    groups[gpioGroupScan groups offset]? =
      groups.find? fun g => g.pins.length = 1 ∧ g.pins.head? = some offset := by
  induction groups with
  | nil => rfl
  | cons g gs ih =>
    simp only [gpioGroupScan] at ih ⊢
    rw [List.findIdx_cons, List.find?_cons]
    by_cases h : g.pins.length = 1 ∧ g.pins.head? = some offset
    · simp only [decide_eq_true h, cond_true, List.getElem?_cons_zero]
    · simp only [decide_eq_false h, cond_false, List.getElem?_cons_succ, ih]

/-- Whether the numbers of a list are distinct and none is in the bit set `seen`: one pass
with a bit set, so that the kernel checks a whole table in linear time. -/
def distinctPins (seen : Nat) : List Nat → Bool
  | [] => true
  | p :: ps => !seen.testBit p && distinctPins (seen ||| 1 <<< p) ps

theorem nodup_of_distinctPins {seen : Nat} {l : List Nat} (h : distinctPins seen l = true) :
    l.Nodup ∧ ∀ p ∈ l, seen.testBit p = false := by
  induction l generalizing seen with
  | nil => exact ⟨List.nodup_nil, fun _ h => absurd h (List.not_mem_nil _)⟩
  | cons p ps ih =>
    simp only [distinctPins, Bool.and_eq_true, Bool.not_eq_true'] at h
    obtain ⟨hnd, hseen⟩ := ih h.2
    have hnot (q : Nat) (hq : q ∈ ps) : seen.testBit q = false ∧ q ≠ p := by
      have := hseen q hq
      simp only [Nat.testBit_or, Bool.or_eq_false_iff, Nat.testBit_shiftLeft] at this
      exact ⟨this.1, fun hqp => by simp [hqp, Nat.testBit_one_zero] at this⟩
    refine ⟨List.nodup_cons.mpr ⟨fun hp => (hnot p hp).2 rfl, hnd⟩, ?_⟩
    rintro q (_ | ⟨_, hq⟩)
    exacts [h.1, (hnot q hq).1]

/-- No two tegra234 groups have the same pin. -/
theorem tegra234_pins_distinct : (tegra234Groups.map fun g => g.pins.headD 0).Nodup :=
  (@nodup_of_distinctPins 0 _ (by decide)).1

/-- On tegra234 the scan of a pin finds the group whose only pin it is. -/
theorem tegra234_getElem?_gpioGroupScan {p : Nat} {g : TegraPingroup} (hg : g ∈ tegra234Groups)
    (hpin : g.pins = [p]) : tegra234Groups[gpioGroupScan tegra234Groups p]? = some g := by
  rw [getElem?_gpioGroupScan]
  cases hfind : tegra234Groups.find? fun g => g.pins.length = 1 ∧ g.pins.head? = some p with
  | none => exact absurd (List.find?_eq_none.mp hfind g hg) (by simp [hpin])
  | some g' =>
    have hfound := List.find?_some hfind
    have hsel := of_decide_eq_true hfound
    refine congrArg some (List.inj_on_of_nodup_map tegra234_pins_distinct
      (List.mem_of_find?_eq_some hfind) hg ?_)
    simp [hsel.2, hpin]

/-! ## Save, request, restore -/

section Ops

variable {soc : TegraPinctrlSocData} {pmx : TegraPmx} {offset : Nat} {g : TegraPingroup}

theorem tegraPinctrlGpioSaveConfig_of_getElem?
    (hg : soc.groups[gpioGroupScan soc.groups offset]? = some g) (hmux : 0 ≤ g.muxReg) :
    tegraPinctrlGpioSaveConfig soc pmx offset =
      (0, { pmx with gpioConf := Function.update pmx.gpioConf offset (pmx.regs g.muxBank g.muxReg) }) := by
  simp [tegraPinctrlGpioSaveConfig, hg, hmux, pmxReadl]

/-- The save writes no register, no bank size and no saved value but the pin's own. -/
theorem tegraPinctrlGpioSaveConfig_frame (soc : TegraPinctrlSocData) (pmx : TegraPmx)
    (offset : Nat) :
    (tegraPinctrlGpioSaveConfig soc pmx offset).2.regs = pmx.regs ∧
    (tegraPinctrlGpioSaveConfig soc pmx offset).2.resources = pmx.resources ∧
    ∀ p ≠ offset, (tegraPinctrlGpioSaveConfig soc pmx offset).2.gpioConf p = pmx.gpioConf p := by
  unfold tegraPinctrlGpioSaveConfig
  split
  · exact ⟨rfl, rfl, fun _ _ => rfl⟩
  · split_ifs
    · exact ⟨rfl, rfl, fun p hp => Function.update_noteq hp _ _⟩
    · exact ⟨rfl, rfl, fun _ _ => rfl⟩

@[simp] theorem tegraPinctrlGpioSaveConfig_backupRegs (soc : TegraPinctrlSocData)
    (pmx : TegraPmx) (offset : Nat) :
    (tegraPinctrlGpioSaveConfig soc pmx offset).2.backupRegs = pmx.backupRegs := by
  unfold tegraPinctrlGpioSaveConfig
  split
  · rfl
  · split_ifs <;> rfl

/-- A request writes the save's state and then at most the mux register of the group the scan
finds. -/
theorem tegraPinctrlGpioRequestEnable_eq_some {ret : Int} {pmx' : TegraPmx}
    (h : tegraPinctrlGpioRequestEnable soc pmx offset = some (ret, pmx')) :
    ∃ regs, pmx' = { (tegraPinctrlGpioSaveConfig soc pmx offset).2 with regs } ∧
      ∀ b r, (∀ g, soc.groups[gpioGroupScan soc.groups offset]? = some g →
        ¬(b = g.muxBank ∧ r = g.muxReg)) → regs b r = pmx.regs b r := by
  have hsave := (tegraPinctrlGpioSaveConfig_frame soc pmx offset).1
  unfold tegraPinctrlGpioRequestEnable at h
  generalize tegraPinctrlGpioSaveConfig soc pmx offset = s at h hsave ⊢
  obtain ⟨ret', q⟩ := s
  dsimp only at h hsave ⊢
  -- the returns that write no register
  have hkeep (v : Int) (h : some (v, q) = some (ret, pmx')) :
      ∃ regs, pmx' = { q with regs } ∧ ∀ b r, (∀ g, soc.groups[gpioGroupScan soc.groups offset]? =
        some g → ¬(b = g.muxBank ∧ r = g.muxReg)) → regs b r = pmx.regs b r :=
    ⟨q.regs, (Prod.mk.inj (Option.some.inj h)).2.symm, fun _ _ _ => by rw [hsave]⟩
  split_ifs at h
  · exact hkeep _ h
  · exact hkeep _ h
  · split at h
    · cases h
    · rename_i g hg
      split_ifs at h
      · exact hkeep _ h
      · obtain ⟨_, -, h⟩ := Option.bind_eq_some.mp h
        refine ⟨_, (Prod.mk.inj (Option.some.inj h)).2.symm, fun b r hbr => ?_⟩
        rw [← hsave]
        exact pmxWritel_apply_of_ne (hbr g hg)

/-- What a request does to the registers: nothing, or it clears the SFIO-select bit of the mux
register of the group the scan finds. -/
theorem tegraPinctrlGpioRequestEnable_regs {ret : Int} {pmx' : TegraPmx}
    (h : tegraPinctrlGpioRequestEnable soc pmx offset = some (ret, pmx')) :
    pmx'.regs = pmx.regs ∨ ∃ g, soc.groups[gpioGroupScan soc.groups offset]? = some g ∧
      0 ≤ g.sfselBit ∧ g.sfselBit < 64 ∧ pmx'.regs = pmxWritel pmx.regs
        (pmx.regs g.muxBank g.muxReg &&& ~~~(1#32 <<< g.sfselBit.toNat)) g.muxBank g.muxReg := by
  have hsave := (tegraPinctrlGpioSaveConfig_frame soc pmx offset).1
  unfold tegraPinctrlGpioRequestEnable at h
  generalize tegraPinctrlGpioSaveConfig soc pmx offset = s at h hsave
  obtain ⟨ret', q⟩ := s
  dsimp only at h hsave
  -- the returns that write no register
  have hkeep (v : Int) (h : some (v, q) = some (ret, pmx')) : pmx'.regs = pmx.regs := by
    rw [← (Prod.mk.inj (Option.some.inj h)).2, hsave]
  split_ifs at h
  · exact .inl (hkeep _ h)
  · exact .inl (hkeep _ h)
  · split at h
    · cases h
    · rename_i g hg
      split_ifs at h
      · exact .inl (hkeep _ h)
      · obtain ⟨v, hv, h⟩ := Option.bind_eq_some.mp h
        simp only [clearBit] at hv
        split_ifs at hv with hrange
        cases hv
        refine .inr ⟨g, hg, hrange.1, hrange.2, ?_⟩
        rw [← (Prod.mk.inj (Option.some.inj h)).2, ← hsave]
        rfl

/-- A request writes no saved value but the pin's own. -/
theorem tegraPinctrlGpioRequestEnable_gpioConf {ret : Int} {pmx' : TegraPmx}
    (h : tegraPinctrlGpioRequestEnable soc pmx offset = some (ret, pmx')) (p : Nat)
    (hp : p ≠ offset) : pmx'.gpioConf p = pmx.gpioConf p := by
  obtain ⟨regs, rfl, -⟩ := tegraPinctrlGpioRequestEnable_eq_some h
  exact (tegraPinctrlGpioSaveConfig_frame soc pmx offset).2.2 p hp

/-- A request saves the mux register of the pin's group in the pin's own slot. -/
theorem tegraPinctrlGpioRequestEnable_gpioConf_self {ret : Int} {pmx' : TegraPmx}
    (h : tegraPinctrlGpioRequestEnable soc pmx offset = some (ret, pmx'))
    (hg : soc.groups[gpioGroupScan soc.groups offset]? = some g) (hmux : 0 ≤ g.muxReg) :
    pmx'.gpioConf offset = pmx.regs g.muxBank g.muxReg := by
  obtain ⟨regs, rfl, -⟩ := tegraPinctrlGpioRequestEnable_eq_some h
  rw [tegraPinctrlGpioSaveConfig_of_getElem? hg hmux]
  exact Function.update_same _ _ _

/-- A request that returns 0 has saved the mux register of the pin's group and cleared its
SFIO-select bit, and written nothing else. -/
theorem tegraPinctrlGpioRequestEnable_eq_ok {pmx' : TegraPmx}
    (hg : soc.groups[gpioGroupScan soc.groups offset]? = some g) (hsf : soc.sfselInMux = true)
    (h : tegraPinctrlGpioRequestEnable soc pmx offset = some (0, pmx')) :
    0 ≤ g.muxReg ∧ 0 ≤ g.sfselBit ∧ g.sfselBit < 64 ∧
      pmx' = { pmx with
        gpioConf := Function.update pmx.gpioConf offset (pmx.regs g.muxBank g.muxReg)
        regs := pmxWritel pmx.regs
          (pmx.regs g.muxBank g.muxReg &&& ~~~(1#32 <<< g.sfselBit.toNat)) g.muxBank g.muxReg } := by
  by_cases hmux : 0 ≤ g.muxReg
  · simp only [tegraPinctrlGpioRequestEnable, tegraPinctrlGpioSaveConfig_of_getElem? hg hmux, hsf,
      hg, ne_eq, not_true_eq_false, if_false, Bool.not_true, Bool.false_eq_true,
      show ¬ g.muxReg < 0 by omega, false_or] at h
    split_ifs at h with hbit
    · cases h
    · obtain ⟨v, hv, h⟩ := Option.bind_eq_some.mp h
      simp only [clearBit] at hv
      split_ifs at hv with hrange
      obtain ⟨-, rfl⟩ := Prod.mk.inj (Option.some.inj h)
      cases hv
      exact ⟨hmux, hrange.1, hrange.2, rfl⟩
  · simp [tegraPinctrlGpioRequestEnable, tegraPinctrlGpioSaveConfig, hg, hmux, hsf, EINVAL,
      Int.not_le.mp hmux] at h

theorem tegraPinctrlGpioDisableFree_of_getElem?
    (hg : soc.groups[gpioGroupScan soc.groups offset]? = some g) (hmux : 0 ≤ g.muxReg) :
    tegraPinctrlGpioDisableFree soc pmx offset =
      { pmx with regs := pmxWritel pmx.regs (pmx.gpioConf offset) g.muxBank g.muxReg } := by
  simp [tegraPinctrlGpioDisableFree, tegraPinctrlGpioRestoreConfig, hg, hmux]

@[simp] theorem tegraPinctrlGpioDisableFree_gpioConf (soc : TegraPinctrlSocData) (pmx : TegraPmx)
    (offset : Nat) : (tegraPinctrlGpioDisableFree soc pmx offset).gpioConf = pmx.gpioConf := by
  unfold tegraPinctrlGpioDisableFree tegraPinctrlGpioRestoreConfig
  split
  · rfl
  · split_ifs <;> rfl

@[simp] theorem tegraPinctrlGpioDisableFree_resources (soc : TegraPinctrlSocData)
    (pmx : TegraPmx) (offset : Nat) :
    (tegraPinctrlGpioDisableFree soc pmx offset).resources = pmx.resources := by
  unfold tegraPinctrlGpioDisableFree tegraPinctrlGpioRestoreConfig
  split
  · rfl
  · split_ifs <;> rfl

@[simp] theorem tegraPinctrlGpioDisableFree_backupRegs (soc : TegraPinctrlSocData)
    (pmx : TegraPmx) (offset : Nat) :
    (tegraPinctrlGpioDisableFree soc pmx offset).backupRegs = pmx.backupRegs := by
  unfold tegraPinctrlGpioDisableFree tegraPinctrlGpioRestoreConfig
  split
  · rfl
  · split_ifs <;> rfl

/-- A release writes no register but the mux register of the group the scan finds. -/
theorem tegraPinctrlGpioDisableFree_apply_of_ne {b r : Int}
    (hbr : ∀ g, soc.groups[gpioGroupScan soc.groups offset]? = some g →
      ¬(b = g.muxBank ∧ r = g.muxReg)) :
    (tegraPinctrlGpioDisableFree soc pmx offset).regs b r = pmx.regs b r := by
  unfold tegraPinctrlGpioDisableFree tegraPinctrlGpioRestoreConfig
  split
  · rfl
  · rename_i g hg
    split_ifs
    · exact pmxWritel_apply_of_ne (hbr g hg)
    · rfl

end Ops

end TegraPinctrl
