import TegraPinctrl.Probe
import TegraPinctrl.Gpio
import TegraPinctrl.Suspend

/-! # The driver as a state machine

After a successful probe the pin-control core and the power-management core call the driver's
operations in any order: select a function, apply configurations, hand a pin to the GPIO
controller and take it back, suspend and resume. `pmxStep` is one call and `pmxRun` a sequence
of them; `none` marks a call whose C is undefined.

Each call has a write set (`PmxOp.Writes`): the registers it can write. `pmxRun_frame` says
what a whole run can change: no bank size, no save slot of a pin it does not request, no
register outside the write sets of its calls.

Main result: a pin handed to the GPIO controller and taken back gets its mux register back
exactly as it was before, whatever ran in between, as long as the pin was not requested again
(`gpio_request_free_restores`, and `tegra234_gpio_request_free_restores` for the tegra234
table). -/

namespace TegraPinctrl

/-- A call into the driver after the probe. Groups are numbered as in the table; the core only
passes numbers below `ngroups`. -/
inductive PmxOp
  | setMux (function group : Nat)
  | groupSet (group : Nat) (configs : List Nat)
  | gpioRequestEnable (offset : Nat)
  | gpioDisableFree (offset : Nat)
  | suspend
  | resume
  deriving DecidableEq, Repr

/-- One call into the driver: the state afterwards, `none` where the C is undefined. Return
values are dropped: a failed call has written what the state shows. -/
def pmxStep (soc : TegraPinctrlSocData) (pmx : TegraPmx) : PmxOp → Option TegraPmx
  | .setMux function group => do
    let g ← soc.groups[group]?
    let (_, regs) ← tegraPinctrlSetMux soc function g pmx.regs
    return { pmx with regs }
  | .groupSet group configs => do
    let g ← soc.groups[group]?
    return { pmx with regs := (tegraPinconfGroupSet soc g configs pmx.regs).2 }
  | .gpioRequestEnable offset => (·.2) <$> tegraPinctrlGpioRequestEnable soc pmx offset
  | .gpioDisableFree offset => some (tegraPinctrlGpioDisableFree soc pmx offset)
  | .suspend => some (tegraPinctrlSuspend pmx)
  | .resume => tegraPinctrlResume pmx

/-- A sequence of calls. -/
def pmxRun (soc : TegraPinctrlSocData) : TegraPmx → List PmxOp → Option TegraPmx
  | pmx, [] => some pmx
  | pmx, op :: ops => (pmxStep soc pmx op).bind fun pmx => pmxRun soc pmx ops

theorem pmxRun_append (soc : TegraPinctrlSocData) (pmx : TegraPmx) (ops ops' : List PmxOp) :
    pmxRun soc pmx (ops ++ ops') = (pmxRun soc pmx ops).bind fun pmx => pmxRun soc pmx ops' := by
  induction ops generalizing pmx with
  | nil => rfl
  | cons op ops ih =>
    rw [List.cons_append]
    simp only [pmxRun, ih, Option.bind_assoc]

theorem pmxStep_gpioRequestEnable {soc : TegraPinctrlSocData} {pmx pmx' : TegraPmx}
    {offset : Nat} (h : pmxStep soc pmx (.gpioRequestEnable offset) = some pmx') :
    ∃ ret, tegraPinctrlGpioRequestEnable soc pmx offset = some (ret, pmx') := by
  obtain ⟨⟨ret, pmx''⟩, hreq, rfl⟩ := Option.map_eq_some'.mp h
  exact ⟨ret, hreq⟩

/-! ## What a call writes -/

/-- Whether call `op` can write register `(b, r)` of a device whose banks have the memory
resources `resources`: `set_mux` the mux register of its group, `group_set` the register of
each configuration's parameter, the GPIO calls the mux register of the group the scan finds,
resume every word of every bank, suspend nothing. -/
def PmxOp.Writes (soc : TegraPinctrlSocData) (resources : List Nat) (b r : Int) : PmxOp → Prop
  | .setMux _ group => ∃ g, soc.groups[group]? = some g ∧ b = g.muxBank ∧ r = g.muxReg
  | .groupSet group configs =>
    ∃ g, soc.groups[group]? = some g ∧ ∃ c ∈ configs, PinconfWrites soc g c b r
  | .gpioRequestEnable offset | .gpioDisableFree offset =>
    ∃ g, soc.groups[gpioGroupScan soc.groups offset]? = some g ∧ b = g.muxBank ∧ r = g.muxReg
  | .suspend => False
  | .resume => ∃ i < resources.length, ∃ k < tegraPinctrlGetBankSize resources i,
    b = i ∧ r = (4 * k : Nat)

/-- What one call can change: it keeps the bank sizes, writes no save slot but that of a pin it
requests, and no register outside its write set. -/
theorem pmxStep_frame {soc : TegraPinctrlSocData} {pmx pmx' : TegraPmx} {op : PmxOp}
    (h : pmxStep soc pmx op = some pmx') :
    pmx'.resources = pmx.resources ∧
    (∀ p, op ≠ .gpioRequestEnable p → pmx'.gpioConf p = pmx.gpioConf p) ∧
    ∀ b r, ¬ op.Writes soc pmx.resources b r → pmx'.regs b r = pmx.regs b r := by
  cases op with
  | setMux function group =>
    obtain ⟨g, hg, h⟩ := Option.bind_eq_some.mp h
    obtain ⟨⟨ret, regs⟩, hset, h⟩ := Option.bind_eq_some.mp h
    cases h
    exact ⟨rfl, fun _ _ => rfl,
      fun b r hw => tegraPinctrlSetMux_apply_of_ne hset fun hbr => hw ⟨g, hg, hbr⟩⟩
  | groupSet group configs =>
    obtain ⟨g, hg, h⟩ := Option.bind_eq_some.mp h
    cases h
    exact ⟨rfl, fun _ _ => rfl, fun b r hw =>
      tegraPinconfGroupSet_apply_of_not_writes soc g (fun c hc hwc => hw ⟨g, hg, c, hc, hwc⟩) _⟩
  | gpioRequestEnable offset =>
    obtain ⟨ret, hreq⟩ := pmxStep_gpioRequestEnable h
    obtain ⟨regs, rfl, hregs⟩ := tegraPinctrlGpioRequestEnable_eq_some hreq
    obtain ⟨-, hres, hconf⟩ := tegraPinctrlGpioSaveConfig_frame soc pmx offset
    exact ⟨hres, fun p hp => hconf p fun he => hp (he ▸ rfl),
      fun b r hw => hregs b r fun g hg hbr => hw ⟨g, hg, hbr⟩⟩
  | gpioDisableFree offset =>
    cases h
    exact ⟨by simp, fun _ _ => by simp,
      fun b r hw => tegraPinctrlGpioDisableFree_apply_of_ne fun g hg hbr => hw ⟨g, hg, hbr⟩⟩
  | suspend =>
    cases h
    exact ⟨rfl, fun _ _ => rfl, fun _ _ _ => rfl⟩
  | resume =>
    simp only [pmxStep, tegraPinctrlResume] at h
    split_ifs at h
    cases h
    refine ⟨rfl, fun _ _ => rfl, fun b r hw => (resumeBanks_spec pmx 0 _ 0 pmx.regs).1 b r ?_⟩
    intro t ht k hk hbr
    exact hw ⟨t, ht, k, by simpa using hk, by simpa using hbr⟩

/-- Only suspend writes the backup area. -/
theorem pmxStep_backupRegs {soc : TegraPinctrlSocData} {pmx pmx' : TegraPmx} {op : PmxOp}
    (h : pmxStep soc pmx op = some pmx') (hop : op ≠ .suspend) :
    pmx'.backupRegs = pmx.backupRegs := by
  cases op with
  | setMux function group =>
    obtain ⟨g, -, h⟩ := Option.bind_eq_some.mp h
    obtain ⟨_, -, h⟩ := Option.bind_eq_some.mp h
    cases h
    rfl
  | groupSet group configs =>
    obtain ⟨g, -, h⟩ := Option.bind_eq_some.mp h
    cases h
    rfl
  | gpioRequestEnable offset =>
    obtain ⟨ret, hreq⟩ := pmxStep_gpioRequestEnable h
    obtain ⟨regs, rfl, -⟩ := tegraPinctrlGpioRequestEnable_eq_some hreq
    exact tegraPinctrlGpioSaveConfig_backupRegs soc pmx offset
  | gpioDisableFree offset =>
    cases h
    exact tegraPinctrlGpioDisableFree_backupRegs soc pmx offset
  | suspend => exact absurd rfl hop
  | resume =>
    simp only [pmxStep, tegraPinctrlResume] at h
    split_ifs at h
    cases h
    rfl

/-- What a run can change: it keeps the bank sizes, writes no save slot of a pin it does not
request, and no register outside the write sets of its calls. -/
theorem pmxRun_frame {soc : TegraPinctrlSocData} {ops : List PmxOp} {pmx pmx' : TegraPmx}
    (h : pmxRun soc pmx ops = some pmx') :
    pmx'.resources = pmx.resources ∧
    (∀ p, PmxOp.gpioRequestEnable p ∉ ops → pmx'.gpioConf p = pmx.gpioConf p) ∧
    ∀ b r, (∀ op ∈ ops, ¬ op.Writes soc pmx.resources b r) → pmx'.regs b r = pmx.regs b r := by
  induction ops generalizing pmx with
  | nil =>
    cases h
    exact ⟨rfl, fun _ _ => rfl, fun _ _ _ => rfl⟩
  | cons op ops ih =>
    obtain ⟨pmx₁, h₁, h⟩ := Option.bind_eq_some.mp h
    obtain ⟨hres₁, hconf₁, hregs₁⟩ := pmxStep_frame h₁
    obtain ⟨hres, hconf, hregs⟩ := ih h
    refine ⟨hres.trans hres₁, fun p hp => ?_, fun b r hw => ?_⟩
    · rw [hconf p fun hm => hp (List.mem_cons_of_mem _ hm),
        hconf₁ p fun he => hp (he ▸ List.mem_cons_self _ _)]
    · rw [hregs b r fun op' hop => hres₁ ▸ hw op' (List.mem_cons_of_mem _ hop),
        hregs₁ b r (hw op (List.mem_cons_self _ _))]

/-! ## Handing a pin to the GPIO controller and back -/

/-- A pin whose group the scan finds, requested with success, then any run without a second
request of it, then released: the request clears only the SFIO-select bit of the group's mux
register and writes no other register, and the release puts the register back as it was before
the request. -/
theorem gpio_request_free_restores {soc : TegraPinctrlSocData} {p : Nat} {g : TegraPingroup}
    (hg : soc.groups[gpioGroupScan soc.groups p]? = some g) (hsf : soc.sfselInMux = true)
    {pmx pmx₁ pmx₂ : TegraPmx} {ops : List PmxOp}
    (hreq : tegraPinctrlGpioRequestEnable soc pmx p = some (0, pmx₁))
    (hops : PmxOp.gpioRequestEnable p ∉ ops) (hrun : pmxRun soc pmx₁ ops = some pmx₂) :
    pmx₁.regs g.muxBank g.muxReg =
      pmx.regs g.muxBank g.muxReg &&& ~~~(1#32 <<< g.sfselBit.toNat) ∧
    (∀ b r, ¬(b = g.muxBank ∧ r = g.muxReg) → pmx₁.regs b r = pmx.regs b r) ∧
    (tegraPinctrlGpioDisableFree soc pmx₂ p).regs g.muxBank g.muxReg =
      pmx.regs g.muxBank g.muxReg := by
  obtain ⟨hmux, -, -, rfl⟩ := tegraPinctrlGpioRequestEnable_eq_ok hg hsf hreq
  refine ⟨pmxWritel_apply_self _ _ _ _, fun b r hbr => pmxWritel_apply_of_ne hbr, ?_⟩
  rw [tegraPinctrlGpioDisableFree_of_getElem? hg hmux]
  simp only [pmxWritel_apply_self]
  rw [(pmxRun_frame hrun).2.1 p hops]
  exact Function.update_same _ _ _

/-- The same on tegra234, for every pin that is the only pin of a group. -/
theorem tegra234_gpio_request_free_restores {p : Nat} {g : TegraPingroup}
    (hg : g ∈ tegra234Groups) (hpin : g.pins = [p]) {pmx pmx₁ pmx₂ : TegraPmx}
    {ops : List PmxOp} (hreq : tegraPinctrlGpioRequestEnable tegra234Pinctrl pmx p = some (0, pmx₁))
    (hops : PmxOp.gpioRequestEnable p ∉ ops) (hrun : pmxRun tegra234Pinctrl pmx₁ ops = some pmx₂) :
    pmx₁.regs g.muxBank g.muxReg =
      pmx.regs g.muxBank g.muxReg &&& ~~~(1#32 <<< g.sfselBit.toNat) ∧
    (∀ b r, ¬(b = g.muxBank ∧ r = g.muxReg) → pmx₁.regs b r = pmx.regs b r) ∧
    (tegraPinctrlGpioDisableFree tegra234Pinctrl pmx₂ p).regs g.muxBank g.muxReg =
      pmx.regs g.muxBank g.muxReg :=
  gpio_request_free_restores
    (by rw [tegra234Pinctrl_groups]; exact tegra234_getElem?_gpioGroupScan hg hpin) rfl hreq hops hrun

set_option maxRecDepth 4000 in
/-- Pin 201 of `touch_clk_pcc4`, whose mux register holds `0x401` (`TOUCH`, SFIO selected):
requested, then switched to `TOUCH`, tristated and switched to `GP`, which leaves `0x410` in the
register, then released, which puts `0x401` back. (`xs[i]?` computes the length of the
199-group table first, hence the limit.) -/
theorem tegra234_gpio_request_free_restores_touch_clk :
    let pmx : TegraPmx :=
      ⟨fun b r => if b = 1 ∧ r = 0x2000 then 0x401#32 else 0#32, fun _ => 0, fun _ => 0,
        [0x4000, 0x4000], []⟩
    let ops := [PmxOp.setMux TegraMuxDt.touch.toCtorIdx 0,
      .groupSet 0 [tegraPinconfPack TegraPinconfParam.tristate.val 1],
      .setMux TegraMuxDt.gp.toCtorIdx 0]
    let pmx₁ := ((tegraPinctrlGpioRequestEnable tegra234Pinctrl pmx 201).map Prod.snd).getD pmx
    let pmx₂ := (pmxRun tegra234Pinctrl pmx₁ ops).getD pmx₁
    pmx₂.regs 1 0x2000 = 0x410#32 ∧
    ∃ g ∈ tegra234Groups, g.pins = [201] ∧
      tegraPinctrlGpioRequestEnable tegra234Pinctrl pmx 201 = some (0, pmx₁) ∧
      PmxOp.gpioRequestEnable 201 ∉ ops ∧
      pmxRun tegra234Pinctrl pmx₁ ops = some pmx₂ ∧
      (pmx₁.regs g.muxBank g.muxReg =
        pmx.regs g.muxBank g.muxReg &&& ~~~(1#32 <<< g.sfselBit.toNat) ∧
      (∀ b r, ¬(b = g.muxBank ∧ r = g.muxReg) → pmx₁.regs b r = pmx.regs b r) ∧
      (tegraPinctrlGpioDisableFree tegra234Pinctrl pmx₂ 201).regs g.muxBank g.muxReg =
        pmx.regs g.muxBank g.muxReg) := by
  intro pmx ops pmx₁ pmx₂
  have hops : PmxOp.gpioRequestEnable 201 ∉ ops := by decide
  exact ⟨by decide, _, List.mem_cons_self _ _, rfl, rfl, hops, rfl,
    tegra234_gpio_request_free_restores (List.mem_cons_self _ _) rfl rfl hops rfl⟩

end TegraPinctrl
