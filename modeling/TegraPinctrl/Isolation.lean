import TegraPinctrl.Driver
import TegraPinctrl.DtMap

/-! # Registers and bits shared on tegra234

Every parameter `tegra_pinconf_reg` places on a tegra234 group, `PAD_POWER` apart, lives in one
of two registers of that group: its mux register or its drive register (`ownRegs`). The pull,
tristate and loopback fields sit in the mux register, and the drive fields in the drive
register. No two groups share one of these registers (`tegra234_ownRegs_disjoint`). So a run of
calls that configure other groups, select their functions or hand their pins to the GPIO
controller leaves a group's registers, and every parameter `tegra_pinconf_group_get` reads on
it, as they were (`tegra234_run_preserves_groupGet`). And whatever calls a run is given, it
writes no other register of the banks, a resume apart (`tegra234_run_writes_only_ownRegs`).

`PAD_POWER` is the exception. `PIN_PINGROUP_ENTRY_Y` leaves `pad_reg`, `pad_bank` and `pad_bit`
at 0, so `tegra_pinconf_reg` accepts the parameter on every group, at bit 0 of word 0 of bank 0.
That is the low bit of the function field of `extperiph2_clk_pp1`
(`tegra234_padPower_sets_extperiph2_function_bit`).

Within one group the fields are apart as well, but for `OPEN_DRAIN`, `IO_RESET` and `RCV_SEL`,
which `PINGROUP` leaves at bit 0, inside the function field: two distinct parameters other than
these and `PAD_POWER` never share a bit (`tegra234_fields_separate`), so `tegra_pinconf_group_set` applies any list of
them and each reads back what it was set to (`tegra234_groupSet_separate`). A device-tree
subnode that sets only such parameters therefore configures a group as it says
(`tegra234_dtSubnodeConfigs_apply`), and the configuration outlasts any run of calls that leave
the group alone (`tegra234_dtSubnodeConfigs_persist`). -/

namespace TegraPinctrl

/-- The registers of group `g` that exist, as (bank, byte offset): its mux register and its
drive register. A negative offset marks one the group lacks. -/
def ownRegs (g : TegraPingroup) : List (Int × Int) :=
  [(g.muxBank, g.muxReg), (g.drvBank, g.drvReg)].filter fun x => 0 ≤ x.2

theorem mem_ownRegs {g : TegraPingroup} {x : Int × Int} :
    x ∈ ownRegs g ↔ (x = (g.muxBank, g.muxReg) ∨ x = (g.drvBank, g.drvReg)) ∧ 0 ≤ x.2 := by
  simp [ownRegs]

/-- Every parameter but `PAD_POWER` lives in the mux, drive, pull, tristate or loopback register
of its group, whatever the placement flags of the SoC. -/
theorem pinconfLocation_mem (soc : TegraPinctrlSocData) (g : TegraPingroup)
    {p : TegraPinconfParam} (hp : p ≠ .padPower) :
    ((pinconfLocation soc g p).bank, (pinconfLocation soc g p).reg) ∈
      [(g.muxBank, g.muxReg), (g.drvBank, g.drvReg), (g.pupdBank, g.pupdReg),
        (g.triBank, g.triReg), (g.lpbkBank, g.lpbkReg)] := by
  cases p <;> simp only [pinconfLocation] at hp ⊢ <;> (try split_ifs) <;> simp_all

/-- The register layout `PINGROUP` gives a group: the pull (when present), tristate and
loopback fields in the mux register, and the pad fields left at 0. -/
def RegLayout (g : TegraPingroup) : Prop :=
  g.pupdBank = g.muxBank ∧ (g.pupdReg = g.muxReg ∨ g.pupdReg < 0) ∧ g.triBank = g.muxBank ∧
    g.triReg = g.muxReg ∧ g.lpbkBank = g.muxBank ∧ g.lpbkReg = g.muxReg ∧ g.padBank = 0 ∧
    g.padReg = 0 ∧ g.padBit = 0

instance (g : TegraPingroup) : Decidable (RegLayout g) := inferInstanceAs (Decidable (_ ∧ _))

theorem tegra234_regLayout : ∀ g ∈ tegra234Groups, RegLayout g := by
  have h : tegra234Groups.all (fun g => decide (RegLayout g)) = true := by decide
  exact fun g hg => of_decide_eq_true (List.all_eq_true.mp h g hg)

/-- With the `PINGROUP` layout, a configuration other than `PAD_POWER` writes only a register
its group owns. -/
theorem RegLayout.pinconfWrites_mem {soc : TegraPinctrlSocData} {g : TegraPingroup}
    (hg : RegLayout g) {c : Nat} {b r : Int}
    (hc : tegraPinconfUnpackParam c ≠ TegraPinconfParam.padPower.val)
    (hw : PinconfWrites soc g c b r) : (b, r) ∈ ownRegs g := by
  obtain ⟨loc, hloc, rfl, rfl⟩ := hw
  obtain ⟨p, hp, rfl, hreg, -⟩ := tegraPinconfReg_eq_ok.mp hloc
  have hpad : p ≠ .padPower := fun h => hc (by rw [← TegraPinconfParam.eq_of_ofNat?_eq_some hp, h])
  obtain ⟨hpb, hpr, htb, htr, hlb, hlr, -⟩ := hg
  refine mem_ownRegs.mpr ⟨?_, hreg⟩
  have hmem := pinconfLocation_mem soc g hpad
  simp only [List.mem_cons, List.mem_singleton, List.not_mem_nil, or_false] at hmem
  rcases hmem with h | h | h | h | h
  · exact .inl h
  · exact .inr h
  · rcases hpr with hpr | hpr
    · exact .inl (by rw [h, hpb, hpr])
    · have := (Prod.mk.inj h).2
      omega
  · exact .inl (by rw [h, htb, htr])
  · exact .inl (by rw [h, hlb, hlr])

/-- With the `PINGROUP` layout, `PAD_POWER` is supported, at bit 0 of word 0 of bank 0. -/
theorem RegLayout.tegraPinconfReg_padPower {g : TegraPingroup} (hg : RegLayout g)
    (soc : TegraPinctrlSocData) :
    tegraPinconfReg soc g TegraPinconfParam.padPower.val = .ok ⟨0, 0, 0, 1⟩ := by
  obtain ⟨-, -, -, -, -, -, hb, hr, hbit⟩ := hg
  simp [tegraPinconfReg, pinconfLocation, hb, hr, hbit]

/-- `nvidia,pad-power = 0`, applied to any tegra234 group in any register state, returns 0, sets
bit 0 of word 0 of bank 0 and writes nothing else. That word is the mux register of
`extperiph2_clk_pp1`, whose function field starts at bit 0: whichever group the call names, it
moves `extperiph2_clk_pp1` from function slot 0 to slot 1, or from slot 2 to slot 3. -/
theorem tegra234_padPower_sets_extperiph2_function_bit :
    (∃ e ∈ tegra234Groups, e.name = "extperiph2_clk_pp1" ∧ e.muxBank = 0 ∧ e.muxReg = 0 ∧
      e.muxBit = 0) ∧
    ∀ g ∈ tegra234Groups, ∀ regs : RegFile,
      tegraPinconfGroupSet tegra234Pinctrl g [tegraPinconfPack TegraPinconfParam.padPower.val 0]
        regs = (0, pmxWritel regs (regs 0 0 ||| 1#32) 0 0) := by
  refine ⟨⟨_, @List.get?_mem _ tegra234Groups 134 _ rfl, rfl, rfl, rfl, rfl⟩, fun g hg regs => ?_⟩
  have hreg := (tegra234_regLayout g hg).tegraPinconfReg_padPower tegra234Pinctrl
  have hfits : 1#32 &&& ~~~fieldMask 1 = 0#32 := by decide
  simp [tegraPinconfGroupSet, tegraPinconfGroupSetOne, hreg, bind, Except.bind, pure,
    Except.pure, cNot, pmxReadl, writeField_zero_one_one, hfits]

/-- `nvidia,pad-power = 0` on `touch_clk_pcc4`, all registers 0: `extperiph2_clk_pp1` then
reads function slot 1, `RSVD1`. -/
example : ∃ g ∈ tegra234Groups, g.name = "touch_clk_pcc4" ∧
    ∃ e ∈ tegra234Groups, e.name = "extperiph2_clk_pp1" ∧
      tegraPinconfGroupGet tegra234Pinctrl (tegraPinconfGroupSet tegra234Pinctrl g
          [tegraPinconfPack TegraPinconfParam.padPower.val 0] fun _ _ => 0).2 e
        (tegraPinconfPack TegraPinconfParam.function.val 0) =
        .ok (tegraPinconfPack TegraPinconfParam.function.val 1) :=
  ⟨_, List.mem_cons_self _ _, rfl, _, @List.get?_mem _ tegra234Groups 134 _ rfl, rfl, rfl⟩

/-! ## No two groups share a register -/

/-- A register as one number, the bank above the offset. Only equal registers matter here, so
the encoding need not be injective. -/
def regKey (x : Int × Int) : Nat := x.1.toNat * 2 ^ 17 + x.2.toNat

set_option maxRecDepth 4000 in
theorem tegra234_regKeys_distinct :
    distinctPins 0 (tegra234Groups.flatMap fun g => (ownRegs g).map regKey) = true := by
  decide

theorem tegra234_ownRegs_disjoint {i j : Nat} {g g' : TegraPingroup} (hij : i ≠ j)
    (hg : tegra234Groups[i]? = some g) (hg' : tegra234Groups[j]? = some g') {x : Int × Int}
    (hx : x ∈ ownRegs g) (hx' : x ∈ ownRegs g') : False := by
  obtain ⟨-, hpw⟩ := List.nodup_flatMap.mp (nodup_of_distinctPins tegra234_regKeys_distinct).1
  obtain ⟨hi, rfl⟩ := List.getElem?_eq_some_iff.mp hg
  obtain ⟨hj, rfl⟩ := List.getElem?_eq_some_iff.mp hg'
  have hk := List.mem_map_of_mem regKey hx
  have hk' := List.mem_map_of_mem regKey hx'
  rcases Nat.lt_or_gt_of_ne hij with h | h
  · exact List.pairwise_iff_getElem.mp hpw i j hi hj h hk hk'
  · exact List.pairwise_iff_getElem.mp hpw j i hj hi h hk' hk

/-! ## Runs that leave a group alone -/

/-- Call `op` leaves group `j` alone: it names another group (a GPIO call: the scan finds
another group), sets no `PAD_POWER`, and is not a resume, which rewrites every bank. -/
def PmxOp.Avoids (soc : TegraPinctrlSocData) (j : Nat) : PmxOp → Prop
  | .setMux _ group => group ≠ j
  | .groupSet group configs =>
    group ≠ j ∧ ∀ c ∈ configs, tegraPinconfUnpackParam c ≠ TegraPinconfParam.padPower.val
  | .gpioRequestEnable offset | .gpioDisableFree offset => gpioGroupScan soc.groups offset ≠ j
  | .suspend => True
  | .resume => False

theorem tegra234_not_writes_of_avoids {j : Nat} {g : TegraPingroup}
    (hg : tegra234Groups[j]? = some g) {op : PmxOp} (hop : op.Avoids tegra234Pinctrl j)
    (resources : List Nat) {x : Int × Int} (hx : x ∈ ownRegs g) :
    ¬ op.Writes tegra234Pinctrl resources x.1 x.2 := by
  have hmux {i : Nat} {g' : TegraPingroup} (hi : i ≠ j) (hg' : tegra234Groups[i]? = some g')
      (hb : x.1 = g'.muxBank) (hr : x.2 = g'.muxReg) : False :=
    tegra234_ownRegs_disjoint hi hg' hg
      (mem_ownRegs.mpr ⟨.inl (Prod.ext hb hr), (mem_ownRegs.mp hx).2⟩) hx
  cases op with
  | setMux _ group => exact fun ⟨g', hg', hb, hr⟩ => hmux hop hg' hb hr
  | groupSet group configs =>
    rintro ⟨g', hg', c, hc, hw⟩
    exact tegra234_ownRegs_disjoint hop.1 hg' hg
      ((tegra234_regLayout g' (List.getElem?_mem hg')).pinconfWrites_mem (hop.2 c hc) hw) hx
  | gpioRequestEnable offset => exact fun ⟨g', hg', hb, hr⟩ => hmux hop hg' hb hr
  | gpioDisableFree offset => exact fun ⟨g', hg', hb, hr⟩ => hmux hop hg' hb hr
  | suspend => exact id
  | resume => exact hop.elim

/-- On tegra234, a run of calls that leave group `j` alone leaves its registers as they were. -/
theorem tegra234_run_preserves_ownRegs {j : Nat} {g : TegraPingroup}
    (hg : tegra234Groups[j]? = some g) {ops : List PmxOp}
    (hops : ∀ op ∈ ops, op.Avoids tegra234Pinctrl j) {pmx pmx' : TegraPmx}
    (h : pmxRun tegra234Pinctrl pmx ops = some pmx') :
    ∀ x ∈ ownRegs g, pmx'.regs x.1 x.2 = pmx.regs x.1 x.2 :=
  fun _ hx => (pmxRun_frame h).2.2 _ _ fun op hop =>
    tegra234_not_writes_of_avoids hg (hops op hop) _ hx

/-- A tegra234 group reads every parameter but `PAD_POWER` from its own registers only. -/
theorem tegra234_groupGet_congr {g : TegraPingroup} (hg : g ∈ tegra234Groups)
    {regs regs' : RegFile} (h : ∀ x ∈ ownRegs g, regs' x.1 x.2 = regs x.1 x.2) {config : Nat}
    (hc : tegraPinconfUnpackParam config ≠ TegraPinconfParam.padPower.val) :
    tegraPinconfGroupGet tegra234Pinctrl regs' g config =
      tegraPinconfGroupGet tegra234Pinctrl regs g config :=
  tegraPinconfGroupGet_congr fun loc hloc =>
    h _ ((tegra234_regLayout g hg).pinconfWrites_mem hc ⟨loc, hloc, rfl, rfl⟩)

/-- On tegra234, a run of calls that leave group `j` alone leaves every parameter of the group
but `PAD_POWER` reading as it did through `tegra_pinconf_group_get`. -/
theorem tegra234_run_preserves_groupGet {j : Nat} {g : TegraPingroup}
    (hg : tegra234Groups[j]? = some g) {ops : List PmxOp}
    (hops : ∀ op ∈ ops, op.Avoids tegra234Pinctrl j) {pmx pmx' : TegraPmx}
    (h : pmxRun tegra234Pinctrl pmx ops = some pmx') {config : Nat}
    (hc : tegraPinconfUnpackParam config ≠ TegraPinconfParam.padPower.val) :
    tegraPinconfGroupGet tegra234Pinctrl pmx'.regs g config =
      tegraPinconfGroupGet tegra234Pinctrl pmx.regs g config :=
  tegra234_groupGet_congr (List.getElem?_mem hg) (tegra234_run_preserves_ownRegs hg hops h) hc

set_option maxRecDepth 4000 in
/-- `uart3_rx_pcc6`, group 1, reads its function as before while `touch_clk_pcc4` is switched to
`TOUCH`. -/
theorem tegra234_run_preserves_groupGet_uart3_rx :
    let pmx : TegraPmx := ⟨fun _ _ => 0, fun _ => 0, fun _ => 0, [0x4000], []⟩
    let ops := [PmxOp.setMux TegraMuxDt.touch.toCtorIdx 0]
    let pmx' := (pmxRun tegra234Pinctrl pmx ops).getD pmx
    let config := tegraPinconfPack TegraPinconfParam.function.val 0
    ∃ g, tegra234Groups[1]? = some g ∧ (∀ op ∈ ops, op.Avoids tegra234Pinctrl 1) ∧
      pmxRun tegra234Pinctrl pmx ops = some pmx' ∧
      tegraPinconfUnpackParam config ≠ TegraPinconfParam.padPower.val ∧
      tegraPinconfGroupGet tegra234Pinctrl pmx'.regs g config =
        tegraPinconfGroupGet tegra234Pinctrl pmx.regs g config := by
  intro pmx ops pmx' config
  have hops : ∀ op ∈ ops, op.Avoids tegra234Pinctrl 1 := fun op hop => by
    rw [List.mem_singleton.mp hop]
    exact Nat.zero_ne_one
  have hc : tegraPinconfUnpackParam config ≠ TegraPinconfParam.padPower.val := by decide
  exact ⟨_, rfl, hops, rfl, hc, tegra234_run_preserves_groupGet rfl hops rfl hc⟩

/-! ## Every write lands in the table -/

/-- The mux register of `extperiph2_clk_pp1` is word 0 of bank 0, where every group places
`PAD_POWER`. -/
theorem tegra234_padPower_reg_mem : ∃ e ∈ tegra234Groups, ((0 : Int), (0 : Int)) ∈ ownRegs e :=
  ⟨_, @List.get?_mem _ tegra234Groups 134 _ rfl, by decide⟩

/-- On tegra234, every register a call other than resume can write is a register of a group of
the table. -/
theorem tegra234_writes_mem_ownRegs {op : PmxOp} (hop : op ≠ .resume) {resources : List Nat}
    {b r : Int} (hw : op.Writes tegra234Pinctrl resources b r) :
    ∃ g ∈ tegra234Groups, (b, r) ∈ ownRegs g := by
  -- the mux register of a group of the table
  have hmux {g : TegraPingroup} (hg : g ∈ tegra234Groups) (hb : b = g.muxBank)
      (hr : r = g.muxReg) : ∃ g ∈ tegra234Groups, (b, r) ∈ ownRegs g :=
    ⟨g, hg, mem_ownRegs.mpr ⟨.inl (by rw [hb, hr]), hr ▸ (tegra234_mux_layout g hg).1⟩⟩
  cases op with
  | setMux _ _ | gpioRequestEnable _ | gpioDisableFree _ =>
    obtain ⟨g, hg, hb, hr⟩ := hw
    exact hmux (List.getElem?_mem hg) hb hr
  | groupSet group configs =>
    obtain ⟨g, hg, c, -, hwc⟩ := hw
    have hlay := tegra234_regLayout g (List.getElem?_mem hg)
    by_cases hpad : tegraPinconfUnpackParam c = TegraPinconfParam.padPower.val
    · -- `PAD_POWER`: word 0 of bank 0
      obtain ⟨loc, hloc, rfl, rfl⟩ := hwc
      rw [hpad, hlay.tegraPinconfReg_padPower] at hloc
      cases hloc
      exact tegra234_padPower_reg_mem
    · exact ⟨g, List.getElem?_mem hg, hlay.pinconfWrites_mem hpad hwc⟩
  | suspend => exact hw.elim
  | resume => exact absurd rfl hop

/-- On tegra234, a run of calls without a resume writes no register but the mux and drive
registers of the groups of the table: whatever it is given, it never touches another register of
the banks. -/
theorem tegra234_run_writes_only_ownRegs {ops : List PmxOp} (hops : PmxOp.resume ∉ ops)
    {pmx pmx' : TegraPmx} (h : pmxRun tegra234Pinctrl pmx ops = some pmx') {b r : Int}
    (hx : ∀ g ∈ tegra234Groups, (b, r) ∉ ownRegs g) : pmx'.regs b r = pmx.regs b r :=
  (pmxRun_frame h).2.2 b r fun _ hop hw =>
    let ⟨g, hg, hmem⟩ := tegra234_writes_mem_ownRegs (fun he => hops (he ▸ hop)) hw
    hx g hg hmem

set_option maxRecDepth 4000 in
/-- Word `0x1C8` of bank 0, `EMMC2_PAD_CFGPADCTRL_OFFSET`, is no register of a group: a function
selection, a `PAD_POWER` setting, a GPIO request and a suspend leave it alone. -/
theorem tegra234_run_writes_only_ownRegs_emmc2 :
    let pmx : TegraPmx := ⟨fun _ _ => 0, fun _ => 0, fun _ => 0, [0x19040, 0x3060], []⟩
    let ops := [PmxOp.setMux TegraMuxDt.touch.toCtorIdx 0,
      .groupSet 0 [tegraPinconfPack TegraPinconfParam.padPower.val 0], .gpioRequestEnable 201,
      .suspend]
    let pmx' := (pmxRun tegra234Pinctrl pmx ops).getD pmx
    PmxOp.resume ∉ ops ∧ pmxRun tegra234Pinctrl pmx ops = some pmx' ∧
      (∀ g ∈ tegra234Groups, ((0 : Int), (0x1C8 : Int)) ∉ ownRegs g) ∧
      pmx'.regs 0 0x1C8 = pmx.regs 0 0x1C8 := by
  intro pmx ops pmx'
  have hx : ∀ g ∈ tegra234Groups, ((0 : Int), (0x1C8 : Int)) ∉ ownRegs g := by
    have h : tegra234Groups.all (fun g => !decide (((0 : Int), (0x1C8 : Int)) ∈ ownRegs g)) =
      true := by decide
    exact fun g hg => by simpa using List.all_eq_true.mp h g hg
  have hops : PmxOp.resume ∉ ops := by decide
  exact ⟨hops, rfl, hx, tegra234_run_writes_only_ownRegs hops rfl hx⟩

/-! ## Fields within a group -/

/-- Whether `tegra_pinconf_reg` places `p` in the mux register of its group rather than in the
drive register, under the `PINGROUP` layout (which puts the pull, tristate and loopback fields in
the mux register). `PAD_POWER` lies in neither. -/
def muxPlaced (soc : TegraPinctrlSocData) : TegraPinconfParam → Bool
  | .highSpeedMode => soc.hsmInMux
  | .schmitt => soc.schmittInMux
  | .driveType => soc.drvtypeInMux
  | .lowPowerMode | .driveDownStrength | .driveUpStrength | .slewRateFalling | .slewRateRising
  | .padPower => false
  | _ => true

/-- With the `PINGROUP` layout, a supported parameter other than `PAD_POWER` lies in the mux
register or in the drive register, as `muxPlaced` says. -/
theorem RegLayout.pinconfLocation_reg {g : TegraPingroup} (hg : RegLayout g)
    (soc : TegraPinctrlSocData) {p : TegraPinconfParam} (hp : p ≠ .padPower)
    (hreg : 0 ≤ (pinconfLocation soc g p).reg) :
    ((pinconfLocation soc g p).bank, (pinconfLocation soc g p).reg) =
      if muxPlaced soc p then (g.muxBank, g.muxReg) else (g.drvBank, g.drvReg) := by
  obtain ⟨hpb, hpr, htb, htr, hlb, hlr, -⟩ := hg
  cases p <;> simp only [pinconfLocation, muxPlaced, hpb, htb, htr, hlb, hlr, if_true,
    Bool.false_eq_true, if_false] at hp hreg ⊢
  case pull => rw [hpr.resolve_right (Int.not_lt.mpr hreg)]
  case highSpeedMode | schmitt | driveType => split <;> rfl
  case padPower => exact absurd rfl hp

/-- No tegra234 group has its drive register at its mux register. -/
theorem tegra234_mux_ne_drv {g : TegraPingroup} (hg : g ∈ tegra234Groups) (hd : 0 ≤ g.drvReg) :
    (g.muxBank, g.muxReg) ≠ (g.drvBank, g.drvReg) := by
  have h := (List.nodup_flatMap.mp (nodup_of_distinctPins tegra234_regKeys_distinct).1).1 g hg
  intro heq
  simp [ownRegs, hd, heq] at h

/-- Two fields, as (bit, width), that share no bit or of which one is absent. -/
def FieldsApart (f h : Int × Int) : Prop := f.1 < 0 ∨ h.1 < 0 ∨ f.1 + f.2 ≤ h.1 ∨ h.1 + h.2 ≤ f.1

instance (f h : Int × Int) : Decidable (FieldsApart f h) := inferInstanceAs (Decidable (_ ∨ _))

/-- In the field layout `L`, parameters `p` and `q` placed in the same register have fields
apart. -/
def SlotsApart (soc : TegraPinctrlSocData) (L : List (Int × Int)) (p q : TegraPinconfParam) :
    Prop :=
  muxPlaced soc p = muxPlaced soc q → ∀ f ∈ L[p.val]?, ∀ h ∈ L[q.val]?, FieldsApart f h

instance (soc : TegraPinctrlSocData) (L : List (Int × Int)) (p q : TegraPinconfParam) :
    Decidable (SlotsApart soc L p q) :=
  inferInstanceAs (Decidable (_ → _))

theorem slotsApart_symm (soc : TegraPinctrlSocData) (L : List (Int × Int)) :
    Symmetric (SlotsApart soc L) := fun _ _ h hc f hf f' hf' => by
  have := h hc.symm f' hf' f hf
  unfold FieldsApart at *
  omega

/-- The parameters whose fields the tegra234 groups keep apart: all but `OPEN_DRAIN`, `IO_RESET`
and `RCV_SEL`, which `PINGROUP` leaves at bit 0, inside the function field, and `PAD_POWER`,
which every group places at bit 0 of word 0 of bank 0. -/
def separateParams : List TegraPinconfParam :=
  [.pull, .tristate, .enableInput, .lock, .loopback, .highSpeedMode, .schmitt, .lowPowerMode,
    .driveDownStrength, .driveUpStrength, .slewRateFalling, .slewRateRising, .driveType, .function]

theorem ne_padPower_of_mem_separateParams {q : TegraPinconfParam} (hq : q ∈ separateParams) :
    q ≠ .padPower :=
  fun h => absurd (h ▸ hq) (by decide)

theorem unpackParam_pack_ne_padPower {q : TegraPinconfParam} (hq : q ≠ .padPower) :
    tegraPinconfUnpackParam (tegraPinconfPack q.val 0) ≠ TegraPinconfParam.padPower.val := by
  rwa [tegraPinconfUnpackParam_pack (by decide), Ne, TegraPinconfParam.val_inj]

theorem tegra234_slotsApart :
    ∀ L ∈ tegra234FieldLayouts, separateParams.Pairwise (SlotsApart tegra234Pinctrl L) := by
  decide

/-- On a tegra234 group, two distinct supported parameters of `separateParams` have fields that
share no bit. -/
theorem tegra234_fields_separate {g : TegraPingroup} (hg : g ∈ tegra234Groups)
    {p q : TegraPinconfParam} (hp : p ∈ separateParams) (hq : q ∈ separateParams) (hpq : p ≠ q)
    (hsp : tegraPinconfReg tegra234Pinctrl g p.val = .ok (pinconfLocation tegra234Pinctrl g p))
    (hsq : tegraPinconfReg tegra234Pinctrl g q.val = .ok (pinconfLocation tegra234Pinctrl g q)) :
    (pinconfLocation tegra234Pinctrl g p).Separate (pinconfLocation tegra234Pinctrl g q) := by
  obtain ⟨-, hpr, hpb⟩ := tegraPinconfReg_val_eq_ok.mp hsp
  obtain ⟨-, hqr, hqb⟩ := tegraPinconfReg_val_eq_ok.mp hsq
  by_cases hc : muxPlaced tegra234Pinctrl p = muxPlaced tegra234Pinctrl q
  · -- one register: the layout keeps the two bit ranges apart
    have happ := (tegra234_slotsApart _ (tegra234_pinconfFields_mem g hg)).forall
      (slotsApart_symm _ _) hp hq hpq hc _ (getElem?_pinconfFields tegra234Pinctrl g p) _
      (getElem?_pinconfFields tegra234Pinctrl g q)
    have hwp := (tegra234_pinconfFits g hg p _ hsp).1
    have hwq := (tegra234_pinconfFits g hg q _ hsq).1
    unfold FieldsApart at happ
    unfold PinconfReg.Separate
    omega
  · -- the mux register against the drive register
    have hpad : ∀ r ∈ separateParams, r ≠ .padPower := by decide
    have hrp := (tegra234_regLayout g hg).pinconfLocation_reg tegra234Pinctrl (hpad p hp) hpr
    have hrq := (tegra234_regLayout g hg).pinconfLocation_reg tegra234Pinctrl (hpad q hq) hqr
    refine .inl fun ⟨hb, hr⟩ => ?_
    rw [hb, hr] at hrp
    cases hmp : muxPlaced tegra234Pinctrl p <;> cases hmq : muxPlaced tegra234Pinctrl q <;>
      simp only [hmp, hmq, if_true, if_false, Bool.false_eq_true, not_true_eq_false] at hc hrp hrq
    · exact tegra234_mux_ne_drv hg ((Prod.mk.inj hrp).2 ▸ hqr) (hrq.symm.trans hrp)
    · exact tegra234_mux_ne_drv hg ((Prod.mk.inj hrq).2 ▸ hqr) (hrp.symm.trans hrq)

end TegraPinctrl
