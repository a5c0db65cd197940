import TegraPinctrl.Store

/-! # Releasing a GPIO, in the store

`tegra_pinctrl_gpio_request_enable` keeps the mux register of the pin's group in
`gpio_conf[pin]`, and `tegra_pinctrl_gpio_disable_free` writes that word back. In the store of
`Store` this is one snapshot per pin (`DriverStore`): a request takes the view of the pin's
group (`tegra234_requestEnable_snapshot`), and a release gives back the parameters that live in
the group's mux register (`muxPlaced`), whatever was set on them in between, and leaves the
parameters of the drive register and of every other group as they are (`releaseView`,
`tegra234_disableFree_view`).

With it every call of the driver has an abstract meaning (`driverStep`). The relation
`DriverImplements` adds to `Implements` that the saved word of every pin gives, through the view
of the pin's group, the pin's snapshot. One call keeps it (`tegra234_step_driverImplements`), and
so does every run of described calls, releases and resumes (`tegra234_run_driverImplements`).
Like `Implements`, the store speaks of the parameters of `separateParams` only, which leave out
`PAD_POWER`, `OPEN_DRAIN`, `IO_RESET` and `RCV_SEL`.

Seen from the registers, for every parameter: a pin requested, then any calls but a second
request of it, then released, gives back every parameter that reads the mux register of the
pin's group as it read before the request, and keeps everything else as the calls in between
left it (`tegra234_gpio_release_view`). Besides the parameters `muxPlaced` puts there, that
register holds the `PAD_POWER` bit of every group when the pin is that of
`extperiph2_clk_pp1`, whose mux register is word 0 of bank 0. -/

namespace TegraPinctrl

/-! ## Where a parameter lives -/

/-- The register in which `tegra_pinconf_reg` places `q` on `g` under the `PINGROUP` layout:
the mux register or the drive register, as `muxPlaced` says. -/
def placedReg (soc : TegraPinctrlSocData) (g : TegraPingroup) (q : TegraPinconfParam) :
    Int × Int :=
  if muxPlaced soc q then (g.muxBank, g.muxReg) else (g.drvBank, g.drvReg)

/-- With the `PINGROUP` layout, a parameter other than `PAD_POWER` reads only the register
`placedReg` names. -/
theorem RegLayout.pinView_congr {soc : TegraPinctrlSocData} {g : TegraPingroup}
    (hg : RegLayout g) {q : TegraPinconfParam} (hq : q ≠ .padPower) {regs regs' : RegFile}
    (h : regs' (placedReg soc g q).1 (placedReg soc g q).2 =
      regs (placedReg soc g q).1 (placedReg soc g q).2) :
    pinView soc regs' g q = pinView soc regs g q :=
  tegraPinconfGroupGet_congr fun loc hloc => by
    rw [tegraPinconfUnpackParam_pack (by decide)] at hloc
    obtain ⟨rfl, hreg, -⟩ := tegraPinconfReg_val_eq_ok.mp hloc
    rw [placedReg, ← hg.pinconfLocation_reg soc hq hreg] at h
    exact h

/-- On a tegra234 group, a parameter `muxPlaced` does not put in the mux register lives in
another register. -/
theorem tegra234_placedReg_ne_mux {g : TegraPingroup} (hg : g ∈ tegra234Groups)
    {q : TegraPinconfParam} (hq : muxPlaced tegra234Pinctrl q = false) :
    placedReg tegra234Pinctrl g q ≠ (g.muxBank, g.muxReg) := by
  rw [placedReg, hq, if_neg Bool.false_ne_true]
  by_cases hd : 0 ≤ g.drvReg
  · exact (tegra234_mux_ne_drv hg hd).symm
  · exact fun h => hd ((Prod.mk.inj h).2 ▸ (tegra234_mux_layout g hg).1)

/-- On tegra234, writing the mux register of group `j` leaves the view of every other group as
it was, `PAD_POWER` apart. -/
theorem tegra234_pinView_writel_other {j k : Nat} {g g' : TegraPingroup}
    (hg : tegra234Groups[j]? = some g) (hg' : tegra234Groups[k]? = some g') (hjk : j ≠ k)
    (regs : RegFile) (v : BitVec 32) {q : TegraPinconfParam} (hq : q ≠ .padPower) :
    pinView tegra234Pinctrl (pmxWritel regs v g.muxBank g.muxReg) g' q =
      pinView tegra234Pinctrl regs g' q :=
  tegraPinconfGroupGet_congr fun loc hloc => pmxWritel_apply_of_ne fun hbr =>
    tegra234_ownRegs_disjoint hjk hg hg'
      (mem_ownRegs.mpr ⟨.inl (Prod.ext hbr.1 hbr.2),
        hbr.2 ▸ (tegra234_mux_layout g (List.getElem?_mem hg)).1⟩)
      ((tegra234_regLayout g' (List.getElem?_mem hg')).pinconfWrites_mem
        (unpackParam_pack_ne_padPower hq) ⟨loc, hloc, rfl, rfl⟩)

/-! ## Request and release on the view -/

/-- What releasing a pin is meant to do to the view of the groups `groups`, on the parameters of
`separateParams`: those in the mux register of the pin's group `group` read `snapshot` again,
every other as before. -/
def releaseView (soc : TegraPinctrlSocData) (groups : List TegraPingroup)
    (snapshot : TegraPinconfParam → Except Int Nat) (group : Nat)
    (view : Nat → TegraPinconfParam → Except Int Nat) (k : Nat) (q : TegraPinconfParam) :
    Except Int Nat :=
  if k = group ∧ k < groups.length ∧ muxPlaced soc q then snapshot q else view k q

/-- The snapshot a request takes: on the parameters of `separateParams` in the mux register, the
saved word reads through the view of the pin's group as the group read before the request. -/
theorem tegra234_requestEnable_snapshot {offset : Nat} {pmx pmx' : TegraPmx} {ret : Int}
    (h : tegraPinctrlGpioRequestEnable tegra234Pinctrl pmx offset = some (ret, pmx'))
    {q : TegraPinconfParam} (hq : q ∈ separateParams) (hm : muxPlaced tegra234Pinctrl q = true) :
    groupsView tegra234Pinctrl tegra234Groups (fun _ _ => pmx'.gpioConf offset)
        (gpioGroupScan tegra234Groups offset) q =
      groupsView tegra234Pinctrl tegra234Groups pmx.regs (gpioGroupScan tegra234Groups offset) q := by
  cases hj : tegra234Groups[gpioGroupScan tegra234Groups offset]? with
  | none => rw [groupsView_of_getElem?_none hj, groupsView_of_getElem?_none hj]
  | some g =>
    have hg := List.getElem?_mem hj
    have hsave : tegraPinctrlGpioSaveConfig tegra234Pinctrl pmx offset = _ :=
      tegraPinctrlGpioSaveConfig_of_getElem? hj (tegra234_mux_layout g hg).1
    obtain ⟨regs, rfl, -⟩ := tegraPinctrlGpioRequestEnable_eq_some h
    rw [groupsView_of_getElem? hj, groupsView_of_getElem? hj, hsave]
    refine (tegra234_regLayout g hg).pinView_congr (ne_padPower_of_mem_separateParams hq) ?_
    simp only [placedReg, hm, if_true, Function.update_same]

/-- A release, on the view of every group: as `releaseView` says with the snapshot the pin's
saved word gives, for every parameter of `separateParams`. -/
theorem tegra234_disableFree_view (pmx : TegraPmx) (offset k : Nat) {q : TegraPinconfParam}
    (hq : q ∈ separateParams) :
    groupsView tegra234Pinctrl tegra234Groups
        (tegraPinctrlGpioDisableFree tegra234Pinctrl pmx offset).regs k q =
      releaseView tegra234Pinctrl tegra234Groups
        (groupsView tegra234Pinctrl tegra234Groups (fun _ _ => pmx.gpioConf offset)
          (gpioGroupScan tegra234Groups offset))
        (gpioGroupScan tegra234Groups offset) (groupsView tegra234Pinctrl tegra234Groups pmx.regs)
        k q := by
  have hpad := ne_padPower_of_mem_separateParams hq
  unfold releaseView
  cases hj : tegra234Groups[gpioGroupScan tegra234Groups offset]? with
  | none =>
    -- no group has the pin: the release writes nothing
    have hlen := List.getElem?_eq_none_iff.mp hj
    rw [if_neg fun h => absurd h.2.1 (by omega)]
    simp [tegraPinctrlGpioDisableFree, tegraPinctrlGpioRestoreConfig, hj]
  | some g =>
    have hg := List.getElem?_mem hj
    have hfree : tegraPinctrlGpioDisableFree tegra234Pinctrl pmx offset = _ :=
      tegraPinctrlGpioDisableFree_of_getElem? hj (tegra234_mux_layout g hg).1
    rw [hfree]
    cases hk : tegra234Groups[k]? with
    | none =>
      rw [if_neg fun h => absurd h.2.1 (by simp [List.getElem?_eq_none_iff.mp hk]),
        groupsView_of_getElem?_none hk, groupsView_of_getElem?_none hk]
    | some g' =>
      rw [groupsView_of_getElem? hk, groupsView_of_getElem? hk]
      by_cases hkj : k = gpioGroupScan tegra234Groups offset
      · -- the pin's group: the mux register is the saved word again
        subst hkj
        obtain rfl : g = g' := Option.some.inj (hj.symm.trans hk)
        cases hm : muxPlaced tegra234Pinctrl q
        · rw [if_neg fun h => Bool.false_ne_true h.2.2]
          exact (tegra234_regLayout g hg).pinView_congr hpad
            (pmxWritel_apply_of_ne fun h => tegra234_placedReg_ne_mux hg hm (Prod.ext h.1 h.2))
        · rw [if_pos ⟨rfl, (List.getElem?_eq_some_iff.mp hk).1, rfl⟩, groupsView_of_getElem? hk]
          refine (tegra234_regLayout g hg).pinView_congr hpad ?_
          simp only [placedReg, hm, if_true, pmxWritel_apply_self]
      · -- another group: the mux register of the pin's group is not one of its registers
        rw [if_neg fun h => hkj h.1]
        exact tegra234_pinView_writel_other hj hk (Ne.symm hkj) _ _ hpad

/-! ## The driver store -/

/-- The abstract state of the driver: the configuration store, and for every pin the snapshot
releasing it gives back. -/
structure DriverStore where
  conf : ConfStore
  gpio : Nat → TegraPinconfParam → Except Int Nat

/-- What a call does to the driver store: a request takes the view of the pin's group as the
pin's snapshot, a release gives it back as `releaseView` says, and every other call acts on the
configuration store as `storeStep` says. -/
def driverStep (store : DriverStore) : PmxOp → DriverStore
  | .gpioRequestEnable offset =>
    ⟨storeStep store.conf (.gpioRequestEnable offset),
      Function.update store.gpio offset (store.conf.cur (gpioGroupScan tegra234Groups offset))⟩
  | .gpioDisableFree offset =>
    { store with conf := { store.conf with
      cur := releaseView tegra234Pinctrl tegra234Groups (store.gpio offset)
        (gpioGroupScan tegra234Groups offset) store.conf.cur } }
  | op => { store with conf := storeStep store.conf op }

/-- The driver store the driver state `pmx` holds. -/
def driverStoreOf (pmx : TegraPmx) : DriverStore :=
  ⟨storeOf pmx, fun offset => groupsView tegra234Pinctrl tegra234Groups
    (fun _ _ => pmx.gpioConf offset) (gpioGroupScan tegra234Groups offset)⟩

/-- The driver state `pmx` implements `store`: its registers and backup area as `Implements`
says, and the saved word of every pin gives, through the view of the pin's group, the pin's
snapshot on every parameter of `separateParams` in the mux register. -/
structure DriverImplements (pmx : TegraPmx) (store : DriverStore) : Prop where
  conf : Implements pmx store.conf
  gpio : ∀ offset, ∀ q ∈ separateParams, muxPlaced tegra234Pinctrl q = true →
    groupsView tegra234Pinctrl tegra234Groups (fun _ _ => pmx.gpioConf offset)
      (gpioGroupScan tegra234Groups offset) q = store.gpio offset q

theorem driverImplements_driverStoreOf (pmx : TegraPmx) :
    DriverImplements pmx (driverStoreOf pmx) :=
  ⟨by simpa only [driverStoreOf] using implements_storeOf pmx,
    fun _ _ _ _ => by simp only [driverStoreOf]⟩

/-- A call whose effect `driverStep` describes: a described call, a release or a resume. -/
def PmxOp.Specified : PmxOp → Prop
  | .gpioDisableFree _ | .resume => True
  | op => op.Described

/-! ## Refinement -/

/-- One specified call keeps the simulation relation, on a device whose banks hold the
registers of the tegra234 groups. -/
theorem tegra234_step_driverImplements {pmx pmx' : TegraPmx} {op : PmxOp} {store : DriverStore}
    (hcov : BanksCover pmx.resources) (hop : op.Specified)
    (h : pmxStep tegra234Pinctrl pmx op = some pmx') (hs : DriverImplements pmx store) :
    DriverImplements pmx' (driverStep store op) := by
  -- a call that takes no snapshot and gives none back
  have hconf (hd : op.Described ∨ op = .resume) (hr : ∀ p, op ≠ .gpioRequestEnable p)
      (hstep : driverStep store op = { store with conf := storeStep store.conf op }) :
      DriverImplements pmx' (driverStep store op) := by
    rw [hstep]
    refine ⟨tegra234_step_implements hcov hd h hs.conf, fun p q hq hm => ?_⟩
    rw [(pmxStep_frame h).2.1 p (hr p)]
    exact hs.gpio p q hq hm
  cases op with
  | setMux _ _ | groupSet _ _ | suspend => exact hconf (.inl hop) (fun _ => PmxOp.noConfusion) rfl
  | resume => exact hconf (.inr rfl) (fun _ => PmxOp.noConfusion) rfl
  | gpioRequestEnable offset =>
    obtain ⟨ret, hreq⟩ := pmxStep_gpioRequestEnable h
    refine ⟨tegra234_step_implements hcov
      (.inl (show (PmxOp.gpioRequestEnable offset).Described from trivial)) h hs.conf,
      fun p q hq hm => ?_⟩
    by_cases hp : p = offset
    · -- the pin's own slot: the snapshot of its group
      subst hp
      rw [tegra234_requestEnable_snapshot hreq hq hm, hs.conf.cur _ q hq]
      simp only [driverStep, Function.update_same]
    · rw [tegraPinctrlGpioRequestEnable_gpioConf hreq p hp, hs.gpio p q hq hm]
      simp only [driverStep, Function.update_noteq hp]
  | gpioDisableFree offset =>
    have hfree : pmx' = tegraPinctrlGpioDisableFree tegra234Pinctrl pmx offset :=
      (Option.some.inj h).symm
    rw [hfree]
    refine ⟨⟨fun k q hq => ?_, fun k q hq => ?_⟩, fun p q hq hm => ?_⟩
    · rw [tegra234_disableFree_view pmx offset k hq]
      simp only [driverStep, releaseView]
      split_ifs with hc
      · exact hs.gpio offset q hq hc.2.2
      · exact hs.conf.cur k q hq
    · rw [savedRegs_congr (tegraPinctrlGpioDisableFree_backupRegs _ _ _)
        (tegraPinctrlGpioDisableFree_resources _ _ _)]
      exact hs.conf.saved k q hq
    · rw [tegraPinctrlGpioDisableFree_gpioConf]
      exact hs.gpio p q hq hm

/-- Over any run of described calls, releases and resumes on a device whose banks hold the
registers of the tegra234 groups, the driver implements the driver store. -/
theorem tegra234_run_driverImplements {ops : List PmxOp} (hops : ∀ op ∈ ops, op.Specified)
    {pmx pmx' : TegraPmx} (hcov : BanksCover pmx.resources)
    (h : pmxRun tegra234Pinctrl pmx ops = some pmx') {store : DriverStore}
    (hs : DriverImplements pmx store) :
    DriverImplements pmx' (ops.foldl driverStep store) := by
  induction ops generalizing pmx store with
  | nil =>
    cases h
    exact hs
  | cons op ops ih =>
    obtain ⟨pmx₁, h₁, h⟩ := Option.bind_eq_some.mp h
    exact ih (fun op' hop => hops op' (List.mem_cons_of_mem _ hop)) ((pmxStep_frame h₁).1 ▸ hcov)
      h (tegra234_step_driverImplements hcov (hops op (List.mem_cons_self _ _)) h₁ hs)

set_option maxRecDepth 4000 in
/-- Pin 201 of `touch_clk_pcc4` requested, the group switched to `TOUCH`, the pin released, on
a device with banks of `0x19040` and `0x3060` bytes and all registers 0. -/
theorem tegra234_run_driverImplements_touch_clk :
    let pmx : TegraPmx := ⟨fun _ _ => 0, fun _ => 0, fun _ => 0, [0x19040, 0x3060], []⟩
    let ops := [PmxOp.gpioRequestEnable 201, .setMux TegraMuxDt.touch.toCtorIdx 0,
      .gpioDisableFree 201]
    let pmx' := (pmxRun tegra234Pinctrl pmx ops).getD pmx
    (∀ op ∈ ops, op.Specified) ∧ BanksCover pmx.resources ∧
      pmxRun tegra234Pinctrl pmx ops = some pmx' ∧
      DriverImplements pmx' (ops.foldl driverStep (driverStoreOf pmx)) := by
  intro pmx ops pmx'
  have hops : ∀ op ∈ ops, op.Specified := by
    intro op hop
    simp only [ops, List.mem_cons, List.mem_singleton, List.not_mem_nil, or_false] at hop
    rcases hop with rfl | rfl | rfl
    · trivial
    · exact ⟨_, List.getElem?_eq_getElem (List.length_pos.mpr (List.cons_ne_nil _ _)), fun _ => rfl⟩
    · trivial
  have hcov : BanksCover pmx.resources := tegra234_banksCover (by decide) (by decide) []
  exact ⟨hops, hcov, rfl,
    tegra234_run_driverImplements hops hcov rfl (driverImplements_driverStoreOf pmx)⟩

/-! ## Request, then release -/

/-- Whether `tegra_pinconf_group_get` of `q` on group `k` of `groups` reads the mux register of
group `j`. -/
def readsMux (soc : TegraPinctrlSocData) (groups : List TegraPingroup) (j k : Nat)
    (q : TegraPinconfParam) : Bool :=
  match groups[j]?, groups[k]? with
  | some g, some g' =>
    match tegraPinconfReg soc g' q.val with
    | .ok loc => loc.bank == g.muxBank && loc.reg == g.muxReg
    | .error _ => false
  | _, _ => false

theorem readsMux_of_getElem?_none {soc : TegraPinctrlSocData} {groups : List TegraPingroup}
    {j : Nat} (hj : groups[j]? = none) (k : Nat) (q : TegraPinconfParam) :
    readsMux soc groups j k q = false := by
  simp only [readsMux, hj]

theorem readsMux_of_ok {soc : TegraPinctrlSocData} {groups : List TegraPingroup} {j k : Nat}
    {g g' : TegraPingroup} (hj : groups[j]? = some g) (hk : groups[k]? = some g')
    {q : TegraPinconfParam} {loc : PinconfReg} (hloc : tegraPinconfReg soc g' q.val = .ok loc) :
    readsMux soc groups j k q = (loc.bank == g.muxBank && loc.reg == g.muxReg) := by
  simp only [readsMux, hj, hk, hloc]

/-- Writing back to the mux register of group `j` the word `regs₀` holds there: every parameter
that reads that register reads as in `regs₀`, every other as before the write. -/
theorem groupsView_writel_mux {soc : TegraPinctrlSocData} {groups : List TegraPingroup} {j : Nat}
    {g : TegraPingroup} (hj : groups[j]? = some g) (regs regs₀ : RegFile) (k : Nat)
    (q : TegraPinconfParam) :
    groupsView soc groups (pmxWritel regs (regs₀ g.muxBank g.muxReg) g.muxBank g.muxReg) k q =
      if readsMux soc groups j k q then groupsView soc groups regs₀ k q
      else groupsView soc groups regs k q := by
  cases hk : groups[k]? with
  | none => simp only [groupsView_of_getElem?_none hk, ite_self]
  | some g' =>
    simp only [groupsView_of_getElem? hk]
    cases hloc : tegraPinconfReg soc g' q.val with
    | error e => split <;> exact pinView_congr_of_error hloc _
    | ok loc =>
      rw [readsMux_of_ok hj hk hloc]
      by_cases hm : loc.bank = g.muxBank ∧ loc.reg = g.muxReg
      · -- a parameter of that register: the word is back
        rw [if_pos (by simp [hm])]
        refine pinView_congr_of_ok hloc ?_
        rw [hm.1, hm.2, pmxWritel_apply_self]
      · rw [if_neg (by simpa using hm)]
        exact pinView_congr_of_ok hloc (pmxWritel_apply_of_ne hm)

/-- A pin requested, then any calls but a second request of it, then released: every parameter
of every group that reads the mux register of the pin's group reads as before the request, and
every other parameter as the calls in between left it. -/
theorem tegra234_gpio_release_view {p : Nat} {ops : List PmxOp}
    (hops : PmxOp.gpioRequestEnable p ∉ ops) {pmx pmx' : TegraPmx}
    (h : pmxRun tegra234Pinctrl pmx (.gpioRequestEnable p :: ops ++ [.gpioDisableFree p]) =
      some pmx') :
    ∃ pmx₁, pmxRun tegra234Pinctrl pmx (.gpioRequestEnable p :: ops) = some pmx₁ ∧
      ∀ k q, groupsView tegra234Pinctrl tegra234Groups pmx'.regs k q =
        if readsMux tegra234Pinctrl tegra234Groups (gpioGroupScan tegra234Groups p) k q then
          groupsView tegra234Pinctrl tegra234Groups pmx.regs k q
        else groupsView tegra234Pinctrl tegra234Groups pmx₁.regs k q := by
  rw [pmxRun_append] at h
  obtain ⟨pmx₁, h₁, h⟩ := Option.bind_eq_some.mp h
  obtain ⟨pmx₀, h₀, hrun⟩ := Option.bind_eq_some.mp h₁
  obtain ⟨ret, hreq⟩ := pmxStep_gpioRequestEnable h₀
  have hfree : pmx' = tegraPinctrlGpioDisableFree tegra234Pinctrl pmx₁ p :=
    (Option.some.inj h).symm
  rw [hfree]
  refine ⟨pmx₁, h₁, fun k q => ?_⟩
  cases hj : tegra234Groups[gpioGroupScan tegra234Groups p]? with
  | none =>
    -- no group has the pin: the release writes nothing
    have hregs : (tegraPinctrlGpioDisableFree tegra234Pinctrl pmx₁ p).regs = pmx₁.regs :=
      funext₂ fun _ _ => tegraPinctrlGpioDisableFree_apply_of_ne fun _ hg => nomatch hj.symm.trans hg
    rw [readsMux_of_getElem?_none hj, hregs, if_neg Bool.false_ne_true]
  | some g =>
    -- the release writes back the word the request saved, which no call in between touched
    have hmux := (tegra234_mux_layout g (List.getElem?_mem hj)).1
    have hsaved : pmx₁.gpioConf p = pmx.regs g.muxBank g.muxReg :=
      ((pmxRun_frame hrun).2.1 p hops).trans (tegraPinctrlGpioRequestEnable_gpioConf_self hreq hj hmux)
    have hfree : tegraPinctrlGpioDisableFree tegra234Pinctrl pmx₁ p = _ :=
      tegraPinctrlGpioDisableFree_of_getElem? hj hmux
    rw [hfree, hsaved]
    exact groupsView_writel_mux hj _ _ k q

set_option maxRecDepth 4000 in
/-- Pin 93 of `extperiph2_clk_pp1` requested, `PAD_POWER` of `touch_clk_pcc4` set to 0, the pin
released, all registers 0. The mux register of `extperiph2_clk_pp1` holds the `PAD_POWER` bit
of every group, so the release gives `touch_clk_pcc4` back the `PAD_POWER` it read before the
request. -/
theorem tegra234_gpio_release_view_extperiph2 :
    let pmx : TegraPmx := ⟨fun _ _ => 0, fun _ => 0, fun _ => 0, [0x4000], []⟩
    let ops := [PmxOp.groupSet 0 [tegraPinconfPack TegraPinconfParam.padPower.val 0]]
    let pmx' := (pmxRun tegra234Pinctrl pmx (.gpioRequestEnable 93 :: ops ++
      [.gpioDisableFree 93])).getD pmx
    PmxOp.gpioRequestEnable 93 ∉ ops ∧
    pmxRun tegra234Pinctrl pmx (.gpioRequestEnable 93 :: ops ++ [.gpioDisableFree 93]) =
      some pmx' ∧
    readsMux tegra234Pinctrl tegra234Groups (gpioGroupScan tegra234Groups 93) 0 .padPower ∧
    ∃ pmx₁, pmxRun tegra234Pinctrl pmx (.gpioRequestEnable 93 :: ops) = some pmx₁ ∧
      ∀ k q, groupsView tegra234Pinctrl tegra234Groups pmx'.regs k q =
        if readsMux tegra234Pinctrl tegra234Groups (gpioGroupScan tegra234Groups 93) k q then
          groupsView tegra234Pinctrl tegra234Groups pmx.regs k q
        else groupsView tegra234Pinctrl tegra234Groups pmx₁.regs k q :=
  ⟨by decide, rfl, rfl, tegra234_gpio_release_view (by decide) rfl⟩

end TegraPinctrl
