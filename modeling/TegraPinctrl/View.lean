import TegraPinctrl.Isolation

/-! # The configuration the pin-control core reads back

The pin-control core reads a group's configuration through `tegra_pinconf_group_get`. `pinView`
is that reading for each parameter: the abstract state the registers implement, one value (or
`-ENOTSUPP`) per group and parameter. On tegra234 the driver's calls act on it as they are meant
to, for the parameters of `separateParams`:

* `tegra_pinconf_group_set` goes through its configurations as `groupSetView` says: one the group
  accepts (`viewAccepts`: a field for the parameter, an argument that fits it, no clearing of a
  `LOCK` that reads 1) sets its parameter and no other, and the first one with an unknown
  parameter or that the group rejects ends the call (`tegra234_groupSet_pinView`); the view of
  every other group stays as it was (`tegra234_groupSet_view_other`);
* `tegra_pinctrl_set_mux` sets `FUNCTION` to the slot of the function it selects and no other
  parameter (`tegra234_setMux_refines`), and changes nothing for a function the group does not
  offer;
* `tegra_pinctrl_gpio_request_enable` changes no parameter of any group: it clears at most the
  SFIO-select bit of a mux register, which no such field covers (`tegra234_gpioRequest_view`).

`viewStep` is that meaning of a call, on the view of the whole table, and every such call of the
driver implements it (`tegra234_step_refines`); `Store` carries this over whole runs. -/

namespace TegraPinctrl

/-- What `tegra_pinconf_group_get` reports for parameter `p` of group `g` in `regs`. -/
def pinView (soc : TegraPinctrlSocData) (regs : RegFile) (g : TegraPingroup)
    (p : TegraPinconfParam) : Except Int Nat :=
  tegraPinconfGroupGet soc regs g (tegraPinconfPack p.val 0)

/-- The argument a field of `width` bits reads back after it is set to `a`: `a`, made boolean in
a 1-bit field. -/
def storedArg (width : Int) (a : Nat) : Nat := if width = 1 then (if a = 0 then 0 else 1) else a

/-- A packed configuration read back as a parameter and its argument, if its parameter value
names one. -/
def decodeConfig (config : Nat) : Option (TegraPinconfParam × Nat) :=
  (TegraPinconfParam.ofNat? (tegraPinconfUnpackParam config)).map
    fun p => (p, tegraPinconfUnpackArg config)

theorem decodeConfig_pack (p : TegraPinconfParam) {a : Nat} (ha : a < 2 ^ 16) :
    decodeConfig (tegraPinconfPack p.val a) = some (p, a) := by
  simp [decodeConfig, tegraPinconfUnpackParam_pack ha, tegraPinconfUnpackArg_pack ha]

/-- A configuration that decodes to `c` is `PACK(c)`, with an argument of 16 bits. -/
theorem eq_pack_of_decodeConfig {config : Nat} {c : TegraPinconfParam × Nat}
    (h : decodeConfig config = some c) : config = tegraPinconfPack c.1.val c.2 ∧ c.2 < 2 ^ 16 := by
  obtain ⟨p, hp, rfl⟩ := Option.map_eq_some'.mp h
  exact ⟨by rw [TegraPinconfParam.eq_of_ofNat?_eq_some hp, tegraPinconfPack_unpack],
    tegraPinconfUnpackArg_lt config⟩

/-- A configuration whose parameter is unknown, or in `separateParams`, is no `PAD_POWER`. -/
theorem unpackParam_ne_padPower_of_decodeConfig {config : Nat}
    (h : ∀ c ∈ decodeConfig config, c.1 ∈ separateParams) :
    tegraPinconfUnpackParam config ≠ TegraPinconfParam.padPower.val := fun heq =>
  absurd (h (.padPower, tegraPinconfUnpackArg config) (by simp [decodeConfig, heq]))
    (show TegraPinconfParam.padPower ∉ separateParams by decide)

/-- Whether `tegra_pinconf_group_set` accepts `c` on `g` while the group reads `view`: the
parameter has a field on `g`, the argument fits it (any argument does in a 1-bit field), and it
does not clear a `LOCK` that reads 1. -/
def viewAccepts (soc : TegraPinctrlSocData) (g : TegraPingroup)
    (view : TegraPinconfParam → Except Int Nat) (c : TegraPinconfParam × Nat) : Bool :=
  let loc := pinconfLocation soc g c.1
  decide (0 ≤ loc.reg ∧ 0 ≤ loc.bit) && decide (loc.width = 1 ∨ c.2 < 2 ^ loc.width.toNat) &&
    !decide (c.1 = .lock ∧
      (view .lock).toOption = some (tegraPinconfPack TegraPinconfParam.lock.val 1) ∧ c.2 = 0)

/-- What `tegra_pinconf_group_set` with `configs` is meant to do to the view of its group `g`:
set the parameter of each configuration in turn to its argument as its field stores it, and stop
at the first configuration whose parameter is unknown or that the group does not accept. -/
def groupSetView (soc : TegraPinctrlSocData) (g : TegraPingroup) :
    List Nat → (TegraPinconfParam → Except Int Nat) → TegraPinconfParam → Except Int Nat
  | [], view => view
  | config :: configs, view =>
    match decodeConfig config with
    | some c =>
      if viewAccepts soc g view c then
        groupSetView soc g configs (Function.update view c.1
          (.ok (tegraPinconfPack c.1.val (storedArg (pinconfLocation soc g c.1).width c.2))))
      else view
    | none => view

section GroupSetView

variable {soc : TegraPinctrlSocData} {g : TegraPingroup}

theorem viewAccepts_congr {view view' : TegraPinconfParam → Except Int Nat}
    (h : view .lock = view' .lock) (c : TegraPinconfParam × Nat) :
    viewAccepts soc g view c = viewAccepts soc g view' c := by
  simp only [viewAccepts, h]

/-- Over configurations of unknown or separate parameters, `groupSetView` reads a view only at
`separateParams`. -/
theorem groupSetView_congr {configs : List Nat}
    (hcfg : ∀ config ∈ configs, ∀ c ∈ decodeConfig config, c.1 ∈ separateParams)
    {view view' : TegraPinconfParam → Except Int Nat}
    (h : ∀ q ∈ separateParams, view q = view' q) :
    ∀ q ∈ separateParams, groupSetView soc g configs view q = groupSetView soc g configs view' q := by
  induction configs generalizing view view' with
  | nil => exact h
  | cons config configs ih =>
    intro q hq
    cases hdec : decodeConfig config with
    | none => simpa only [groupSetView, hdec] using h q hq
    | some c =>
      simp only [groupSetView, hdec, viewAccepts_congr (h .lock (by decide)) c]
      split
      · exact ih (fun config' h' => hcfg config' (List.mem_cons_of_mem _ h'))
          (fun q' hq' => by simp only [Function.update_apply, h q' hq']) q hq
      · exact h q hq

/-- A supported `LOCK` reads 1 exactly when its bit is set. -/
theorem pinView_lock_eq_one_iff {regs : RegFile} {loc : PinconfReg}
    (hloc : tegraPinconfReg soc g TegraPinconfParam.lock.val = .ok loc) :
    (pinView soc regs g .lock).toOption = some (tegraPinconfPack TegraPinconfParam.lock.val 1) ↔
      (regs loc.bank loc.reg).getLsbD loc.bit.toNat = true := by
  obtain ⟨rfl, -, -⟩ := tegraPinconfReg_val_eq_ok.mp hloc
  have hread := readField_one_toNat (regs (pinconfLocation soc g .lock).bank
    (pinconfLocation soc g .lock).reg) (pinconfLocation soc g .lock).bit.toNat
  simp only [pinView, tegraPinconfGroupGet, tegraPinconfUnpackParam_pack (show 0 < 2 ^ 16 by decide),
    hloc, bind, Except.bind, pure, Except.pure, pmxReadl, pinconfLocation_lock_width,
    show (1 : Int).toNat = 1 from rfl, hread, Except.toOption, Option.some.injEq,
    if_neg (show TegraPinconfParam.lock.val ≠ TegraPinconfParam.padPower.val by decide)]
  cases (regs (pinconfLocation soc g .lock).bank (pinconfLocation soc g .lock).reg).getLsbD
      (pinconfLocation soc g .lock).bit.toNat
  · -- the bit is clear: the lock reads 0
    simp only [Bool.false_eq_true, if_false, Nat.zero_mod, iff_false]
    intro h
    have := congrArg tegraPinconfUnpackArg h
    rw [tegraPinconfUnpackArg_pack (by decide), tegraPinconfUnpackArg_pack (by decide)] at this
    exact absurd this (by decide)
  · simp

/-- `tegra_pinconf_group_set` accepts `PACK(p, a)` exactly when `viewAccepts` says so of the
view the registers give. -/
theorem not_pinconfRejected_iff_viewAccepts {regs : RegFile} {p : TegraPinconfParam} {a : Nat}
    (hp : p ≠ .padPower) (ha : a < 2 ^ 16) :
    ¬ PinconfRejected soc g regs (tegraPinconfPack p.val a) ↔
      viewAccepts soc g (pinView soc regs g) (p, a) = true := by
  cases hloc : tegraPinconfReg soc g p.val with
  | error e =>
    -- no field: rejected, and `viewAccepts` finds none
    have hnone : ¬(0 ≤ (pinconfLocation soc g p).reg ∧ 0 ≤ (pinconfLocation soc g p).bit) :=
      fun h => by rw [tegraPinconfReg_val_eq_ok.mpr ⟨rfl, h.1, h.2⟩] at hloc; cases hloc
    simp [PinconfRejected, tegraPinconfUnpackParam_pack ha, hloc, viewAccepts, hnone]
  | ok loc =>
    obtain ⟨hq, hreg, hbit⟩ := tegraPinconfReg_val_eq_ok.mp hloc
    rw [not_pinconfRejected_pack_iff hloc regs ha]
    subst hq
    simp only [viewAccepts, hreg, hbit, and_self, decide_True, Bool.true_and, Bool.and_eq_true,
      decide_eq_true_eq, Bool.not_eq_true', decide_eq_false_iff_not]
    refine and_congr_right fun _ => not_congr ⟨?_, ?_⟩
    · rintro ⟨rfl, hb, rfl⟩
      exact ⟨rfl, (pinView_lock_eq_one_iff hloc).mpr hb, rfl⟩
    · rintro ⟨rfl, hv, rfl⟩
      exact ⟨rfl, (pinView_lock_eq_one_iff hloc).mp hv, rfl⟩

end GroupSetView

/-- On tegra234, `tegra_pinconf_group_set` on group `j` with no `PAD_POWER` configuration leaves
the view of every other group as it was, `PAD_POWER` apart. -/
theorem tegra234_groupSet_view_other {j k : Nat} {g g' : TegraPingroup}
    (hg : tegra234Groups[j]? = some g) (hg' : tegra234Groups[k]? = some g') (hjk : j ≠ k)
    {configs : List Nat}
    (hpad : ∀ c ∈ configs, tegraPinconfUnpackParam c ≠ TegraPinconfParam.padPower.val)
    (regs : RegFile) {q : TegraPinconfParam} (hq : q ≠ .padPower) :
    pinView tegra234Pinctrl (tegraPinconfGroupSet tegra234Pinctrl g configs regs).2 g' q =
      pinView tegra234Pinctrl regs g' q := by
  refine tegraPinconfGroupGet_congr fun loc hloc =>
    tegraPinconfGroupSet_apply_of_not_writes _ _ (fun c hc hw => ?_) regs
  have hx := (tegra234_regLayout g' (List.getElem?_mem hg')).pinconfWrites_mem
    (unpackParam_pack_ne_padPower hq) ⟨loc, hloc, rfl, rfl⟩
  exact tegra234_not_writes_of_avoids hg'
    (show (PmxOp.groupSet j configs).Avoids tegra234Pinctrl k from ⟨hjk, hpad⟩) [] hx
    ⟨g, hg, c, hc, hw⟩

/-- No field of a parameter of `separateParams` covers bit 10, the SFIO-select bit that
`tegra_pinctrl_set_mux` sets on the tegra234 groups. -/
theorem tegra234_fields_apart_sfsel :
    ∀ L ∈ tegra234FieldLayouts, ∀ q ∈ separateParams, ∀ f ∈ L[q.val]?, FieldsApart f (10, 1) := by
  decide

/-- On a tegra234 group, a parameter of `separateParams` reads only bits of the group's own
registers, and never bit 10 of its mux register. -/
theorem tegra234_pinView_congr {g : TegraPingroup} (hg : g ∈ tegra234Groups)
    {q : TegraPinconfParam} (hq : q ∈ separateParams) {regs regs' : RegFile}
    (h : ∀ b r j, (b, r) ∈ ownRegs g → ¬(b = g.muxBank ∧ r = g.muxReg ∧ j = 10) →
      (regs' b r).getLsbD j = (regs b r).getLsbD j) :
    pinView tegra234Pinctrl regs' g q = pinView tegra234Pinctrl regs g q := by
  have hparam : tegraPinconfUnpackParam (tegraPinconfPack q.val 0) = q.val :=
    tegraPinconfUnpackParam_pack (by decide)
  cases hloc : tegraPinconfReg tegra234Pinctrl g q.val with
  | error e => exact tegraPinconfGroupGet_of_error (hparam ▸ hloc) _ _
  | ok loc =>
    have hown := (tegra234_regLayout g hg).pinconfWrites_mem
      (unpackParam_pack_ne_padPower (ne_padPower_of_mem_separateParams hq))
      ⟨loc, hparam ▸ hloc, rfl, rfl⟩
    obtain ⟨rfl, -, hbit⟩ := tegraPinconfReg_val_eq_ok.mp hloc
    refine tegraPinconfGroupGet_congr_field (tegra234_pinconfFits g hg) hloc hparam
      fun j hj => h _ _ _ hown ?_
    rintro ⟨-, -, rfl⟩
    have hsf10 := tegra234_fields_apart_sfsel _ (tegra234_pinconfFields_mem g hg) q hq _
      (getElem?_pinconfFields tegra234Pinctrl g q)
    obtain ⟨-, -, hj₁, hj₂⟩ := hj
    unfold FieldsApart at hsf10
    omega

/-- On tegra234, selecting function slot `i` of a group through `tegra_pinctrl_set_mux` makes the
group's `FUNCTION` read `i` and leaves every other parameter of `separateParams` reading as it
did. -/
theorem tegra234_setMux_refines {g : TegraPingroup} (hg : g ∈ tegra234Groups)
    (hsf : g.sfselBit = 10) {i : Nat} (hi : i < g.funcs.length) (regs : RegFile) :
    ∃ regs', tegraPinctrlSetMux tegra234Pinctrl g.funcs[i] g regs = some (0, regs') ∧
      pinView tegra234Pinctrl regs' g .function =
        .ok (tegraPinconfPack TegraPinconfParam.function.val i) ∧
      ∀ q ∈ separateParams, q ≠ .function →
        pinView tegra234Pinctrl regs' g q = pinView tegra234Pinctrl regs g q := by
  obtain ⟨hreg, hbit, -⟩ := tegra234_mux_layout g hg
  have hvalid : MuxShiftsValid tegra234Pinctrl g := ⟨by omega, by omega, fun _ => by omega⟩
  obtain ⟨regs', hset, hget⟩ := tegra234_setMux_groupGet_slot hg hsf hi regs
  refine ⟨regs', hset, hget, fun q hq hqf => ?_⟩
  have hregs' : regs' = pmxWritel regs (muxSelectValue tegra234Pinctrl g
      (regs g.muxBank g.muxReg) i) g.muxBank g.muxReg := by
    have hslot : g.funcs.findIdx (· == g.funcs[i]) = i :=
      List.indexOf_getElem (tegra234_funcs_nodup g hg) i hi
    rw [tegraPinctrlSetMux_spec hvalid, if_neg (by simp [List.getElem_mem, Int.not_lt.mpr hreg]),
      hslot] at hset
    exact (Prod.mk.inj (Option.some.inj hset)).2.symm
  have hparam : tegraPinconfUnpackParam (tegraPinconfPack q.val 0) = q.val :=
    tegraPinconfUnpackParam_pack (by decide)
  cases hloc : tegraPinconfReg tegra234Pinctrl g q.val with
  | error e => exact tegraPinconfGroupGet_of_error (hparam ▸ hloc) _ _
  | ok loc =>
    obtain ⟨rfl, -, -⟩ := tegraPinconfReg_val_eq_ok.mp hloc
    refine tegraPinconfGroupGet_congr_field (tegra234_pinconfFits g hg) hloc hparam
      fun j hj => ?_
    obtain ⟨-, -, hj₁, hj₂⟩ := hj
    by_cases hm : (pinconfLocation tegra234Pinctrl g q).bank = g.muxBank ∧
      (pinconfLocation tegra234Pinctrl g q).reg = g.muxReg
    · -- in the mux register: the field misses the mux field and the SFIO-select bit
      have hfunc : tegraPinconfReg tegra234Pinctrl g TegraPinconfParam.function.val =
          .ok (pinconfLocation tegra234Pinctrl g .function) :=
        tegraPinconfReg_val_eq_ok.mpr ⟨rfl, hreg, by simp [pinconfLocation, hbit]⟩
      have hsep := tegra234_fields_separate hg hq (by decide) hqf hloc hfunc
      have hsf10 := tegra234_fields_apart_sfsel _ (tegra234_pinconfFields_mem g hg) q hq _
        (getElem?_pinconfFields tegra234Pinctrl g q)
      rw [show pinconfLocation tegra234Pinctrl g .function = ⟨g.muxBank, g.muxReg, g.muxBit, 2⟩
        from rfl, hbit] at hsep
      simp only [PinconfReg.Separate, hm, and_self, not_true_eq_false, false_or] at hsep
      unfold FieldsApart at hsf10
      rw [hregs', hm.1, hm.2, pmxWritel_apply_self,
        getLsbD_muxSelectValue (by simp [hbit]) (fun _ => by simp [hbit, hsf])
          (g.funcs_length ▸ hi), if_neg (by omega), if_neg (by simp [hsf]; omega)]
    · rw [hregs', pmxWritel_apply_of_ne hm]

/-- On tegra234, a GPIO request changes no parameter of `separateParams` on any group: it clears
at most bit 10, the SFIO-select bit, of the mux register of the pin's group. -/
theorem tegra234_gpioRequest_view {offset : Nat} {pmx pmx' : TegraPmx} {ret : Int}
    (h : tegraPinctrlGpioRequestEnable tegra234Pinctrl pmx offset = some (ret, pmx')) {k : Nat}
    {g' : TegraPingroup} (hk : tegra234Groups[k]? = some g') {q : TegraPinconfParam}
    (hq : q ∈ separateParams) :
    pinView tegra234Pinctrl pmx'.regs g' q = pinView tegra234Pinctrl pmx.regs g' q := by
  rcases tegraPinctrlGpioRequestEnable_regs h with heq | ⟨g, hg, hsf0, -, heq⟩
  · rw [heq]
  rw [tegra234Pinctrl_groups] at hg
  have hsf : g.sfselBit = 10 :=
    (tegra234_mux_layout g (List.getElem?_mem hg)).2.2.resolve_right (by omega)
  refine tegra234_pinView_congr (List.getElem?_mem hk) hq fun b r j hown hj => ?_
  rw [heq]
  by_cases hbr : b = g.muxBank ∧ r = g.muxReg
  · by_cases hik : gpioGroupScan tegra234Groups offset = k
    · -- the pin's own group: only the SFIO-select bit changes
      obtain rfl : g = g' := Option.some.inj ((hik ▸ hg).symm.trans hk)
      have hj10 : j ≠ 10 := fun h => hj ⟨hbr.1, hbr.2, h⟩
      rw [hbr.1, hbr.2, pmxWritel_apply_self, BitVec.getLsbD_and, BitVec.getLsbD_not,
        getLsbD_one_shiftLeft, hsf]
      by_cases hj32 : j < 32
      · simp [hj10, hj32]
      · simp [hj32, BitVec.getLsbD_ge _ _ (Nat.le_of_not_lt hj32)]
    · -- another group: the mux register of the pin's group is not one of its registers
      exact (tegra234_ownRegs_disjoint hik hg hk
        (mem_ownRegs.mpr ⟨.inl (Prod.ext hbr.1 hbr.2), (mem_ownRegs.mp hown).2⟩) hown).elim
  · rw [pmxWritel_apply_of_ne hbr]

/-! ## Group set, one configuration at a time -/

/-- On tegra234, an accepted configuration of a parameter of `separateParams` makes it read its
argument as its field stores it, and leaves every other parameter of `separateParams` reading as
before. -/
theorem tegra234_pinView_pinconfWrite {g : TegraPingroup} (hg : g ∈ tegra234Groups)
    {p : TegraPinconfParam} (hp : p ∈ separateParams) {a : Nat} (ha : a < 2 ^ 16) {regs : RegFile}
    (hacc : ¬ PinconfRejected tegra234Pinctrl g regs (tegraPinconfPack p.val a))
    {q : TegraPinconfParam} (hq : q ∈ separateParams) :
    pinView tegra234Pinctrl (pinconfWrite tegra234Pinctrl g regs (tegraPinconfPack p.val a)) g q =
      Function.update (pinView tegra234Pinctrl regs g) p
        (.ok (tegraPinconfPack p.val (storedArg (pinconfLocation tegra234Pinctrl g p).width a))) q := by
  have hfits := tegra234_pinconfFits g hg
  have hparam : tegraPinconfUnpackParam (tegraPinconfPack q.val 0) = q.val :=
    tegraPinconfUnpackParam_pack (by decide)
  have hloc := tegraPinconfReg_of_not_rejected ha hacc
  obtain ⟨hw, hlock⟩ := (not_pinconfRejected_pack_iff hloc regs ha).mp hacc
  rcases eq_or_ne q p with rfl | hqp
  · -- the parameter set reads back its argument
    rw [Function.update_same]
    exact (pinconfWrite_pack hfits hloc regs ha hacc).2.2 _ hparam
  · -- any other: its field is apart from the one written
    rw [Function.update_noteq hqp]
    cases hlq : tegraPinconfReg tegra234Pinctrl g q.val with
    | error e => exact tegraPinconfGroupGet_of_error (hparam ▸ hlq) _ _
    | ok locq =>
      obtain ⟨rfl, -, -⟩ := tegraPinconfReg_val_eq_ok.mp hlq
      exact tegraPinconfGroupGet_congr_field hfits hlq hparam fun i hi =>
        pinconfWrite_pack_frame hfits
          (show PinconfApplies tegra234Pinctrl g regs (p, a) from ⟨hloc, ha, hw, hlock⟩) _ _ i
          ((tegra234_fields_separate hg hq hp hqp hlq hloc).not_covers hi)

/-- On tegra234, `tegra_pinconf_group_set` with configurations whose parameters are unknown or
in `separateParams` changes the view of its group as `groupSetView` says, for every parameter of
`separateParams`, from any view that the registers give there. -/
theorem tegra234_groupSet_pinView {g : TegraPingroup} (hg : g ∈ tegra234Groups)
    {configs : List Nat}
    (hcfg : ∀ config ∈ configs, ∀ c ∈ decodeConfig config, c.1 ∈ separateParams) (regs : RegFile)
    {view : TegraPinconfParam → Except Int Nat}
    (hview : ∀ q ∈ separateParams, pinView tegra234Pinctrl regs g q = view q) :
    ∀ q ∈ separateParams,
      pinView tegra234Pinctrl (tegraPinconfGroupSet tegra234Pinctrl g configs regs).2 g q =
        groupSetView tegra234Pinctrl g configs view q := by
  induction configs generalizing regs view with
  | nil => exact hview
  | cons config configs ih =>
    have hcfg' := fun config' h => hcfg config' (List.mem_cons_of_mem _ h)
    -- a configuration that ends the call leaves the registers as they are
    have hstop (e : Int) (hset : tegraPinconfGroupSetOne tegra234Pinctrl g config regs = .error e) :
        (tegraPinconfGroupSet tegra234Pinctrl g (config :: configs) regs).2 = regs := by
      simp only [tegraPinconfGroupSet, hset]
    cases hdec : decodeConfig config with
    | none =>
      -- an unknown parameter
      have hreg : tegraPinconfReg tegra234Pinctrl g (tegraPinconfUnpackParam config) =
          .error (-ENOTSUPP) := by
        simp [tegraPinconfReg, Option.map_eq_none'.mp hdec]
      rw [hstop (-ENOTSUPP) (by simp only [tegraPinconfGroupSetOne, hreg, bind, Except.bind])]
      simpa only [groupSetView, hdec] using hview
    | some c =>
      obtain ⟨rfl, ha⟩ := eq_pack_of_decodeConfig hdec
      have hp := hcfg _ (List.mem_cons_self _ _) c hdec
      have hacc_iff := (not_pinconfRejected_iff_viewAccepts (ne_padPower_of_mem_separateParams hp)
        ha).trans (Eq.congr_left (viewAccepts_congr (hview .lock (by decide)) c))
      rcases tegraPinconfGroupSetOne_spec tegra234Pinctrl g (tegraPinconfPack c.1.val c.2) regs with
        ⟨hrej, e, -, hset⟩ | ⟨hacc, hset⟩
      · -- rejected: the call ends
        have hna : viewAccepts tegra234Pinctrl g view c = false :=
          Bool.eq_false_iff.mpr fun h => hacc_iff.mpr h hrej
        rw [hstop e hset]
        simpa only [groupSetView, hdec, hna, Bool.false_eq_true, if_false] using hview
      · -- accepted: one parameter moves, then the rest of the loop
        simp only [tegraPinconfGroupSet, hset, groupSetView, hdec, hacc_iff.mp hacc, if_true]
        refine ih hcfg' _ fun q hq => ?_
        simp only [tegra234_pinView_pinconfWrite hg hp ha hacc hq, Function.update_apply, hview q hq]

/-! ## Whole runs -/

/-- The view of every group of the table `groups`, by index; an index past the table reads
`-EINVAL`. -/
def groupsView (soc : TegraPinctrlSocData) (groups : List TegraPingroup) (regs : RegFile) (k : Nat)
    (q : TegraPinconfParam) : Except Int Nat :=
  match groups[k]? with
  | some g => pinView soc regs g q
  | none => .error (-EINVAL)

/-- What a call is meant to do to the view of the groups `groups`: `set_mux` moves the group's
`FUNCTION` to the first slot holding the function, if the group offers it; `group_set` acts on its
group as `groupSetView` says; any other call leaves the view alone. The driver follows it on the
parameters of `separateParams` (`tegra234_step_refines`). The other four read bits that other
fields, or other groups, share, and a call changes them where `viewStep` says nothing
changes. -/
def viewStep (soc : TegraPinctrlSocData) (groups : List TegraPingroup)
    (view : Nat → TegraPinconfParam → Except Int Nat) (op : PmxOp) (k : Nat)
    (q : TegraPinconfParam) : Except Int Nat :=
  match op, groups[k]? with
  | .setMux function group, some g =>
    if k = group ∧ q = .function ∧ function ∈ g.funcs then
      .ok (tegraPinconfPack TegraPinconfParam.function.val (g.funcs.findIdx (· == function)))
    else view k q
  | .groupSet group configs, some g =>
    if k = group then groupSetView soc g configs (view k) q else view k q
  | _, _ => view k q

section ViewLemmas

variable {soc : TegraPinctrlSocData} {groups : List TegraPingroup} {regs : RegFile}
  {view : Nat → TegraPinconfParam → Except Int Nat} {k : Nat} {q : TegraPinconfParam}

theorem groupsView_of_getElem? {g : TegraPingroup} (hk : groups[k]? = some g) :
    groupsView soc groups regs k q = pinView soc regs g q := by
  simp only [groupsView, hk]

theorem groupsView_of_getElem?_none (hk : groups[k]? = none) :
    groupsView soc groups regs k q = .error (-EINVAL) := by
  simp only [groupsView, hk]

theorem viewStep_of_getElem?_none (hk : groups[k]? = none) (op : PmxOp) :
    viewStep soc groups view op k q = view k q := by
  cases op <;> simp only [viewStep, hk]

theorem viewStep_setMux {g : TegraPingroup} (hk : groups[k]? = some g) (function group : Nat) :
    viewStep soc groups view (.setMux function group) k q =
      if k = group ∧ q = .function ∧ function ∈ g.funcs then
        .ok (tegraPinconfPack TegraPinconfParam.function.val (g.funcs.findIdx (· == function)))
      else view k q := by
  simp only [viewStep, hk]

/-- Selecting a function the group does not offer changes no view. -/
theorem viewStep_setMux_of_not_mem {group function : Nat} {g : TegraPingroup}
    (hg : groups[group]? = some g) (hf : function ∉ g.funcs) :
    viewStep soc groups view (.setMux function group) k q = view k q := by
  cases hk : groups[k]? with
  | none => exact viewStep_of_getElem?_none hk _
  | some g' =>
    rw [viewStep_setMux hk, if_neg]
    rintro ⟨rfl, -, hmem⟩
    exact hf (Option.some.inj (hg.symm.trans hk) ▸ hmem)

theorem viewStep_groupSet {g : TegraPingroup} (hk : groups[k]? = some g) (group : Nat)
    (configs : List Nat) :
    viewStep soc groups view (.groupSet group configs) k q =
      if k = group then groupSetView soc g configs (view k) q else view k q := by
  simp only [viewStep, hk]

theorem viewStep_gpioRequestEnable (offset : Nat) :
    viewStep soc groups view (.gpioRequestEnable offset) k q = view k q := by
  cases hk : groups[k]? <;> simp only [viewStep, hk]

theorem viewStep_suspend : viewStep soc groups view .suspend k q = view k q := by
  cases hk : groups[k]? <;> simp only [viewStep, hk]

theorem groupsView_congr {regs' : RegFile}
    (h : ∀ (j : Nat) (g : TegraPingroup), groups[j]? = some g →
      pinView soc regs' g q = pinView soc regs g q) :
    groupsView soc groups regs' k q = groupsView soc groups regs k q := by
  cases hk : groups[k]? with
  | none => rw [groupsView_of_getElem?_none hk, groupsView_of_getElem?_none hk]
  | some g => rw [groupsView_of_getElem? hk, groupsView_of_getElem? hk, h k g hk]

/-- The view of `q` on `g` reads the one register `tegra_pinconf_reg` names for `q`. -/
theorem pinView_congr_of_ok {g : TegraPingroup} {loc : PinconfReg} {regs' : RegFile}
    (hloc : tegraPinconfReg soc g q.val = .ok loc)
    (h : regs' loc.bank loc.reg = regs loc.bank loc.reg) :
    pinView soc regs' g q = pinView soc regs g q :=
  tegraPinconfGroupGet_congr fun loc' hloc' => by
    rw [tegraPinconfUnpackParam_pack (by decide), hloc] at hloc'
    cases hloc'
    exact h

/-- The view of a parameter `tegra_pinconf_reg` refuses on `g` reads no register. -/
theorem pinView_congr_of_error {g : TegraPingroup} {e : Int}
    (hloc : tegraPinconfReg soc g q.val = .error e) (regs' : RegFile) :
    pinView soc regs' g q = pinView soc regs g q :=
  tegraPinconfGroupGet_of_error (by rwa [tegraPinconfUnpackParam_pack (by decide)]) _ _

end ViewLemmas

/-- `tegra_pinctrl_set_mux` of a function the group does not offer returns `-EINVAL` and writes
nothing. -/
theorem tegraPinctrlSetMux_of_not_mem {soc : TegraPinctrlSocData} {g : TegraPingroup}
    {function : Nat} (hf : function ∉ g.funcs) (regs : RegFile) :
    tegraPinctrlSetMux soc function g regs = some (-EINVAL, regs) := by
  have hidx : g.funcs.findIdx (· == function) = g.funcs.length :=
    List.findIdx_eq_length.mpr fun x hx => by simpa using fun h : x = function => hf (h ▸ hx)
  simp only [tegraPinctrlSetMux, hidx, if_true, ite_self]

/-- A call whose effect on the view `viewStep` describes: on a group of the table, selecting a
function, where the group's SFIO-select bit is bit 10 if it offers the function, or applying
configurations whose parameters are unknown or in `separateParams`; a GPIO request; a suspend. -/
def PmxOp.Described : PmxOp → Prop
  | .setMux function group =>
    ∃ g, tegra234Groups[group]? = some g ∧ (function ∈ g.funcs → g.sfselBit = 10)
  | .groupSet group configs =>
    ∃ g, tegra234Groups[group]? = some g ∧
      ∀ config ∈ configs, ∀ c ∈ decodeConfig config, c.1 ∈ separateParams
  | .gpioRequestEnable _ | .suspend => True
  | .gpioDisableFree _ | .resume => False

/-- Selecting `TOUCH` on `touch_clk_pcc4` is a described call. -/
example : (PmxOp.setMux TegraMuxDt.touch.toCtorIdx 0).Described :=
  ⟨_, List.getElem?_eq_getElem (List.length_pos.mpr (List.cons_ne_nil _ _)), fun _ => rfl⟩

/-- A described call reads a view at group `k` only at `separateParams`. -/
theorem tegra234_viewStep_congr {op : PmxOp} (hop : op.Described)
    {view view' : Nat → TegraPinconfParam → Except Int Nat} {k : Nat}
    (h : ∀ q ∈ separateParams, view k q = view' k q) :
    ∀ q ∈ separateParams, viewStep tegra234Pinctrl tegra234Groups view op k q =
      viewStep tegra234Pinctrl tegra234Groups view' op k q := by
  intro q hq
  cases hk : tegra234Groups[k]? with
  | none => rw [viewStep_of_getElem?_none hk, viewStep_of_getElem?_none hk, h q hq]
  | some g' =>
    cases op with
    | setMux function group =>
      rw [viewStep_setMux hk, viewStep_setMux hk]
      split_ifs
      · rfl
      · exact h q hq
    | groupSet group configs =>
      rw [viewStep_groupSet hk, viewStep_groupSet hk]
      split_ifs with hkg
      · obtain ⟨g, hg, hcfg⟩ := hop
        exact groupSetView_congr hcfg h q hq
      · exact h q hq
    | gpioRequestEnable offset =>
      rw [viewStep_gpioRequestEnable, viewStep_gpioRequestEnable, h q hq]
    | suspend => rw [viewStep_suspend, viewStep_suspend, h q hq]
    | gpioDisableFree _ | resume => exact hop.elim

/-- On tegra234, `tegra_pinctrl_set_mux` on group `j` leaves the view of every other group as it
was, `PAD_POWER` apart. -/
theorem tegra234_setMux_view_other {j k : Nat} {g g' : TegraPingroup}
    (hg : tegra234Groups[j]? = some g) (hg' : tegra234Groups[k]? = some g') (hjk : j ≠ k)
    {function : Nat} {regs regs' : RegFile} {ret : Int}
    (h : tegraPinctrlSetMux tegra234Pinctrl function g regs = some (ret, regs'))
    {q : TegraPinconfParam} (hq : q ≠ .padPower) :
    pinView tegra234Pinctrl regs' g' q = pinView tegra234Pinctrl regs g' q := by
  refine tegraPinconfGroupGet_congr fun loc hloc => tegraPinctrlSetMux_apply_of_ne h fun hw => ?_
  have hx := (tegra234_regLayout g' (List.getElem?_mem hg')).pinconfWrites_mem
    (unpackParam_pack_ne_padPower hq) ⟨loc, hloc, rfl, rfl⟩
  exact tegra234_not_writes_of_avoids hg'
    (show (PmxOp.setMux function j).Avoids tegra234Pinctrl k from hjk) [] hx
    ⟨g, hg, hw.1, hw.2⟩

/-- `set_mux` selecting slot `i` of group `group`, on the view of every group: as `viewStep`
says, for every parameter of `separateParams`. -/
theorem tegra234_setMux_view {group : Nat} {g : TegraPingroup}
    (hg : tegra234Groups[group]? = some g) (hsf : g.sfselBit = 10) {i : Nat}
    (hi : i < g.funcs.length) (regs : RegFile) :
    ∃ regs', tegraPinctrlSetMux tegra234Pinctrl g.funcs[i] g regs = some (0, regs') ∧
      ∀ k, ∀ q ∈ separateParams, groupsView tegra234Pinctrl tegra234Groups regs' k q =
        viewStep tegra234Pinctrl tegra234Groups (groupsView tegra234Pinctrl tegra234Groups regs)
          (.setMux g.funcs[i] group) k q := by
  obtain ⟨regs', hset, hfun, hother⟩ := tegra234_setMux_refines (List.getElem?_mem hg) hsf hi regs
  refine ⟨regs', hset, fun k q hq => ?_⟩
  cases hk : tegra234Groups[k]? with
  | none =>
    rw [viewStep_of_getElem?_none hk, groupsView_of_getElem?_none hk,
      groupsView_of_getElem?_none hk]
  | some g' =>
    rw [viewStep_setMux hk, groupsView_of_getElem? hk, groupsView_of_getElem? hk]
    by_cases hkj : k = group
    · -- the group itself: `FUNCTION` moves to slot `i`, the rest stays
      subst hkj
      obtain rfl : g = g' := Option.some.inj (hg.symm.trans hk)
      by_cases hqf : q = .function
      · subst hqf
        have hslot : g.funcs.findIdx (· == g.funcs[i]) = i :=
          List.indexOf_getElem (tegra234_funcs_nodup g (List.getElem?_mem hg)) i hi
        rw [if_pos ⟨rfl, rfl, List.getElem_mem hi⟩, hslot]
        exact hfun
      · rw [if_neg fun h => hqf h.2.1]
        exact hother q hq hqf
    · rw [if_neg fun h => hkj h.1]
      exact tegra234_setMux_view_other hg hk (Ne.symm hkj) hset
        (ne_padPower_of_mem_separateParams hq)

/-- `group_set` on group `group` with configurations whose parameters are unknown or in
`separateParams`, on the view of every group: as `viewStep` says, for every parameter of
`separateParams`. -/
theorem tegra234_groupSet_view {group : Nat} {g : TegraPingroup}
    (hg : tegra234Groups[group]? = some g) {configs : List Nat}
    (hcfg : ∀ config ∈ configs, ∀ c ∈ decodeConfig config, c.1 ∈ separateParams) (regs : RegFile)
    (k : Nat) {q : TegraPinconfParam} (hq : q ∈ separateParams) :
    groupsView tegra234Pinctrl tegra234Groups
        (tegraPinconfGroupSet tegra234Pinctrl g configs regs).2 k q =
      viewStep tegra234Pinctrl tegra234Groups (groupsView tegra234Pinctrl tegra234Groups regs)
        (.groupSet group configs) k q := by
  cases hk : tegra234Groups[k]? with
  | none =>
    rw [viewStep_of_getElem?_none hk, groupsView_of_getElem?_none hk,
      groupsView_of_getElem?_none hk]
  | some g' =>
    rw [viewStep_groupSet hk, groupsView_of_getElem? hk]
    by_cases hkj : k = group
    · -- the group itself
      subst hkj
      obtain rfl : g = g' := Option.some.inj (hg.symm.trans hk)
      rw [if_pos rfl]
      exact tegra234_groupSet_pinView (List.getElem?_mem hg) hcfg regs
        (fun q _ => (groupsView_of_getElem? hk).symm) q hq
    · rw [if_neg hkj, groupsView_of_getElem? hk]
      exact tegra234_groupSet_view_other hg hk (Ne.symm hkj)
        (fun c hc => unpackParam_ne_padPower_of_decodeConfig (hcfg c hc)) regs
        (ne_padPower_of_mem_separateParams hq)

/-- One described call changes the view of the tegra234 groups as `viewStep` says, for every
parameter of `separateParams`. -/
theorem tegra234_step_refines {pmx pmx' : TegraPmx} {op : PmxOp} (hop : op.Described)
    (h : pmxStep tegra234Pinctrl pmx op = some pmx') (k : Nat) {q : TegraPinconfParam}
    (hq : q ∈ separateParams) :
    groupsView tegra234Pinctrl tegra234Groups pmx'.regs k q =
      viewStep tegra234Pinctrl tegra234Groups (groupsView tegra234Pinctrl tegra234Groups pmx.regs) op k q := by
  cases op with
  | setMux function group =>
    obtain ⟨g, hg, hsf⟩ := hop
    by_cases hf : function ∈ g.funcs
    · obtain ⟨i, hi, rfl⟩ := List.getElem_of_mem hf
      obtain ⟨regs', hset, hview⟩ := tegra234_setMux_view hg (hsf hf) hi pmx.regs
      simp only [pmxStep, tegra234Pinctrl_groups, hg, hset, Option.bind_eq_bind, Option.some_bind,
        bind, pure, Option.some.injEq] at h
      subst h
      exact hview k q hq
    · -- a function the group does not offer: nothing changes
      simp only [pmxStep, tegra234Pinctrl_groups, hg, tegraPinctrlSetMux_of_not_mem hf,
        Option.bind_eq_bind, Option.some_bind, bind, pure, Option.some.injEq] at h
      subst h
      rw [viewStep_setMux_of_not_mem hg hf]
  | groupSet group configs =>
    obtain ⟨g, hg, hcfg⟩ := hop
    simp only [pmxStep, tegra234Pinctrl_groups, hg, Option.bind_eq_bind, Option.some_bind, bind,
      pure, Option.some.injEq] at h
    subst h
    exact tegra234_groupSet_view hg hcfg pmx.regs k hq
  | gpioRequestEnable offset =>
    obtain ⟨ret, hreq⟩ := pmxStep_gpioRequestEnable h
    rw [viewStep_gpioRequestEnable]
    exact groupsView_congr fun _ _ hk => tegra234_gpioRequest_view hreq hk hq
  | suspend =>
    cases h
    rw [viewStep_suspend, tegraPinctrlSuspend_regs]
  | gpioDisableFree _ | resume => exact hop.elim

end TegraPinctrl
