import TegraPinctrl.Pinconf

/-! # Function selection: `tegra_pinctrl_set_mux` and the debug dump

`tegra_pinctrl_set_mux` writes the slot index of the requested function into the group's
2-bit mux field and, on SoCs with `sfsel_in_mux`, sets the group's SFIO-select bit. It does
not check that `sfsel_bit` is a bit position: `tegra_pinctrl_gpio_request_enable` does. The
model returns `none` where C reaches undefined behaviour, a shift by an amount outside
`0..31`.

`tegraPinctrlSetMux_spec` gives what the call does on a group whose shift amounts are
valid; on such a group the mux field then reads back as the slot index through
`tegra_pinconf_group_get`, and `tegra_pinconf_group_dbg_show` names the selected function
(`tegraPinctrlSetMux_dbgShowLine`). No tegra234 group offers a function twice, so selecting the function
in slot `i` writes `i` (`tegra234_setMux_groupGet_slot`); but three tegra234 groups declare
`gpio_sfio_sel = -1`, and selecting any of their functions is undefined. -/

namespace TegraPinctrl

/-- `tegra_pinctrl_set_mux`: the return value and the registers afterwards, or `none` where
a shift is undefined. -/
def tegraPinctrlSetMux (soc : TegraPinctrlSocData) (function : Nat) (g : TegraPingroup)
    (regs : RegFile) : Option (Int × RegFile) :=
  if g.muxReg < 0 then some (-EINVAL, regs) else
  let i := g.funcs.findIdx (· == function)
  if i = g.funcs.length then some (-EINVAL, regs) else do
    let val := pmxReadl regs g.muxBank g.muxReg
    let clear ← cShl 0x3 g.muxBit
    let sel ← cShl (BitVec.ofNat 32 i) g.muxBit
    let val := (val &&& ~~~clear) ||| sel
    let val ← if soc.sfselInMux then (val ||| ·) <$> cShl 1 g.sfselBit else pure val
    return (0, pmxWritel regs val g.muxBank g.muxReg)

/-- `strip_prefix`: the text after the first comma, or all of it when there is none. -/
def stripPrefix (s : String) : String :=
  if s.contains ',' then (s.dropWhile (· ≠ ',')).drop 1 else s

/-- One line of `tegra_pinconf_group_dbg_show` for the entry `(property, param)` of
`cfg_params`: nothing for an unsupported parameter, the function name for `FUNCTION`, the
field value otherwise. `none` where the function index is past `functions`. -/
def dbgShowLine (soc : TegraPinctrlSocData) (regs : RegFile) (g : TegraPingroup)
    (entry : String × TegraPinconfParam) : Option String :=
  match tegraPinconfReg soc g entry.2.val with
  | .error _ => some ""
  | .ok r =>
    let val := readField (pmxReadl regs r.bank r.reg) r.bit.toNat r.width.toNat
    if entry.2 = .function then do
      let idx ← g.funcs[val.toNat]?
      let name ← soc.functions[idx]?
      return "\n\t" ++ stripPrefix entry.1 ++ "=" ++ name
    else
      return "\n\t" ++ stripPrefix entry.1 ++ "=" ++ toString val.toNat

/-- `tegra_pinconf_group_dbg_show`: the text written for group `g`. -/
def tegraPinconfGroupDbgShow (soc : TegraPinctrlSocData) (regs : RegFile) (g : TegraPingroup) :
    Option String :=
  (cfgParams.mapM (dbgShowLine soc regs g)).map String.join

/-- `tegra_pinconf_config_dbg_show`: one packed configuration as `property=arg`, naming the first
`cfg_params` entry of its parameter, or `unknown`. -/
def tegraPinconfConfigDbgShow (config : Nat) : String :=
  let param := tegraPinconfUnpackParam config
  let pname := ((cfgParams.find? fun e => e.2.val = param).map (·.1)).getD "unknown"
  stripPrefix pname ++ "=" ++ toString (tegraPinconfUnpackArg config)

/-! ## Selecting a function -/

theorem findIdx_lt_length_iff {function : Nat} {g : TegraPingroup} :
    g.funcs.findIdx (· == function) < g.funcs.length ↔ function ∈ g.funcs := by
  constructor
  · intro h
    have hx := @List.findIdx_getElem _ (· == function) g.funcs h
    rw [beq_iff_eq] at hx
    exact hx ▸ List.getElem_mem h
  · intro h
    exact List.findIdx_lt_length_of_exists ⟨function, h, beq_self_eq_true _⟩

theorem findIdx_eq_length_iff {function : Nat} {g : TegraPingroup} :
    g.funcs.findIdx (· == function) = g.funcs.length ↔ function ∉ g.funcs := by
  rw [← findIdx_lt_length_iff]
  have := @List.findIdx_le_length _ (· == function) g.funcs
  omega

/-- The function in the slot `tegra_pinctrl_set_mux` selects is the requested one. -/
theorem getElem_findIdx {function : Nat} {g : TegraPingroup}
    (h : g.funcs.findIdx (· == function) < g.funcs.length) :
    g.funcs[g.funcs.findIdx (· == function)] = function :=
  beq_iff_eq.mp (@List.findIdx_getElem _ (· == function) g.funcs h)

/-- The mux register value `tegra_pinctrl_set_mux` writes over `val` when it selects slot `i`
of `g`. -/
def muxSelectValue (soc : TegraPinctrlSocData) (g : TegraPingroup) (val : BitVec 32)
    (i : Nat) : BitVec 32 :=
  let val := (val &&& ~~~(0x3#32 <<< g.muxBit.toNat)) ||| (BitVec.ofNat 32 i <<< g.muxBit.toNat)
  if soc.sfselInMux then val ||| 1#32 <<< g.sfselBit.toNat else val

/-- The shifts of `tegra_pinctrl_set_mux` on `g` are defined: `mux_bit` and, where the SoC
sets it, `sfsel_bit` are bit positions. -/
def MuxShiftsValid (soc : TegraPinctrlSocData) (g : TegraPingroup) : Prop :=
  0 ≤ g.muxBit ∧ g.muxBit < 32 ∧ (soc.sfselInMux = true → 0 ≤ g.sfselBit ∧ g.sfselBit < 32)

section SetMux

variable {soc : TegraPinctrlSocData} {g : TegraPingroup}

/-- What `tegra_pinctrl_set_mux` does on a group with valid shifts: it rejects a group with no
mux register and a function outside the group's four slots, writing nothing; otherwise it
writes `muxSelectValue` for the first slot holding the function and returns 0. -/
theorem tegraPinctrlSetMux_spec (h : MuxShiftsValid soc g) (function : Nat) (regs : RegFile) :
    tegraPinctrlSetMux soc function g regs =
      if g.muxReg < 0 ∨ function ∉ g.funcs then some (-EINVAL, regs)
      else some (0, pmxWritel regs (muxSelectValue soc g (regs g.muxBank g.muxReg)
        (g.funcs.findIdx (· == function))) g.muxBank g.muxReg) := by
  obtain ⟨h0, h32, hsf⟩ := h
  unfold tegraPinctrlSetMux
  by_cases hreg : g.muxReg < 0
  · simp [hreg]
  by_cases hf : function ∈ g.funcs
  · have hlt := findIdx_lt_length_iff.mpr hf
    simp only [hreg, hf, if_false, not_true_eq_false, or_self, Nat.ne_of_lt hlt, cShl_of_lt h0 h32,
      Option.bind_eq_bind, Option.some_bind, pmxReadl, muxSelectValue]
    cases hs : soc.sfselInMux
    · rfl
    · obtain ⟨hs0, hs32⟩ := hsf hs
      simp [cShl_of_lt hs0 hs32]
  · simp [hreg, hf, findIdx_eq_length_iff.mpr hf]

theorem muxSelectValue_eq (val : BitVec 32) (i : Nat) :
    muxSelectValue soc g val i =
      if soc.sfselInMux then writeField val g.muxBit.toNat 2 i ||| 1#32 <<< g.sfselBit.toNat
      else writeField val g.muxBit.toNat 2 i := rfl

/-- Every bit of the value `tegra_pinctrl_set_mux` writes, when the SFIO-select bit lies
outside the mux field: the slot index in the mux field, the SFIO-select bit set where the SoC
sets it, every other bit as before. -/
theorem getLsbD_muxSelectValue (hfit : g.muxBit.toNat + 2 ≤ 32)
    (hsep : soc.sfselInMux = true →
      ¬(g.muxBit.toNat ≤ g.sfselBit.toNat ∧ g.sfselBit.toNat < g.muxBit.toNat + 2))
    {val : BitVec 32} {i : Nat} (hi : i < 4) (j : Nat) :
    (muxSelectValue soc g val i).getLsbD j =
      if g.muxBit.toNat ≤ j ∧ j < g.muxBit.toNat + 2 then i.testBit (j - g.muxBit.toNat)
      else if soc.sfselInMux = true ∧ j = g.sfselBit.toNat ∧ j < 32 then true
      else val.getLsbD j := by
  rw [muxSelectValue_eq]
  have hw := @getLsbD_writeField val g.muxBit.toNat 2 i hi hfit j
  generalize g.muxBit.toNat = mb at hw hfit hsep ⊢
  generalize g.sfselBit.toNat = sf at hsep ⊢
  cases hs : soc.sfselInMux
  · simp [hw]
  · simp only [if_true, BitVec.getLsbD_or, hw, getLsbD_one_shiftLeft, true_and]
    have hsep := hsep hs
    by_cases hin : mb ≤ j ∧ j < mb + 2
    · have : ¬ (j = sf ∧ j < 32) := fun h => hsep (h.1 ▸ hin)
      simp [hin, this]
    · by_cases hj : j = sf ∧ j < 32
      · obtain ⟨rfl, h32⟩ := hj; simp [hin, h32]
      · simp [hin, hj]

/-- The mux field reads back the selected slot. -/
theorem readField_muxSelectValue (hfit : g.muxBit.toNat + 2 ≤ 32)
    (hsep : soc.sfselInMux = true →
      ¬(g.muxBit.toNat ≤ g.sfselBit.toNat ∧ g.sfselBit.toNat < g.muxBit.toNat + 2))
    (val : BitVec 32) {i : Nat} (hi : i < 4) :
    readField (muxSelectValue soc g val i) g.muxBit.toNat 2 = BitVec.ofNat 32 i := by
  ext j
  rw [getLsbD_readField (by decide), getLsbD_muxSelectValue hfit hsep hi, BitVec.getLsbD_ofNat]
  by_cases hj : (j : Nat) < 2
  · simp [hj]
  · simp [hj, testBit_of_lt_two_pow (show i < 2 ^ 2 from hi) (Nat.le_of_not_lt hj)]

/-- After a successful selection `tegra_pinconf_group_get` reads `FUNCTION` as the slot
index. -/
theorem tegraPinconfGroupGet_function_muxSelectValue (h : MuxShiftsValid soc g)
    (hfit : g.muxBit.toNat + 2 ≤ 32)
    (hsep : soc.sfselInMux = true →
      ¬(g.muxBit.toNat ≤ g.sfselBit.toNat ∧ g.sfselBit.toNat < g.muxBit.toNat + 2))
    (hreg : 0 ≤ g.muxReg) (regs : RegFile) {i : Nat} (hi : i < 4) {config : Nat}
    (hconfig : tegraPinconfUnpackParam config = TegraPinconfParam.function.val) :
    tegraPinconfGroupGet soc (pmxWritel regs (muxSelectValue soc g (regs g.muxBank g.muxReg) i)
        g.muxBank g.muxReg) g config =
      .ok (tegraPinconfPack TegraPinconfParam.function.val i) := by
  have hloc : tegraPinconfReg soc g TegraPinconfParam.function.val =
      .ok ⟨g.muxBank, g.muxReg, g.muxBit, 2⟩ :=
    tegraPinconfReg_val_eq_ok.mpr ⟨rfl, hreg, h.1⟩
  have hi16 : i < 2 ^ 16 := lt_of_lt_of_le hi (by decide)
  have hi32 : i < 2 ^ 32 := lt_of_lt_of_le hi (by decide)
  simp only [tegraPinconfGroupGet, hconfig, hloc, bind, Except.bind, pure, Except.pure,
    pmxReadl, pmxWritel_apply_self, show ((2 : Int)).toNat = 2 from rfl,
    readField_muxSelectValue hfit hsep _ hi, BitVec.toNat_ofNat, Nat.mod_eq_of_lt hi32,
    Nat.mod_eq_of_lt hi16, TegraPinconfParam.val_inj, reduceCtorEq, if_false]

/-- Whatever its shifts, `tegra_pinctrl_set_mux` writes no register but the group's mux
register. -/
theorem tegraPinctrlSetMux_apply_of_ne {function : Nat} {regs regs' : RegFile} {ret : Int}
    (h : tegraPinctrlSetMux soc function g regs = some (ret, regs')) {b r : Int}
    (hbr : ¬(b = g.muxBank ∧ r = g.muxReg)) : regs' b r = regs b r := by
  unfold tegraPinctrlSetMux at h
  dsimp only at h
  split_ifs at h
  · cases h; rfl
  · cases h; rfl
  all_goals
    simp only [bind, pure, Option.bind_eq_some, Option.map_eq_map, Option.map_eq_some',
      Option.some.injEq, Prod.mk.injEq] at h
    obtain ⟨_, -, _, -, _, -, -, rfl⟩ := h
    exact pmxWritel_apply_of_ne hbr

end SetMux

/-! ## The debug dump -/

section DbgShow

variable {soc : TegraPinctrlSocData} {g : TegraPingroup}

/-- After `tegra_pinctrl_set_mux` selects `function` on a group whose shifts are valid and whose
SFIO-select bit lies outside the mux field, the dump's `FUNCTION` line names `function`. -/
theorem tegraPinctrlSetMux_dbgShowLine (h : MuxShiftsValid soc g)
    (hfit : g.muxBit.toNat + 2 ≤ 32)
    (hsep : soc.sfselInMux = true →
      ¬(g.muxBit.toNat ≤ g.sfselBit.toNat ∧ g.sfselBit.toNat < g.muxBit.toNat + 2))
    (hreg : 0 ≤ g.muxReg) {function : Nat} (hf : function ∈ g.funcs) {name : String}
    (hname : soc.functions[function]? = some name) (regs : RegFile) (prop : String) :
    ∃ regs', tegraPinctrlSetMux soc function g regs = some (0, regs') ∧
      dbgShowLine soc regs' g (prop, .function) =
        some ("\n\t" ++ stripPrefix prop ++ "=" ++ name) := by
  have hslot := findIdx_lt_length_iff.mpr hf
  have h4 : g.funcs.findIdx (· == function) < 4 := g.funcs_length ▸ hslot
  have hmod : g.funcs.findIdx (· == function) % 4294967296 = g.funcs.findIdx (· == function) :=
    Nat.mod_eq_of_lt (by omega)
  have hloc : tegraPinconfReg soc g TegraPinconfParam.function.val =
      .ok ⟨g.muxBank, g.muxReg, g.muxBit, 2⟩ :=
    tegraPinconfReg_val_eq_ok.mpr ⟨rfl, hreg, h.1⟩
  refine ⟨_, by rw [tegraPinctrlSetMux_spec h, if_neg (by simp [hf, Int.not_lt.mpr hreg])], ?_⟩
  simp [dbgShowLine, hloc, pmxReadl, show ((2 : Int)).toNat = 2 from rfl,
    readField_muxSelectValue hfit hsep _ h4, hmod, List.getElem?_eq_getElem hslot,
    getElem_findIdx hslot, hname]

end DbgShow

/-! ## The tegra234 table -/

/-- Every tegra234 group has its mux register, the mux field at bit 0, and the SFIO-select
bit at 10 or not at all (`-1`). -/
theorem tegra234_mux_layout :
    ∀ g ∈ tegra234Groups, 0 ≤ g.muxReg ∧ g.muxBit = 0 ∧ (g.sfselBit = 10 ∨ g.sfselBit = -1) := by
  have h : tegra234Groups.all (fun g => decide (0 ≤ g.muxReg ∧ g.muxBit = 0 ∧
      (g.sfselBit = 10 ∨ g.sfselBit = -1))) = true := by decide
  exact fun g hg => of_decide_eq_true (List.all_eq_true.mp h g hg)

/-- `eqos_comp` declares `gpio_sfio_sel = -1`. Selecting its function `EQOS`, which it
offers in slot 0 and for which it has a mux register, evaluates `1 << -1`. -/
theorem tegra234_setMux_eqos_comp_undefined :
    ∃ g ∈ tegra234Groups, g.name = "eqos_comp" ∧ 0 ≤ g.muxReg ∧
      g.funcs.head? = some TegraMuxDt.eqos.toCtorIdx ∧ g.sfselBit = -1 ∧
      ∀ regs, tegraPinctrlSetMux tegra234Pinctrl TegraMuxDt.eqos.toCtorIdx g regs = none :=
  ⟨_, @List.get?_mem _ tegra234Groups 50 _ rfl, rfl, by decide, rfl, rfl, fun _ => rfl⟩

/-- Every function a tegra234 group offers is in `tegra234_functions`. -/
theorem tegra234_funcs_lt :
    ∀ g ∈ tegra234Groups, ∀ f ∈ g.funcs, f < tegra234Functions.length := by
  have h : tegra234Groups.all (fun g => g.funcs.all (· < tegra234Functions.length)) = true := by
    decide
  exact fun g hg f hf => of_decide_eq_true (List.all_eq_true.mp (List.all_eq_true.mp h g hg) f hf)

/-- On tegra234, selecting a function on a group that has an SFIO-select bit succeeds, and the
group's dump then names the function. -/
theorem tegra234_setMux_dbgShowLine {g : TegraPingroup} (hg : g ∈ tegra234Groups)
    (hsf : g.sfselBit = 10) {function : Nat} (hf : function ∈ g.funcs) (regs : RegFile)
    (prop : String) :
    ∃ name regs', tegra234Functions[function]? = some name ∧
      tegraPinctrlSetMux tegra234Pinctrl function g regs = some (0, regs') ∧
      dbgShowLine tegra234Pinctrl regs' g (prop, .function) =
        some ("\n\t" ++ stripPrefix prop ++ "=" ++ name) := by
  obtain ⟨hreg, hbit, -⟩ := tegra234_mux_layout g hg
  have hname := List.getElem?_eq_getElem (tegra234_funcs_lt g hg function hf)
  have hvalid : MuxShiftsValid tegra234Pinctrl g := ⟨by omega, by omega, fun _ => by omega⟩
  obtain ⟨regs', hset, hline⟩ := tegraPinctrlSetMux_dbgShowLine hvalid (by simp [hbit])
    (fun _ => by simp [hbit, hsf]) hreg hf hname regs prop
  exact ⟨_, regs', hname, hset, hline⟩

set_option maxRecDepth 4000 in
/-- `touch_clk_pcc4`, all registers 0, switched to `TOUCH`: the dump's `nvidia,func` line
names it. -/
theorem tegra234_setMux_dbgShowLine_touch :
    let g := tegra234Groups.head (List.cons_ne_nil _ _)
    g ∈ tegra234Groups ∧ g.sfselBit = 10 ∧ TegraMuxDt.touch.toCtorIdx ∈ g.funcs ∧
      ∃ name regs', tegra234Functions[TegraMuxDt.touch.toCtorIdx]? = some name ∧
        tegraPinctrlSetMux tegra234Pinctrl TegraMuxDt.touch.toCtorIdx g (fun _ _ => 0) =
          some (0, regs') ∧
        dbgShowLine tegra234Pinctrl regs' g ("nvidia,func", .function) =
          some ("\n\t" ++ stripPrefix "nvidia,func" ++ "=" ++ name) :=
  ⟨List.mem_cons_self _ _, rfl, by decide,
    tegra234_setMux_dbgShowLine (List.mem_cons_self _ _) rfl (by decide) _ _⟩

/-- No tegra234 group offers a function twice. -/
theorem tegra234_funcs_nodup : ∀ g ∈ tegra234Groups, g.funcs.Nodup := by
  have h : tegra234Groups.all (fun g => decide g.funcs.Nodup) = true := by decide
  exact fun g hg => of_decide_eq_true (List.all_eq_true.mp h g hg)

/-- On tegra234, selecting the function in slot `i` of a group that has an SFIO-select bit
succeeds and writes `i` into the mux field: `FUNCTION` then reads `i`. -/
theorem tegra234_setMux_groupGet_slot {g : TegraPingroup} (hg : g ∈ tegra234Groups)
    (hsf : g.sfselBit = 10) {i : Nat} (hi : i < g.funcs.length) (regs : RegFile) :
    ∃ regs', tegraPinctrlSetMux tegra234Pinctrl g.funcs[i] g regs = some (0, regs') ∧
      tegraPinconfGroupGet tegra234Pinctrl regs' g
          (tegraPinconfPack TegraPinconfParam.function.val 0) =
        .ok (tegraPinconfPack TegraPinconfParam.function.val i) := by
  obtain ⟨hreg, hbit, -⟩ := tegra234_mux_layout g hg
  have hvalid : MuxShiftsValid tegra234Pinctrl g := ⟨by omega, by omega, fun _ => by omega⟩
  have hslot : g.funcs.findIdx (· == g.funcs[i]) = i :=
    List.indexOf_getElem (tegra234_funcs_nodup g hg) i hi
  refine ⟨_, by rw [tegraPinctrlSetMux_spec hvalid,
    if_neg (by simp [List.getElem_mem, Int.not_lt.mpr hreg])], ?_⟩
  rw [hslot]
  exact tegraPinconfGroupGet_function_muxSelectValue hvalid (by simp [hbit])
    (fun _ => by simp [hbit, hsf]) hreg regs (g.funcs_length ▸ hi)
    (tegraPinconfUnpackParam_pack (by decide))

end TegraPinctrl
