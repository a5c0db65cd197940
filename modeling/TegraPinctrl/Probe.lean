import TegraPinctrl.Pinmux

/-! # The probe: the function-to-groups index

`tegra_pinctrl_probe` fills, for each function, the list of groups it can be selected on:
every group with a mux register whose four slots hold the function, in table order. The
names go one after the other into a fresh `group_pins` array of `ngroups * 4` entries;
`functions[fn].groups` points at the first name of function `fn` and `functions[fn].ngroups`
counts them. `BUG_ON` stops the kernel if the array would overflow.

The `functions` array is static and the loop adds to `ngroups` without resetting it, so a
second probe on the same data doubles every count (`ngroups_iterate_probeFunctionsResult`, and
`tegra234_reprobe_doubles_ngroups` for the tegra234 table). -/

namespace TegraPinctrl

/-- `struct tegra_function`: its name, the position of its first group name in the probe's
`group_pins` array, and the number of its groups. -/
structure TegraFunction where
  name : String
  groups : Nat
  ngroups : Nat
  deriving DecidableEq, Repr

/-- The loop of `tegra_pinctrl_probe` over the groups for function `fn`, from the group list
`gs` onwards; `ngroups` is the table size. `none` when the `BUG_ON` fires. -/
def probeGroupsLoop (ngroups fn : Nat) :
    List TegraPingroup → TegraFunction → List String → Option (TegraFunction × List String)
  | [], func, groupPins => some (func, groupPins)
  | g :: gs, func, groupPins =>
    if g.muxReg = -1 then probeGroupsLoop ngroups fn gs func groupPins
    else if g.funcs.findIdx (· == fn) = 4 then probeGroupsLoop ngroups fn gs func groupPins
    else if groupPins.length ≥ ngroups * 4 then none
    else probeGroupsLoop ngroups fn gs { func with ngroups := func.ngroups + 1 }
      (groupPins ++ [g.name])

/-- The loop of `tegra_pinctrl_probe` over the functions, from function number `fn` on. -/
def probeFunctionsLoop (groups : List TegraPingroup) (fn : Nat) :
    List TegraFunction → List String → Option (List TegraFunction × List String)
  | [], groupPins => some ([], groupPins)
  | func :: funcs, groupPins => do
    let (func, groupPins) ←
      probeGroupsLoop groups.length fn groups { func with groups := groupPins.length } groupPins
    let (funcs, groupPins) ← probeFunctionsLoop groups (fn + 1) funcs groupPins
    return (func :: funcs, groupPins)

/-- The index-building part of `tegra_pinctrl_probe`: the `functions` array afterwards and the
names written into the fresh `group_pins` array. -/
def tegraPinctrlProbeIndex (soc : TegraPinctrlSocData) (functions : List TegraFunction) :
    Option (List TegraFunction × List String) :=
  probeFunctionsLoop soc.groups 0 functions []

/-- The names a function's group list is meant to hold: every group with a mux register that
offers `fn`, in table order. -/
def funcGroupNames (groups : List TegraPingroup) (fn : Nat) : List String :=
  (groups.filter fun g => g.muxReg ≠ -1 ∧ fn ∈ g.funcs).map (·.name)

/-- The `group_pins` array the probe is meant to write for the `n` functions from `fn` on:
their group lists one after the other. -/
def probeGroupPins (groups : List TegraPingroup) : Nat → Nat → List String
  | _, 0 => []
  | fn, n + 1 => funcGroupNames groups fn ++ probeGroupPins groups (fn + 1) n

/-- The `functions` entries the probe is meant to leave, numbered from `fn`, when the array
part it writes starts at `start`: each points at its own list and adds its length to
`ngroups`. -/
def probeFunctionsResult (groups : List TegraPingroup) (fn start : Nat)
    (funcs : List TegraFunction) : List TegraFunction :=
  funcs.mapIdx fun j f => { f with
    groups := start + (probeGroupPins groups fn j).length
    ngroups := f.ngroups + (funcGroupNames groups (fn + j)).length }

/-! ## One function's pass over the groups -/

theorem funcGroupNames_cons (g : TegraPingroup) (gs : List TegraPingroup) (fn : Nat) :
    funcGroupNames (g :: gs) fn =
      if g.muxReg ≠ -1 ∧ fn ∈ g.funcs then g.name :: funcGroupNames gs fn
      else funcGroupNames gs fn := by
  by_cases h : g.muxReg ≠ -1 ∧ fn ∈ g.funcs <;> simp [funcGroupNames, List.filter_cons, h]

/-- The probe's slot search finds `fn` in `g` exactly when `fn` is one of its functions. -/
theorem findIdx_eq_four_iff {g : TegraPingroup} {fn : Nat} :
    g.funcs.findIdx (· == fn) = 4 ↔ fn ∉ g.funcs :=
  g.funcs_length ▸ findIdx_eq_length_iff

/-- One function's pass appends the names of its groups and counts them, when the array has
room for them. -/
theorem probeGroupsLoop_eq {ngroups fn : Nat} (gs : List TegraPingroup) (func : TegraFunction)
    (groupPins : List String)
    (hroom : groupPins.length + (funcGroupNames gs fn).length ≤ ngroups * 4) :
    probeGroupsLoop ngroups fn gs func groupPins =
      some ({ func with ngroups := func.ngroups + (funcGroupNames gs fn).length },
        groupPins ++ funcGroupNames gs fn) := by
  induction gs generalizing func groupPins with
  | nil => simp [probeGroupsLoop, funcGroupNames]
  | cons g gs ih =>
    rw [funcGroupNames_cons] at hroom ⊢
    by_cases hsel : g.muxReg ≠ -1 ∧ fn ∈ g.funcs
    · rw [if_pos hsel] at hroom ⊢
      simp only [List.length_cons] at hroom
      rw [probeGroupsLoop, if_neg hsel.1, if_neg (mt findIdx_eq_four_iff.mp (not_not.mpr hsel.2)),
        if_neg (by omega), ih _ _ (by simp only [List.length_append, List.length_singleton]; omega)]
      simp [Nat.add_assoc, Nat.add_comm 1]
    · rw [if_neg hsel] at hroom ⊢
      rw [← ih func groupPins hroom, probeGroupsLoop]
      by_cases hmux : g.muxReg = -1
      · rw [if_pos hmux]
      · rw [if_neg hmux, if_pos (findIdx_eq_four_iff.mpr fun h => hsel ⟨hmux, h⟩)]

/-! ## The loop over the functions -/

theorem probeFunctionsResult_cons (groups : List TegraPingroup) (fn start : Nat)
    (func : TegraFunction) (funcs : List TegraFunction) :
    probeFunctionsResult groups fn start (func :: funcs) =
      { func with groups := start, ngroups := func.ngroups + (funcGroupNames groups fn).length } ::
        probeFunctionsResult groups (fn + 1) (start + (funcGroupNames groups fn).length) funcs := by
  simp only [probeFunctionsResult, List.mapIdx_cons, probeGroupPins, List.length_nil,
    Nat.add_zero, List.cons.injEq, true_and]
  congr 1
  funext j f
  simp [probeGroupPins, Nat.add_assoc, Nat.add_comm 1]

/-- The loop over the functions writes every function's list in turn, when the array has room
for all of them. -/
theorem probeFunctionsLoop_eq (groups : List TegraPingroup) (fn : Nat)
    (funcs : List TegraFunction) (groupPins : List String)
    (hroom : groupPins.length + (probeGroupPins groups fn funcs.length).length ≤
      groups.length * 4) :
    probeFunctionsLoop groups fn funcs groupPins =
      some (probeFunctionsResult groups fn groupPins.length funcs,
        groupPins ++ probeGroupPins groups fn funcs.length) := by
  induction funcs generalizing fn groupPins with
  | nil => simp [probeFunctionsLoop, probeFunctionsResult, probeGroupPins]
  | cons func funcs ih =>
    simp only [List.length_cons, probeGroupPins, List.length_append] at hroom
    rw [probeFunctionsLoop, probeGroupsLoop_eq _ _ _ (by omega)]
    simp only [Option.bind_eq_bind, Option.some_bind]
    rw [ih _ _ (by simp only [List.length_append]; omega)]
    simp [probeFunctionsResult_cons, probeGroupPins]

/-! ## The array never overflows -/

theorem probeGroupPins_add (groups : List TegraPingroup) (fn m n : Nat) :
    probeGroupPins groups fn (m + n) =
      probeGroupPins groups fn m ++ probeGroupPins groups (fn + m) n := by
  induction m generalizing fn with
  | zero => simp [probeGroupPins]
  | succ m ih =>
    rw [Nat.add_right_comm, probeGroupPins, ih, probeGroupPins, List.append_assoc,
      Nat.add_right_comm fn 1 m, Nat.add_assoc fn m 1]

theorem probeGroupPins_nil (fn n : Nat) : probeGroupPins [] fn n = [] := by
  induction n generalizing fn with
  | zero => rfl
  | succ n ih => simp [probeGroupPins, funcGroupNames, ih]

/-- A group adds one name to the array for each of the probed functions among its slots. -/
theorem probeGroupPins_length_cons (g : TegraPingroup) (gs : List TegraPingroup) (fn n : Nat) :
    (probeGroupPins (g :: gs) fn n).length = (probeGroupPins gs fn n).length +
      ((List.range' fn n).filter fun f => g.muxReg ≠ -1 ∧ f ∈ g.funcs).length := by
  induction n generalizing fn with
  | zero => rfl
  | succ n ih =>
    rw [probeGroupPins, probeGroupPins, List.length_append, List.length_append, ih,
      funcGroupNames_cons, List.range'_succ, List.filter_cons]
    by_cases hsel : g.muxReg ≠ -1 ∧ fn ∈ g.funcs
    · simp only [if_pos hsel, decide_eq_true hsel, if_true, List.length_cons]
      omega
    · simp only [if_neg hsel, decide_eq_false hsel, Bool.false_eq_true, if_false]
      omega

/-- A group holds at most four of the probed functions: its slots. -/
theorem length_filter_range'_le_four (g : TegraPingroup) (fn n : Nat) :
    ((List.range' fn n).filter fun f => g.muxReg ≠ -1 ∧ f ∈ g.funcs).length ≤ 4 := by
  have hnd := (List.nodup_range' fn n).filter (fun f => decide (g.muxReg ≠ -1 ∧ f ∈ g.funcs))
  have hsub : (List.range' fn n).filter (fun f => g.muxReg ≠ -1 ∧ f ∈ g.funcs) ⊆ g.funcs :=
    fun f hf => (of_decide_eq_true (List.mem_filter.mp hf).2).2
  exact g.funcs_length ▸ (hnd.subperm hsub).length_le

/-- Whatever the catalog, the probe writes at most `ngroups * 4` names: each group is listed
once for each function in its four slots, so the `BUG_ON` never fires. -/
theorem probeGroupPins_length_le (groups : List TegraPingroup) (fn n : Nat) :
    (probeGroupPins groups fn n).length ≤ groups.length * 4 := by
  induction groups with
  | nil => simp [probeGroupPins_nil]
  | cons g gs ih =>
    rw [probeGroupPins_length_cons, List.length_cons]
    have := length_filter_range'_le_four g fn n
    omega

/-! ## The index -/

/-- One probe writes each function's list, whatever the catalog and the `functions` entries
it starts from. -/
theorem tegraPinctrlProbeIndex_eq (soc : TegraPinctrlSocData) (functions : List TegraFunction) :
    tegraPinctrlProbeIndex soc functions =
      some (probeFunctionsResult soc.groups 0 0 functions,
        probeGroupPins soc.groups 0 functions.length) :=
  probeFunctionsLoop_eq _ _ _ [] (by simpa using probeGroupPins_length_le _ _ _)

theorem getElem?_probeFunctionsResult (groups : List TegraPingroup) (start : Nat)
    (funcs : List TegraFunction) (fn : Nat) :
    (probeFunctionsResult groups 0 start funcs)[fn]? = funcs[fn]?.map fun f => { f with
      groups := start + (probeGroupPins groups 0 fn).length
      ngroups := f.ngroups + (funcGroupNames groups fn).length } := by
  simp [probeFunctionsResult]

/-- `tegra_pinctrl_get_func_groups`: the list the pin-control core reads, `ngroups` names from
`functions[function].groups` on in the array of the probe that set them. `none` where this runs
past the names the probe wrote: the rest of the array holds null pointers, and past its end
there is nothing. -/
def tegraPinctrlGetFuncGroups (groupPins : List String) (functions : List TegraFunction)
    (function : Nat) : Option (List String) := do
  let f ← functions[function]?
  if f.groups + f.ngroups ≤ groupPins.length then some ((groupPins.drop f.groups).take f.ngroups)
  else none

theorem tegraPinctrlGetFuncGroups_of_getElem? {groupPins : List String}
    {functions : List TegraFunction} {function : Nat} {f : TegraFunction}
    (hf : functions[function]? = some f) (hroom : f.groups + f.ngroups ≤ groupPins.length) :
    tegraPinctrlGetFuncGroups groupPins functions function =
      some ((groupPins.drop f.groups).take f.ngroups) := by
  simp [tegraPinctrlGetFuncGroups, hf, hroom]

/-- The index one probe builds from fresh `functions` entries is exact, for any catalog: every
function's list holds the groups with a mux register that offer it, in table order. -/
theorem tegraPinctrlProbeIndex_exact (soc : TegraPinctrlSocData)
    (functions : List TegraFunction) (hfresh : ∀ f ∈ functions, f.ngroups = 0) :
    ∃ functions' groupPins, tegraPinctrlProbeIndex soc functions = some (functions', groupPins) ∧
      groupPins.length ≤ soc.groups.length * 4 ∧ functions'.length = functions.length ∧
      ∀ fn < functions.length,
        tegraPinctrlGetFuncGroups groupPins functions' fn = some (funcGroupNames soc.groups fn) := by
  refine ⟨_, _, tegraPinctrlProbeIndex_eq soc functions, probeGroupPins_length_le _ _ _,
    List.length_mapIdx, fun fn hfn => ?_⟩
  have hsplit := probeGroupPins_add soc.groups 0 fn (1 + (functions.length - fn - 1))
  rw [show fn + (1 + (functions.length - fn - 1)) = functions.length by omega,
    Nat.zero_add, probeGroupPins_add, Nat.add_zero] at hsplit
  simp only [probeGroupPins, List.append_nil] at hsplit
  simp only [tegraPinctrlGetFuncGroups, getElem?_probeFunctionsResult,
    List.getElem?_eq_getElem hfn, Option.map_some', Option.bind_eq_bind, Option.some_bind,
    hfresh _ (List.getElem_mem hfn), Nat.zero_add, hsplit, List.length_append]
  rw [if_pos (by omega), List.drop_left' rfl, List.take_left' rfl]

/-! ## The whole probe -/

/-- The static `functions` array as the kernel loads it: names only, no groups. -/
def initialFunctions (soc : TegraPinctrlSocData) : List TegraFunction :=
  soc.functions.map fun name => ⟨name, 0, 0⟩

/-- `tegra_pinctrl_clear_parked_bits`: for each group with parked bits, clear them in its mux
register, or in its drive register where it has no mux register. -/
def tegraPinctrlClearParkedBits : List TegraPingroup → RegFile → RegFile
  | [], regs => regs
  | g :: gs, regs =>
    if 0#32 < g.parkedBitmask then
      let bank := if g.muxReg ≠ -1 then g.muxBank else g.drvBank
      let reg := if g.muxReg ≠ -1 then g.muxReg else g.drvReg
      tegraPinctrlClearParkedBits gs
        (pmxWritel regs (pmxReadl regs bank reg &&& ~~~g.parkedBitmask) bank reg)
    else tegraPinctrlClearParkedBits gs regs

/-! ## Parked bits -/

/-- The register `tegra_pinctrl_clear_parked_bits` clears the parked bits of `g` in, as (bank,
offset): the mux register, or the drive register where `mux_reg` is -1. -/
def parkedReg (g : TegraPingroup) : Int × Int :=
  if g.muxReg ≠ -1 then (g.muxBank, g.muxReg) else (g.drvBank, g.drvReg)

/-- The parked bits of the groups of `groups` whose parked bits lie in register `(b, r)`. -/
def parkedMask : List TegraPingroup → Int → Int → BitVec 32
  | [], _, _ => 0#32
  | g :: gs, b, r => (if parkedReg g = (b, r) then g.parkedBitmask else 0#32) ||| parkedMask gs b r

/-- What `tegra_pinctrl_clear_parked_bits` presumes of the table: a group with parked bits has a
mux register or a drive register. Otherwise the pass reads and writes register `-1`, which the
C's `unsigned int reg` makes offset `0xffffffff` of the bank. -/
def ParkedRegsValid (groups : List TegraPingroup) : Prop :=
  ∀ g ∈ groups, 0#32 < g.parkedBitmask → 0 ≤ (parkedReg g).2

instance (groups : List TegraPingroup) : Decidable (ParkedRegsValid groups) :=
  inferInstanceAs (Decidable (∀ g ∈ groups, _))

theorem parkedBitmask_eq_zero_of_not_pos {g : TegraPingroup} (h : ¬ 0#32 < g.parkedBitmask) :
    g.parkedBitmask = 0#32 := by
  simp only [BitVec.lt_def, BitVec.toNat_ofNat, Nat.zero_mod, not_lt, Nat.le_zero] at h
  exact BitVec.eq_of_toNat_eq h

/-- No group with parked bits in register `(b, r)`, no parked bits there. -/
theorem parkedMask_eq_zero {groups : List TegraPingroup} {b r : Int}
    (h : ∀ g ∈ groups, parkedReg g = (b, r) → g.parkedBitmask = 0#32) :
    parkedMask groups b r = 0#32 := by
  induction groups with
  | nil => rfl
  | cons g gs ih =>
    rw [parkedMask, ih fun g' hg' => h g' (List.mem_cons_of_mem _ hg'), BitVec.or_zero]
    split_ifs with hg
    · exact h g (List.mem_cons_self _ _) hg
    · rfl

theorem getLsbD_parkedMask (groups : List TegraPingroup) (b r : Int) (i : Nat) :
    (parkedMask groups b r).getLsbD i = true ↔
      ∃ g ∈ groups, parkedReg g = (b, r) ∧ g.parkedBitmask.getLsbD i = true := by
  induction groups with
  | nil => simp [parkedMask]
  | cons g gs ih =>
    simp only [parkedMask, BitVec.getLsbD_or, Bool.or_eq_true, ih, List.mem_cons,
      exists_eq_or_imp]
    split_ifs with hg <;> simp [hg]

/-- What the pass does to each register: it clears the parked bits of the groups whose parked
bits lie there, and nothing else, however many groups share the register. -/
theorem tegraPinctrlClearParkedBits_apply (groups : List TegraPingroup) (regs : RegFile)
    (b r : Int) :
    tegraPinctrlClearParkedBits groups regs b r = regs b r &&& ~~~parkedMask groups b r := by
  induction groups generalizing regs with
  | nil => rw [tegraPinctrlClearParkedBits, parkedMask, BitVec.not_zero, BitVec.and_allOnes]
  | cons g gs ih =>
    have hb : (if g.muxReg ≠ -1 then g.muxBank else g.drvBank) = (parkedReg g).1 := by
      unfold parkedReg
      split <;> rfl
    have hr : (if g.muxReg ≠ -1 then g.muxReg else g.drvReg) = (parkedReg g).2 := by
      unfold parkedReg
      split <;> rfl
    by_cases hpos : 0#32 < g.parkedBitmask
    · -- the group's parked bits are cleared in `parkedReg g`
      rw [tegraPinctrlClearParkedBits, if_pos hpos, ih, pmxReadl, hb, hr]
      by_cases hbr : parkedReg g = (b, r)
      · rw [hbr, pmxWritel_apply_self, parkedMask, if_pos hbr]
        ext i
        simp [Bool.and_assoc]
      · rw [pmxWritel_apply_of_ne fun h : b = _ ∧ r = _ => hbr (Prod.ext h.1.symm h.2.symm),
          parkedMask, if_neg hbr,
          BitVec.zero_or]
    · -- no parked bits: the group writes nothing
      rw [tegraPinctrlClearParkedBits, if_neg hpos, ih, parkedMask,
        parkedBitmask_eq_zero_of_not_pos hpos, ite_self, BitVec.zero_or]

/-- Parked-bit clearing clears exactly the parked bits: afterwards every parked bit of every
group reads 0 in the register it is parked in; every bit that no group whose parked bits lie in
its register marks keeps its value, also where groups share that register; no bit is set; and on
a table that `ParkedRegsValid` accepts, no register of negative offset is written. -/
theorem tegraPinctrlClearParkedBits_clears_exactly (groups : List TegraPingroup) (regs : RegFile) :
    (∀ g ∈ groups, ∀ i, g.parkedBitmask.getLsbD i = true →
      (tegraPinctrlClearParkedBits groups regs (parkedReg g).1 (parkedReg g).2).getLsbD i =
        false) ∧
    (∀ b r i, (∀ g ∈ groups, parkedReg g = (b, r) → g.parkedBitmask.getLsbD i = false) →
      (tegraPinctrlClearParkedBits groups regs b r).getLsbD i = (regs b r).getLsbD i) ∧
    (∀ b r i, (tegraPinctrlClearParkedBits groups regs b r).getLsbD i = true →
      (regs b r).getLsbD i = true) ∧
    (ParkedRegsValid groups → ∀ b r, r < 0 →
      tegraPinctrlClearParkedBits groups regs b r = regs b r) := by
  simp only [tegraPinctrlClearParkedBits_apply, BitVec.getLsbD_and, BitVec.getLsbD_not]
  refine ⟨fun g hg i hi => ?_, fun b r i hnone => ?_, fun b r i h => ?_, fun hvalid b r hr => ?_⟩
  · have hmask :=
      (getLsbD_parkedMask groups (parkedReg g).1 (parkedReg g).2 i).mpr ⟨g, hg, rfl, hi⟩
    simp [hmask]
  · have hmask : (parkedMask groups b r).getLsbD i = false := by
      by_contra hset
      obtain ⟨g, hg, hreg, hbit⟩ := (getLsbD_parkedMask groups b r i).mp (by simpa using hset)
      simp [hnone g hg hreg] at hbit
    by_cases hi : i < 32
    · simp [hmask, hi]
    · simp [BitVec.getLsbD_ge _ _ (Nat.le_of_not_lt hi)]
  · exact (Bool.and_eq_true _ _).mp h |>.1
  · -- a group parked at a negative offset has no parked bits
    rw [parkedMask_eq_zero fun g hg hreg => parkedBitmask_eq_zero_of_not_pos fun hpos =>
      absurd (hvalid g hg hpos) (by rw [hreg]; exact not_le.mpr hr),
      BitVec.not_zero, BitVec.and_allOnes]

/-- `PIN_PINGROUP_ENTRY_Y` leaves `parked_bitmask` at 0, so on tegra234 the pass writes nothing. -/
theorem tegra234_clearParkedBits_eq (regs : RegFile) :
    tegraPinctrlClearParkedBits tegra234Groups regs = regs := by
  have hzero : tegra234Groups.all (fun g => g.parkedBitmask == 0#32) = true := by decide
  funext b r
  rw [tegraPinctrlClearParkedBits_apply, parkedMask_eq_zero (fun g hg _ => eq_of_beq
    (List.all_eq_true.mp hzero g hg)), BitVec.not_zero, BitVec.and_allOnes]

/-- What one run of `tegra_pinctrl_probe` meets outside the driver. -/
structure ProbeEnv where
  /-- Whether the `n`-th allocation succeeds, counting from 0: `pmx`, `group_pins`, `regs`,
  `backup_regs`, `gpio_conf`. -/
  allocOk : Nat → Bool
  /-- `resource_size` of each memory resource of the device, in order. -/
  resources : List Nat
  /-- The error `devm_platform_ioremap_resource` returns for bank `i`, if it fails. -/
  ioremapErr : Nat → Option Int
  /-- The error `devm_pinctrl_register` returns, if it fails. -/
  registerErr : Option Int

/-- `tegra_pinctrl_probe`: the return value, the static `functions` array afterwards (the
probe changes it whether or not it succeeds), and on success the driver state, whose
allocations start zeroed. `none` when the `BUG_ON` fires. Adding the GPIO range and setting
the descriptor's name and pins change none of these. -/
def tegraPinctrlProbe (soc : TegraPinctrlSocData) (env : ProbeEnv)
    (functions : List TegraFunction) (regs : RegFile) :
    Option (Int × List TegraFunction × Option TegraPmx) :=
  if !env.allocOk 0 then some (-ENOMEM, functions, none) else
  if !env.allocOk 1 then some (-ENOMEM, functions, none) else do
  let (functions, groupPins) ← tegraPinctrlProbeIndex soc functions
  if !env.allocOk 2 || !env.allocOk 3 || !env.allocOk 4 then return (-ENOMEM, functions, none)
  match (List.range env.resources.length).findSome? env.ioremapErr, env.registerErr with
  | some e, _ => return (e, functions, none)
  | none, some e => return (e, functions, none)
  | none, none =>
    return (0, functions, some ⟨tegraPinctrlClearParkedBits soc.groups regs, fun _ => 0,
      fun _ => 0, env.resources, groupPins⟩)

/-- A probe in which every allocation, mapping and registration succeeds. -/
def probeEnvOk (resources : List Nat) : ProbeEnv :=
  ⟨fun _ => true, resources, fun _ => none, none⟩

/-- A probe that gets past its first two allocations builds the index again over the
`functions` entries it finds, whatever happens after. -/
theorem tegraPinctrlProbe_functions (soc : TegraPinctrlSocData) {env : ProbeEnv}
    (h0 : env.allocOk 0 = true) (h1 : env.allocOk 1 = true) (functions : List TegraFunction)
    (regs : RegFile) :
    ∃ ret pmx, tegraPinctrlProbe soc env functions regs =
      some (ret, probeFunctionsResult soc.groups 0 0 functions, pmx) := by
  simp only [tegraPinctrlProbe, h0, h1, Bool.not_true, Bool.false_eq_true, if_false,
    tegraPinctrlProbeIndex_eq, Option.bind_eq_bind, Option.some_bind]
  split
  · exact ⟨_, _, rfl⟩
  · split <;> exact ⟨_, _, rfl⟩

set_option maxRecDepth 4000 in
/-- A tegra234 probe whose third allocation fails: it returns `-ENOMEM`, but the index is built
all the same. -/
theorem tegraPinctrlProbe_functions_regs_alloc_fails :
    let env : ProbeEnv := ⟨fun n => decide (n < 2), [], fun _ => none, none⟩
    env.allocOk 0 = true ∧ env.allocOk 1 = true ∧
      ∃ ret pmx, tegraPinctrlProbe tegra234Pinctrl env (initialFunctions tegra234Pinctrl)
          (fun _ _ => 0) =
        some (ret, probeFunctionsResult tegra234Pinctrl.groups 0 0
          (initialFunctions tegra234Pinctrl), pmx) :=
  ⟨rfl, rfl, tegraPinctrlProbe_functions _ rfl rfl _ _⟩

theorem tegraPinctrlProbe_probeEnvOk (soc : TegraPinctrlSocData) (resources : List Nat)
    (functions : List TegraFunction) (regs : RegFile) :
    tegraPinctrlProbe soc (probeEnvOk resources) functions regs =
      some (0, probeFunctionsResult soc.groups 0 0 functions,
        some ⟨tegraPinctrlClearParkedBits soc.groups regs, fun _ => 0, fun _ => 0, resources,
          probeGroupPins soc.groups 0 functions.length⟩) := by
  have hmap : (List.range resources.length).findSome? (fun _ => (none : Option Int)) = none :=
    List.findSome?_eq_none_iff.mpr fun _ _ => rfl
  simp [tegraPinctrlProbe, probeEnvOk, tegraPinctrlProbeIndex_eq, hmap]

/-- After `k` probes that built the index, every function's `ngroups` is `k` times the number
of its groups: the probe adds to the count and never resets it. -/
theorem ngroups_iterate_probeFunctionsResult (soc : TegraPinctrlSocData) (k fn : Nat) :
    ((probeFunctionsResult soc.groups 0 0)^[k] (initialFunctions soc))[fn]?.map
        (·.ngroups) =
      soc.functions[fn]?.map fun _ => k * (funcGroupNames soc.groups fn).length := by
  induction k with
  | zero => simp [initialFunctions, Function.comp_def]
  | succ k ih =>
    rw [Function.iterate_succ_apply', getElem?_probeFunctionsResult, Option.map_map]
    have h := congrArg (Option.map (· + (funcGroupNames soc.groups fn).length)) ih
    simp only [Option.map_map] at h
    simpa [Function.comp_def, Nat.succ_mul] using h

/-! ## The tegra234 index -/

/-- The index of the first tegra234 probe lists `eqos_comp` among the groups of `EQOS`, but
selecting `EQOS` on it shifts by its `sfsel_bit`, `-1`: the two code paths do not agree. -/
theorem tegra234_probeIndex_lists_undefined_setMux :
    ∃ functions' groupPins,
      tegraPinctrlProbeIndex tegra234Pinctrl (initialFunctions tegra234Pinctrl) =
        some (functions', groupPins) ∧
      (∃ l, tegraPinctrlGetFuncGroups groupPins functions' TegraMuxDt.eqos.toCtorIdx = some l ∧
        "eqos_comp" ∈ l) ∧
      ∃ g ∈ tegra234Groups, g.name = "eqos_comp" ∧
        ∀ regs, tegraPinctrlSetMux tegra234Pinctrl TegraMuxDt.eqos.toCtorIdx g regs = none := by
  obtain ⟨functions', groupPins, hidx, -, -, hget⟩ :=
    tegraPinctrlProbeIndex_exact tegra234Pinctrl (initialFunctions tegra234Pinctrl)
      (by simp [initialFunctions])
  exact ⟨functions', groupPins, hidx, ⟨_, hget _ (by decide), by decide⟩, _,
    @List.get?_mem _ tegra234Groups 50 _ rfl, rfl, fun _ => rfl⟩

/-- Two tegra234 probes on the same static data: the second finds `gp` with `ngroups = 8`
and leaves it at 16, while it writes 8 names for it. The core is then told that `gp` has 16
groups: its own 8, and the names of `uartc`, `i2c8` and `spi2` after them. -/
theorem tegra234_reprobe_doubles_ngroups (resources : List Nat) (regs₁ regs₂ : RegFile) :
    ∃ functions₁ pmx₁ functions₂ pmx₂,
      tegraPinctrlProbe tegra234Pinctrl (probeEnvOk resources)
        (initialFunctions tegra234Pinctrl) regs₁ = some (0, functions₁, some pmx₁) ∧
      tegraPinctrlProbe tegra234Pinctrl (probeEnvOk resources) functions₁ regs₂ =
        some (0, functions₂, some pmx₂) ∧
      (funcGroupNames tegra234Groups TegraMuxDt.gp.toCtorIdx).length = 8 ∧
      functions₁[0]?.map (·.ngroups) = some 8 ∧ functions₂[0]?.map (·.ngroups) = some 16 ∧
      tegraPinctrlGetFuncGroups pmx₂.groupPins functions₂ TegraMuxDt.gp.toCtorIdx =
        some (probeGroupPins tegra234Groups 0 4) := by
  refine ⟨_, _, _, _, tegraPinctrlProbe_probeEnvOk _ _ _ _, tegraPinctrlProbe_probeEnvOk _ _ _ _,
    by decide, ?_, ?_, ?_⟩
  · rw [getElem?_probeFunctionsResult]
    decide
  · rw [getElem?_probeFunctionsResult, getElem?_probeFunctionsResult]
    decide
  · have hf : (probeFunctionsResult tegra234Groups 0 0 (probeFunctionsResult tegra234Groups 0 0
        (initialFunctions tegra234Pinctrl)))[0]? = some ⟨"gp", 0, 16⟩ := by
      rw [getElem?_probeFunctionsResult, getElem?_probeFunctionsResult]
      decide
    have hlen : (probeFunctionsResult tegra234Groups 0 0
        (initialFunctions tegra234Pinctrl)).length = 4 + 86 := by
      simp only [probeFunctionsResult, List.length_mapIdx, initialFunctions, List.length_map]
      rfl
    have hA : (probeGroupPins tegra234Groups 0 4).length = 16 := by decide
    simp only [tegra234Pinctrl_groups]
    rw [tegraPinctrlGetFuncGroups_of_getElem? hf
      (by simp only [hlen, probeGroupPins_add, List.length_append, hA]; omega)]
    simp only [hlen, probeGroupPins_add, List.drop_zero]
    exact congrArg some (List.take_left' hA)

end TegraPinctrl
