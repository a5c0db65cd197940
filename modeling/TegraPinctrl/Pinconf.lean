import TegraPinctrl.RegField
import TegraPinctrl.Tegra234

/-! # Group configuration: `tegra_pinconf_reg`, `tegra_pinconf_group_get` and
`tegra_pinconf_group_set`

`tegraPinconfReg` locates the bit field of a parameter on a group, or reports it
unsupported. The getter reads the field; the setter applies a list of packed
configurations one after the other and returns at the first one it rejects, keeping the
writes of the configurations before it.

The shift amounts the two functions use are the `bit` and `width` `tegra_pinconf_reg`
returns. C defines those shifts only for amounts below 32; `PinconfFits` names the
condition that every supported field lies inside its register, under which the model
computes exactly what the C does. The tegra234 table meets it (`tegra234_pinconfFits`).

Under it a single configuration reads back what it wrote (`tegraPinconfGroupSet_single`), and
configurations whose fields share no bit do not disturb one another: the setter accepts them
all and each reads back its own argument (`tegraPinconfGroupSet_separate`). -/

namespace TegraPinctrl

/-- The out-parameters `bank`, `reg`, `bit` and `width` of `tegra_pinconf_reg`. -/
structure PinconfReg where
  bank : Int
  reg : Int
  bit : Int
  width : Int
  deriving DecidableEq, Repr

/-- The switch of `tegra_pinconf_reg`: the `bank`, `reg`, `bit` and `width` it assigns to each
parameter on `g`. -/
def pinconfLocation (soc : TegraPinctrlSocData) (g : TegraPingroup) :
    TegraPinconfParam → PinconfReg
  | .pull => ⟨g.pupdBank, g.pupdReg, g.pupdBit, 2⟩
  | .tristate => ⟨g.triBank, g.triReg, g.triBit, 1⟩
  | .enableInput => ⟨g.muxBank, g.muxReg, g.einputBit, 1⟩
  | .openDrain => ⟨g.muxBank, g.muxReg, g.odrainBit, 1⟩
  | .lock => ⟨g.muxBank, g.muxReg, g.lockBit, 1⟩
  | .ioreset => ⟨g.muxBank, g.muxReg, g.ioresetBit, 1⟩
  | .rcvSel => ⟨g.muxBank, g.muxReg, g.rcvSelBit, 1⟩
  | .loopback => ⟨g.lpbkBank, g.lpbkReg, g.lpbkBit, 1⟩
  | .highSpeedMode =>
    if soc.hsmInMux then ⟨g.muxBank, g.muxReg, g.hsmBit, 1⟩ else ⟨g.drvBank, g.drvReg, g.hsmBit, 1⟩
  | .schmitt =>
    if soc.schmittInMux then ⟨g.muxBank, g.muxReg, g.schmittBit, 1⟩
    else ⟨g.drvBank, g.drvReg, g.schmittBit, 1⟩
  | .lowPowerMode => ⟨g.drvBank, g.drvReg, g.lpmdBit, 2⟩
  | .driveDownStrength => ⟨g.drvBank, g.drvReg, g.drvdnBit, g.drvdnWidth⟩
  | .driveUpStrength => ⟨g.drvBank, g.drvReg, g.drvupBit, g.drvupWidth⟩
  | .slewRateFalling => ⟨g.drvBank, g.drvReg, g.slwfBit, g.slwfWidth⟩
  | .slewRateRising => ⟨g.drvBank, g.drvReg, g.slwrBit, g.slwrWidth⟩
  | .driveType =>
    if soc.drvtypeInMux then ⟨g.muxBank, g.muxReg, g.drvtypeBit, 2⟩
    else ⟨g.drvBank, g.drvReg, g.drvtypeBit, 2⟩
  | .function => ⟨g.muxBank, g.muxReg, g.muxBit, 2⟩
  | .padPower => ⟨g.padBank, g.padReg, g.padBit, 1⟩

/-- `tegra_pinconf_reg`: the field of parameter value `param` on `g`, or `-ENOTSUPP` for a
value outside the enumeration and for a field whose register or bit is absent. -/
def tegraPinconfReg (soc : TegraPinctrlSocData) (g : TegraPingroup) (param : Nat) :
    Except Int PinconfReg :=
  match TegraPinconfParam.ofNat? param with
  | none => .error (-ENOTSUPP)
  | some p =>
    let loc := pinconfLocation soc g p
    if loc.reg < 0 ∨ loc.bit < 0 then .error (-ENOTSUPP) else .ok loc

/-- The C `!arg` on an argument. -/
def cNot (arg : Nat) : Nat := if arg = 0 then 1 else 0

/-- `tegra_pinconf_group_get`: the configuration `*config` holds afterwards. -/
def tegraPinconfGroupGet (soc : TegraPinctrlSocData) (regs : RegFile) (g : TegraPingroup)
    (config : Nat) : Except Int Nat := do
  let param := tegraPinconfUnpackParam config
  let r ← tegraPinconfReg soc g param
  let val := pmxReadl regs r.bank r.reg
  let arg := (readField val r.bit.toNat r.width.toNat).toNat % 2 ^ 16
  let arg := if param = TegraPinconfParam.padPower.val then cNot arg else arg
  return tegraPinconfPack param arg

/-- One pass of the loop of `tegra_pinconf_group_set`: the registers after applying
`config`, or the error it returns with. -/
def tegraPinconfGroupSetOne (soc : TegraPinctrlSocData) (g : TegraPingroup) (config : Nat)
    (regs : RegFile) : Except Int RegFile := do
  let param := tegraPinconfUnpackParam config
  let arg := tegraPinconfUnpackArg config
  let arg := if param = TegraPinconfParam.padPower.val then cNot arg else arg
  let r ← tegraPinconfReg soc g param
  let val := pmxReadl regs r.bank r.reg
  -- `(val & BIT(bit)) && !arg`
  if param = TegraPinconfParam.lock.val ∧ val.getLsbD r.bit.toNat = true ∧ arg = 0 then
    throw (-EINVAL)
  let arg := if r.width = 1 then cNot (cNot arg) else arg
  let mask := fieldMask r.width.toNat
  if BitVec.ofNat 32 arg &&& ~~~mask ≠ 0#32 then throw (-EINVAL)
  return pmxWritel regs (writeField val r.bit.toNat r.width.toNat arg) r.bank r.reg

/-- `tegra_pinconf_group_set`: the return value and the registers afterwards. -/
def tegraPinconfGroupSet (soc : TegraPinctrlSocData) (g : TegraPingroup) :
    List Nat → RegFile → Int × RegFile
  | [], regs => (0, regs)
  | config :: configs, regs =>
    match tegraPinconfGroupSetOne soc g config regs with
    | .error e => (e, regs)
    | .ok regs' => tegraPinconfGroupSet soc g configs regs'

/-! ## What one configuration does -/

/-- The argument `tegra_pinconf_group_set` checks and stores for `config` in a field `width`
bits wide: the `pad-power` argument inverted, then any non-zero argument of a 1-bit field
made 1. -/
def pinconfArg (config : Nat) (width : Int) : Nat :=
  let arg := tegraPinconfUnpackArg config
  let arg := if tegraPinconfUnpackParam config = TegraPinconfParam.padPower.val then cNot arg
    else arg
  if width = 1 then cNot (cNot arg) else arg

/-- `tegra_pinconf_group_set` rejects `config` on `g` in `regs`: its parameter is not supported
on `g`, it clears a `LOCK` bit that reads 1, or its argument does not fit the field. -/
def PinconfRejected (soc : TegraPinctrlSocData) (g : TegraPingroup) (regs : RegFile)
    (config : Nat) : Prop :=
  match tegraPinconfReg soc g (tegraPinconfUnpackParam config) with
  | .error _ => True
  | .ok r =>
    (tegraPinconfUnpackParam config = TegraPinconfParam.lock.val ∧
        (regs r.bank r.reg).getLsbD r.bit.toNat = true ∧ pinconfArg config r.width = 0) ∨
      ¬ pinconfArg config r.width < 2 ^ r.width.toNat

/-- The read-modify-write `tegra_pinconf_group_set` performs for an accepted `config`. -/
def pinconfWrite (soc : TegraPinctrlSocData) (g : TegraPingroup) (regs : RegFile)
    (config : Nat) : RegFile :=
  match tegraPinconfReg soc g (tegraPinconfUnpackParam config) with
  | .error _ => regs
  | .ok r =>
    pmxWritel regs (writeField (regs r.bank r.reg) r.bit.toNat r.width.toNat
      (pinconfArg config r.width)) r.bank r.reg

@[simp] theorem cNot_cNot_eq_zero {arg : Nat} : cNot (cNot arg) = 0 ↔ arg = 0 := by
  unfold cNot; split <;> simp_all

theorem cNot_lt_two (arg : Nat) : cNot arg < 2 := by
  unfold cNot; split <;> decide

theorem pinconfArg_lt (config : Nat) (width : Int) : pinconfArg config width < 2 ^ 16 := by
  have h := tegraPinconfUnpackArg_lt config
  have h2 := cNot_lt_two (tegraPinconfUnpackArg config)
  have h3 := cNot_lt_two (cNot (tegraPinconfUnpackArg config))
  have h4 := cNot_lt_two (cNot (cNot (tegraPinconfUnpackArg config)))
  simp only [pinconfArg]
  split_ifs <;> omega

theorem tegraPinconfReg_eq_ok {soc : TegraPinctrlSocData} {g : TegraPingroup} {param : Nat}
    {loc : PinconfReg} :
    tegraPinconfReg soc g param = .ok loc ↔
      ∃ p, TegraPinconfParam.ofNat? param = some p ∧ pinconfLocation soc g p = loc ∧
        0 ≤ loc.reg ∧ 0 ≤ loc.bit := by
  unfold tegraPinconfReg
  cases TegraPinconfParam.ofNat? param with
  | none => simp
  | some p =>
    dsimp only
    simp only [Option.some.injEq, exists_eq_left']
    split_ifs with h
    · simp only [reduceCtorEq, false_iff, not_and]
      rintro rfl h1 h2
      exact h.elim (absurd h1 ∘ Int.not_le.mpr) (absurd h2 ∘ Int.not_le.mpr)
    · simp only [Except.ok.injEq]
      constructor
      · rintro rfl
        exact ⟨rfl, Int.not_lt.mp (h ∘ .inl), Int.not_lt.mp (h ∘ .inr)⟩
      · rintro ⟨rfl, -⟩; rfl

/-- `tegra_pinconf_reg` on the value of a parameter: the parameter's field, when its register and
bit are present. -/
theorem tegraPinconfReg_val_eq_ok {soc : TegraPinctrlSocData} {g : TegraPingroup}
    {p : TegraPinconfParam} {loc : PinconfReg} :
    tegraPinconfReg soc g p.val = .ok loc ↔
      pinconfLocation soc g p = loc ∧ 0 ≤ loc.reg ∧ 0 ≤ loc.bit := by
  simp [tegraPinconfReg_eq_ok]

theorem tegraPinconfReg_error {soc : TegraPinctrlSocData} {g : TegraPingroup} {param : Nat}
    {e : Int} (h : tegraPinconfReg soc g param = .error e) : e = -ENOTSUPP := by
  unfold tegraPinconfReg at h
  split at h
  · cases h; rfl
  · dsimp only at h
    split at h <;> cases h; rfl

theorem tegraPinconfGroupSetOne_spec (soc : TegraPinctrlSocData) (g : TegraPingroup)
    (config : Nat) (regs : RegFile) :
    (PinconfRejected soc g regs config ∧
        ∃ e, e ≠ 0 ∧ tegraPinconfGroupSetOne soc g config regs = .error e) ∨
      (¬ PinconfRejected soc g regs config ∧
        tegraPinconfGroupSetOne soc g config regs = .ok (pinconfWrite soc g regs config)) := by
  unfold PinconfRejected pinconfWrite
  cases hreg : tegraPinconfReg soc g (tegraPinconfUnpackParam config) with
  | error e =>
    refine .inl ⟨trivial, e, ?_, ?_⟩
    · rw [tegraPinconfReg_error hreg]; decide
    · simp only [tegraPinconfGroupSetOne, hreg, bind, Except.bind]
  | ok r =>
    have hlt := pinconfArg_lt config r.width
    have hzero : pinconfArg config r.width = 0 ↔
        (if tegraPinconfUnpackParam config = TegraPinconfParam.padPower.val then
          cNot (tegraPinconfUnpackArg config) else tegraPinconfUnpackArg config) = 0 := by
      simp only [pinconfArg]; split <;> simp
    have hrange := @ofNat_and_not_fieldMask_eq_zero _ r.width.toNat
      (lt_of_lt_of_le hlt (by decide))
    simp only [pinconfArg] at hlt hzero hrange
    simp only [tegraPinconfGroupSetOne, hreg, bind, Except.bind, pure, Except.pure, pmxReadl,
      pinconfArg]
    generalize (if tegraPinconfUnpackParam config = TegraPinconfParam.padPower.val then
      cNot (tegraPinconfUnpackArg config) else tegraPinconfUnpackArg config) = A at hlt hzero hrange ⊢
    have hB : (if r.width = 1 then cNot (cNot A) else A) = 0 ↔ A = 0 := by split <;> simp
    generalize (if r.width = 1 then cNot (cNot A) else A) = B at hlt hzero hrange hB ⊢
    split_ifs with hlock hbad
    · exact .inl ⟨.inl ⟨hlock.1, hlock.2.1, hB.mpr hlock.2.2⟩, -EINVAL, by decide, rfl⟩
    · exact .inl ⟨.inr (fun h => hbad (hrange.mpr h)), -EINVAL, by decide, rfl⟩
    · refine .inr ⟨?_, rfl⟩
      rintro (⟨h1, h2, h3⟩ | h)
      · exact hlock ⟨h1, h2, hB.mp h3⟩
      · exact h (hrange.mp (not_not.mp hbad))

/-! ## The loop -/

/-- The read-modify-writes of `configs`, applied in order with no check. -/
def pinconfWriteAll (soc : TegraPinctrlSocData) (g : TegraPingroup) :
    List Nat → RegFile → RegFile
  | [], regs => regs
  | config :: configs, regs => pinconfWriteAll soc g configs (pinconfWrite soc g regs config)

/-- Each configuration of `configs` is accepted in the registers the ones before it leave. -/
def PinconfAcceptsAll (soc : TegraPinctrlSocData) (g : TegraPingroup) :
    List Nat → RegFile → Prop
  | [], _ => True
  | config :: configs, regs =>
    ¬ PinconfRejected soc g regs config ∧
      PinconfAcceptsAll soc g configs (pinconfWrite soc g regs config)

theorem tegraPinconfGroupSet_stops_at_first_rejection (soc : TegraPinctrlSocData)
    (g : TegraPingroup) (configs : List Nat) (regs : RegFile) :
    ∃ pre rest, configs = pre ++ rest ∧ PinconfAcceptsAll soc g pre regs ∧
      (∀ config rest', rest = config :: rest' →
        PinconfRejected soc g (pinconfWriteAll soc g pre regs) config) ∧
      ((tegraPinconfGroupSet soc g configs regs).1 = 0 ↔ rest = []) ∧
      (tegraPinconfGroupSet soc g configs regs).2 = pinconfWriteAll soc g pre regs := by
  induction configs generalizing regs with
  | nil => exact ⟨[], [], rfl, trivial, by simp, by simp [tegraPinconfGroupSet], rfl⟩
  | cons config configs ih =>
    rcases tegraPinconfGroupSetOne_spec soc g config regs with ⟨hrej, e, he, hset⟩ | ⟨hacc, hset⟩
    · refine ⟨[], config :: configs, rfl, trivial, ?_, ?_, ?_⟩
      · rintro c r' ⟨rfl, rfl⟩; exact hrej
      · simp [tegraPinconfGroupSet, hset, he]
      · simp [tegraPinconfGroupSet, hset, pinconfWriteAll]
    · obtain ⟨pre, rest, hsplit, hall, hfirst, hret, hregs⟩ := ih (pinconfWrite soc g regs config)
      refine ⟨config :: pre, rest, by rw [hsplit]; rfl, ⟨hacc, hall⟩, hfirst, ?_, ?_⟩
      · simpa [tegraPinconfGroupSet, hset] using hret
      · simpa [tegraPinconfGroupSet, hset] using hregs

/-- `config` on `g` names register `(b, r)`: its parameter is supported on `g`, in that
register. -/
def PinconfWrites (soc : TegraPinctrlSocData) (g : TegraPingroup) (config : Nat) (b r : Int) :
    Prop :=
  ∃ loc, tegraPinconfReg soc g (tegraPinconfUnpackParam config) = .ok loc ∧ b = loc.bank ∧
    r = loc.reg

theorem pinconfWrite_apply_of_not_writes {soc : TegraPinctrlSocData} {g : TegraPingroup}
    {config : Nat} {b r : Int} (h : ¬ PinconfWrites soc g config b r) (regs : RegFile) :
    pinconfWrite soc g regs config b r = regs b r := by
  unfold pinconfWrite
  cases hreg : tegraPinconfReg soc g (tegraPinconfUnpackParam config) with
  | error e => rfl
  | ok loc => exact pmxWritel_apply_of_ne fun ⟨hb, hr⟩ => h ⟨loc, hreg, hb, hr⟩

/-- `tegra_pinconf_group_set` writes no register but those its configurations name, whether it
returns 0 or stops at a rejected one. -/
theorem tegraPinconfGroupSet_apply_of_not_writes (soc : TegraPinctrlSocData) (g : TegraPingroup)
    {b r : Int} {configs : List Nat} (h : ∀ c ∈ configs, ¬ PinconfWrites soc g c b r)
    (regs : RegFile) : (tegraPinconfGroupSet soc g configs regs).2 b r = regs b r := by
  induction configs generalizing regs with
  | nil => rfl
  | cons config configs ih =>
    rcases tegraPinconfGroupSetOne_spec soc g config regs with ⟨-, e, -, hset⟩ | ⟨-, hset⟩
    · simp [tegraPinconfGroupSet, hset]
    · rw [tegraPinconfGroupSet, hset, ih fun c hc => h c (List.mem_cons_of_mem _ hc)]
      exact pinconfWrite_apply_of_not_writes (h config (List.mem_cons_self _ _)) regs

/-- `tegra_pinconf_group_get` reads no register but the one of the parameter. -/
theorem tegraPinconfGroupGet_congr {soc : TegraPinctrlSocData} {g : TegraPingroup}
    {regs regs' : RegFile} {config : Nat}
    (h : ∀ loc, tegraPinconfReg soc g (tegraPinconfUnpackParam config) = .ok loc →
      regs' loc.bank loc.reg = regs loc.bank loc.reg) :
    tegraPinconfGroupGet soc regs' g config = tegraPinconfGroupGet soc regs g config := by
  unfold tegraPinconfGroupGet
  cases hloc : tegraPinconfReg soc g (tegraPinconfUnpackParam config) with
  | error e => simp only [hloc, bind, Except.bind]
  | ok loc => simp only [hloc, bind, Except.bind, pmxReadl, h loc hloc]

/-- `tegra_pinconf_group_get` on an unsupported parameter reads no register. -/
theorem tegraPinconfGroupGet_of_error {soc : TegraPinctrlSocData} {g : TegraPingroup}
    {config : Nat} {e : Int} (he : tegraPinconfReg soc g (tegraPinconfUnpackParam config) = .error e)
    (regs regs' : RegFile) :
    tegraPinconfGroupGet soc regs' g config = tegraPinconfGroupGet soc regs g config :=
  tegraPinconfGroupGet_congr fun _ hloc => by rw [he] at hloc; cases hloc

/-! ## One configuration, exactly -/

/-- Every field `tegra_pinconf_reg` returns on `g` lies inside its 32-bit register. -/
def PinconfFits (soc : TegraPinctrlSocData) (g : TegraPingroup) : Prop :=
  ∀ (p : TegraPinconfParam) (loc : PinconfReg), tegraPinconfReg soc g p.val = .ok loc →
    0 ≤ loc.width ∧ loc.bit + loc.width ≤ 32

theorem cNot_cNot (arg : Nat) : cNot (cNot arg) = if arg = 0 then 0 else 1 := by
  unfold cNot; split <;> simp_all

theorem pinconfLocation_padPower_width (soc : TegraPinctrlSocData) (g : TegraPingroup) :
    (pinconfLocation soc g .padPower).width = 1 := rfl

theorem pinconfLocation_lock_width (soc : TegraPinctrlSocData) (g : TegraPingroup) :
    (pinconfLocation soc g .lock).width = 1 := rfl

section Single

variable {soc : TegraPinctrlSocData} {g : TegraPingroup} {p : TegraPinconfParam}
  {loc : PinconfReg} {a : Nat}

/-- The argument stored for `PACK(p, a)`. -/
theorem pinconfArg_pack (hloc : pinconfLocation soc g p = loc) (ha : a < 2 ^ 16) :
    pinconfArg (tegraPinconfPack p.val a) loc.width =
      if p = .padPower then cNot a else if loc.width = 1 then cNot (cNot a) else a := by
  simp only [pinconfArg, tegraPinconfUnpackParam_pack ha, tegraPinconfUnpackArg_pack ha,
    TegraPinconfParam.val_inj]
  by_cases hp : p = .padPower
  · subst hp
    have hw : loc.width = 1 := hloc ▸ rfl
    simp [hw, cNot_cNot, cNot]
  · simp [hp]

/-- An accepted `PACK(p, a)` has a field: the one `pinconfLocation` places. -/
theorem tegraPinconfReg_of_not_rejected {regs : RegFile} (ha : a < 2 ^ 16)
    (hacc : ¬ PinconfRejected soc g regs (tegraPinconfPack p.val a)) :
    tegraPinconfReg soc g p.val = .ok (pinconfLocation soc g p) := by
  cases h : tegraPinconfReg soc g p.val with
  | error e => simp [PinconfRejected, tegraPinconfUnpackParam_pack ha, h] at hacc
  | ok loc => rw [(tegraPinconfReg_val_eq_ok.mp h).1]

/-- A single `PACK(p, a)` is accepted exactly when `a` fits the field (any `a` does in a
1-bit field) and it does not clear a set `LOCK` bit. -/
theorem not_pinconfRejected_pack_iff (hloc : tegraPinconfReg soc g p.val = .ok loc)
    (regs : RegFile) (ha : a < 2 ^ 16) :
    ¬ PinconfRejected soc g regs (tegraPinconfPack p.val a) ↔
      (loc.width = 1 ∨ a < 2 ^ loc.width.toNat) ∧
        ¬(p = .lock ∧ (regs loc.bank loc.reg).getLsbD loc.bit.toNat = true ∧ a = 0) := by
  obtain ⟨hqloc, -, -⟩ := tegraPinconfReg_val_eq_ok.mp hloc
  simp only [PinconfRejected, tegraPinconfUnpackParam_pack ha, hloc, pinconfArg_pack hqloc ha,
    TegraPinconfParam.val_inj]
  by_cases hw : loc.width = 1
  · have h2 : (2 : Nat) ^ loc.width.toNat = 2 := by rw [hw]; rfl
    by_cases hp : p = .padPower
    · subst hp; simp [hw, h2, cNot_lt_two]
    · simp [hp, hw, h2, cNot_lt_two]
  · have hp : p ≠ .padPower := by rintro rfl; exact hw (hqloc ▸ rfl)
    have hl : p ≠ .lock := by rintro rfl; exact hw (hqloc ▸ rfl)
    simp [hp, hl, hw]

/-- The read-modify-write of an accepted `PACK(p, a)` changes bits `[bit, bit + width)` of its
own register and nothing else, and the parameter then reads back as `a`, made boolean in a
1-bit field. -/
theorem pinconfWrite_pack (hfits : PinconfFits soc g)
    (hloc : tegraPinconfReg soc g p.val = .ok loc) (regs : RegFile) (ha : a < 2 ^ 16)
    (hacc : ¬ PinconfRejected soc g regs (tegraPinconfPack p.val a)) :
    let regs' := pinconfWrite soc g regs (tegraPinconfPack p.val a)
    (∀ b r, ¬(b = loc.bank ∧ r = loc.reg) → regs' b r = regs b r) ∧
      (∀ i, ¬(loc.bit.toNat ≤ i ∧ i < loc.bit.toNat + loc.width.toNat) →
        (regs' loc.bank loc.reg).getLsbD i = (regs loc.bank loc.reg).getLsbD i) ∧
      ∀ config, tegraPinconfUnpackParam config = p.val →
        tegraPinconfGroupGet soc regs' g config =
          .ok (tegraPinconfPack p.val (if loc.width = 1 then (if a = 0 then 0 else 1) else a)) := by
  intro regs'
  obtain ⟨hqloc, -, hbit⟩ := tegraPinconfReg_val_eq_ok.mp hloc
  obtain ⟨hw0, hfit⟩ := hfits p loc hloc
  have hparam := @tegraPinconfUnpackParam_pack p.val a ha
  have hfit' : loc.bit.toNat + loc.width.toNat ≤ 32 := by omega
  have hX : pinconfArg (tegraPinconfPack p.val a) loc.width < 2 ^ loc.width.toNat := by
    simp only [PinconfRejected, hparam, hloc, not_or, not_not] at hacc
    exact hacc.2
  have hregs' : regs' = pmxWritel regs (writeField (regs loc.bank loc.reg) loc.bit.toNat
      loc.width.toNat (pinconfArg (tegraPinconfPack p.val a) loc.width)) loc.bank loc.reg := by
    simp only [regs', pinconfWrite, hparam, hloc]
  refine ⟨fun b r hne => by rw [hregs', pmxWritel_apply_of_ne hne], fun i hi => ?_,
    fun config hconfig => ?_⟩
  · rw [hregs', pmxWritel_apply_self, getLsbD_writeField hX hfit', if_neg hi]
  · have hX16 := pinconfArg_lt (tegraPinconfPack p.val a) loc.width
    have hread : (readField (writeField (regs loc.bank loc.reg) loc.bit.toNat loc.width.toNat
        (pinconfArg (tegraPinconfPack p.val a) loc.width)) loc.bit.toNat
          loc.width.toNat).toNat % 2 ^ 16 = pinconfArg (tegraPinconfPack p.val a) loc.width := by
      rw [readField_writeField hX hfit', BitVec.toNat_ofNat,
        Nat.mod_eq_of_lt (lt_of_lt_of_le hX16 (by decide)), Nat.mod_eq_of_lt hX16]
    simp only [tegraPinconfGroupGet, hconfig, hloc, bind, Except.bind, pure, Except.pure,
      hregs', pmxReadl, pmxWritel_apply_self]
    rw [hread, pinconfArg_pack hqloc ha]
    simp only [TegraPinconfParam.val_inj]
    by_cases hp : p = .padPower
    · subst hp
      have hw : loc.width = 1 := hqloc ▸ rfl
      simp [hw, cNot_cNot]
    · simp [hp, cNot_cNot]

/-- What `tegra_pinconf_group_set` does with the single configuration `PACK(p, a)` from
registers `regs`, when `p` sits in the field `loc` of `g`: it is accepted exactly when `a`
fits the field (any `a` does in a 1-bit field) and it does not clear a set `LOCK` bit; an
accepted configuration changes bits `[bit, bit + width)` of its own register and nothing
else, and `p` then reads back as `a`, made boolean in a 1-bit field. -/
structure PinconfSetExact (soc : TegraPinctrlSocData) (g : TegraPingroup)
    (p : TegraPinconfParam) (loc : PinconfReg) (regs : RegFile) (a : Nat) : Prop where
  accepted_iff : (tegraPinconfGroupSet soc g [tegraPinconfPack p.val a] regs).1 = 0 ↔
    (loc.width = 1 ∨ a < 2 ^ loc.width.toNat) ∧
      ¬(p = .lock ∧ (regs loc.bank loc.reg).getLsbD loc.bit.toNat = true ∧ a = 0)
  other_registers : (tegraPinconfGroupSet soc g [tegraPinconfPack p.val a] regs).1 = 0 →
    ∀ b r, ¬(b = loc.bank ∧ r = loc.reg) →
      (tegraPinconfGroupSet soc g [tegraPinconfPack p.val a] regs).2 b r = regs b r
  other_bits : (tegraPinconfGroupSet soc g [tegraPinconfPack p.val a] regs).1 = 0 →
    ∀ i, ¬(loc.bit.toNat ≤ i ∧ i < loc.bit.toNat + loc.width.toNat) →
      ((tegraPinconfGroupSet soc g [tegraPinconfPack p.val a] regs).2 loc.bank loc.reg).getLsbD i =
        (regs loc.bank loc.reg).getLsbD i
  reads_back : (tegraPinconfGroupSet soc g [tegraPinconfPack p.val a] regs).1 = 0 →
    ∀ config, tegraPinconfUnpackParam config = p.val →
      tegraPinconfGroupGet soc (tegraPinconfGroupSet soc g [tegraPinconfPack p.val a] regs).2 g
          config =
        .ok (tegraPinconfPack p.val (if loc.width = 1 then (if a = 0 then 0 else 1) else a))

theorem tegraPinconfGroupSet_single (hfits : PinconfFits soc g)
    (hloc : tegraPinconfReg soc g p.val = .ok loc) (regs : RegFile) (ha : a < 2 ^ 16) :
    PinconfSetExact soc g p loc regs a := by
  have hiff := not_pinconfRejected_pack_iff hloc regs ha
  rcases tegraPinconfGroupSetOne_spec soc g (tegraPinconfPack p.val a) regs with
    ⟨hrej, e, he, hset⟩ | ⟨hacc, hset⟩
  · have hres : tegraPinconfGroupSet soc g [tegraPinconfPack p.val a] regs = (e, regs) := by
      simp only [tegraPinconfGroupSet, hset]
    refine ⟨?_, ?_, ?_, ?_⟩ <;> simp only [hres, he, false_imp_iff, false_iff, implies_true]
    exact fun h => hiff.mpr h hrej
  · have hres : tegraPinconfGroupSet soc g [tegraPinconfPack p.val a] regs =
        (0, pinconfWrite soc g regs (tegraPinconfPack p.val a)) := by
      simp only [tegraPinconfGroupSet, hset]
    obtain ⟨h1, h2, h3⟩ := pinconfWrite_pack hfits hloc regs ha hacc
    refine ⟨?_, fun _ => ?_, fun _ => ?_, fun _ => ?_⟩ <;> rw [hres]
    exacts [iff_of_true rfl (hiff.mp hacc), h1, h2, h3]

end Single

/-! ## Several configurations -/

/-- Bit `i` of register `(b, r)` belongs to the field `loc`. -/
def PinconfReg.Covers (loc : PinconfReg) (b r : Int) (i : Nat) : Prop :=
  b = loc.bank ∧ r = loc.reg ∧ loc.bit.toNat ≤ i ∧ i < loc.bit.toNat + loc.width.toNat

/-- Two fields that share no bit: they lie in different registers or in disjoint bit ranges. -/
def PinconfReg.Separate (l₁ l₂ : PinconfReg) : Prop :=
  ¬(l₁.bank = l₂.bank ∧ l₁.reg = l₂.reg) ∨ l₁.bit.toNat + l₁.width.toNat ≤ l₂.bit.toNat ∨
    l₂.bit.toNat + l₂.width.toNat ≤ l₁.bit.toNat

instance (l₁ l₂ : PinconfReg) : Decidable (l₁.Separate l₂) :=
  inferInstanceAs (Decidable (_ ∨ _))

theorem PinconfReg.Separate.not_covers {l₁ l₂ : PinconfReg} {b r : Int} {i : Nat}
    (h : l₁.Separate l₂) (h₁ : l₁.Covers b r i) : ¬ l₂.Covers b r i := by
  unfold Separate Covers at *
  omega

section Several

variable {soc : TegraPinctrlSocData} {g : TegraPingroup}

/-- `tegra_pinconf_group_get` on a supported parameter reads only the bits of its field. -/
theorem tegraPinconfGroupGet_congr_field (hfits : PinconfFits soc g) {p : TegraPinconfParam}
    {loc : PinconfReg} (hloc : tegraPinconfReg soc g p.val = .ok loc) {config : Nat}
    (hp : tegraPinconfUnpackParam config = p.val) {regs regs' : RegFile}
    (h : ∀ i, loc.Covers loc.bank loc.reg i →
      (regs' loc.bank loc.reg).getLsbD i = (regs loc.bank loc.reg).getLsbD i) :
    tegraPinconfGroupGet soc regs' g config = tegraPinconfGroupGet soc regs g config := by
  obtain ⟨hw0, hfit⟩ := hfits p loc hloc
  obtain ⟨-, -, -, -, hbit⟩ := tegraPinconfReg_eq_ok.mp hloc
  have hfield : readField (regs' loc.bank loc.reg) loc.bit.toNat loc.width.toNat =
      readField (regs loc.bank loc.reg) loc.bit.toNat loc.width.toNat :=
    readField_congr (by omega) fun i h₁ h₂ => h i ⟨rfl, rfl, h₁, h₂⟩
  simp only [tegraPinconfGroupGet, hp, hloc, bind, Except.bind, pmxReadl, hfield]

/-- A configuration `(p, a)` that `tegra_pinconf_group_set` accepts on `g` in `regs`: `p` is
supported on `g`, `a` fits its field (any `a` does in a 1-bit field), and it does not clear a
`LOCK` bit that reads 1. -/
def PinconfApplies (soc : TegraPinctrlSocData) (g : TegraPingroup) (regs : RegFile)
    (c : TegraPinconfParam × Nat) : Prop :=
  let loc := pinconfLocation soc g c.1
  tegraPinconfReg soc g c.1.val = .ok loc ∧ c.2 < 2 ^ 16 ∧
    (loc.width = 1 ∨ c.2 < 2 ^ loc.width.toNat) ∧
    ¬(c.1 = .lock ∧ (regs loc.bank loc.reg).getLsbD loc.bit.toNat = true ∧ c.2 = 0)

/-- An accepted configuration changes no bit outside its field. -/
theorem pinconfWrite_pack_frame (hfits : PinconfFits soc g) {c : TegraPinconfParam × Nat}
    {regs : RegFile} (happ : PinconfApplies soc g regs c) (b r : Int) (i : Nat)
    (hi : ¬ (pinconfLocation soc g c.1).Covers b r i) :
    (pinconfWrite soc g regs (tegraPinconfPack c.1.val c.2) b r).getLsbD i =
      (regs b r).getLsbD i := by
  obtain ⟨hloc, ha, hw, hlock⟩ := happ
  obtain ⟨hother, hbits, -⟩ := pinconfWrite_pack hfits hloc regs ha
    ((not_pinconfRejected_pack_iff hloc regs ha).mpr ⟨hw, hlock⟩)
  by_cases hreg : b = (pinconfLocation soc g c.1).bank ∧ r = (pinconfLocation soc g c.1).reg
  · obtain ⟨rfl, rfl⟩ := hreg
    exact hbits i fun h => hi ⟨rfl, rfl, h⟩
  · rw [hother b r hreg]

end Several

/-! ## The tegra234 table -/

/-- The bit and width of each field `tegra_pinconf_reg` can return on `g`, whatever the
SoC's placement flags, in the order of the parameters' values. -/
def pinconfFields (g : TegraPingroup) : List (Int × Int) :=
  [(g.pupdBit, 2), (g.triBit, 1), (g.einputBit, 1), (g.odrainBit, 1), (g.lockBit, 1),
    (g.ioresetBit, 1), (g.rcvSelBit, 1), (g.lpbkBit, 1), (g.hsmBit, 1), (g.schmittBit, 1),
    (g.lpmdBit, 2), (g.drvdnBit, g.drvdnWidth), (g.drvupBit, g.drvupWidth),
    (g.slwfBit, g.slwfWidth), (g.slwrBit, g.slwrWidth), (g.drvtypeBit, 2), (g.muxBit, 2),
    (g.padBit, 1)]

/-- A field, as (bit, width), that is absent or lies inside its 32-bit register. -/
def FieldFits (f : Int × Int) : Prop := f.1 < 0 ∨ (0 ≤ f.2 ∧ f.1 + f.2 ≤ 32)

instance (f : Int × Int) : Decidable (FieldFits f) := inferInstanceAs (Decidable (_ ∨ _))

theorem getElem?_pinconfFields (soc : TegraPinctrlSocData) (g : TegraPingroup)
    (p : TegraPinconfParam) :
    (pinconfFields g)[p.val]? =
      some ((pinconfLocation soc g p).bit, (pinconfLocation soc g p).width) := by
  cases p <;> simp only [pinconfLocation] <;> (try split) <;> rfl

theorem pinconfFits_of_fieldFits {soc : TegraPinctrlSocData} {g : TegraPingroup}
    (h : ∀ f ∈ pinconfFields g, FieldFits f) : PinconfFits soc g := by
  intro p loc hloc
  obtain ⟨rfl, -, hbit⟩ := tegraPinconfReg_val_eq_ok.mp hloc
  exact (h _ (List.getElem?_mem (getElem?_pinconfFields soc g _))).resolve_left
    (Int.not_lt.mpr hbit)

/-- The field layouts of the tegra234 groups: the first is that of the groups with drive
fields at bits 12 and 20 (150 of them), the others differ in the loopback bit, the drive
fields, or lack the input, loopback and Schmitt fields. -/
def tegra234FieldLayouts : List (List (Int × Int)) := [
  [(2, 2), (4, 1), (6, 1), (0, 1), (-1, 1), (0, 1), (0, 1), (7, 1), (-1, 1), (12, 1), (-1, 2),
    (12, 5), (20, 5), (-1, -1), (-1, -1), (13, 2), (0, 2), (0, 1)],
  [(2, 2), (4, 1), (6, 1), (0, 1), (-1, 1), (0, 1), (0, 1), (5, 1), (-1, 1), (12, 1), (-1, 2),
    (28, 2), (30, 2), (-1, -1), (-1, -1), (13, 2), (0, 2), (0, 1)],
  [(2, 2), (4, 1), (6, 1), (0, 1), (-1, 1), (0, 1), (0, 1), (5, 1), (-1, 1), (12, 1), (-1, 2),
    (-1, 0), (-1, 0), (-1, 0), (-1, 0), (13, 2), (0, 2), (0, 1)],
  [(2, 2), (4, 1), (-1, 1), (0, 1), (-1, 1), (0, 1), (0, 1), (-1, 1), (-1, 1), (-1, 1), (-1, 2),
    (-1, 0), (-1, 0), (-1, 0), (-1, 0), (13, 2), (0, 2), (0, 1)],
  [(2, 2), (4, 1), (6, 1), (0, 1), (-1, 1), (0, 1), (0, 1), (5, 1), (-1, 1), (12, 1), (-1, 2),
    (12, 5), (24, 5), (-1, -1), (-1, -1), (13, 2), (0, 2), (0, 1)]]

theorem tegra234_pinconfFields_mem :
    ∀ g ∈ tegra234Groups, pinconfFields g ∈ tegra234FieldLayouts := by
  have h : tegra234Groups.all (fun g => pinconfFields g ∈ tegra234FieldLayouts) = true := by
    decide
  exact fun g hg => of_decide_eq_true (List.all_eq_true.mp h g hg)

/-- Every field of every tegra234 group lies inside its register. -/
theorem tegra234_pinconfFits : ∀ g ∈ tegra234Groups, PinconfFits tegra234Pinctrl g := by
  have h : ∀ L ∈ tegra234FieldLayouts, ∀ f ∈ L, FieldFits f := by decide
  exact fun g hg => pinconfFits_of_fieldFits (h _ (tegra234_pinconfFields_mem g hg))

theorem tegra234_pinconf_set_get_exact {g : TegraPingroup} (hg : g ∈ tegra234Groups)
    (p : TegraPinconfParam) {loc : PinconfReg}
    (hloc : tegraPinconfReg tegra234Pinctrl g p.val = .ok loc) (regs : RegFile) {a : Nat}
    (ha : a < 2 ^ 16) : PinconfSetExact tegra234Pinctrl g p loc regs a :=
  tegraPinconfGroupSet_single (tegra234_pinconfFits g hg) hloc regs ha

theorem tegra234_pinconf_set_get_exact_tristate :
    let g := tegra234Groups.head (List.cons_ne_nil _ _)
    g ∈ tegra234Groups ∧
      tegraPinconfReg tegra234Pinctrl g TegraPinconfParam.tristate.val = .ok ⟨1, 0x2000, 4, 1⟩ ∧
      (5 : Nat) < 2 ^ 16 ∧
      PinconfSetExact tegra234Pinctrl g .tristate ⟨1, 0x2000, 4, 1⟩ (fun _ _ => 0) 5 :=
  ⟨List.mem_cons_self _ _, rfl, by decide,
    tegra234_pinconf_set_get_exact (List.mem_cons_self _ _) .tristate rfl _ (by decide)⟩

/-- `touch_clk_pcc4` in the all-zero register state: `OPEN_DRAIN` and `FUNCTION` are both
supported, at bit 0 of the same mux register, so setting `OPEN_DRAIN` to 1 succeeds and moves
the group's function from `GP` (0) to `TOUCH` (1). -/
theorem tegra234_openDrain_set_changes_function :
    ∃ g ∈ tegra234Groups, g.name = "touch_clk_pcc4" ∧
      tegraPinconfReg tegra234Pinctrl g TegraPinconfParam.openDrain.val = .ok ⟨1, 0x2000, 0, 1⟩ ∧
      tegraPinconfReg tegra234Pinctrl g TegraPinconfParam.function.val = .ok ⟨1, 0x2000, 0, 2⟩ ∧
      let regs : RegFile := fun _ _ => 0
      let res := tegraPinconfGroupSet tegra234Pinctrl g
        [tegraPinconfPack TegraPinconfParam.openDrain.val 1] regs
      res.1 = 0 ∧
      tegraPinconfGroupGet tegra234Pinctrl regs g
          (tegraPinconfPack TegraPinconfParam.function.val 0) =
        .ok (tegraPinconfPack TegraPinconfParam.function.val 0) ∧
      tegraPinconfGroupGet tegra234Pinctrl res.2 g
          (tegraPinconfPack TegraPinconfParam.function.val 0) =
        .ok (tegraPinconfPack TegraPinconfParam.function.val 1) :=
  ⟨_, List.mem_cons_self _ _, rfl, rfl, rfl, rfl, rfl, rfl⟩

end TegraPinctrl
