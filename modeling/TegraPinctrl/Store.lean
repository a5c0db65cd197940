import TegraPinctrl.View

/-! # The configuration store across suspend and resume

`tegra_pinctrl_suspend` copies every bank into `backup_regs`, and `tegra_pinctrl_resume` copies
it back. In the view of `View` this is a store with one snapshot (`ConfStore`): suspend takes the
snapshot, resume makes it the configuration again, and every other call acts on the
configuration as `viewStep` says (`storeStep`). The snapshot the driver holds is the view of
`savedRegs`, the registers the backup area would give back.

The driver implements that store when every register of every tegra234 group is a word of a
bank of the device (`BanksCover`; `tegra234_banksCover` gives bank sizes that suffice). One
call keeps the simulation relation `Implements` (`tegra234_step_implements`), and so does a
whole run of described calls, suspends and resumes (`tegra234_run_implements`). In particular,
suspend, any such calls but a second suspend, then resume, gives every group back its
configuration, every parameter of it (`tegra234_suspend_resume_view`). -/

namespace TegraPinctrl

/-! ## The banks -/

/-- Whether register `x`, as (bank, byte offset), is a word of a bank of `resources`: one of
those suspend saves and resume writes back. -/
def InBank (resources : List Nat) (x : Int × Int) : Prop :=
  0 ≤ x.1 ∧ x.1 < resources.length ∧ 0 ≤ x.2 ∧ x.2 % 4 = 0 ∧
    x.2 / 4 < tegraPinctrlGetBankSize resources x.1.toNat

instance (resources : List Nat) (x : Int × Int) : Decidable (InBank resources x) :=
  inferInstanceAs (Decidable (_ ∧ _))

theorem InBank.exists_word {resources : List Nat} {x : Int × Int} (h : InBank resources x) :
    ∃ i < resources.length, ∃ k < tegraPinctrlGetBankSize resources i,
      x = ((i : Int), ((4 * k : Nat) : Int)) := by
  obtain ⟨hb, hlen, hr, hr4, hk⟩ := h
  exact ⟨x.1.toNat, by omega, (x.2 / 4).toNat, by omega, Prod.ext (by omega) (by omega)⟩

/-- Every register of every tegra234 group is a word of a bank of `resources`. -/
def BanksCover (resources : List Nat) : Prop :=
  ∀ g ∈ tegra234Groups, ∀ x ∈ ownRegs g, InBank resources x

/-- The registers of the tegra234 groups are words of bank 0 below byte `0x19040` or of bank 1
below byte `0x3060`. -/
theorem tegra234_ownRegs_bounds : ∀ g ∈ tegra234Groups, ∀ x ∈ ownRegs g,
    (x.1 = 0 ∧ x.2 < 0x19040 ∨ x.1 = 1 ∧ x.2 < 0x3060) ∧ 0 ≤ x.2 ∧ x.2 % 4 = 0 := by
  have h : tegra234Groups.all (fun g => (ownRegs g).all fun x =>
      decide ((x.1 = 0 ∧ x.2 < 0x19040 ∨ x.1 = 1 ∧ x.2 < 0x3060) ∧ x.2 % 4 = 0)) = true := by
    decide
  intro g hg x hx
  obtain ⟨hbank, hr4⟩ := of_decide_eq_true (List.all_eq_true.mp (List.all_eq_true.mp h g hg) x hx)
  exact ⟨hbank, (mem_ownRegs.mp hx).2, hr4⟩

/-- A device whose first two banks span at least `0x19040` and `0x3060` bytes has every
register of every tegra234 group in its banks. -/
theorem tegra234_banksCover {s₀ s₁ : Nat} (h₀ : 0x19040 ≤ s₀) (h₁ : 0x3060 ≤ s₁)
    (rest : List Nat) : BanksCover (s₀ :: s₁ :: rest) := by
  intro g hg x hx
  obtain ⟨hbank, hr, hr4⟩ := tegra234_ownRegs_bounds g hg x hx
  simp only [InBank, List.length_cons, tegraPinctrlGetBankSize]
  rcases hbank with ⟨hb, hlt⟩ | ⟨hb, hlt⟩ <;> rw [hb] <;> simp <;> omega

/-! ## The backup area as registers -/

/-- The registers the backup area gives back: word `k` of bank `i` is word
`backupWords resources 0 i + k` of `backup_regs`, where suspend put it and resume reads it. -/
def savedRegs (pmx : TegraPmx) : RegFile := fun b r =>
  pmx.backupRegs (backupWords pmx.resources 0 b.toNat + (r / 4).toNat)

theorem savedRegs_word (pmx : TegraPmx) (i k : Nat) :
    savedRegs pmx i (4 * k : Nat) = pmx.backupRegs (backupWords pmx.resources 0 i + k) := by
  simp only [savedRegs]
  congr 2
  omega

theorem savedRegs_congr {pmx pmx' : TegraPmx} (hb : pmx'.backupRegs = pmx.backupRegs)
    (hr : pmx'.resources = pmx.resources) : savedRegs pmx' = savedRegs pmx := by
  unfold savedRegs
  rw [hb, hr]

/-- After suspend, the backup area gives back every word of every bank as it was. -/
theorem savedRegs_suspend {pmx : TegraPmx} {x : Int × Int} (hx : InBank pmx.resources x) :
    savedRegs (tegraPinctrlSuspend pmx) x.1 x.2 = pmx.regs x.1 x.2 := by
  obtain ⟨i, hi, k, hk, rfl⟩ := hx.exists_word
  exact (savedRegs_word _ i k).trans ((tegraPinctrlSuspend_backupRegs pmx).2.2 i hi k hk)

/-- Calls other than suspend keep what the backup area gives back. -/
theorem savedRegs_pmxRun {soc : TegraPinctrlSocData} {ops : List PmxOp}
    (hops : PmxOp.suspend ∉ ops) {pmx pmx' : TegraPmx} (h : pmxRun soc pmx ops = some pmx') :
    savedRegs pmx' = savedRegs pmx := by
  induction ops generalizing pmx with
  | nil =>
    cases h
    rfl
  | cons op ops ih =>
    obtain ⟨pmx₁, h₁, h⟩ := Option.bind_eq_some.mp h
    rw [List.mem_cons, not_or] at hops
    rw [ih hops.2 h, savedRegs_congr (pmxStep_backupRegs h₁ (Ne.symm hops.1)) (pmxStep_frame h₁).1]

/-- Resume writes every word of every bank from the backup area. -/
theorem tegraPinctrlResume_word {pmx pmx' : TegraPmx} (h : tegraPinctrlResume pmx = some pmx')
    {x : Int × Int} (hx : InBank pmx.resources x) : pmx'.regs x.1 x.2 = savedRegs pmx x.1 x.2 := by
  simp only [tegraPinctrlResume] at h
  split_ifs at h
  cases h
  obtain ⟨i, hi, k, hk, rfl⟩ := hx.exists_word
  rw [savedRegs_word]
  simpa using (resumeBanks_spec pmx 0 pmx.resources.length 0 pmx.regs).2 i hi k
    (by simpa using hk)

/-- Every register the view of a tegra234 group reads is a register of a tegra234 group: one of
its own, or for `PAD_POWER` the mux register that holds the bit of all groups. -/
theorem tegra234_pinconfReg_mem_ownRegs {g : TegraPingroup} (hg : g ∈ tegra234Groups)
    {q : TegraPinconfParam} {loc : PinconfReg}
    (hloc : tegraPinconfReg tegra234Pinctrl g q.val = .ok loc) :
    ∃ e ∈ tegra234Groups, (loc.bank, loc.reg) ∈ ownRegs e := by
  by_cases hq : q = .padPower
  · subst hq
    rw [(tegra234_regLayout g hg).tegraPinconfReg_padPower] at hloc
    cases hloc
    exact tegra234_padPower_reg_mem
  · exact ⟨g, hg, (tegra234_regLayout g hg).pinconfWrites_mem (unpackParam_pack_ne_padPower hq)
      ⟨loc, by rwa [tegraPinconfUnpackParam_pack (by decide)], rfl, rfl⟩⟩

/-- The view of the tegra234 groups reads only their own registers. -/
theorem tegra234_groupsView_congr {regs regs' : RegFile}
    (h : ∀ g ∈ tegra234Groups, ∀ x ∈ ownRegs g, regs' x.1 x.2 = regs x.1 x.2) (k : Nat)
    (q : TegraPinconfParam) :
    groupsView tegra234Pinctrl tegra234Groups regs' k q =
      groupsView tegra234Pinctrl tegra234Groups regs k q :=
  groupsView_congr fun _ g hk => by
    cases hloc : tegraPinconfReg tegra234Pinctrl g q.val with
    | error e => exact pinView_congr_of_error hloc _
    | ok loc =>
      obtain ⟨e, he, hx⟩ := tegra234_pinconfReg_mem_ownRegs (List.getElem?_mem hk) hloc
      exact pinView_congr_of_ok hloc (h e he _ hx)

/-! ## The store -/

/-- The abstract state of the configuration: the view of every group, and the snapshot resume
puts back. -/
structure ConfStore where
  cur : Nat → TegraPinconfParam → Except Int Nat
  saved : Nat → TegraPinconfParam → Except Int Nat

/-- What a call does to the store: suspend takes the snapshot, resume puts it back, and any
other call acts on the configuration as `viewStep` says. -/
def storeStep (store : ConfStore) : PmxOp → ConfStore
  | .suspend => { store with saved := store.cur }
  | .resume => { store with cur := store.saved }
  | op => { store with cur := viewStep tegra234Pinctrl tegra234Groups store.cur op }

@[simp] theorem storeStep_suspend_cur (store : ConfStore) :
    (storeStep store .suspend).cur = store.cur := rfl

@[simp] theorem storeStep_suspend_saved (store : ConfStore) :
    (storeStep store .suspend).saved = store.cur := rfl

@[simp] theorem storeStep_resume_cur (store : ConfStore) :
    (storeStep store .resume).cur = store.saved := rfl

@[simp] theorem storeStep_resume_saved (store : ConfStore) :
    (storeStep store .resume).saved = store.saved := rfl

theorem storeStep_of_ne {op : PmxOp} (hs : op ≠ .suspend) (hr : op ≠ .resume)
    (store : ConfStore) :
    storeStep store op = { store with cur := viewStep tegra234Pinctrl tegra234Groups store.cur op } := by
  cases op <;> first | rfl | contradiction

/-- Over calls that take no new snapshot, the snapshot stays. -/
theorem foldl_storeStep_saved {ops : List PmxOp} (hops : ∀ op ∈ ops, op ≠ .suspend)
    (store : ConfStore) : (ops.foldl storeStep store).saved = store.saved := by
  induction ops generalizing store with
  | nil => rfl
  | cons op ops ih =>
    rw [List.foldl_cons, ih fun op' h => hops op' (List.mem_cons_of_mem _ h)]
    by_cases hr : op = .resume
    · rw [hr, storeStep_resume_saved]
    · rw [storeStep_of_ne (hops op (List.mem_cons_self _ _)) hr]

/-- The store the driver state `pmx` holds. -/
def storeOf (pmx : TegraPmx) : ConfStore :=
  ⟨groupsView tegra234Pinctrl tegra234Groups pmx.regs,
    groupsView tegra234Pinctrl tegra234Groups (savedRegs pmx)⟩

/-- The driver state `pmx` implements `store`, for every parameter of `separateParams`: its
registers give the configuration, its backup area the snapshot. `PAD_POWER`, `OPEN_DRAIN`,
`IO_RESET` and `RCV_SEL` are left out, since `viewStep` does not describe them. -/
structure Implements (pmx : TegraPmx) (store : ConfStore) : Prop where
  cur : ∀ k, ∀ q ∈ separateParams,
    groupsView tegra234Pinctrl tegra234Groups pmx.regs k q = store.cur k q
  saved : ∀ k, ∀ q ∈ separateParams,
    groupsView tegra234Pinctrl tegra234Groups (savedRegs pmx) k q = store.saved k q

@[simp] theorem storeOf_cur (pmx : TegraPmx) :
    (storeOf pmx).cur = groupsView tegra234Pinctrl tegra234Groups pmx.regs := by
  simp only [storeOf]

@[simp] theorem storeOf_saved (pmx : TegraPmx) :
    (storeOf pmx).saved = groupsView tegra234Pinctrl tegra234Groups (savedRegs pmx) := by
  simp only [storeOf]

theorem implements_storeOf (pmx : TegraPmx) : Implements pmx (storeOf pmx) :=
  ⟨fun _ _ _ => by rw [storeOf_cur], fun _ _ _ => by rw [storeOf_saved]⟩

/-! ## Refinement -/

/-- One described call, suspend or resume keeps the simulation relation, on a device whose
banks hold the registers of the tegra234 groups. -/
theorem tegra234_step_implements {pmx pmx' : TegraPmx} {op : PmxOp} {store : ConfStore}
    (hcov : BanksCover pmx.resources) (hop : op.Described ∨ op = .resume)
    (h : pmxStep tegra234Pinctrl pmx op = some pmx') (hs : Implements pmx store) :
    Implements pmx' (storeStep store op) := by
  by_cases hsus : op = .suspend
  · -- the snapshot is the configuration
    subst hsus
    cases h
    refine ⟨hs.cur, fun k q hq => ?_⟩
    rw [storeStep_suspend_saved, ← hs.cur k q hq]
    exact tegra234_groupsView_congr (fun g hg x hx => savedRegs_suspend (hcov g hg x hx)) k q
  have hsaved : savedRegs pmx' = savedRegs pmx :=
    savedRegs_congr (pmxStep_backupRegs h hsus) (pmxStep_frame h).1
  rcases hop with hop | rfl
  · -- a configuration call: the snapshot stays
    rw [storeStep_of_ne hsus fun hr => by rw [hr] at hop; exact hop]
    refine ⟨fun k q hq => ?_, fun k q hq => hsaved ▸ hs.saved k q hq⟩
    rw [tegra234_step_refines hop h k hq]
    exact tegra234_viewStep_congr hop (fun q hq => hs.cur k q hq) q hq
  · -- resume: the snapshot is the configuration again
    refine ⟨fun k q hq => ?_, fun k q hq => hsaved ▸ hs.saved k q hq⟩
    rw [storeStep_resume_cur, ← hs.saved k q hq]
    exact tegra234_groupsView_congr (fun g hg x hx => tegraPinctrlResume_word h (hcov g hg x hx))
      k q

/-- Over any run of described calls, suspends and resumes on a device whose banks hold the
registers of the tegra234 groups, the driver implements the configuration store. -/
theorem tegra234_run_implements {ops : List PmxOp}
    (hops : ∀ op ∈ ops, op.Described ∨ op = .resume) {pmx pmx' : TegraPmx}
    (hcov : BanksCover pmx.resources) (h : pmxRun tegra234Pinctrl pmx ops = some pmx')
    {store : ConfStore} (hs : Implements pmx store) :
    Implements pmx' (ops.foldl storeStep store) := by
  induction ops generalizing pmx store with
  | nil =>
    cases h
    exact hs
  | cons op ops ih =>
    obtain ⟨pmx₁, h₁, h⟩ := Option.bind_eq_some.mp h
    exact ih (fun op' hop => hops op' (List.mem_cons_of_mem _ hop)) ((pmxStep_frame h₁).1 ▸ hcov)
      h (tegra234_step_implements hcov (hops op (List.mem_cons_self _ _)) h₁ hs)

/-- Suspend, then any calls but a second suspend, then resume, on a device whose banks hold the
registers of the tegra234 groups: every group reads back every parameter as before the
suspend. -/
theorem tegra234_suspend_resume_view {ops : List PmxOp} (hops : PmxOp.suspend ∉ ops)
    {pmx pmx' : TegraPmx} (hcov : BanksCover pmx.resources)
    (h : pmxRun tegra234Pinctrl pmx (.suspend :: ops ++ [.resume]) = some pmx') (k : Nat)
    (q : TegraPinconfParam) :
    groupsView tegra234Pinctrl tegra234Groups pmx'.regs k q =
      groupsView tegra234Pinctrl tegra234Groups pmx.regs k q := by
  rw [pmxRun_append] at h
  obtain ⟨pmx₁, h₁, h⟩ := Option.bind_eq_some.mp h
  obtain ⟨_, hsus, hrun⟩ := Option.bind_eq_some.mp h₁
  cases hsus
  obtain ⟨_, hres, hnil⟩ := Option.bind_eq_some.mp h
  cases hnil
  -- resume writes back the words suspend saved, which the calls in between kept
  have hsaved : savedRegs pmx₁ = savedRegs (tegraPinctrlSuspend pmx) := savedRegs_pmxRun hops hrun
  have hbanks : pmx₁.resources = pmx.resources := (pmxRun_frame hrun).1
  refine tegra234_groupsView_congr (fun g hg x hx => ?_) k q
  rw [tegraPinctrlResume_word hres (hbanks ▸ hcov g hg x hx), hsaved,
    savedRegs_suspend (hcov g hg x hx)]

set_option maxRecDepth 4000 in
/-- Suspend; `touch_clk_pcc4` switched to `TOUCH`, `PAD_POWER` set to 0 through it and its pin
201 requested; resume; on a device with banks of `0x19040` and `0x3060` bytes and all registers
0: the group reads its `PAD_POWER` as before. -/
theorem tegra234_suspend_resume_view_touch_clk :
    let pmx : TegraPmx := ⟨fun _ _ => 0, fun _ => 0, fun _ => 0, [0x19040, 0x3060], []⟩
    let ops := [PmxOp.setMux TegraMuxDt.touch.toCtorIdx 0,
      .groupSet 0 [tegraPinconfPack TegraPinconfParam.padPower.val 0], .gpioRequestEnable 201]
    let pmx' := (pmxRun tegra234Pinctrl pmx (.suspend :: ops ++ [.resume])).getD pmx
    PmxOp.suspend ∉ ops ∧ BanksCover pmx.resources ∧
      pmxRun tegra234Pinctrl pmx (.suspend :: ops ++ [.resume]) = some pmx' ∧
      groupsView tegra234Pinctrl tegra234Groups pmx'.regs 0 .padPower =
        groupsView tegra234Pinctrl tegra234Groups pmx.regs 0 .padPower := by
  intro pmx ops pmx'
  have hops : PmxOp.suspend ∉ ops := by decide
  have hcov : BanksCover pmx.resources := tegra234_banksCover (by decide) (by decide) []
  exact ⟨hops, hcov, rfl, tegra234_suspend_resume_view hops hcov rfl 0 .padPower⟩

end TegraPinctrl
