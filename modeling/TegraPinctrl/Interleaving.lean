import Mathlib.Data.Fin.VecNotation
import TegraPinctrl.Isolation

/-! # Callers the driver does not serialize

`tegra_pinctrl_set_mux`, each configuration `tegra_pinconf_group_set` applies and the
SFIO-select clear of `tegra_pinctrl_gpio_request_enable` are read-modify-writes of one register:
a `pmx_readl`, a computation on the word, a `pmx_writel`. The driver takes no lock of its own, so
callers that reach it together interleave their reads and writes. Here `n` such callers are
micro-steps over the shared registers (`rmwStep`), run in any order (`rmwRun`).

Main results: when no two callers share a register, every interleaving that runs them to the end
leaves each caller's register with its update of the word it held at the start and changes no
other register, as running them one after another does (`rmwRun_distinct`,
`rmwRun_serial`). On tegra234, function selections and configurations on pairwise different
groups are such callers: every interleaving of them ends with the registers the driver leaves
when it takes the calls one after another (`tegra234_rmwCalls_serial`). Two callers on one
group are not: on `touch_clk_pcc4` a function selection and a tristate setting, interleaved
read, read, write, write, leave the function unselected. -/

namespace TegraPinctrl

/-- A read-modify-write of one register: read the word at `bank`, `reg`, write `update` of it
back. -/
structure Rmw where
  bank : Int
  reg : Int
  update : BitVec 32 → BitVec 32

/-- The read-modify-write run alone: its register gets `update` of the word it held. -/
def Rmw.apply (op : Rmw) (regs : RegFile) : RegFile :=
  pmxWritel regs (op.update (pmxReadl regs op.bank op.reg)) op.bank op.reg

/-- How far a caller has got: before its read, holding the word it read, or past its write. -/
inductive RmwPc
  | start
  | holding (v : BitVec 32)
  | done
  deriving DecidableEq

/-- The shared registers and the progress of each of `n` callers. -/
structure RmwState (n : Nat) where
  regs : RegFile
  pc : Fin n → RmwPc

/-- One micro-step of caller `i`: its `pmx_readl`, or its `pmx_writel` of the word it computed
from what it read; `none` for a caller that has finished. -/
def rmwStep {n : Nat} (ops : Fin n → Rmw) (s : RmwState n) (i : Fin n) : Option (RmwState n) :=
  match s.pc i with
  | .start =>
    some ⟨s.regs, Function.update s.pc i (.holding (pmxReadl s.regs (ops i).bank (ops i).reg))⟩
  | .holding v =>
    some ⟨pmxWritel s.regs ((ops i).update v) (ops i).bank (ops i).reg,
      Function.update s.pc i .done⟩
  | .done => none

/-- The callers moving in the order `sched` names them. -/
def rmwRun {n : Nat} (ops : Fin n → Rmw) : RmwState n → List (Fin n) → Option (RmwState n)
  | s, [] => some s
  | s, i :: sched => (rmwStep ops s i).bind fun s => rmwRun ops s sched

/-- The start: the registers `regs₀`, no caller has moved. -/
def RmwState.init (n : Nat) (regs₀ : RegFile) : RmwState n := ⟨regs₀, fun _ => .start⟩

/-- No two callers work on the same register. -/
def RmwDisjoint {n : Nat} (ops : Fin n → Rmw) : Prop :=
  ∀ i j, i ≠ j → ¬((ops i).bank = (ops j).bank ∧ (ops i).reg = (ops j).reg)

theorem rmwRun_append {n : Nat} (ops : Fin n → Rmw) (s : RmwState n) (l l' : List (Fin n)) :
    rmwRun ops s (l ++ l') = (rmwRun ops s l).bind fun s => rmwRun ops s l' := by
  induction l generalizing s with
  | nil => rfl
  | cons i l ih =>
    rw [List.cons_append]
    simp only [rmwRun, ih, Option.bind_assoc]

/-! ## Callers on different registers -/

section Disjoint

variable {n : Nat} {ops : Fin n → Rmw} {regs₀ : RegFile}

/-- What every interleaving of callers on different registers keeps, against the registers
`regs₀` it started from: a caller holds the word its register held at the start; its register
holds that word until the caller writes and the caller's update of it after; no other register
changes. -/
structure RmwInv (ops : Fin n → Rmw) (regs₀ : RegFile) (s : RmwState n) : Prop where
  holding : ∀ i v, s.pc i = .holding v → v = regs₀ (ops i).bank (ops i).reg
  own : ∀ i, s.regs (ops i).bank (ops i).reg =
    if s.pc i = .done then (ops i).update (regs₀ (ops i).bank (ops i).reg)
    else regs₀ (ops i).bank (ops i).reg
  other : ∀ b r, (∀ i, ¬(b = (ops i).bank ∧ r = (ops i).reg)) → s.regs b r = regs₀ b r

theorem RmwInv.init : RmwInv ops regs₀ (RmwState.init n regs₀) :=
  ⟨fun _ _ h => (nomatch h), fun _ => by simp [RmwState.init], fun _ _ _ => rfl⟩

theorem RmwInv.step (hd : RmwDisjoint ops) {s s' : RmwState n} (H : RmwInv ops regs₀ s)
    {i : Fin n} (h : rmwStep ops s i = some s') : RmwInv ops regs₀ s' := by
  unfold rmwStep at h
  split at h
  · -- the read
    rename_i hpc
    cases h
    have hread : s.regs (ops i).bank (ops i).reg = regs₀ (ops i).bank (ops i).reg := by
      rw [H.own i, hpc, if_neg nofun]
    refine ⟨fun j v hj => ?_, fun j => ?_, H.other⟩
    · dsimp only at hj
      by_cases hji : j = i
      · subst hji
        rw [Function.update_same] at hj
        cases hj
        exact hread
      · exact H.holding j v (by rwa [Function.update_noteq hji] at hj)
    · dsimp only
      by_cases hji : j = i
      · subst hji
        rw [Function.update_same, if_neg nofun, hread]
      · rw [Function.update_noteq hji]
        exact H.own j
  · -- the write
    rename_i v hpc
    cases h
    have hv := H.holding i v hpc
    refine ⟨fun j w hj => ?_, fun j => ?_, fun b r hbr => ?_⟩
    · dsimp only at hj
      by_cases hji : j = i
      · subst hji
        rw [Function.update_same] at hj
        cases hj
      · exact H.holding j w (by rwa [Function.update_noteq hji] at hj)
    · dsimp only
      by_cases hji : j = i
      · subst hji
        rw [Function.update_same, if_pos rfl, hv]
        exact pmxWritel_apply_self _ _ _ _
      · rw [Function.update_noteq hji, pmxWritel_apply_of_ne (hd j i hji)]
        exact H.own j
    · exact (pmxWritel_apply_of_ne (hbr i)).trans (H.other b r hbr)
  · cases h

theorem RmwInv.run (hd : RmwDisjoint ops) {sched : List (Fin n)} {s s' : RmwState n}
    (H : RmwInv ops regs₀ s) (h : rmwRun ops s sched = some s') : RmwInv ops regs₀ s' := by
  induction sched generalizing s with
  | nil => cases h; exact H
  | cons i sched ih =>
    obtain ⟨s₁, h₁, h⟩ := Option.bind_eq_some.mp h
    exact ih (H.step hd h₁) h

/-- Callers on pairwise different registers, run to the end in any interleaving: each caller's
register holds its update of the word it held at the start, and no other register changes. -/
theorem rmwRun_distinct (hd : RmwDisjoint ops) {sched : List (Fin n)} {s : RmwState n}
    (h : rmwRun ops (RmwState.init n regs₀) sched = some s) (hdone : ∀ i, s.pc i = .done) :
    (∀ i, s.regs (ops i).bank (ops i).reg = (ops i).update (regs₀ (ops i).bank (ops i).reg)) ∧
    ∀ b r, (∀ i, ¬(b = (ops i).bank ∧ r = (ops i).reg)) → s.regs b r = regs₀ b r := by
  have H := RmwInv.init.run hd h
  exact ⟨fun i => by rw [H.own i, hdone i, if_pos rfl], H.other⟩

/-- Two interleavings that run the same callers to the end leave the same registers. -/
theorem rmwRun_distinct_eq (hd : RmwDisjoint ops) {sched sched' : List (Fin n)}
    {s s' : RmwState n} (h : rmwRun ops (RmwState.init n regs₀) sched = some s)
    (h' : rmwRun ops (RmwState.init n regs₀) sched' = some s') (hdone : ∀ i, s.pc i = .done)
    (hdone' : ∀ i, s'.pc i = .done) : s.regs = s'.regs := by
  obtain ⟨hown, hother⟩ := rmwRun_distinct hd h hdone
  obtain ⟨hown', hother'⟩ := rmwRun_distinct hd h' hdone'
  funext b r
  by_cases hb : ∃ i, b = (ops i).bank ∧ r = (ops i).reg
  · obtain ⟨i, rfl, rfl⟩ := hb
    rw [hown, hown']
  · push_neg at hb
    rw [hother b r fun i h => hb i h.1 h.2, hother' b r fun i h => hb i h.1 h.2]

/-- The callers of `l`, each reading and writing before the next moves. -/
def serialSched (l : List (Fin n)) : List (Fin n) := l.flatMap fun i => [i, i]

/-- Running distinct callers that have not moved one after another takes each to the end,
moves no other caller, and applies their read-modify-writes in turn. -/
theorem rmwRun_serialSched (l : List (Fin n)) (hl : l.Nodup) (s : RmwState n)
    (hstart : ∀ i ∈ l, s.pc i = .start) :
    ∃ s', rmwRun ops s (serialSched l) = some s' ∧ (∀ i ∈ l, s'.pc i = .done) ∧
      (∀ i ∉ l, s'.pc i = s.pc i) ∧ s'.regs = l.foldl (fun regs i => (ops i).apply regs) s.regs := by
  induction l generalizing s with
  | nil => exact ⟨s, rfl, nofun, fun _ _ => rfl, rfl⟩
  | cons i l ih =>
    obtain ⟨hi, hl⟩ := List.nodup_cons.mp hl
    -- caller `i` reads, then writes
    let s₁ : RmwState n := ⟨(ops i).apply s.regs, Function.update s.pc i .done⟩
    have hrun₁ : rmwRun ops s [i, i] = some s₁ := by
      simp [rmwRun, rmwStep, hstart i (List.mem_cons_self _ _), s₁, Rmw.apply]
    obtain ⟨s', hrun, hdone, hrest, hregs⟩ := ih hl s₁ fun j hj => by
      show Function.update s.pc i .done j = .start
      rw [Function.update_noteq fun h : j = i => hi (h ▸ hj)]
      exact hstart j (List.mem_cons_of_mem _ hj)
    refine ⟨s', ?_, fun j hj => ?_, fun j hj => ?_, hregs⟩
    · rw [serialSched, List.flatMap_cons, rmwRun_append, hrun₁]
      exact hrun
    · rcases List.mem_cons.mp hj with rfl | hj
      · rw [hrest j hi]
        exact Function.update_same _ _ _
      · exact hdone j hj
    · rw [hrest j fun h => hj (List.mem_cons_of_mem _ h)]
      exact Function.update_noteq (fun h : j = i => hj (h ▸ List.mem_cons_self _ _)) _ _

/-- Every interleaving that runs callers on pairwise different registers to the end leaves the
registers as running them one after another, in table order, does. -/
theorem rmwRun_serial (hd : RmwDisjoint ops) {sched : List (Fin n)} {s : RmwState n}
    (h : rmwRun ops (RmwState.init n regs₀) sched = some s) (hdone : ∀ i, s.pc i = .done) :
    ∃ s', rmwRun ops (RmwState.init n regs₀) (serialSched (List.finRange n)) = some s' ∧
      s'.regs = s.regs := by
  obtain ⟨s', hrun, hdone', -, -⟩ := rmwRun_serialSched (List.finRange n) (List.nodup_finRange n)
    (RmwState.init n regs₀) fun _ _ => rfl
  exact ⟨s', hrun, rmwRun_distinct_eq hd hrun h (fun i => hdone' i (List.mem_finRange i)) hdone⟩

/-- Two read-modify-writes of the mux registers of `touch_clk_pcc4` and `uart3_rx_pcc6`, words
`0x2000` and `0x2008` of bank 1, interleaved read, read, write, write from all registers 0,
leave the registers the serial run leaves. -/
theorem rmwRun_serial_touch_uart3 :
    let ops : Fin 2 → Rmw := ![⟨1, 0x2000, fun v => v ||| 1#32⟩, ⟨1, 0x2008, fun v => v ||| 2#32⟩]
    let s₀ : RmwState 2 := RmwState.init 2 fun _ _ => 0
    let s := (rmwRun ops s₀ [0, 1, 0, 1]).getD s₀
    RmwDisjoint ops ∧ rmwRun ops s₀ [0, 1, 0, 1] = some s ∧ (∀ i, s.pc i = .done) ∧
      ∃ s', rmwRun ops s₀ (serialSched (List.finRange 2)) = some s' ∧ s'.regs = s.regs := by
  intro ops s₀ s
  have hd : RmwDisjoint ops := by
    unfold RmwDisjoint
    decide
  have hrun : rmwRun ops s₀ [0, 1, 0, 1] = some s := rfl
  have hdone : ∀ i, s.pc i = .done := by decide
  exact ⟨hd, hrun, hdone, rmwRun_serial hd hrun hdone⟩

end Disjoint

/-! ## The driver's read-modify-writes -/

/-- `tegra_pinctrl_set_mux` selecting `function` on `g`, as a read-modify-write of the group's
mux register. -/
def setMuxRmw (soc : TegraPinctrlSocData) (function : Nat) (g : TegraPingroup) : Rmw :=
  ⟨g.muxBank, g.muxReg, fun v => muxSelectValue soc g v (g.funcs.findIdx (· == function))⟩

/-- One accepted configuration of `tegra_pinconf_group_set` in the field `loc`, as a
read-modify-write of its register. -/
def pinconfRmw (loc : PinconfReg) (config : Nat) : Rmw :=
  ⟨loc.bank, loc.reg, fun v => writeField v loc.bit.toNat loc.width.toNat (pinconfArg config loc.width)⟩

/-- A function selection that succeeds is the read-modify-write `setMuxRmw`. -/
theorem tegraPinctrlSetMux_eq_rmw {soc : TegraPinctrlSocData} {g : TegraPingroup}
    (h : MuxShiftsValid soc g) (hreg : 0 ≤ g.muxReg) {function : Nat} (hf : function ∈ g.funcs)
    (regs : RegFile) :
    tegraPinctrlSetMux soc function g regs = some (0, (setMuxRmw soc function g).apply regs) := by
  rw [tegraPinctrlSetMux_spec h, if_neg (by simp [hf, Int.not_lt.mpr hreg])]
  rfl

/-- The write of a configuration is the read-modify-write `pinconfRmw`. -/
theorem pinconfWrite_eq_rmw {soc : TegraPinctrlSocData} {g : TegraPingroup} {config : Nat}
    {loc : PinconfReg} (hloc : tegraPinconfReg soc g (tegraPinconfUnpackParam config) = .ok loc)
    (regs : RegFile) : pinconfWrite soc g regs config = (pinconfRmw loc config).apply regs := by
  simp only [pinconfWrite, hloc]
  rfl

/-! ## Calls on different groups -/

/-- A call of the pin-control core that is one read-modify-write: `set_mux` of `function`, or
`group_set` of the one configuration `PACK(p, a)`. -/
inductive RmwCall
  | setMux (function : Nat)
  | config (p : TegraPinconfParam) (a : Nat)

/-- The call on group `group`, as the driver takes it. -/
def RmwCall.op (group : Nat) : RmwCall → PmxOp
  | .setMux function => .setMux function group
  | .config p a => .groupSet group [tegraPinconfPack p.val a]

/-- Its read-modify-write on the group `g`. -/
def RmwCall.rmw (soc : TegraPinctrlSocData) (g : TegraPingroup) : RmwCall → Rmw
  | .setMux function => setMuxRmw soc function g
  | .config p a => pinconfRmw (pinconfLocation soc g p) (tegraPinconfPack p.val a)

/-- A call on the tegra234 group `g` that writes, whatever the registers hold: a function the
group offers, where its SFIO-select bit is bit 10, or a configuration other than `PAD_POWER`
that the group accepts in every register state. -/
def RmwCall.Valid (g : TegraPingroup) : RmwCall → Prop
  | .setMux function => function ∈ g.funcs ∧ g.sfselBit = 10
  | .config p a => p ≠ .padPower ∧ a < 2 ^ 16 ∧
    ∀ regs, ¬ PinconfRejected tegra234Pinctrl g regs (tegraPinconfPack p.val a)

section RmwCall

variable {g : TegraPingroup} {c : RmwCall}

/-- A valid call writes a register of its own group. -/
theorem RmwCall.mem_ownRegs (hg : g ∈ tegra234Groups) (hc : c.Valid g) :
    ((c.rmw tegra234Pinctrl g).bank, (c.rmw tegra234Pinctrl g).reg) ∈ ownRegs g := by
  cases c with
  | setMux function => exact mem_ownRegs.mpr ⟨.inl rfl, (tegra234_mux_layout g hg).1⟩
  | config p a =>
    obtain ⟨hp, ha, hacc⟩ := hc
    refine @RegLayout.pinconfWrites_mem tegra234Pinctrl _ (tegra234_regLayout g hg) _ _ _
      (by rwa [tegraPinconfUnpackParam_pack ha, Ne, TegraPinconfParam.val_inj]) ⟨_, ?_, rfl, rfl⟩
    rw [tegraPinconfUnpackParam_pack ha]
    exact tegraPinconfReg_of_not_rejected ha (hacc fun _ _ => 0)

/-- The driver takes a valid call as its read-modify-write. -/
theorem RmwCall.pmxStep_op {group : Nat} (hg : tegra234Groups[group]? = some g) (hc : c.Valid g)
    (pmx : TegraPmx) :
    pmxStep tegra234Pinctrl pmx (c.op group) =
      some { pmx with regs := (c.rmw tegra234Pinctrl g).apply pmx.regs } := by
  cases c with
  | setMux function =>
    obtain ⟨hf, hsf⟩ := hc
    obtain ⟨hreg, hbit, -⟩ := tegra234_mux_layout g (List.getElem?_mem hg)
    have hvalid : MuxShiftsValid tegra234Pinctrl g := ⟨by omega, by omega, fun _ => by omega⟩
    simp only [RmwCall.op, RmwCall.rmw, pmxStep, tegra234Pinctrl_groups, hg,
      tegraPinctrlSetMux_eq_rmw hvalid hreg hf, Option.bind_eq_bind, Option.some_bind, bind, pure]
  | config p a =>
    obtain ⟨-, ha, hacc⟩ := hc
    have hloc := tegraPinconfReg_of_not_rejected ha (hacc pmx.regs)
    rcases tegraPinconfGroupSetOne_spec tegra234Pinctrl g (tegraPinconfPack p.val a) pmx.regs with
      ⟨hrej, -⟩ | ⟨-, hset⟩
    · exact absurd hrej (hacc pmx.regs)
    rw [← @tegraPinconfUnpackParam_pack p.val a ha] at hloc
    simp only [RmwCall.op, RmwCall.rmw, pmxStep, tegra234Pinctrl_groups, hg, tegraPinconfGroupSet,
      hset, pinconfWrite_eq_rmw hloc, Option.bind_eq_bind, Option.some_bind, bind, pure]

end RmwCall

/-- Valid calls on the groups `grp i` taken one after another: the registers get each call's
read-modify-write in turn. -/
theorem pmxRun_rmwCalls {n : Nat} {grp : Fin n → Nat} {g : Fin n → TegraPingroup}
    (hg : ∀ i, tegra234Groups[grp i]? = some (g i)) {calls : Fin n → RmwCall}
    (hcalls : ∀ i, (calls i).Valid (g i)) (l : List (Fin n)) (pmx : TegraPmx) :
    pmxRun tegra234Pinctrl pmx (l.map fun i => (calls i).op (grp i)) =
      some { pmx with
        regs := (l.foldl (fun regs i => ((calls i).rmw tegra234Pinctrl (g i)).apply regs) pmx.regs) } := by
  induction l generalizing pmx with
  | nil => rfl
  | cons i l ih => simp only [List.map_cons, pmxRun, (calls i).pmxStep_op (hg i) (hcalls i),
      Option.some_bind, ih, List.foldl_cons]

/-- On tegra234, valid calls on pairwise different groups write pairwise different registers. -/
theorem tegra234_rmwCalls_disjoint {n : Nat} {grp : Fin n → Nat} (hgrp : Function.Injective grp)
    {g : Fin n → TegraPingroup} (hg : ∀ i, tegra234Groups[grp i]? = some (g i))
    {calls : Fin n → RmwCall} (hcalls : ∀ i, (calls i).Valid (g i)) :
    RmwDisjoint fun i => (calls i).rmw tegra234Pinctrl (g i) := by
  have hown (i : Fin n) := (calls i).mem_ownRegs (List.getElem?_mem (hg i)) (hcalls i)
  intro i j hij hbr
  exact tegra234_ownRegs_disjoint (hgrp.ne hij) (hg i) (hg j) (hown i)
    (by rw [hbr.1, hbr.2]; exact hown j)

/-- Calls on pairwise different tegra234 groups, each one read-modify-write (`RmwCall.Valid`),
interleaved in any way that runs them all to the end: the registers end as the driver leaves
them when it takes the calls one after another. The driver takes no lock, and needs none for
them. -/
theorem tegra234_rmwCalls_serial {n : Nat} {grp : Fin n → Nat} (hgrp : Function.Injective grp)
    {g : Fin n → TegraPingroup} (hg : ∀ i, tegra234Groups[grp i]? = some (g i))
    {calls : Fin n → RmwCall} (hcalls : ∀ i, (calls i).Valid (g i)) (pmx : TegraPmx)
    {sched : List (Fin n)} {s : RmwState n}
    (h : rmwRun (fun i => (calls i).rmw tegra234Pinctrl (g i)) (RmwState.init n pmx.regs) sched =
      some s)
    (hdone : ∀ i, s.pc i = .done) :
    ∃ pmx', pmxRun tegra234Pinctrl pmx ((List.finRange n).map fun i => (calls i).op (grp i)) =
      some pmx' ∧ pmx'.regs = s.regs := by
  obtain ⟨s', hrun, hdone', -, hregs⟩ :=
    @rmwRun_serialSched n (fun i => (calls i).rmw tegra234Pinctrl (g i)) (List.finRange n)
      (List.nodup_finRange n) (RmwState.init n pmx.regs) fun _ _ => rfl
  refine ⟨_, pmxRun_rmwCalls hg hcalls _ pmx, ?_⟩
  exact hregs.symm.trans (rmwRun_distinct_eq (tegra234_rmwCalls_disjoint hgrp hg hcalls) hrun h
    (fun i => hdone' i (List.mem_finRange i)) hdone)

set_option maxRecDepth 4000 in
/-- `touch_clk_pcc4` switched to `TOUCH` while `uart3_rx_pcc6` gets `TRISTATE` 1, from all
registers 0, interleaved read, read, write, write. -/
theorem tegra234_rmwCalls_serial_touch_uart3 :
    let grp : Fin 2 → Nat := ![0, 1]
    let g : Fin 2 → TegraPingroup := ![tegra234Groups[0], tegra234Groups[1]]
    let calls : Fin 2 → RmwCall := ![.setMux TegraMuxDt.touch.toCtorIdx, .config .tristate 1]
    let pmx : TegraPmx := ⟨fun _ _ => 0, fun _ => 0, fun _ => 0, [0x4000], []⟩
    let ops := fun i => (calls i).rmw tegra234Pinctrl (g i)
    let s := (rmwRun ops (RmwState.init 2 pmx.regs) [0, 1, 0, 1]).getD (RmwState.init 2 pmx.regs)
    Function.Injective grp ∧ (∀ i, tegra234Groups[grp i]? = some (g i)) ∧
      (∀ i, (calls i).Valid (g i)) ∧
      rmwRun ops (RmwState.init 2 pmx.regs) [0, 1, 0, 1] = some s ∧ (∀ i, s.pc i = .done) ∧
      ∃ pmx', pmxRun tegra234Pinctrl pmx ((List.finRange 2).map fun i => (calls i).op (grp i)) =
        some pmx' ∧ pmx'.regs = s.regs := by
  intro grp g calls pmx ops s
  have hgrp : Function.Injective grp := by decide
  have hg : ∀ i, tegra234Groups[grp i]? = some (g i) := Fin.forall_fin_two.mpr ⟨rfl, rfl⟩
  have hloc : tegraPinconfReg tegra234Pinctrl (g 1) TegraPinconfParam.tristate.val =
      .ok ⟨1, 0x2008, 4, 1⟩ := rfl
  have hcalls : ∀ i, (calls i).Valid (g i) := Fin.forall_fin_two.mpr
    ⟨⟨by decide, rfl⟩, by decide, by decide, fun regs =>
      (not_pinconfRejected_pack_iff hloc regs (by decide)).mpr ⟨.inl rfl, fun h => absurd h.1 nofun⟩⟩
  have hrun : rmwRun ops (RmwState.init 2 pmx.regs) [0, 1, 0, 1] = some s := rfl
  have hdone : ∀ i, s.pc i = .done := by decide
  exact ⟨hgrp, hg, hcalls, hrun, hdone, tegra234_rmwCalls_serial hgrp hg hcalls pmx hrun hdone⟩

set_option maxRecDepth 4000 in
/-- The groups must differ: on `touch_clk_pcc4` alone, selecting `TOUCH` and setting
`TRISTATE` to 1, interleaved read, read, write, write from all registers 0, set the tristate bit
but leave the function at `GP` (slot 0); one after the other, they select `TOUCH` (slot 1). -/
example :
    let g := tegra234Groups.head (List.cons_ne_nil _ _)
    let ops : Fin 2 → Rmw := ![(RmwCall.setMux TegraMuxDt.touch.toCtorIdx).rmw tegra234Pinctrl g,
      (RmwCall.config .tristate 1).rmw tegra234Pinctrl g]
    let get (s : RmwState 2) (p : TegraPinconfParam) :=
      tegraPinconfGroupGet tegra234Pinctrl s.regs g (tegraPinconfPack p.val 0)
    (∃ s, rmwRun ops (RmwState.init 2 fun _ _ => 0) [0, 1, 0, 1] = some s ∧
      get s .function = .ok (tegraPinconfPack TegraPinconfParam.function.val 0) ∧
      get s .tristate = .ok (tegraPinconfPack TegraPinconfParam.tristate.val 1)) ∧
    ∃ s, rmwRun ops (RmwState.init 2 fun _ _ => 0) [0, 0, 1, 1] = some s ∧
      get s .function = .ok (tegraPinconfPack TegraPinconfParam.function.val 1) ∧
      get s .tristate = .ok (tegraPinconfPack TegraPinconfParam.tristate.val 1) :=
  ⟨⟨_, rfl, rfl, rfl⟩, _, rfl, rfl, rfl⟩

end TegraPinctrl
