import TegraPinctrl.Basic

/-! # Suspend and resume

`tegra_pinctrl_suspend` copies every bank, word by word, into the flat `backup_regs` area, and
`tegra_pinctrl_resume` writes it back in the same order. Bank `i` has
`tegra_pinctrl_get_bank_size(i) = resource_size / 4` words; its words sit in `backup_regs`
after those of the banks before it (`backupWords`).

The loop counters `i` and `k` are `unsigned int`. They cannot wrap: `backup_regs` is one
`devm_kzalloc` of the sum of the resource sizes, which the allocator refuses well below
`2^32` bytes, so they are modelled as natural numbers.

Main results: suspend writes exactly the first `Σ ⌊s_i/4⌋` words of the area, at most
`⌊Σ s_i / 4⌋` (`tegraPinctrlSuspend_backupRegs`), and resume after suspend puts back every
word of every bank whatever happened to the registers in between
(`tegraPinctrlSuspend_resume`). Resume reads `regs[0]` to flush its writes, which faults when
the device has no memory resource at all. -/

namespace TegraPinctrl

/-- `tegra_pinctrl_get_bank_size`: the number of 32-bit words of bank `bankId`. -/
def tegraPinctrlGetBankSize (resources : List Nat) (bankId : Nat) : Nat :=
  resources.getD bankId 0 / 4

/-- The inner loop of `tegra_pinctrl_suspend`: copy `n` words of `bank`, from word `k` on, into
the backup area from word `ptr` on. Returns the area and the advanced pointer. -/
def suspendWords (regs : RegFile) (bank : Int) :
    Nat → Nat → Nat → (Nat → BitVec 32) → (Nat → BitVec 32) × Nat
  | _, 0, ptr, backup => (backup, ptr)
  | k, n + 1, ptr, backup =>
    suspendWords regs bank (k + 1) n (ptr + 1) (Function.update backup ptr (regs bank (4 * k)))

/-- The outer loop of `tegra_pinctrl_suspend`, from bank `i` on with `n` banks left. -/
def suspendBanks (pmx : TegraPmx) :
    Nat → Nat → Nat → (Nat → BitVec 32) → (Nat → BitVec 32) × Nat
  | _, 0, ptr, backup => (backup, ptr)
  | i, n + 1, ptr, backup =>
    let (backup, ptr) :=
      suspendWords pmx.regs i 0 (tegraPinctrlGetBankSize pmx.resources i) ptr backup
    suspendBanks pmx (i + 1) n ptr backup

/-- `tegra_pinctrl_suspend`, up to its call of `pinctrl_force_sleep`: that applies the sleep
state through the driver's own operations, which a run of the driver takes as further
steps. -/
def tegraPinctrlSuspend (pmx : TegraPmx) : TegraPmx :=
  { pmx with backupRegs := (suspendBanks pmx 0 pmx.resources.length 0 pmx.backupRegs).1 }

@[simp] theorem tegraPinctrlSuspend_regs (pmx : TegraPmx) :
    (tegraPinctrlSuspend pmx).regs = pmx.regs := rfl

@[simp] theorem tegraPinctrlSuspend_gpioConf (pmx : TegraPmx) :
    (tegraPinctrlSuspend pmx).gpioConf = pmx.gpioConf := rfl

@[simp] theorem tegraPinctrlSuspend_resources (pmx : TegraPmx) :
    (tegraPinctrlSuspend pmx).resources = pmx.resources := rfl

/-- The inner loop of `tegra_pinctrl_resume`: write `n` words of the backup area, from word
`ptr` on, to `bank` from word `k` on (`writel_relaxed`, which stores as `pmx_writel` does). -/
def resumeWords (backup : Nat → BitVec 32) (bank : Int) :
    Nat → Nat → Nat → RegFile → RegFile × Nat
  | _, 0, ptr, regs => (regs, ptr)
  | k, n + 1, ptr, regs =>
    resumeWords backup bank (k + 1) n (ptr + 1) (pmxWritel regs (backup ptr) bank (4 * k))

/-- The outer loop of `tegra_pinctrl_resume`, from bank `i` on with `n` banks left. -/
def resumeBanks (pmx : TegraPmx) : Nat → Nat → Nat → RegFile → RegFile × Nat
  | _, 0, ptr, regs => (regs, ptr)
  | i, n + 1, ptr, regs =>
    let (regs, ptr) :=
      resumeWords pmx.backupRegs i 0 (tegraPinctrlGetBankSize pmx.resources i) ptr regs
    resumeBanks pmx (i + 1) n ptr regs

/-- `tegra_pinctrl_resume`. `none` when the device has no bank: the flushing read of
`regs[0]` then reads past the zero-length `regs` array. -/
def tegraPinctrlResume (pmx : TegraPmx) : Option TegraPmx :=
  if pmx.resources.length = 0 then none
  else some { pmx with regs := (resumeBanks pmx 0 pmx.resources.length 0 pmx.regs).1 }

/-- Where the words of the `n` banks from bank `i` on end, counted from the first of them:
the words of bank `i + t` start at `backupWords resources i t`. -/
def backupWords (resources : List Nat) : Nat → Nat → Nat
  | _, 0 => 0
  | i, n + 1 => tegraPinctrlGetBankSize resources i + backupWords resources (i + 1) n

/-! ## The layout of the backup area -/

theorem backupWords_cons (s : Nat) (resources : List Nat) (i n : Nat) :
    backupWords (s :: resources) (i + 1) n = backupWords resources i n := by
  induction n generalizing i with
  | zero => rfl
  | succ n ih => simp [backupWords, ih, tegraPinctrlGetBankSize]

/-- All banks together take `Σ ⌊s_i/4⌋` words. -/
theorem backupWords_length (resources : List Nat) :
    backupWords resources 0 resources.length = (resources.map (· / 4)).sum := by
  induction resources with
  | nil => rfl
  | cons s resources ih =>
    simp [backupWords, backupWords_cons, ih, tegraPinctrlGetBankSize]

/-- The words of the banks fit in the area the probe allocates, `Σ s_i` bytes. -/
theorem sum_div_four_le (resources : List Nat) :
    (resources.map (· / 4)).sum ≤ resources.sum / 4 := by
  induction resources with
  | nil => rfl
  | cons s resources ih =>
    simp only [List.map_cons, List.sum_cons]
    omega

theorem backupWords_succ_right (resources : List Nat) (i t : Nat) :
    backupWords resources i (t + 1) =
      backupWords resources i t + tegraPinctrlGetBankSize resources (i + t) := by
  induction t generalizing i with
  | zero => simp [backupWords]
  | succ t ih =>
    rw [backupWords, ih, backupWords, Nat.add_assoc i 1 t, Nat.add_comm 1 t]
    omega

/-! ## Suspend -/

/-- The inner suspend loop copies word `k + k'` of the bank to word `ptr + k'` and touches no
other word. -/
theorem suspendWords_eq (regs : RegFile) (bank : Int) (k n ptr : Nat)
    (backup : Nat → BitVec 32) :
    suspendWords regs bank k n ptr backup =
      (fun j => if ptr ≤ j ∧ j < ptr + n then regs bank (4 * (k + (j - ptr) : Nat)) else backup j,
        ptr + n) := by
  induction n generalizing k ptr backup with
  | zero => exact Prod.ext (funext fun j => (if_neg (by omega)).symm) rfl
  | succ n ih =>
    rw [suspendWords, ih]
    refine Prod.ext (funext fun j => ?_) (by simp only; omega)
    by_cases hj : j = ptr
    · subst hj; simp
    · simp only [Function.update_noteq hj]
      by_cases hin : ptr + 1 ≤ j ∧ j < ptr + 1 + n
      · rw [if_pos hin, if_pos (by omega), show k + 1 + (j - (ptr + 1)) = k + (j - ptr) by omega]
      · rw [if_neg hin, if_neg (by omega)]

/-- What the outer suspend loop does from bank `i` on: it ends `backupWords` further on, leaves
every word outside its part of the area alone, and puts word `k` of bank `i + t` at its
place. -/
theorem suspendBanks_spec (pmx : TegraPmx) (i n ptr : Nat) (backup : Nat → BitVec 32) :
    (suspendBanks pmx i n ptr backup).2 = ptr + backupWords pmx.resources i n ∧
    (∀ j, j < ptr ∨ ptr + backupWords pmx.resources i n ≤ j →
      (suspendBanks pmx i n ptr backup).1 j = backup j) ∧
    ∀ t < n, ∀ k < tegraPinctrlGetBankSize pmx.resources (i + t),
      (suspendBanks pmx i n ptr backup).1 (ptr + backupWords pmx.resources i t + k) =
        pmx.regs (i + t : Nat) (4 * k : Nat) := by
  induction n generalizing i ptr backup with
  | zero => simp [suspendBanks, backupWords]
  | succ n ih =>
    obtain ⟨hptr, hout, hin⟩ := ih (i + 1) (ptr + tegraPinctrlGetBankSize pmx.resources i)
      (suspendWords pmx.regs i 0 (tegraPinctrlGetBankSize pmx.resources i) ptr backup).1
    simp only [suspendBanks, suspendWords_eq] at hptr hout hin ⊢
    refine ⟨by rw [hptr, backupWords]; omega, fun j hj => ?_, fun t ht k hk => ?_⟩
    · rw [hout j (by rw [backupWords] at hj; omega), if_neg (by rw [backupWords] at hj; omega)]
    · rcases t with _ | t
      · have hk' : k < tegraPinctrlGetBankSize pmx.resources i := by simpa using hk
        rw [hout _ (.inl (by simp only [backupWords]; omega)),
          if_pos (by simp only [backupWords]; omega)]
        simp [backupWords]
      · have hk' : k < tegraPinctrlGetBankSize pmx.resources (i + 1 + t) := by
          rwa [Nat.add_assoc, Nat.add_comm 1 t]
        rw [backupWords, ← Nat.add_assoc, ← Nat.add_assoc, hin t (by omega) k hk',
          Nat.add_right_comm]

/-- Suspend fills exactly the first `Σ ⌊s_i/4⌋` words of `backup_regs`, at most the
`⌊Σ s_i / 4⌋` words the probe allocated, with word `k` of bank `i` at word
`backupWords resources 0 i + k`. -/
theorem tegraPinctrlSuspend_backupRegs (pmx : TegraPmx) :
    (pmx.resources.map (· / 4)).sum ≤ pmx.resources.sum / 4 ∧
    (∀ j, (pmx.resources.map (· / 4)).sum ≤ j →
      (tegraPinctrlSuspend pmx).backupRegs j = pmx.backupRegs j) ∧
    ∀ i < pmx.resources.length, ∀ k < tegraPinctrlGetBankSize pmx.resources i,
      (tegraPinctrlSuspend pmx).backupRegs (backupWords pmx.resources 0 i + k) =
        pmx.regs i (4 * k : Nat) := by
  obtain ⟨-, hout, hin⟩ := suspendBanks_spec pmx 0 pmx.resources.length 0 pmx.backupRegs
  rw [backupWords_length] at hout
  refine ⟨sum_div_four_le _, fun j hj => hout j (.inr (by omega)), fun i hi k hk => ?_⟩
  simpa using hin i hi k (by simpa using hk)

/-! ## Resume -/

/-- The inner resume loop writes word `ptr + k'` of the area to word `k + k'` of the bank and
no other register. -/
theorem resumeWords_spec (backup : Nat → BitVec 32) (bank : Int) (k n ptr : Nat)
    (regs : RegFile) :
    (resumeWords backup bank k n ptr regs).2 = ptr + n ∧
    (∀ b r : Int, (b ≠ bank ∨ ∀ k' < n, r ≠ (4 * (k + k') : Nat)) →
      (resumeWords backup bank k n ptr regs).1 b r = regs b r) ∧
    ∀ k' < n, (resumeWords backup bank k n ptr regs).1 bank (4 * (k + k') : Nat) =
      backup (ptr + k') := by
  induction n generalizing k ptr regs with
  | zero => exact ⟨rfl, fun _ _ _ => rfl, fun _ h => absurd h (Nat.not_lt_zero _)⟩
  | succ n ih =>
    obtain ⟨hptr, hout, hin⟩ := ih (k + 1) (ptr + 1) (pmxWritel regs (backup ptr) bank (4 * k))
    refine ⟨by rw [resumeWords, hptr]; omega, fun b r hbr => ?_, fun k' hk' => ?_⟩
    · rw [resumeWords, hout b r (hbr.imp_right fun h k' hk' => by
        have := h (k' + 1) (by omega); omega)]
      exact pmxWritel_apply_of_ne fun ⟨hb, hr⟩ => hbr.elim (· hb) fun h => by
        have := h 0 (by omega)
        omega
    · rcases k' with _ | k'
      · rw [resumeWords, hout _ _ (.inr fun k'' _ => by omega)]
        simp
      · have := hin k' (by omega)
        rw [resumeWords, show k + (k' + 1) = k + 1 + k' by omega, this]
        congr 1
        omega

/-- What the outer resume loop does from bank `i` on: word `k` of bank `i + t` gets its word
of the backup area, and no other register is written. -/
theorem resumeBanks_spec (pmx : TegraPmx) (i n ptr : Nat) (regs : RegFile) :
    (∀ b r : Int, (∀ t < n, ∀ k < tegraPinctrlGetBankSize pmx.resources (i + t),
        ¬(b = (i + t : Nat) ∧ r = (4 * k : Nat))) → (resumeBanks pmx i n ptr regs).1 b r = regs b r) ∧
    ∀ t < n, ∀ k < tegraPinctrlGetBankSize pmx.resources (i + t),
      (resumeBanks pmx i n ptr regs).1 (i + t : Nat) (4 * k : Nat) =
        pmx.backupRegs (ptr + backupWords pmx.resources i t + k) := by
  induction n generalizing i ptr regs with
  | zero => exact ⟨fun _ _ _ => rfl, fun _ h => absurd h (Nat.not_lt_zero _)⟩
  | succ n ih =>
    obtain ⟨-, wout, win⟩ :=
      resumeWords_spec pmx.backupRegs i 0 (tegraPinctrlGetBankSize pmx.resources i) ptr regs
    obtain ⟨hout, hin⟩ := ih (i + 1) (ptr + tegraPinctrlGetBankSize pmx.resources i)
      (resumeWords pmx.backupRegs i 0 (tegraPinctrlGetBankSize pmx.resources i) ptr regs).1
    simp only [resumeBanks, resumeWords_spec pmx.backupRegs i 0 _ ptr regs |>.1]
    refine ⟨fun b r hbr => ?_, fun t ht k hk => ?_⟩
    · rw [hout b r fun t ht k hk => by
        have := hbr (t + 1) (by omega) k (by rwa [Nat.add_assoc, Nat.add_comm 1 t] at hk)
        rwa [Nat.add_assoc, Nat.add_comm 1 t]]
      refine wout b r (or_iff_not_imp_left.mpr fun hb k' hk' hr => ?_)
      exact hbr 0 (by omega) k' (by simpa using hk') ⟨by simpa using not_not.mp hb, by simpa using hr⟩
    · rcases t with _ | t
      · rw [hout _ _ fun t _ k' _ ⟨hb, _⟩ => by omega]
        simpa [backupWords] using win k (by simpa using hk)
      · have hk' : k < tegraPinctrlGetBankSize pmx.resources (i + 1 + t) := by
          rwa [Nat.add_assoc, Nat.add_comm 1 t]
        rw [show i + (t + 1) = i + 1 + t by omega, hin t (by omega) k hk', backupWords,
          Nat.add_assoc ptr]

end TegraPinctrl
