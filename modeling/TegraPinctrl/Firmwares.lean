import Mathlib.Data.Nat.Digits

/-! # The firmware inventory: the Denver version string

`tegrafw_read_denver` of `firmwares-inventory.c` prints `CPU%d: %u(0x%x) ` into the buffer
`version` of `size` bytes, once for each online CPU whose MIDR names NVIDIA as implementor.
After each `snprintf` it advances `v` and shrinks the `size_t` `size` by what `snprintf`
returned: the length of the whole text, not of the part that fitted.

`snprintf` is the kernel's `vsnprintf` (`lib/vsprintf.c`, not part of this repository): it
stores at most `size` bytes, and it refuses a `size` above `INT_MAX`, storing nothing and
returning 0. Once a text does not fit, `size` wraps below zero to a value past `INT_MAX`, and
every later `snprintf` refuses it. So the function never stores past the buffer, and `size`
always ends at the initial size less the return value, modulo 2^64; for a buffer of at most
`INT_MAX` bytes the return value is below the size exactly when the texts fit
(`tegrafwReadDenver_guard`). When they fit, `size` never wraps (`tegrafwReadDenver_in_bounds`).
With a one-byte buffer and two NVIDIA CPUs, `size` wraps at the first CPU and the function
returns 13 (`tegrafwReadDenver_one_byte_wraps`). -/

namespace TegraFirmwares

/-- `INT_MAX`. -/
def intMax : Nat := 2 ^ 31 - 1

/-- `snprintf(buf, size, ...)` of the formatted bytes `s`, as the kernel's `vsnprintf` does it:
the bytes it stores, as (offset from `buf`, byte), and its return value. A `size` above
`INT_MAX` is refused: nothing is stored and it returns 0. Otherwise it stores the first
`size - 1` bytes of `s` and a NUL (nothing when `size` is 0) and returns the length of `s`. -/
def snprintf (size : Nat) (s : List UInt8) : List (Nat × UInt8) × Nat :=
  if intMax < size then ([], 0)
  else ((if size = 0 then [] else (s.take (size - 1) ++ [0]).enum), s.length)

/-- An online CPU as the loop sees it: its number `i`, a nonnegative `int`, `reg_midr` of its
`cpuinfo_arm64`, and the value `mrs AIDR_EL1` reads in its iteration. -/
structure DenverCpu where
  id : Nat
  midr : BitVec 32
  aidr : BitVec 32
  id_lt : id < 2 ^ 31

/-- `%x`: lowercase hexadecimal without leading zeros. -/
def hexDigits (n : Nat) : String := (Nat.toDigits 16 n).asString

/-- The bytes `snprintf(v, size, "CPU%d: %u(0x%x) ", i, aidr, aidr)` formats. -/
def denverText (cpu : DenverCpu) : List UInt8 :=
  ("CPU" ++ toString cpu.id ++ ": " ++ toString cpu.aidr.toNat ++ "(0x" ++
    hexDigits cpu.aidr.toNat ++ ") ").toUTF8.data.toList

/-- The state of `tegrafw_read_denver` between iterations: `v` as an offset from `version`,
the `size_t` `size`, and every byte stored so far, at its offset from `version`. -/
structure DenverState where
  v : Nat
  size : BitVec 64
  writes : List (Nat × UInt8)

/-- One iteration of `for_each_online_cpu` in `tegrafw_read_denver`. `nvidia` is the test
`MIDR_IMPLEMENTOR(midr) == ARM_CPU_IMP_NVIDIA`, whose macros are in the arm64 headers, which
are not part of this repository. -/
def denverStep (nvidia : BitVec 32 → Bool) (st : DenverState) (cpu : DenverCpu) :
    DenverState :=
  if nvidia cpu.midr then
    let (bytes, printed) := snprintf st.size.toNat (denverText cpu)
    { v := st.v + printed
      size := st.size - BitVec.ofNat 64 printed
      writes := st.writes ++ bytes.map fun b => (st.v + b.1, b.2) }
  else st

/-- `tegrafw_read_denver` over the online CPUs `cpus`, from a buffer of `size` bytes. It
returns the final `v`. -/
def tegrafwReadDenver (nvidia : BitVec 32 → Bool) (size : BitVec 64) (cpus : List DenverCpu) :
    DenverState :=
  cpus.foldl (denverStep nvidia) ⟨0, size, []⟩

/-- The total length of the texts of the NVIDIA CPUs of `cpus`. -/
def printedTotal (nvidia : BitVec 32 → Bool) : List DenverCpu → Nat
  | [] => 0
  | cpu :: cpus => (if nvidia cpu.midr then (denverText cpu).length else 0) + printedTotal nvidia cpus

/-! ## `snprintf` and the texts -/

theorem snprintf_offset_lt {size : Nat} {s : List UInt8} {b : Nat × UInt8}
    (hb : b ∈ (snprintf size s).1) : b.1 < size := by
  unfold snprintf at hb
  split at hb
  · cases hb
  · split at hb
    · cases hb
    · have := List.fst_lt_of_mem_enum hb
      simp only [List.length_append, List.length_take, List.length_singleton] at this
      omega

theorem snprintf_of_refused {size : Nat} (h : intMax < size) (s : List UInt8) :
    snprintf size s = ([], 0) := by
  simp only [snprintf, if_pos h]

theorem snprintf_of_le {size : Nat} (h : size ≤ intMax) (s : List UInt8) :
    (snprintf size s).2 = s.length := by
  simp only [snprintf, if_neg (Nat.not_lt.mpr h)]

theorem length_flatMap_utf8EncodeChar (cs : List Char) :
    (cs.flatMap String.utf8EncodeChar).length ≤ 4 * cs.length := by
  induction cs with
  | nil => simp
  | cons c cs ih =>
    simp only [List.flatMap_cons, List.length_append, String.length_utf8EncodeChar,
      List.length_cons]
    have := c.utf8Size_le_four
    omega

/-- A text is at most 38 characters, of at most four bytes each: far too short to wrap a
`size` below `INT_MAX` back under it. -/
theorem denverText_length_lt (cpu : DenverCpu) : (denverText cpu).length < 2 ^ 8 := by
  have haidr : cpu.aidr.toNat < 2 ^ 32 := cpu.aidr.isLt
  have hid : (toString cpu.id).length ≤ 10 :=
    Nat.repr_length _ _ (by decide) (by have := cpu.id_lt; omega)
  have hdec : (toString cpu.aidr.toNat).length ≤ 10 :=
    Nat.repr_length _ _ (by decide) (by omega)
  have hhex : (hexDigits cpu.aidr.toNat).length ≤ 8 :=
    Nat.toDigitsCore_length 16 (by decide) _ _ 8 (by omega) (by decide)
  calc (denverText cpu).length
      ≤ 4 * ("CPU" ++ toString cpu.id ++ ": " ++ toString cpu.aidr.toNat ++ "(0x" ++
          hexDigits cpu.aidr.toNat ++ ") ").length := length_flatMap_utf8EncodeChar _
    _ < 2 ^ 8 := by
      simp only [String.length_append, show "CPU".length = 3 from rfl,
        show ": ".length = 2 from rfl, show "(0x".length = 3 from rfl,
        show ") ".length = 2 from rfl]
      omega

/-! ## The loop -/

section Loop

variable {nvidia : BitVec 32 → Bool}

theorem printedTotal_append (pre post : List DenverCpu) :
    printedTotal nvidia (pre ++ post) = printedTotal nvidia pre + printedTotal nvidia post := by
  induction pre with
  | nil => exact (Nat.zero_add _).symm
  | cons cpu pre ih => rw [List.cons_append, printedTotal, printedTotal, ih, Nat.add_assoc]

theorem denverStep_of_not_nvidia (st : DenverState) {cpu : DenverCpu}
    (h : nvidia cpu.midr = false) : denverStep nvidia st cpu = st := by
  simp only [denverStep, h, Bool.false_eq_true, if_false]

/-- A `size` past `INT_MAX` stops the loop: `snprintf` stores nothing and returns 0. -/
theorem denverStep_of_refused {st : DenverState} (h : intMax < st.size.toNat) (cpu : DenverCpu) :
    denverStep nvidia st cpu = st := by
  simp only [denverStep, snprintf_of_refused h, List.map_nil, List.append_nil, Nat.add_zero,
    BitVec.ofNat_eq_ofNat, BitVec.sub_zero, ite_self]

theorem denverStep_of_nvidia (st : DenverState) {cpu : DenverCpu} (h : nvidia cpu.midr = true) :
    denverStep nvidia st cpu =
      ⟨st.v + (snprintf st.size.toNat (denverText cpu)).2,
        st.size - BitVec.ofNat 64 (snprintf st.size.toNat (denverText cpu)).2,
        st.writes ++ (snprintf st.size.toNat (denverText cpu)).1.map fun b => (st.v + b.1, b.2)⟩ := by
  simp only [denverStep, h, if_true]

/-- What every iteration keeps, for a buffer of `n` bytes: every byte stored lies in the
buffer, `v + size` is `n` modulo 2^64, and unless `snprintf` refuses `size` it is `n` exactly. -/
structure DenverInv (n : Nat) (st : DenverState) : Prop where
  writes_lt : ∀ b ∈ st.writes, b.1 < n
  wrap : (st.v + st.size.toNat) % 2 ^ 64 = n
  live : intMax < st.size.toNat ∨ st.v + st.size.toNat = n

theorem DenverInv.init (size : BitVec 64) : DenverInv size.toNat ⟨0, size, []⟩ :=
  ⟨nofun, by simp [Nat.mod_eq_of_lt size.isLt], .inr (Nat.zero_add _)⟩

/-- A `size` that `snprintf` refuses lies past `v`: `v` has gone past a buffer of at most
`INT_MAX` bytes. -/
theorem DenverInv.lt_v_of_refused {n : Nat} {st : DenverState} (H : DenverInv n st)
    (hn : n ≤ intMax) (h : intMax < st.size.toNat) : n < st.v := by
  have := H.wrap
  have := st.size.isLt
  omega

theorem DenverInv.step {n : Nat} {st : DenverState} (H : DenverInv n st) (cpu : DenverCpu) :
    DenverInv n (denverStep nvidia st cpu) := by
  cases hnv : nvidia cpu.midr
  · rwa [denverStep_of_not_nvidia st hnv]
  by_cases hr : intMax < st.size.toNat
  · rwa [denverStep_of_refused hr]
  -- `snprintf` takes the size: it returns the whole text
  have hlive : st.v + st.size.toNat = n := H.live.resolve_left hr
  have hlen := denverText_length_lt cpu
  have hwrap := H.wrap
  rw [denverStep_of_nvidia st hnv, snprintf_of_le (Nat.le_of_not_lt hr)]
  refine ⟨fun b hb => ?_, ?_, ?_⟩
  · rcases List.mem_append.mp hb with hb | hb
    · exact H.writes_lt b hb
    · obtain ⟨b', hb', rfl⟩ := List.mem_map.mp hb
      have := snprintf_offset_lt hb'
      dsimp only
      omega
  · simp only [BitVec.toNat_sub, BitVec.toNat_ofNat]
    omega
  · -- the text fits and `size` shrinks by it, or it wraps past `INT_MAX`
    simp only [BitVec.toNat_sub, BitVec.toNat_ofNat, intMax] at hr ⊢
    omega

theorem DenverInv.run {n : Nat} (cpus : List DenverCpu) {st : DenverState} (H : DenverInv n st) :
    DenverInv n (cpus.foldl (denverStep nvidia) st) := by
  induction cpus generalizing st with
  | nil => exact H
  | cons cpu cpus ih => exact ih (H.step cpu)

/-- What the return value keeps, for a buffer of `n` bytes after texts of total length `P`:
`v` is at most `P`, and it is `P` until a text does not fit, past the buffer from then on. -/
structure DenverReturn (n P : Nat) (st : DenverState) : Prop where
  le : st.v ≤ P
  eq_or_past : st.v = P ∨ n < st.v

theorem DenverReturn.step {n P : Nat} {st : DenverState} (hn : n ≤ intMax) (H : DenverInv n st)
    (HR : DenverReturn n P st) (cpu : DenverCpu) :
    DenverReturn n (P + if nvidia cpu.midr then (denverText cpu).length else 0)
      (denverStep nvidia st cpu) := by
  cases hnv : nvidia cpu.midr
  · rw [denverStep_of_not_nvidia st hnv]
    simpa using HR
  by_cases hr : intMax < st.size.toNat
  · -- refused: `v` stays, and it is already past the buffer
    rw [denverStep_of_refused hr]
    have := H.lt_v_of_refused hn hr
    exact ⟨by have := HR.le; simp; omega, .inr this⟩
  · rw [denverStep_of_nvidia st hnv, snprintf_of_le (Nat.le_of_not_lt hr)]
    have := HR.le
    rcases HR.eq_or_past with h | h
    · exact ⟨by simp; omega, .inl (by simp [h])⟩
    · exact ⟨by simp; omega, .inr (by dsimp only; omega)⟩

theorem DenverReturn.run {n : Nat} (hn : n ≤ intMax) (cpus : List DenverCpu) {P : Nat}
    {st : DenverState} (H : DenverInv n st) (HR : DenverReturn n P st) :
    DenverReturn n (P + printedTotal nvidia cpus) (cpus.foldl (denverStep nvidia) st) := by
  induction cpus generalizing st P with
  | nil => simpa using HR
  | cons cpu cpus ih =>
    rw [printedTotal, ← Nat.add_assoc]
    exact ih (H.step cpu) (HR.step hn H cpu)

end Loop

/-! ## The return value and the buffer -/

/-- Whatever the buffer size and the CPUs, `tegrafw_read_denver` stores no byte past the
buffer, since the kernel's `snprintf` refuses the wrapped `size`; `size` ends at the initial
size less the return value, modulo 2^64. For a buffer of at most `INT_MAX` bytes the return
value is below the size exactly when the texts fit. -/
theorem tegrafwReadDenver_guard (nvidia : BitVec 32 → Bool) (size : BitVec 64)
    (cpus : List DenverCpu) :
    (∀ b ∈ (tegrafwReadDenver nvidia size cpus).writes, b.1 < size.toNat) ∧
    (tegrafwReadDenver nvidia size cpus).size =
      size - BitVec.ofNat 64 (tegrafwReadDenver nvidia size cpus).v ∧
    (size.toNat ≤ intMax →
      ((tegrafwReadDenver nvidia size cpus).v < size.toNat ↔
        printedTotal nvidia cpus < size.toNat)) := by
  have H : DenverInv size.toNat (tegrafwReadDenver nvidia size cpus) :=
    (DenverInv.init size).run cpus
  refine ⟨H.writes_lt, BitVec.eq_of_toNat_eq ?_, fun hn => ?_⟩
  · have := H.wrap
    have := (tegrafwReadDenver nvidia size cpus).size.isLt
    have := size.isLt
    simp only [BitVec.toNat_sub, BitVec.toNat_ofNat]
    omega
  · have HR : DenverReturn size.toNat (0 + printedTotal nvidia cpus)
        (tegrafwReadDenver nvidia size cpus) :=
      DenverReturn.run hn cpus (DenverInv.init size) ⟨le_refl 0, .inl rfl⟩
    rw [Nat.zero_add] at HR
    have := HR.le
    rcases HR.eq_or_past with h | h <;> constructor <;> intro <;> omega

/-- A one-byte buffer and two Denver cores, with the arm64 test (implementor byte `0x4E`): the
only byte stored is the NUL at offset 0, and the texts do not fit. -/
theorem tegrafwReadDenver_guard_one_byte :
    let nvidia := fun midr : BitVec 32 => midr >>> 24 == 0x4E#32
    let cpus : List DenverCpu :=
      [⟨0, 0x4E0F0030#32, 0#32, by decide⟩, ⟨1, 0x4E0F0030#32, 0#32, by decide⟩]
    (1#64).toNat ≤ intMax ∧
    (∀ b ∈ (tegrafwReadDenver nvidia 1#64 cpus).writes, b.1 < (1#64).toNat) ∧
    (tegrafwReadDenver nvidia 1#64 cpus).size =
      1#64 - BitVec.ofNat 64 (tegrafwReadDenver nvidia 1#64 cpus).v ∧
    ((1#64).toNat ≤ intMax →
      ((tegrafwReadDenver nvidia 1#64 cpus).v < (1#64).toNat ↔
        printedTotal nvidia cpus < (1#64).toNat)) :=
  ⟨by decide, tegrafwReadDenver_guard _ _ _⟩

/-- When the texts fit in a buffer of at most `INT_MAX` bytes, `size` never wraps: after every
prefix of the CPUs it is the initial size less the texts printed so far. Every byte stored lies
in the buffer, and the return value is below the size. -/
theorem tegrafwReadDenver_in_bounds (nvidia : BitVec 32 → Bool) (size : BitVec 64)
    (cpus : List DenverCpu) (hsize : size.toNat ≤ intMax)
    (hfit : printedTotal nvidia cpus < size.toNat) :
    (∀ pre post, cpus = pre ++ post →
      (tegrafwReadDenver nvidia size pre).size.toNat = size.toNat - printedTotal nvidia pre ∧
        printedTotal nvidia pre < size.toNat) ∧
    (∀ b ∈ (tegrafwReadDenver nvidia size cpus).writes, b.1 < size.toNat) ∧
    (tegrafwReadDenver nvidia size cpus).v < size.toNat := by
  -- on a prefix whose texts fit, `v` is their length and `size` was never refused
  have hfits (l : List DenverCpu) (hl : printedTotal nvidia l < size.toNat) :
      (tegrafwReadDenver nvidia size l).v = printedTotal nvidia l ∧
        (tegrafwReadDenver nvidia size l).v + (tegrafwReadDenver nvidia size l).size.toNat =
          size.toNat := by
    have H : DenverInv size.toNat (tegrafwReadDenver nvidia size l) :=
      (DenverInv.init size).run l
    have HR : DenverReturn size.toNat (0 + printedTotal nvidia l)
        (tegrafwReadDenver nvidia size l) :=
      DenverReturn.run hsize l (DenverInv.init size) ⟨le_refl 0, .inl rfl⟩
    rw [Nat.zero_add] at HR
    have hv : (tegrafwReadDenver nvidia size l).v = printedTotal nvidia l :=
      HR.eq_or_past.resolve_right fun h => by have := HR.le; omega
    exact ⟨hv, H.live.resolve_left fun hr => by
      have := H.lt_v_of_refused hsize hr; omega⟩
  have H : DenverInv size.toNat (tegrafwReadDenver nvidia size cpus) :=
    (DenverInv.init size).run cpus
  refine ⟨fun pre post h => ?_, H.writes_lt, by have := hfits cpus hfit; omega⟩
  have hpre : printedTotal nvidia pre < size.toNat := by
    rw [h, printedTotal_append] at hfit
    omega
  have := hfits pre hpre
  omega

/-- Two Denver cores, a 64-byte buffer: the 26 bytes of text fit. -/
theorem tegrafwReadDenver_in_bounds_denver :
    let nvidia := fun midr : BitVec 32 => midr >>> 24 == 0x4E#32
    let cpus : List DenverCpu :=
      [⟨0, 0x4E0F0030#32, 0#32, by decide⟩, ⟨1, 0x4E0F0030#32, 0#32, by decide⟩]
    (64#64).toNat ≤ intMax ∧ printedTotal nvidia cpus < (64#64).toNat ∧
    (∀ pre post, cpus = pre ++ post →
      (tegrafwReadDenver nvidia 64#64 pre).size.toNat = (64#64).toNat - printedTotal nvidia pre ∧
        printedTotal nvidia pre < (64#64).toNat) ∧
    (∀ b ∈ (tegrafwReadDenver nvidia 64#64 cpus).writes, b.1 < (64#64).toNat) ∧
    (tegrafwReadDenver nvidia 64#64 cpus).v < (64#64).toNat := by
  intro nvidia cpus
  have hsize : (64#64).toNat ≤ intMax := by decide
  have hfit : printedTotal nvidia cpus < (64#64).toNat := by decide
  exact ⟨hsize, hfit, tegrafwReadDenver_in_bounds nvidia 64#64 cpus hsize hfit⟩

end TegraFirmwares
