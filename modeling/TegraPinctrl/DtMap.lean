import TegraPinctrl.Pinmux

/-! # From the device tree to pin-control map entries

`tegra_pinctrl_dt_node_to_map` turns each subnode of a pin configuration node into map entries
for the pin-control core: for every group named in `nvidia,pins`, a `MUX_GROUP` entry when the
subnode names a function, then a `CONFIGS_GROUP` entry with one packed configuration per
`cfg_params` property present. Before emitting a subnode's entries it reserves room for them in
the map array; on any failure it frees what it built.

The `pinctrl_utils_*` helpers are outside the sources; they follow the kernel's
`pinctrl-utils.c`. The allocator under them is abstract: it hands out numbered blocks and may
fail on any allocation; `Heap.live` is the set of blocks not yet freed.

Main results: when every allocation succeeds and every `nvidia,pins` list parses, the map list is
exactly the entries described above and the reservation equals what was emitted; whatever
fails, no `add_map` call runs out of room, and a failed call leaves the heap as it found it
(`tegraPinctrlDtNodeToMap_spec`). Over the map's whole life nothing leaks: the core's
`dt_free_map` frees exactly what a successful call allocated
(`tegraPinctrlDtNodeToMap_freeMap`). -/

namespace TegraPinctrl

/-- A subnode as the driver reads it: `of_property_read_string` of `nvidia,function`,
`of_property_read_u32` of each property, and `nvidia,pins` with
`of_property_count_strings`, whose errors are negative. -/
structure DtSubnode where
  function : Except Int String
  u32Prop : String → Except Int (BitVec 32)
  pins : Except Int (List String)
  pins_error : ∀ e, pins = .error e → e < 0

/-- A map entry, `struct pinctrl_map`, with the group it names. -/
inductive PinctrlMap
  | muxGroup (group function : String)
  | configsGroup (group : String) (configs : List Nat)
  deriving DecidableEq, Repr

/-- The kernel allocator: whether the `n`-th allocation succeeds, how many were made, and the
blocks not yet freed. -/
structure Heap where
  allocOk : Nat → Bool
  next : Nat
  live : Nat → Bool
  live_lt : ∀ b, live b = true → b < next

/-- An allocation: a fresh block, or `NULL` when the allocator fails. -/
def Heap.alloc (h : Heap) : Option Nat × Heap :=
  if h.allocOk h.next then
    (some h.next, ⟨h.allocOk, h.next + 1, fun b => b = h.next || h.live b, fun b hb => by
      rcases Bool.or_eq_true _ _ ▸ hb with hb | hb
      · exact Nat.lt_succ_of_le (Nat.le_of_eq (of_decide_eq_true hb))
      · exact Nat.lt_succ_of_lt (h.live_lt b hb)⟩)
  else (none, ⟨h.allocOk, h.next + 1, h.live, fun b hb => Nat.lt_succ_of_lt (h.live_lt b hb)⟩)

/-- `kfree`; freeing `NULL` does nothing. -/
def Heap.free (h : Heap) : Option Nat → Heap
  | none => h
  | some p => ⟨h.allocOk, h.next, fun b => h.live b && b ≠ p, fun b hb =>
      h.live_lt b (Bool.and_eq_true _ _ ▸ hb).1⟩

/-- `krealloc`: a fresh block holding the old contents and the old block freed; on failure the
old block stays. -/
def Heap.realloc (h : Heap) (p : Option Nat) : Option Nat × Heap :=
  match h.alloc with
  | (some b, h) => (some b, h.free p)
  | (none, h) => (none, h)

/-- The map being built: `*map`, its entries `(*map)[0 .. *num_maps)` each with the
configuration array it points to, and `*reserved_maps`. -/
structure MapState where
  heap : Heap
  map : Option Nat
  maps : List (PinctrlMap × Option Nat)
  reservedMaps : Nat

/-- `pinctrl_utils_reserve_map` of the kernel's `pinctrl-utils.c`: room for `reserve` more
entries. -/
def pinctrlUtilsReserveMap (s : MapState) (reserve : Nat) : Int × MapState :=
  let newNum := s.maps.length + reserve
  if newNum ≤ s.reservedMaps then (0, s) else
  match s.heap.realloc s.map with
  | (none, heap) => (-ENOMEM, { s with heap })
  | (some b, heap) => (0, { s with heap, map := some b, reservedMaps := newNum })

/-- `pinctrl_utils_add_map_mux` of the kernel's `pinctrl-utils.c`. -/
def pinctrlUtilsAddMapMux (s : MapState) (group function : String) : Int × MapState :=
  if s.maps.length = s.reservedMaps then (-ENOSPC, s)
  else (0, { s with maps := s.maps ++ [(.muxGroup group function, none)] })

/-- `pinctrl_utils_add_map_configs` of the kernel's `pinctrl-utils.c`, which stores a copy of
the configurations (`kmemdup`). -/
def pinctrlUtilsAddMapConfigs (s : MapState) (group : String) (configs : List Nat) :
    Int × MapState :=
  if s.maps.length = s.reservedMaps then (-ENOSPC, s) else
  match s.heap.alloc with
  | (none, heap) => (-ENOMEM, { s with heap })
  | (some b, heap) => (0, { s with heap, maps := s.maps ++ [(.configsGroup group configs, some b)] })

/-- `pinctrl_utils_add_config` of the kernel's `pinctrl-utils.c`, which grows the configuration
array by one (`krealloc`). -/
def pinctrlUtilsAddConfig (heap : Heap) (configs : Option Nat × List Nat) (config : Nat) :
    Int × Heap × (Option Nat × List Nat) :=
  match heap.realloc configs.1 with
  | (none, heap) => (-ENOMEM, heap, configs)
  | (some b, heap) => (0, heap, (some b, configs.2 ++ [config]))

/-- `pinctrl_utils_free_map` of the kernel's `pinctrl-utils.c`, which frees each entry's
configuration array and then the map array. -/
def pinctrlUtilsFreeMap (s : MapState) : Heap :=
  (s.maps.foldl (fun heap m => heap.free m.2) s.heap).free s.map

/-- `nvidia,function`: a read error of any kind means the subnode has none. -/
def dtSubnodeFunction (np : DtSubnode) : Option String :=
  match np.function with
  | .ok f => some f
  | .error _ => none

/-- The loop of `tegra_pinctrl_dt_subnode_to_map` over `cfg_params`: each property that reads
adds `PACK(param, value)`; one that does not is skipped. -/
def dtConfigsLoop (np : DtSubnode) :
    List (String × TegraPinconfParam) → Heap → Option Nat × List Nat →
      Int × Heap × (Option Nat × List Nat)
  | [], heap, configs => (0, heap, configs)
  | (property, param) :: rest, heap, configs =>
    match np.u32Prop property with
    | .ok val =>
      let (ret, heap, configs) :=
        pinctrlUtilsAddConfig heap configs (tegraPinconfPack param.val val.toNat)
      if ret < 0 then (ret, heap, configs) else dtConfigsLoop np rest heap configs
    | .error _ => dtConfigsLoop np rest heap configs

/-- The loop of `tegra_pinctrl_dt_subnode_to_map` over the `nvidia,pins` strings. -/
def dtPinsLoop (function : Option String) (configs : List Nat) :
    List String → MapState → Int × MapState
  | [], s => (0, s)
  | group :: rest, s =>
    let (ret, s) := match function with
      | some f => pinctrlUtilsAddMapMux s group f
      | none => (0, s)
    if ret < 0 then (ret, s) else
    let (ret, s) := if configs.length ≠ 0 then pinctrlUtilsAddMapConfigs s group configs
      else (0, s)
    if ret < 0 then (ret, s) else dtPinsLoop function configs rest s

/-- `tegra_pinctrl_dt_subnode_to_map`. Every way out passes the `exit` label, which frees the
configuration array. -/
def tegraPinctrlDtSubnodeToMap (np : DtSubnode) (s : MapState) : Int × MapState :=
  let function := dtSubnodeFunction np
  let (ret, heap, configs) := dtConfigsLoop np cfgParams s.heap (none, [])
  let exit (ret : Int) (s : MapState) : Int × MapState :=
    (ret, { s with heap := s.heap.free configs.1 })
  if ret < 0 then exit ret { s with heap } else
  let reserve := (if function.isSome then 1 else 0) + (if configs.2.length ≠ 0 then 1 else 0)
  match np.pins with
  | .error e => exit e { s with heap }
  | .ok pins =>
    let (ret, s) := pinctrlUtilsReserveMap { s with heap } (reserve * pins.length)
    if ret < 0 then exit ret s else
    let (ret, s) := dtPinsLoop function configs.2 pins s
    exit ret s

/-- The loop of `tegra_pinctrl_dt_node_to_map` over the subnodes; on a failure it frees the
map built so far. -/
def dtNodeLoop : List DtSubnode → MapState → Int × MapState
  | [], s => (0, s)
  | np :: nps, s =>
    let (ret, s) := tegraPinctrlDtSubnodeToMap np s
    if ret < 0 then (ret, { s with heap := pinctrlUtilsFreeMap s }) else dtNodeLoop nps s

/-- `tegra_pinctrl_dt_node_to_map`: the return value, and the map array, its entries and the
heap afterwards. -/
def tegraPinctrlDtNodeToMap (nps : List DtSubnode) (heap : Heap) : Int × MapState :=
  dtNodeLoop nps ⟨heap, none, [], 0⟩

/-! ## What the map should hold -/

/-- The configurations a subnode asks for: `PACK(param, value)` for each property that reads,
in `cfg_params` order. -/
def dtSubnodeConfigs (np : DtSubnode) : List Nat :=
  cfgParams.filterMap fun e => match np.u32Prop e.1 with
    | .ok val => some (tegraPinconfPack e.2.val val.toNat)
    | .error _ => none

/-- The entries for the groups `pins`: per group, the mux entry if there is a function, then
the configuration entry if there are configurations. -/
def pinsMaps (function : Option String) (configs : List Nat) (pins : List String) :
    List PinctrlMap :=
  pins.flatMap fun group =>
    (function.map (.muxGroup group)).toList ++
      if configs = [] then [] else [.configsGroup group configs]

/-- The entries of a subnode whose `nvidia,pins` lists `pins`. -/
def dtSubnodeMaps (np : DtSubnode) (pins : List String) : List PinctrlMap :=
  pinsMaps (dtSubnodeFunction np) (dtSubnodeConfigs np) pins

/-! ## The heap while the map is built -/

/-- The blocks a map state holds: the map array and each entry's configuration array, and the
subnode's configuration array `configs`. -/
def MapState.Held (s : MapState) (configs : Option Nat) (b : Nat) : Prop :=
  s.map = some b ∨ (∃ e ∈ s.maps, e.2 = some b) ∨ configs = some b

/-- The heap while the map is built, against the heap `h₀` it started from: every block of `h₀`
is still live, every other live block is held by the map or the configuration array, and every
held block was allocated since. -/
structure MapState.Holds (h₀ : Heap) (configs : Option Nat) (s : MapState) : Prop where
  allocOk : s.heap.allocOk = h₀.allocOk
  next_le : h₀.next ≤ s.heap.next
  old_live : ∀ b, h₀.live b = true → s.heap.live b = true
  live_held : ∀ b, s.heap.live b = true → h₀.live b = true ∨ s.Held configs b
  held_new : ∀ b, s.Held configs b → h₀.next ≤ b
  held_lt : ∀ b, s.Held configs b → b < s.heap.next

theorem MapState.holds_start (h₀ : Heap) : MapState.Holds h₀ none ⟨h₀, none, [], 0⟩ :=
  ⟨rfl, Nat.le_refl _, fun _ h => h, fun _ h => .inl h, fun _ h => by simp [MapState.Held] at h,
    fun _ h => by simp [MapState.Held] at h⟩

/-- One step of the builder: the live blocks lose the freed blocks `F`, which it held, and gain
the fresh blocks `N`; it holds afterwards at most what it held and `N`, and at least what it
held but `F`, and `N`. -/
theorem MapState.Holds.step {h₀ : Heap} {c c' : Option Nat} {s s' : MapState}
    (H : s.Holds h₀ c) (F N : Nat → Prop) (hallocOk : s'.heap.allocOk = s.heap.allocOk)
    (hnext : s.heap.next ≤ s'.heap.next)
    (hlive : ∀ b, s'.heap.live b = true → (s.heap.live b = true ∧ ¬F b) ∨ N b)
    (hkeep : ∀ b, s.heap.live b = true → ¬F b → s'.heap.live b = true)
    (hF : ∀ b, F b → s.Held c b) (hN : ∀ b, N b → s.heap.next ≤ b ∧ b < s'.heap.next)
    (hheld : ∀ b, s'.Held c' b → s.Held c b ∨ N b)
    (hheld' : ∀ b, (s.Held c b ∧ ¬F b) ∨ N b → s'.Held c' b) : s'.Holds h₀ c' where
  allocOk := hallocOk.trans H.allocOk
  next_le := Nat.le_trans H.next_le hnext
  old_live b hb := hkeep b (H.old_live b hb) fun hf =>
    absurd (h₀.live_lt b hb) (Nat.not_lt.mpr (H.held_new b (hF b hf)))
  live_held b hb := by
    rcases hlive b hb with ⟨hl, hf⟩ | hn
    · exact (H.live_held b hl).imp_right fun hh => hheld' b (.inl ⟨hh, hf⟩)
    · exact .inr (hheld' b (.inr hn))
  held_new b hb := by
    rcases hheld b hb with hh | hn
    · exact H.held_new b hh
    · exact Nat.le_trans H.next_le (hN b hn).1
  held_lt b hb := by
    rcases hheld b hb with hh | hn
    · exact Nat.lt_of_lt_of_le (H.held_lt b hh) hnext
    · exact (hN b hn).2

/-- A step that frees nothing and allocates nothing. -/
theorem MapState.Holds.of_same {h₀ : Heap} {c c' : Option Nat} {s s' : MapState}
    (H : s.Holds h₀ c) (hallocOk : s'.heap.allocOk = s.heap.allocOk)
    (hnext : s.heap.next ≤ s'.heap.next) (hlive : s'.heap.live = s.heap.live)
    (hheld : ∀ b, s'.Held c' b ↔ s.Held c b) : s'.Holds h₀ c' :=
  H.step (fun _ => False) (fun _ => False) hallocOk hnext (by simp [hlive]) (by simp [hlive])
    (fun _ h => h.elim) (fun _ h => h.elim) (fun b h => .inl ((hheld b).mp h))
    (fun b h => (hheld b).mpr (h.elim And.left False.elim))

@[simp] theorem Heap.free_allocOk (h : Heap) (p : Option Nat) :
    (h.free p).allocOk = h.allocOk := by
  cases p <;> rfl

@[simp] theorem Heap.free_next (h : Heap) (p : Option Nat) : (h.free p).next = h.next := by
  cases p <;> rfl

@[simp] theorem Heap.free_live (h : Heap) (p : Option Nat) (b : Nat) :
    (h.free p).live b = (h.live b && decide (p ≠ some b)) := by
  cases p <;> simp [Heap.free, eq_comm]

/-- The `exit` label of a subnode: freeing its configuration array. -/
theorem MapState.Holds.exit {h₀ : Heap} {c : Option Nat} {s : MapState} (H : s.Holds h₀ c) :
    ({ s with heap := s.heap.free c } : MapState).Holds h₀ none := by
  refine H.step (c = some ·) (fun _ => False) (by simp) (by simp) ?_ ?_
    (fun b hb => .inr (.inr hb)) (fun _ h => h.elim) ?_ ?_
  · intro b hb
    simp only [Heap.free_live, Bool.and_eq_true, decide_eq_true_eq] at hb
    exact .inl hb
  · intro b hb hc
    simp [hb, hc]
  · rintro b (h | h | h)
    exacts [.inl (.inl h), .inl (.inr (.inl h)), nomatch h]
  · rintro b (⟨h | h | h, hc⟩ | h)
    exacts [.inl h, .inr (.inl h), absurd h hc, h.elim]

/-- A successful allocation that also frees `p`, a block the builder held (`NULL` for
`kmalloc`, the old block for `krealloc`): the fresh block is the only new one. -/
theorem MapState.Holds.allocFree {h₀ : Heap} {c c' : Option Nat} {s s' : MapState}
    (H : s.Holds h₀ c) {p : Option Nat} (hp : ∀ b, p = some b → s.Held c b)
    (hallocOk : s'.heap.allocOk = s.heap.allocOk) (hnext : s'.heap.next = s.heap.next + 1)
    (hlive : ∀ b, s'.heap.live b =
      ((decide (b = s.heap.next) || s.heap.live b) && decide (p ≠ some b)))
    (hheld : ∀ b, s'.Held c' b → s.Held c b ∨ b = s.heap.next)
    (hheld' : ∀ b, (s.Held c b ∧ p ≠ some b) ∨ b = s.heap.next → s'.Held c' b) :
    s'.Holds h₀ c' := by
  refine H.step (p = some ·) (· = s.heap.next) hallocOk (by omega) (fun b hb => ?_)
    (fun b hb hf => by simp [hlive, hb, hf]) hp (fun b hb => by omega) hheld hheld'
  simp only [hlive, Bool.and_eq_true, Bool.or_eq_true, decide_eq_true_eq] at hb
  exact hb.1.elim .inr fun h => .inl ⟨h, hb.2⟩

/-! ## The helpers -/

section Helpers

variable {h₀ : Heap} {c : Option Nat} {s : MapState}

theorem pinctrlUtilsAddMapMux_of_lt (hroom : s.maps.length < s.reservedMaps)
    (group function : String) :
    pinctrlUtilsAddMapMux s group function =
      (0, { s with maps := s.maps ++ [(.muxGroup group function, none)] }) :=
  if_neg (Nat.ne_of_lt hroom)

theorem MapState.Holds.addMux (H : s.Holds h₀ c) (group function : String) :
    ({ s with maps := s.maps ++ [(.muxGroup group function, none)] } : MapState).Holds h₀ c :=
  H.of_same rfl (Nat.le_refl _) rfl fun b => by simp [MapState.Held]

/-- Adding a configuration entry with room for it: the entry and its copy, or `-ENOMEM` and
nothing. -/
theorem pinctrlUtilsAddMapConfigs_spec (H : s.Holds h₀ c) (hroom : s.maps.length < s.reservedMaps)
    (group : String) (configs : List Nat) :
    let r := pinctrlUtilsAddMapConfigs s group configs
    r.2.Holds h₀ c ∧ r.2.reservedMaps = s.reservedMaps ∧
    ((r.1 = 0 ∧ r.2.maps.map (·.1) = s.maps.map (·.1) ++ [.configsGroup group configs]) ∨
      (r.1 = -ENOMEM ∧ r.2.maps = s.maps)) ∧
    (s.heap.allocOk s.heap.next = true → r.1 = 0) := by
  simp only [pinctrlUtilsAddMapConfigs, if_neg (Nat.ne_of_lt hroom), Heap.alloc]
  split_ifs with hok <;> dsimp only
  · refine ⟨H.allocFree (p := none) (fun _ h => nomatch h) rfl rfl (fun b => by simp) ?_ ?_, rfl,
      .inl ⟨rfl, by simp⟩, fun _ => rfl⟩
    · rintro b (h | ⟨e, he, h⟩ | h)
      · exact .inl (.inl h)
      · rcases List.mem_append.mp he with he | he
        · exact .inl (.inr (.inl ⟨e, he, h⟩))
        · rw [List.mem_singleton.mp he] at h
          exact .inr (Option.some.inj h).symm
      · exact .inl (.inr (.inr h))
    · rintro b (⟨h | ⟨e, he, h⟩ | h, -⟩ | rfl)
      · exact .inl h
      · exact .inr (.inl ⟨e, List.mem_append_left _ he, h⟩)
      · exact .inr (.inr h)
      · exact .inr (.inl ⟨_, List.mem_append_right _ (List.mem_singleton_self _), rfl⟩)
  · exact ⟨H.of_same rfl (Nat.le_succ _) rfl fun _ => Iff.rfl, rfl, .inr ⟨rfl, rfl⟩,
      fun h => absurd h hok⟩

/-- Growing a configuration array: the array one longer in a fresh block, or `-ENOMEM` and the
old one. -/
theorem pinctrlUtilsAddConfig_spec (H : s.Holds h₀ c) (l : List Nat) (config : Nat) :
    let r := pinctrlUtilsAddConfig s.heap (c, l) config
    ({ s with heap := r.2.1 } : MapState).Holds h₀ r.2.2.1 ∧
    ((r.1 = 0 ∧ r.2.2.2 = l ++ [config]) ∨ (r.1 = -ENOMEM ∧ r.2.2.2 = l)) ∧
    (s.heap.allocOk s.heap.next = true → r.1 = 0) := by
  simp only [pinctrlUtilsAddConfig, Heap.realloc, Heap.alloc]
  split_ifs with hok <;> dsimp only
  · refine ⟨H.allocFree (fun b hb => .inr (.inr hb)) (by simp) (by simp) (fun b => by simp) ?_ ?_,
      .inl ⟨rfl, rfl⟩, fun _ => rfl⟩
    · rintro b (h | h | h)
      exacts [.inl (.inl h), .inl (.inr (.inl h)), .inr (Option.some.inj h).symm]
    · rintro b (⟨h | h | h, hc⟩ | rfl)
      exacts [.inl h, .inr (.inl h), absurd h hc, .inr (.inr rfl)]
  · exact ⟨H.of_same rfl (Nat.le_succ _) rfl fun _ => Iff.rfl, .inr ⟨rfl, rfl⟩,
      fun h => absurd h hok⟩

/-- Reserving room: either the room is there, or `-ENOMEM`; the entries stay. -/
theorem pinctrlUtilsReserveMap_spec (H : s.Holds h₀ c) (reserve : Nat) :
    let r := pinctrlUtilsReserveMap s reserve
    r.2.Holds h₀ c ∧ r.2.maps = s.maps ∧ s.reservedMaps ≤ r.2.reservedMaps ∧
    ((r.1 = 0 ∧ s.maps.length + reserve ≤ r.2.reservedMaps) ∨ r.1 = -ENOMEM) ∧
    (s.heap.allocOk s.heap.next = true →
      r.1 = 0 ∧ r.2.reservedMaps = max s.reservedMaps (s.maps.length + reserve)) := by
  simp only [pinctrlUtilsReserveMap]
  split_ifs with hle
  · exact ⟨H, rfl, Nat.le_refl _, .inl ⟨rfl, hle⟩, fun _ => ⟨rfl, (max_eq_left hle).symm⟩⟩
  simp only [Heap.realloc, Heap.alloc]
  split_ifs with hok <;> dsimp only
  · refine ⟨H.allocFree (fun b hb => .inl hb) (by simp) (by simp) (fun b => by simp) ?_ ?_,
      rfl, by omega, .inl ⟨rfl, Nat.le_refl _⟩, fun _ => ⟨rfl, by omega⟩⟩
    · rintro b (h | h | h)
      exacts [.inr (Option.some.inj h).symm, .inl (.inr (.inl h)), .inl (.inr (.inr h))]
    · rintro b (⟨h | h | h, hm⟩ | rfl)
      exacts [absurd h hm, .inr (.inl h), .inr (.inr h), .inl rfl]
  · exact ⟨H.of_same rfl (Nat.le_succ _) rfl fun _ => Iff.rfl, rfl, Nat.le_refl _, .inr rfl,
      fun h => absurd h hok⟩

end Helpers

/-! ## The loops of a subnode -/

/-- The configuration of one `cfg_params` entry, if its property reads. -/
def dtParamConfig (np : DtSubnode) (e : String × TegraPinconfParam) : Option Nat :=
  match np.u32Prop e.1 with
  | .ok val => some (tegraPinconfPack e.2.val val.toNat)
  | .error _ => none

theorem dtSubnodeConfigs_eq (np : DtSubnode) :
    dtSubnodeConfigs np = cfgParams.filterMap (dtParamConfig np) := rfl

/-- The configuration loop keeps the heap invariant with the configuration array it grows, and
fails only for memory; with every allocation succeeding it collects one configuration per
property that reads. -/
theorem dtConfigsLoop_spec (np : DtSubnode) {h₀ : Heap} (params : List (String × TegraPinconfParam))
    {s : MapState} {c : Option Nat} (H : s.Holds h₀ c) (l : List Nat) :
    let r := dtConfigsLoop np params s.heap (c, l)
    ({ s with heap := r.2.1 } : MapState).Holds h₀ r.2.2.1 ∧ (r.1 = 0 ∨ r.1 = -ENOMEM) ∧
    ((∀ n, h₀.allocOk n = true) → r.1 = 0 ∧ r.2.2.2 = l ++ params.filterMap (dtParamConfig np)) := by
  induction params generalizing s c l with
  | nil => exact ⟨H, .inl rfl, fun _ => ⟨rfl, by simp [dtConfigsLoop]⟩⟩
  | cons e rest ih =>
    have hE := errno_pos.2.2.1
    obtain ⟨property, param⟩ := e
    simp only [dtConfigsLoop, List.filterMap_cons, dtParamConfig]
    split
    · rename_i val hval
      obtain ⟨H₁, hret, hok⟩ := pinctrlUtilsAddConfig_spec H l (tegraPinconfPack param.val val.toNat)
      generalize pinctrlUtilsAddConfig s.heap (c, l) (tegraPinconfPack param.val val.toNat) = r₁
        at H₁ hret hok
      obtain ⟨ret, heap₁, c₁, l₁⟩ := r₁
      dsimp only at H₁ hret hok ⊢
      split_ifs with hneg
      · refine ⟨H₁, hret.imp And.left And.left, fun hall => ?_⟩
        exact absurd (hok (H.allocOk ▸ hall _)) (by omega)
      · have hret0 : ret = 0 := by rcases hret with h | h <;> omega
        obtain ⟨H₂, hret₂, hok₂⟩ := ih H₁ l₁
        refine ⟨H₂, hret₂, fun hall => ?_⟩
        obtain ⟨h0, hl⟩ := hok₂ hall
        refine ⟨h0, ?_⟩
        rcases hret with ⟨-, rfl⟩ | ⟨h, -⟩
        · simpa [hval] using hl
        · omega
    · rename_i err herr
      obtain ⟨H₂, hret₂, hok₂⟩ := ih H l
      exact ⟨H₂, hret₂, fun hall => by simpa [herr] using hok₂ hall⟩

/-- The loop over `nvidia,pins`, with room for all its entries: no `add_map` call runs out of
room, it fails only for memory, and with every allocation succeeding it appends exactly the
entries of the groups. -/
theorem dtPinsLoop_spec {h₀ : Heap} (function : Option String) (configs : List Nat)
    (pins : List String) {s : MapState} {c : Option Nat} (H : s.Holds h₀ c)
    (hroom : s.maps.length + ((if function.isSome then 1 else 0) +
      (if configs.length ≠ 0 then 1 else 0)) * pins.length ≤ s.reservedMaps) :
    let r := dtPinsLoop function configs pins s
    r.2.Holds h₀ c ∧ r.2.reservedMaps = s.reservedMaps ∧ r.2.maps.length ≤ s.reservedMaps ∧
    (r.1 = 0 ∨ r.1 = -ENOMEM) ∧
    ((∀ n, h₀.allocOk n = true) → r.1 = 0 ∧
      r.2.maps.map (·.1) = s.maps.map (·.1) ++ pinsMaps function configs pins ∧
      r.2.maps.length = s.maps.length + ((if function.isSome then 1 else 0) +
        (if configs.length ≠ 0 then 1 else 0)) * pins.length) := by
  induction pins generalizing s with
  | nil =>
    exact ⟨H, rfl, by simpa using hroom, .inl rfl, fun _ => ⟨rfl, by simp [pinsMaps, dtPinsLoop],
      by simp [dtPinsLoop]⟩⟩
  | cons group rest ih =>
    have hE := errno_pos.2.2.1
    rw [List.length_cons, Nat.mul_succ] at hroom
    -- the mux entry
    obtain ⟨s₁, hs₁, H₁, hres₁, hlen₁, hmaps₁⟩ : ∃ s₁, (match function with
        | some f => pinctrlUtilsAddMapMux s group f
        | none => (0, s)) = (0, s₁) ∧ s₁.Holds h₀ c ∧ s₁.reservedMaps = s.reservedMaps ∧
        s₁.maps.length = s.maps.length + (if function.isSome then 1 else 0) ∧
        s₁.maps.map (·.1) = s.maps.map (·.1) ++ (function.map (.muxGroup group)).toList := by
      cases function with
      | none => exact ⟨s, rfl, H, rfl, rfl, by simp⟩
      | some f =>
        simp only [Option.isSome_some, if_true] at hroom
        exact ⟨_, pinctrlUtilsAddMapMux_of_lt (by omega) group f, H.addMux group f, rfl, by simp,
          by simp⟩
    -- the configuration entry
    obtain ⟨H₂, hres₂, hcases, hok₂⟩ :
        let r := if configs.length ≠ 0 then pinctrlUtilsAddMapConfigs s₁ group configs else (0, s₁)
        r.2.Holds h₀ c ∧ r.2.reservedMaps = s.reservedMaps ∧
        ((r.1 = 0 ∧ r.2.maps.length = s₁.maps.length + (if configs.length ≠ 0 then 1 else 0) ∧
          r.2.maps.map (·.1) = s₁.maps.map (·.1) ++
            (if configs = [] then [] else [.configsGroup group configs])) ∨
          (r.1 = -ENOMEM ∧ r.2.maps = s₁.maps)) ∧
        ((∀ n, h₀.allocOk n = true) → r.1 = 0) := by
      by_cases hc : configs.length = 0
      · simp only [hc, ne_eq, not_true_eq_false, if_false, List.length_eq_zero.mp hc, if_true,
          List.append_nil, Nat.add_zero]
        exact ⟨H₁, hres₁, .inl ⟨rfl, rfl, rfl⟩, fun _ => rfl⟩
      · have hne : configs ≠ [] := fun h => hc (h ▸ rfl)
        simp only [ne_eq, hc, not_false_eq_true, if_true, hne, if_false] at hroom ⊢
        obtain ⟨H₂, hres, hcase, hok⟩ :=
          pinctrlUtilsAddMapConfigs_spec H₁ (by omega) group configs
        exact ⟨H₂, hres.trans hres₁,
          hcase.imp (fun h => ⟨h.1, by simpa using congrArg List.length h.2, h.2⟩) id,
          fun hall => hok (H₁.allocOk ▸ hall _)⟩
    simp only [dtPinsLoop, hs₁, lt_irrefl, if_false]
    generalize (if configs.length ≠ 0 then pinctrlUtilsAddMapConfigs s₁ group configs
      else (0, s₁)) = r₂ at H₂ hres₂ hcases hok₂ ⊢
    obtain ⟨ret, s₂⟩ := r₂
    dsimp only at H₂ hres₂ hcases hok₂ ⊢
    by_cases hneg : ret < 0
    · simp only [if_pos hneg]
      obtain ⟨rfl, hm⟩ := hcases.resolve_left fun h => by omega
      exact ⟨H₂, hres₂, by rw [hm, hlen₁]; omega, .inr rfl, fun hall => absurd (hok₂ hall) (by omega)⟩
    · simp only [if_neg hneg]
      obtain ⟨rfl, hlen₂, hmaps₂⟩ := hcases.resolve_right fun h => by omega
      obtain ⟨H₃, hres₃, hlen₃, hret₃, hok₃⟩ := ih H₂ (by rw [hlen₂, hlen₁, hres₂]; omega)
      refine ⟨H₃, hres₃.trans hres₂, hres₂ ▸ hlen₃, hret₃, fun hall => ?_⟩
      obtain ⟨h0, hmaps₃, hlen₃'⟩ := hok₃ hall
      refine ⟨h0, by rw [hmaps₃, hmaps₂, hmaps₁]; simp [pinsMaps], ?_⟩
      rw [hlen₃', hlen₂, hlen₁, List.length_cons, Nat.mul_succ]
      omega

/-! ## A subnode -/

/-- One subnode: the heap invariant holds again once its configuration array is freed, the
entries stay within the reservation, it fails only for memory or an unreadable `nvidia,pins`,
and with every allocation succeeding and `nvidia,pins` read it appends exactly its entries and
reserves exactly as many. -/
theorem tegraPinctrlDtSubnodeToMap_spec (np : DtSubnode) {h₀ : Heap} {s : MapState}
    (H : s.Holds h₀ none) (hres : s.maps.length ≤ s.reservedMaps) :
    let r := tegraPinctrlDtSubnodeToMap np s
    r.2.Holds h₀ none ∧ r.2.maps.length ≤ r.2.reservedMaps ∧
    (r.1 = 0 ∨ r.1 = -ENOMEM ∨ np.pins = .error r.1) ∧
    ((∀ n, h₀.allocOk n = true) → ∀ pins, np.pins = .ok pins →
      r.1 = 0 ∧ r.2.maps.map (·.1) = s.maps.map (·.1) ++ dtSubnodeMaps np pins ∧
      (s.reservedMaps = s.maps.length → r.2.reservedMaps = r.2.maps.length)) := by
  have hE := errno_pos.2.2.1
  obtain ⟨H₁, hret₁, hok₁⟩ := dtConfigsLoop_spec np cfgParams H []
  simp only [tegraPinctrlDtSubnodeToMap]
  generalize dtConfigsLoop np cfgParams s.heap (none, []) = r₁ at H₁ hret₁ hok₁ ⊢
  obtain ⟨ret, heap₁, c₁, l₁⟩ := r₁
  dsimp only at H₁ hret₁ hok₁ ⊢
  by_cases hneg : ret < 0
  · simp only [if_pos hneg]
    exact ⟨H₁.exit, hres, .inr (.inl (hret₁.resolve_left (by omega))),
      fun hall => absurd (hok₁ hall).1 (by omega)⟩
  simp only [if_neg hneg]
  split
  · rename_i e he
    exact ⟨H₁.exit, hres, .inr (.inr he), fun _ pins hp => by simp [hp] at he⟩
  rename_i pins hpins
  obtain ⟨H₂, hmaps₂, hres₂, hroom₂, hok₂⟩ := pinctrlUtilsReserveMap_spec H₁
    (((if (dtSubnodeFunction np).isSome then 1 else 0) + (if l₁.length ≠ 0 then 1 else 0)) *
      pins.length)
  generalize pinctrlUtilsReserveMap { s with heap := heap₁ }
    (((if (dtSubnodeFunction np).isSome then 1 else 0) + (if l₁.length ≠ 0 then 1 else 0)) *
      pins.length) = r₂ at H₂ hmaps₂ hres₂ hroom₂ hok₂ ⊢
  obtain ⟨ret₂, s₂⟩ := r₂
  dsimp only at H₂ hmaps₂ hres₂ hroom₂ hok₂ ⊢
  by_cases hneg₂ : ret₂ < 0
  · simp only [if_pos hneg₂]
    exact ⟨H₂.exit, by rw [hmaps₂]; omega, .inr (.inl (hroom₂.resolve_left fun h => by omega)),
      fun hall => absurd (hok₂ (H₁.allocOk ▸ hall _)).1 (by omega)⟩
  simp only [if_neg hneg₂]
  obtain ⟨hret₂, hroom⟩ := hroom₂.resolve_right fun h => by omega
  obtain ⟨H₃, hres₃, hlen₃, hret₃, hok₃⟩ :=
    dtPinsLoop_spec (dtSubnodeFunction np) l₁ pins H₂ (by rw [hmaps₂]; exact hroom)
  refine ⟨H₃.exit, by omega, hret₃.imp_right .inl, fun hall pins' hp => ?_⟩
  obtain ⟨h0, hmaps₃, hlen₃'⟩ := hok₃ hall
  obtain ⟨-, hl₁⟩ := hok₁ hall
  obtain ⟨-, hres₂'⟩ := hok₂ (H₁.allocOk ▸ hall _)
  obtain rfl : pins = pins' := Except.ok.inj (hpins.symm.trans hp)
  refine ⟨h0, by rw [hmaps₃, hmaps₂]; simp [dtSubnodeMaps, dtSubnodeConfigs_eq, hl₁], fun heq => ?_⟩
  rw [hres₃, hres₂', hlen₃', hmaps₂]
  exact sup_eq_right.mpr (by omega)

/-! ## The node -/

theorem foldl_free_live (maps : List (PinctrlMap × Option Nat)) (h : Heap) (b : Nat) :
    (maps.foldl (fun heap m => heap.free m.2) h).live b = true ↔
      h.live b = true ∧ ∀ e ∈ maps, e.2 ≠ some b := by
  induction maps generalizing h with
  | nil => simp
  | cons m maps ih =>
    simp only [List.foldl_cons, ih, Heap.free_live, Bool.and_eq_true, decide_eq_true_eq,
      List.mem_cons, forall_eq_or_imp]
    tauto

/-- Freeing the map frees every block allocated since `h₀` and no other. -/
theorem MapState.Holds.freeMap {h₀ : Heap} {s : MapState} (H : s.Holds h₀ none) :
    (pinctrlUtilsFreeMap s).live = h₀.live := by
  funext b
  have hnew : h₀.live b = true → ¬ s.Held none b := fun h hh =>
    absurd (h₀.live_lt b h) (Nat.not_lt.mpr (H.held_new b hh))
  apply Bool.eq_iff_iff.mpr
  simp only [pinctrlUtilsFreeMap, Heap.free_live, Bool.and_eq_true, foldl_free_live,
    decide_eq_true_eq]
  constructor
  · rintro ⟨⟨hl, hmaps⟩, hmap⟩
    refine (H.live_held b hl).resolve_right ?_
    rintro (h | ⟨e, he, h⟩ | h)
    exacts [hmap h, hmaps e he h, Option.noConfusion h]
  · intro h
    exact ⟨⟨H.old_live b h, fun e he h' => hnew h (.inr (.inl ⟨e, he, h'⟩))⟩,
      fun h' => hnew h (.inl h')⟩

/-- The entries a list of subnodes asks for, when each `nvidia,pins` reads. -/
def dtNodeMaps (nps : List DtSubnode) : List PinctrlMap :=
  nps.flatMap fun np => match np.pins with
    | .ok pins => dtSubnodeMaps np pins
    | .error _ => []

theorem dtNodeLoop_spec (nps : List DtSubnode) {h₀ : Heap} {s : MapState} (H : s.Holds h₀ none)
    (hres : s.maps.length ≤ s.reservedMaps) :
    let r := dtNodeLoop nps s
    (r.1 = 0 ∧ r.2.Holds h₀ none ∨
      r.1 < 0 ∧ r.2.heap.live = h₀.live ∧ (r.1 = -ENOMEM ∨ ∃ np ∈ nps, np.pins = .error r.1)) ∧
    ((∀ n, h₀.allocOk n = true) → (∀ np ∈ nps, ∃ pins, np.pins = .ok pins) →
      r.1 = 0 ∧ r.2.maps.map (·.1) = s.maps.map (·.1) ++ dtNodeMaps nps ∧
      (s.reservedMaps = s.maps.length → r.2.reservedMaps = r.2.maps.length)) := by
  induction nps generalizing s with
  | nil => exact ⟨.inl ⟨rfl, H⟩, fun _ _ => ⟨rfl, by simp [dtNodeMaps, dtNodeLoop], id⟩⟩
  | cons np nps ih =>
    have hE := errno_pos.2.2.1
    obtain ⟨H₁, hres₁, hret₁, hok₁⟩ := tegraPinctrlDtSubnodeToMap_spec np H hres
    simp only [dtNodeLoop]
    generalize tegraPinctrlDtSubnodeToMap np s = r₁ at H₁ hres₁ hret₁ hok₁ ⊢
    obtain ⟨ret, s₁⟩ := r₁
    dsimp only at H₁ hres₁ hret₁ hok₁ ⊢
    by_cases hneg : ret < 0
    · simp only [if_pos hneg]
      refine ⟨.inr ⟨hneg, H₁.freeMap, ?_⟩, fun hall hpins => ?_⟩
      · rcases hret₁ with h | h | h
        · omega
        · exact .inl h
        · exact .inr ⟨np, List.mem_cons_self _ _, h⟩
      · obtain ⟨pins, hp⟩ := hpins np (List.mem_cons_self _ _)
        exact absurd (hok₁ hall pins hp).1 (by omega)
    · simp only [if_neg hneg]
      obtain ⟨hrun, hok⟩ := ih H₁ hres₁
      refine ⟨hrun.imp_right fun h => ⟨h.1, h.2.1, h.2.2.imp_right fun ⟨np', hm, he⟩ =>
        ⟨np', List.mem_cons_of_mem _ hm, he⟩⟩, fun hall hpins => ?_⟩
      obtain ⟨pins, hp⟩ := hpins np (List.mem_cons_self _ _)
      obtain ⟨-, hmaps₁, hresv₁⟩ := hok₁ hall pins hp
      obtain ⟨h0, hmaps, hresv⟩ := hok hall fun np' hm => hpins np' (List.mem_cons_of_mem _ hm)
      exact ⟨h0, by rw [hmaps, hmaps₁]; simp [dtNodeMaps, hp], fun heq => hresv (hresv₁ heq)⟩

/-- The map's whole life leaks nothing: after a failure the heap is as it was, and after a
success the core's `dt_free_map`, which is `pinctrl_utils_free_map`, frees every block the call
allocated and no other. -/
theorem tegraPinctrlDtNodeToMap_freeMap (nps : List DtSubnode) (heap : Heap) :
    let r := tegraPinctrlDtNodeToMap nps heap
    (r.1 = 0 → (pinctrlUtilsFreeMap r.2).live = heap.live) ∧
      (r.1 < 0 → r.2.heap.live = heap.live) := by
  obtain ⟨hrun, -⟩ := dtNodeLoop_spec nps (MapState.holds_start heap) (Nat.le_refl _)
  refine ⟨fun h0 => ?_, fun hneg => ?_⟩
  · exact (hrun.resolve_right fun h => by simp only [tegraPinctrlDtNodeToMap] at h0; omega).2.freeMap
  · exact (hrun.resolve_left fun h => by simp only [tegraPinctrlDtNodeToMap] at hneg; omega).2.1

/-! ## Values past 16 bits -/

/-- `nvidia,pull = <0x10001>` in a subnode for `touch_clk_pcc4`: the value does not fit in the
16 bits of the argument, so the packed configuration reads as `TRISTATE` with argument 1.
Applying it returns 0, sets the group's tristate bit and leaves its pull as it was. -/
theorem tegra234_dt_pull_sets_tristate :
    let np : DtSubnode := ⟨.error (-EINVAL),
      fun p => if p = "nvidia,pull" then .ok 0x10001 else .error (-EINVAL),
      .ok ["touch_clk_pcc4"], fun _ h => by cases h⟩
    let config := tegraPinconfPack TegraPinconfParam.pull.val 0x10001
    dtSubnodeMaps np ["touch_clk_pcc4"] = [.configsGroup "touch_clk_pcc4" [config]] ∧
    tegraPinconfUnpackParam config = TegraPinconfParam.tristate.val ∧
    ∃ g ∈ tegra234Groups, g.name = "touch_clk_pcc4" ∧
      let regs : RegFile := fun _ _ => 0
      let res := tegraPinconfGroupSet tegra234Pinctrl g [config] regs
      res.1 = 0 ∧
      tegraPinconfGroupGet tegra234Pinctrl regs g
        (tegraPinconfPack TegraPinconfParam.tristate.val 0) =
          .ok (tegraPinconfPack TegraPinconfParam.tristate.val 0) ∧
      tegraPinconfGroupGet tegra234Pinctrl res.2 g
        (tegraPinconfPack TegraPinconfParam.tristate.val 0) =
          .ok (tegraPinconfPack TegraPinconfParam.tristate.val 1) ∧
      tegraPinconfGroupGet tegra234Pinctrl res.2 g (tegraPinconfPack TegraPinconfParam.pull.val 0) =
        .ok (tegraPinconfPack TegraPinconfParam.pull.val 0) :=
  ⟨by decide, rfl, _, List.mem_cons_self _ _, rfl, rfl, rfl, rfl, rfl⟩

end TegraPinctrl
