import Mathlib.Data.List.Nodup

/-! The databases the fabric bitstream builder reads and writes. `BitstreamManager`,
`ModuleManager` and `FabricBitstream` are not among the sources of
build_fabric_bitstream.cpp, so they are modelled from their interface in the spec
(§3, §6): ids are positions, an invalid id is `none`, and a failed `VTR_ASSERT` is an
`Abort`. -/
namespace OpenFpga

abbrev ConfigBlockId := Nat
abbrev ConfigBitId := Nat
abbrev ModuleId := Nat
abbrev ModulePortId := Nat
abbrev FabricBitId := Nat

/-- Why a build stops without returning a bitstream: a `VTR_ASSERT` that failed, or,
in the model only, recursion deeper than the fuel it was given. -/
inductive Abort where
  /-- `valid_block_id(child_block)` after `find_child_block` -/
  | invalidChildBlock
  /-- `0 == block_bits(parent_block).size()` after the children are visited -/
  | parentBlockBits
  /-- `2 < num_configurable_children` in the frame builder -/
  | decoderChildren
  /-- `(0 == bit) || (1 == bit)` for each address bit -/
  | addressBit
  /-- `itobin_vec`: the index fits in the address width -/
  | addressOverflow
  /-- `module_port` on the id `find_module_port` returned -/
  | invalidPort
  /-- `bits().size() == fabric_bitstream.bits().size()` after dispatch -/
  | bitstreamSize
  /-- `valid_module_id(top_module)` -/
  | topModule
  /-- `1 == top_block.size()` -/
  | topBlocks
  /-- the top block is named after the top module -/
  | topBlockName
  | outOfFuel
  deriving DecidableEq, Repr

/-- `VTR_ASSERT(cond)`. -/
def vtrAssert (cond : Prop) [Decidable cond] (failure : Abort) : Except Abort Unit :=
  if cond then pure () else throw failure

@[simp] theorem vtrAssert_pos {cond : Prop} [Decidable cond] (h : cond) (failure : Abort) :
    vtrAssert cond failure = .ok () := by simp [vtrAssert, h]; rfl

@[simp] theorem ok_bind {α β : Type} (a : α) (f : α → Except Abort β) :
    (Except.ok a >>= f) = f a := rfl

@[simp] theorem error_bind {α β : Type} (e : Abort) (f : α → Except Abort β) :
    (Except.error e >>= f) = .error e := rfl

@[simp] theorem except_pure {α : Type} (a : α) : (pure a : Except Abort α) = .ok a := rfl

theorem bind_eq_ok {α β : Type} {x : Except Abort α} {f : α → Except Abort β} {b : β} :
    x >>= f = .ok b ↔ ∃ a, x = .ok a ∧ f a = .ok b := by
  cases x <;> simp

theorem bind_ne_error {α β : Type} {x : Except Abort α} {f : α → Except Abort β} {e : Abort}
    (hx : x ≠ .error e) (hf : ∀ a, x = .ok a → f a ≠ .error e) : x >>= f ≠ .error e := by
  cases x with
  | error e' => simpa using hx
  | ok a => exact hf a rfl

/-- One block of the bitstream database: its name (the key joined with instance
names), its parent, its child blocks and the bits it owns, in storage order. -/
structure ConfigBlock where
  name : String
  parent : Option ConfigBlockId
  children : List ConfigBlockId
  bits : List ConfigBitId
  deriving DecidableEq, Repr

/-- Modelled from the spec: `BitstreamManager` (§3 ConfigBlockTree, §6) is not among
the sources. Block `b` is `blocks[b]`, and bit `c` has the value `bitValues[c]`. -/
structure BitstreamManager where
  blocks : List ConfigBlock
  bitValues : List Bool
  deriving DecidableEq, Repr

namespace BitstreamManager

variable (bm : BitstreamManager)

def blockChildren (b : ConfigBlockId) : List ConfigBlockId :=
  match bm.blocks[b]? with
  | some block => block.children
  | none => []

def blockParent (b : ConfigBlockId) : Option ConfigBlockId :=
  match bm.blocks[b]? with
  | some block => block.parent
  | none => none

def blockName (b : ConfigBlockId) : String :=
  match bm.blocks[b]? with
  | some block => block.name
  | none => ""

def blockBits (b : ConfigBlockId) : List ConfigBitId :=
  match bm.blocks[b]? with
  | some block => block.bits
  | none => []

def bitValue (c : ConfigBitId) : Bool := bm.bitValues.getD c false

/-- `bits()`: every configuration bit of the database. -/
def bits : List ConfigBitId := List.range bm.bitValues.length

def validBlockId (b : ConfigBlockId) : Bool := b < bm.blocks.length

/-- `find_child_block`: the child of `b` named `name`, `none` for `INVALID()`. -/
def findChildBlock (b : ConfigBlockId) (name : String) : Option ConfigBlockId :=
  (bm.blockChildren b).find? fun c => bm.blockName c == name

/-- `find_child_block` and the `valid_block_id` assertion both builders make on what
it returns. -/
def childBlock (b : ConfigBlockId) (name : String) : Except Abort ConfigBlockId :=
  match bm.findChildBlock b name with
  | some c => if bm.validBlockId c then pure c else throw .invalidChildBlock
  | none => throw .invalidChildBlock

/-- Every bit the blocks own, block after block. -/
def ownedBits : List ConfigBitId := (List.range bm.blocks.length).flatMap bm.blockBits

variable {bm}

/-- Only a block that exists has children. -/
theorem lt_of_blockChildren_ne_nil {b : ConfigBlockId} (h : bm.blockChildren b ≠ []) :
    b < bm.blocks.length := by
  by_contra hn
  simp [blockChildren, List.getElem?_eq_none (Nat.le_of_not_lt hn)] at h

/-- Only a block that exists has a parent. -/
theorem lt_of_blockParent_eq_some {b p : ConfigBlockId} (h : bm.blockParent b = some p) :
    b < bm.blocks.length := by
  by_contra hn
  simp [blockParent, List.getElem?_eq_none (Nat.le_of_not_lt hn)] at h

theorem findChildBlock_mem {b c : ConfigBlockId} {name : String}
    (h : bm.findChildBlock b name = some c) : c ∈ bm.blockChildren b :=
  List.mem_of_find?_eq_some h

theorem findChildBlock_name {b c : ConfigBlockId} {name : String}
    (h : bm.findChildBlock b name = some c) : bm.blockName c = name := by
  simpa using List.find?_some h

/-- A name that exactly one child carries finds that child. -/
theorem findChildBlock_of_nodup {b c : ConfigBlockId}
    (names : ((bm.blockChildren b).map bm.blockName).Nodup) (hc : c ∈ bm.blockChildren b) :
    bm.findChildBlock b (bm.blockName c) = some c := by
  obtain ⟨d, hd⟩ : ∃ d, bm.findChildBlock b (bm.blockName c) = some d := by
    simpa [findChildBlock, List.find?_isSome, Option.isSome_iff_exists] using
      (List.find?_isSome (p := fun d => bm.blockName d == bm.blockName c)).mpr ⟨c, hc, by simp⟩
  rw [hd, List.inj_on_of_nodup_map names (findChildBlock_mem hd) hc (findChildBlock_name hd)]

theorem childBlock_eq_ok {b c : ConfigBlockId} {name : String} :
    bm.childBlock b name = .ok c ↔ bm.findChildBlock b name = some c ∧ c < bm.blocks.length := by
  unfold childBlock validBlockId
  cases h : bm.findChildBlock b name with
  | none => simp [throw, throwThe, MonadExceptOf.throw]
  | some d =>
    by_cases hd : d < bm.blocks.length
    · simpa [hd, eq_comm] using fun e : c = d => e ▸ hd
    · simpa [hd, throw, throwThe, MonadExceptOf.throw] using fun e : d = c => Nat.le_of_not_lt (e ▸ hd)

theorem childBlock_error {b : ConfigBlockId} {name : String} {e : Abort}
    (h : bm.childBlock b name = .error e) : e = .invalidChildBlock := by
  unfold childBlock at h
  split at h <;> [split at h; skip] <;> simp_all [throw, throwThe, MonadExceptOf.throw]

end BitstreamManager

/-- Modelled from the spec: `ModuleManager` (§3 ModuleInstance, §6) is not among the
sources. Any module graph is allowed, cyclic ones included. -/
structure ModuleManager where
  configurableChildren : ModuleId → List ModuleId
  configurableChildInstances : ModuleId → List Nat
  instanceName : ModuleId → ModuleId → Nat → String
  findModulePort : ModuleId → String → Option ModulePortId
  portWidth : ModuleId → ModulePortId → Nat
  findModule : String → Option ModuleId
  /-- each configurable child is a (module, instance) pair: the two lists grow together -/
  instances_aligned : ∀ m, (configurableChildInstances m).length = (configurableChildren m).length

namespace ModuleManager

variable (mm : ModuleManager)

/-- `configurable_children(parent)[childId]`. -/
def configurableChild (parent : ModuleId) (childId : Nat) : ModuleId :=
  (mm.configurableChildren parent).getD childId 0

/-- The instance name of configurable child `childId` of `parent`, as both builders
compute it from `configurable_children` and `configurable_child_instances`. -/
def childInstanceName (parent : ModuleId) (childId : Nat) : String :=
  mm.instanceName parent (mm.configurableChild parent childId)
    ((mm.configurableChildInstances parent).getD childId 0)

/-- `module_port(m, find_module_port(m, name)).get_width()`, with the validity check
`module_port` makes on the port id. -/
def modulePortWidth (m : ModuleId) (name : String) : Except Abort Nat :=
  match mm.findModulePort m name with
  | some p => pure (mm.portWidth m p)
  | none => throw .invalidPort

end ModuleManager

/-- Modelled from the spec (§3 FabricBit): the configuration bit a fabric bit loads,
with the address and data input that only the frame-based protocol sets. -/
structure FabricBit where
  configBit : ConfigBitId
  address : List Bool
  din : Bool
  deriving DecidableEq, Repr

/-- A fabric bit as `add_bit` creates it, before any address or data input is set. -/
def FabricBit.ofConfigBit (c : ConfigBitId) : FabricBit := ⟨c, [], false⟩

@[simp] theorem FabricBit.configBit_comp_ofConfigBit :
    FabricBit.configBit ∘ FabricBit.ofConfigBit = id := rfl

/-- Modelled from the spec (§3 FabricBitstream): an append-only sequence of fabric
bits, numbered by position. -/
abbrev FabricBitstream := List FabricBit

namespace FabricBitstream

def addBit (fb : FabricBitstream) (c : ConfigBitId) : FabricBitstream × FabricBitId :=
  (fb ++ [FabricBit.ofConfigBit c], fb.length)

def setBitAddress (fb : FabricBitstream) (bit : FabricBitId) (address : List Bool) :
    FabricBitstream :=
  fb.modify (fun b => { b with address }) bit

def setBitDin (fb : FabricBitstream) (bit : FabricBitId) (din : Bool) : FabricBitstream :=
  fb.modify (fun b => { b with din }) bit

/-- The bit `add_bit` returns is the one it appended. -/
theorem addBit_set (fb : FabricBitstream) (c : ConfigBitId) (address : List Bool) (din : Bool) :
    (((fb.addBit c).1.setBitAddress (fb.addBit c).2 address).setBitDin (fb.addBit c).2 din) =
      fb ++ [⟨c, address, din⟩] := by
  simp [addBit, setBitAddress, setBitDin, List.modify_eq_take_cons_drop, FabricBit.ofConfigBit]

end FabricBitstream

section Loop

/-! The builders' `for` loops are `List.foldlM` in `Except Abort`. -/

variable {α σ : Type} {f : List σ → α → Except Abort (List σ)} {out : α → List σ}

/-- A loop whose every step appends `out x` appends all of them, in order. -/
theorem foldlM_append (l : List α) (init : List σ)
    (step : ∀ acc, ∀ x ∈ l, f acc x = .ok (acc ++ out x)) :
    l.foldlM f init = .ok (init ++ l.flatMap out) := by
  induction l generalizing init with
  | nil => simp
  | cons x l ih =>
    simp [step init x (by simp), ih _ fun acc y hy => step acc y (by simp [hy])]

/-- A loop that returns, built of steps that append `out x` when they return. -/
theorem eq_of_foldlM_ok {l : List α} {init r : List σ}
    (step : ∀ acc r, ∀ x ∈ l, f acc x = .ok r → r = acc ++ out x)
    (h : l.foldlM f init = .ok r) : r = init ++ l.flatMap out := by
  induction l generalizing init with
  | nil => simpa [eq_comm] using h
  | cons x l ih =>
    obtain ⟨a, ha, hl⟩ := bind_eq_ok.mp (by simpa using h)
    rw [ih (fun acc r y hy => step acc r y (by simp [hy])) hl, step init a x (by simp) ha]
    simp

theorem foldlM_ne_error {σ' : Type} {g : σ' → α → Except Abort σ'} {e : Abort} (l : List α) (init : σ')
    (step : ∀ acc, ∀ x ∈ l, g acc x ≠ .error e) : l.foldlM g init ≠ .error e := by
  induction l generalizing init with
  | nil => simp [except_pure]
  | cons x l ih =>
    exact bind_ne_error (step init x (by simp))
      fun a _ => ih a fun acc y hy => step acc y (by simp [hy])

/-- Each turn of a loop that returns returned, from some accumulator. -/
theorem foldlM_ok_step {σ' : Type} {g : σ' → α → Except Abort σ'} {l : List α} {init r : σ'}
    (h : l.foldlM g init = .ok r) : ∀ x ∈ l, ∃ acc r', g acc x = .ok r' := by
  induction l generalizing init with
  | nil => simp
  | cons x l ih =>
    obtain ⟨a, ha, hl⟩ := bind_eq_ok.mp (by simpa using h)
    intro y hy
    rcases List.mem_cons.mp hy with rfl | hy
    · exact ⟨init, a, ha⟩
    · exact ih hl y hy

/-- A loop whose every step only appends to its accumulator only appends. -/
theorem foldlM_prepend (pre : List σ) (l : List α) (init : List σ)
    (step : ∀ acc, ∀ x ∈ l, f (pre ++ acc) x = (f acc x).map (pre ++ ·)) :
    l.foldlM f (pre ++ init) = (l.foldlM f init).map (pre ++ ·) := by
  induction l generalizing init with
  | nil => rfl
  | cons x l ih =>
    simp only [List.foldlM_cons, step init x (List.mem_cons_self x l)]
    cases f init x with
    | error e => rfl
    | ok a => exact ih a fun acc y hy => step acc y (List.mem_cons_of_mem x hy)

end Loop

end OpenFpga
