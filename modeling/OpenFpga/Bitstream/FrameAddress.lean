import OpenFpga.Bitstream.FrameOutput

/-! The addresses of the frame output. Each level below a module with two or more
configurable children appends its child's index in binary, all on the width of one
decoder port, so the addresses of two subtrees split where their indices differ. A bit's
address is therefore a prefix of another's only when both come from one block without
child blocks (`frame_addresses_separate_leaves`), whatever the input, as long as the
builder returns. Bits of one such block share their address: a leaf that owns two bits
emits two distinct fabric bits on one address (`frame_addresses_coincide_on_twoBitLeaf`). -/
namespace OpenFpga

open BitstreamManager

variable (bm : BitstreamManager) {mm : ModuleManager}

/-- Fabric bits `f` and `g` load bits of one block without child blocks. -/
def SameLeaf (f g : FabricBit) : Prop :=
  ∃ L, bm.blockChildren L = [] ∧ f.configBit ∈ bm.blockBits L ∧ g.configBit ∈ bm.blockBits L

/-- Every bit of `out` is addressed below `addr`, and where one address is a prefix of
another, the two bits come from the same leaf block. -/
def AddressesSeparate (addr : List Bool) (out : List FabricBit) : Prop :=
  (∀ f ∈ out, addr <+: f.address) ∧ ∀ f ∈ out, ∀ g ∈ out, f.address <+: g.address → SameLeaf bm f g

variable {bm}

theorem addressesSeparate_leaf {L : ConfigBlockId} (leaf : bm.blockChildren L = []) (addr : List Bool) :
    AddressesSeparate bm addr ((bm.blockBits L).map fun c => ⟨c, addr, bm.bitValue c⟩) := by
  refine ⟨fun f hf => ?_, fun f hf g hg _ => ?_⟩
  · obtain ⟨c, -, rfl⟩ := List.mem_map.mp hf
    exact List.prefix_refl _
  · obtain ⟨c, hc, rfl⟩ := List.mem_map.mp hf
    obtain ⟨d, hd, rfl⟩ := List.mem_map.mp hg
    exact ⟨L, leaf, hc, hd⟩

/-- Subtrees addressed under codes of one width that tell their indices apart stay
apart. -/
theorem addressesSeparate_flatMap {addr : List Bool} {l : List Nat} {codes : Nat → List Bool}
    {outs : Nat → List FabricBit} {w : Nat} (width : ∀ i ∈ l, (codes i).length = w)
    (distinct : ∀ i ∈ l, ∀ j ∈ l, codes i = codes j → i = j)
    (each : ∀ i ∈ l, AddressesSeparate bm (addr ++ codes i) (outs i)) :
    AddressesSeparate bm addr (l.flatMap outs) := by
  refine ⟨fun f hf => ?_, fun f hf g hg pre => ?_⟩
  · obtain ⟨i, hi, hf⟩ := List.mem_flatMap.mp hf
    exact (List.prefix_append addr (codes i)).trans ((each i hi).1 f hf)
  · obtain ⟨i, hi, hf⟩ := List.mem_flatMap.mp hf
    obtain ⟨j, hj, hg⟩ := List.mem_flatMap.mp hg
    have same : (addr ++ codes i).length = (addr ++ codes j).length := by
      simp [width i hi, width j hj]
    have codes_eq := ((List.prefix_of_prefix_length_le (((each i hi).1 f hf).trans pre)
      ((each j hj).1 g hg) same.le).eq_of_length same)
    obtain rfl := distinct i hi j hj (List.append_cancel_left codes_eq)
    exact (each i hi).2 f hf g hg pre

/-- The number of address bits a level below module `m` adds (spec §8): none with one
configurable child, the decoder's address width with two or more. -/
def levelWidth (mm : ModuleManager) (m : ModuleId) : Nat :=
  if (mm.configurableChildren m).length < 2 then 0 else decoderAddressWidth mm m

theorem levelAddress_length (m : ModuleId) (i : Nat) : (levelAddress mm m i).length = levelWidth mm m := by
  unfold levelAddress levelWidth
  split <;> simp [binaryDigits_length]

/-- Children whose address the builder computed get distinct level addresses. -/
theorem levelAddress_injective {m : ModuleId} {dec : Option ModuleId} {n : Nat} {addr : List Bool}
    (h : frameDecoder mm m = .ok (dec, n))
    (computed : ∀ i ∈ frameVisit mm m, ∃ a, childAddrCode mm dec i addr = .ok a) :
    ∀ i ∈ frameVisit mm m, ∀ j ∈ frameVisit mm m, levelAddress mm m i = levelAddress mm m j → i = j := by
  intro i hi j hj same
  by_cases few : (mm.configurableChildren m).length < 2
  · simp only [frameVisit, few, ↓reduceIte, List.mem_range] at hi hj
    omega
  · obtain ⟨a, ha⟩ := computed i hi
    obtain ⟨b, hb⟩ := computed j hj
    simp only [levelAddress, few, ↓reduceIte] at same
    exact binaryAddress_injective (((frameDecoder_eq_ok h).2 ha).2.resolve_left few)
      (((frameDecoder_eq_ok h).2 hb).2.resolve_left few) same

/-- In a frame build that returns, a bit whose address is a prefix of another's comes
from the same leaf block. -/
theorem addressesSeparate_of_ok : ∀ {fuel : Nat} {bs : List ConfigBlockId} {ms : List ModuleId}
    {addr : List Bool} {fb r : FabricBitstream},
    recBuildModuleFabricDependentFrameBitstream bm mm fuel bs ms addr fb = .ok r →
      AddressesSeparate bm addr (frameBits bm mm fuel (bs.getLastD 0) (ms.getLastD 0) addr)
  | 0, _, _, _, _, _, h => by cases h
  | fuel + 1, bs, ms, addr, fb, r, h => by
    by_cases leaf : bm.blockChildren (bs.getLastD 0) = []
    · simpa [frameBits, leaf, -List.getLastD_eq_getLast?] using addressesSeparate_leaf leaf addr
    · by_cases unconfigured : mm.configurableChildren (ms.getLastD 0) = []
      · simp [frameBits, leaf, frameVisit, unconfigured, AddressesSeparate, -List.getLastD_eq_getLast?]
      · obtain ⟨dec, n, hdec, hloop, -⟩ := frame_succ_of_parent_eq_ok leaf unconfigured h
        obtain ⟨visit, addrs⟩ := frameDecoder_eq_ok hdec
        have runs := foldlM_ok_step hloop
        rw [visit] at runs
        have child : ∀ i ∈ frameVisit mm (ms.getLastD 0), ∃ a,
            childAddrCode mm dec i addr = .ok a ∧
              AddressesSeparate bm (addr ++ levelAddress mm (ms.getLastD 0) i)
                (frameBits bm mm fuel (childBlockOf bm mm (bs.getLastD 0) (ms.getLastD 0) i)
                  (mm.configurableChild (ms.getLastD 0) i)
                  (addr ++ levelAddress mm (ms.getLastD 0) i)) := fun i hi => by
          obtain ⟨acc, r', step⟩ := runs i hi
          obtain ⟨-, a, ha, hrec⟩ := frameStep_eq_ok step
          have separate := addressesSeparate_of_ok hrec
          rw [List.getLastD_concat, List.getLastD_concat, (addrs ha).1] at separate
          exact ⟨a, ha, separate⟩
        rw [frameBits, if_neg leaf]
        exact addressesSeparate_flatMap (fun i _ => levelAddress_length _ i)
          (levelAddress_injective hdec fun i hi => (child i hi).imp fun _ => And.left)
          fun i hi => (child i hi).elim fun _ => And.right

/-- The address width of a path of levels: the sum of the levels' widths. -/
def pathWidth (mm : ModuleManager) : List (ModuleId × Nat) → Nat
  | [] => 0
  | l :: levels => levelWidth mm l.1 + pathWidth mm levels

theorem pathAddress_length : ∀ levels : List (ModuleId × Nat),
    (levels.flatMap fun l => levelAddress mm l.1 l.2).length = pathWidth mm levels
  | [] => rfl
  | l :: levels => by simp [pathWidth, levelAddress_length, pathAddress_length levels]

/-- The levels `(m, i)` a frame build passes from `(b, m)` down to the block `L`
without child blocks: at each, the module and the index of the visited child. -/
inductive FramePath (bm : BitstreamManager) (mm : ModuleManager) :
    ConfigBlockId × ModuleId → List (ModuleId × Nat) → ConfigBlockId → Prop
  | leaf {b : ConfigBlockId} {m : ModuleId} : bm.blockChildren b = [] → FramePath bm mm (b, m) [] b
  | child {b : ConfigBlockId} {m : ModuleId} {i : Nat} {levels : List (ModuleId × Nat)}
      {L : ConfigBlockId} : bm.blockChildren b ≠ [] → i ∈ frameVisit mm m →
      FramePath bm mm (childBlockOf bm mm b m i, mm.configurableChild m i) levels L →
      FramePath bm mm (b, m) ((m, i) :: levels) L

/-- Each bit of the frame output comes from a block without child blocks at the end of
a path of visited children, carries its value, and is addressed by the level addresses
along the path. -/
theorem mem_frameBits : ∀ {fuel : Nat} {b : ConfigBlockId} {m : ModuleId} {addr : List Bool}
    {f : FabricBit}, f ∈ frameBits bm mm fuel b m addr →
      ∃ levels L, FramePath bm mm (b, m) levels L ∧ f.configBit ∈ bm.blockBits L ∧
        f.din = bm.bitValue f.configBit ∧ f.address = addr ++ levels.flatMap fun l => levelAddress mm l.1 l.2
  | 0, _, _, _, _, h => by simp [frameBits] at h
  | fuel + 1, b, m, addr, f, h => by
    by_cases leaf : bm.blockChildren b = []
    · simp only [frameBits, leaf, ↓reduceIte, List.mem_map] at h
      obtain ⟨c, hc, rfl⟩ := h
      exact ⟨[], b, .leaf leaf, hc, rfl, by simp⟩
    · simp only [frameBits, leaf, ↓reduceIte, List.mem_flatMap] at h
      obtain ⟨i, hi, hf⟩ := h
      obtain ⟨levels, L, path, owned, din, address⟩ := mem_frameBits hf
      exact ⟨(m, i) :: levels, L, .child leaf hi path, owned, din, by simp [address]⟩

/-- Whenever a frame build from the top returns, each bit it emits comes from a block
without child blocks reached through the visited children, carries that bit's value,
and is addressed by the concatenated level addresses of its path, as long as the sum of
the levels' widths. -/
theorem frame_bit_addresses {fuel : Nat} {top : ConfigBlockId} {topModule : ModuleId}
    {r : FabricBitstream}
    (h : recBuildModuleFabricDependentFrameBitstream bm mm fuel [top] [topModule] [] [] = .ok r) :
    ∀ f ∈ r, ∃ levels L, FramePath bm mm (top, topModule) levels L ∧ f.configBit ∈ bm.blockBits L ∧
      f.din = bm.bitValue f.configBit ∧ f.address = levels.flatMap (fun l => levelAddress mm l.1 l.2) ∧
      f.address.length = pathWidth mm levels := by
  obtain rfl := frame_eq_of_ok h
  intro f hf
  obtain ⟨levels, L, path, owned, din, address⟩ := mem_frameBits hf
  rw [List.nil_append] at address
  exact ⟨levels, L, path, owned, din, address, address ▸ pathAddress_length levels⟩

theorem frame_bit_addresses_scenarioB :
    recBuildModuleFabricDependentFrameBitstream scenarioB scenarioBModules scenarioB.depthFuel [0] [0]
        [] [] = .ok [⟨0, [false, false], true⟩, ⟨1, [false, true], false⟩] ∧
      ∀ f ∈ [(⟨0, [false, false], true⟩ : FabricBit), ⟨1, [false, true], false⟩],
        ∃ levels L, FramePath scenarioB scenarioBModules (0, 0) levels L ∧
          f.configBit ∈ scenarioB.blockBits L ∧ f.din = scenarioB.bitValue f.configBit ∧
          f.address = levels.flatMap (fun l => levelAddress scenarioBModules l.1 l.2) ∧
          f.address.length = pathWidth scenarioBModules levels :=
  ⟨rfl, @frame_bit_addresses scenarioB scenarioBModules scenarioB.depthFuel 0 0 _ rfl⟩

/-- In the output of a frame build from the top, a bit's address is a prefix of
another's only when both bits come from one block without child blocks. -/
theorem frame_addresses_separate_leaves {fuel : Nat} {top : ConfigBlockId} {topModule : ModuleId}
    {r : FabricBitstream}
    (h : recBuildModuleFabricDependentFrameBitstream bm mm fuel [top] [topModule] [] [] = .ok r) :
    ∀ f ∈ r, ∀ g ∈ r, f.address <+: g.address → SameLeaf bm f g := by
  have separate := addressesSeparate_of_ok h
  obtain rfl := frame_eq_of_ok h
  exact separate.2

theorem frame_addresses_separate_leaves_scenarioB :
    recBuildModuleFabricDependentFrameBitstream scenarioB scenarioBModules scenarioB.depthFuel [0] [0]
        [] [] = .ok [⟨0, [false, false], true⟩, ⟨1, [false, true], false⟩] ∧
      ∀ f ∈ [(⟨0, [false, false], true⟩ : FabricBit), ⟨1, [false, true], false⟩],
        ∀ g ∈ [(⟨0, [false, false], true⟩ : FabricBit), ⟨1, [false, true], false⟩],
          f.address <+: g.address → SameLeaf scenarioB f g :=
  ⟨rfl, @frame_addresses_separate_leaves scenarioB scenarioBModules scenarioB.depthFuel 0 0 _ rfl⟩

/-- Scenario B with a leaf `X` that owns two bits, both valued 1. -/
def twoBitLeaf : BitstreamManager :=
  ⟨[⟨"R", none, [1, 2], []⟩, ⟨"X", some 0, [], [0, 1]⟩, ⟨"Y", some 0, [], [2]⟩], [true, true, false]⟩

theorem frame_addresses_coincide_on_twoBitLeaf :
    ¬ ∀ (bm : BitstreamManager) (mm : ModuleManager) (top : ConfigBlockId) (topModule : ModuleId),
      WellFormed bm mm (frameVisit mm) top topModule → FrameWellFormed bm mm top topModule →
        ∀ r, recBuildModuleFabricDependentFrameBitstream bm mm bm.depthFuel [top] [topModule] [] [] =
          .ok r → ∀ f ∈ r, ∀ g ∈ r, f ≠ g → ¬ f.address <+: g.address := fun h => by
  have apart := h twoBitLeaf scenarioBModules 0 0 (wellFormed_of_check (by decide))
    (frameWellFormed_of_check (by decide))
    [⟨0, [false, false], true⟩, ⟨1, [false, false], true⟩, ⟨2, [false, true], false⟩] rfl
  exact apart ⟨0, [false, false], true⟩ (by simp) ⟨1, [false, false], true⟩ (by simp) (by simp)
    (List.prefix_refl _)

end OpenFpga
