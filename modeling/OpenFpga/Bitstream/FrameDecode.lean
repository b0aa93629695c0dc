import OpenFpga.Bitstream.FrameAddress

/-! What a frame address is for: the fabric's decoders read it from the top. Below a
module with two or more configurable children, the decoder takes the next address bits,
as many as its address port is wide, reads them as a binary number, most significant
bit first, and enables the child of that index; below a module with one configurable
child the address passes on whole. `decodeFrameAddress` is this reading, stated apart
from the builder.

A level's code reads back as the child's index (`binaryValue_binaryDigits`), so reading
a level's address selects the child the builder took (`decodeFrameAddress_levelAddress`).
Hence every bit a frame build emits is addressed so that the decoders, reading its
whole address, end at a block without child blocks that owns the bit
(`frame_address_decodes_to_owner`). -/
namespace OpenFpga

open BitstreamManager

/-- The number a list of bits spells in binary, most significant bit first. -/
def binaryValue (bits : List Bool) : Nat := bits.foldl (fun n bit => 2 * n + bit.toNat) 0

@[simp] theorem binaryValue_nil : binaryValue [] = 0 := rfl

@[simp] theorem binaryValue_append_singleton (bits : List Bool) (bit : Bool) :
    binaryValue (bits ++ [bit]) = 2 * binaryValue bits + bit.toNat := by
  simp [binaryValue]

/-- A `w`-bit binary code reads back as the number it encodes, modulo `2 ^ w`. -/
theorem binaryValue_binaryDigits : ∀ (w n : Nat),
    binaryValue ((binaryDigits w n).map (· != 0)) = n % 2 ^ w
  | 0, n => by simp [binaryDigits, Nat.mod_one]
  | w + 1, n => by
    have low : (n % 2 != 0).toNat = n % 2 := by
      rcases Nat.mod_two_eq_zero_or_one n with h | h <;> simp [h]
    rw [binaryDigits, List.map_append, List.map_singleton, binaryValue_append_singleton,
      binaryValue_binaryDigits w, low, Nat.pow_succ', Nat.mod_mul]
    omega

variable (bm : BitstreamManager) (mm : ModuleManager)

/-- The decoders reading `address` from block `b` and module `m` down: the block
without child blocks it selects, and what is left of the address there. A level reads
the next `levelWidth` bits as the index of the child it enables, which must be one the
builder visits, not the decoder itself; a module without configurable children, or an
address too short, selects nothing. -/
def decodeFrameAddress : Nat → ConfigBlockId → ModuleId → List Bool → Option (ConfigBlockId × List Bool)
  | 0, _, _, _ => none
  | fuel + 1, b, m, address =>
    if bm.blockChildren b = [] then some (b, address)
    else
      let i := binaryValue (address.take (levelWidth mm m))
      if levelWidth mm m ≤ address.length ∧ i ∈ frameVisit mm m then
        decodeFrameAddress fuel (childBlockOf bm mm b m i) (mm.configurableChild m i)
          (address.drop (levelWidth mm m))
      else none

variable {bm mm}

/-- The level address of a visited child that the builder could encode reads back as
that child's index. -/
theorem binaryValue_levelAddress {m : ModuleId} {i : Nat} (hi : i ∈ frameVisit mm m)
    (fits : (mm.configurableChildren m).length < 2 ∨ i < 2 ^ decoderAddressWidth mm m) :
    binaryValue (levelAddress mm m i) = i := by
  by_cases few : (mm.configurableChildren m).length < 2
  · simp only [frameVisit, few, ↓reduceIte, List.mem_range] at hi
    simp only [levelAddress, few, ↓reduceIte, binaryValue_nil]
    omega
  · simp only [levelAddress, few, ↓reduceIte, binaryValue_binaryDigits]
    exact Nat.mod_eq_of_lt (fits.resolve_left few)

/-- Reading one level's address enables the child the builder took, and the decoders
below it read the rest. -/
theorem decodeFrameAddress_levelAddress {fuel : Nat} {b : ConfigBlockId} {m : ModuleId} {i : Nat}
    (parent : bm.blockChildren b ≠ []) (hi : i ∈ frameVisit mm m)
    (fits : (mm.configurableChildren m).length < 2 ∨ i < 2 ^ decoderAddressWidth mm m)
    (rest : List Bool) :
    decodeFrameAddress bm mm (fuel + 1) b m (levelAddress mm m i ++ rest) =
      decodeFrameAddress bm mm fuel (childBlockOf bm mm b m i) (mm.configurableChild m i) rest := by
  have width : (levelAddress mm m i).length = levelWidth mm m := levelAddress_length m i
  simp only [decodeFrameAddress, parent, ↓reduceIte, List.take_left' width, List.drop_left' width,
    binaryValue_levelAddress hi fits, List.length_append, hi, and_true]
  rw [if_pos (by omega)]

/-- In a frame build that returns, each bit it emits is addressed below `addr`, and the
decoders reading the rest of its address from the current block end, with nothing left
over, at a block without child blocks that owns the bit. -/
theorem decode_of_frame_ok : ∀ {fuel : Nat} {bs : List ConfigBlockId} {ms : List ModuleId}
    {addr : List Bool} {fb r : FabricBitstream},
    recBuildModuleFabricDependentFrameBitstream bm mm fuel bs ms addr fb = .ok r →
      ∀ f ∈ frameBits bm mm fuel (bs.getLastD 0) (ms.getLastD 0) addr, ∃ rest, f.address = addr ++ rest ∧
        ∃ L, decodeFrameAddress bm mm fuel (bs.getLastD 0) (ms.getLastD 0) rest = some (L, []) ∧
          bm.blockChildren L = [] ∧ f.configBit ∈ bm.blockBits L
  | 0, _, _, _, _, _, h => by cases h
  | fuel + 1, bs, ms, addr, fb, r, h => fun f hf => by
    by_cases leaf : bm.blockChildren (bs.getLastD 0) = []
    · simp only [frameBits, leaf, ↓reduceIte, List.mem_map] at hf
      obtain ⟨c, hc, rfl⟩ := hf
      exact ⟨[], (List.append_nil addr).symm, _, by simp [decodeFrameAddress, leaf, -List.getLastD_eq_getLast?], leaf, hc⟩
    · by_cases unconfigured : mm.configurableChildren (ms.getLastD 0) = []
      · simp [frameBits, leaf, frameVisit, unconfigured, -List.getLastD_eq_getLast?] at hf
      · obtain ⟨dec, n, hdec, hloop, -⟩ := frame_succ_of_parent_eq_ok leaf unconfigured h
        obtain ⟨visit, addrs⟩ := frameDecoder_eq_ok hdec
        simp only [frameBits, leaf, ↓reduceIte, List.mem_flatMap] at hf
        obtain ⟨i, hi, hf⟩ := hf
        obtain ⟨acc, r', step⟩ := foldlM_ok_step hloop i (visit ▸ hi)
        obtain ⟨-, a, ha, hrec⟩ := frameStep_eq_ok step
        obtain ⟨rfl, fits⟩ := addrs ha
        have below := decode_of_frame_ok hrec
        rw [List.getLastD_concat, List.getLastD_concat] at below
        obtain ⟨rest, address, L, decode, owner⟩ := below f hf
        exact ⟨levelAddress mm (ms.getLastD 0) i ++ rest, by rw [address, List.append_assoc], L,
          by rw [decodeFrameAddress_levelAddress leaf hi fits, decode], owner⟩

/-- **Frame addresses select their bits.** In the output of a frame build from the top
that returns, the decoders reading any bit's address from the top end, with the whole
address read, at a block without child blocks that owns the bit. -/
theorem frame_address_decodes_to_owner {fuel : Nat} {top : ConfigBlockId} {topModule : ModuleId}
    {r : FabricBitstream}
    (h : recBuildModuleFabricDependentFrameBitstream bm mm fuel [top] [topModule] [] [] = .ok r) :
    ∀ f ∈ r, ∃ L, decodeFrameAddress bm mm fuel top topModule f.address = some (L, []) ∧
      bm.blockChildren L = [] ∧ f.configBit ∈ bm.blockBits L := by
  have decodes := decode_of_frame_ok h
  obtain rfl := frame_eq_of_ok h
  intro f hf
  obtain ⟨rest, address, owner⟩ := decodes f hf
  rw [List.nil_append] at address
  rwa [← address] at owner

theorem frame_address_decodes_to_owner_scenarioB :
    recBuildModuleFabricDependentFrameBitstream scenarioB scenarioBModules scenarioB.depthFuel [0] [0]
        [] [] = .ok [⟨0, [false, false], true⟩, ⟨1, [false, true], false⟩] ∧
      ∀ f ∈ [(⟨0, [false, false], true⟩ : FabricBit), ⟨1, [false, true], false⟩],
        ∃ L, decodeFrameAddress scenarioB scenarioBModules scenarioB.depthFuel 0 0 f.address = some (L, []) ∧
          scenarioB.blockChildren L = [] ∧ f.configBit ∈ scenarioB.blockBits L :=
  ⟨rfl, @frame_address_decodes_to_owner scenarioB scenarioBModules scenarioB.depthFuel 0 0 _ rfl⟩

example : decodeFrameAddress scenarioB scenarioBModules scenarioB.depthFuel 0 0 [false, true] =
    some (2, []) := rfl

end OpenFpga
