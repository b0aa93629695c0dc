import OpenFpga.Bitstream.Dispatch
import OpenFpga.Bitstream.FrameDecode

/-! When the two recursive builders return, and what a build that returns has done. It
has passed, at every block its walk reaches, each check it makes there
(`chainResolves_of_ok`, `frameResolves_of_ok`), and it has emitted every bit of every
block without child blocks its walk reaches, the frame build at an address that the
decoders read back to that block (`chain_emits_reached_bits`,
`frame_emits_reached_bits`), whatever the input. Below a top block without parent, in a tree whose children
lists and parents agree, a build from the top returns exactly when those checks pass
(`chain_returns_iff`, `frame_returns_iff`): the child lookups, the validity and bit
checks, and for the frame builder the decoder checks, are the only ways either build
aborts. With the top-level checks and the size check added, the same holds of the
whole build for every protocol (`build_returns_iff`). -/
namespace OpenFpga

open Relation BitstreamManager

variable {bm : BitstreamManager} {mm : ModuleManager} {top : ConfigBlockId} {topModule : ModuleId}

section Chain

/-- A chain build that returns at a block with child blocks found every visited child,
found the block without bits, and returned from each child. -/
theorem chain_checks_of_ok {fuel : Nat} {b : ConfigBlockId} {m : ModuleId} {fb r : FabricBitstream}
    (parent : bm.blockChildren b ≠ [])
    (h : recBuildModuleFabricDependentChainBitstream bm mm (fuel + 1) b m fb = .ok r) :
    (∀ i ∈ chainVisit mm m, ChildFound bm mm b m i ∧ ∃ fb' r',
      recBuildModuleFabricDependentChainBitstream bm mm fuel (childBlockOf bm mm b m i)
        (mm.configurableChild m i) fb' = .ok r') ∧ bm.blockBits b = [] := by
  obtain ⟨hloop, bitless⟩ := chain_succ_of_parent_eq_ok parent h
  refine ⟨fun i hi => ?_, bitless⟩
  obtain ⟨acc, r', step⟩ := foldlM_ok_step hloop i hi
  obtain ⟨found, hrec⟩ := chainStep_eq_ok step
  exact ⟨found, acc, r', hrec⟩

/-- Every pair the chain walk reaches from a build that returns is the root of a build
that returns, whose `flatten` is part of the top's. -/
theorem chain_ok_of_reach {fuel : Nat} {fb r : FabricBitstream}
    (h : recBuildModuleFabricDependentChainBitstream bm mm fuel top topModule fb = .ok r)
    {p : ConfigBlockId × ModuleId} (hp : ReflTransGen (WalkStep bm mm (chainVisit mm)) (top, topModule) p) :
    ∃ fuel', (∃ fb' r', recBuildModuleFabricDependentChainBitstream bm mm fuel' p.1 p.2 fb' = .ok r') ∧
      ∀ c ∈ flatten bm mm fuel' p.1 p.2, c ∈ flatten bm mm fuel top topModule := by
  induction hp with
  | refl => exact ⟨fuel, ⟨fb, r, h⟩, fun _ => id⟩
  | tail _ step ih =>
    obtain @⟨b, m, i, c, parent, hi, found⟩ := step
    obtain ⟨fuel', ⟨fb', r', run⟩, sub⟩ := ih
    cases fuel' with
    | zero => cases run
    | succ fuel' =>
      obtain ⟨found', run'⟩ := (chain_checks_of_ok parent run).1 i hi
      obtain rfl := Option.some.inj (found'.1.symm.trans found)
      refine ⟨fuel', run', fun d hd => sub d ?_⟩
      rw [flatten_succ, if_neg parent]
      exact List.mem_flatMap.mpr ⟨i, hi, hd⟩

/-- A chain build that returns passed the builder's checks all along its walk. -/
theorem chainResolves_of_ok {fuel : Nat} {fb r : FabricBitstream}
    (h : recBuildModuleFabricDependentChainBitstream bm mm fuel top topModule fb = .ok r) :
    ChainResolves bm mm top topModule := fun b m hb parent => by
  obtain ⟨fuel', ⟨fb', r', run⟩, -⟩ := chain_ok_of_reach h hb
  cases fuel' with
  | zero => cases run
  | succ fuel' =>
    obtain ⟨each, bitless⟩ := chain_checks_of_ok parent run
    exact ⟨fun i hi => (each i hi).1, bitless⟩

/-- **When the chain build returns.** Below a top block without parent, the chain
build from the top returns exactly when every child lookup along its walk finds a valid
block and every block with child blocks owns no bits. -/
theorem chain_returns_iff (agree : bm.ParentsAgree) (root : bm.blockParent top = none)
    (fb : FabricBitstream) :
    (∃ r, recBuildModuleFabricDependentChainBitstream bm mm bm.depthFuel top topModule fb = .ok r) ↔
      ChainResolves bm mm top topModule :=
  ⟨fun ⟨_, h⟩ => chainResolves_of_ok h,
    fun resolves => ⟨_, chain_eq_ok_of_resolves resolves fb .refl (heightAtMost_blocks agree root)⟩⟩

theorem chain_returns_iff_scenarioA :
    ChainResolves scenarioA scenarioAModules 0 0 :=
  (@chain_returns_iff scenarioA scenarioAModules 0 0 (parentsAgree_of_check (by decide)) rfl []).mp
    ⟨_, rfl⟩

/-- **The chain build loses no reached bit.** On any input, a chain build that returns
has emitted every bit of every block without child blocks that its walk reaches. -/
theorem chain_emits_reached_bits {fuel : Nat} {fb r : FabricBitstream}
    (h : recBuildModuleFabricDependentChainBitstream bm mm fuel top topModule fb = .ok r)
    {leaf : ConfigBlockId} {leafModule : ModuleId}
    (reached : ReflTransGen (WalkStep bm mm (chainVisit mm)) (top, topModule) (leaf, leafModule))
    (childless : bm.blockChildren leaf = []) :
    ∀ c ∈ bm.blockBits leaf, ∃ f ∈ r, f.configBit = c := fun c hc => by
  obtain ⟨fuel', ⟨fb', r', run⟩, sub⟩ := chain_ok_of_reach h reached
  cases fuel' with
  | zero => cases run
  | succ fuel' =>
    have flattened := sub c (by simpa [flatten_succ, childless] using hc)
    rw [chain_eq_of_ok h]
    exact ⟨_, List.mem_append_right _ (List.mem_map_of_mem _ flattened), rfl⟩

theorem chain_emits_reached_bits_scenarioA :
    recBuildModuleFabricDependentChainBitstream scenarioA scenarioAModules scenarioA.depthFuel 0 0 [] =
        .ok [⟨0, [], false⟩, ⟨1, [], false⟩, ⟨2, [], false⟩] ∧
      ∀ c ∈ scenarioA.blockBits 1, ∃ f ∈ ([⟨0, [], false⟩, ⟨1, [], false⟩, ⟨2, [], false⟩] : FabricBitstream),
        f.configBit = c :=
  ⟨rfl, @chain_emits_reached_bits scenarioA scenarioAModules 0 0 scenarioA.depthFuel [] _ rfl 1 1
    (.single (@WalkStep.child scenarioA scenarioAModules (chainVisit scenarioAModules) 0 0 0 1
      (by decide) (by decide) rfl)) rfl⟩

end Chain

section Frame

/-- A frame build that returns at a block with child blocks under a configured module
passed the decoder checks and found the block without bits; for every visited child it
found the child, encoded its index, and returned from it on the address extended by the
child's level address. -/
theorem frame_checks_of_ok {fuel : Nat} {bs : List ConfigBlockId} {ms : List ModuleId}
    {addr : List Bool} {fb r : FabricBitstream} (parent : bm.blockChildren (bs.getLastD 0) ≠ [])
    (configured : mm.configurableChildren (ms.getLastD 0) ≠ [])
    (h : recBuildModuleFabricDependentFrameBitstream bm mm (fuel + 1) bs ms addr fb = .ok r) :
    ((mm.configurableChildren (ms.getLastD 0)).length ≠ 2 ∧ DecoderFits mm (ms.getLastD 0) ∧
        bm.blockBits (bs.getLastD 0) = []) ∧
      ∀ i ∈ frameVisit mm (ms.getLastD 0), ChildFound bm mm (bs.getLastD 0) (ms.getLastD 0) i ∧
        ((mm.configurableChildren (ms.getLastD 0)).length < 2 ∨
          i < 2 ^ decoderAddressWidth mm (ms.getLastD 0)) ∧
        ∃ fb' r', recBuildModuleFabricDependentFrameBitstream bm mm fuel
          (bs ++ [childBlockOf bm mm (bs.getLastD 0) (ms.getLastD 0) i])
          (ms ++ [mm.configurableChild (ms.getLastD 0) i])
          (addr ++ levelAddress mm (ms.getLastD 0) i) fb' = .ok r' := by
  obtain ⟨dec, n, hdec, hloop, bitless⟩ := frame_succ_of_parent_eq_ok parent configured h
  obtain ⟨visit, addrs⟩ := frameDecoder_eq_ok hdec
  have each : ∀ i ∈ frameVisit mm (ms.getLastD 0), ∃ acc r',
      frameStep bm mm fuel bs ms addr dec acc i = .ok r' := fun i hi =>
    foldlM_ok_step hloop i (visit ▸ hi)
  refine ⟨⟨fun two => ?_, fun many => ?_, bitless⟩, fun i hi => ?_⟩
  · rw [frameDecoder_of_two two] at hdec
    cases hdec
  · obtain ⟨wide, rfl, -⟩ := frameDecoder_eq_ok_of_many hdec many
    obtain ⟨acc, r', step⟩ := each ((mm.configurableChildren (ms.getLastD 0)).length - 2)
      (by simp only [frameVisit, List.mem_range]; split <;> omega)
    obtain ⟨-, a, ha, -⟩ := frameStep_eq_ok step
    obtain ⟨p, hp, fits, -⟩ := childAddrCode_some_eq_ok ha
    exact ⟨p, hp, by omega⟩
  · obtain ⟨acc, r', step⟩ := each i hi
    obtain ⟨found, a, ha, hrec⟩ := frameStep_eq_ok step
    obtain ⟨rfl, fits⟩ := addrs ha
    exact ⟨found, fits, acc, r', hrec⟩

/-- Every pair the frame walk reaches from a build that returns is the last block and
module of a build that returns, on the start address extended by a suffix that the
decoders read from the top down to that pair, and whose frame output is part of the
top's. -/
theorem frame_ok_of_reach {fuel : Nat} {addr : List Bool} {fb r : FabricBitstream}
    (h : recBuildModuleFabricDependentFrameBitstream bm mm fuel [top] [topModule] addr fb = .ok r)
    {p : ConfigBlockId × ModuleId} (hp : ReflTransGen (WalkStep bm mm (frameVisit mm)) (top, topModule) p) :
    ∃ fuel' suffix, (∃ bs ms fb' r', (bs.getLastD 0, ms.getLastD 0) = p ∧
        recBuildModuleFabricDependentFrameBitstream bm mm fuel' bs ms (addr ++ suffix) fb' = .ok r') ∧
      (∀ f ∈ frameBits bm mm fuel' p.1 p.2 (addr ++ suffix), f ∈ frameBits bm mm fuel top topModule addr) ∧
      ∀ rest, decodeFrameAddress bm mm fuel top topModule (suffix ++ rest) =
        decodeFrameAddress bm mm fuel' p.1 p.2 rest := by
  induction hp with
  | refl =>
    exact ⟨fuel, [], ⟨[top], [topModule], fb, r, rfl, by rwa [List.append_nil]⟩,
      fun f hf => by rwa [List.append_nil] at hf, fun _ => rfl⟩
  | tail _ step ih =>
    obtain @⟨b, m, i, c, parent, hi, found⟩ := step
    obtain ⟨fuel', suffix, ⟨bs, ms, fb', r', ⟨⟩, run⟩, sub, decode⟩ := ih
    cases fuel' with
    | zero => cases run
    | succ fuel' =>
      obtain ⟨found', fits, fb'', r'', run'⟩ :=
        (frame_checks_of_ok parent (configured_of_mem_frameVisit hi) run).2 i hi
      obtain rfl := Option.some.inj (found'.1.symm.trans found)
      refine ⟨fuel', suffix ++ levelAddress mm (ms.getLastD 0) i,
        ⟨bs ++ [childBlockOf bm mm (bs.getLastD 0) (ms.getLastD 0) i], ms ++ [mm.configurableChild (ms.getLastD 0) i],
          fb'', r'', by simp only [List.getLastD_concat], by rwa [← List.append_assoc]⟩,
        fun f hf => sub f ?_, fun rest => ?_⟩
      · rw [frameBits, if_neg parent]
        exact List.mem_flatMap.mpr ⟨i, hi, by rwa [← List.append_assoc] at hf⟩
      · rw [List.append_assoc, decode, decodeFrameAddress_levelAddress parent hi fits]

/-- A frame build that returns passed the builder's checks all along its walk. -/
theorem frameResolves_of_ok {fuel : Nat} {addr : List Bool} {fb r : FabricBitstream}
    (h : recBuildModuleFabricDependentFrameBitstream bm mm fuel [top] [topModule] addr fb = .ok r) :
    FrameResolves bm mm top topModule := fun b m hb parent configured => by
  obtain ⟨fuel', suffix, ⟨bs, ms, fb', r', ⟨⟩, run⟩, -⟩ := frame_ok_of_reach h hb
  cases fuel' with
  | zero => cases run
  | succ fuel' =>
    obtain ⟨checks, each⟩ := frame_checks_of_ok parent configured run
    exact ⟨checks.1, checks.2.1, fun i hi => (each i hi).1, checks.2.2⟩

/-- **When the frame build returns.** Below a top block without parent, the frame build
from the top returns exactly when, at every block with child blocks its walk reaches
under a module with configurable children, the module has no lone decoder, its decoder
numbers the other children, every child lookup finds a valid block and the block owns
no bits. -/
theorem frame_returns_iff (agree : bm.ParentsAgree) (root : bm.blockParent top = none)
    (addr : List Bool) (fb : FabricBitstream) :
    (∃ r, recBuildModuleFabricDependentFrameBitstream bm mm bm.depthFuel [top] [topModule] addr fb =
      .ok r) ↔ FrameResolves bm mm top topModule :=
  ⟨fun ⟨_, h⟩ => frameResolves_of_ok h,
    fun resolves => ⟨_, frame_eq_ok_of_resolves resolves addr fb .refl (heightAtMost_blocks agree root)⟩⟩

theorem frame_returns_iff_loneDecoder :
    ¬ FrameResolves loneDecoder loneDecoderModules 0 0 := fun resolves => by
  obtain ⟨r, h⟩ := (@frame_returns_iff loneDecoder loneDecoderModules 0 0 (parentsAgree_of_check (by decide)) rfl
    [] []).mpr resolves
  cases h

/-- **The frame build loses no reached bit.** On any input, a frame build from the top
that returns has emitted every bit of every block without child blocks that its walk
reaches, with the bit's value, at an address that the decoders read from the top, whole,
back to that block. -/
theorem frame_emits_reached_bits {fuel : Nat} {r : FabricBitstream}
    (h : recBuildModuleFabricDependentFrameBitstream bm mm fuel [top] [topModule] [] [] = .ok r)
    {leaf : ConfigBlockId} {leafModule : ModuleId}
    (reached : ReflTransGen (WalkStep bm mm (frameVisit mm)) (top, topModule) (leaf, leafModule))
    (childless : bm.blockChildren leaf = []) :
    ∀ c ∈ bm.blockBits leaf, ∃ f ∈ r, f.configBit = c ∧ f.din = bm.bitValue c ∧
      decodeFrameAddress bm mm fuel top topModule f.address = some (leaf, []) := fun c hc => by
  obtain ⟨fuel', suffix, ⟨bs, ms, fb', r', -, run⟩, sub, decode⟩ := frame_ok_of_reach h reached
  cases fuel' with
  | zero => cases run
  | succ fuel' =>
    have emitted := sub ⟨c, suffix, bm.bitValue c⟩ (by
      simp only [frameBits, childless, ↓reduceIte, List.nil_append]
      exact List.mem_map_of_mem _ hc)
    rw [frame_eq_of_ok h]
    refine ⟨_, emitted, rfl, rfl, ?_⟩
    simpa [decodeFrameAddress, childless] using decode []

theorem frame_emits_reached_bits_scenarioB :
    recBuildModuleFabricDependentFrameBitstream scenarioB scenarioBModules scenarioB.depthFuel [0] [0]
        [] [] = .ok [⟨0, [false, false], true⟩, ⟨1, [false, true], false⟩] ∧
      ∀ c ∈ scenarioB.blockBits 2, ∃ f ∈ ([⟨0, [false, false], true⟩, ⟨1, [false, true], false⟩] : FabricBitstream),
        f.configBit = c ∧ f.din = scenarioB.bitValue c ∧
          decodeFrameAddress scenarioB scenarioBModules scenarioB.depthFuel 0 0 f.address = some (2, []) :=
  ⟨rfl, @frame_emits_reached_bits scenarioB scenarioBModules 0 0 scenarioB.depthFuel _ rfl 2 2
    (.single (@WalkStep.child scenarioB scenarioBModules (frameVisit scenarioBModules) 0 0 1 2
      (by decide) (by decide) rfl)) rfl⟩

end Frame

section Build

/-- What the build of a configuration protocol checks below the top block and module:
the checks of its builder along the walk, and that the builder's output is as long as
`bits()`. The memory-bank branch outputs nothing. -/
def BuildResolves (bm : BitstreamManager) (mm : ModuleManager) (top : ConfigBlockId)
    (topModule : ModuleId) : ConfigProtocolType → Prop
  | .standalone | .scanChain => ChainResolves bm mm top topModule ∧
    bm.bits.length = (flatten bm mm bm.depthFuel top topModule).length
  | .memoryBank => bm.bits = []
  | .frameBased => FrameResolves bm mm top topModule ∧
    bm.bits.length = (frameBits bm mm bm.depthFuel top topModule []).length

/-- The size check passes exactly on an output as long as `bits()`; a scan chain
reverses the output first, which keeps its length. -/
theorem sizeChecked_ok_iff {e : Except Abort FabricBitstream} {g : FabricBitstream → FabricBitstream} :
    (∃ r, (do
      let fabricBitstream ← e
      vtrAssert (bm.bits.length = fabricBitstream.length) .bitstreamSize
      pure (g fabricBitstream)) = .ok r) ↔ ∃ r, e = .ok r ∧ bm.bits.length = r.length := by
  constructor
  · rintro ⟨r, h⟩
    obtain ⟨r', he, h⟩ := bind_eq_ok.mp h
    obtain ⟨⟨⟩, size, -⟩ := bind_eq_ok.mp h
    exact ⟨r', he, vtrAssert_eq_ok.mp size⟩
  · rintro ⟨r, he, size⟩
    exact ⟨g r, by simp [he, vtrAssert_pos size]⟩

variable (agree : bm.ParentsAgree) (root : bm.blockParent top = none)
include agree root

theorem chain_sized_iff :
    (∃ r, recBuildModuleFabricDependentChainBitstream bm mm bm.depthFuel top topModule [] = .ok r ∧
      bm.bits.length = r.length) ↔
      ChainResolves bm mm top topModule ∧ bm.bits.length = (flatten bm mm bm.depthFuel top topModule).length := by
  constructor
  · rintro ⟨r, h, size⟩
    obtain rfl := chain_eq_of_ok h
    exact ⟨chainResolves_of_ok h, by simpa using size⟩
  · rintro ⟨resolves, size⟩
    exact ⟨_, chain_eq_ok_of_resolves resolves [] .refl (heightAtMost_blocks agree root), by simpa using size⟩

theorem frame_sized_iff :
    (∃ r, recBuildModuleFabricDependentFrameBitstream bm mm bm.depthFuel [top] [topModule] [] [] = .ok r ∧
      bm.bits.length = r.length) ↔
      FrameResolves bm mm top topModule ∧
        bm.bits.length = (frameBits bm mm bm.depthFuel top topModule []).length := by
  constructor
  · rintro ⟨r, h, size⟩
    obtain rfl := frame_eq_of_ok h
    exact ⟨frameResolves_of_ok h, by simpa using size⟩
  · rintro ⟨resolves, size⟩
    exact ⟨_, frame_eq_ok_of_resolves resolves [] [] .refl (heightAtMost_blocks agree root),
      by simpa using size⟩

/-- Below a top block without parent, the build of each protocol returns exactly when
its checks pass. -/
theorem buildModule_returns_iff : ∀ configProtocol : ConfigProtocolType,
    (∃ r, buildModuleFabricDependentBitstream bm mm configProtocol top topModule [] = .ok r) ↔
      BuildResolves bm mm top topModule configProtocol
  | .standalone | .scanChain => by
    simp only [buildModuleFabricDependentBitstream, pure_bind, List.length_reverse]
    rw [sizeChecked_ok_iff]
    exact chain_sized_iff agree root
  | .memoryBank => by
    simp only [buildModuleFabricDependentBitstream]
    rw [sizeChecked_ok_iff]
    simp [BuildResolves, BitstreamManager.bits]
  | .frameBased => by
    simp only [buildModuleFabricDependentBitstream]
    rw [sizeChecked_ok_iff]
    exact frame_sized_iff agree root

omit agree root

/-- The top-level build returns exactly when the top module is found, there is one top
block, it bears the top module's name, and the build below them returns. -/
theorem buildFabricDependentBitstream_ok_iff {configProtocol : ConfigProtocolType} {topModuleName : String} :
    (∃ r, buildFabricDependentBitstream bm mm configProtocol topModuleName = .ok r) ↔
      ∃ topModule top, mm.findModule topModuleName = some topModule ∧
        findBitstreamManagerTopBlocks bm = [top] ∧ bm.blockName top = topModuleName ∧
        ∃ r, buildModuleFabricDependentBitstream bm mm configProtocol top topModule [] = .ok r := by
  cases found : mm.findModule topModuleName with
  | none => simp [buildFabricDependentBitstream, found, throw, throwThe, MonadExceptOf.throw]
  | some topModule =>
    simp only [buildFabricDependentBitstream, found, Option.some.injEq, exists_and_left, exists_eq_left']
    constructor
    · rintro ⟨r, h⟩
      obtain ⟨⟨⟩, one, h⟩ := bind_eq_ok.mp h
      obtain ⟨⟨⟩, named, h⟩ := bind_eq_ok.mp h
      obtain ⟨top, tops⟩ := List.length_eq_one.mp (vtrAssert_eq_ok.mp one).symm
      rw [tops] at named h
      exact ⟨top, tops, (vtrAssert_eq_ok.mp named).symm, r, h⟩
    · rintro ⟨top, tops, named, r, h⟩
      exact ⟨r, by simp [tops, named, h]⟩

theorem root_of_topBlocks (tops : findBitstreamManagerTopBlocks bm = [top]) : bm.blockParent top = none := by
  have := List.mem_filter.mp (tops ▸ List.mem_singleton_self top : top ∈ findBitstreamManagerTopBlocks bm)
  simpa using this.2

/-- **When the build returns.** On a block database whose children lists and parents
agree, `build_fabric_dependent_bitstream` returns exactly when the top module is found,
there is one block without parent, it bears the top module's name, and below them the
protocol's builder passes all its checks and outputs as many bits as `bits()`. -/
theorem build_returns_iff (agree : bm.ParentsAgree) (configProtocol : ConfigProtocolType)
    (topModuleName : String) :
    (∃ r, buildFabricDependentBitstream bm mm configProtocol topModuleName = .ok r) ↔
      ∃ topModule top, mm.findModule topModuleName = some topModule ∧
        findBitstreamManagerTopBlocks bm = [top] ∧ bm.blockName top = topModuleName ∧
        BuildResolves bm mm top topModule configProtocol := by
  rw [buildFabricDependentBitstream_ok_iff]
  exact exists_congr fun _ => exists_congr fun _ => and_congr_right fun _ => and_congr_right fun tops =>
    and_congr_right fun _ => buildModule_returns_iff agree (root_of_topBlocks tops) configProtocol

theorem build_returns_iff_scenarioB :
    ∃ topModule top, scenarioBModules.findModule "R" = some topModule ∧
      findBitstreamManagerTopBlocks scenarioB = [top] ∧ scenarioB.blockName top = "R" ∧
      BuildResolves scenarioB scenarioBModules top topModule .frameBased :=
  (build_returns_iff (parentsAgree_of_check (by decide)) .frameBased "R").mp ⟨_, rfl⟩

end Build

end OpenFpga
