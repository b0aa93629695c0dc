import OpenFpga.Bitstream.FrameAddress

/-! `build_module_fabric_dependent_bitstream`, which runs the builder of the
configuration protocol and checks that the fabric bitstream is as long as `bits()`, and
`build_fabric_dependent_bitstream`, which first finds the top module and the one top
block. On a well-formed database the chain builder returns, the frame builder loses and
repeats no bit whenever it returns (`fabric_bitstream_covers_bits_once`), and both stay
within the height of the block tree on any module graph (`builders_within_tree_height`).
When every owned bit is a bit of `bits()`, the chain output is the flattening under both
chain protocols (`chain_bitstream_eq_flatten`), and the whole build returns the spec's
reference output (`buildFabricDependentBitstream_chain`, `buildFabricDependentBitstream_frame`). -/
namespace OpenFpga

open Relation BitstreamManager

/-- Modelled from the spec (§3 ConfigProtocol): the protocol tags that
`config_protocol.type()` returns; config_protocol.h is not among the sources. -/
inductive ConfigProtocolType where
  | standalone
  | scanChain
  | memoryBank
  | frameBased
  deriving DecidableEq, Repr

variable (bm : BitstreamManager) (mm : ModuleManager)

/-- `build_module_fabric_dependent_bitstream`, giving the recursive builders the fuel
`bm.depthFuel`. The tag type is closed, so the `default` branch cannot be taken. -/
def buildModuleFabricDependentBitstream (configProtocol : ConfigProtocolType)
    (topBlock : ConfigBlockId) (topModule : ModuleId) (fabricBitstream : FabricBitstream) :
    Except Abort FabricBitstream := do
  let fabricBitstream ← match configProtocol with
    | .standalone =>
      recBuildModuleFabricDependentChainBitstream bm mm bm.depthFuel topBlock topModule fabricBitstream
    | .scanChain => do
      let fabricBitstream ←
        recBuildModuleFabricDependentChainBitstream bm mm bm.depthFuel topBlock topModule fabricBitstream
      pure fabricBitstream.reverse
    | .memoryBank => pure fabricBitstream
    | .frameBased =>
      recBuildModuleFabricDependentFrameBitstream bm mm bm.depthFuel [topBlock] [topModule] []
        fabricBitstream
  vtrAssert (bm.bits.length = fabricBitstream.length) .bitstreamSize
  pure fabricBitstream

/-- Modelled from the spec (§6 `find_root_blocks`): `find_bitstream_manager_top_blocks`,
the blocks without parent; bitstream_manager_utils is not among the sources. -/
def findBitstreamManagerTopBlocks : List ConfigBlockId :=
  (List.range bm.blocks.length).filter fun b => (bm.blockParent b).isNone

/-- `build_fabric_dependent_bitstream`. `topModuleName` is what
`generate_fpga_top_module_name()` returns; openfpga_naming is not among the sources. -/
def buildFabricDependentBitstream (configProtocol : ConfigProtocolType) (topModuleName : String) :
    Except Abort FabricBitstream := do
  let some topModule := mm.findModule topModuleName | throw .topModule
  let topBlock := findBitstreamManagerTopBlocks bm
  vtrAssert (1 = topBlock.length) .topBlocks
  vtrAssert (topModuleName = bm.blockName (topBlock.getD 0 0)) .topBlockName
  buildModuleFabricDependentBitstream bm mm configProtocol (topBlock.getD 0 0) topModule []

variable {bm mm}

theorem CoversOnce.reverse {l : List ConfigBitId} (h : CoversOnce bm l) : CoversOnce bm l.reverse :=
  ⟨(List.reverse_perm l).trans h.1, fun c hc => by rw [List.count_reverse]; exact h.2 c hc⟩

variable {top : ConfigBlockId} {topModule : ModuleId}

/-- A chain build whose output passes the size check is what the standalone-chain
protocol returns, and reversed what the scan-chain protocol returns. -/
theorem chainProtocols_of_ok {fb r : FabricBitstream}
    (h : recBuildModuleFabricDependentChainBitstream bm mm bm.depthFuel top topModule fb = .ok r)
    (size : bm.bits.length = r.length) :
    buildModuleFabricDependentBitstream bm mm .standalone top topModule fb = .ok r ∧
      buildModuleFabricDependentBitstream bm mm .scanChain top topModule fb = .ok r.reverse := by
  simp [buildModuleFabricDependentBitstream, h, vtrAssert_pos size,
    vtrAssert_pos (size.trans (List.length_reverse r).symm)]

/-- On a well-formed input the chain build from the top returns the flattening. -/
theorem WellFormed.chain_eq (wf : WellFormed bm mm (chainVisit mm) top topModule) :
    recBuildModuleFabricDependentChainBitstream bm mm bm.depthFuel top topModule [] =
      .ok ((flatten bm mm bm.depthFuel top topModule).map FabricBit.ofConfigBit) := by
  have build := chain_eq_ok wf.agree wf.names wf.bitless [] .refl (heightAtMost_blocks wf.agree wf.root)
  rw [List.nil_append] at build
  exact build

/-- Below a top block without parent, on any module graph, cyclic ones included, both
builders stay within the height of the block tree, which is finite: with more fuel
than the height they never run out. -/
theorem builders_within_tree_height (agree : bm.ParentsAgree) (root : bm.blockParent top = none) :
    HeightAtMost bm bm.blocks.length top ∧
      ∀ h, HeightAtMost bm h top → ∀ fuel, h < fuel → ∀ (m : ModuleId) (addr : List Bool)
        (fb : FabricBitstream),
        recBuildModuleFabricDependentChainBitstream bm mm fuel top m fb ≠ .error .outOfFuel ∧
          recBuildModuleFabricDependentFrameBitstream bm mm fuel [top] [m] addr fb ≠ .error .outOfFuel := by
  refine ⟨heightAtMost_blocks agree root, fun h height fuel lt m addr fb => ?_⟩
  obtain ⟨fuel, rfl⟩ : ∃ f, fuel = f + 1 := ⟨fuel - 1, by omega⟩
  have tall := height.mono (Nat.le_of_lt_succ lt)
  exact ⟨chain_ne_outOfFuel m fb tall, @frame_ne_outOfFuel bm mm fuel [top] [m] addr fb tall⟩

/-- A module graph with a cycle: module 0 lists itself three times among its
configurable children, under the instance names `B`, `C` and `D`, the last as a decoder
with a one-bit address port. -/
def selfLoopModules : ModuleManager where
  configurableChildren _ := [0, 0, 0]
  configurableChildInstances _ := [0, 1, 2]
  instanceName _ _ inst := if inst = 0 then "B" else if inst = 1 then "C" else "D"
  findModulePort _ name := if name = decoderAddressPortName then some 0 else none
  portWidth _ _ := 1
  findModule _ := some 0
  instances_aligned _ := rfl

theorem builders_within_tree_height_selfLoop :
    selfLoopModules.configurableChild 0 0 = 0 ∧ scenarioA.ParentsAgree ∧ scenarioA.blockParent 0 = none ∧
      HeightAtMost scenarioA 1 0 ∧
      recBuildModuleFabricDependentChainBitstream scenarioA selfLoopModules 2 0 0 [] ≠ .error .outOfFuel ∧
      recBuildModuleFabricDependentFrameBitstream scenarioA selfLoopModules 2 [0] [0] [] [] ≠
        .error .outOfFuel :=
  have agree := parentsAgree_of_check (by decide)
  have height : HeightAtMost scenarioA 1 0 := by decide
  ⟨rfl, agree, rfl, height, (@builders_within_tree_height scenarioA selfLoopModules 0 agree rfl).2 1 height 2
    (by decide) 0 [] []⟩

/-- Below a top block that every block hangs below, it is the one block without parent. -/
theorem WellFormed.topBlocks_eq {visit : ModuleId → List Nat} (wf : WellFormed bm mm visit top topModule) :
    findBitstreamManagerTopBlocks bm = [top] := by
  refine List.perm_singleton.mp ((List.perm_ext_iff_of_nodup ((List.nodup_range _).filter _)
    (List.nodup_singleton top)).mpr fun b => ?_)
  simp only [findBitstreamManagerTopBlocks, List.mem_filter, List.mem_range, Option.isNone_iff_eq_none,
    List.mem_singleton]
  constructor
  · rintro ⟨hb, hp⟩
    rcases ReflTransGen.cases_tail (wf.spanning b hb) with rfl | ⟨p, -, hpb⟩
    · rfl
    · simp [parent_of_child wf.agree hpb] at hp
  · rintro rfl
    exact ⟨wf.top_valid, by simp [wf.root]⟩

theorem buildFabricDependentBitstream_eq {configProtocol : ConfigProtocolType} {topModuleName : String}
    (tops : findBitstreamManagerTopBlocks bm = [top]) (found : mm.findModule topModuleName = some topModule)
    (named : bm.blockName top = topModuleName) :
    buildFabricDependentBitstream bm mm configProtocol topModuleName =
      buildModuleFabricDependentBitstream bm mm configProtocol top topModule [] := by
  simp [buildFabricDependentBitstream, tops, found, named]

/-- A list that covers the owned bits once is as long as `bits()` when every owned bit
is one of `bits()`. -/
theorem CoversOnce.length_eq {l : List ConfigBitId} (h : CoversOnce bm l)
    (owned : ∀ c ∈ bm.ownedBits, c ∈ bm.bits) : l.length = bm.bits.length := by
  refine (h.1.trans (List.perm_iff_count.mpr fun c => ?_)).length_eq
  by_cases hc : c ∈ bm.bits
  · rw [← h.1.count_eq, h.2 c hc]
    exact (List.count_eq_one_of_mem (List.nodup_range _) hc).symm
  · rw [List.count_eq_zero.mpr hc, List.count_eq_zero.mpr fun mem => hc (owned c mem)]

/-- **The chain order is `flatten`.** On a well-formed input whose owned bits are bits
of `bits()`, the chain build from the top block returns a bitstream whose config bits
are `flatten` of the top block, in the order of the modules' configurable children; the
standalone-chain protocol returns that bitstream, and the scan-chain protocol its
reverse. -/
theorem chain_bitstream_eq_flatten (wf : WellFormed bm mm (chainVisit mm) top topModule)
    (owned : ∀ c ∈ bm.ownedBits, c ∈ bm.bits) :
    ∃ r, recBuildModuleFabricDependentChainBitstream bm mm bm.depthFuel top topModule [] = .ok r ∧
      r.map FabricBit.configBit = flatten bm mm bm.depthFuel top topModule ∧
      buildModuleFabricDependentBitstream bm mm .standalone top topModule [] = .ok r ∧
      buildModuleFabricDependentBitstream bm mm .scanChain top topModule [] = .ok r.reverse :=
  have size := wf.walkBits_coversOnce.length_eq owned
  ⟨_, wf.chain_eq, by simp, chainProtocols_of_ok wf.chain_eq (by simpa [flatten] using size.symm)⟩

theorem chain_bitstream_eq_flatten_scenarioA :
    WellFormed scenarioA scenarioAModules (chainVisit scenarioAModules) 0 0 ∧
      (∀ c ∈ scenarioA.ownedBits, c ∈ scenarioA.bits) ∧
      ∃ r, recBuildModuleFabricDependentChainBitstream scenarioA scenarioAModules scenarioA.depthFuel 0 0 [] =
          .ok r ∧
        r.map FabricBit.configBit = flatten scenarioA scenarioAModules scenarioA.depthFuel 0 0 ∧
        buildModuleFabricDependentBitstream scenarioA scenarioAModules .standalone 0 0 [] = .ok r ∧
        buildModuleFabricDependentBitstream scenarioA scenarioAModules .scanChain 0 0 [] = .ok r.reverse :=
  have wf := wellFormed_of_check (by decide)
  have owned : ∀ c ∈ scenarioA.ownedBits, c ∈ scenarioA.bits := by decide
  ⟨wf, owned, chain_bitstream_eq_flatten wf owned⟩

section Build

variable {topModuleName : String} (owned : ∀ c ∈ bm.ownedBits, c ∈ bm.bits)
  (found : mm.findModule topModuleName = some topModule) (named : bm.blockName top = topModuleName)
include owned found named

/-- On a well-formed database whose owned bits are bits of `bits()`, with the top module
found under the top block's name, the whole standalone-chain build returns a bitstream
whose config bits are the flattening, and the scan-chain build returns it reversed. -/
theorem buildFabricDependentBitstream_chain (wf : WellFormed bm mm (chainVisit mm) top topModule) :
    ∃ r, buildFabricDependentBitstream bm mm .standalone topModuleName = .ok r ∧
      r.map FabricBit.configBit = flatten bm mm bm.depthFuel top topModule ∧
      buildFabricDependentBitstream bm mm .scanChain topModuleName = .ok r.reverse := by
  have size := wf.walkBits_coversOnce.length_eq owned
  obtain ⟨standalone, scan⟩ := chainProtocols_of_ok wf.chain_eq (by simpa [flatten] using size.symm)
  simp only [buildFabricDependentBitstream_eq wf.topBlocks_eq found named]
  exact ⟨_, standalone, by simp, scan⟩

omit owned found named in
theorem buildFabricDependentBitstream_chain_scenarioA :
    ∃ r, buildFabricDependentBitstream scenarioA scenarioAModules .standalone "R" = .ok r ∧
      r.map FabricBit.configBit = flatten scenarioA scenarioAModules scenarioA.depthFuel 0 0 ∧
      buildFabricDependentBitstream scenarioA scenarioAModules .scanChain "R" = .ok r.reverse :=
  buildFabricDependentBitstream_chain (by decide) rfl rfl (wellFormed_of_check (by decide))

/-- On a database well formed for the frame walk, without a lone decoder and whose owned
bits are bits of `bits()`, the whole frame build returns the spec's frame output. -/
theorem buildFabricDependentBitstream_frame (wf : WellFormed bm mm (frameVisit mm) top topModule)
    (frame : FrameWellFormed bm mm top topModule) (lone : NoLoneDecoder bm mm top topModule) :
    buildFabricDependentBitstream bm mm .frameBased topModuleName =
      .ok (frameBits bm mm bm.depthFuel top topModule []) := by
  have build := @frame_eq_ok bm mm top topModule frame.agree frame.names
    (fun b m hbm parent => ⟨frame.decoders b m hbm parent, lone b m hbm parent⟩) frame.bitless
    bm.blocks.length [top] [topModule] [] [] .refl (heightAtMost_blocks frame.agree frame.root)
  have size := wf.walkBits_coversOnce.length_eq owned
  rw [← frameBits_configBit _ _ _ [], List.length_map] at size
  simp only [buildFabricDependentBitstream_eq wf.topBlocks_eq found named, buildModuleFabricDependentBitstream]
  rw [depthFuel] at size ⊢
  rw [build]
  simp [← size]

omit owned found named in
theorem buildFabricDependentBitstream_frame_scenarioB :
    buildFabricDependentBitstream scenarioB scenarioBModules .frameBased "R" =
      .ok (frameBits scenarioB scenarioBModules scenarioB.depthFuel 0 0 []) :=
  buildFabricDependentBitstream_frame (by decide) rfl rfl (wellFormed_of_check (by decide))
    (frameWellFormed_of_check (by decide)) (noLoneDecoder_of_check (by decide))

end Build

end OpenFpga
