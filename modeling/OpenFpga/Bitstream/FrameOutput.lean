import OpenFpga.Bitstream.Frame
import Mathlib.Data.Option.Defs

/-! The frame builder started as `build_module_fabric_dependent_bitstream` starts it: on
the top block and module, the empty address and an empty fabric bitstream. When the
names match along the walk that skips decoders and every decoder's address port numbers
its siblings, the builder returns the spec's frame output
(`frame_bitstream_eq_frameBits`), unless it meets a module with exactly two configurable
children, one child next to its decoder. There its `2 < num_configurable_children`
check fails (`loneDecoder_aborts`), although the input is well formed. -/
namespace OpenFpga

open Relation BitstreamManager

variable (bm : BitstreamManager) (mm : ModuleManager)

/-- The frame builder's input: children lists and parents agree below a top block
without parent; wherever the walk that skips decoders meets a block with children, the
names of the visited configurable children match its child blocks and the decoder's
address port numbers them; only blocks without children own bits. -/
structure FrameWellFormed (top : ConfigBlockId) (topModule : ModuleId) : Prop where
  agree : bm.ParentsAgree
  root : bm.blockParent top = none
  names : ∀ b m, ReflTransGen (WalkStep bm mm (frameVisit mm)) (top, topModule) (b, m) →
    bm.blockChildren b ≠ [] → NamesMatch bm mm (frameVisit mm) b m
  decoders : ∀ b m, ReflTransGen (WalkStep bm mm (frameVisit mm)) (top, topModule) (b, m) →
    bm.blockChildren b ≠ [] → DecoderFits mm m
  bitless : ∀ b, bm.blockChildren b ≠ [] → bm.blockBits b = []

/-- No block with children that the frame walk reaches has a module with exactly two
configurable children, one child next to its decoder. -/
def NoLoneDecoder (top : ConfigBlockId) (topModule : ModuleId) : Prop :=
  ∀ b m, ReflTransGen (WalkStep bm mm (frameVisit mm)) (top, topModule) (b, m) →
    bm.blockChildren b ≠ [] → (mm.configurableChildren m).length ≠ 2

instance (m : ModuleId) : Decidable (DecoderFits mm m) :=
  decidable_of_iff (2 ≤ (mm.configurableChildren m).length →
      ∃ p ∈ mm.findModulePort ((mm.configurableChildren m).getLastD 0) decoderAddressPortName,
        (mm.configurableChildren m).length - 1 ≤
          2 ^ mm.portWidth ((mm.configurableChildren m).getLastD 0) p)
    (by simp only [DecoderFits, Option.mem_def])

/-- The conditions of `FrameWellFormed`, evaluated. -/
def frameWellFormedCheck (top : ConfigBlockId) (topModule : ModuleId) : Bool :=
  bm.parentsAgreeCheck && bm.blockParent top == none &&
    (List.range bm.blocks.length).all (fun b => bm.blockChildren b == [] || bm.blockBits b == []) &&
    walkAll bm mm (frameVisit mm)
      (fun b m => decide (NamesMatch bm mm (frameVisit mm) b m ∧ DecoderFits mm m))
      bm.depthFuel top topModule

/-- `NoLoneDecoder`, evaluated. -/
def noLoneDecoderCheck (top : ConfigBlockId) (topModule : ModuleId) : Bool :=
  walkAll bm mm (frameVisit mm) (fun _ m => (mm.configurableChildren m).length != 2)
    bm.depthFuel top topModule

variable {bm mm} {top : ConfigBlockId} {topModule : ModuleId}

theorem frameWellFormed_of_check (h : frameWellFormedCheck bm mm top topModule = true) :
    FrameWellFormed bm mm top topModule := by
  simp only [frameWellFormedCheck, Bool.and_eq_true, beq_iff_eq, List.all_eq_true, List.mem_range,
    Bool.or_eq_true] at h
  obtain ⟨⟨⟨agree, root⟩, bitless⟩, walk⟩ := h
  have each : ∀ b m, ReflTransGen (WalkStep bm mm (frameVisit mm)) (top, topModule) (b, m) →
      bm.blockChildren b ≠ [] → NamesMatch bm mm (frameVisit mm) b m ∧ DecoderFits mm m :=
    fun _ _ hbm parent => of_decide_eq_true (walkAll_sound parent hbm walk)
  exact ⟨parentsAgree_of_check agree, root, fun b m hbm parent => (each b m hbm parent).1,
    fun b m hbm parent => (each b m hbm parent).2,
    bitless_of_valid fun b hb parent => (bitless b hb).resolve_left parent⟩

theorem noLoneDecoder_of_check (h : noLoneDecoderCheck bm mm top topModule = true) :
    NoLoneDecoder bm mm top topModule := fun _ _ hbm parent => by
  simpa using walkAll_sound parent hbm h

/-- On a well-formed input without a lone decoder, the frame builder returns the spec's
frame output. -/
theorem frame_bitstream_eq_frameBits (wf : FrameWellFormed bm mm top topModule)
    (lone : NoLoneDecoder bm mm top topModule) :
    recBuildModuleFabricDependentFrameBitstream bm mm bm.depthFuel [top] [topModule] [] [] =
      .ok (frameBits bm mm bm.depthFuel top topModule []) :=
  frame_eq_ok wf.agree wf.names (fun b m hbm parent => ⟨wf.decoders b m hbm parent, lone b m hbm parent⟩)
    wf.bitless [] [] .refl (heightAtMost_blocks wf.agree wf.root)

/-- On a well-formed input without a lone decoder, the frame builder fails none of its
checks and returns. -/
theorem frame_build_returns (wf : FrameWellFormed bm mm top topModule)
    (lone : NoLoneDecoder bm mm top topModule) :
    ∃ r, recBuildModuleFabricDependentFrameBitstream bm mm bm.depthFuel [top] [topModule] [] [] = .ok r :=
  ⟨_, frame_eq_ok wf.agree wf.names (fun b m hbm parent => ⟨wf.decoders b m hbm parent, lone b m hbm parent⟩)
    wf.bitless [] [] .refl (heightAtMost_blocks wf.agree wf.root)⟩

/-- Spec scenario B: top block `R` over the leaves `X`, owning a bit valued 1, and `Y`,
owning a bit valued 0. -/
def scenarioB : BitstreamManager :=
  ⟨[⟨"R", none, [1, 2], []⟩, ⟨"X", some 0, [], [0]⟩, ⟨"Y", some 0, [], [1]⟩], [true, false]⟩

/-- The modules of scenario B: the top module's configurable children are `X`, `Y` and
the decoder `D`, whose address port is two bits wide. -/
def scenarioBModules : ModuleManager where
  configurableChildren m := if m = 0 then [1, 2, 3] else []
  configurableChildInstances m := if m = 0 then [0, 0, 0] else []
  instanceName _ child _ := if child = 1 then "X" else if child = 2 then "Y" else "D"
  findModulePort m name := if m = 3 ∧ name = decoderAddressPortName then some 0 else none
  portWidth _ _ := 2
  findModule _ := some 0
  instances_aligned m := by by_cases h : m = 0 <;> simp [h]

theorem frame_bitstream_eq_frameBits_scenarioB :
    FrameWellFormed scenarioB scenarioBModules 0 0 ∧ NoLoneDecoder scenarioB scenarioBModules 0 0 ∧
      recBuildModuleFabricDependentFrameBitstream scenarioB scenarioBModules scenarioB.depthFuel [0] [0]
          [] [] =
        .ok (frameBits scenarioB scenarioBModules scenarioB.depthFuel 0 0 []) :=
  have wf := frameWellFormed_of_check (by decide)
  have lone := noLoneDecoder_of_check (by decide)
  ⟨wf, lone, frame_bitstream_eq_frameBits wf lone⟩

example : frameBits scenarioB scenarioBModules scenarioB.depthFuel 0 0 [] =
    [⟨0, [false, false], true⟩, ⟨1, [false, true], false⟩] := rfl

theorem frame_build_returns_scenarioB :
    FrameWellFormed scenarioB scenarioBModules 0 0 ∧ NoLoneDecoder scenarioB scenarioBModules 0 0 ∧
      ∃ r, recBuildModuleFabricDependentFrameBitstream scenarioB scenarioBModules scenarioB.depthFuel
          [0] [0] [] [] = .ok r :=
  have wf := frameWellFormed_of_check (by decide)
  have lone := noLoneDecoder_of_check (by decide)
  ⟨wf, lone, frame_build_returns wf lone⟩

/-- A top block `R` whose one child block `X` owns a bit, under a module whose
configurable children are `X` and a decoder `D` with a one-bit address port. -/
def loneDecoder : BitstreamManager :=
  ⟨[⟨"R", none, [1], []⟩, ⟨"X", some 0, [], [0]⟩], [true]⟩

/-- The modules of `loneDecoder`. -/
def loneDecoderModules : ModuleManager where
  configurableChildren m := if m = 0 then [1, 2] else []
  configurableChildInstances m := if m = 0 then [0, 0] else []
  instanceName _ child _ := if child = 1 then "X" else "D"
  findModulePort m name := if m = 2 ∧ name = decoderAddressPortName then some 0 else none
  portWidth _ _ := 1
  findModule _ := some 0
  instances_aligned m := by by_cases h : m = 0 <;> simp [h]

/-- The lone decoder input is well formed in every sense the builders' correctness
asks for. -/
theorem loneDecoder_wellFormed :
    WellFormed loneDecoder loneDecoderModules (frameVisit loneDecoderModules) 0 0 ∧
      FrameWellFormed loneDecoder loneDecoderModules 0 0 :=
  ⟨wellFormed_of_check (by decide), frameWellFormed_of_check (by decide)⟩

theorem loneDecoder_aborts :
    recBuildModuleFabricDependentFrameBitstream loneDecoder loneDecoderModules loneDecoder.depthFuel
      [0] [0] [] [] = .error .decoderChildren := rfl

theorem frame_output_differs_on_loneDecoder :
    ¬ ∀ (bm : BitstreamManager) (mm : ModuleManager) (top : ConfigBlockId) (topModule : ModuleId),
      WellFormed bm mm (frameVisit mm) top topModule → FrameWellFormed bm mm top topModule →
        recBuildModuleFabricDependentFrameBitstream bm mm bm.depthFuel [top] [topModule] [] [] =
          .ok (frameBits bm mm bm.depthFuel top topModule []) := fun h => by
  have run := h loneDecoder loneDecoderModules 0 0 loneDecoder_wellFormed.1 loneDecoder_wellFormed.2
  rw [loneDecoder_aborts] at run
  cases run

theorem frame_build_aborts_on_loneDecoder :
    ¬ ∀ (bm : BitstreamManager) (mm : ModuleManager) (top : ConfigBlockId) (topModule : ModuleId),
      WellFormed bm mm (frameVisit mm) top topModule → FrameWellFormed bm mm top topModule →
        ∃ r, recBuildModuleFabricDependentFrameBitstream bm mm bm.depthFuel [top] [topModule] [] [] =
          .ok r := fun h => by
  obtain ⟨r, run⟩ := h loneDecoder loneDecoderModules 0 0 loneDecoder_wellFormed.1 loneDecoder_wellFormed.2
  rw [loneDecoder_aborts] at run
  cases run

end OpenFpga
