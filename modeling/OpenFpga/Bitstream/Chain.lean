import OpenFpga.Bitstream.Check

/-! `rec_build_module_fabric_dependent_chain_bitstream`, the builder of the standalone
and scan-chain protocols, and the order it emits bits in.

A build that returns has appended `flatten` (`chain_eq_of_ok`); wherever the builder's
checks pass along its walk, it returns (`chain_eq_ok_of_resolves`), so on a well-formed
input it does (`chain_eq_ok`); and on
any input its recursion is no deeper than the block tree is tall
(`chain_ne_outOfFuel`). -/
namespace OpenFpga

open Relation BitstreamManager

variable (bm : BitstreamManager) (mm : ModuleManager)

/-- `rec_build_module_fabric_dependent_chain_bitstream`: at a block with child blocks,
every configurable child of the module, depth first, then a check that the block owns
no bits; at any block, its bits in storage order. -/
def recBuildModuleFabricDependentChainBitstream :
    Nat → ConfigBlockId → ModuleId → FabricBitstream → Except Abort FabricBitstream
  | 0, _, _, _ => throw .outOfFuel
  | fuel + 1, parentBlock, parentModule, fabricBitstream => do
    let fabricBitstream ←
      if 0 < (bm.blockChildren parentBlock).length then do
        let fabricBitstream ← (List.range (mm.configurableChildren parentModule).length).foldlM
          (fun fabricBitstream childId => do
            let childModule := (mm.configurableChildren parentModule).getD childId 0
            let childInstance := (mm.configurableChildInstances parentModule).getD childId 0
            let instanceName := mm.instanceName parentModule childModule childInstance
            let childBlock ← bm.childBlock parentBlock instanceName
            recBuildModuleFabricDependentChainBitstream fuel childBlock childModule
              fabricBitstream)
          fabricBitstream
        vtrAssert (0 = (bm.blockBits parentBlock).length) .parentBlockBits
        pure fabricBitstream
      else pure fabricBitstream
    pure ((bm.blockBits parentBlock).foldl (fun fabricBitstream c => (fabricBitstream.addBit c).1)
      fabricBitstream)

/-- The chain builder visits every configurable child. -/
def chainVisit (m : ModuleId) : List Nat := List.range (mm.configurableChildren m).length

/-- The chain order of the spec (§4.2): the bits of a block without child blocks in
storage order, otherwise the orders of the child blocks named after the module's
configurable children, in list order. -/
def flatten : Nat → ConfigBlockId → ModuleId → List ConfigBitId := walkBits bm mm (chainVisit mm)

/-- One turn of the builder's loop over configurable children. -/
def chainStep (fuel : Nat) (parentBlock : ConfigBlockId) (parentModule : ModuleId)
    (fabricBitstream : FabricBitstream) (childId : Nat) : Except Abort FabricBitstream := do
  let childBlock ← bm.childBlock parentBlock (mm.childInstanceName parentModule childId)
  recBuildModuleFabricDependentChainBitstream bm mm fuel childBlock
    (mm.configurableChild parentModule childId) fabricBitstream

variable {bm mm}

theorem foldl_addBit (bits : List ConfigBitId) (fb : FabricBitstream) :
    bits.foldl (fun fb c => (fb.addBit c).1) fb = fb ++ bits.map FabricBit.ofConfigBit := by
  induction bits generalizing fb with
  | nil => simp
  | cons c bits ih => rw [List.foldl_cons, ih]; simp [FabricBitstream.addBit]

theorem vtrAssert_eq_ok {cond : Prop} [Decidable cond] {failure : Abort} {u : Unit} :
    vtrAssert cond failure = .ok u ↔ cond := by
  unfold vtrAssert; split <;> simp_all [throw, throwThe, MonadExceptOf.throw]

theorem vtrAssert_ne_outOfFuel {cond : Prop} [Decidable cond] (failure : Abort)
    (h : failure ≠ .outOfFuel) : vtrAssert cond failure ≠ .error .outOfFuel := by
  unfold vtrAssert; split <;> simp [throw, throwThe, MonadExceptOf.throw, h]

section Unfold

variable {fuel : Nat} {b : ConfigBlockId} {m : ModuleId} {fb : FabricBitstream}

theorem chain_succ_of_leaf (leaf : bm.blockChildren b = []) :
    recBuildModuleFabricDependentChainBitstream bm mm (fuel + 1) b m fb =
      .ok (fb ++ (bm.blockBits b).map FabricBit.ofConfigBit) := by
  simp [recBuildModuleFabricDependentChainBitstream, leaf, foldl_addBit]

theorem chain_succ_of_parent (parent : bm.blockChildren b ≠ []) :
    recBuildModuleFabricDependentChainBitstream bm mm (fuel + 1) b m fb = (do
      let fb ← (chainVisit mm m).foldlM (chainStep bm mm fuel b m) fb
      vtrAssert (0 = (bm.blockBits b).length) .parentBlockBits
      pure (fb ++ (bm.blockBits b).map FabricBit.ofConfigBit)) := by
  simp only [recBuildModuleFabricDependentChainBitstream, List.length_pos.mpr parent,
    ↓reduceIte, bind_assoc, pure_bind, foldl_addBit]
  rfl

theorem chainStep_of_found {acc : FabricBitstream} {i : Nat} (found : ChildFound bm mm b m i) :
    chainStep bm mm fuel b m acc i =
      recBuildModuleFabricDependentChainBitstream bm mm fuel (childBlockOf bm mm b m i)
        (mm.configurableChild m i) acc := by
  simp [chainStep, childBlock_eq_ok.mpr found]

theorem chainStep_eq_ok {acc r : FabricBitstream} {i : Nat} (h : chainStep bm mm fuel b m acc i = .ok r) :
    ChildFound bm mm b m i ∧
      recBuildModuleFabricDependentChainBitstream bm mm fuel (childBlockOf bm mm b m i)
        (mm.configurableChild m i) acc = .ok r := by
  obtain ⟨c, hc, hrec⟩ := bind_eq_ok.mp h
  obtain ⟨found, valid⟩ := childBlock_eq_ok.mp hc
  obtain rfl : childBlockOf bm mm b m i = c := by simp [childBlockOf, found]
  exact ⟨⟨found, valid⟩, hrec⟩

/-- What a chain build that returns at a block with child blocks did: its loop over
the configurable children returned, and the block owns no bits. -/
theorem chain_succ_of_parent_eq_ok {r : FabricBitstream} (parent : bm.blockChildren b ≠ [])
    (h : recBuildModuleFabricDependentChainBitstream bm mm (fuel + 1) b m fb = .ok r) :
    (chainVisit mm m).foldlM (chainStep bm mm fuel b m) fb = .ok r ∧ bm.blockBits b = [] := by
  rw [chain_succ_of_parent parent] at h
  obtain ⟨fb', hloop, hrest⟩ := bind_eq_ok.mp h
  obtain ⟨⟨⟩, hbits, hpure⟩ := bind_eq_ok.mp hrest
  have bitless := List.eq_nil_of_length_eq_zero (vtrAssert_eq_ok.mp hbits).symm
  cases hpure
  simpa [bitless] using hloop

end Unfold

theorem flatten_succ (fuel : Nat) (b : ConfigBlockId) (m : ModuleId) :
    flatten bm mm (fuel + 1) b m =
      if bm.blockChildren b = [] then bm.blockBits b
      else (chainVisit mm m).flatMap fun i =>
        flatten bm mm fuel (childBlockOf bm mm b m i) (mm.configurableChild m i) := rfl

/-- A chain build that returns has appended `flatten`. -/
theorem chain_eq_of_ok : ∀ {fuel : Nat} {b : ConfigBlockId} {m : ModuleId} {fb r : FabricBitstream},
    recBuildModuleFabricDependentChainBitstream bm mm fuel b m fb = .ok r →
      r = fb ++ (flatten bm mm fuel b m).map FabricBit.ofConfigBit
  | 0, _, _, _, _, h => by cases h
  | fuel + 1, b, m, fb, r, h => by
    by_cases leaf : bm.blockChildren b = []
    · rw [chain_succ_of_leaf leaf] at h
      cases h
      simp [flatten_succ, leaf]
    · obtain ⟨hloop, bitless⟩ := chain_succ_of_parent_eq_ok leaf h
      rw [flatten_succ, if_neg leaf, List.map_flatMap]
      exact eq_of_foldlM_ok (fun acc r i _ step => chain_eq_of_ok (chainStep_eq_ok step).2) hloop

section Walk

variable {top : ConfigBlockId} {topModule : ModuleId}

/-- Where every check the chain builder makes passes along its walk from
`(top, topModule)`: each visited child is found, and every block with child blocks owns
no bits. -/
def ChainResolves (bm : BitstreamManager) (mm : ModuleManager) (top : ConfigBlockId)
    (topModule : ModuleId) : Prop :=
  ∀ b m, ReflTransGen (WalkStep bm mm (chainVisit mm)) (top, topModule) (b, m) →
    bm.blockChildren b ≠ [] → (∀ i ∈ chainVisit mm m, ChildFound bm mm b m i) ∧ bm.blockBits b = []

/-- Where the chain builder's checks pass along the walk and the tree is within the
fuel, the chain build returns and appends `flatten`. -/
theorem chain_eq_ok_of_resolves (resolves : ChainResolves bm mm top topModule) :
    ∀ {fuel : Nat} {b : ConfigBlockId} {m : ModuleId} (fb : FabricBitstream),
      ReflTransGen (WalkStep bm mm (chainVisit mm)) (top, topModule) (b, m) →
      HeightAtMost bm fuel b →
      recBuildModuleFabricDependentChainBitstream bm mm (fuel + 1) b m fb =
        .ok (fb ++ (flatten bm mm (fuel + 1) b m).map FabricBit.ofConfigBit)
  | fuel, b, m, fb, hb, height => by
    by_cases leaf : bm.blockChildren b = []
    · simp [chain_succ_of_leaf leaf, flatten_succ, leaf]
    · obtain ⟨fuel, rfl⟩ := height.exists_succ leaf
      obtain ⟨found, bitless⟩ := resolves b m hb leaf
      have step : ∀ acc, ∀ i ∈ chainVisit mm m, chainStep bm mm (fuel + 1) b m acc i =
          .ok (acc ++ (flatten bm mm (fuel + 1) (childBlockOf bm mm b m i)
            (mm.configurableChild m i)).map FabricBit.ofConfigBit) := fun acc i hi => by
        rw [chainStep_of_found (found i hi)]
        exact chain_eq_ok_of_resolves resolves acc (hb.tail (.child leaf hi (found i hi).1))
          (height _ (findChildBlock_mem (found i hi).1))
      rw [chain_succ_of_parent leaf, foldlM_append _ _ step]
      simp [bitless, flatten_succ (fuel + 1), leaf, List.map_flatMap]

/-- Where names match along the walk, only blocks without children own bits and the
tree is within the fuel, the chain build returns and appends `flatten`. -/
theorem chain_eq_ok (agree : bm.ParentsAgree)
    (names : ∀ b m, ReflTransGen (WalkStep bm mm (chainVisit mm)) (top, topModule) (b, m) →
      bm.blockChildren b ≠ [] → NamesMatch bm mm (chainVisit mm) b m)
    (bitless : ∀ b, bm.blockChildren b ≠ [] → bm.blockBits b = []) :
    ∀ {fuel : Nat} {b : ConfigBlockId} {m : ModuleId} (fb : FabricBitstream),
      ReflTransGen (WalkStep bm mm (chainVisit mm)) (top, topModule) (b, m) →
      HeightAtMost bm fuel b →
      recBuildModuleFabricDependentChainBitstream bm mm (fuel + 1) b m fb =
        .ok (fb ++ (flatten bm mm (fuel + 1) b m).map FabricBit.ofConfigBit) :=
  chain_eq_ok_of_resolves fun b m hb parent =>
    ⟨fun _ hi => (names b m hb parent).childFound agree hi, bitless b parent⟩

end Walk

/-- Spec scenario A: top block `R` over the leaves `B`, owning bits valued 1 and 0, and
`C`, owning a bit valued 0. -/
def scenarioA : BitstreamManager :=
  ⟨[⟨"R", none, [1, 2], []⟩, ⟨"B", some 0, [], [0, 1]⟩, ⟨"C", some 0, [], [2]⟩],
    [true, false, false]⟩

/-- The modules of scenario A: the top module's configurable children are `B` and `C`. -/
def scenarioAModules : ModuleManager where
  configurableChildren m := if m = 0 then [1, 2] else []
  configurableChildInstances m := if m = 0 then [0, 0] else []
  instanceName _ child _ := if child = 1 then "B" else "C"
  findModulePort _ _ := none
  portWidth _ _ := 0
  findModule _ := some 0
  instances_aligned m := by by_cases h : m = 0 <;> simp [h]

example : (flatten scenarioA scenarioAModules scenarioA.depthFuel 0 0).map scenarioA.bitValue =
    [true, false, false] := rfl

/-- On any databases, cyclic module graphs included, the chain build is no deeper
than the block tree is tall: each call recurses only into a child block. -/
theorem chain_ne_outOfFuel : ∀ {fuel : Nat} {b : ConfigBlockId} (m : ModuleId) (fb : FabricBitstream),
    HeightAtMost bm fuel b →
      recBuildModuleFabricDependentChainBitstream bm mm (fuel + 1) b m fb ≠ .error .outOfFuel
  | fuel, b, m, fb, height => by
    by_cases leaf : bm.blockChildren b = []
    · simp [chain_succ_of_leaf leaf]
    · obtain ⟨fuel, rfl⟩ := height.exists_succ leaf
      rw [chain_succ_of_parent leaf]
      refine bind_ne_error (foldlM_ne_error _ _ fun acc i _ => ?_) fun _ _ =>
        bind_ne_error (vtrAssert_ne_outOfFuel .parentBlockBits (by decide)) fun _ _ => by simp
      refine bind_ne_error (fun h => by cases childBlock_error h) fun c hc => ?_
      exact chain_ne_outOfFuel _ _ (height c (findChildBlock_mem (childBlock_eq_ok.mp hc).1))

end OpenFpga
