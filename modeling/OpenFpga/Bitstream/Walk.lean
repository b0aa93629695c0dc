import OpenFpga.Bitstream.Tree
import Mathlib.Data.List.Perm.Basic

/-! The walk both recursive builders make: in lock-step down the block tree and the
module graph, from a block with child blocks to the child block named after each
visited configurable child of the module. The chain builder visits every configurable
child, the frame builder all but a trailing decoder; `visit` says which.

`walkBits` collects the bits of the blocks without children that the walk reaches. When
the names match one to one wherever the walk meets a block with children, the walk
visits every block of the tree exactly once, so `walkBits` is a permutation of the bits
the blocks own (`walkBits_coversOnce`). -/
namespace OpenFpga

open Relation BitstreamManager
open scoped List

variable (bm : BitstreamManager) (mm : ModuleManager) (visit : ModuleId → List Nat)

/-- The block a builder visits for configurable child `i` of `m` under block `b`; `0`
stands in for a failed lookup, past which no builder goes. -/
def childBlockOf (b : ConfigBlockId) (m : ModuleId) (i : Nat) : ConfigBlockId :=
  (bm.findChildBlock b (mm.childInstanceName m i)).getD 0

/-- One step of the walk: from a block with child blocks and its module to the child
block named after a visited configurable child, and that child's module. -/
inductive WalkStep : ConfigBlockId × ModuleId → ConfigBlockId × ModuleId → Prop
  | child {b : ConfigBlockId} {m : ModuleId} {i : Nat} {c : ConfigBlockId} :
      bm.blockChildren b ≠ [] → i ∈ visit m →
      bm.findChildBlock b (mm.childInstanceName m i) = some c →
      WalkStep (b, m) (c, mm.configurableChild m i)

/-- The bits of the blocks without children that the walk from `(b, m)` reaches, in the
order it reaches them. -/
def walkBits : Nat → ConfigBlockId → ModuleId → List ConfigBitId
  | 0, _, _ => []
  | fuel + 1, b, m =>
    if bm.blockChildren b = [] then bm.blockBits b
    else (visit m).flatMap fun i =>
      walkBits fuel (childBlockOf bm mm b m i) (mm.configurableChild m i)

/-- At block `b` with module `m`, the instance names of the visited configurable
children are distinct and are the names of the child blocks, one to one. -/
def NamesMatch (b : ConfigBlockId) (m : ModuleId) : Prop :=
  ((visit m).map (mm.childInstanceName m)).Nodup ∧
    ((visit m).map (mm.childInstanceName m)).Perm ((bm.blockChildren b).map bm.blockName)

/-- The instance name of configurable child `i` of `m` finds, below `b`, the block the
walk goes to, and that block is valid: the lookup and the `valid_block_id` check both
builders make for the child pass. -/
def ChildFound (b : ConfigBlockId) (m : ModuleId) (i : Nat) : Prop :=
  bm.findChildBlock b (mm.childInstanceName m i) = some (childBlockOf bm mm b m i) ∧
    childBlockOf bm mm b m i < bm.blocks.length

/-- The input of the no-loss property: children lists and parents agree, every block
hangs below the top block, every bit of `bits()` is owned once (a block's bits are an
ordered set, so this is one occurrence among all blocks' bits), only blocks without
children own bits, and the names match wherever the walk from `(top, topModule)` meets
a block with children. -/
structure WellFormed (top : ConfigBlockId) (topModule : ModuleId) : Prop where
  agree : bm.ParentsAgree
  root : bm.blockParent top = none
  top_valid : top < bm.blocks.length
  spanning : ∀ b < bm.blocks.length, ReflTransGen bm.ChildOf top b
  owned_once : ∀ c ∈ bm.bits, bm.ownedBits.count c = 1
  bitless : ∀ b, bm.blockChildren b ≠ [] → bm.blockBits b = []
  names : ∀ b m, ReflTransGen (WalkStep bm mm visit) (top, topModule) (b, m) →
    bm.blockChildren b ≠ [] → NamesMatch bm mm visit b m

/-- A list of configuration bits that loses and repeats nothing: a permutation of the
bits the blocks own, in which each bit of `bits()` occurs exactly once. -/
def CoversOnce (l : List ConfigBitId) : Prop :=
  l.Perm bm.ownedBits ∧ ∀ c ∈ bm.bits, l.count c = 1

variable {bm mm visit}

theorem NamesMatch.found {b : ConfigBlockId} {m : ModuleId} (h : NamesMatch bm mm visit b m)
    {i : Nat} (hi : i ∈ visit m) : bm.findChildBlock b (mm.childInstanceName m i) = some (childBlockOf bm mm b m i) := by
  obtain ⟨c, hc, hname⟩ := List.mem_map.mp (h.2.subset (List.mem_map_of_mem _ hi))
  rw [← hname, findChildBlock_of_nodup (h.2.nodup_iff.mp h.1) hc]
  simp [childBlockOf, ← hname, findChildBlock_of_nodup (h.2.nodup_iff.mp h.1) hc]

/-- Where children lists and parents agree, a child that matching names find is valid. -/
theorem NamesMatch.childFound {b : ConfigBlockId} {m : ModuleId} (h : NamesMatch bm mm visit b m)
    (agree : bm.ParentsAgree) {i : Nat} (hi : i ∈ visit m) : ChildFound bm mm b m i :=
  ⟨h.found hi, child_valid agree (findChildBlock_mem (h.found hi))⟩

/-- Matching names make the visited children a permutation of the child blocks. -/
theorem NamesMatch.perm {b : ConfigBlockId} {m : ModuleId} (h : NamesMatch bm mm visit b m) :
    ((visit m).map (childBlockOf bm mm b m)).Perm (bm.blockChildren b) := by
  have lookup : ∀ c ∈ bm.blockChildren b, (bm.findChildBlock b (bm.blockName c)).getD 0 = c :=
    fun c hc => by simp [findChildBlock_of_nodup (h.2.nodup_iff.mp h.1) hc]
  calc (visit m).map (childBlockOf bm mm b m)
      = ((visit m).map (mm.childInstanceName m)).map fun n => (bm.findChildBlock b n).getD 0 := by
        simp [childBlockOf, Function.comp_def]
    _ ~ ((bm.blockChildren b).map bm.blockName).map fun n => (bm.findChildBlock b n).getD 0 :=
        h.2.map _
    _ = bm.blockChildren b := by
        rw [List.map_map]
        exact (List.map_congr_left lookup).trans (List.map_id _)

variable {top : ConfigBlockId} {topModule : ModuleId}

/-- Along a walk where names match and only blocks without children own bits, the walk
from `(b, m)` collects, up to order, the bits of the whole subtree at `b`. -/
theorem walkBits_perm_subtree
    (names : ∀ b m, ReflTransGen (WalkStep bm mm visit) (top, topModule) (b, m) →
      bm.blockChildren b ≠ [] → NamesMatch bm mm visit b m)
    (bitless : ∀ b, bm.blockChildren b ≠ [] → bm.blockBits b = []) :
    ∀ {fuel : Nat} {b : ConfigBlockId} {m : ModuleId},
      ReflTransGen (WalkStep bm mm visit) (top, topModule) (b, m) →
      walkBits bm mm visit fuel b m ~ (bm.subtree fuel b).flatMap bm.blockBits
  | 0, _, _, _ => by simp [walkBits, subtree]
  | fuel + 1, b, m, hb => by
    by_cases leaf : bm.blockChildren b = []
    · simp [walkBits, subtree, leaf]
    · have hn := names b m hb leaf
      have step : ∀ i ∈ visit m,
          walkBits bm mm visit fuel (childBlockOf bm mm b m i) (mm.configurableChild m i) ~
            (bm.subtree fuel (childBlockOf bm mm b m i)).flatMap bm.blockBits :=
        fun i hi => walkBits_perm_subtree names bitless (hb.tail (.child leaf hi (hn.found hi)))
      simp only [walkBits, subtree, leaf, ↓reduceIte, List.flatMap_cons, bitless b leaf,
        List.nil_append, List.flatMap_assoc]
      calc _ ~ (visit m).flatMap fun i =>
              (bm.subtree fuel (childBlockOf bm mm b m i)).flatMap bm.blockBits :=
            List.Perm.flatMap_left _ step
        _ = ((visit m).map (childBlockOf bm mm b m)).flatMap fun c =>
              (bm.subtree fuel c).flatMap bm.blockBits := by rw [List.flatMap_map]
        _ ~ _ := hn.perm.flatMap_right _

namespace WellFormed

variable (wf : WellFormed bm mm visit top topModule)
include wf

/-- The walk reaches every block of the tree. -/
theorem walk_reaches {c : ConfigBlockId} (hc : ReflTransGen bm.ChildOf top c) :
    ∃ m, ReflTransGen (WalkStep bm mm visit) (top, topModule) (c, m) := by
  induction hc with
  | refl => exact ⟨topModule, .refl⟩
  | tail _ hpc ih =>
    obtain ⟨m, hm⟩ := ih
    have leaf : bm.blockChildren _ ≠ [] := List.ne_nil_of_mem hpc
    have hn := wf.names _ m hm leaf
    obtain ⟨i, hi, rfl⟩ := List.mem_map.mp (hn.perm.symm.subset hpc)
    exact ⟨_, hm.tail (.child leaf hi (hn.found hi))⟩

theorem children_nodup {c : ConfigBlockId} (hc : ReflTransGen bm.ChildOf top c) :
    (bm.blockChildren c).Nodup := by
  by_cases leaf : bm.blockChildren c = []
  · simp [leaf]
  · obtain ⟨m, hm⟩ := wf.walk_reaches hc
    have hn := wf.names c m hm leaf
    exact List.Nodup.of_map bm.blockName (hn.2.nodup_iff.mp hn.1)

/-- With fuel above the height bound, the walk from the top collects every owned bit
exactly once. -/
theorem walkBits_coversOnce :
    CoversOnce bm (walkBits bm mm visit bm.depthFuel top topModule) := by
  have perm := (walkBits_perm_subtree wf.names wf.bitless .refl).trans
    ((subtree_perm_range wf.agree wf.root wf.top_valid wf.spanning
      fun _ hc => wf.children_nodup hc).flatMap_right bm.blockBits)
  exact ⟨perm, fun c hc => (perm.count_eq c).trans (wf.owned_once c hc)⟩

end WellFormed

end OpenFpga
