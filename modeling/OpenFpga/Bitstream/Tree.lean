import OpenFpga.Bitstream.Manager
import Mathlib.Logic.Relation
import Mathlib.Data.List.Perm.Subperm

/-! The block database as a tree. When children lists and the parent map agree and the
top block has no parent, the blocks below the top form a tree of finite height: no
block is its own descendant, and two blocks with a common descendant are one above the
other. The recursive builders only ever step from a block to one of its children, so
this is what bounds their depth. -/
namespace OpenFpga.BitstreamManager

open Relation

variable {bm : BitstreamManager}

/-- `c` is one of the child blocks of `b`. -/
def ChildOf (bm : BitstreamManager) (b c : ConfigBlockId) : Prop := c ∈ bm.blockChildren b

/-- Children lists and the parent map agree. -/
def ParentsAgree (bm : BitstreamManager) : Prop :=
  ∀ b c, c ∈ bm.blockChildren b ↔ bm.blockParent c = some b

/-- Every chain of child blocks leaving `b` has at most `h` steps. -/
def HeightAtMost (bm : BitstreamManager) : Nat → ConfigBlockId → Prop
  | 0, b => bm.blockChildren b = []
  | h + 1, b => ∀ c ∈ bm.blockChildren b, HeightAtMost bm h c

theorem HeightAtMost.succ : ∀ {h : Nat} {b : ConfigBlockId}, HeightAtMost bm h b → HeightAtMost bm (h + 1) b
  | 0, b, hb => by simp [HeightAtMost, show bm.blockChildren b = [] from hb]
  | _ + 1, _, hb => fun c hc => (hb c hc).succ

/-- A block with children is not within height `0`. -/
theorem HeightAtMost.exists_succ {h : Nat} {b : ConfigBlockId} (height : HeightAtMost bm h b)
    (parent : bm.blockChildren b ≠ []) : ∃ h', h = h' + 1 := by
  cases h with
  | zero => exact absurd height parent
  | succ h' => exact ⟨h', rfl⟩

theorem HeightAtMost.mono {h h' : Nat} {b : ConfigBlockId} (hb : HeightAtMost bm h b) (le : h ≤ h') :
    HeightAtMost bm h' b := by
  induction le with
  | refl => exact hb
  | step _ ih => exact ih.succ

/-- The fuel the model gives the recursive builders: one call more than there are
blocks, which bounds the height of the tree (`heightAtMost_blocks`). -/
def depthFuel (bm : BitstreamManager) : Nat := bm.blocks.length + 1

/-- Blocks of the subtree at `b`, `b` first; `fuel` bounds the depth. -/
def subtree (bm : BitstreamManager) : Nat → ConfigBlockId → List ConfigBlockId
  | 0, _ => []
  | fuel + 1, b => b :: (bm.blockChildren b).flatMap (bm.subtree fuel)

theorem reach_of_mem_subtree : ∀ {fuel : Nat} {b d : ConfigBlockId},
    d ∈ bm.subtree fuel b → ReflTransGen bm.ChildOf b d
  | 0, _, _, h => by simp [subtree] at h
  | fuel + 1, b, d, h => by
    simp only [subtree, List.mem_cons, List.mem_flatMap] at h
    rcases h with rfl | ⟨c, hc, hd⟩
    · exact .refl
    · exact ReflTransGen.head hc (reach_of_mem_subtree hd)

/-- Within the height bound, the subtree holds every descendant. -/
theorem mem_subtree : ∀ {fuel : Nat} {b d : ConfigBlockId},
    HeightAtMost bm fuel b → ReflTransGen bm.ChildOf b d → d ∈ bm.subtree (fuel + 1) b := by
  intro fuel b d height h
  rcases ReflTransGen.cases_head h with rfl | ⟨c, hc, hcd⟩
  · simp [subtree]
  · cases fuel with
    | zero => simp [HeightAtMost, show bm.blockChildren b = [] from height, ChildOf] at hc
    | succ fuel =>
      simp only [subtree, List.mem_cons, List.mem_flatMap]
      exact .inr ⟨c, hc, by simpa [subtree] using mem_subtree (height c hc) hcd⟩

section Agree

variable (agree : ParentsAgree bm)
include agree

theorem parent_of_child {b c : ConfigBlockId} (hc : bm.ChildOf b c) : bm.blockParent c = some b :=
  (agree b c).mp hc

theorem parent_unique {b b' c : ConfigBlockId} (hc : bm.ChildOf b c) (hc' : bm.ChildOf b' c) :
    b = b' := by
  simpa [parent_of_child agree hc] using parent_of_child agree hc'

theorem child_valid {b c : ConfigBlockId} (hc : bm.ChildOf b c) : c < bm.blocks.length :=
  lt_of_blockParent_eq_some (parent_of_child agree hc)

/-- Two blocks with a common descendant are one above the other. -/
theorem reach_linear {a b d : ConfigBlockId} (ha : ReflTransGen bm.ChildOf a d)
    (hb : ReflTransGen bm.ChildOf b d) : ReflTransGen bm.ChildOf a b ∨ ReflTransGen bm.ChildOf b a := by
  induction ha generalizing b with
  | refl => exact .inr hb
  | tail _ hpd ih =>
    rcases ReflTransGen.cases_tail hb with rfl | ⟨p', hbp', hp'd⟩
    · exact .inl (ReflTransGen.tail ‹_› hpd)
    · exact ih (parent_unique agree hp'd hpd ▸ hbp')

/-- A block reached from one of its siblings is that sibling, or lies on a cycle
through the parent. -/
theorem sibling_reach {b c c' : ConfigBlockId} (hc : bm.ChildOf b c) (hc' : bm.ChildOf b c')
    (h : ReflTransGen bm.ChildOf c c') : c = c' ∨ TransGen bm.ChildOf b b := by
  rcases ReflTransGen.cases_tail h with rfl | ⟨p, hcp, hpc'⟩
  · exact .inl rfl
  · exact .inr (TransGen.head' hc (parent_unique agree hpc' hc' ▸ hcp))

variable {top : ConfigBlockId} (root : bm.blockParent top = none)
include root

/-- No block below a top block without parent is its own descendant. -/
theorem acyclic {x : ConfigBlockId} (hx : ReflTransGen bm.ChildOf top x) :
    ¬ TransGen bm.ChildOf x x := by
  induction hx with
  | refl =>
    intro cyc
    obtain ⟨p, -, hp⟩ := TransGen.tail'_iff.mp cyc
    simp [parent_of_child agree hp] at root
  | tail _ hyx ih =>
    intro cyc
    obtain ⟨p, hxp, hpx⟩ := TransGen.tail'_iff.mp cyc
    exact ih (TransGen.head' hyx (parent_unique agree hpx hyx ▸ hxp))

/-- `p` lists the blocks of a chain of child steps leaving `b`. -/
def ChildPath (bm : BitstreamManager) : ConfigBlockId → List ConfigBlockId → Prop
  | _, [] => True
  | b, c :: p => bm.ChildOf b c ∧ ChildPath bm c p

omit agree root in
theorem ChildPath.reach : ∀ {b x : ConfigBlockId} {p : List ConfigBlockId},
    ChildPath bm b p → x ∈ p → TransGen bm.ChildOf b x
  | _, _, [], _, hx => by simp at hx
  | _, x, c :: p, ⟨hc, hp⟩, hx => by
    rcases List.mem_cons.mp hx with rfl | hx
    · exact .single hc
    · exact TransGen.head hc (hp.reach hx)

omit agree root in
/-- A block taller than `h` starts a chain of `h + 1` child steps. -/
theorem exists_path_of_not_heightAtMost :
    ∀ {h : Nat} {b : ConfigBlockId}, ¬ HeightAtMost bm h b →
      ∃ p, ChildPath bm b p ∧ p.length = h + 1
  | 0, b, hb => by
    obtain ⟨c, hc⟩ := List.exists_mem_of_ne_nil _ hb
    exact ⟨[c], ⟨hc, trivial⟩, rfl⟩
  | h + 1, b, hb => by
    simp only [HeightAtMost, not_forall] at hb
    obtain ⟨c, hc, hch⟩ := hb
    obtain ⟨p, hp, len⟩ := exists_path_of_not_heightAtMost hch
    exact ⟨c :: p, ⟨hc, hp⟩, by simp [len]⟩

theorem path_nodup : ∀ {b : ConfigBlockId} {p : List ConfigBlockId},
    ReflTransGen bm.ChildOf top b → ChildPath bm b p → (b :: p).Nodup
  | _, [], _, _ => List.nodup_singleton _
  | b, c :: p, hb, ⟨hc, hp⟩ => by
    refine List.nodup_cons.mpr ⟨fun mem => acyclic agree root hb ?_, path_nodup (hb.tail hc) hp⟩
    exact ChildPath.reach (p := c :: p) ⟨hc, hp⟩ mem

/-- The tree below the top block is no taller than the number of blocks. -/
theorem heightAtMost_blocks : HeightAtMost bm bm.blocks.length top := by
  by_contra tall
  obtain ⟨p, hp, len⟩ := exists_path_of_not_heightAtMost tall
  have valid : p ⊆ List.range bm.blocks.length := fun x hx => by
    obtain ⟨y, -, hyx⟩ := TransGen.tail'_iff.mp (hp.reach hx)
    exact List.mem_range.mpr (child_valid agree hyx)
  have := ((path_nodup agree root .refl hp).of_cons.subperm valid).length_le
  simp at this
  omega

/-- Below a top block without parent, a subtree lists each of its blocks once, as long
as every children list does. -/
theorem subtree_nodup (nodup : ∀ c, ReflTransGen bm.ChildOf top c → (bm.blockChildren c).Nodup) :
    ∀ {fuel : Nat} {b : ConfigBlockId}, ReflTransGen bm.ChildOf top b → (bm.subtree fuel b).Nodup
  | 0, _, _ => List.nodup_nil
  | fuel + 1, b, hb => by
    refine List.nodup_cons.mpr ⟨fun mem => ?_,
      List.nodup_flatMap.mpr ⟨fun c hc => subtree_nodup nodup (hb.tail hc), ?_⟩⟩
    · obtain ⟨c, hc, hbc⟩ := List.mem_flatMap.mp mem
      exact acyclic agree root hb (TransGen.head' hc (reach_of_mem_subtree hbc))
    · refine (nodup b hb).imp_of_mem fun hc hc' ne => ?_
      intro d hd hd'
      rcases reach_linear agree (reach_of_mem_subtree hd) (reach_of_mem_subtree hd') with h | h
      · exact (sibling_reach agree hc hc' h).elim ne (acyclic agree root hb)
      · exact (sibling_reach agree hc' hc h).elim (ne ∘ Eq.symm) (acyclic agree root hb)

/-- When every block hangs below the top block, the subtree of the top block lists
every block exactly once. -/
theorem subtree_perm_range (valid : top < bm.blocks.length)
    (spanning : ∀ b < bm.blocks.length, ReflTransGen bm.ChildOf top b)
    (nodup : ∀ c, ReflTransGen bm.ChildOf top c → (bm.blockChildren c).Nodup) :
    (bm.subtree bm.depthFuel top).Perm (List.range bm.blocks.length) := by
  refine (List.perm_ext_iff_of_nodup (subtree_nodup agree root nodup .refl)
    (List.nodup_range _)).mpr fun d => ?_
  rw [List.mem_range]
  constructor
  · intro hd
    rcases ReflTransGen.cases_tail (reach_of_mem_subtree hd) with rfl | ⟨p, -, hpd⟩
    · exact valid
    · exact child_valid agree hpd
  · exact fun hd => mem_subtree (heightAtMost_blocks agree root) (spanning d hd)

end Agree

end OpenFpga.BitstreamManager
