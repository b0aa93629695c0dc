import OpenFpga.Bitstream.Walk

/-! Executable checks of the well-formedness conditions, each with the lemma that it is
sound, so that a concrete database is shown well formed by evaluation. `walkAll`
checks a condition at every block with children that the walk reaches. -/
namespace OpenFpga

open Relation BitstreamManager

namespace BitstreamManager

variable (bm : BitstreamManager)

/-- `ParentsAgree` on the blocks that exist; beyond them there are neither children
nor parents. -/
def parentsAgreeCheck : Bool :=
  (List.range bm.blocks.length).all (fun b => (bm.blockChildren b).all fun c => bm.blockParent c == some b) &&
    (List.range bm.blocks.length).all fun c =>
      match bm.blockParent c with
      | some p => (bm.blockChildren p).contains c
      | none => true

/-- Every block lies in the subtree of `top`. -/
def spanningCheck (top : ConfigBlockId) : Bool :=
  (List.range bm.blocks.length).all fun b => (bm.subtree bm.depthFuel top).contains b

instance decHeightAtMost : (h : Nat) → (b : ConfigBlockId) → Decidable (bm.HeightAtMost h b)
  | 0, b => inferInstanceAs (Decidable (bm.blockChildren b = []))
  | h + 1, b =>
    have := fun c => decHeightAtMost h c
    inferInstanceAs (Decidable (∀ c ∈ bm.blockChildren b, bm.HeightAtMost h c))

variable {bm}

theorem parentsAgree_of_check (h : bm.parentsAgreeCheck = true) : bm.ParentsAgree := by
  simp only [parentsAgreeCheck, Bool.and_eq_true, List.all_eq_true, List.mem_range] at h
  intro b c
  constructor
  · intro hc
    simpa using h.1 b (lt_of_blockChildren_ne_nil (List.ne_nil_of_mem hc)) c hc
  · intro hp
    simpa [hp] using h.2 c (lt_of_blockParent_eq_some hp)

theorem spanning_of_check {top : ConfigBlockId} (h : bm.spanningCheck top = true) :
    ∀ b < bm.blocks.length, ReflTransGen bm.ChildOf top b := fun b hb =>
  reach_of_mem_subtree (by simpa using List.all_eq_true.mp h b (List.mem_range.mpr hb))

end BitstreamManager

variable (bm : BitstreamManager) (mm : ModuleManager) (visit : ModuleId → List Nat)

/-- Whether `ok` holds at every block with child blocks that the walk from `(b, m)`
reaches within `fuel` calls. -/
def walkAll (ok : ConfigBlockId → ModuleId → Bool) : Nat → ConfigBlockId → ModuleId → Bool
  | 0, _, _ => false
  | fuel + 1, b, m => decide (bm.blockChildren b = []) || (ok b m && (visit m).all fun i =>
      match bm.findChildBlock b (mm.childInstanceName m i) with
      | some c => walkAll ok fuel c (mm.configurableChild m i)
      | none => true)

instance (b : ConfigBlockId) (m : ModuleId) : Decidable (NamesMatch bm mm visit b m) :=
  inferInstanceAs (Decidable (_ ∧ _))

/-- The conditions of `WellFormed`, evaluated. -/
def wellFormedCheck (top : ConfigBlockId) (topModule : ModuleId) : Bool :=
  bm.parentsAgreeCheck && bm.blockParent top == none && decide (top < bm.blocks.length) &&
    bm.spanningCheck top && bm.bits.all (fun c => bm.ownedBits.count c == 1) &&
    (List.range bm.blocks.length).all (fun b => bm.blockChildren b == [] || bm.blockBits b == []) &&
    walkAll bm mm visit (fun b m => decide (NamesMatch bm mm visit b m)) bm.depthFuel top topModule

variable {bm mm visit}

theorem walkAll_sound {ok : ConfigBlockId → ModuleId → Bool} {b' : ConfigBlockId} {m' : ModuleId}
    (parent : bm.blockChildren b' ≠ []) {p : ConfigBlockId × ModuleId}
    (h : ReflTransGen (WalkStep bm mm visit) p (b', m')) :
    ∀ {fuel : Nat}, walkAll bm mm visit ok fuel p.1 p.2 = true → ok b' m' = true := by
  induction h using ReflTransGen.head_induction_on with
  | refl =>
    rintro (_ | fuel) hw
    · cases hw
    · simp_all [walkAll]
  | head step _ ih =>
    obtain ⟨hb, hi, found⟩ := step
    rintro (_ | fuel) hw
    · cases hw
    · simp only [walkAll, hb, decide_False, Bool.false_or, Bool.and_eq_true, List.all_eq_true] at hw
      have next := hw.2 _ hi
      rw [found] at next
      exact ih next

/-- Only blocks that exist can have children, so `bitless` needs checking only there. -/
theorem bitless_of_valid (h : ∀ b < bm.blocks.length, bm.blockChildren b ≠ [] → bm.blockBits b = [])
    (b : ConfigBlockId) (hb : bm.blockChildren b ≠ []) : bm.blockBits b = [] :=
  h b (lt_of_blockChildren_ne_nil hb) hb

theorem wellFormed_of_check {top : ConfigBlockId} {topModule : ModuleId}
    (h : wellFormedCheck bm mm visit top topModule = true) : WellFormed bm mm visit top topModule := by
  simp only [wellFormedCheck, Bool.and_eq_true, beq_iff_eq, decide_eq_true_eq, List.all_eq_true,
    List.mem_range, Bool.or_eq_true] at h
  obtain ⟨⟨⟨⟨⟨⟨agree, root⟩, valid⟩, spanning⟩, owned⟩, bitless⟩, names⟩ := h
  exact ⟨parentsAgree_of_check agree, root, valid, spanning_of_check spanning, owned,
    bitless_of_valid fun b hb parent => (bitless b hb).resolve_left parent,
    fun b m hbm parent => by simpa using walkAll_sound parent hbm names⟩

end OpenFpga
