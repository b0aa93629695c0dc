import OpenFpga.Bitstream.Chain
import Mathlib.Algebra.Group.Nat.Basic

/-! `rec_build_module_fabric_dependent_frame_bitstream`, the builder of the frame-based
protocol. It walks like the chain builder, but below a module with two or more
configurable children it skips the trailing decoder and extends the address with the
child's index in binary, as wide as the decoder's address port.

`frameBits` is the output the spec describes. A frame build that returns has appended
it (`frame_eq_of_ok`); on a well-formed input without a lone decoder it returns
(`frame_eq_ok`); and a module with exactly two configurable children, one child next to
a decoder, fails the builder's `2 < num_configurable_children` check
(`frameDecoder_of_two`). The config bits it emits are those the walk that skips
decoders collects (`frameBits_configBit`). It only appends: given a longer bitstream it
returns the same new bits after it, or fails the same way (`frame_appends`), since the
address and data input it sets go to the bit `add_bit` has just returned. -/
namespace OpenFpga

open Relation BitstreamManager

/-- The `w` binary digits of `n`, most significant first. -/
def binaryDigits : Nat → Nat → List Nat
  | 0, _ => []
  | w + 1, n => binaryDigits w (n / 2) ++ [n % 2]

/-- Modelled from the spec: `itobin_vec` (§4.4 AddressEncoder) is in openfpgautil, not
among the sources. The `binLen`-digit binary form of `inInt`, most significant digit
first; it fails when `inInt` does not fit. -/
def itobinVec (inInt binLen : Nat) : Except Abort (List Nat) :=
  if inInt < 2 ^ binLen then pure (binaryDigits binLen inInt) else throw .addressOverflow

/-- Modelled from the spec: the name of a decoder's address port (§4.3, "a named
address port"); openfpga_reserved_words.h is not among the sources. -/
def decoderAddressPortName : String := "address"

variable (bm : BitstreamManager) (mm : ModuleManager)

/-- How the frame builder treats a module with configurable children: with one child,
no decoder and that child; otherwise the trailing child is the decoder and the others
are visited, which the builder checks are more than one. -/
def frameDecoder (parentModule : ModuleId) : Except Abort (Option ModuleId × Nat) :=
  let numConfigurableChildren := (mm.configurableChildren parentModule).length
  if numConfigurableChildren = 1 then pure (none, numConfigurableChildren)
  else do
    vtrAssert (2 < numConfigurableChildren) .decoderChildren
    pure (some ((mm.configurableChildren parentModule).getLastD 0), numConfigurableChildren - 1)

/-- The address passed to configurable child `childId`: unchanged without a decoder,
otherwise extended by `itobin_vec(childId, w)` for the width `w` of the decoder's
address port, each bit checked to be 0 or 1. -/
def childAddrCode (decoderModule : Option ModuleId) (childId : Nat) (addrCode : List Bool) :
    Except Abort (List Bool) :=
  match decoderModule with
  | none => pure addrCode
  | some decoderModule => do
    let width ← mm.modulePortWidth decoderModule decoderAddressPortName
    let addrBitsVec ← itobinVec childId width
    addrBitsVec.foldlM (fun childAddrCode bit => do
      vtrAssert (bit = 0 ∨ bit = 1) .addressBit
      pure (childAddrCode ++ [bit != 0])) addrCode

/-- The closing loop of the frame builder: a fabric bit for each bit of the block,
addressed with `addrCode` and with the bit's value as data input. -/
def emitFrameBits (block : ConfigBlockId) (addrCode : List Bool) (fabricBitstream : FabricBitstream) :
    FabricBitstream :=
  (bm.blockBits block).foldl (fun fabricBitstream c =>
    let (fabricBitstream, fabricBit) := fabricBitstream.addBit c
    (fabricBitstream.setBitAddress fabricBit addrCode).setBitDin fabricBit (bm.bitValue c))
    fabricBitstream

/-- `rec_build_module_fabric_dependent_frame_bitstream`. The current block and module
are the last of `parentBlocks` and `parentModules`. A block with child blocks but a
module without configurable children returns at once. -/
def recBuildModuleFabricDependentFrameBitstream :
    Nat → List ConfigBlockId → List ModuleId → List Bool → FabricBitstream →
      Except Abort FabricBitstream
  | 0, _, _, _, _ => throw .outOfFuel
  | fuel + 1, parentBlocks, parentModules, addrCode, fabricBitstream =>
    let parentBlock := parentBlocks.getLastD 0
    let parentModule := parentModules.getLastD 0
    if 0 < (bm.blockChildren parentBlock).length then
      if (mm.configurableChildren parentModule).length = 0 then pure fabricBitstream
      else do
        let (decoderModule, numConfigurableChildren) ← frameDecoder mm parentModule
        let fabricBitstream ← (List.range numConfigurableChildren).foldlM
          (fun fabricBitstream childId => do
            let childModule := (mm.configurableChildren parentModule).getD childId 0
            let childInstance := (mm.configurableChildInstances parentModule).getD childId 0
            let instanceName := mm.instanceName parentModule childModule childInstance
            let childBlock ← bm.childBlock parentBlock instanceName
            let childAddrCode ← childAddrCode mm decoderModule childId addrCode
            recBuildModuleFabricDependentFrameBitstream fuel (parentBlocks ++ [childBlock])
              (parentModules ++ [childModule]) childAddrCode fabricBitstream)
          fabricBitstream
        vtrAssert (0 = (bm.blockBits parentBlock).length) .parentBlockBits
        pure (emitFrameBits bm parentBlock addrCode fabricBitstream)
    else pure (emitFrameBits bm parentBlock addrCode fabricBitstream)

/-- One turn of the frame builder's loop over configurable children. -/
def frameStep (fuel : Nat) (parentBlocks : List ConfigBlockId) (parentModules : List ModuleId)
    (addrCode : List Bool) (decoderModule : Option ModuleId) (fabricBitstream : FabricBitstream)
    (childId : Nat) : Except Abort FabricBitstream := do
  let childBlock ← bm.childBlock (parentBlocks.getLastD 0)
    (mm.childInstanceName (parentModules.getLastD 0) childId)
  let childAddrCode ← childAddrCode mm decoderModule childId addrCode
  recBuildModuleFabricDependentFrameBitstream bm mm fuel (parentBlocks ++ [childBlock])
    (parentModules ++ [mm.configurableChild (parentModules.getLastD 0) childId]) childAddrCode
    fabricBitstream

/-- The frame builder visits all configurable children but a trailing decoder, which
a module with two or more of them has. -/
def frameVisit (m : ModuleId) : List Nat :=
  let n := (mm.configurableChildren m).length
  List.range (if n < 2 then n else n - 1)

/-- The width of the address port of the last configurable child of `m`. -/
def decoderAddressWidth (m : ModuleId) : Nat :=
  let decoder := (mm.configurableChildren m).getLastD 0
  match mm.findModulePort decoder decoderAddressPortName with
  | some p => mm.portWidth decoder p
  | none => 0

/-- The address bits a level adds for child `i`: none below a module with one
configurable child, otherwise `i` in binary on the decoder's address width. -/
def levelAddress (m : ModuleId) (i : Nat) : List Bool :=
  if (mm.configurableChildren m).length < 2 then []
  else (binaryDigits (decoderAddressWidth mm m) i).map (· != 0)

/-- The frame output of the spec (§4.3): depth first over the visited configurable
children, one fabric bit for each bit of each block without child blocks, addressed by
the concatenated level addresses of its path and carrying the bit's value. -/
def frameBits : Nat → ConfigBlockId → ModuleId → List Bool → List FabricBit
  | 0, _, _, _ => []
  | fuel + 1, b, m, addr =>
    if bm.blockChildren b = [] then (bm.blockBits b).map fun c => ⟨c, addr, bm.bitValue c⟩
    else (frameVisit mm m).flatMap fun i =>
      frameBits fuel (childBlockOf bm mm b m i) (mm.configurableChild m i) (addr ++ levelAddress mm m i)

variable {bm mm}

section Address

theorem binaryDigits_length : ∀ (w n : Nat), (binaryDigits w n).length = w
  | 0, _ => rfl
  | w + 1, n => by simp [binaryDigits, binaryDigits_length w]

theorem binaryDigits_lt_two : ∀ {w n d : Nat}, d ∈ binaryDigits w n → d < 2
  | 0, _, _, h => by simp [binaryDigits] at h
  | w + 1, n, d, h => by
    rcases List.mem_append.mp h with h | h
    · exact binaryDigits_lt_two h
    · rw [List.mem_singleton.mp h]; exact Nat.mod_lt _ (by decide)

/-- Indices that fit in `w` bits get distinct addresses. -/
theorem binaryAddress_injective : ∀ {w n n' : Nat}, n < 2 ^ w → n' < 2 ^ w →
    (binaryDigits w n).map (· != 0) = (binaryDigits w n').map (· != 0) → n = n'
  | 0, n, n', hn, hn', _ => by simp at hn hn'; omega
  | w + 1, n, n', hn, hn', h => by
    simp only [binaryDigits, List.map_append, List.map_cons, List.map_nil] at h
    obtain ⟨high, low⟩ := List.append_inj' h rfl
    rw [Nat.pow_succ] at hn hn'
    have := binaryAddress_injective (by omega) (by omega) high
    have : n % 2 = n' % 2 := by
      simp only [List.cons.injEq, and_true] at low
      rcases Nat.mod_two_eq_zero_or_one n with h0 | h0 <;>
        rcases Nat.mod_two_eq_zero_or_one n' with h1 | h1 <;> simp_all
    omega

theorem itobinVec_eq_ok {n w : Nat} {v : List Nat} :
    itobinVec n w = .ok v ↔ n < 2 ^ w ∧ v = binaryDigits w n := by
  unfold itobinVec
  split <;> simp_all [throw, throwThe, MonadExceptOf.throw, eq_comm]

theorem addressLoop_eq (addr : List Bool) (v : List Nat) (digits : ∀ d ∈ v, d < 2) :
    v.foldlM (fun childAddrCode bit => do
        vtrAssert (bit = 0 ∨ bit = 1) Abort.addressBit
        pure (childAddrCode ++ [bit != 0])) addr = .ok (addr ++ v.map (· != 0)) := by
  rw [@foldlM_append _ _ _ (fun bit => [bit != 0]) v addr fun acc d hd => by
    simp [vtrAssert_pos (show d = 0 ∨ d = 1 by have := digits d hd; omega)]]
  rw [List.map_eq_flatMap]

theorem childAddrCode_some_eq_ok {d : ModuleId} {i : Nat} {addr r : List Bool}
    (h : childAddrCode mm (some d) i addr = .ok r) :
    ∃ p, mm.findModulePort d decoderAddressPortName = some p ∧ i < 2 ^ mm.portWidth d p ∧
      r = addr ++ (binaryDigits (mm.portWidth d p) i).map (· != 0) := by
  simp only [childAddrCode, ModuleManager.modulePortWidth] at h
  cases hp : mm.findModulePort d decoderAddressPortName with
  | none => simp [hp, throw, throwThe, MonadExceptOf.throw] at h
  | some p =>
    simp only [hp, pure_bind] at h
    obtain ⟨v, hv, hloop⟩ := bind_eq_ok.mp h
    obtain ⟨fits, rfl⟩ := itobinVec_eq_ok.mp hv
    rw [addressLoop_eq _ _ fun _ => binaryDigits_lt_two] at hloop
    exact ⟨p, rfl, fits, (Except.ok.inj hloop).symm⟩

theorem childAddrCode_some_of_lt {d : ModuleId} {p : ModulePortId} {i : Nat} (addr : List Bool)
    (hp : mm.findModulePort d decoderAddressPortName = some p) (fits : i < 2 ^ mm.portWidth d p) :
    childAddrCode mm (some d) i addr =
      .ok (addr ++ (binaryDigits (mm.portWidth d p) i).map (· != 0)) := by
  simp only [childAddrCode, ModuleManager.modulePortWidth, hp, pure_bind,
    itobinVec_eq_ok.mpr ⟨fits, rfl⟩, ok_bind]
  exact addressLoop_eq _ _ fun _ => binaryDigits_lt_two

theorem childAddrCode_ne_outOfFuel (dec : Option ModuleId) (i : Nat) (addr : List Bool) :
    childAddrCode mm dec i addr ≠ .error .outOfFuel := by
  cases dec with
  | none => simp [childAddrCode]
  | some d =>
    simp only [childAddrCode, ModuleManager.modulePortWidth]
    refine bind_ne_error (by split <;> simp [throw, throwThe, MonadExceptOf.throw]) fun w _ =>
      bind_ne_error (by unfold itobinVec; split <;> simp [throw, throwThe, MonadExceptOf.throw])
        fun v _ => foldlM_ne_error _ _ fun _ _ _ =>
          bind_ne_error (vtrAssert_ne_outOfFuel .addressBit (by decide)) fun _ _ => by simp

end Address

/-- At a module with two or more configurable children, the last one has an address
port wide enough to number the others. -/
def DecoderFits (mm : ModuleManager) (m : ModuleId) : Prop :=
  2 ≤ (mm.configurableChildren m).length →
    ∃ p, mm.findModulePort ((mm.configurableChildren m).getLastD 0) decoderAddressPortName = some p ∧
      (mm.configurableChildren m).length - 1 ≤
        2 ^ mm.portWidth ((mm.configurableChildren m).getLastD 0) p

section Decoder

variable {m : ModuleId}

/-- A decoder check that passes visits `frameVisit` and extends addresses by
`levelAddress`. -/
theorem frameDecoder_eq_ok {dec : Option ModuleId} {n : Nat} (h : frameDecoder mm m = .ok (dec, n)) :
    List.range n = frameVisit mm m ∧
      ∀ {i : Nat} {addr r : List Bool}, childAddrCode mm dec i addr = .ok r →
        r = addr ++ levelAddress mm m i ∧
          ((mm.configurableChildren m).length < 2 ∨ i < 2 ^ decoderAddressWidth mm m) := by
  dsimp only [frameDecoder] at h
  split at h
  · cases h
    refine ⟨by simp [frameVisit, *], fun hr => ?_⟩
    simp_all [childAddrCode, levelAddress]
  · obtain ⟨⟨⟩, hassert, hp⟩ := bind_eq_ok.mp h
    have many : ¬ (mm.configurableChildren m).length < 2 := by
      have := vtrAssert_eq_ok.mp hassert
      omega
    cases hp
    refine ⟨by simp [frameVisit, many], fun hr => ?_⟩
    obtain ⟨p, hp, fits, rfl⟩ := childAddrCode_some_eq_ok hr
    simp [levelAddress, decoderAddressWidth, hp, fits, many, -List.getLastD_eq_getLast?]

/-- With one configurable child, or more than two and a decoder that fits, the decoder
check passes and every visited child gets its level address. -/
theorem frameDecoder_of_fits (fits : DecoderFits mm m) (configured : mm.configurableChildren m ≠ [])
    (notTwo : (mm.configurableChildren m).length ≠ 2) :
    ∃ dec n, frameDecoder mm m = .ok (dec, n) ∧ List.range n = frameVisit mm m ∧
      ∀ i ∈ frameVisit mm m, ∀ addr, childAddrCode mm dec i addr = .ok (addr ++ levelAddress mm m i) := by
  have := List.length_pos.mpr configured
  by_cases one : (mm.configurableChildren m).length = 1
  · refine ⟨none, 1, by simp [frameDecoder, one], by simp [frameVisit, one], fun i _ addr => ?_⟩
    simp [childAddrCode, levelAddress, one]
  · obtain ⟨p, hp, wide⟩ := fits (by omega)
    have many : ¬ (mm.configurableChildren m).length < 2 := by omega
    refine ⟨some ((mm.configurableChildren m).getLastD 0), (mm.configurableChildren m).length - 1,
      ?_, by simp [frameVisit, many], fun i hi addr => ?_⟩
    · simp [frameDecoder, one, vtrAssert_pos (show 2 < (mm.configurableChildren m).length by omega),
        -List.getLastD_eq_getLast?]
    · have : i < (mm.configurableChildren m).length - 1 := by simpa [frameVisit, many] using hi
      rw [childAddrCode_some_of_lt addr hp (by omega)]
      simp [levelAddress, decoderAddressWidth, hp, many, -List.getLastD_eq_getLast?]

/-- A decoder check that passes on two or more configurable children found more than
two, takes the last as the decoder and numbers the others. -/
theorem frameDecoder_eq_ok_of_many {dec : Option ModuleId} {n : Nat}
    (h : frameDecoder mm m = .ok (dec, n)) (many : 2 ≤ (mm.configurableChildren m).length) :
    2 < (mm.configurableChildren m).length ∧ dec = some ((mm.configurableChildren m).getLastD 0) ∧
      n = (mm.configurableChildren m).length - 1 := by
  dsimp only [frameDecoder] at h
  rw [if_neg (by omega)] at h
  obtain ⟨⟨⟩, hassert, hp⟩ := bind_eq_ok.mp h
  cases hp
  exact ⟨vtrAssert_eq_ok.mp hassert, rfl, rfl⟩

theorem configured_of_mem_frameVisit {i : Nat} (hi : i ∈ frameVisit mm m) :
    mm.configurableChildren m ≠ [] := fun h => by simp [frameVisit, h] at hi

/-- One configurable child next to a decoder fails the decoder check. -/
theorem frameDecoder_of_two (two : (mm.configurableChildren m).length = 2) :
    frameDecoder mm m = .error .decoderChildren := by
  simp [frameDecoder, two, vtrAssert, throw, throwThe, MonadExceptOf.throw]

theorem frameDecoder_ne_outOfFuel : frameDecoder mm m ≠ .error .outOfFuel := by
  dsimp only [frameDecoder]
  split
  · simp
  · exact bind_ne_error (vtrAssert_ne_outOfFuel .decoderChildren (by decide))
      fun _ _ => by simp

end Decoder

theorem emitFrameBits_eq (b : ConfigBlockId) (addr : List Bool) (fb : FabricBitstream) :
    emitFrameBits bm b addr fb = fb ++ (bm.blockBits b).map fun c => ⟨c, addr, bm.bitValue c⟩ := by
  unfold emitFrameBits
  induction bm.blockBits b generalizing fb with
  | nil => simp
  | cons c bits ih =>
    rw [List.foldl_cons, ih]
    simp [FabricBitstream.addBit_set]

section Unfold

variable {fuel : Nat} {bs : List ConfigBlockId} {ms : List ModuleId} {addr : List Bool}
  {fb : FabricBitstream}

theorem frame_succ_of_leaf (leaf : bm.blockChildren (bs.getLastD 0) = []) :
    recBuildModuleFabricDependentFrameBitstream bm mm (fuel + 1) bs ms addr fb =
      .ok (fb ++ (bm.blockBits (bs.getLastD 0)).map fun c => ⟨c, addr, bm.bitValue c⟩) := by
  simp [recBuildModuleFabricDependentFrameBitstream, leaf, emitFrameBits_eq, -List.getLastD_eq_getLast?]

theorem frame_succ_of_unconfigured (parent : bm.blockChildren (bs.getLastD 0) ≠ [])
    (unconfigured : mm.configurableChildren (ms.getLastD 0) = []) :
    recBuildModuleFabricDependentFrameBitstream bm mm (fuel + 1) bs ms addr fb = .ok fb := by
  simp [recBuildModuleFabricDependentFrameBitstream, List.length_pos.mpr parent, unconfigured,
    -List.getLastD_eq_getLast?]

theorem frame_succ_of_parent (parent : bm.blockChildren (bs.getLastD 0) ≠ [])
    (configured : mm.configurableChildren (ms.getLastD 0) ≠ []) :
    recBuildModuleFabricDependentFrameBitstream bm mm (fuel + 1) bs ms addr fb = (do
      let (dec, n) ← frameDecoder mm (ms.getLastD 0)
      let fb ← (List.range n).foldlM (frameStep bm mm fuel bs ms addr dec) fb
      vtrAssert (0 = (bm.blockBits (bs.getLastD 0)).length) .parentBlockBits
      pure (fb ++ (bm.blockBits (bs.getLastD 0)).map fun c => ⟨c, addr, bm.bitValue c⟩)) := by
  simp only [recBuildModuleFabricDependentFrameBitstream, List.length_pos.mpr parent, ↓reduceIte,
    List.length_eq_zero, configured, emitFrameBits_eq]
  rfl

/-- A frame build at a block with children and a configured module that returns has
decoded the module, run its loop over the visited children, and found the block
without bits of its own. -/
theorem frame_succ_of_parent_eq_ok (parent : bm.blockChildren (bs.getLastD 0) ≠ [])
    (configured : mm.configurableChildren (ms.getLastD 0) ≠ []) {r : FabricBitstream}
    (h : recBuildModuleFabricDependentFrameBitstream bm mm (fuel + 1) bs ms addr fb = .ok r) :
    ∃ dec n, frameDecoder mm (ms.getLastD 0) = .ok (dec, n) ∧
      (List.range n).foldlM (frameStep bm mm fuel bs ms addr dec) fb = .ok r ∧
      bm.blockBits (bs.getLastD 0) = [] := by
  rw [frame_succ_of_parent parent configured] at h
  obtain ⟨⟨dec, n⟩, hdec, h⟩ := bind_eq_ok.mp h
  obtain ⟨fb', hloop, h⟩ := bind_eq_ok.mp h
  obtain ⟨⟨⟩, hbits, h⟩ := bind_eq_ok.mp h
  have bitless := List.eq_nil_of_length_eq_zero (vtrAssert_eq_ok.mp hbits).symm
  simp only [bitless, List.map_nil, List.append_nil, except_pure, Except.ok.injEq] at h
  exact ⟨dec, n, hdec, h ▸ hloop, bitless⟩

theorem frameStep_eq_ok {dec : Option ModuleId} {acc r : FabricBitstream} {i : Nat}
    (h : frameStep bm mm fuel bs ms addr dec acc i = .ok r) :
    ChildFound bm mm (bs.getLastD 0) (ms.getLastD 0) i ∧
      ∃ a, childAddrCode mm dec i addr = .ok a ∧
        recBuildModuleFabricDependentFrameBitstream bm mm fuel
          (bs ++ [childBlockOf bm mm (bs.getLastD 0) (ms.getLastD 0) i])
          (ms ++ [mm.configurableChild (ms.getLastD 0) i]) a acc = .ok r := by
  obtain ⟨c, hc, h⟩ := bind_eq_ok.mp h
  obtain ⟨found, valid⟩ := childBlock_eq_ok.mp hc
  obtain rfl : childBlockOf bm mm (bs.getLastD 0) (ms.getLastD 0) i = c := by
    simp only [childBlockOf, found, Option.getD_some]
  exact ⟨⟨found, valid⟩, bind_eq_ok.mp h⟩

theorem frameStep_of_found {dec : Option ModuleId} {acc : FabricBitstream} {i : Nat} {a : List Bool}
    (found : ChildFound bm mm (bs.getLastD 0) (ms.getLastD 0) i) (ha : childAddrCode mm dec i addr = .ok a) :
    frameStep bm mm fuel bs ms addr dec acc i =
      recBuildModuleFabricDependentFrameBitstream bm mm fuel
        (bs ++ [childBlockOf bm mm (bs.getLastD 0) (ms.getLastD 0) i])
        (ms ++ [mm.configurableChild (ms.getLastD 0) i]) a acc := by
  simp [frameStep, childBlock_eq_ok.mpr found, ha, -List.getLastD_eq_getLast?]

end Unfold

section Append

variable (pre : FabricBitstream)

/-- The frame build only appends to the fabric bitstream it is given: the address and
data input it sets go to the bits it has just added. -/
theorem frame_appends : ∀ (fuel : Nat) (bs : List ConfigBlockId) (ms : List ModuleId) (addr : List Bool)
    (fb : FabricBitstream),
    recBuildModuleFabricDependentFrameBitstream bm mm fuel bs ms addr (pre ++ fb) =
      (recBuildModuleFabricDependentFrameBitstream bm mm fuel bs ms addr fb).map (pre ++ ·)
  | 0, _, _, _, _ => rfl
  | fuel + 1, bs, ms, addr, fb => by
    by_cases leaf : bm.blockChildren (bs.getLastD 0) = []
    · simp [frame_succ_of_leaf leaf, Except.map, -List.getLastD_eq_getLast?]
    · by_cases unconfigured : mm.configurableChildren (ms.getLastD 0) = []
      · simp [frame_succ_of_unconfigured leaf unconfigured, Except.map]
      · rw [frame_succ_of_parent leaf unconfigured, frame_succ_of_parent leaf unconfigured]
        cases frameDecoder mm (ms.getLastD 0) with
        | error e => rfl
        | ok decoded =>
          obtain ⟨dec, n⟩ := decoded
          have step : ∀ acc, ∀ i ∈ List.range n, frameStep bm mm fuel bs ms addr dec (pre ++ acc) i =
              (frameStep bm mm fuel bs ms addr dec acc i).map (pre ++ ·) := fun acc i _ => by
            simp only [frameStep]
            cases bm.childBlock (bs.getLastD 0) (mm.childInstanceName (ms.getLastD 0) i) with
            | error e => rfl
            | ok c =>
              simp only [ok_bind]
              cases childAddrCode mm dec i addr with
              | error e => rfl
              | ok a => exact frame_appends fuel _ _ a acc
          simp only [ok_bind]
          rw [foldlM_prepend pre _ fb step]
          cases (List.range n).foldlM (frameStep bm mm fuel bs ms addr dec) fb with
          | error e => rfl
          | ok r =>
            simp only [ok_bind, vtrAssert]
            split
            · simp [Except.map]
            · rfl

end Append

/-- A frame build that returns has appended `frameBits`. -/
theorem frame_eq_of_ok : ∀ {fuel : Nat} {bs : List ConfigBlockId} {ms : List ModuleId}
    {addr : List Bool} {fb r : FabricBitstream},
    recBuildModuleFabricDependentFrameBitstream bm mm fuel bs ms addr fb = .ok r →
      r = fb ++ frameBits bm mm fuel (bs.getLastD 0) (ms.getLastD 0) addr
  | 0, _, _, _, _, _, h => by cases h
  | fuel + 1, bs, ms, addr, fb, r, h => by
    by_cases leaf : bm.blockChildren (bs.getLastD 0) = []
    · rw [frame_succ_of_leaf leaf] at h
      cases h
      simp [frameBits, leaf, -List.getLastD_eq_getLast?]
    · by_cases unconfigured : mm.configurableChildren (ms.getLastD 0) = []
      · rw [frame_succ_of_unconfigured leaf unconfigured] at h
        cases h
        simp [frameBits, leaf, frameVisit, unconfigured, -List.getLastD_eq_getLast?]
      · obtain ⟨dec, n, hdec, hloop, -⟩ := frame_succ_of_parent_eq_ok leaf unconfigured h
        obtain ⟨visit, addrs⟩ := frameDecoder_eq_ok hdec
        rw [frameBits, if_neg leaf, ← visit]
        refine eq_of_foldlM_ok (fun acc r i _ step => ?_) hloop
        obtain ⟨-, a, ha, hrec⟩ := frameStep_eq_ok step
        rw [frame_eq_of_ok hrec, (addrs ha).1, List.getLastD_concat, List.getLastD_concat]

section Walk

variable {top : ConfigBlockId} {topModule : ModuleId}

/-- Where every check the frame builder makes passes along its walk from
`(top, topModule)`: at each block with child blocks under a module with configurable
children, the module has no lone decoder, its decoder numbers the other children, each
visited child is found, and the block owns no bits. Below a module without configurable
children the builder checks nothing. -/
def FrameResolves (bm : BitstreamManager) (mm : ModuleManager) (top : ConfigBlockId)
    (topModule : ModuleId) : Prop :=
  ∀ b m, ReflTransGen (WalkStep bm mm (frameVisit mm)) (top, topModule) (b, m) →
    bm.blockChildren b ≠ [] → mm.configurableChildren m ≠ [] →
      (mm.configurableChildren m).length ≠ 2 ∧ DecoderFits mm m ∧
        (∀ i ∈ frameVisit mm m, ChildFound bm mm b m i) ∧ bm.blockBits b = []

/-- Where the frame builder's checks pass along the walk and the tree is within the
fuel, the frame build returns and appends `frameBits`. -/
theorem frame_eq_ok_of_resolves (resolves : FrameResolves bm mm top topModule) :
    ∀ {fuel : Nat} {bs : List ConfigBlockId} {ms : List ModuleId} (addr : List Bool)
      (fb : FabricBitstream),
      ReflTransGen (WalkStep bm mm (frameVisit mm)) (top, topModule) (bs.getLastD 0, ms.getLastD 0) →
      HeightAtMost bm fuel (bs.getLastD 0) →
      recBuildModuleFabricDependentFrameBitstream bm mm (fuel + 1) bs ms addr fb =
        .ok (fb ++ frameBits bm mm (fuel + 1) (bs.getLastD 0) (ms.getLastD 0) addr)
  | fuel, bs, ms, addr, fb, hb, height => by
    by_cases leaf : bm.blockChildren (bs.getLastD 0) = []
    · rw [frame_succ_of_leaf leaf]
      simp [frameBits, leaf, -List.getLastD_eq_getLast?]
    · by_cases unconfigured : mm.configurableChildren (ms.getLastD 0) = []
      · rw [frame_succ_of_unconfigured leaf unconfigured]
        simp [frameBits, leaf, frameVisit, unconfigured, -List.getLastD_eq_getLast?]
      · obtain ⟨fuel, rfl⟩ := height.exists_succ leaf
        obtain ⟨notTwo, fits, found, bitless⟩ := resolves _ _ hb leaf unconfigured
        obtain ⟨dec, n, hdec, visit, addrs⟩ := frameDecoder_of_fits fits unconfigured notTwo
        have step : ∀ acc, ∀ i ∈ frameVisit mm (ms.getLastD 0),
            frameStep bm mm (fuel + 1) bs ms addr dec acc i =
              .ok (acc ++ frameBits bm mm (fuel + 1)
                (childBlockOf bm mm (bs.getLastD 0) (ms.getLastD 0) i)
                (mm.configurableChild (ms.getLastD 0) i)
                (addr ++ levelAddress mm (ms.getLastD 0) i)) := fun acc i hi => by
          rw [frameStep_of_found (found i hi) (addrs i hi addr)]
          have := @frame_eq_ok_of_resolves resolves fuel
            (bs ++ [childBlockOf bm mm (bs.getLastD 0) (ms.getLastD 0) i])
            (ms ++ [mm.configurableChild (ms.getLastD 0) i])
            (addr ++ levelAddress mm (ms.getLastD 0) i) acc
            (by simpa only [List.getLastD_concat] using hb.tail (.child leaf hi (found i hi).1))
            (by simpa only [List.getLastD_concat] using height _ (findChildBlock_mem (found i hi).1))
          simpa only [List.getLastD_concat] using this
        rw [frame_succ_of_parent leaf unconfigured, hdec, ok_bind]
        dsimp only
        rw [visit, foldlM_append _ _ step]
        simp [bitless, frameBits, leaf, -List.getLastD_eq_getLast?]

/-- Where names match and decoders fit along the walk, no module has a lone decoder,
only blocks without children own bits and the tree is within the fuel, the frame build
returns and appends `frameBits`. -/
theorem frame_eq_ok (agree : bm.ParentsAgree)
    (names : ∀ b m, ReflTransGen (WalkStep bm mm (frameVisit mm)) (top, topModule) (b, m) →
      bm.blockChildren b ≠ [] → NamesMatch bm mm (frameVisit mm) b m)
    (decoders : ∀ b m, ReflTransGen (WalkStep bm mm (frameVisit mm)) (top, topModule) (b, m) →
      bm.blockChildren b ≠ [] → DecoderFits mm m ∧ (mm.configurableChildren m).length ≠ 2)
    (bitless : ∀ b, bm.blockChildren b ≠ [] → bm.blockBits b = []) :
    ∀ {fuel : Nat} {bs : List ConfigBlockId} {ms : List ModuleId} (addr : List Bool)
      (fb : FabricBitstream),
      ReflTransGen (WalkStep bm mm (frameVisit mm)) (top, topModule) (bs.getLastD 0, ms.getLastD 0) →
      HeightAtMost bm fuel (bs.getLastD 0) →
      recBuildModuleFabricDependentFrameBitstream bm mm (fuel + 1) bs ms addr fb =
        .ok (fb ++ frameBits bm mm (fuel + 1) (bs.getLastD 0) (ms.getLastD 0) addr) :=
  frame_eq_ok_of_resolves fun b m hb parent _ =>
    ⟨(decoders b m hb parent).2, (decoders b m hb parent).1,
      fun _ hi => (names b m hb parent).childFound agree hi, bitless b parent⟩

end Walk

/-- On any databases, cyclic module graphs included, the frame build is no deeper
than the block tree is tall: each call recurses only into a child block. -/
theorem frame_ne_outOfFuel : ∀ {fuel : Nat} {bs : List ConfigBlockId} (ms : List ModuleId)
    (addr : List Bool) (fb : FabricBitstream), HeightAtMost bm fuel (bs.getLastD 0) →
      recBuildModuleFabricDependentFrameBitstream bm mm (fuel + 1) bs ms addr fb ≠ .error .outOfFuel
  | fuel, bs, ms, addr, fb, height => by
    by_cases leaf : bm.blockChildren (bs.getLastD 0) = []
    · simp [frame_succ_of_leaf leaf]
    · by_cases unconfigured : mm.configurableChildren (ms.getLastD 0) = []
      · simp [frame_succ_of_unconfigured leaf unconfigured]
      · obtain ⟨fuel, rfl⟩ := height.exists_succ leaf
        rw [frame_succ_of_parent leaf unconfigured]
        refine bind_ne_error frameDecoder_ne_outOfFuel fun ⟨dec, n⟩ _ => ?_
        refine bind_ne_error (foldlM_ne_error _ _ fun acc i _ => ?_) fun _ _ =>
          bind_ne_error (vtrAssert_ne_outOfFuel .parentBlockBits (by decide))
            fun _ _ => by simp
        refine bind_ne_error (fun h => by cases childBlock_error h) fun c hc =>
          bind_ne_error (childAddrCode_ne_outOfFuel _ _ _) fun a _ => ?_
        have := height c (findChildBlock_mem (childBlock_eq_ok.mp hc).1)
        exact frame_ne_outOfFuel _ _ _ (by rwa [List.getLastD_concat])

/-- The frame output loads the bits the walk that skips decoders collects. -/
theorem frameBits_configBit : ∀ (fuel : Nat) (b : ConfigBlockId) (m : ModuleId) (addr : List Bool),
    (frameBits bm mm fuel b m addr).map FabricBit.configBit = walkBits bm mm (frameVisit mm) fuel b m
  | 0, _, _, _ => rfl
  | fuel + 1, b, m, addr => by
    by_cases leaf : bm.blockChildren b = []
    · simp [frameBits, walkBits, leaf, Function.comp_def]
    · simp only [frameBits, walkBits, leaf, ↓reduceIte, List.map_flatMap, frameBits_configBit]

end OpenFpga
