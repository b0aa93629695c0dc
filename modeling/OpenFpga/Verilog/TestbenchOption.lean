import Mathlib.Logic.Basic

/-! `VerilogTestbenchOption`, the options of the Verilog testbench writer, as a state
machine: the constructor, then any sequence of its fifteen mutators. Two mutators have
a chain effect: asking for the pre-configured testbench forces the formal-verification
netlist on, and setting the reference benchmark re-applies both testbench flags.

Testbenches are only ever asked for with a reference benchmark to check against
(`testbench_needs_reference`). The formal-verification netlist stays on with the
pre-configured testbench until `set_print_formal_verification_top_netlist(false)` turns
it off alone (`run_formalAccompanies`, `formal_netlist_dropped_after_preconfig`). The
chain effect of the reference benchmark can disable a testbench flag but never enable
it, so the order of the two calls matters (`reference_and_testbench_do_not_commute`). -/
namespace OpenFpga.Verilog

/-- `e_verilog_default_net_type`. -/
inductive VerilogDefaultNetType where
  | none
  | wire
  deriving DecidableEq, Repr

/-- `e_embedded_bitstream_hdl_type`; the option also takes the value
`NUM_EMBEDDED_BITSTREAM_HDL_TYPES`. -/
inductive EmbeddedBitstreamHdlType where
  | iverilog
  | modelsim
  | numEmbeddedBitstreamHdlTypes
  deriving DecidableEq, Repr

/-- `VERILOG_DEFAULT_NET_TYPE_STRING` and `EMBEDDED_BITSTREAM_HDL_TYPE_STRING`, the names
the two enumerated options are decoded from. The headers that define them are not among
the sources, so the model takes them as a parameter. -/
structure TypeStrings where
  verilogDefaultNetTypeString : VerilogDefaultNetType → String
  embeddedBitstreamHdlTypeString : EmbeddedBitstreamHdlType → String

/-- A string table to run the model on; the real one is defined in headers that are not
among the sources. -/
def sampleTypeStrings : TypeStrings where
  verilogDefaultNetTypeString
    | .none => "none"
    | .wire => "wire"
  embeddedBitstreamHdlTypeString
    | .iverilog => "iverilog"
    | .modelsim => "modelsim"
    | .numEmbeddedBitstreamHdlTypes => "none"

/-- A C++ `float`, as its IEEE 754 single-precision bit pattern. The options only store
`time_unit_` and hand it back, so the bits are all the model needs of it. -/
structure Float32Bits where
  bits : UInt32
  deriving DecidableEq, Repr

/-- The fields of `VerilogTestbenchOption`. -/
structure VerilogTestbenchOption where
  outputDirectory : String
  fabricNetlistFilePath : String
  referenceBenchmarkFilePath : String
  printPreconfigTopTestbench : Bool
  printFormalVerificationTopNetlist : Bool
  printTopTestbench : Bool
  fastConfiguration : Bool
  simulationIniPath : String
  explicitPortMapping : Bool
  includeSignalInit : Bool
  defaultNetType : VerilogDefaultNetType
  embeddedBitstreamHdlType : EmbeddedBitstreamHdlType
  timeUnit : Float32Bits
  timeStamp : Bool
  verboseOutput : Bool
  deriving DecidableEq, Repr

/-- A call of one of the mutators, with its argument. -/
inductive Call where
  | setOutputDirectory (outputDir : String)
  | setFabricNetlistFilePath (fabricNetlistFilePath : String)
  | setReferenceBenchmarkFilePath (referenceBenchmarkFilePath : String)
  | setPrintFormalVerificationTopNetlist (enabled : Bool)
  | setFastConfiguration (enabled : Bool)
  | setPrintPreconfigTopTestbench (enabled : Bool)
  | setPrintTopTestbench (enabled : Bool)
  | setPrintSimulationIni (simulationIniPath : String)
  | setExplicitPortMapping (enabled : Bool)
  | setIncludeSignalInit (enabled : Bool)
  | setDefaultNetType (defaultNetType : String)
  | setEmbeddedBitstreamHdlType (embeddedBitstreamHdlType : String)
  | setTimeUnit (timeUnit : Float32Bits)
  | setTimeStamp (enabled : Bool)
  | setVerboseOutput (enabled : Bool)
  deriving DecidableEq, Repr

namespace VerilogTestbenchOption

/-- The constructor. It leaves `fast_configuration_` unset, so the model takes the value
the field happens to hold as a parameter. `time_unit_` gets `1E-3` rounded to a `float`,
`0.0010000000474974513`, whose bit pattern is `0x3A83126F`. -/
def init (fastConfiguration : Bool) : VerilogTestbenchOption where
  outputDirectory := ""
  fabricNetlistFilePath := ""
  referenceBenchmarkFilePath := ""
  printPreconfigTopTestbench := false
  printFormalVerificationTopNetlist := false
  printTopTestbench := false
  fastConfiguration := fastConfiguration
  simulationIniPath := ""
  explicitPortMapping := false
  includeSignalInit := false
  defaultNetType := .none
  embeddedBitstreamHdlType := .modelsim
  timeUnit := ⟨0x3A83126F⟩
  timeStamp := true
  verboseOutput := false

variable (strings : TypeStrings) (o : VerilogTestbenchOption)

/-- `print_simulation_ini()`. -/
def printSimulationIni : Bool := !o.simulationIniPath.isEmpty

/-- `no_self_checking()`. -/
def noSelfChecking : Bool := o.referenceBenchmarkFilePath.isEmpty

def setOutputDirectory (outputDir : String) : VerilogTestbenchOption :=
  { o with outputDirectory := outputDir }

def setFabricNetlistFilePath (fabricNetlistFilePath : String) : VerilogTestbenchOption :=
  { o with fabricNetlistFilePath := fabricNetlistFilePath }

def setPrintFormalVerificationTopNetlist (enabled : Bool) : VerilogTestbenchOption :=
  { o with printFormalVerificationTopNetlist := enabled }

def setFastConfiguration (enabled : Bool) : VerilogTestbenchOption :=
  { o with fastConfiguration := enabled }

/-- The flag is kept only with a reference benchmark; once on, it forces the
formal-verification netlist on (the model leaves out the warning it logs). -/
def setPrintPreconfigTopTestbench (enabled : Bool) : VerilogTestbenchOption :=
  let o := { o with printPreconfigTopTestbench := enabled && !o.referenceBenchmarkFilePath.isEmpty }
  if o.printPreconfigTopTestbench = true then
    if o.printFormalVerificationTopNetlist = false then { o with printFormalVerificationTopNetlist := true }
    else o
  else o

def setPrintTopTestbench (enabled : Bool) : VerilogTestbenchOption :=
  { o with printTopTestbench := enabled && !o.referenceBenchmarkFilePath.isEmpty }

/-- Sets the path, then re-applies both testbench flags to their current values. -/
def setReferenceBenchmarkFilePath (referenceBenchmarkFilePath : String) : VerilogTestbenchOption :=
  let o := { o with referenceBenchmarkFilePath := referenceBenchmarkFilePath }
  let o := o.setPrintPreconfigTopTestbench o.printPreconfigTopTestbench
  o.setPrintTopTestbench o.printTopTestbench

def setPrintSimulationIni (simulationIniPath : String) : VerilogTestbenchOption :=
  { o with simulationIniPath := simulationIniPath }

def setExplicitPortMapping (enabled : Bool) : VerilogTestbenchOption :=
  { o with explicitPortMapping := enabled }

def setIncludeSignalInit (enabled : Bool) : VerilogTestbenchOption :=
  { o with includeSignalInit := enabled }

/-- An unknown name leaves the option as it was (the model leaves out the warning). -/
def setDefaultNetType (defaultNetType : String) : VerilogTestbenchOption :=
  if defaultNetType = strings.verilogDefaultNetTypeString .none then { o with defaultNetType := .none }
  else if defaultNetType = strings.verilogDefaultNetTypeString .wire then { o with defaultNetType := .wire }
  else o

/-- An unknown name leaves the option as it was (the model leaves out the warning). -/
def setEmbeddedBitstreamHdlType (embeddedBitstreamHdlType : String) : VerilogTestbenchOption :=
  if embeddedBitstreamHdlType = strings.embeddedBitstreamHdlTypeString .numEmbeddedBitstreamHdlTypes then
    { o with embeddedBitstreamHdlType := .numEmbeddedBitstreamHdlTypes }
  else if embeddedBitstreamHdlType = strings.embeddedBitstreamHdlTypeString .iverilog then
    { o with embeddedBitstreamHdlType := .iverilog }
  else if embeddedBitstreamHdlType = strings.embeddedBitstreamHdlTypeString .modelsim then
    { o with embeddedBitstreamHdlType := .modelsim }
  else o

def setTimeUnit (timeUnit : Float32Bits) : VerilogTestbenchOption := { o with timeUnit := timeUnit }

def setTimeStamp (enabled : Bool) : VerilogTestbenchOption := { o with timeStamp := enabled }

def setVerboseOutput (enabled : Bool) : VerilogTestbenchOption := { o with verboseOutput := enabled }

/-- One mutator call. -/
def call : Call → VerilogTestbenchOption
  | .setOutputDirectory outputDir => o.setOutputDirectory outputDir
  | .setFabricNetlistFilePath path => o.setFabricNetlistFilePath path
  | .setReferenceBenchmarkFilePath path => o.setReferenceBenchmarkFilePath path
  | .setPrintFormalVerificationTopNetlist enabled => o.setPrintFormalVerificationTopNetlist enabled
  | .setFastConfiguration enabled => o.setFastConfiguration enabled
  | .setPrintPreconfigTopTestbench enabled => o.setPrintPreconfigTopTestbench enabled
  | .setPrintTopTestbench enabled => o.setPrintTopTestbench enabled
  | .setPrintSimulationIni path => o.setPrintSimulationIni path
  | .setExplicitPortMapping enabled => o.setExplicitPortMapping enabled
  | .setIncludeSignalInit enabled => o.setIncludeSignalInit enabled
  | .setDefaultNetType name => o.setDefaultNetType strings name
  | .setEmbeddedBitstreamHdlType name => o.setEmbeddedBitstreamHdlType strings name
  | .setTimeUnit timeUnit => o.setTimeUnit timeUnit
  | .setTimeStamp enabled => o.setTimeStamp enabled
  | .setVerboseOutput enabled => o.setVerboseOutput enabled

/-- A sequence of mutator calls, first to last. -/
def run (calls : List Call) : VerilogTestbenchOption := calls.foldl (call strings) o

/-- The pre-configured testbench comes with the formal-verification netlist. -/
def FormalAccompanies : Prop :=
  o.printPreconfigTopTestbench = true → o.printFormalVerificationTopNetlist = true

/-- Testbenches are asked for only with a reference benchmark to check against. -/
def SelfChecking : Prop :=
  o.printTopTestbench = true ∨ o.printPreconfigTopTestbench = true → o.noSelfChecking = false

/-! Each mutator as one record update. -/

@[simp] theorem setPrintPreconfigTopTestbench_eq (enabled : Bool) :
    o.setPrintPreconfigTopTestbench enabled =
      { o with
        printPreconfigTopTestbench := enabled && !o.referenceBenchmarkFilePath.isEmpty
        printFormalVerificationTopNetlist :=
          o.printFormalVerificationTopNetlist || (enabled && !o.referenceBenchmarkFilePath.isEmpty) } := by
  unfold setPrintPreconfigTopTestbench
  cases enabled && !o.referenceBenchmarkFilePath.isEmpty <;> cases o.printFormalVerificationTopNetlist <;> rfl

@[simp] theorem setReferenceBenchmarkFilePath_eq (referenceBenchmarkFilePath : String) :
    o.setReferenceBenchmarkFilePath referenceBenchmarkFilePath =
      { o with
        referenceBenchmarkFilePath := referenceBenchmarkFilePath
        printPreconfigTopTestbench := o.printPreconfigTopTestbench && !referenceBenchmarkFilePath.isEmpty
        printFormalVerificationTopNetlist := o.printFormalVerificationTopNetlist ||
          (o.printPreconfigTopTestbench && !referenceBenchmarkFilePath.isEmpty)
        printTopTestbench := o.printTopTestbench && !referenceBenchmarkFilePath.isEmpty } := by
  simp [setReferenceBenchmarkFilePath, setPrintTopTestbench]

@[simp] theorem setDefaultNetType_eq (defaultNetType : String) :
    o.setDefaultNetType strings defaultNetType =
      { o with
        defaultNetType :=
          if defaultNetType = strings.verilogDefaultNetTypeString .none then .none
          else if defaultNetType = strings.verilogDefaultNetTypeString .wire then .wire
          else o.defaultNetType } := by
  unfold setDefaultNetType
  repeat' split
  all_goals rfl

@[simp] theorem setEmbeddedBitstreamHdlType_eq (embeddedBitstreamHdlType : String) :
    o.setEmbeddedBitstreamHdlType strings embeddedBitstreamHdlType =
      { o with
        embeddedBitstreamHdlType :=
          if embeddedBitstreamHdlType =
              strings.embeddedBitstreamHdlTypeString .numEmbeddedBitstreamHdlTypes then
            .numEmbeddedBitstreamHdlTypes
          else if embeddedBitstreamHdlType = strings.embeddedBitstreamHdlTypeString .iverilog then .iverilog
          else if embeddedBitstreamHdlType = strings.embeddedBitstreamHdlTypeString .modelsim then .modelsim
          else o.embeddedBitstreamHdlType } := by
  unfold setEmbeddedBitstreamHdlType
  repeat' split
  all_goals rfl

variable {strings o}

/-- A property that every call keeps holds after every sequence of calls. -/
theorem run_of_call {P : VerilogTestbenchOption → Prop} {calls : List Call}
    (step : ∀ o, ∀ c ∈ calls, P o → P (o.call strings c)) (h : P o) : P (o.run strings calls) := by
  induction calls generalizing o with
  | nil => exact h
  | cons c calls ih =>
    exact ih (fun o' c' hc' => step o' c' (List.mem_cons_of_mem c hc')) (step o c (List.mem_cons_self c calls) h)

/-- Every call keeps testbenches tied to a reference benchmark: the two testbench
setters keep a flag only with a reference path, and setting the path re-applies both. -/
theorem call_selfChecking (h : o.SelfChecking) : ∀ c : Call, (o.call strings c).SelfChecking
  | .setReferenceBenchmarkFilePath _ => by
    simp only [SelfChecking, noSelfChecking, call, setReferenceBenchmarkFilePath_eq, Bool.and_eq_true,
      Bool.not_eq_true']
    rintro (⟨-, nonempty⟩ | ⟨-, nonempty⟩) <;> exact nonempty
  | .setPrintPreconfigTopTestbench _ => by
    simp only [SelfChecking, noSelfChecking, call, setPrintPreconfigTopTestbench_eq, Bool.and_eq_true,
      Bool.not_eq_true']
    rintro (top | ⟨-, nonempty⟩)
    · exact h (.inl top)
    · exact nonempty
  | .setPrintTopTestbench _ => by
    simp only [SelfChecking, noSelfChecking, call, setPrintTopTestbench, Bool.and_eq_true, Bool.not_eq_true']
    rintro (⟨-, nonempty⟩ | preconfig)
    · exact nonempty
    · exact h (.inr preconfig)
  | .setDefaultNetType _ | .setEmbeddedBitstreamHdlType _ => by simpa [call] using h
  | .setOutputDirectory _ | .setFabricNetlistFilePath _ | .setPrintFormalVerificationTopNetlist _
  | .setFastConfiguration _ | .setPrintSimulationIni _ | .setExplicitPortMapping _
  | .setIncludeSignalInit _ | .setTimeUnit _ | .setTimeStamp _ | .setVerboseOutput _ => h

/-- Every call but `set_print_formal_verification_top_netlist(false)` keeps the
formal-verification netlist with the pre-configured testbench: both calls that can turn
the testbench on force the netlist on with it. -/
theorem call_formalAccompanies (h : o.FormalAccompanies) :
    ∀ c : Call, c ≠ .setPrintFormalVerificationTopNetlist false → (o.call strings c).FormalAccompanies
  | .setReferenceBenchmarkFilePath _, _ | .setPrintPreconfigTopTestbench _, _ => by
    simp only [FormalAccompanies, call, setReferenceBenchmarkFilePath_eq, setPrintPreconfigTopTestbench_eq,
      Bool.or_eq_true]
    exact .inr
  | .setPrintFormalVerificationTopNetlist enabled, keep => by
    cases enabled
    · exact absurd rfl keep
    · exact fun _ => rfl
  | .setDefaultNetType _, _ | .setEmbeddedBitstreamHdlType _, _ => by simpa [call] using h
  | .setOutputDirectory _, _ | .setFabricNetlistFilePath _, _ | .setFastConfiguration _, _
  | .setPrintTopTestbench _, _ | .setPrintSimulationIni _, _ | .setExplicitPortMapping _, _
  | .setIncludeSignalInit _, _ | .setTimeUnit _, _ | .setTimeStamp _, _ | .setVerboseOutput _, _ => h

variable (strings)

/-- From a freshly constructed option object, whatever its unset `fast_configuration_`
holds, every sequence of calls asks for a testbench only with a reference benchmark. -/
theorem testbench_needs_reference (fastConfiguration : Bool) (calls : List Call) :
    ((init fastConfiguration).run strings calls).SelfChecking :=
  run_of_call (fun _ c _ h => call_selfChecking h c) (by simp [SelfChecking, init])

/-- From a freshly constructed option object, a sequence of calls that never turns the
formal-verification netlist off alone keeps it with the pre-configured testbench. -/
theorem run_formalAccompanies (fastConfiguration : Bool) {calls : List Call}
    (keep : ∀ c ∈ calls, c ≠ .setPrintFormalVerificationTopNetlist false) :
    ((init fastConfiguration).run strings calls).FormalAccompanies :=
  run_of_call (fun _ c hc h => call_formalAccompanies h c (keep c hc)) (by simp [FormalAccompanies, init])

theorem run_formalAccompanies_twice :
    ((init false).run sampleTypeStrings
      [.setReferenceBenchmarkFilePath "ref", .setPrintPreconfigTopTestbench true,
        .setPrintFormalVerificationTopNetlist true]).FormalAccompanies :=
  run_formalAccompanies sampleTypeStrings false (by simp)

/-- Turning the formal-verification netlist off after the pre-configured testbench was
asked for leaves the testbench on without its netlist. -/
theorem formal_netlist_dropped_after_preconfig (fastConfiguration : Bool) :
    ¬ ((init fastConfiguration).run strings
      [.setReferenceBenchmarkFilePath "ref", .setPrintPreconfigTopTestbench true,
        .setPrintFormalVerificationTopNetlist false]).FormalAccompanies :=
  fun accompanies => Bool.false_ne_true (accompanies rfl)

/-- On a fresh option object, a reference benchmark set before asking for a testbench
enables it; set after, it does not. -/
theorem reference_and_testbench_do_not_commute (fastConfiguration : Bool) :
    (((init fastConfiguration).setReferenceBenchmarkFilePath "ref").setPrintTopTestbench
        true).printTopTestbench = true ∧
      (((init fastConfiguration).setPrintTopTestbench true).setReferenceBenchmarkFilePath
        "ref").printTopTestbench = false ∧
      (((init fastConfiguration).setReferenceBenchmarkFilePath "ref").setPrintPreconfigTopTestbench
        true).printPreconfigTopTestbench = true ∧
      (((init fastConfiguration).setPrintPreconfigTopTestbench true).setReferenceBenchmarkFilePath
        "ref").printPreconfigTopTestbench = false :=
  ⟨rfl, rfl, rfl, rfl⟩

end VerilogTestbenchOption

end OpenFpga.Verilog
