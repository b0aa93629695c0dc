import OpenFpga.Verilog.TestbenchOption

/-! The three flags of the Verilog testbench options that other mutators move, over
whole sequences of calls. Each latches: a call keeps it on or turns it on from the state
before it, and one law per call (`call_testbench_iff`, `call_formalNetlist_iff`) gives,
by one induction (`run_latch_iff`), when each is on after any sequence of calls
(`run_testbench_iff`, `run_formalNetlist_iff`). -/
namespace OpenFpga.Verilog

/-- The two testbenches of the options, each with its flag and its setter. -/
inductive Testbench where
  | preconfigTop
  | top
  deriving DecidableEq, Repr

namespace Testbench

/-- The flag that asks for testbench `t`. -/
def flag : Testbench → VerilogTestbenchOption → Bool
  | .preconfigTop, o => o.printPreconfigTopTestbench
  | .top, o => o.printTopTestbench

/-- The call that sets the flag of testbench `t`. -/
def setter : Testbench → Bool → Call
  | .preconfigTop, enabled => .setPrintPreconfigTopTestbench enabled
  | .top, enabled => .setPrintTopTestbench enabled

/-- Call `c` keeps the flag of testbench `t` when it is on: it is not the flag's setter,
and not a reference benchmark with an empty path. -/
def keeps (t : Testbench) : Call → Bool
  | .setReferenceBenchmarkFilePath path => !path.isEmpty
  | .setPrintPreconfigTopTestbench _ => t != .preconfigTop
  | .setPrintTopTestbench _ => t != .top
  | _ => true

end Testbench

namespace VerilogTestbenchOption

/-- Call `c` keeps the formal-verification netlist when it is on: all calls but
`set_print_formal_verification_top_netlist(false)`. -/
def keepsFormalNetlist : Call → Bool
  | .setPrintFormalVerificationTopNetlist enabled => enabled
  | _ => true

/-- Call `c` turns the formal-verification netlist on from option `o`: asking for it,
or turning the pre-configured testbench on, which forces it on, whether by asking for
the testbench with a reference benchmark set or by setting a reference benchmark while
the testbench flag stands. -/
def TurnsFormalNetlistOn (o : VerilogTestbenchOption) : Call → Prop
  | .setPrintFormalVerificationTopNetlist enabled => enabled = true
  | .setPrintPreconfigTopTestbench enabled => enabled = true ∧ o.noSelfChecking = false
  | .setReferenceBenchmarkFilePath path => o.printPreconfigTopTestbench = true ∧ path.isEmpty = false
  | _ => False

variable {strings : TypeStrings}

section Latch

variable {flag : VerilogTestbenchOption → Bool} {keeps : Call → Bool}
  {turnsOn : VerilogTestbenchOption → Call → Prop}
  (step : ∀ o c, flag (o.call strings c) = true ↔ (flag o = true ∧ keeps c = true) ∨ turnsOn o c)
include step

/-- A flag that each call keeps or turns on is on after a sequence of calls exactly when
it was on at the start and every call kept it, or some call turned it on and every
later call kept it. -/
theorem run_latch_iff : ∀ (o : VerilogTestbenchOption) (calls : List Call),
    flag (o.run strings calls) = true ↔ (flag o = true ∧ ∀ c ∈ calls, keeps c = true) ∨
      ∃ pre c post, calls = pre ++ c :: post ∧ turnsOn (o.run strings pre) c ∧ ∀ c ∈ post, keeps c = true
  | o, [] => by simp [run]
  | o, c :: calls => by
    rw [show o.run strings (c :: calls) = (o.call strings c).run strings calls from rfl,
      run_latch_iff (o.call strings c) calls, step, List.forall_mem_cons]
    constructor
    · rintro (⟨⟨active, kept⟩ | turned, later⟩ | ⟨pre, c', post, rfl, turned, later⟩)
      · exact .inl ⟨active, kept, later⟩
      · exact .inr ⟨[], c, calls, rfl, turned, later⟩
      · exact .inr ⟨c :: pre, c', post, rfl, turned, later⟩
    · rintro (⟨active, kept, later⟩ | ⟨pre, c', post, split, turned, later⟩)
      · exact .inl ⟨.inl ⟨active, kept⟩, later⟩
      · cases pre with
        | nil =>
          obtain ⟨rfl, rfl⟩ := List.cons.inj split
          exact .inl ⟨.inr turned, later⟩
        | cons c'' pre =>
          obtain ⟨rfl, rfl⟩ := List.cons.inj split
          exact .inr ⟨pre, c', post, rfl, turned, later⟩

end Latch

/-- After one call a testbench is asked for exactly when it was and the call keeps it,
or the call asked for it with a reference benchmark set. -/
theorem call_testbench_iff (t : Testbench) (o : VerilogTestbenchOption) (c : Call) :
    t.flag (o.call strings c) = true ↔
      (t.flag o = true ∧ t.keeps c = true) ∨ (c = t.setter true ∧ o.noSelfChecking = false) := by
  cases t <;> cases c <;>
    simp [Testbench.flag, Testbench.keeps, Testbench.setter, call, noSelfChecking, setPrintTopTestbench,
      setOutputDirectory, setFabricNetlistFilePath, setPrintFormalVerificationTopNetlist,
      setFastConfiguration, setPrintSimulationIni, setExplicitPortMapping, setIncludeSignalInit,
      setTimeUnit, setTimeStamp, setVerboseOutput]

/-- **When a testbench is asked for.** After any sequence of calls, testbench `t` is
asked for exactly when it was asked for at the start and every call kept it, or some
call asked for it while a reference benchmark was set and every later call kept it. -/
theorem run_testbench_iff (t : Testbench) (o : VerilogTestbenchOption) (calls : List Call) :
    t.flag (o.run strings calls) = true ↔
      (t.flag o = true ∧ ∀ c ∈ calls, t.keeps c = true) ∨
        ∃ pre post, calls = pre ++ t.setter true :: post ∧
          (o.run strings pre).noSelfChecking = false ∧ ∀ c ∈ post, t.keeps c = true := by
  rw [run_latch_iff (call_testbench_iff t)]
  refine or_congr_right ⟨?_, ?_⟩
  · rintro ⟨pre, c, post, split, ⟨rfl, reference⟩, later⟩
    exact ⟨pre, post, split, reference, later⟩
  · rintro ⟨pre, post, split, reference, later⟩
    exact ⟨pre, _, post, split, ⟨rfl, reference⟩, later⟩

/-- After one call the formal-verification netlist is asked for exactly when it was and
the call keeps it, or the call turned it on. -/
theorem call_formalNetlist_iff (o : VerilogTestbenchOption) (c : Call) :
    (o.call strings c).printFormalVerificationTopNetlist = true ↔
      (o.printFormalVerificationTopNetlist = true ∧ keepsFormalNetlist c = true) ∨
        TurnsFormalNetlistOn o c := by
  cases c <;>
    simp [keepsFormalNetlist, TurnsFormalNetlistOn, call, noSelfChecking, setPrintTopTestbench,
      setOutputDirectory, setFabricNetlistFilePath, setPrintFormalVerificationTopNetlist,
      setFastConfiguration, setPrintSimulationIni, setExplicitPortMapping, setIncludeSignalInit,
      setTimeUnit, setTimeStamp, setVerboseOutput]

/-- **When the formal-verification netlist is asked for.** After any sequence of calls,
the netlist is asked for exactly when it was at the start and no call turned it off,
or some call turned it on, directly or through the pre-configured testbench, and no
later call turned it off. -/
theorem run_formalNetlist_iff (o : VerilogTestbenchOption) (calls : List Call) :
    (o.run strings calls).printFormalVerificationTopNetlist = true ↔
      (o.printFormalVerificationTopNetlist = true ∧ ∀ c ∈ calls, keepsFormalNetlist c = true) ∨
        ∃ pre c post, calls = pre ++ c :: post ∧ TurnsFormalNetlistOn (o.run strings pre) c ∧
          ∀ c ∈ post, keepsFormalNetlist c = true :=
  run_latch_iff call_formalNetlist_iff o calls

end VerilogTestbenchOption

end OpenFpga.Verilog
