import QuadraticTrials.Arguments
import QuadraticTrials.FloatSpectrum
import QuadraticTrials.Reporter.Console
import QuadraticTrials.Solver.StandIn
import QuadraticTrials.Sweep

/-!
The program behind the command line: a sweep of the interior point solver against the reference
solver, its reports on standard output and its verdict as the exit code.
-/

namespace QuadraticTrials

/-- A console whose reader also sees the lines of the solvers. -/
structure Terminal where
  console : Console ByteSink

namespace Terminal

instance : Reporter Float Terminal where
  publish report t :=
    let (result, console) := t.console.publish report
    (result, ⟨console⟩)
  finish total failed t :=
    let (result, console) := t.console.put [Console.totalsLine total failed]
    (result, ⟨console⟩)
  relay lines t :=
    ⟨{ t.console with
      sink := (Console.writeAll (lines.map Console.line) t.console.sink).2 }⟩

end Terminal

namespace CommandLine

/-- What a run of the program leaves: its exit code, why the sweep was aborted, and its output. -/
structure Result where
  code : Nat
  aborted : Option String
  output : Array UInt8

/-- The exit code for errors of configuration and environment. -/
def environmentCode : Nat := 2

/-- The exit code after a breakdown. -/
def crashCode : Nat := 101

/-- The name and version of the program. -/
def version : String := "qpcheck 0.1.0"

/-- A summary of the options. -/
def usage : List String :=
  ["Differential tester for convex QP solvers",
    "",
    "Usage: qpcheck [OPTIONS]",
    "",
    "Options:",
    "      --config <CONFIG>            JSON sweep configuration; flags below override its fields",
    "      --seed <SEED>                Generator seed for a reproducible sweep",
    "      --repetitions <REPETITIONS>  Number of repetitions over the cost scales",
    "      --tolerance <TOLERANCE>      Absolute per-coordinate tolerance",
    "      --timeout-ms <TIMEOUT_MS>    Per-solve time limit in milliseconds",
    "      --parallel                   Solve with both backends concurrently",
    "      --show-progress              Forward solver progress output",
    "      --quiet                      Print only failing trials",
    "      --json                       Print the run summary as JSON on stdout",
    "  -h, --help                       Print help",
    "  -V, --version                    Print version"]

/-- The bytes of some lines. -/
def bytesOf (lines : List String) : Array UInt8 :=
  (String.join (lines.map Console.line)).toUTF8.data

/-- The two solvers that a sweep compares unless others are chosen. -/
def reference : StandIn Float := .conic

/-- The solver under test. -/
def candidate : StandIn Float := .interiorPoint .standard

/-- The sweep under a configuration. -/
def sweep (config : Config Float) (entropy : UInt64) (terminal : Terminal)
    : Except Stop Summary × Terminal :=
  match Tester.make reference.solver candidate.solver config fun _ => [] with
  | .error e => (.error (.failed e), terminal)
  | .ok tester => Sweep.run tester entropy reference candidate terminal

/-- A run with accepted arguments. -/
def execute (a : Arguments) (contents : Except String String) (entropy : UInt64) : Result :=
  match a.configuration contents with
  | .error e => ⟨environmentCode, some e.message, #[]⟩
  | .ok config =>
      let (result, terminal) := sweep config entropy ⟨⟨!a.quiet, .empty none⟩⟩
      let output := terminal.console.sink.taken
      match result with
      | .error (.failed e) => ⟨environmentCode, some e.message, output⟩
      | .error .crashed => ⟨crashCode, none, output⟩
      | .ok summary =>
          let report :=
            if a.json then bytesOf [(summary.toJson : Json Float).spread] else #[]
          ⟨summary.exitStatus.code, none, output ++ report⟩

/-- The file that a command line names, if it names one. -/
def configPath? (words : List String) : Option String :=
  match Arguments.empty.read words with
  | some (.run a) => a.config
  | _ => none

/-- A run of the program on the words of its command line. `contents` is what reading the named
file gave.
-/
def run (words : List String) (contents : Except String String) (entropy : UInt64) : Result :=
  match Arguments.empty.read words with
  | none => ⟨environmentCode, none, #[]⟩
  | some .help => ⟨0, none, bytesOf usage⟩
  | some .version => ⟨0, none, bytesOf [version]⟩
  | some (.run a) => execute a contents entropy

end CommandLine

end QuadraticTrials
