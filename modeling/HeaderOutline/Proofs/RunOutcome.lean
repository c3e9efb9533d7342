import HeaderOutline.Program
import HeaderOutline.Proofs.DotenvLines
import HeaderOutline.Proofs.Overrides

/-! How a whole run ends. Each stage comes only after those before it succeeded, and the first that fails is the
one that is reported. Only a run whose `.env` file has a NUL in a value ends before the first stage, and reports
none. -/
namespace HeaderOutline

namespace HeaderUnit

theorem unbuilt {tree : FileTree} {settings : Settings} : build tree settings = .ok none ↔
    ∃ groups, HeaderGroup.resolveAll tree settings.headers = .ok groups ∧ ∀ group ∈ groups, group.headers = [] := by
  unfold build
  cases HeaderGroup.resolveAll tree settings.headers with
  | error cause => simp [Except.map]
  | ok groups => simp [Except.map, groupsNothing, headersOf]

end HeaderUnit

namespace Settings

theorem loadedValid {tree : FileTree} {environment : Environment} {explicit : Option Path} {settings : Settings}
    (loaded : load tree environment explicit = .ok settings) : settings.Valid := by
  unfold load at loaded
  split at loaded
  · contradiction
  · unfold ofLayers at loaded
    split at loaded
    · contradiction
    · split at loaded
      · contradiction
      · rename_i valid
        cases Except.ok.inj loaded
        exact valid

theorem loadedFrom {tree : FileTree} {environment : Environment} {explicit : Option Path}
    {result : Except LoadError Settings} (loaded : loadWithDotenv tree environment explicit = .ok result) :
    ∃ extended, load tree extended explicit = result := by
  unfold loadWithDotenv at loaded
  cases read : Dotenv.extend tree environment with
  | error unsettable =>
      rw [read] at loaded
      contradiction
  | ok extended =>
      rw [read] at loaded
      exact ⟨extended, Except.ok.inj loaded⟩

theorem loadBreaksOff {tree : FileTree} {environment : Environment} {explicit : Option Path}
    {unsettable : Dotenv.Unsettable} : loadWithDotenv tree environment explicit = .error unsettable ↔
      Dotenv.Breaks environment (Dotenv.lines tree) unsettable := by
  rw [← Dotenv.extendFails]
  unfold loadWithDotenv Dotenv.extend
  cases Dotenv.extendBy environment (Dotenv.lines tree) <;> simp [Except.map]

theorem appliedFault {line : CommandLine} {settings : Settings} {fault : Fault} (valid : settings.Valid)
    (faulty : (line.apply settings).fault? = some fault) :
    (∃ definition ∈ line.macros, Text.IsBlank (macroName definition) ∧ fault = .namelessMacro definition) ∨
    (∃ path ∈ line.headers, Text.IsBlank (path.fileName?.getD "") ∧
      fault = .blankHeader (HeaderGroup.ofHeaderPath path).directory) := by
  rw [CommandLine.faultOfApplied valid] at faulty
  rcases CommandLine.faultExactly.mp faulty with ⟨definition, first, same⟩ | ⟨-, path, first, same⟩
  · exact .inl ⟨definition, first.listed, first.holds, same⟩
  · exact .inr ⟨path, first.listed, CommandLine.unnamedHeader.mp first.holds, same⟩

end Settings

namespace World

variable {world : World}

structure Loaded (world : World) (line : CommandLine) (settings : Settings) : Prop where
  parsed : CommandLine.parse world.arguments = .ok line
  loaded : Settings.loadWithDotenv world.files world.environment line.config = .ok (.ok settings)

def BreaksOff (world : World) (unsettable : Dotenv.Unsettable) : Prop :=
  (∃ line, CommandLine.parse world.arguments = .ok line) ∧
    Dotenv.Breaks world.environment (Dotenv.lines world.files) unsettable

/-- The first stage that fails, after all before it succeeded. -/
inductive Fails (world : World) : Failure → Prop
  | loading {line : CommandLine} {error : LoadError} (parsed : CommandLine.parse world.arguments = .ok line)
      (failed : Settings.loadWithDotenv world.files world.environment line.config = .ok (.error error)) :
      Fails world (.loading error)
  | overrides {line : CommandLine} {settings : Settings} {fault : Settings.Fault}
      (loaded : world.Loaded line settings) (faulty : (line.apply settings).fault? = some fault) :
      Fails world (.overrides fault)
  | headerSet {line : CommandLine} {settings : Settings} {error : DiscoveryError}
      (loaded : world.Loaded line settings) (valid : (line.apply settings).Valid)
      (failed : HeaderUnit.build world.files (line.apply settings) = .error error) :
      Fails world (.headerSet error)
  | frontEnd {line : CommandLine} {settings : Settings} {unit : HeaderUnit}
      (loaded : world.Loaded line settings) (valid : (line.apply settings).Valid)
      (built : HeaderUnit.build world.files (line.apply settings) = .ok (some unit)) :
      Fails world (.frontEnd unit.fileName)

def Idle (world : World) : Prop :=
  ∃ line settings, world.Loaded line settings ∧ (line.apply settings).Valid ∧
    HeaderUnit.build world.files (line.apply settings) = .ok none

theorem overridesGiven {fault : Settings.Fault} (fails : world.Fails (.overrides fault)) :
    ∃ line, CommandLine.parse world.arguments = .ok line ∧
      ((∃ definition ∈ line.macros, Text.IsBlank (Settings.macroName definition) ∧
          fault = .namelessMacro definition) ∨
        ∃ path ∈ line.headers, Text.IsBlank (path.fileName?.getD "") ∧
          fault = .blankHeader (HeaderGroup.ofHeaderPath path).directory) := by
  cases fails with
  | overrides loaded faulty =>
      obtain ⟨extended, read⟩ := Settings.loadedFrom loaded.loaded
      exact ⟨_, loaded.parsed, Settings.appliedFault (Settings.loadedValid read) faulty⟩

inductive Ends (world : World) : Ending → Prop
  | stopped {stop : CommandLine.Stop} (parsed : CommandLine.parse world.arguments = .error stop) :
      Ends world (.stopped stop)
  | brokenOff {unsettable : Dotenv.Unsettable} (breaks : world.BreaksOff unsettable) :
      Ends world (.brokenOff unsettable)
  | idle (idle : world.Idle) : Ends world .nothingToExtract
  | failed {failure : Failure} (fails : world.Fails failure) : Ends world (.failed failure)

theorem faultyRun {line : CommandLine} {settings : Settings} (loaded : world.Loaded line settings)
    {fault : Settings.Fault} (faulty : (line.apply settings).fault? = some fault) :
    Run.ofWorld world = ⟨.failed (.overrides fault), []⟩ := by
  simp only [Run.ofWorld, loaded.parsed, Run.ofCommandLine, loaded.loaded, faulty]

theorem validRun {line : CommandLine} {settings : Settings} (loaded : world.Loaded line settings)
    (valid : (line.apply settings).Valid) :
    Run.ofWorld world = Run.ofSettings world.files (line.apply settings) := by
  have faultless : (line.apply settings).fault? = none := valid
  simp only [Run.ofWorld, loaded.parsed, Run.ofCommandLine, loaded.loaded, faultless]

theorem failedEnding {failure : Failure} (fails : world.Fails failure) :
    (Run.ofWorld world).ending = .failed failure := by
  cases fails with
  | loading parsed failed => simp only [Run.ofWorld, parsed, Run.ofCommandLine, failed]
  | overrides loaded faulty => rw [faultyRun loaded faulty]
  | headerSet loaded valid failed => rw [validRun loaded valid, Run.ofSettings, failed]
  | frontEnd loaded valid built => rw [validRun loaded valid, Run.ofSettings, built]

theorem brokenRun {unsettable : Dotenv.Unsettable} (breaks : world.BreaksOff unsettable) :
    Run.ofWorld world = ⟨.brokenOff unsettable, []⟩ := by
  obtain ⟨⟨line, parsed⟩, broken⟩ := breaks
  simp only [Run.ofWorld, parsed, Run.ofCommandLine, Settings.loadBreaksOff.mpr broken]

theorem endsEnding {ending : Ending} (ends : world.Ends ending) : (Run.ofWorld world).ending = ending := by
  cases ends with
  | stopped parsed => rw [Run.ofWorld, parsed]
  | brokenOff breaks => rw [brokenRun breaks]
  | idle idle =>
      obtain ⟨line, settings, loaded, valid, unbuilt⟩ := idle
      rw [validRun loaded valid, Run.ofSettings, unbuilt]
  | failed fails => exact failedEnding fails

theorem endsSomehow (world : World) : ∃ ending, world.Ends ending := by
  cases parsed : CommandLine.parse world.arguments with
  | error stop => exact ⟨_, .stopped parsed⟩
  | ok line =>
      cases loaded : Settings.loadWithDotenv world.files world.environment line.config with
      | error unsettable => exact ⟨_, .brokenOff ⟨⟨line, parsed⟩, Settings.loadBreaksOff.mp loaded⟩⟩
      | ok result => cases result with
          | error error => exact ⟨_, .failed (.loading parsed loaded)⟩
          | ok settings =>
              cases checked : (line.apply settings).fault? with
              | some fault => exact ⟨_, .failed (.overrides ⟨parsed, loaded⟩ checked)⟩
              | none =>
                  cases built : HeaderUnit.build world.files (line.apply settings) with
                  | error error => exact ⟨_, .failed (.headerSet ⟨parsed, loaded⟩ checked built)⟩
                  | ok result => cases result with
                      | none => exact ⟨_, .idle ⟨line, settings, ⟨parsed, loaded⟩, checked, built⟩⟩
                      | some unit => exact ⟨_, .failed (.frontEnd ⟨parsed, loaded⟩ checked built)⟩

theorem endsExactly {ending : Ending} : (Run.ofWorld world).ending = ending ↔ world.Ends ending := by
  -- Some ending can be derived, and one that can be is the run's.
  refine ⟨fun ended => ?_, endsEnding⟩
  obtain ⟨ending', ends⟩ := endsSomehow world
  rwa [← ended, endsEnding ends]

theorem stoppedExactly {stop : CommandLine.Stop} :
    (Run.ofWorld world).ending = .stopped stop ↔ CommandLine.parse world.arguments = .error stop := by
  rw [endsExactly]
  exact ⟨fun | .stopped parsed => parsed, .stopped⟩

theorem failsExactly {failure : Failure} :
    (Run.ofWorld world).ending = .failed failure ↔ world.Fails failure := by
  rw [endsExactly]
  exact ⟨fun | .failed fails => fails, .failed⟩

theorem breaksExactly {unsettable : Dotenv.Unsettable} :
    (Run.ofWorld world).ending = .brokenOff unsettable ↔ world.BreaksOff unsettable := by
  rw [endsExactly]
  exact ⟨fun | .brokenOff breaks => breaks, .brokenOff⟩

theorem idleExactly : (Run.ofWorld world).ending = .nothingToExtract ↔ world.Idle := by
  rw [endsExactly]
  exact ⟨fun | .idle idle => idle, .idle⟩

end World

namespace Ending

theorem usageCode {ending : Ending} : ending.exitCode = 2 ↔ ∃ error, ending = .stopped (.usage error) := by
  rcases ending with (error | _ | _) | unsettable | _ | failure <;> simp [exitCode]

theorem successCode {ending : Ending} : ending.exitCode = 0 ↔
    ending = .stopped .help ∨ ending = .stopped .version ∨ ending = .nothingToExtract := by
  rcases ending with (error | _ | _) | unsettable | _ | failure <;> simp [exitCode]

theorem breakCode {ending : Ending} : ending.exitCode = 101 ↔ ∃ unsettable, ending = .brokenOff unsettable := by
  rcases ending with (error | _ | _) | unsettable | _ | failure <;> simp [exitCode]

theorem failureCode {ending : Ending} : ending.exitCode = 1 ↔ ∃ failure, ending = .failed failure := by
  rcases ending with (error | _ | _) | unsettable | _ | failure <;> simp [exitCode]

theorem otherCode {ending : Ending} :
    ending.exitCode = 1 ↔ ending.exitCode ≠ 2 ∧ ending.exitCode ≠ 0 ∧ ending.exitCode ≠ 101 := by
  rcases ending with (error | _ | _) | unsettable | _ | failure <;> simp [exitCode]

theorem errorOfFailure {world : World} {ending : Ending} {text : String} : world.error? ending = some text ↔
    ∃ failure, ending = .failed failure ∧ text = failure.message world.files.currentPath := by
  rcases ending with stop | unsettable | _ | failure <;> simp [World.error?, eq_comm]

theorem noOutput {world : World} {ending : Ending} (help : ending ≠ .stopped .help)
    (version : ending ≠ .stopped .version) : world.output ending = "" := by
  rcases ending with (error | _ | _) | unsettable | _ | failure
  · rfl
  · exact absurd rfl help
  · exact absurd rfl version
  · rfl
  · rfl
  · rfl

end Ending

inductive Stage where
  | loading | overrides | headerSet | frontEnd
  deriving DecidableEq, Repr

namespace Failure

def stage : Failure → Stage
  | loading _ => .loading
  | overrides _ => .overrides
  | headerSet _ => .headerSet
  | frontEnd _ => .frontEnd

end Failure

def Stage.context : Stage → String
  | loading => "failed to load cxxmeta configuration"
  | overrides => "invalid command-line overrides"
  | headerSet => "failed to assemble header set"
  | frontEnd => "failed to extract declarations from "

theorem Stage.contextsApart {a b : Stage} (begins : a.context.toList <+: b.context.toList) : a = b := by
  revert begins
  cases a <;> cases b <;> decide +kernel

theorem intercalateBegins (separator first : String) (rest : List String) :
    first.toList <+: (separator.intercalate (first :: rest)).toList := by
  rw [String.toList_intercalate]
  cases rest with
  | nil => simp [List.intercalate]
  | cons second rest => simp [List.intercalate]

namespace Failure

theorem causesBegin (current : Path) (failure : Failure) :
    ∃ name rest, failure.causes current = (failure.stage.context ++ name) :: rest := by
  cases failure with
  | loading error => exact ⟨"", _, rfl⟩
  | overrides fault => exact ⟨"", _, rfl⟩
  | headerSet error => exact ⟨"", _, rfl⟩
  | frontEnd fileName => exact ⟨fileName, _, rfl⟩

theorem messageBegins (current : Path) (failure : Failure) :
    (CommandLine.programName ++ " error: " ++ failure.stage.context).toList <+:
      (failure.message current).toList := by
  obtain ⟨name, rest, causes⟩ := causesBegin current failure
  have first := intercalateBegins ": " (failure.stage.context ++ name) rest
  rw [String.toList_append] at first
  simp only [message, causes, String.toList_append]
  exact (List.prefix_append_right_inj _).mpr ((List.prefix_append _ _).trans first)

theorem messageStage {current current' : Path} {a b : Failure} (same : a.message current = b.message current') :
    a.stage = b.stage := by
  have one := messageBegins current a
  have other := messageBegins current' b
  rw [String.toList_append] at one other
  rw [← same] at other
  rcases List.prefix_or_prefix_of_prefix one other with before | before
  · exact Stage.contextsApart ((List.prefix_append_right_inj _).mp before)
  · exact (Stage.contextsApart ((List.prefix_append_right_inj _).mp before)).symm

end Failure

/-- A run ends with 2 for a command line that is refused, with 0 when it only tells about itself or has no header
to extract from, with 101 when a NUL in the `.env` file breaks it off, and else with 1, naming the first stage that
fails. -/
theorem World.runOutcome (world : World) :
    (world.outcome.exitCode = 2 ↔ ∃ error, CommandLine.parse world.arguments = .error (.usage error)) ∧
    (world.outcome.exitCode = 0 ↔ CommandLine.parse world.arguments = .error .help ∨
      CommandLine.parse world.arguments = .error .version ∨ world.Idle) ∧
    (∀ settings, HeaderUnit.build world.files settings = .ok none ↔
      ∃ groups, HeaderGroup.resolveAll world.files settings.headers = .ok groups ∧
        ∀ group ∈ groups, group.headers = []) ∧
    (world.outcome.exitCode = 101 ↔ ∃ unsettable, world.BreaksOff unsettable) ∧
    (∀ unsettable, Dotenv.Clean world.environment → world.BreaksOff unsettable →
      ∃ text ∈ Dotenv.lines world.files, '\x00' ∈ text) ∧
    (world.outcome.exitCode = 1 ↔
      world.outcome.exitCode ≠ 2 ∧ world.outcome.exitCode ≠ 0 ∧ world.outcome.exitCode ≠ 101) ∧
    (world.outcome.exitCode = 1 ↔ ∃ failure, world.Fails failure) ∧
    (∀ text, world.outcome.error = some text ↔
      ∃ failure, world.Fails failure ∧ text = failure.message world.files.currentPath) ∧
    (∀ failure other, world.Fails failure → world.Fails other → failure = other) ∧
    (∀ failure other : Failure, failure.message world.files.currentPath = other.message world.files.currentPath →
      failure.stage = other.stage) ∧
    (CommandLine.parse world.arguments = .error .help →
      world.outcome.output = CommandLine.helpText world.program) ∧
    (CommandLine.parse world.arguments = .error .version →
      world.outcome.output = CommandLine.versionText) ∧
    (CommandLine.parse world.arguments ≠ .error .help → CommandLine.parse world.arguments ≠ .error .version →
      world.outcome.output = "") := by
  have code : world.outcome.exitCode = (Run.ofWorld world).ending.exitCode := rfl
  have error : world.outcome.error = world.error? (Run.ofWorld world).ending := rfl
  have output : world.outcome.output = world.output (Run.ofWorld world).ending := rfl
  have held (unsettable : Dotenv.Unsettable) (clean : Dotenv.Clean world.environment)
      (breaks : world.BreaksOff unsettable) : ∃ text ∈ Dotenv.lines world.files, '\x00' ∈ text :=
    Dotenv.breaksHolds clean breaks.2
  simp only [code, error, output, ne_eq, ← stoppedExactly, ← failsExactly, ← idleExactly]
  refine ⟨Ending.usageCode, Ending.successCode, fun settings => HeaderUnit.unbuilt, ?_, held, Ending.otherCode,
    Ending.failureCode, fun text => Ending.errorOfFailure, fun failure other one two => ?_,
    fun failure other => Failure.messageStage, fun help => ?_, fun version => ?_, Ending.noOutput⟩
  · simp only [← breaksExactly]
    exact Ending.breakCode
  · exact Ending.failed.inj (one.symm.trans two)
  · rw [help]
    rfl
  · rw [version]
    rfl

/-- Its `.env` file holds the one line `A=x` with a NUL at the end. -/
def nulWorld : World :=
  { program := none, arguments := ["a.h"], environment := [],
    files := { root := .directory {} [(".env", .file (.ok ⟨#[65, 61, 120, 0, 10]⟩))], current := [] } }

theorem nulUnreported :
    ¬∀ world : World, world.outcome.exitCode = 1 ↔
      (∀ error, CommandLine.parse world.arguments ≠ .error (.usage error)) ∧
        CommandLine.parse world.arguments ≠ .error .help ∧
        CommandLine.parse world.arguments ≠ .error .version ∧ ¬world.Idle := by
  intro reported
  have code : nulWorld.outcome.exitCode = 101 := by decide +kernel
  obtain ⟨unsettable, broken⟩ := Ending.breakCode.mp code
  have failed : nulWorld.outcome.exitCode = 1 := by
    refine (reported nulWorld).mpr ?_
    simp only [ne_eq, ← World.stoppedExactly, ← World.idleExactly, broken, reduceCtorEq, not_false_eq_true,
      implies_true, and_self]
  rw [code] at failed
  contradiction

end HeaderOutline
