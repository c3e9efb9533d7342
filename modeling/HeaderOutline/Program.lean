import HeaderOutline.CommandLine
import HeaderOutline.Header.Unit
import HeaderOutline.Log
import HeaderOutline.Settings.Load

/-! A whole run, up to the front end that would parse the unit; there is none here, so a run that needs it
fails at it. A run ends at the first stage that fails: the command line, loading, the check after the command
line is applied, the header set, the front end. It breaks off before loading where the environment cannot take a
variable of the `.env` file. -/
namespace HeaderOutline

structure World where
  program : Option String
  arguments : List String
  environment : Environment
  files : FileTree

inductive Failure where
  | loading (error : LoadError)
  | overrides (fault : Settings.Fault)
  | headerSet (error : DiscoveryError)
  | frontEnd (fileName : String)
  deriving Repr

def Failure.causes (current : Path) : Failure → List String
  | loading error => "failed to load cxxmeta configuration" :: error.causes current
  | overrides fault => ["invalid command-line overrides", fault.message]
  | headerSet error =>
      ["failed to assemble header set", "Header configuration error: " ++ error.message, error.message,
        error.detail]
  | frontEnd fileName =>
      ["failed to extract declarations from " ++ fileName, "libclang is unavailable"]

def Failure.message (current : Path) (failure : Failure) : String :=
  CommandLine.programName ++ " error: " ++ ": ".intercalate (failure.causes current)

inductive RunEvent where
  | discovered (event : DiscoveryEvent)
  | synthesized (headers searchPaths : Nat)
  | nothingToExtract
  deriving DecidableEq, Repr

def RunEvent.line : RunEvent → LogLine
  | discovered event =>
      ⟨.debug, "cxxmeta_config::headers", "discovered headers directory=" ++ event.directory.text ++
        " count=" ++ toString event.count⟩
  | synthesized headers searchPaths =>
      ⟨.debug, "cxxmeta", "synthesized translation unit headers=" ++ toString headers ++
        " search_paths=" ++ toString searchPaths⟩
  | nothingToExtract => ⟨.warn, "cxxmeta", "no headers configured, nothing to extract"⟩

inductive Ending where
  | stopped (stop : CommandLine.Stop)
  | brokenOff (unsettable : Dotenv.Unsettable)
  | nothingToExtract
  | failed (failure : Failure)
  deriving Repr

def Ending.exitCode : Ending → UInt8
  | stopped (.usage _) => 2
  | stopped .help => 0
  | stopped .version => 0
  | brokenOff _ => 101
  | nothingToExtract => 0
  | failed _ => 1

structure Run where
  ending : Ending
  events : List RunEvent
  deriving Repr

namespace Run

def ofSettings (files : FileTree) (settings : Settings) : Run :=
  let discovered := (HeaderGroup.searches files settings.headers).map RunEvent.discovered
  match HeaderUnit.build files settings with
  | .error error => ⟨.failed (.headerSet error), discovered⟩
  | .ok none => ⟨.nothingToExtract, discovered ++ [.nothingToExtract]⟩
  | .ok (some unit) =>
      ⟨.failed (.frontEnd unit.fileName),
        discovered ++ [.synthesized (unit.contents.toList.splitOn '\n').length unit.searchPaths.length]⟩

def ofCommandLine (world : World) (line : CommandLine) : Run :=
  match Settings.loadWithDotenv world.files world.environment line.config with
  | .error unsettable => ⟨.brokenOff unsettable, []⟩
  | .ok (.error error) => ⟨.failed (.loading error), []⟩
  | .ok (.ok settings) =>
      let settings := line.apply settings
      match settings.fault? with
      | some fault => ⟨.failed (.overrides fault), []⟩
      | none => ofSettings world.files settings

def ofWorld (world : World) : Run :=
  match CommandLine.parse world.arguments with
  | .error stop => ⟨.stopped stop, []⟩
  | .ok line => ofCommandLine world line

end Run

structure Outcome where
  exitCode : UInt8
  output : String
  error : Option String
  log : List LogLine
  deriving DecidableEq, Repr

namespace World

def output (world : World) : Ending → String
  | .stopped .help => CommandLine.helpText world.program
  | .stopped .version => CommandLine.versionText
  | _ => ""

def error? (world : World) : Ending → Option String
  | .failed failure => some (failure.message world.files.currentPath)
  | _ => none

def level (line : CommandLine) : Level :=
  if line.quiet then .error else if line.verbose then .debug else .warn

def filter (world : World) : Filter :=
  match CommandLine.parse world.arguments with
  | .error _ => []
  | .ok line => Filter.choose (world.environment.lookup "CXXMETA_LOG") (level line)

def outcome (world : World) : Outcome :=
  let run := Run.ofWorld world
  { exitCode := run.ending.exitCode
    output := world.output run.ending
    error := world.error? run.ending
    log := (run.events.map RunEvent.line).filter world.filter.passes }

end World

end HeaderOutline
