import HeaderOutline.Settings.Basic

/-! The command line. Options may stand between header paths until `--`; short ones may be joined, the
last of them with its value. An option's value is looked at only when the next option or header begins, so
an unknown option is reported before a bad value in front of it, and a conflict between options last. -/
namespace HeaderOutline

structure CommandLine where
  headers : List Path
  config : Option Path
  includeDirs : List Path
  macros : List String
  indexSymbols : Bool
  quiet : Bool
  verbose : Bool
  deriving DecidableEq, Repr

namespace CommandLine

def empty : CommandLine := ⟨[], none, [], [], false, false, false⟩

inductive UsageError where
  | unknownArgument | invalidValue | argumentConflict | tooManyValues
  deriving DecidableEq, Repr

def UsageError.message : UsageError → String
  | unknownArgument => "error: unexpected argument"
  | invalidValue => "error: a value is missing or empty"
  | argumentConflict => "error: arguments that cannot be used together"
  | tooManyValues => "error: unexpected value for an argument that takes none"

inductive Stop where
  | usage (error : UsageError)
  | help
  | version
  deriving DecidableEq, Repr

inductive Switch where
  | indexSymbols | quiet | verbose | help | version
  deriving DecidableEq, Repr

inductive ValueOption where
  | config | includeDir | define
  deriving DecidableEq, Repr

inductive Choice where
  | switch (switch : Switch)
  | value (option : ValueOption)
  deriving DecidableEq, Repr

def longOptions : List (String × Choice) :=
  [("config", .value .config), ("include", .value .includeDir), ("define", .value .define),
   ("index-symbols", .switch .indexSymbols), ("quiet", .switch .quiet), ("verbose", .switch .verbose),
   ("help", .switch .help), ("version", .switch .version)]

def shortOptions : List (Char × Choice) :=
  [('c', .value .config), ('I', .value .includeDir), ('D', .value .define), ('q', .switch .quiet),
   ('v', .switch .verbose), ('h', .switch .help), ('V', .switch .version)]

inductive Pending where
  | nothing
  | awaiting (option : ValueOption)
  | value (option : ValueOption) (text : String)
  | headers (texts : List String)
  deriving DecidableEq, Repr

structure Progress where
  done : CommandLine
  pending : Pending
  deriving DecidableEq, Repr

def paths (texts : List String) : Except Stop (List Path) :=
  if "" ∈ texts then .error (.usage .invalidValue) else .ok (texts.map Path.mk)

def store (done : CommandLine) (option : ValueOption) (text : String) : Except Stop CommandLine :=
  match option with
  | .config =>
      if done.config.isSome then .error (.usage .argumentConflict)
      else if text = "" then .error (.usage .invalidValue)
      else .ok { done with config := some ⟨text⟩ }
  | .includeDir =>
      if text = "" then .error (.usage .invalidValue)
      else .ok { done with includeDirs := done.includeDirs ++ [⟨text⟩] }
  | .define => .ok { done with macros := done.macros ++ [text] }

def settle (progress : Progress) : Except Stop CommandLine :=
  match progress.pending with
  | .nothing => .ok progress.done
  | .awaiting _ => .error (.usage .invalidValue)
  | .value option text => store progress.done option text
  | .headers texts => (paths texts).map fun more =>
      { progress.done with headers := progress.done.headers ++ more }

def turnOn (done : CommandLine) : Switch → Except Stop CommandLine
  | .indexSymbols =>
      if done.indexSymbols then .error (.usage .argumentConflict) else .ok { done with indexSymbols := true }
  | .quiet => if done.quiet then .error (.usage .argumentConflict) else .ok { done with quiet := true }
  | .verbose => if done.verbose then .error (.usage .argumentConflict) else .ok { done with verbose := true }
  | .help => .error .help
  | .version => .error .version

def switched (progress : Progress) (switch : Switch) : Except Stop Progress := do
  let done ← settle progress
  let done ← turnOn done switch
  .ok ⟨done, .nothing⟩

def valued (progress : Progress) (option : ValueOption) (attached : Option (List Char)) :
    Except Stop Progress := do
  let done ← settle progress
  match attached with
  | none => .ok ⟨done, .awaiting option⟩
  | some text => .ok ⟨← store done option (String.ofList text), .nothing⟩

def long (progress : Progress) (text : List Char) : Except Stop Progress :=
  let name := text.takeWhile (· ≠ '=')
  let attached := match text.dropWhile (· ≠ '=') with
    | [] => none
    | _ :: value => some value
  match longOptions.lookup (String.ofList name) with
  | none => .error (.usage .unknownArgument)
  | some (.switch switch) =>
      if attached.isSome then .error (.usage .tooManyValues) else switched progress switch
  | some (.value option) => valued progress option attached

def short (progress : Progress) : List Char → Except Stop Progress
  | [] => .ok progress
  | c :: rest =>
      match shortOptions.lookup c with
      | none => .error (.usage .unknownArgument)
      | some (.switch switch) => do short (← switched progress switch) rest
      | some (.value option) =>
          match rest with
          | [] => valued progress option none
          | '=' :: value => valued progress option (some value)
          | value => valued progress option (some value)

def header (progress : Progress) (text : String) : Except Stop Progress :=
  match progress.pending with
  | .headers texts => .ok { progress with pending := .headers (texts ++ [text]) }
  | _ => do .ok ⟨← settle progress, .headers [text]⟩

def plain (progress : Progress) (text : String) : Except Stop Progress :=
  match progress.pending with
  | .awaiting option => .ok { progress with pending := .value option text }
  | _ => header progress text

def token (progress : Progress) (text : String) : Except Stop Progress :=
  match text.toList with
  | '-' :: '-' :: rest => long progress rest
  | '-' :: c :: rest => short progress (c :: rest)
  | _ => plain progress text

def tokens (progress : Progress) : List String → Except Stop Progress
  | [] => .ok progress
  | text :: rest =>
      if text = "--" then rest.foldlM header progress
      else do tokens (← token progress text) rest

def parse (arguments : List String) : Except Stop CommandLine := do
  let done ← settle (← tokens ⟨empty, .nothing⟩ arguments)
  if done.quiet ∧ done.verbose then .error (.usage .argumentConflict) else .ok done

def apply (line : CommandLine) (settings : Settings) : Settings :=
  { settings with
    headers := settings.headers ++ line.headers.map HeaderGroup.ofHeaderPath
    includeDirs := settings.includeDirs ++ line.includeDirs
    macros := settings.macros ++ line.macros
    indexSymbols := settings.indexSymbols || line.indexSymbols }

def programName : String := "cxxmeta"

def versionText : String := programName ++ " 0.1.0\n"

def calledName (program : Option String) : String :=
  (program.bind fun path => (Path.mk path).fileName?).getD programName

def helpText (program : Option String) : String :=
  "\n".intercalate
    ["Print the declarations of a C++ header set",
     "",
     "Usage: " ++ calledName program ++ " [OPTIONS] [HEADERS]...",
     "",
     "Arguments:",
     "  [HEADERS]...  Headers to extract, in addition to the configured header groups",
     "",
     "Options:",
     "  -c, --config <CONFIG>  Configuration file (defaults to ./cxxmeta.toml)",
     "  -I, --include <DIR>    Extra include search directory",
     "  -D, --define <MACRO>   Macro definition, NAME or NAME=VALUE",
     "      --index-symbols    Populate the symbol index and log base-class resolution",
     "  -q, --quiet            Quiet mode (errors only)",
     "  -v, --verbose          Verbose mode (debug logging)",
     "  -h, --help             Print help",
     "  -V, --version          Print version",
     ""]

end CommandLine

end HeaderOutline
