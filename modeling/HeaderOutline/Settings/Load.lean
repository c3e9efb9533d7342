import HeaderOutline.Dotenv
import HeaderOutline.Settings.Reading
import HeaderOutline.Settings.Source

/-! Settings loaded from all layers: the built-in ones, the files, and the environment over them. A file that
cannot be read is reported before a setting of the wrong type, and that before a fault of the whole. -/
namespace HeaderOutline

inductive LoadError where
  | files (first : FileError) (others : List FileError)
  | misread (misreading : Misreading) (origin : Option Origin)
  | invalid (fault : Settings.Fault)
  deriving Repr

namespace Origin

def description (current : Path) : Origin → String
  | file path => (Path.shortenedFrom current path).text ++ " TOML file"
  | environment => "`CXXMETA_` environment variable(s)"

def key (origin : Origin) (steps : List Setting.Step) : String :=
  match origin with
  | file _ => ".".intercalate ("default" :: steps.map Setting.Step.text)
  | environment => ".".intercalate (steps.map fun step => step.text.map Char.toUpper)

end Origin

def FileError.text (current : Path) (error : FileError) : String :=
  error.fault.message ++ " in " ++ (Origin.file error.path).description current

def Misreading.text (current : Path) (origin : Option Origin) (misreading : Misreading) : String :=
  match origin with
  | none => misreading.misfit.message
  | some origin =>
      let place := if misreading.steps = [] then ""
        else " for key " ++ Text.quoted (origin.key misreading.steps)
      misreading.misfit.message ++ place ++ " in " ++ origin.description current

namespace LoadError

def causes (current : Path) : LoadError → List String
  | files first others =>
      let text := "\n".intercalate ((first :: others).map (FileError.text current))
      ["Configuration error: " ++ text, text]
  | misread misreading origin =>
      let text := misreading.text current origin
      ["Configuration error: " ++ text, text]
  | invalid fault => [fault.message]

end LoadError

namespace Settings

def ofLayers (layers : List Layer) : Except LoadError Settings :=
  match Settings.ofEntries (Layer.merged layers) with
  | .error misreading => .error (.misread misreading (Layer.origin? layers misreading.steps))
  | .ok settings => match settings.fault? with
      | some fault => .error (.invalid fault)
      | none => .ok settings

def load (tree : FileTree) (environment : Environment) (explicit : Option Path) :
    Except LoadError Settings :=
  match readLayers tree (settingsFiles tree environment explicit) with
  | (_, first :: others) => .error (.files first others)
  | (layers, []) => ofLayers (layers ++ [environment.layer])

/-- As `load`, with what a `.env` file adds to the environment. A variable that the environment cannot take is
no error of loading: nothing is loaded at all. -/
def loadWithDotenv (tree : FileTree) (environment : Environment) (explicit : Option Path) :
    Except Dotenv.Unsettable (Except LoadError Settings) :=
  (Dotenv.extend tree environment).map fun extended => load tree extended explicit

end Settings

end HeaderOutline
