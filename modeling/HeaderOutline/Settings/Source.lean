import HeaderOutline.FileTree
import HeaderOutline.Settings.Environment
import HeaderOutline.Toml.Document

/-! The files that settings are read from: the user's own, then the one that was asked for or else the
project's. A file that was asked for has to be there. -/
namespace HeaderOutline

inductive FileFault where
  | unreadable (error : AccessError)
  | notToml
  deriving DecidableEq, Repr

def FileFault.message : FileFault → String
  | unreadable error => error.message ++ "\n"
  | notToml => "TOML parse error"

structure FileError where
  path : Path
  fault : FileFault
  deriving DecidableEq, Repr

def FileTree.layer (tree : FileTree) (path : Path) : Except FileError Layer :=
  match tree.readText path with
  | .error error => .error ⟨path, .unreadable error⟩
  | .ok text => match Toml.read? text with
      | none => .error ⟨path, .notToml⟩
      | some entries => .ok ⟨.file path, entries⟩

/-- The directory for the configuration of the user's programs. Where no home is set, the account's is taken. -/
def Environment.configurationDirectory? (home : Option Path) (environment : Environment) : Option Path :=
  match (environment.lookup "XDG_CONFIG_HOME").map Path.mk with
  | some path => if path.isAbsolute then some path else fromHome
  | none => fromHome
where
  fromHome := (match environment.lookup "HOME" with
    | some text => if text = "" then home else some ⟨text⟩
    | none => home).map fun (directory : Path) => directory.join ⟨".config"⟩

def userFile? (home : Option Path) (environment : Environment) : Option Path :=
  (environment.configurationDirectory? home).map fun directory =>
    (directory.join ⟨"cxxmeta"⟩).join ⟨"config.toml"⟩

def projectFile : Path := ⟨"cxxmeta.toml"⟩

/-- A path that leads somewhere asks for the first regular file of that name upward. -/
def FileTree.present? (tree : FileTree) (path : Path) : Option Path :=
  if tree.has path then tree.search? path else none

def settingsFiles (tree : FileTree) (environment : Environment) (explicit : Option Path) : List Path :=
  ((userFile? tree.home environment).bind tree.present?).toList ++
    (match explicit with
      | some path => [path]
      | none => (tree.present? projectFile).toList)

def readLayers (tree : FileTree) : List Path → List Layer × List FileError
  | [] => ([], [])
  | path :: rest =>
      let (layers, errors) := readLayers tree rest
      match tree.layer path with
      | .ok layer => (layer :: layers, errors)
      | .error error => (layers, error :: errors)

end HeaderOutline
