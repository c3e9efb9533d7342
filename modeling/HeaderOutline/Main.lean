import HeaderOutline.Program

/-! The program. It looks at the files that a run can ask for, lets the run happen, and prints what it
leaves behind. -/
namespace HeaderOutline.Observation

inductive Depth where
  | presence | content | headers
  deriving DecidableEq

def nowhere : Path := ⟨"\x00"⟩

def putNew (node : FileNode) (names : List String) (root : FileNode) : FileNode :=
  match root.at? names with
  | some _ => root
  | none => node.put names root

def realPath (names : List String) := System.mkFilePath [(Path.ofNames names).text]

def causeOf : IO.Error → AccessError
  | .noFileOrDirectory .. => .missing
  | .permissionDenied .. => .denied
  | .inappropriateType .. => .notDirectory
  | _ => .failing

def attempt {α : Type} (action : IO α) : BaseIO (Except AccessError α) := do
  return (← action.toBaseIO).mapError causeOf

def kind (names : List String) : BaseIO (Except AccessError IO.FS.FileType) :=
  attempt (return (← (realPath names).symlinkMetadata).type)

def namesOf (path : String) : List String :=
  (Path.mk path).components.filterMap fun
    | .normal name => some name
    | _ => none

def content (depth : Depth) (names : List String) : BaseIO (Except AccessError ByteArray) :=
  if depth = .content then attempt (IO.FS.readBinFile (realPath names)) else return .ok .empty

def refuse (change : Refusals → Refusals) (names : List String) (root : FileNode) : FileNode :=
  match root.at? names with
  | some (.directory refusals entries) => (FileNode.directory (change refusals) entries).put names root
  | _ => root

/-- All that stands below a directory, links left alone. What an entry is cannot be told where the directory
cannot be passed: such an entry is left out. -/
partial def lookBelow (names : List String) (root : FileNode) : BaseIO FileNode := do
  match ← attempt (realPath names).readDir with
  | .error cause => return refuse ({ · with listing := some cause }) names root
  | .ok entries =>
      let mut root := root
      for entry in entries do
        let here := names ++ [entry.fileName]
        match ← kind here with
        | .error cause => root := refuse ({ · with passing := some cause }) names root
        | .ok .dir => root ← lookBelow here (root.makeDirectory here)
        | .ok .file => root := putNew (.file (.ok .empty)) here root
        | .ok .symlink => root := putNew (.link nowhere) here root
        | .ok .other => pure ()
      return root

partial def look (depth : Depth) (here : List String) (way : List Component) (root : FileNode) :
    BaseIO FileNode := do
  match way with
  | [] => if depth = .headers then lookBelow here root else return root
  | .root :: rest => look depth [] rest root
  | .current :: rest => look depth here rest root
  | .parent :: rest => look depth here.dropLast rest root
  | .normal name :: rest =>
      let next := here ++ [name]
      match ← kind next with
      | .ok .dir => look depth next rest (root.makeDirectory next)
      | .ok .file => return putNew (.file (← content depth next)) next root
      | .ok .symlink => match ← attempt (IO.FS.realPath (realPath next)) with
          | .error _ => return putNew (.link nowhere) next root
          | .ok path =>
              let target := namesOf path.toString
              look depth [] (target.map Component.normal ++ rest) (putNew (.link (.ofNames target)) next root)
      | .ok .other => return root
      | .error .denied => return refuse ({ · with passing := some .denied }) here root
      | .error _ => return root

def lookAt (depth : Depth) (tree : FileTree) (path : Path) : IO FileTree := do
  return { tree with root := ← look depth tree.current path.components tree.root }

def environment : IO Environment := do
  let bytes ← IO.FS.readBinFile "/proc/self/environ"
  let text := ((String.fromUTF8? bytes).getD "").toList
  return ((text.splitOn '\x00').filter (· ≠ [])).map fun entry =>
    (String.ofList (entry.takeWhile (· ≠ '=')), String.ofList ((entry.dropWhile (· ≠ '=')).drop 1))

def accountHome? : BaseIO (Option Path) := do
  let read (path : String) : BaseIO (List (List String)) := do
    match ← (IO.FS.readFile path).toBaseIO with
    | .error _ => return []
    | .ok text => return (text.splitOn "\n").map fun line => (line.map fun c => if c = '\t' then ':' else c).splitOn ":"
  let own := (← read "/proc/self/status").findSome? fun
    | "Uid" :: "" :: identity :: _ => some identity
    | _ => none
  return (← read "/etc/passwd").findSome? fun
    | _ :: _ :: identity :: _ :: _ :: home :: _ => if some identity = own ∧ home ≠ "" then some ⟨home⟩ else none
    | _ => none

def filesFor (environment : Environment) (line : CommandLine) (tree : FileTree) : IO FileTree := do
  let mut tree := tree
  for path in tree.upward Dotenv.fileName do
    tree ← lookAt .content tree path
  let .ok extended := Dotenv.extend tree environment | return tree
  for path in (userFile? tree.home extended).toList ++ line.config.toList ++ tree.upward projectFile do
    tree ← lookAt .content tree path
  match Settings.load tree extended line.config with
  | .error _ => return tree
  | .ok settings =>
      for group in (line.apply settings).headers do
        tree ← lookAt (if group.discover then .headers else .presence) tree group.directory
      return tree

def world (arguments : List String) : IO World := do
  let current := namesOf (← IO.currentDir).toString
  let environment ← environment
  let empty : FileTree := ⟨FileTree.empty.root.makeDirectory current, current, ← accountHome?⟩
  let files ← match CommandLine.parse arguments with
    | .error _ => pure empty
    | .ok line => filesFor environment line empty
  return ⟨some (← IO.appPath).toString, arguments, environment, files⟩

end HeaderOutline.Observation

open HeaderOutline

def main (arguments : List String) : IO UInt32 := do
  let world ← Observation.world arguments
  let outcome := world.outcome
  (← IO.getStdout).putStr outcome.output
  let errors ← IO.getStderr
  for line in outcome.log do
    errors.putStrLn line.render
  match (Run.ofWorld world).ending, outcome.error with
  | .stopped (.usage error), _ => errors.putStrLn error.message
  | _, some text => errors.putStrLn text
  | _, none => pure ()
  return outcome.exitCode.toUInt32
