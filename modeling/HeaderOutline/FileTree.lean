import HeaderOutline.Dictionary
import HeaderOutline.Path

/-! A tree of files, directories and symbolic links, and how a path leads through it. Links are followed
wherever they stand in a path, at most forty of them for one path. What cannot be read, listed or passed keeps
the reason why. -/
namespace HeaderOutline

inductive AccessError where
  | missing | notDirectory | isDirectory | tooManyLinks | denied | failing | unnameable | notText
  deriving DecidableEq, Repr

def AccessError.message : AccessError → String
  | missing => "No such file or directory (os error 2)"
  | notDirectory => "Not a directory (os error 20)"
  | isDirectory => "Is a directory (os error 21)"
  | tooManyLinks => "Too many levels of symbolic links (os error 40)"
  | denied => "Permission denied (os error 13)"
  | failing => "Input/output error (os error 5)"
  | unnameable => "file name contained an unexpected NUL byte"
  | notText => "stream did not contain valid UTF-8"

structure Refusals where
  listing : Option AccessError := none
  passing : Option AccessError := none
  deriving DecidableEq, Repr

inductive FileNode where
  | file (content : Except AccessError ByteArray)
  | directory (refusals : Refusals) (entries : List (String × FileNode))
  | link (target : Path)

namespace FileNode

def entry? (name : String) : FileNode → Option FileNode
  | directory _ entries => entries.lookup name
  | _ => none

def at? : FileNode → List String → Option FileNode
  | node, [] => some node
  | node, name :: rest => match node.entry? name with
      | none => none
      | some next => next.at? rest

def put (new : FileNode) : List String → FileNode → FileNode
  | [], _ => new
  | name :: rest, node =>
      let (refusals, entries) := match node with
        | directory refusals entries => (refusals, entries)
        | _ => ({}, [])
      directory refusals (insertEntry name (new.put rest ((entries.lookup name).getD (directory {} []))) entries)

def makeDirectory (names : List String) (node : FileNode) : FileNode :=
  match node.at? names with
  | some _ => node
  | none => (directory {} []).put names node

def isDirectory : FileNode → Bool
  | directory _ _ => true
  | _ => false

def passed : Option FileNode → Except AccessError (List (String × FileNode))
  | some (directory refusals entries) => match refusals.passing with
      | none => .ok entries
      | some cause => .error cause
  | _ => .error .notDirectory

/-- Where components lead from the directory `here`, as names without links. What stands at the first link
is left to `onLink`, together with the place it starts from. -/
def walk (root : FileNode) (onLink : List String → List Component → Except AccessError (List String))
    (here : List String) : List Component → Except AccessError (List String)
  | [] => .ok here
  | .root :: rest => root.walk onLink [] rest
  | .current :: rest => match passed (root.at? here) with
      | .error cause => .error cause
      | .ok _ => root.walk onLink here rest
  | .parent :: rest => match passed (root.at? here) with
      | .error cause => .error cause
      | .ok _ => root.walk onLink here.dropLast rest
  | .normal name :: rest => match passed (root.at? here) with
      | .error cause => .error cause
      | .ok entries => match entries.lookup name with
          | none => .error .missing
          | some (link target) => onLink here (target.steps ++ rest)
          | some _ => root.walk onLink (here ++ [name]) rest

def follow (root : FileNode) : Nat → List String → List Component → Except AccessError (List String)
  | 0 => root.walk fun _ _ => .error .tooManyLinks
  | links + 1 => root.walk (root.follow links)

end FileNode

structure FileTree where
  root : FileNode
  current : List String
  home : Option Path := none

namespace FileTree

def empty : FileTree := { root := .directory {} [], current := [] }

def followedLinks : Nat := 40

def currentPath (tree : FileTree) : Path := .ofNames tree.current

def locate (tree : FileTree) (path : Path) : Except AccessError (List String × FileNode) :=
  if path.text = "" then .error .missing
  else if '\x00' ∈ path.text.toList then .error .unnameable
  else do
    let place ← tree.root.follow followedLinks tree.current path.steps
    match tree.root.at? place with
    | none => .error .missing
    | some node =>
        if path.endsAsDirectory ∧ ¬node.isDirectory then .error .notDirectory else .ok (place, node)

def canonical? (tree : FileTree) (path : Path) : Option Path :=
  if path.text = "" then none
  else match tree.locate (tree.currentPath.join path) with
    | .ok (place, _) => some (.ofNames place)
    | .error _ => none

def has (tree : FileTree) (path : Path) : Bool := (tree.locate path).isOk

def isFile (tree : FileTree) (path : Path) : Bool :=
  match tree.locate path with
  | .ok (_, .file _) => true
  | _ => false

def read (tree : FileTree) (path : Path) : Except AccessError ByteArray :=
  match tree.locate path with
  | .error error => .error error
  | .ok (_, .file content) => content
  | .ok _ => .error .isDirectory

def readText (tree : FileTree) (path : Path) : Except AccessError String :=
  match tree.read path with
  | .error error => .error error
  | .ok content => match String.fromUTF8? content with
      | none => .error .notText
      | some text => .ok text

def upward (tree : FileTree) (path : Path) : List Path :=
  if path.isAbsolute then [path]
  else (List.range (tree.current.length + 1)).map fun up =>
    (Path.ofNames (tree.current.take (tree.current.length - up))).join path

def search? (tree : FileTree) (path : Path) : Option Path := (tree.upward path).find? tree.isFile

end FileTree

end HeaderOutline
