import HeaderOutline.FileTree
import HeaderOutline.Header.Group

/-! Finding headers below a directory: regular files with extension `h` or `hpp`, hidden ones too, but
nothing below the version-control directories and nothing through a link. The search fails at the first
directory that it cannot open. A path spelled `-` stands for the standard input: nothing is found below it, and
it is never opened, whatever has that name. -/
namespace HeaderOutline

def headerExtensions : List String := ["h", "hpp"]

def prunedNames : List String := [".git", ".svn"]

def isHeaderName (path : Path) : Bool :=
  match path.extension? with
  | none => false
  | some extension => extension ∈ headerExtensions

mutual
def FileNode.headersNamed (name : String) : FileNode → List (List String)
  | .file _ => if isHeaderName ⟨name⟩ then [[name]] else []
  | .directory _ entries => (FileNode.headersIn entries).map (name :: ·)
  | .link _ => []
termination_by structural node => node

def FileNode.headersIn : List (String × FileNode) → List (List String)
  | [] => []
  | entry :: rest => FileNode.headersEntry entry ++ FileNode.headersIn rest
termination_by structural entries => entries

def FileNode.headersEntry : String × FileNode → List (List String)
  | (name, node) => if name ∈ prunedNames then [] else node.headersNamed name
termination_by structural entry => entry
end

mutual
def FileNode.shut : FileNode → List (List String × AccessError)
  | .directory refusals entries => match refusals.listing with
      | some cause => [([], cause)]
      | none => FileNode.shutIn refusals.passing entries
  | .file _ => []
  | .link _ => []
termination_by structural node => node

def FileNode.shutIn (passing : Option AccessError) : List (String × FileNode) → List (List String × AccessError)
  | [] => []
  | entry :: rest => FileNode.shutEntry passing entry ++ FileNode.shutIn passing rest
termination_by structural entries => entries

def FileNode.shutEntry (passing : Option AccessError) : String × FileNode → List (List String × AccessError)
  | (name, node) =>
      if name ∈ prunedNames ∨ ¬node.isDirectory then []
      else match passing with
        | some cause => [([name], cause)]
        | none => node.shut.map fun (names, cause) => (name :: names, cause)
termination_by structural entry => entry
end

/-- The one that is met first: entries are gone through in the order of their names. -/
def firstMet? : List (List String × AccessError) → Option (List String × AccessError)
  | [] => none
  | head :: rest => match firstMet? rest with
      | none => some head
      | some met => some (if met.1 < head.1 then met else head)

structure DiscoveryError where
  directory : Path
  place : Path
  cause : AccessError
  deriving DecidableEq, Repr

def DiscoveryError.detail (error : DiscoveryError) : String :=
  error.place.text ++ ": IO error for operation on " ++ error.place.text ++ ": " ++ error.cause.message

def DiscoveryError.message (error : DiscoveryError) : String :=
  "Header discovery failed under '" ++ error.directory.text ++ "': " ++ error.detail

structure DiscoveryEvent where
  directory : Path
  count : Nat
  deriving DecidableEq, Repr

def standardInput : Path := ⟨"-"⟩

/-- The headers below a directory, in byte order of their relative paths. A header file given in place of
a directory is found under the empty name. -/
def FileTree.headersBelow (tree : FileTree) (directory : Path) : Except DiscoveryError (List String) :=
  if directory.Same standardInput then .ok []
  else match tree.locate directory with
    | .error cause => .error ⟨directory, directory, cause⟩
    | .ok (_, .directory refusals entries) => match firstMet? (FileNode.directory refusals entries).shut with
        | some (names, cause) => .error ⟨directory, directory.below names, cause⟩
        | none => .ok (((FileNode.headersIn entries).map ("/".intercalate ·)).mergeSort fun a b => a ≤ b)
    | .ok _ => .ok (if isHeaderName directory then [""] else [])

namespace HeaderGroup

def resolve (tree : FileTree) (group : HeaderGroup) : Except DiscoveryError HeaderGroup :=
  if group.discover then (tree.headersBelow group.directory).map group.withFound
  else .ok group

def resolveAll (tree : FileTree) : List HeaderGroup → Except DiscoveryError (List HeaderGroup)
  | [] => .ok []
  | group :: rest => do
      let resolved ← group.resolve tree
      let others ← resolveAll tree rest
      .ok (resolved :: others)

def searches (tree : FileTree) : List HeaderGroup → List DiscoveryEvent
  | [] => []
  | group :: rest =>
      if group.discover then
        match tree.headersBelow group.directory with
        | .error _ => []
        | .ok found => ⟨group.directory, found.length⟩ :: searches tree rest
      else searches tree rest

end HeaderGroup

end HeaderOutline
