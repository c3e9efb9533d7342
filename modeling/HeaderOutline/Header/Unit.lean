import HeaderOutline.Header.Discovery
import HeaderOutline.Settings.Basic

/-! The one file that includes every configured header, and what the front end is told about it. -/
namespace HeaderOutline

structure HeaderUnit where
  fileName : String
  contents : String
  searchPaths : List Path
  arguments : List String
  deriving DecidableEq, Repr

namespace HeaderUnit

def includeLine (header : String) : String := "#include \"" ++ header ++ "\""

def firstSpellings (paths : List Path) : List Path :=
  paths.foldl (fun kept path => if kept.any fun k => k.Same path then kept else kept ++ [path]) []

def insertOrdered (path : Path) : List Path → List Path
  | [] => [path]
  | head :: rest =>
      if path.Same head then path :: rest
      else if path.Before head then path :: head :: rest
      else head :: insertOrdered path rest

def ordered (paths : List Path) : List Path := paths.foldl (fun kept path => insertOrdered path kept) []

/-- The explicit directories in their order, then the groups' directories that are not among them. A
directory that cannot be made canonical stands as written. -/
def searchPathsFor (canonical? : Path → Option Path) (explicit : List Path) (groups : List HeaderGroup) :
    List Path :=
  let first := firstSpellings explicit
  let directories := groups.map fun group => (canonical? group.directory).getD group.directory
  first ++ (ordered directories).filter fun path => !first.any fun kept => kept.Same path

def headersOf (groups : List HeaderGroup) : List String := groups.flatMap (·.headers)

def ofGroups (tree : FileTree) (settings : Settings) (groups : List HeaderGroup) : Option HeaderUnit :=
  match headersOf groups with
  | [] => none
  | headers =>
      let paths := searchPathsFor tree.canonical? settings.includeDirs groups
      some
        { fileName := settings.inputName
          contents := "\n".intercalate (headers.map includeLine)
          searchPaths := paths
          arguments := settings.frontEndArguments ++ paths.map (fun path => "-I" ++ path.text) ++
            settings.macroDefinitions.map ("-D" ++ ·) }

theorem groupsNothing {tree : FileTree} {settings : Settings} {groups : List HeaderGroup} :
    ofGroups tree settings groups = none ↔ headersOf groups = [] := by
  unfold ofGroups
  split <;> simp_all

def build (tree : FileTree) (settings : Settings) : Except DiscoveryError (Option HeaderUnit) :=
  (HeaderGroup.resolveAll tree settings.headers).map (ofGroups tree settings)

structure Source (tree : FileTree) (settings : Settings) (groups : List HeaderGroup) (unit : HeaderUnit) :
    Prop where
  resolved : HeaderGroup.resolveAll tree settings.headers = .ok groups
  fileName : unit.fileName = settings.inputName
  contents : unit.contents = "\n".intercalate ((headersOf groups).map includeLine)
  searchPaths : unit.searchPaths = searchPathsFor tree.canonical? settings.includeDirs groups
  arguments : unit.arguments = settings.frontEndArguments ++
    unit.searchPaths.map (fun path => "-I" ++ path.text) ++ settings.macroDefinitions.map ("-D" ++ ·)

theorem groupsSource {tree : FileTree} {settings : Settings} {groups : List HeaderGroup} {unit : HeaderUnit}
    (resolved : HeaderGroup.resolveAll tree settings.headers = .ok groups)
    (made : ofGroups tree settings groups = some unit) : Source tree settings groups unit := by
  unfold ofGroups at made
  split at made
  · contradiction
  · cases Option.some.inj made
    exact ⟨resolved, rfl, rfl, rfl, rfl⟩

theorem builtSource {tree : FileTree} {settings : Settings} {unit : HeaderUnit}
    (built : build tree settings = .ok (some unit)) : ∃ groups, Source tree settings groups unit := by
  unfold build at built
  cases resolved : HeaderGroup.resolveAll tree settings.headers with
  | error cause =>
      rw [resolved] at built
      contradiction
  | ok groups =>
      rw [resolved] at built
      exact ⟨groups, groupsSource resolved (Except.ok.inj built)⟩

end HeaderUnit

end HeaderOutline
