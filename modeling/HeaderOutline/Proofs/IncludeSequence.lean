import HeaderOutline.Proofs.HeaderNames
import HeaderOutline.Proofs.HeaderSearch

/-! What a unit includes, group by group: the listed headers as they stand, then those found that are not listed.
Or the first group that cannot be searched is reported; a directory spelled `-` is never among these, also where it
is missing. The lines of a unit can be read back. -/
namespace HeaderOutline

namespace HeaderGroup

/-- The group is to be searched, and the walk from its directory fails. A directory spelled `-` is not walked at
all, so there this never holds. -/
def Unsearchable (tree : FileTree) (group : HeaderGroup) (error : DiscoveryError) : Prop :=
  group.discover = true ∧ ¬group.directory.Same standardInput ∧ tree.WalkFails group.directory error

def FirstUnsearchable (tree : FileTree) (groups : List HeaderGroup) (error : DiscoveryError) : Prop :=
  ∃ earlier group later, groups = earlier ++ group :: later ∧
    (∀ other ∈ earlier, ∀ error', ¬other.Unsearchable tree error') ∧ group.Unsearchable tree error

def Finds (tree : FileTree) (group : HeaderGroup) (header : String) : Prop :=
  group.discover = true ∧ ∃ found, tree.headersBelow group.directory = .ok found ∧ header ∈ found

def Includes (tree : FileTree) (group : HeaderGroup) (sequence : List String) : Prop :=
  ∃ added, sequence = group.headers ++ added ∧ added.Pairwise Text.ByteBefore ∧
    ∀ header, header ∈ added ↔ group.Finds tree header ∧ header ∉ group.headers

variable {tree : FileTree} {group : HeaderGroup}

theorem searchFails {directory : Path} {error : DiscoveryError} (failed : tree.headersBelow directory = .error error) :
    ¬directory.Same standardInput ∧ tree.WalkFails directory error := by
  cases FileTree.searches failed with
  | fails other fails => exact ⟨other, fails⟩

theorem resolveFails {error : DiscoveryError} (failed : group.resolve tree = .error error) :
    group.Unsearchable tree error := by
  unfold resolve at failed
  split at failed
  · rename_i discover
    cases searched : tree.headersBelow group.directory with
    | error failure =>
        rw [searched] at failed
        cases failed
        exact ⟨discover, searchFails searched⟩
    | ok found =>
        rw [searched] at failed
        contradiction
  · contradiction

theorem resolvedSearched {full : HeaderGroup} (resolved : group.resolve tree = .ok full) (error : DiscoveryError) :
    ¬group.Unsearchable tree error := by
  rintro ⟨discover, other, fails⟩
  unfold resolve at resolved
  rw [if_pos discover] at resolved
  cases searched : tree.headersBelow group.directory with
  | error failure =>
      rw [searched] at resolved
      contradiction
  | ok found => exact FileTree.foundWalked searched other fails

theorem resolvedIncludes {full : HeaderGroup} (resolved : group.resolve tree = .ok full) :
    full.discover = false ∧ group.Includes tree full.headers := by
  unfold resolve at resolved
  split at resolved
  · rename_i discover
    cases searched : tree.headersBelow group.directory with
    | error failure =>
        rw [searched] at resolved
        contradiction
    | ok found =>
        rw [searched] at resolved
        cases resolved
        obtain ⟨added, whole, sublist, once, members⟩ := group.withFoundAdds found
        refine ⟨rfl, added, whole, ascendsOnce ((FileTree.foundAscends searched).sublist sublist) once, fun h => ?_⟩
        rw [members]
        constructor
        · rintro ⟨below, new⟩
          exact ⟨⟨discover, found, searched, below⟩, new⟩
        · rintro ⟨⟨-, found', again, below⟩, new⟩
          cases searched.symm.trans again
          exact ⟨below, new⟩
  · rename_i listedOnly
    cases resolved
    refine ⟨by simpa using listedOnly, [], by simp, .nil, fun h => ?_⟩
    simp [Finds, listedOnly]

theorem resolvedOnce {full : HeaderGroup} (resolved : group.resolve tree = .ok full) (later : FileTree) :
    full.resolve later = .ok full := by
  have listedOnly := (resolvedIncludes resolved).1
  unfold resolve
  rw [if_neg (by simp [listedOnly])]

theorem resolveAllFails {groups : List HeaderGroup} {error : DiscoveryError}
    (failed : resolveAll tree groups = .error error) : FirstUnsearchable tree groups error := by
  induction groups with
  | nil => contradiction
  | cons group rest ih =>
      unfold resolveAll at failed
      cases first : group.resolve tree with
      | error failure =>
          rw [first] at failed
          cases failed
          exact ⟨[], group, rest, rfl, List.forall_mem_nil _, resolveFails first⟩
      | ok full =>
          cases others : resolveAll tree rest with
          | error failure =>
              rw [first, others] at failed
              cases failed
              obtain ⟨earlier, other, later, rfl, before, unsearchable⟩ := ih others
              exact ⟨group :: earlier, other, later, rfl,
                List.forall_mem_cons.mpr ⟨resolvedSearched first, before⟩, unsearchable⟩
          | ok wholes =>
              rw [first, others] at failed
              contradiction

end HeaderGroup

namespace HeaderUnit

def includeOpening : List Char := "#include \"".toList

def readLine (line : List Char) : Option String :=
  let rest := line.drop includeOpening.length
  if line.take includeOpening.length = includeOpening ∧ rest.getLast? = some '"' then
    some (String.ofList rest.dropLast)
  else none

def readContents (contents : String) : Option (List String) :=
  (contents.toList.splitOn '\n').mapM readLine

theorem includeLineText (header : String) :
    (includeLine header).toList = includeOpening ++ (header.toList ++ ['"']) := by
  unfold includeLine includeOpening
  rw [String.toList_append, String.toList_append, List.append_assoc]
  rfl

theorem lineRead (header : String) : readLine (includeLine header).toList = some header := by
  simp only [readLine, includeLineText, List.drop_left, List.take_left, List.getLast?_concat, List.dropLast_concat,
    String.ofList_toList, and_self, if_true]

theorem linesRead (headers : List String) :
    ((headers.map includeLine).map String.toList).mapM readLine = some headers := by
  induction headers with
  | nil => rfl
  | cons header rest ih =>
      rw [List.map_cons, List.map_cons, List.mapM_cons, lineRead, ih]
      rfl

theorem contentsRead {headers : List String} (nonempty : headers ≠ [])
    (unbroken : ∀ header ∈ headers, '\n' ∉ header.toList) :
    readContents ("\n".intercalate (headers.map includeLine)) = some headers := by
  have free : ∀ line ∈ headers.map includeLine, '\n' ∉ line.toList := by
    intro line listed
    obtain ⟨header, inside, rfl⟩ := List.mem_map.mp listed
    have opening : '\n' ∉ includeOpening := by decide +kernel
    rw [includeLineText]
    simp [opening, unbroken header inside]
  unfold readContents
  rw [Text.splitIntercalate rfl (by simpa using nonempty) free, linesRead]

structure Lists (unit : HeaderUnit) (headers : List String) : Prop where
  contents : unit.contents = "\n".intercalate (headers.map includeLine)
  read : (∀ header ∈ headers, '\n' ∉ header.toList) → readContents unit.contents = some headers

theorem buildFails {tree : FileTree} {settings : Settings} {error : DiscoveryError}
    (failed : build tree settings = .error error) : HeaderGroup.FirstUnsearchable tree settings.headers error := by
  unfold build at failed
  cases resolved : HeaderGroup.resolveAll tree settings.headers with
  | error failure =>
      rw [resolved] at failed
      cases failed
      exact HeaderGroup.resolveAllFails resolved
  | ok groups =>
      rw [resolved] at failed
      contradiction

theorem buildResolved {tree : FileTree} {settings : Settings} {built : Option HeaderUnit}
    (success : build tree settings = .ok built) : ∃ groups,
      HeaderGroup.resolveAll tree settings.headers = .ok groups ∧ ofGroups tree settings groups = built := by
  unfold build at success
  cases resolved : HeaderGroup.resolveAll tree settings.headers with
  | error failure =>
      rw [resolved] at success
      contradiction
  | ok groups =>
      rw [resolved] at success
      exact ⟨groups, rfl, Except.ok.inj success⟩

theorem groupsListed {tree : FileTree} {settings : Settings} {groups : List HeaderGroup} {unit : HeaderUnit}
    (resolved : HeaderGroup.resolveAll tree settings.headers = .ok groups)
    (made : ofGroups tree settings groups = some unit) : unit.Lists (headersOf groups) := by
  have contents := (groupsSource resolved made).contents
  refine ⟨contents, fun unbroken => ?_⟩
  have nonempty : headersOf groups ≠ [] := by
    intro nothing
    rw [groupsNothing.mpr nothing] at made
    contradiction
  rw [contents]
  exact contentsRead nonempty unbroken

end HeaderUnit

open HeaderUnit HeaderGroup in
theorem includeSequence (tree : FileTree) (settings : Settings) :
    ((∃ error, build tree settings = .error error) ↔
      ∃ group ∈ settings.headers, ∃ error, group.Unsearchable tree error) ∧
    (∀ error, build tree settings = .error error → FirstUnsearchable tree settings.headers error) ∧
    (∀ built, build tree settings = .ok built → ∃ sequences,
      List.Forall₂ (Includes tree) settings.headers sequences ∧
      (built = none ↔ sequences.flatten = []) ∧ ∀ unit ∈ built, unit.Lists sequences.flatten) ∧
    ∀ (group full : HeaderGroup), group.resolve tree = .ok full →
      ∀ later, full.resolve later = .ok full := by
  refine ⟨⟨?_, ?_⟩, fun error => buildFails, ?_, fun group full resolved => resolvedOnce resolved⟩
  · rintro ⟨error, failed⟩
    obtain ⟨earlier, group, later, split, -, unsearchable⟩ := buildFails failed
    exact ⟨group, by simp [split], error, unsearchable⟩
  · rintro ⟨group, listed, error, unsearchable⟩
    cases outcome : build tree settings with
    | error failure => exact ⟨failure, rfl⟩
    | ok built =>
        obtain ⟨groups, resolved, -⟩ := buildResolved outcome
        have searched := (List.forall₂_and_left _ _).mp <| (resolvedEach resolved).imp fun _ _ each =>
          And.intro (resolvedSearched each) each
        exact absurd unsearchable (searched.1 group listed error)
  · intro built success
    obtain ⟨groups, resolved, made⟩ := buildResolved success
    refine ⟨groups.map (·.headers), ?_, ?_, ?_⟩
    · rw [List.forall₂_map_right_iff]
      exact (resolvedEach resolved).imp fun _ _ each => (resolvedIncludes each).2
    · rw [← made, groupsNothing]
      rfl
    · intro unit given
      exact groupsListed resolved (made.trans given)

def dashSearched : Settings := { Settings.default with headers := [⟨standardInput, [], true⟩] }

theorem missingUnreported :
    ¬∀ (tree : FileTree) (settings : Settings), (∃ error, HeaderUnit.build tree settings = .error error) ↔
      ∃ group ∈ settings.headers, group.discover = true ∧ ∃ error, tree.WalkFails group.directory error := by
  intro reported
  have missing : FileTree.empty.locate standardInput = .error .missing := rfl
  obtain ⟨error, failed⟩ := (reported .empty dashSearched).mpr
    ⟨⟨standardInput, [], true⟩, List.mem_cons_self, rfl, _, .unlocated missing⟩
  have built : HeaderUnit.build .empty dashSearched = .ok none := rfl
  cases built.symm.trans failed

end HeaderOutline
