import HeaderOutline.Proofs.HeaderNames
import Mathlib.Data.List.Induction

/-! Where the front end searches: the explicit directories as they were first written, then the groups' directories
in the order of paths. Paths are compared by their components throughout, so no path stands there twice, however
it is spelled. -/
namespace HeaderOutline

namespace Component

theorem lessIrrefl (c : Component) : ¬c < c := by
  rintro (rank | ⟨-, name⟩)
  · exact Nat.lt_irrefl _ rank
  · exact String.lt_irrefl _ name

theorem lessTrans {a b c : Component} (first : a < b) (second : b < c) : a < c := by
  rcases first with rank | ⟨rank, name⟩ <;> rcases second with rank' | ⟨rank', name'⟩
  · exact .inl (Nat.lt_trans rank rank')
  · exact .inl (rank' ▸ rank)
  · exact .inl (rank ▸ rank')
  · exact .inr ⟨rank.trans rank', String.lt_trans name name'⟩

theorem eqOfRankName {a b : Component} (rank : a.rank = b.rank) (name : a.name = b.name) : a = b := by
  cases a <;> cases b <;> simp_all [Component.rank, Component.name]

theorem eqOfNotLess {a b : Component} (notBefore : ¬a < b) (notAfter : ¬b < a) : a = b := by
  obtain ⟨rankBefore, nameBefore⟩ := not_or.mp notBefore
  obtain ⟨rankAfter, nameAfter⟩ := not_or.mp notAfter
  have rank : a.rank = b.rank := Nat.le_antisymm (Nat.not_lt.mp rankAfter) (Nat.not_lt.mp rankBefore)
  refine eqOfRankName rank (String.le_antisymm ?_ ?_)
  · exact String.not_lt.mp fun less => nameAfter ⟨rank.symm, less⟩
  · exact String.not_lt.mp fun less => nameBefore ⟨rank, less⟩

instance : Std.Irrefl (α := Component) (· < ·) := ⟨lessIrrefl⟩

instance : Std.Asymm (α := Component) (· < ·) := ⟨fun a _ before after => lessIrrefl a (lessTrans before after)⟩

instance : Trans (α := Component) (· < ·) (· < ·) (· < ·) := ⟨lessTrans⟩

instance : Std.Trichotomous (α := Component) (· < ·) := ⟨fun _ _ => eqOfNotLess⟩

end Component

namespace Path

variable {p q r : Path}

theorem beforeTrans (first : p.Before q) (second : q.Before r) : p.Before r := List.lt_trans first second

theorem beforeApart (before : p.Before q) : ¬p.Same q := by
  intro same
  unfold Before at before
  rw [show p.components = q.components from same] at before
  exact List.lt_irrefl q.components before

theorem beforeOfApart (apart : ¬p.Same q) (notBefore : ¬p.Before q) : q.Before p := by
  by_cases after : q.Before p
  · exact after
  · exact absurd (List.le_antisymm (List.not_lt.mp after) (List.not_lt.mp notBefore)) apart

def firstOccurrences (paths : List Path) : List Path :=
  (paths.zipIdx.filter fun entry => (paths.take entry.2).all fun earlier => ¬earlier.Same entry.1).map Prod.fst

theorem firstOccurrencesConcat (paths : List Path) (path : Path) : firstOccurrences (paths ++ [path]) =
    firstOccurrences paths ++ if ∀ earlier ∈ paths, ¬earlier.Same path then [path] else [] := by
  unfold firstOccurrences
  rw [List.zipIdx_append, List.filter_append, List.map_append]
  congr 1
  · refine congrArg _ (List.filter_congr fun entry listed => ?_)
    have place : entry.2 ≤ paths.length := Nat.le_of_lt (by simpa using List.snd_lt_of_mem_zipIdx listed)
    rw [List.take_append_of_le_length place]
  · have whole : (paths ++ [path]).take (0 + paths.length) = paths := by simp
    have fresh : (paths.all fun earlier => ¬earlier.Same path) = true ↔ ∀ earlier ∈ paths, ¬earlier.Same path := by
      simp
    rw [List.zipIdx_singleton, List.filter_singleton, whole, cond_eq_ite]
    simp only [fresh]
    split <;> rfl

end Path

namespace HeaderUnit
open HeaderOutline.Path

structure Sorts (paths kept : List Path) : Prop where
  ascends : kept.Pairwise Before
  listed : ∀ path ∈ kept, path ∈ paths
  covers : ∀ path ∈ paths, ∃ other ∈ kept, other.Same path

variable {path : Path} {kept : List Path}

theorem insertedOnly {other : Path} (listed : other ∈ insertOrdered path kept) : other = path ∨ other ∈ kept := by
  induction kept with
  | nil => exact .inl (List.mem_singleton.mp listed)
  | cons head rest ih =>
      unfold insertOrdered at listed
      split at listed
      · exact (List.mem_cons.mp listed).imp_right (List.mem_cons_of_mem head)
      · split at listed
        · exact List.mem_cons.mp listed
        · rcases List.mem_cons.mp listed with rfl | later
          · exact .inr List.mem_cons_self
          · exact (ih later).imp_right (List.mem_cons_of_mem head)

theorem insertedHere (path : Path) (kept : List Path) : path ∈ insertOrdered path kept := by
  induction kept with
  | nil => exact List.mem_cons_self
  | cons head rest ih =>
      unfold insertOrdered
      split
      · exact List.mem_cons_self
      · split
        · exact List.mem_cons_self
        · exact List.mem_cons_of_mem head ih

theorem insertedCovers (path : Path) {other : Path} (listed : other ∈ kept) :
    ∃ spelled ∈ insertOrdered path kept, spelled.Same other := by
  induction kept with
  | nil => contradiction
  | cons head rest ih =>
      unfold insertOrdered
      split
      · rename_i same
        rcases List.mem_cons.mp listed with rfl | later
        · exact ⟨path, List.mem_cons_self, same⟩
        · exact ⟨other, List.mem_cons_of_mem path later, rfl⟩
      · split
        · exact ⟨other, List.mem_cons_of_mem path listed, rfl⟩
        · rcases List.mem_cons.mp listed with rfl | later
          · exact ⟨other, List.mem_cons_self, rfl⟩
          · obtain ⟨spelled, inside, same⟩ := ih later
            exact ⟨spelled, List.mem_cons_of_mem head inside, same⟩

theorem insertedAscends (path : Path) (ascends : kept.Pairwise Before) :
    (insertOrdered path kept).Pairwise Before := by
  induction kept with
  | nil => exact List.pairwise_singleton _ _
  | cons head rest ih =>
      obtain ⟨first, others⟩ := List.pairwise_cons.mp ascends
      unfold insertOrdered
      split
      · -- The other spelling stands before all that the spelling it replaces stood before.
        rename_i same
        refine List.pairwise_cons.mpr ⟨fun other later => ?_, others⟩
        have before : head.Before other := first other later
        unfold Before at before ⊢
        rwa [show path.components = head.components from same]
      · rename_i apart
        split
        · rename_i before
          refine List.pairwise_cons.mpr ⟨fun other later => ?_, ascends⟩
          rcases List.mem_cons.mp later with rfl | behind
          · exact before
          · exact beforeTrans before (first other behind)
        · rename_i notBefore
          refine List.pairwise_cons.mpr ⟨fun other later => ?_, ih others⟩
          rcases insertedOnly later with rfl | behind
          · exact beforeOfApart apart notBefore
          · exact first other behind

theorem insertSorts {paths : List Path} (sorts : Sorts paths kept) (path : Path) :
    Sorts (paths ++ [path]) (insertOrdered path kept) where
  ascends := insertedAscends path sorts.ascends
  listed other inside := by
    rcases insertedOnly inside with rfl | before
    · exact List.mem_append_right paths (List.mem_singleton_self other)
    · exact List.mem_append_left [path] (sorts.listed other before)
  covers other given := by
    rcases List.mem_append.mp given with before | new
    · obtain ⟨spelled, inside, same⟩ := sorts.covers other before
      obtain ⟨later, stands, again⟩ := insertedCovers path inside
      exact ⟨later, stands, again.trans same⟩
    · rw [List.mem_singleton.mp new]
      exact ⟨path, insertedHere path kept, rfl⟩

theorem orderedSorts (paths : List Path) : Sorts paths (ordered paths) := by
  induction paths using List.reverseRecOn with
  | nil => exact ⟨.nil, nofun, nofun⟩
  | append_singleton paths path ih =>
      unfold ordered
      rw [List.foldl_append]
      exact insertSorts ih path

structure Keeps (paths kept : List Path) : Prop where
  first : kept = firstOccurrences paths
  apart : kept.Pairwise fun p q => ¬p.Same q
  covers : ∀ path, (∃ other ∈ kept, other.Same path) ↔ ∃ other ∈ paths, other.Same path

theorem keepsKnown {paths : List Path} (keeps : Keeps paths kept) (known : ∃ other ∈ paths, other.Same path) :
    Keeps (paths ++ [path]) kept := by
  refine ⟨?_, keeps.apart, fun sought => ?_⟩
  · rw [firstOccurrencesConcat, if_neg (by simpa using known), List.append_nil, keeps.first]
  · rw [keeps.covers sought]
    constructor
    · rintro ⟨other, inside, same⟩
      exact ⟨other, List.mem_append_left _ inside, same⟩
    · rintro ⟨other, inside, same⟩
      rcases List.mem_append.mp inside with before | new
      · exact ⟨other, before, same⟩
      · obtain ⟨former, held, again⟩ := known
        rw [List.mem_singleton.mp new] at same
        exact ⟨former, held, again.trans same⟩

theorem keepsNew {paths : List Path} (keeps : Keeps paths kept) (new : ¬∃ other ∈ paths, other.Same path) :
    Keeps (paths ++ [path]) (kept ++ [path]) := by
  refine ⟨?_, ?_, fun sought => ?_⟩
  · rw [firstOccurrencesConcat, if_pos (by simpa using new), keeps.first]
  · refine List.pairwise_append.mpr
      ⟨keeps.apart, List.pairwise_singleton _ _, fun former held last given same => ?_⟩
    rw [List.mem_singleton.mp given] at same
    exact new ((keeps.covers path).mp ⟨former, held, same⟩)
  · simp only [List.mem_append, or_and_right, exists_or, keeps.covers sought]

theorem firstSpellingsKeep (paths : List Path) : Keeps paths (firstSpellings paths) := by
  induction paths using List.reverseRecOn with
  | nil => exact ⟨rfl, .nil, fun _ => Iff.rfl⟩
  | append_singleton paths path ih =>
      have step : firstSpellings (paths ++ [path]) =
          if (firstSpellings paths).any fun k => k.Same path then firstSpellings paths
          else firstSpellings paths ++ [path] := by
        unfold firstSpellings
        rw [List.foldl_append]
        rfl
      have held : ((firstSpellings paths).any fun k => k.Same path) = true ↔ ∃ other ∈ paths, other.Same path := by
        rw [← ih.covers path]
        simp
      rw [step]
      split
      · rename_i known
        exact keepsKnown ih (held.mp known)
      · rename_i new
        exact keepsNew ih (mt held.mpr new)

def directoryOf (canonical? : Path → Option Path) (group : HeaderGroup) : Path :=
  (canonical? group.directory).getD group.directory

structure Behind (explicit directories rest : List Path) : Prop where
  ascends : rest.Pairwise Before
  spelled : ∀ path ∈ rest, path ∈ directories
  exactly : ∀ path, (∃ other ∈ rest, other.Same path) ↔
    (∃ directory ∈ directories, directory.Same path) ∧ ∀ written ∈ explicit, ¬written.Same path

structure SearchLaw (canonical? : Path → Option Path) (explicit : List Path) (groups : List HeaderGroup)
    (paths : List Path) : Prop where
  apart : paths.Pairwise fun p q => ¬p.Same q
  parts : ∃ rest, paths = firstOccurrences explicit ++ rest ∧
    Behind explicit (groups.map (directoryOf canonical?)) rest

theorem behindOrdered (explicit directories : List Path) : Behind explicit directories
    ((ordered directories).filter fun path => !(firstSpellings explicit).any fun kept => kept.Same path) := by
  obtain ⟨ascends, listed, covers⟩ := orderedSorts directories
  have kept (path : Path) : (!(firstSpellings explicit).any fun kept => kept.Same path) = true ↔
      ∀ written ∈ explicit, ¬written.Same path := by
    have known := (firstSpellingsKeep explicit).covers path
    simpa using not_congr known
  refine ⟨ascends.filter _, fun path inside => listed path (List.mem_filter.mp inside).1, fun path => ?_⟩
  constructor
  · rintro ⟨other, inside, same⟩
    obtain ⟨held, free⟩ := List.mem_filter.mp inside
    refine ⟨⟨other, listed other held, same⟩, fun written given again => ?_⟩
    exact (kept other).mp free written given (again.trans same.symm)
  · rintro ⟨⟨directory, given, same⟩, free⟩
    obtain ⟨other, held, again⟩ := covers directory given
    have spelled : other.Same path := again.trans same
    refine ⟨other, List.mem_filter.mpr ⟨held, (kept other).mpr fun written known twice => ?_⟩, spelled⟩
    exact free written known (twice.trans spelled)

theorem searchPathsLawful (canonical? : Path → Option Path) (explicit : List Path) (groups : List HeaderGroup) :
    SearchLaw canonical? explicit groups (searchPathsFor canonical? explicit groups) := by
  have behind := behindOrdered explicit (groups.map (directoryOf canonical?))
  obtain ⟨first, apart, covers⟩ := firstSpellingsKeep explicit
  refine ⟨List.pairwise_append.mpr ⟨apart, behind.ascends.imp beforeApart, fun p held q later same => ?_⟩,
    _, congrArg (· ++ _) first, behind⟩
  -- A path behind the explicit ones differs from all of them, so from those that are kept.
  obtain ⟨written, given, again⟩ := (covers p).mp ⟨p, held, rfl⟩
  exact ((behind.exactly q).mp ⟨q, later, rfl⟩).2 written given (again.trans same)

theorem resolvedDirectory {tree : FileTree} {group full : HeaderGroup} (resolved : group.resolve tree = .ok full) :
    full.directory = group.directory := by
  unfold HeaderGroup.resolve at resolved
  split at resolved
  · cases searched : tree.headersBelow group.directory with
    | error cause =>
        rw [searched] at resolved
        contradiction
    | ok found =>
        rw [searched] at resolved
        cases resolved
        rfl
  · cases resolved
    rfl

theorem resolvedSearchPaths {tree : FileTree} {groups full : List HeaderGroup}
    (resolved : HeaderGroup.resolveAll tree groups = .ok full) (canonical? : Path → Option Path)
    (explicit : List Path) :
    searchPathsFor canonical? explicit full = searchPathsFor canonical? explicit groups := by
  have directories : full.map (directoryOf canonical?) = groups.map (directoryOf canonical?) := by
    rw [← List.forall₂_eq_eq_eq, List.forall₂_map_left_iff, List.forall₂_map_right_iff]
    refine (resolvedEach resolved).flip.imp fun whole group each => ?_
    unfold directoryOf
    rw [resolvedDirectory each]
  unfold searchPathsFor
  exact congrArg (fun given => _ ++ (ordered given).filter _) directories

theorem searchPathLaw (canonical? : Path → Option Path) (explicit : List Path) (groups : List HeaderGroup) :
    SearchLaw canonical? explicit groups (searchPathsFor canonical? explicit groups) ∧
    ∀ (tree : FileTree) (settings : Settings) (unit : HeaderUnit), build tree settings = .ok (some unit) →
      unit.searchPaths = searchPathsFor tree.canonical? settings.includeDirs settings.headers ∧
      unit.arguments = settings.frontEndArguments ++ unit.searchPaths.map (fun path => "-I" ++ path.text) ++
        settings.macroDefinitions.map ("-D" ++ ·) := by
  refine ⟨searchPathsLawful canonical? explicit groups, fun tree settings unit built => ?_⟩
  obtain ⟨full, source⟩ := builtSource built
  exact ⟨source.searchPaths.trans (resolvedSearchPaths source.resolved _ _), source.arguments⟩

def respelled : Settings :=
  { Settings.default with
    headers := [⟨⟨"x-y"⟩, ["a.h"], false⟩, ⟨⟨"inc"⟩, ["b.h"], false⟩, ⟨⟨"x//y"⟩, ["c.h"], false⟩,
      ⟨⟨"x/./y/"⟩, ["d.h"], false⟩, ⟨⟨"./inc"⟩, ["e.h"], false⟩]
    includeDirs := [⟨"inc/"⟩, ⟨"/opt"⟩, ⟨"inc/."⟩] }

theorem respelledSearched : ∃ unit, build FileTree.empty respelled = .ok (some unit) ∧
    unit.searchPaths = [⟨"inc/"⟩, ⟨"/opt"⟩, ⟨"./inc"⟩, ⟨"x/./y/"⟩, ⟨"x-y"⟩] ∧
    unit.searchPaths.Pairwise (fun p q => ¬p.Same q) ∧
    unit.arguments = ["-x", "c++", "-std=c++17", "-Wno-everything"] ++
      ["-Iinc/", "-I/opt", "-I./inc", "-Ix/./y/", "-Ix-y"] := by
  have searched : searchPathsFor FileTree.empty.canonical? respelled.includeDirs respelled.headers =
      [⟨"inc/"⟩, ⟨"/opt"⟩, ⟨"./inc"⟩, ⟨"x/./y/"⟩, ⟨"x-y"⟩] := by decide +kernel
  obtain ⟨law, made⟩ := searchPathLaw FileTree.empty.canonical? respelled.includeDirs respelled.headers
  obtain ⟨paths, arguments⟩ := made FileTree.empty respelled _ rfl
  refine ⟨_, rfl, paths.trans searched, paths ▸ law.apart, ?_⟩
  rw [arguments, paths, searched]
  rfl

end HeaderUnit

end HeaderOutline
