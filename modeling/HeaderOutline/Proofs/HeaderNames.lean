import HeaderOutline.Proofs.DirectoryWalk
import HeaderOutline.Proofs.PathSplitting
import Mathlib.Data.List.Forall2

/-! The headers of valid settings, listed and found. A header is found by its extension, so there is a letter in
the name that it is found under; but a header file given in place of a directory is found under the empty
name. That is the only way to an include line that names nothing. -/
namespace HeaderOutline

namespace Path

theorem segmentWithin {text segment : List Char} {c : Char} (listed : segment ∈ (Parts.ofText text).segments)
    (inside : c ∈ segment) : c ∈ text := by
  suffices piece : segment ∈ text.splitOn '/' from Text.pieceWithin piece inside
  unfold Parts.ofText at listed
  split at listed
  · contradiction
  · rename_i pieces
    rw [pieces]
    exact List.mem_cons_of_mem _ listed
  · rename_i pieces
    rw [pieces]
    exact List.mem_cons_of_mem _ listed
  · exact listed

theorem lastWithin {parts : Parts} {segment : List Char} (last : parts.splitLast.2 = some segment) :
    segment ∈ parts.segments := by
  have cuts := parts.splitLastCuts
  generalize parts.splitLast = cut at cuts last
  cases cuts with
  | nothing skipped => contradiction
  | segment skipped segments uncounted counts =>
      cases last
      rw [segments]
      exact List.mem_append_right _ List.mem_cons_self

theorem fileNameWithin {path : Path} {name : String} {c : Char} (found : path.fileName? = some name)
    (inside : c ∈ name.toList) : c ∈ path.text.toList := by
  unfold fileName? at found
  split at found
  · rename_i made
    cases Option.some.inj found
    obtain ⟨segment, last, normal⟩ := Option.bind_eq_some_iff.mp made
    rw [Component.segmentNormal normal] at inside
    exact segmentWithin (lastWithin last) inside
  · contradiction

theorem extensionWithin {path : Path} {extension : String} {c : Char}
    (found : path.extension? = some extension) (inside : c ∈ extension.toList) : c ∈ path.text.toList := by
  obtain ⟨name, named, cut⟩ := Option.bind_eq_some_iff.mp found
  refine fileNameWithin named ?_
  dsimp only at cut
  split at cut
  · cases Option.some.inj cut
    rw [String.toList_ofList, List.mem_reverse] at inside
    exact List.mem_reverse.mp ((List.takeWhile_prefix _).subset inside)
  · contradiction

end Path

def Lettered (name : String) : Prop := 'h' ∈ name.toList

theorem letteredNotBlank {name : String} (lettered : Lettered name) : ¬Text.IsBlank name := by
  intro blank
  have letter : Text.isWhiteSpace 'h' = false := by decide
  have white := Text.isBlankIff.mp blank 'h' lettered
  rw [letter] at white
  contradiction

theorem headerLettered {path : Path} (header : isHeaderName path = true) : Lettered path.text := by
  unfold isHeaderName at header
  split at header
  · contradiction
  · rename_i extension found
    have known : extension = "h" ∨ extension = "hpp" := by simpa [headerExtensions] using header
    refine Path.extensionWithin found ?_
    rcases known with rfl | rfl <;> decide

mutual
theorem namedLettered (name : String) : (node : FileNode) → ∀ names ∈ node.headersNamed name,
    ∃ last ∈ names, Lettered last
  | .file _, names, listed => by
      unfold FileNode.headersNamed at listed
      split at listed
      · rename_i header
        rw [List.mem_singleton.mp listed]
        exact ⟨name, List.mem_singleton_self name, headerLettered header⟩
      · contradiction
  | .directory _ entries, names, listed => by
      unfold FileNode.headersNamed at listed
      obtain ⟨below, found, rfl⟩ := List.mem_map.mp listed
      obtain ⟨last, inside, lettered⟩ := listedLettered entries below found
      exact ⟨last, List.mem_cons_of_mem name inside, lettered⟩
  | .link _, names, listed => by
      unfold FileNode.headersNamed at listed
      contradiction

theorem listedLettered : (entries : List (String × FileNode)) → ∀ names ∈ FileNode.headersIn entries,
    ∃ last ∈ names, Lettered last
  | [], names, listed => by
      unfold FileNode.headersIn at listed
      contradiction
  | entry :: rest, names, listed => by
      unfold FileNode.headersIn at listed
      rcases List.mem_append.mp listed with here | later
      · exact entryLettered entry names here
      · exact listedLettered rest names later

theorem entryLettered : (entry : String × FileNode) → ∀ names ∈ FileNode.headersEntry entry,
    ∃ last ∈ names, Lettered last
  | (name, node), names, listed => by
      unfold FileNode.headersEntry at listed
      split at listed
      · contradiction
      · exact namedLettered name node names listed
end

def FileTree.HeaderAt (tree : FileTree) (directory : Path) : Prop :=
  ¬directory.Same standardInput ∧ isHeaderName directory = true ∧
    ∃ place node, tree.locate directory = .ok (place, node) ∧ node.isDirectory = false

theorem headerAtFound {tree : FileTree} {directory : Path} (header : tree.HeaderAt directory) :
    tree.headersBelow directory = .ok [""] := by
  obtain ⟨given, named, place, node, located, noDirectory⟩ := header
  unfold FileTree.headersBelow
  rw [if_neg given, located]
  cases node with
  | directory refusals entries => contradiction
  | file _ | link _ => exact congrArg Except.ok (if_pos named)

theorem foundLettered {tree : FileTree} {directory : Path} {found : List String}
    (searched : tree.headersBelow directory = .ok found) (noHeader : ¬tree.HeaderAt directory) :
    ∀ h ∈ found, Lettered h := by
  cases FileTree.searches searched with
  | input same => nofun
  | @found place refusals entries other located unshut =>
      intro h listed
      obtain ⟨names, below, rfl⟩ := List.mem_map.mp (List.mem_mergeSort.mp listed)
      obtain ⟨last, inside, lettered⟩ := listedLettered entries names below
      unfold Lettered
      rw [String.toList_intercalate]
      exact Text.joinedWithin (List.mem_map_of_mem inside) lettered
  -- What stands there is no directory, so it is found, under the empty name, just if it is a header.
  | @alone place node other located noDirectory =>
      have unnamed : ¬isHeaderName directory = true := fun named =>
        noHeader ⟨other, named, place, node, located, noDirectory⟩
      rw [if_neg unnamed]
      nofun

theorem foundBlank {tree : FileTree} {directory : Path} {found : List String}
    (searched : tree.headersBelow directory = .ok found) (h : String) :
    h ∈ found ∧ Text.IsBlank h ↔ h = "" ∧ tree.HeaderAt directory := by
  by_cases header : tree.HeaderAt directory
  · cases searched.symm.trans (headerAtFound header)
    constructor
    · rintro ⟨listed, -⟩
      exact ⟨List.mem_singleton.mp listed, header⟩
    · rintro ⟨rfl, -⟩
      exact ⟨List.mem_singleton_self "", rfl⟩
  · constructor
    · rintro ⟨listed, blank⟩
      exact absurd blank (letteredNotBlank (foundLettered searched header h listed))
    · rintro ⟨-, given⟩
      exact absurd given header

theorem withFoundMember (group : HeaderGroup) (found : List String) (h : String) :
    h ∈ (group.withFound found).headers ↔ h ∈ group.headers ∨ h ∈ found := by
  obtain ⟨added, whole, -, -, members⟩ := group.withFoundAdds found
  rw [whole, List.mem_append, members]
  by_cases listed : h ∈ group.headers <;> simp [listed]

theorem resolvedBlank {tree : FileTree} {group full : HeaderGroup} (resolved : group.resolve tree = .ok full)
    (named : ∀ h ∈ group.headers, ¬Text.IsBlank h) (h : String) :
    h ∈ full.headers ∧ Text.IsBlank h ↔
      h = "" ∧ group.discover = true ∧ tree.HeaderAt group.directory := by
  unfold HeaderGroup.resolve at resolved
  split at resolved
  · rename_i discover
    cases searched : tree.headersBelow group.directory with
    | error cause =>
        rw [searched] at resolved
        contradiction
    | ok found =>
        rw [searched] at resolved
        cases resolved
        rw [withFoundMember]
        constructor
        · rintro ⟨given | below, blank⟩
          · exact absurd blank (named h given)
          · obtain ⟨empty, header⟩ := (foundBlank searched h).mp ⟨below, blank⟩
            exact ⟨empty, discover, header⟩
        · rintro ⟨empty, -, header⟩
          obtain ⟨below, blank⟩ := (foundBlank searched h).mpr ⟨empty, header⟩
          exact ⟨.inr below, blank⟩
  · rename_i listedOnly
    cases resolved
    constructor
    · rintro ⟨given, blank⟩
      exact absurd blank (named h given)
    · rintro ⟨-, discover, -⟩
      exact absurd discover listedOnly

theorem resolvedEach {tree : FileTree} {groups full : List HeaderGroup}
    (resolved : HeaderGroup.resolveAll tree groups = .ok full) :
    List.Forall₂ (fun group whole => group.resolve tree = .ok whole) groups full := by
  induction groups generalizing full with
  | nil =>
      cases resolved
      exact .nil
  | cons group rest ih =>
      unfold HeaderGroup.resolveAll at resolved
      cases first : group.resolve tree with
      | error cause =>
          rw [first] at resolved
          contradiction
      | ok whole =>
          cases others : HeaderGroup.resolveAll tree rest with
          | error cause =>
              rw [first, others] at resolved
              contradiction
          | ok wholes =>
              rw [first, others] at resolved
              cases resolved
              exact .cons first (ih others)

theorem blankHeaders (tree : FileTree) (settings : Settings) (valid : settings.Valid)
    (groups : List HeaderGroup) (resolved : HeaderGroup.resolveAll tree settings.headers = .ok groups) :
    List.Forall₂ (fun group full => ∀ h, h ∈ full.headers ∧ Text.IsBlank h ↔
      h = "" ∧ group.discover = true ∧ tree.HeaderAt group.directory) settings.headers groups ∧
    ∀ unit, HeaderUnit.build tree settings = .ok (some unit) →
      unit.contents = "\n".intercalate ((HeaderUnit.headersOf groups).map HeaderUnit.includeLine) := by
  constructor
  · have named := (Settings.validNamed.mp valid).headers
    refine List.forall₂_iff_zip.mpr ⟨(resolvedEach resolved).length_eq, fun {group full} listed => ?_⟩
    have each := (List.forall₂_iff_zip.mp (resolvedEach resolved)).2 listed
    exact resolvedBlank each (named group (List.of_mem_zip listed).1)
  · intro unit built
    obtain ⟨groups', source⟩ := HeaderUnit.builtSource built
    cases resolved.symm.trans source.resolved
    exact source.contents

def loneHeader : FileTree := { root := .directory {} [("a.h", .file (.ok .empty))], current := [] }

def headerSearched : Settings := { Settings.default with headers := [⟨⟨"a.h"⟩, ["x.h"], true⟩] }

theorem headerAtSearched :
    headerSearched.Valid ∧
    HeaderGroup.resolveAll loneHeader headerSearched.headers = .ok [⟨⟨"a.h"⟩, ["x.h", ""], false⟩] ∧
    "" ∈ ["x.h", ""] ∧ Text.IsBlank "" ∧
    ∃ unit, HeaderUnit.build loneHeader headerSearched = .ok (some unit) ∧
      unit.contents = "#include \"x.h\"\n#include \"\"" := by
  have valid : headerSearched.Valid := by decide
  have resolved : HeaderGroup.resolveAll loneHeader headerSearched.headers =
      .ok [⟨⟨"a.h"⟩, ["x.h", ""], false⟩] := rfl
  have header : loneHeader.HeaderAt ⟨"a.h"⟩ :=
    ⟨by decide, by decide, ["a.h"], .file (.ok .empty), rfl, rfl⟩
  obtain ⟨blank, contents⟩ := blankHeaders loneHeader headerSearched valid _ resolved
  cases blank with
  | cons here _ =>
    obtain ⟨listed, empty⟩ := (here "").mpr ⟨rfl, rfl, header⟩
    exact ⟨valid, resolved, listed, empty, _, rfl, contents _ rfl⟩

theorem validYetBlank :
    ¬∀ (settings : Settings) (tree : FileTree) (groups : List HeaderGroup), settings.Valid →
      HeaderGroup.resolveAll tree settings.headers = .ok groups →
        ∀ group ∈ groups, ∀ h ∈ group.headers, ¬Text.IsBlank h := by
  intro named
  have resolved : HeaderGroup.resolveAll loneHeader headerSearched.headers =
      .ok [⟨⟨"a.h"⟩, ["x.h", ""], false⟩] := rfl
  exact named headerSearched loneHeader _ (by decide) resolved _ List.mem_cons_self "" (by decide) (by decide)

end HeaderOutline
