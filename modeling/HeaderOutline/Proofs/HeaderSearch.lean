import HeaderOutline.Proofs.ByteOrder
import HeaderOutline.Proofs.DirectoryWalk
import HeaderOutline.Proofs.FileChange
import HeaderOutline.Proofs.FileNames
import HeaderOutline.Proofs.Texts
import Mathlib.Data.List.Nodup
import Mathlib.Data.List.Sort

/-! A search below a directory finds its header files and nothing else, each once and in the order of bytes. One
directory stays unsearched: a path spelled `-` means the standard input, also where a directory has that name. -/
namespace HeaderOutline

namespace FileNode

inductive Named : FileNode → Prop
  | file (content : Except AccessError ByteArray) : Named (file content)
  | link (target : Path) : Named (link target)
  | directory {refusals : Refusals} {entries : List (String × FileNode)} (distinct : (entries.map Prod.fst).Nodup)
      (slashless : ∀ entry ∈ entries, '/' ∉ entry.1.toList) (below : ∀ entry ∈ entries, Named entry.2) :
      Named (directory refusals entries)

@[simp] theorem namedFile (content : Except AccessError ByteArray) : (file content).Named := .file content

@[simp] theorem namedLink (target : Path) : (link target).Named := .link target

@[simp] theorem namedDirectory {refusals : Refusals} {entries : List (String × FileNode)} :
    (directory refusals entries).Named ↔
    (entries.map Prod.fst).Nodup ∧ (∀ entry ∈ entries, '/' ∉ entry.1.toList) ∧
      ∀ entry ∈ entries, entry.2.Named := by
  constructor
  · rintro ⟨⟩
    exact ⟨‹_›, ‹_›, ‹_›⟩
  · rintro ⟨distinct, slashless, below⟩
    exact .directory distinct slashless below

/-- The names lead to a header file, through no link and no version-control directory. -/
structure HeaderBelow (node : FileNode) (names : List String) : Prop where
  file : ∃ content, node.at? names = some (.file content)
  header : ∀ last ∈ names.getLast?, IsHeaderFile last
  kept : ∀ name ∈ names, name ≠ ".git" ∧ name ≠ ".svn"

theorem namedAt {node : FileNode} (named : node.Named) {names : List String} {found : FileNode}
    (held : node.at? names = some found) : found.Named ∧ ∀ name ∈ names, '/' ∉ name.toList := by
  induction names generalizing node with
  | nil =>
      cases Option.some.inj held
      exact ⟨named, nofun⟩
  | cons name rest ih =>
      cases named with
      | file | link => cases held
      | directory distinct slashless below =>
          rw [atDirectory] at held
          obtain ⟨next, looked, later⟩ := Option.bind_eq_some_iff.mp held
          have listed := lookupListed looked
          obtain ⟨foundNamed, restSlashless⟩ := ih (below _ listed) later
          exact ⟨foundNamed, List.forall_mem_cons.mpr ⟨slashless _ listed, restSlashless⟩⟩

theorem headersInEq (entries : List (String × FileNode)) : headersIn entries = entries.flatMap headersEntry := by
  induction entries with
  | nil => rfl
  | cons entry rest ih => rw [headersIn, ih, List.flatMap_cons]

theorem headersEntryMember {entry : String × FileNode} {names : List String} :
    names ∈ headersEntry entry ↔
      (entry.1 ≠ ".git" ∧ entry.1 ≠ ".svn") ∧ names ∈ entry.2.headersNamed entry.1 := by
  have kept : entry.1 ∉ prunedNames ↔ entry.1 ≠ ".git" ∧ entry.1 ≠ ".svn" := by simp [prunedNames]
  rw [← kept]
  unfold headersEntry
  split <;> simp_all

structure HeaderAs (node : FileNode) (name : String) (below : List String) : Prop where
  file : ∃ content, node.at? below = some (.file content)
  header : IsHeaderFile (below.getLast?.getD name)
  kept : ∀ name ∈ below, name ≠ ".git" ∧ name ≠ ".svn"

theorem directoryHeader {refusals : Refusals} {entries : List (String × FileNode)} {name : String}
    {below : List String} :
    (directory refusals entries).HeaderAs name below ↔ (directory refusals entries).HeaderBelow below := by
  cases below with
  | nil =>
      constructor
      · rintro ⟨⟨content, held⟩, -, -⟩
        cases held
      · rintro ⟨⟨content, held⟩, -, -⟩
        cases held
  | cons first rest =>
      constructor
      · rintro ⟨file, header, kept⟩
        exact ⟨file, by simpa [List.getLast?_cons] using header, kept⟩
      · rintro ⟨file, header, kept⟩
        exact ⟨file, by simpa [List.getLast?_cons] using header, kept⟩

theorem headersInExact (refusals : Refusals) {entries : List (String × FileNode)}
    (distinct : (entries.map Prod.fst).Nodup)
    (each : ∀ entry ∈ entries, ∀ names, names ∈ entry.2.headersNamed entry.1 ↔
      ∃ below, names = entry.1 :: below ∧ entry.2.HeaderAs entry.1 below) (names : List String) :
    names ∈ headersIn entries ↔ (directory refusals entries).HeaderBelow names := by
  -- Every entry brings what is below it, and no other has its name.
  rw [headersInEq, List.mem_flatMap]
  constructor
  · rintro ⟨⟨name, node⟩, listed, brought⟩
    obtain ⟨own, found⟩ := headersEntryMember.mp brought
    obtain ⟨below, rfl, ⟨content, held⟩, header, kept⟩ := (each _ listed names).mp found
    refine ⟨⟨content, ?_⟩, by simpa [List.getLast?_cons] using header, List.forall_mem_cons.mpr ⟨own, kept⟩⟩
    rw [atDirectory, listedLookup distinct listed]
    exact held
  · rintro ⟨⟨content, held⟩, header, kept⟩
    cases names with
    | nil => cases held
    | cons name below =>
        rw [atDirectory] at held
        obtain ⟨node, looked, later⟩ := Option.bind_eq_some_iff.mp held
        have listed := lookupListed looked
        obtain ⟨own, belowKept⟩ := List.forall_mem_cons.mp kept
        refine ⟨(name, node), listed, headersEntryMember.mpr ⟨own, ?_⟩⟩
        refine (each _ listed _).mpr ⟨below, rfl, ⟨content, later⟩, ?_, belowKept⟩
        simpa [List.getLast?_cons] using header

theorem headersNamedExact {node : FileNode} (named : node.Named) {name : String} (slashless : '/' ∉ name.toList)
    (names : List String) : names ∈ node.headersNamed name ↔
      ∃ below, names = name :: below ∧ node.HeaderAs name below := by
  induction named generalizing name names with
  | file content =>
      rw [headersNamed]
      constructor
      · intro found
        split at found
        · rename_i header
          exact ⟨[], List.mem_singleton.mp found, ⟨content, rfl⟩, (headerNameExact slashless).mp header, by simp⟩
        · contradiction
      · rintro ⟨below, rfl, ⟨content', held⟩, header, -⟩
        cases below with
        | nil => simp [(headerNameExact slashless).mpr header]
        | cons => cases held
  | link target =>
      constructor
      · intro found
        contradiction
      · rintro ⟨below, rfl, ⟨content, held⟩, -⟩
        cases below <;> cases held
  | @directory refusals entries distinct entriesSlashless below ih =>
      have inside := headersInExact refusals distinct fun entry listed =>
        ih entry listed (entriesSlashless entry listed)
      rw [headersNamed, List.mem_map]
      constructor
      · rintro ⟨below, found, rfl⟩
        exact ⟨below, rfl, directoryHeader.mpr ((inside below).mp found)⟩
      · rintro ⟨below, rfl, header⟩
        exact ⟨below, (inside below).mpr (directoryHeader.mp header), rfl⟩

theorem searchExact {refusals : Refusals} {entries : List (String × FileNode)}
    (named : (directory refusals entries).Named) (names : List String) :
    names ∈ headersIn entries ↔ (directory refusals entries).HeaderBelow names := by
  cases named with
  | directory distinct slashless below =>
      exact headersInExact refusals distinct
        (fun entry listed => headersNamedExact (below entry listed) (slashless entry listed)) names

theorem headersNamedHead {node : FileNode} {name : String} {names : List String}
    (found : names ∈ node.headersNamed name) : names.head? = some name := by
  cases node with
  | file content =>
      rw [headersNamed] at found
      split at found
      · rw [List.mem_singleton.mp found]
        rfl
      · contradiction
  | directory refusals entries =>
      rw [headersNamed] at found
      obtain ⟨below, -, rfl⟩ := List.mem_map.mp found
      rfl
  | link target => contradiction

theorem headersInNodup {entries : List (String × FileNode)} (distinct : (entries.map Prod.fst).Nodup)
    (each : ∀ entry ∈ entries, (entry.2.headersNamed entry.1).Nodup) : (headersIn entries).Nodup := by
  rw [headersInEq, List.nodup_flatMap]
  constructor
  · intro entry listed
    unfold headersEntry
    split
    · exact List.nodup_nil
    · exact each entry listed
  · refine (List.pairwise_map.mp distinct).imp fun {one other} apart names inOne inOther => apart ?_
    have first := headersNamedHead (headersEntryMember.mp inOne).2
    have second := headersNamedHead (headersEntryMember.mp inOther).2
    exact Option.some.inj (first.symm.trans second)

theorem headersNamedNodup {node : FileNode} (named : node.Named) (name : String) :
    (node.headersNamed name).Nodup := by
  induction named generalizing name with
  | file content =>
      rw [headersNamed]
      split <;> simp
  | link target => exact List.nodup_nil
  | directory distinct slashless below ih =>
      rw [headersNamed]
      exact (headersInNodup distinct fun entry listed => ih entry listed entry.1).map (List.cons_injective)

theorem searchNodup {refusals : Refusals} {entries : List (String × FileNode)}
    (named : (directory refusals entries).Named) : (headersIn entries).Nodup := by
  cases named with
  | directory distinct slashless below =>
      exact headersInNodup distinct fun entry listed => headersNamedNodup (below entry listed) entry.1

end FileNode

namespace FileTree

variable {tree : FileTree} {directory : Path}

theorem locatedNode {place : List String} {node : FileNode}
    (located : tree.locate directory = .ok (place, node)) : tree.root.at? place = some node := by
  unfold locate at located
  split at located
  · contradiction
  · split at located
    · contradiction
    · cases followed : tree.root.follow followedLinks tree.current directory.steps with
      | error cause =>
          rw [followed] at located
          contradiction
      | ok reached =>
          simp only [followed, bind, Except.bind] at located
          split at located
          · contradiction
          · split at located
            · contradiction
            · cases located
              assumption

theorem foundAscends {found : List String} (searched : tree.headersBelow directory = .ok found) :
    found.Pairwise (· ≤ ·) := by
  have sorted (names : List String) : (names.mergeSort fun a b => a ≤ b).Pairwise fun a b => decide (a ≤ b) :=
    List.pairwise_mergeSort
      (fun a b c first second => by simpa using String.le_trans (by simpa using first) (by simpa using second))
      (fun a b => by simpa using String.le_total a b) names
  cases searches searched with
  | input same => exact .nil
  | found other located unshut => exact (sorted _).imp fun less => of_decide_eq_true less
  | alone other located noDirectory => split <;> simp

end FileTree

theorem ascendsOnce {found : List String} (ascends : found.Pairwise (· ≤ ·)) (once : found.Nodup) :
    found.Pairwise Text.ByteBefore := by
  refine (ascends.and once).imp fun {a b} order => Text.byteOrder.mpr ?_
  by_cases before : a < b
  · exact before
  · exact absurd (String.le_antisymm order.1 (String.not_lt.mp before)) order.2

theorem joinedOnce {refusals : Refusals} {entries : List (String × FileNode)}
    (named : (FileNode.directory refusals entries).Named) :
    ((FileNode.headersIn entries).map ("/".intercalate ·)).Nodup := by
  have slashless (names : List String) (listed : names ∈ FileNode.headersIn entries) :
      names ≠ [] ∧ ∀ name ∈ names, '/' ∉ name.toList := by
    obtain ⟨⟨content, held⟩, -, -⟩ := (FileNode.searchExact named names).mp listed
    refine ⟨?_, (FileNode.namedAt named held).2⟩
    rintro rfl
    cases held
  refine (FileNode.searchNodup named).map_on fun xs inXs ys inYs same => ?_
  obtain ⟨xsNonempty, xsFree⟩ := slashless xs inXs
  obtain ⟨ysNonempty, ysFree⟩ := slashless ys inYs
  exact Text.intercalateOnly rfl xsNonempty ysNonempty xsFree ysFree same

theorem discoveryExact (tree : FileTree) (directory : Path) (place : List String) (refusals : Refusals)
    (entries : List (String × FileNode)) (named : tree.root.Named)
    (located : tree.locate directory = .ok (place, .directory refusals entries))
    (readable : ∀ names cause, ¬(FileNode.directory refusals entries).Shut names cause) :
    ∃ found, tree.headersBelow directory = .ok found ∧ found.Pairwise Text.ByteBefore ∧
      ∀ header, header ∈ found ↔ ¬directory.Same standardInput ∧
        ∃ names, header = "/".intercalate names ∧ (FileNode.directory refusals entries).HeaderBelow names := by
  by_cases input : directory.Same standardInput
  · exact ⟨[], if_pos input, .nil, by simp [input]⟩
  · have searched := FileTree.readableFound input located readable
    have below := (FileNode.namedAt named (FileTree.locatedNode located)).1
    have once := (List.mergeSort_perm _ fun a b : String => a ≤ b).nodup_iff.mpr (joinedOnce below)
    refine ⟨_, searched, ascendsOnce (FileTree.foundAscends searched) once, fun header => ?_⟩
    rw [List.mem_mergeSort, List.mem_map]
    constructor
    · rintro ⟨names, listed, rfl⟩
      exact ⟨input, names, rfl, (FileNode.searchExact below names).mp listed⟩
    · rintro ⟨-, names, rfl, header⟩
      exact ⟨names, (FileNode.searchExact below names).mpr header, rfl⟩

def includeEntries : List (String × FileNode) :=
  [("a", .directory {}
      [(".c.hpp", .file (.ok .empty)), (".git", .directory {} [("d.h", .file (.ok .empty))])]),
   ("a-b.h", .file (.ok .empty)), (".h", .file (.ok .empty)), ("l.h", .link ⟨"a-b.h"⟩)]

def includeTree : FileTree := { root := .directory {} [("inc", .directory {} includeEntries)], current := [] }

theorem includeSearched : includeTree.root.Named ∧
    includeTree.locate ⟨"inc"⟩ = .ok (["inc"], .directory {} includeEntries) ∧
    (∀ names cause, ¬(FileNode.directory {} includeEntries).Shut names cause) ∧
    ∃ found, includeTree.headersBelow ⟨"inc"⟩ = .ok found ∧ found.Pairwise Text.ByteBefore ∧
      "a-b.h" ∈ found ∧ "a/.c.hpp" ∈ found := by
  have named : includeTree.root.Named := by simp [includeTree, includeEntries]
  have located : includeTree.locate ⟨"inc"⟩ = .ok (["inc"], .directory {} includeEntries) := rfl
  have readable (names : List String) (cause : AccessError) :
      ¬(FileNode.directory {} includeEntries).Shut names cause := by
    rw [← FileNode.shutExact]
    exact List.not_mem_nil
  obtain ⟨found, searched, ascends, exact⟩ := discoveryExact includeTree ⟨"inc"⟩ _ _ _ named located readable
  have given : ¬(Path.mk "inc").Same standardInput := by decide
  refine ⟨named, located, readable, found, searched, ascends, ?_, ?_⟩
  · exact (exact _).mpr ⟨given, ["a-b.h"], rfl, ⟨_, rfl⟩,
      by simpa using ⟨"a-b", "h", by decide, .inl rfl, rfl⟩, by simp⟩
  · exact (exact _).mpr ⟨given, ["a", ".c.hpp"], rfl, ⟨_, rfl⟩,
      by simpa using ⟨".c", "hpp", by decide, .inr rfl, rfl⟩, by simp⟩

def dashTree : FileTree :=
  { root := .directory {} [("-", .directory {} [("a.h", .file (.ok .empty))])], current := [] }

theorem dashUnsearched :
    ¬∀ (tree : FileTree) (directory : Path) (place : List String) (refusals : Refusals)
      (entries : List (String × FileNode)), tree.root.Named →
      tree.locate directory = .ok (place, .directory refusals entries) →
      (∀ names cause, ¬(FileNode.directory refusals entries).Shut names cause) →
        ∃ found, tree.headersBelow directory = .ok found ∧ found.Pairwise Text.ByteBefore ∧
          ∀ header, header ∈ found ↔
            ∃ names, header = "/".intercalate names ∧ (FileNode.directory refusals entries).HeaderBelow names := by
  intro everySearched
  have named : dashTree.root.Named := by simp [dashTree]
  have readable (names : List String) (cause : AccessError) :
      ¬(FileNode.directory {} [("a.h", .file (.ok .empty))]).Shut names cause := by
    rw [← FileNode.shutExact]
    exact List.not_mem_nil
  obtain ⟨found, searched, -, exact⟩ := everySearched dashTree ⟨"-"⟩ ["-"] {} _ named rfl readable
  have unsearched : dashTree.headersBelow ⟨"-"⟩ = .ok [] := if_pos (by decide)
  cases unsearched.symm.trans searched
  have listed := (exact "a.h").mpr ⟨["a.h"], rfl, ⟨_, rfl⟩,
    by simpa using ⟨"a", "h", by decide, .inl rfl, rfl⟩, by simp⟩
  contradiction

end HeaderOutline
