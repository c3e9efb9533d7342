import HeaderOutline.Proofs.ValidSettings
import Mathlib.Data.List.TakeWhile

/-! A path cut at its last component. Segments that do not count may stand before the cut and behind it, so what is
left in front is spelled without those at its end; read again, it has the components that stood there. -/
namespace HeaderOutline

namespace Component

theorem segmentNormal {segment : List Char} {name : String}
    (made : ofSegment? segment = some (.normal name)) : name.toList = segment := by
  unfold ofSegment? at made
  split at made
  · contradiction
  · split at made
    · cases made
    · cases made
      exact String.toList_ofList

end Component

namespace Path

namespace Parts
open Component (ofSegment?)

variable {parts : Parts}

/-- What a text can be cut into: no segment holds a slash, and a path that begins at a name does not begin
with a segment that would be read as another beginning. -/
structure Spelled (parts : Parts) : Prop where
  slashless : ∀ segment ∈ parts.segments, '/' ∉ segment
  begins : parts.start = .name → ∀ first ∈ parts.segments.head?, first ≠ [] ∧ first ≠ ['.']

theorem ofTextSpelled (text : List Char) : (ofText text).Spelled := by
  have free : ∀ piece ∈ text.splitOn '/', '/' ∉ piece := Text.pieceFree
  unfold ofText
  split
  · exact ⟨nofun, nofun⟩
  · rename_i pieces
    rw [pieces] at free
    exact ⟨(List.forall_mem_cons.mp free).2, nofun⟩
  · rename_i pieces
    rw [pieces] at free
    exact ⟨(List.forall_mem_cons.mp free).2, nofun⟩
  · rename_i noRoot noCurrent
    refine ⟨free, fun _ first here => ?_⟩
    obtain ⟨rest, pieces⟩ := List.head?_eq_some_iff.mp here
    constructor <;> rintro rfl
    · exact noRoot rest pieces
    · exact noCurrent rest pieces

theorem spelledFront {start : Start} {front back : List (List Char)} (spelled : Spelled ⟨start, front ++ back⟩) :
    Spelled ⟨start, front⟩ := by
  constructor
  · intro segment listed
    exact spelled.slashless segment (List.mem_append_left back listed)
  · intro named first here
    refine spelled.begins named first ?_
    rw [List.head?_append, Option.mem_def.mp here]
    rfl

theorem textComponents (spelled : parts.Spelled) : (ofText parts.text).components = parts.components := by
  obtain ⟨start, segments⟩ := parts
  cases segments with
  | nil => cases start <;> rfl
  | cons first rest =>
      have whole : (['/'].intercalate (first :: rest)).splitOn '/' = first :: rest :=
        List.splitOn_intercalate '/' spelled.slashless (by simp)
      cases start with
      | root =>
          have cut : (text ⟨.root, first :: rest⟩).splitOn '/' = [] :: first :: rest := by
            simp [text, List.splitOn_cons_eq_if_modifyHead, whole]
          unfold ofText
          rw [cut]
      | current =>
          have cut : (text ⟨.current, first :: rest⟩).splitOn '/' = ['.'] :: first :: rest := by
            simp [text, List.splitOn_cons_eq_if_modifyHead, whole]
          unfold ofText
          rw [cut]
          rfl
      | name =>
          obtain ⟨nonempty, noCurrent⟩ := spelled.begins rfl first rfl
          unfold ofText
          rw [show (text ⟨.name, first :: rest⟩).splitOn '/' = first :: rest from whole]
          split <;> simp_all

inductive Last (parts : Parts) : List (List Char) × Option (List Char) → Prop
  | nothing (skipped : ∀ segment ∈ parts.segments, ofSegment? segment = none) : Last parts ([], none)
  | segment {before : List (List Char)} {last : List Char} {component : Component} (skipped : List (List Char))
      (segments : parts.segments = before ++ last :: skipped) (uncounted : ∀ s ∈ skipped, ofSegment? s = none)
      (counts : ofSegment? last = some component) : Last parts (before, some last)

theorem withoutSkipped (segments : List (List Char)) : ∃ skipped,
    segments = (segments.reverse.dropWhile fun s => (ofSegment? s).isNone).reverse ++ skipped ∧
    ∀ s ∈ skipped, ofSegment? s = none := by
  refine ⟨(segments.reverse.takeWhile fun s => (ofSegment? s).isNone).reverse, ?_, fun s listed => ?_⟩
  · rw [← List.reverse_append, List.takeWhile_append_dropWhile, List.reverse_reverse]
  · have inside := List.all_eq_true.mp List.all_takeWhile s (List.mem_reverse.mp listed)
    simpa using inside

theorem splitLastCuts (parts : Parts) : parts.Last parts.splitLast := by
  obtain ⟨skipped, segments, uncounted⟩ := withoutSkipped parts.segments
  unfold splitLast
  split
  · rename_i nothing
    rw [nothing] at segments
    exact .nothing (segments ▸ uncounted)
  · rename_i last before kept
    have first := List.head?_dropWhile_not (fun s => (ofSegment? s).isNone) parts.segments.reverse
    rw [kept] at first
    obtain ⟨component, counts⟩ : ∃ component, ofSegment? last = some component :=
      Option.isSome_iff_exists.mp (by simpa using first)
    rw [kept, List.reverse_cons, List.append_assoc] at segments
    exact .segment skipped segments uncounted counts

theorem trimmedComponents (parts : Parts) : parts.trimmed.components = parts.components := by
  obtain ⟨skipped, segments, uncounted⟩ := withoutSkipped parts.segments
  have silent : skipped.filterMap ofSegment? = [] := List.filterMap_eq_nil_iff.mpr uncounted
  unfold components
  rw [segments, List.filterMap_append, silent, List.append_nil]
  rfl

theorem trimmedSpelled (spelled : parts.Spelled) : parts.trimmed.Spelled := by
  obtain ⟨skipped, segments, -⟩ := withoutSkipped parts.segments
  obtain ⟨start, all⟩ := parts
  rw [show all = _ from segments] at spelled
  exact spelledFront spelled

theorem trimmedNothing (nothing : parts.components = []) : parts.trimmed.text = [] := by
  obtain ⟨start, segments⟩ := parts
  obtain ⟨noStart, silent⟩ := List.append_eq_nil_iff.mp nothing
  cases start with
  | root | current => contradiction
  | name =>
      have uncounted := List.filterMap_eq_nil_iff.mp silent
      have all : (segments.reverse.dropWhile fun s => (ofSegment? s).isNone) = [] := by
        rw [List.dropWhile_eq_nil_iff]
        simpa using uncounted
      unfold trimmed
      rw [all]
      rfl

theorem startComponents (skipped : ∀ segment ∈ parts.segments, ofSegment? segment = none) :
    parts.components = parts.start.component?.toList := by
  unfold components
  rw [List.filterMap_eq_nil_iff.mpr skipped, List.append_nil]

theorem lastComponents {before skipped : List (List Char)} {last : List Char} {component : Component}
    (segments : parts.segments = before ++ last :: skipped) (uncounted : ∀ s ∈ skipped, ofSegment? s = none)
    (counts : ofSegment? last = some component) :
    parts.components = components ⟨parts.start, before⟩ ++ [component] := by
  have silent : skipped.filterMap ofSegment? = [] := List.filterMap_eq_nil_iff.mpr uncounted
  unfold components
  rw [segments, List.filterMap_append, List.filterMap_cons_some counts, silent, List.append_assoc]

end Parts

variable {path parent : Path} {name : String}

theorem fileNameExact : path.fileName? = some name ↔ path.components.getLast? = some (.normal name) := by
  have cuts := path.parts.splitLastCuts
  unfold fileName? components
  generalize path.parts.splitLast = cut at cuts
  cases cuts with
  | nothing skipped =>
      rw [Parts.startComponents skipped]
      cases path.parts.start <;> simp [Start.component?]
  | @segment before last component skipped segments uncounted counts =>
      rw [Parts.lastComponents segments uncounted counts, List.getLast?_concat, Option.bind_some, counts]
      cases component <;> simp

theorem trimmedRead {parts : Parts} (spelled : parts.Spelled) :
    components ⟨String.ofList parts.trimmed.text⟩ = parts.components := by
  unfold components Path.parts
  rw [String.toList_ofList, Parts.textComponents (Parts.trimmedSpelled spelled), Parts.trimmedComponents]

theorem parentComponents (above : path.parent? = some parent) :
    parent.components = path.components.dropLast ∧ (parent.components = [] → parent.text = "") := by
  -- What a path stands in has all components but the last, and without components it is not written.
  have cuts := path.parts.splitLastCuts
  unfold parent? at above
  generalize path.parts.splitLast = cut at cuts above
  cases cuts with
  | nothing skipped =>
      dsimp only at above
      split at above
      · rename_i current
        cases above
        refine ⟨?_, fun _ => rfl⟩
        rw [components.eq_def path, Parts.startComponents skipped, current]
        rfl
      · contradiction
  | @segment before last component skipped segments uncounted counts =>
      cases above
      have whole : Parts.Spelled ⟨path.parts.start, before ++ last :: skipped⟩ := by
        rw [← segments]
        exact Parts.ofTextSpelled path.text.toList
      rw [trimmedRead (Parts.spelledFront whole)]
      constructor
      · rw [components.eq_def path, Parts.lastComponents segments uncounted counts, List.dropLast_concat]
      · intro nothing
        rw [Parts.trimmedNothing nothing]

example : (Path.mk "a/./b.h").parent? = some ⟨"a"⟩ := by decide +kernel

theorem parentOfName (named : path.fileName? = some name) : ∃ parent, path.parent? = some parent := by
  unfold fileName? at named
  unfold parent?
  split
  · exact ⟨_, rfl⟩
  · rename_i cut
    rw [cut] at named
    contradiction

theorem segmentAlone {segment : List Char} {component : Component} (slashless : '/' ∉ segment)
    (counts : Component.ofSegment? segment = some component) :
    components ⟨String.ofList segment⟩ = [component] := by
  have spelled : Parts.Spelled ⟨.name, [segment]⟩ := by
    refine ⟨by simpa using slashless, fun _ first here => ?_⟩
    cases Option.some.inj here
    constructor <;> rintro rfl <;> contradiction
  have read := Parts.textComponents spelled
  rw [show Parts.text ⟨.name, [segment]⟩ = segment from List.intercalate_singleton] at read
  unfold components parts
  rw [String.toList_ofList]
  refine read.trans ?_
  simp [Parts.components, Start.component?, counts]

theorem nameAlone (named : path.fileName? = some name) : components ⟨name⟩ = [.normal name] := by
  have cuts := path.parts.splitLastCuts
  unfold fileName? at named
  generalize path.parts.splitLast = cut at cuts named
  cases cuts with
  | nothing skipped => contradiction
  | @segment before last component skipped segments uncounted counts =>
      have slashless : '/' ∉ last := by
        refine (Parts.ofTextSpelled path.text.toList).slashless last ?_
        rw [show (Parts.ofText path.text.toList).segments = _ from segments]
        exact List.mem_append_right before List.mem_cons_self
      rw [Option.bind_some, counts] at named
      cases component with
      | normal written =>
          cases named
          have alone := segmentAlone slashless counts
          rwa [← Component.segmentNormal counts, String.ofList_toList] at alone
      | root | current | parent => contradiction

end Path

namespace HeaderGroup

variable {path parent : Path}

theorem directoryOfPath (above : path.parent? = some parent) :
    (ofHeaderPath path).directory = if parent.text = "" then ⟨"."⟩ else parent := by
  unfold ofHeaderPath
  rw [above]

theorem directoryExact {name : String} {front : List Component} (split : path.components = front ++ [.normal name]) :
    (front ≠ [] → (ofHeaderPath path).directory.components = front) ∧
    (front = [] → (ofHeaderPath path).directory = ⟨"."⟩) := by
  have named : path.fileName? = some name := Path.fileNameExact.mpr (by rw [split, List.getLast?_concat])
  obtain ⟨parent, above⟩ := Path.parentOfName named
  obtain ⟨before, unwritten⟩ := Path.parentComponents above
  rw [split, List.dropLast_concat] at before
  rw [directoryOfPath above, ← before]
  refine ⟨fun several => ?_, fun nothing => by rw [if_pos (unwritten nothing)]⟩
  have written : parent.text ≠ "" := by
    intro empty
    obtain ⟨text⟩ := parent
    cases empty
    exact several rfl
  rw [if_neg written]

theorem blankInvalid {settings : Settings} {group : HeaderGroup} {header : String}
    (listed : group ∈ settings.headers) (inside : header ∈ group.headers) (blank : Text.IsBlank header) :
    ¬settings.Valid := fun valid =>
  (Settings.validNamed.mp valid).headers group listed header inside blank

theorem headerPathSplit (path : Path) :
    (ofHeaderPath path).discover = false ∧
    (∀ name, path.components.getLast? = some (.normal name) →
      (ofHeaderPath path).headers = [name] ∧ (Path.mk name).components = [.normal name] ∧
      (2 ≤ path.components.length →
        (ofHeaderPath path).directory.components ++ (Path.mk name).components = path.components) ∧
      (path.components.length = 1 → (ofHeaderPath path).directory = ⟨"."⟩)) ∧
    ((∀ name, path.components.getLast? ≠ some (.normal name)) →
      (ofHeaderPath path).headers = [""] ∧
      ∀ settings : Settings, ofHeaderPath path ∈ settings.headers → ¬settings.Valid) := by
  refine ⟨rfl, fun name last => ?_, fun nameless => ?_⟩
  · have named := Path.fileNameExact.mpr last
    have alone := Path.nameAlone named
    obtain ⟨front, split⟩ := List.getLast?_eq_some_iff.mp last
    obtain ⟨several, single⟩ := directoryExact split
    rw [alone, split, List.length_append, List.length_singleton]
    refine ⟨by simp [ofHeaderPath, named], rfl, fun long => ?_, fun short => ?_⟩
    · rw [several (List.length_pos_iff.mp (by omega))]
    · exact single (List.length_eq_zero_iff.mp (by omega))
  · have unnamed : path.fileName? = none :=
      Option.eq_none_iff_forall_ne_some.mpr fun name named => nameless name (Path.fileNameExact.mp named)
    have header : (ofHeaderPath path).headers = [""] := by simp [ofHeaderPath, unnamed]
    have inside : "" ∈ (ofHeaderPath path).headers := header ▸ List.mem_singleton_self ""
    exact ⟨header, fun settings listed => blankInvalid listed inside (by decide)⟩

theorem roundaboutSplit :
    (Path.mk "./inc//sub/./a.h/.").components.getLast? = some (.normal "a.h") ∧
    ofHeaderPath ⟨"./inc//sub/./a.h/."⟩ = ⟨⟨"./inc//sub"⟩, ["a.h"], false⟩ ∧
    (Path.mk "./inc//sub").components ++ (Path.mk "a.h").components = (Path.mk "./inc//sub/./a.h/.").components ∧
    (∀ name, (Path.mk "inc/..").components.getLast? ≠ some (.normal name)) ∧
    ¬Settings.Valid { Settings.default with headers := [ofHeaderPath ⟨"inc/.."⟩] } := by
  have last : (Path.mk "./inc//sub/./a.h/.").components.getLast? = some (.normal "a.h") := by decide +kernel
  have made : ofHeaderPath ⟨"./inc//sub/./a.h/."⟩ = ⟨⟨"./inc//sub"⟩, ["a.h"], false⟩ := by decide +kernel
  have nameless : ∀ name, (Path.mk "inc/..").components.getLast? ≠ some (.normal name) := by
    intro name
    have up : (Path.mk "inc/..").components.getLast? = some .parent := by decide +kernel
    rw [up]
    nofun
  obtain ⟨-, -, whole, -⟩ := (headerPathSplit ⟨"./inc//sub/./a.h/."⟩).2.1 "a.h" last
  obtain ⟨-, invalid⟩ := (headerPathSplit ⟨"inc/.."⟩).2.2 nameless
  rw [made] at whole
  exact ⟨last, made, whole (by decide +kernel), nameless, invalid _ (List.mem_singleton_self _)⟩

end HeaderGroup

end HeaderOutline
