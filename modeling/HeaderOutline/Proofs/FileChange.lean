import HeaderOutline.Settings.Source
import Mathlib.Data.List.Find

/-! A tree of files that changes at one place. Nothing is seen of the change by what does not look there. -/
namespace HeaderOutline

namespace FileNode

inductive Alike : FileNode → FileNode → Prop
  | file (content : Except AccessError ByteArray) : Alike (file content) (file content)
  | directory (refusals : Refusals) (entries entries' : List (String × FileNode)) :
      Alike (directory refusals entries) (directory refusals entries')
  | link (target : Path) : Alike (link target) (link target)

def AlikeBut (root : FileNode) (place : List String) (other : FileNode) : Prop :=
  ∀ names, ¬place <+: names → Option.Rel Alike (root.at? names) (other.at? names)

def looked (root : FileNode) (onLink : List String → List Component → List (List String))
    (here : List String) : List Component → List (List String)
  | [] => []
  | .root :: rest => root.looked onLink [] rest
  | .current :: rest => root.looked onLink here rest
  | .parent :: rest => root.looked onLink here.dropLast rest
  | .normal name :: rest => (here ++ [name]) :: match root.at? (here ++ [name]) with
      | none => []
      | some (link target) => onLink here (target.steps ++ rest)
      | some _ => root.looked onLink (here ++ [name]) rest

def lookedThrough (root : FileNode) : Nat → List String → List Component → List (List String)
  | 0 => root.looked fun _ _ => []
  | links + 1 => root.looked (root.lookedThrough links)

theorem atEntry (node : FileNode) (names : List String) (name : String) :
    node.at? (names ++ [name]) = (node.at? names).bind fun next => next.entry? name := by
  induction names generalizing node with
  | nil =>
      simp only [List.nil_append, at?, Option.bind_some]
      cases node.entry? name <;> rfl
  | cons first rest ih =>
      rw [List.cons_append, at?, at?]
      cases node.entry? first with
      | none => rfl
      | some next => exact ih next

theorem walkName (root : FileNode) (onLink : List String → List Component → Except AccessError (List String))
    (here : List String) (name : String) (rest : List Component) :
    root.walk onLink here (.normal name :: rest) = match passed (root.at? here) with
      | .error cause => .error cause
      | .ok _ => match root.at? (here ++ [name]) with
          | none => .error .missing
          | some (link target) => onLink here (target.steps ++ rest)
          | some _ => root.walk onLink (here ++ [name]) rest := by
  rw [walk, atEntry]
  cases root.at? here with
  | none => rfl
  | some node => cases node with
      | file content => rfl
      | link target => rfl
      | directory refusals entries =>
          obtain ⟨listing, passing⟩ := refusals
          cases passing <;> rfl

theorem atDirectory (refusals : Refusals) (entries : List (String × FileNode)) (name : String) (rest : List String) :
    (directory refusals entries).at? (name :: rest) = (entries.lookup name).bind fun next => next.at? rest := by
  rw [at?.eq_def]
  unfold entry?
  dsimp only
  cases entries.lookup name <;> rfl

theorem alikeSelf (held : Option FileNode) : Option.Rel Alike held held := by
  cases held with
  | none => exact .none
  | some node => exact .some (by cases node <;> constructor)

theorem passedAlike {held held' : Option FileNode} (same : Option.Rel Alike held held') :
    (∃ cause, passed held = .error cause ∧ passed held' = .error cause) ∨
      ∃ entries entries', passed held = .ok entries ∧ passed held' = .ok entries' := by
  cases same with
  | none => exact Or.inl ⟨_, rfl, rfl⟩
  | some node => cases node with
      | file content => exact Or.inl ⟨_, rfl, rfl⟩
      | link target => exact Or.inl ⟨_, rfl, rfl⟩
      | directory refusals entries entries' =>
          obtain ⟨listing, passing⟩ := refusals
          cases passing with
          | none => exact Or.inr ⟨entries, entries', rfl, rfl⟩
          | some cause => exact Or.inl ⟨cause, rfl, rfl⟩

theorem putAlike {root : FileNode} {names : List String} {refusals : Refusals} {entries : List (String × FileNode)}
    (held : root.at? names = some (directory refusals entries)) (name : String) (new : FileNode) :
    root.AlikeBut (names ++ [name]) (new.put (names ++ [name]) root) := by
  induction names generalizing root with
  | nil =>
      cases Option.some.inj held
      intro way off
      cases way with
      | nil => exact .some (.directory _ _ _)
      | cons first rest =>
          have other : first ≠ name := by
            rintro rfl
            exact off (List.prefix_append [first] rest)
          rw [List.nil_append, put, atDirectory, atDirectory, lookupInsertEntry, if_neg other]
          exact alikeSelf _
  | cons first rest ih =>
      cases root with
      | file content => contradiction
      | link target => contradiction
      | directory own outer =>
          rw [atDirectory] at held
          obtain ⟨next, entry, below⟩ := Option.bind_eq_some_iff.mp held
          intro way off
          cases way with
          | nil => exact .some (.directory _ _ _)
          | cons step steps =>
              rw [List.cons_append, put, atDirectory, atDirectory, lookupInsertEntry]
              by_cases same : step = first
              · subst same
                have offBelow : ¬rest ++ [name] <+: steps :=
                  fun under => off (List.cons_prefix_cons.mpr ⟨rfl, under⟩)
                simpa [entry] using ih below steps offBelow
              · rw [if_neg same]
                exact alikeSelf _

section Change

variable {place : List String} {root other : FileNode}

def Steady (place : List String) (way way' : List String → List Component → Except AccessError (List String))
    (looked : List String → List Component → List (List String)) : Prop :=
  ∀ here components, ¬place <+: here → place ∉ looked here components →
    way' here components = way here components ∧
      ∀ names, way here components = .ok names → ¬place <+: names

theorem offEntry {here : List String} {name : String} (off : ¬place <+: here) (other : place ≠ here ++ [name]) :
    ¬place <+: here ++ [name] := by
  rw [List.prefix_concat_iff]
  exact not_or.mpr ⟨other, off⟩

theorem walkSteady (alike : root.AlikeBut place other)
    {onLink onLink' : List String → List Component → Except AccessError (List String)}
    {looks : List String → List Component → List (List String)} (links : Steady place onLink onLink' looks) :
    Steady place (root.walk onLink) (other.walk onLink') (root.looked looks) := by
  intro here components
  induction components generalizing here with
  | nil =>
      intro off _
      refine ⟨rfl, fun names reached => ?_⟩
      cases reached
      exact off
  | cons component rest ih =>
      intro off unseen
      cases component with
      | root =>
          exact ih [] (fun under => off (under.trans (List.nil_prefix))) unseen
      | current =>
          rw [walk, walk]
          rcases passedAlike (alike here off) with ⟨cause, one, two⟩ | ⟨entries, entries', one, two⟩
          · rw [one, two]
            exact ⟨rfl, nofun⟩
          · rw [one, two]
            exact ih here off unseen
      | parent =>
          have back := ih here.dropLast (fun under => off (under.trans (List.dropLast_prefix here))) unseen
          rw [walk, walk]
          rcases passedAlike (alike here off) with ⟨cause, one, two⟩ | ⟨entries, entries', one, two⟩
          · rw [one, two]
            exact ⟨rfl, nofun⟩
          · rw [one, two]
            exact back
      | normal name =>
          obtain ⟨elsewhere, later⟩ := List.ne_and_not_mem_of_not_mem_cons unseen
          have offEntry := offEntry off elsewhere
          have entry := alike (here ++ [name]) offEntry
          have onward := ih (here ++ [name]) offEntry
          -- What stands here and at the entry decides which way to go, and the trees agree at both.
          rw [walkName, walkName]
          rcases passedAlike (alike here off) with ⟨cause, one, two⟩ | ⟨entries, entries', one, two⟩
          · rw [one, two]
            exact ⟨rfl, nofun⟩
          · rw [one, two]
            generalize root.at? (here ++ [name]) = found at entry later ⊢
            generalize other.at? (here ++ [name]) = found' at entry ⊢
            cases entry with
            | none => exact ⟨rfl, nofun⟩
            | some next => cases next with
                | file content => exact onward later
                | directory refusals inner inner' => exact onward later
                | link target => exact links here _ off later

theorem followSteady (alike : root.AlikeBut place other) (links : Nat) :
    Steady place (root.follow links) (other.follow links) (root.lookedThrough links) := by
  induction links with
  | zero => exact walkSteady alike fun here components off unseen => ⟨rfl, nofun⟩
  | succ links ih => exact walkSteady alike ih

end Change

end FileNode

namespace FileTree

open FileNode

structure AlikeBut (tree : FileTree) (place : List String) (other : FileTree) : Prop where
  current : other.current = tree.current
  home : other.home = tree.home
  root : tree.root.AlikeBut place other.root

def lookedAt (tree : FileTree) (path : Path) : List (List String) :=
  tree.root.lookedThrough followedLinks tree.current path.steps

inductive Agree : Except AccessError (List String × FileNode) → Except AccessError (List String × FileNode) → Prop
  | error (error : AccessError) : Agree (.error error) (.error error)
  | ok (names : List String) {node node' : FileNode} (alike : node.Alike node') :
      Agree (.ok (names, node)) (.ok (names, node'))

variable {place : List String} {tree other : FileTree} {path : Path}

theorem locateAgree (alike : tree.AlikeBut place other) (outside : ¬place <+: tree.current)
    (unseen : place ∉ tree.lookedAt path) : Agree (tree.locate path) (other.locate path) := by
  obtain ⟨sameWay, off⟩ := followSteady alike.root followedLinks tree.current path.steps outside unseen
  unfold locate
  split
  · exact .error .missing
  split
  · exact .error .unnameable
  · rw [alike.current, sameWay]
    cases reached : tree.root.follow followedLinks tree.current path.steps with
    | error error => exact .error error
    | ok names =>
        have same := alike.root names (off names reached)
        simp only [bind, Except.bind]
        generalize tree.root.at? names = held at same ⊢
        generalize other.root.at? names = held' at same ⊢
        cases same with
        | none => exact .error .missing
        | some node =>
            have kind : ∀ {a b : FileNode}, a.Alike b → b.isDirectory = a.isDirectory := by
              rintro _ _ (_ | _ | _) <;> rfl
            simp only [kind node]
            split
            · exact .error .notDirectory
            · exact .ok names node

theorem seenSame (agree : Agree (tree.locate path) (other.locate path)) :
    other.readText path = tree.readText path ∧ other.isFile path = tree.isFile path ∧
      other.has path = tree.has path := by
  unfold readText read isFile has
  generalize tree.locate path = found at agree ⊢
  generalize other.locate path = found' at agree ⊢
  cases agree with
  | error error => exact ⟨rfl, rfl, rfl⟩
  | ok names alike => cases alike <;> exact ⟨rfl, rfl, rfl⟩

theorem layerSame (agree : Agree (tree.locate path) (other.locate path)) :
    other.layer path = tree.layer path := by
  rw [layer, layer, (seenSame agree).1]

theorem presentSame (alike : tree.AlikeBut place other)
    (agree : ∀ candidate ∈ path :: tree.upward path, Agree (tree.locate candidate) (other.locate candidate)) :
    other.present? path = tree.present? path := by
  obtain ⟨here, upward⟩ := List.forall_mem_cons.mp agree
  have sameUpward : other.upward path = tree.upward path := by rw [FileTree.upward, alike.current]; rfl
  have found : other.search? path = tree.search? path := by
    rw [search?, sameUpward]
    exact List.find?_congr fun candidate listed => (seenSame (upward candidate listed)).2.1
  rw [present?, present?, (seenSame here).2.2, found]

end FileTree

end HeaderOutline
