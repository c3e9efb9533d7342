import HeaderOutline.Proofs.Correspondence

/-! An extraction of two runs of children, one after the other. What the second gives follows what the
first gives, and stands where it stood alone but for the number of declarations before it; the index is
that of the first continued by that of the second, its positions moved by that number. -/
namespace HeaderOutline

def Position.behind (count : Nat) : Position → Position
  | [] => []
  | number :: below => (number + count) :: below

def Site.moved (move : Position → Position) (site : Site) : Site :=
  { site with position := move site.position }

namespace Cursor

theorem declarationsAppend (xs ys : List Cursor) :
    declarations (xs ++ ys) = declarations xs ++ declarations ys := by
  induction xs with
  | nil => rfl
  | cons first rest ih => simp only [List.cons_append, declarations, ih, List.append_assoc]

theorem sitesAllAppend (outer : Position) (number : Nat) (enclosing : List String) (xs ys : List Cursor) :
    sitesAll outer number enclosing (xs ++ ys) =
      sitesAll outer number enclosing xs ++
        sitesAll outer (number + (declarations xs).length) enclosing ys := by
  induction xs generalizing number with
  | nil => rfl
  | cons first rest ih =>
      simp only [List.cons_append, sitesAll, declarations, ih, List.length_append, first.declarationCount,
        List.append_assoc, Nat.add_assoc]

mutual
theorem sitesMoved {move : Position → Position} {outer target : Position} {count : Nat}
    (moves : ∀ k below, move (outer ++ k :: below) = target ++ (k + count) :: below) (number : Nat)
    (enclosing : List String) : (c : Cursor) →
    c.sites target (number + count) enclosing = (c.sites outer number enclosing).map (Site.moved move)
  | .node head children => by
      have here : move (outer ++ [number]) = target ++ [number + count] := moves number []
      have deeper (k : Nat) (below : Position) :
          move ((outer ++ [number]) ++ k :: below) = (target ++ [number + count]) ++ (k + 0) :: below := by
        -- The scope at `outer` moves to `target`, where `count` declarations stand before it. Inside a namespace
        -- none do: what is numbered there starts from zero on both sides.
        simpa using moves number (k :: below)
      have inner := sitesAllMoved deeper 0 (enclosing ++ [head.name]) children
      cases system : head.inSystemHeader with
      | true => simp [sites, system]
      | false =>
          by_cases fragment : head.kind = .ns
          · simpa [sites, system, fragment, Site.moved, here] using inner
          · simp [sites, system, fragment, Site.moved, here]

theorem sitesAllMoved {move : Position → Position} {outer target : Position} {count : Nat}
    (moves : ∀ k below, move (outer ++ k :: below) = target ++ (k + count) :: below) (number : Nat)
    (enclosing : List String) : (cs : List Cursor) →
    sitesAll target (number + count) enclosing cs =
      (sitesAll outer number enclosing cs).map (Site.moved move)
  | [] => rfl
  | first :: rest => by
      have later := sitesAllMoved moves (number + first.declares.toNat) enclosing rest
      rw [Nat.add_right_comm] at later
      rw [sitesAll, sitesAll, List.map_append, sitesMoved moves number enclosing first, later]
end

theorem scopeSitesAppend (whole front back : CursorHead) (xs ys : List Cursor) :
    (node whole (xs ++ ys)).scopeSites =
      (node front xs).scopeSites ++
        (node back ys).scopeSites.map (Site.moved (Position.behind (declarations xs).length)) := by
  have top (k : Nat) (below : Position) : Position.behind (declarations xs).length ([] ++ k :: below) =
      [] ++ (k + (declarations xs).length) :: below := rfl
  have moved := sitesAllMoved top 0 [] ys
  show sitesAll [] 0 [] (xs ++ ys) = _
  rw [sitesAllAppend, moved]
  rfl

end Cursor

theorem movedEntered (move : Position → Position) (scope : List String) (slot : Slot) (key : String)
    (sites : List Site) :
    ((sites.map (Site.moved move)).filter (Site.Entered scope slot key ·)).map Site.position =
      ((sites.filter (Site.Entered scope slot key ·)).map Site.position).map move := by
  rw [List.filter_map, List.map_map, List.map_map]
  rfl

theorem indexEntriesAppend (whole front back : CursorHead) (xs ys : List Cursor) (scope : List String)
    (slot : Slot) (key : String) :
    logged slot key ((Cursor.node whole (xs ++ ys)).indexEntries scope) =
      logged slot key ((Cursor.node front xs).indexEntries scope) ++
        (logged slot key ((Cursor.node back ys).indexEntries scope)).map
          (Position.behind (Cursor.declarations xs).length) := by
  simp only [indexEntriesLogged, Cursor.scopeSitesAppend whole front back, List.filter_append, List.map_append,
    movedEntered]

theorem diagnosticsAppend (whole front back : CursorHead) (xs ys : List Cursor) :
    (Cursor.node whole (xs ++ ys)).scopeSites.filterMap Site.diagnostic? =
      (Cursor.node front xs).scopeSites.filterMap Site.diagnostic? ++
        (Cursor.node back ys).scopeSites.filterMap Site.diagnostic? := by
  rw [Cursor.scopeSitesAppend whole front back, List.filterMap_append, List.filterMap_map]
  rfl

theorem concatenationExtracted (whole front back : CursorHead) (xs ys : List Cursor) (depth : Nat)
    (scope : List String) :
    let fresh : Context := ⟨depth, scope, some ∅⟩
    let first := extract (.node front xs) fresh
    let second := extract (.node back ys) fresh
    let both := extract (.node whole (xs ++ ys)) fresh
    both.outline.name = whole.name ∧
    both.outline.declarations = first.outline.declarations ++ second.outline.declarations ∧
    both.outline.diagnostics = first.outline.diagnostics ++ second.outline.diagnostics ∧
    ∃ firstIndex secondIndex index,
      first.context.index = some firstIndex ∧
      second.context.index = some secondIndex ∧
      both.context.index = some index ∧
      SymbolIndex.Continues (Position.behind first.outline.declarations.length) firstIndex secondIndex
        index := by
  intro fresh first second both
  refine ⟨rfl, ?_, ?_, Extraction.freshIndex scope (.node front xs), Extraction.freshIndex scope (.node back ys),
    Extraction.freshIndex scope (.node whole (xs ++ ys)), freshIndexed _ depth scope,
    freshIndexed _ depth scope, freshIndexed _ depth scope, ?_⟩
  · simp only [first, second, both, extractRun]
    exact Cursor.declarationsAppend xs ys
  · simp only [first, second, both, extractRun]
    exact diagnosticsAppend whole front back xs ys
  · have count : first.outline.declarations.length = (Cursor.declarations xs).length := by
      simp only [first, extractRun]
      rfl
    rw [count]
    exact SymbolIndex.logsContinue (indexEntriesAppend whole front back xs ys scope) ∅

end HeaderOutline
