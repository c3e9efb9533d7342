import HeaderOutline.Proofs.NamespaceIndex
import HeaderOutline.Proofs.Positions
import HeaderOutline.Proofs.Texts

/-! The keys of namespaces. Two colons stand between the segments of a key, and a namespace without a name is
called by a placeholder there. So keys tell namespaces apart as long as no name holds a colon or is the
placeholder, and then an index has the fragments of one namespace only under a key. -/
namespace HeaderOutline

def PlainName (name : String) : Prop := ':' ∉ name.toList ∧ name ≠ Context.anonymousNamespace

instance (name : String) : Decidable (PlainName name) :=
  inferInstanceAs (Decidable (':' ∉ name.toList ∧ name ≠ Context.anonymousNamespace))

theorem segmentColonless {name : String} (plain : PlainName name) : ':' ∉ (Context.segment name).toList := by
  unfold Context.segment
  split
  · decide
  · exact plain.1

theorem segmentOnly {a b : String} (plain : PlainName a) (plain' : PlainName b)
    (same : Context.segment a = Context.segment b) : a = b := by
  unfold Context.segment at same
  by_cases unnamed : a = ""
  · by_cases unnamed' : b = ""
    · exact unnamed.trans unnamed'.symm
    · rw [if_pos unnamed, if_neg unnamed'] at same
      exact absurd same.symm plain'.2
  · by_cases unnamed' : b = ""
    · rw [if_neg unnamed, if_pos unnamed'] at same
      exact absurd same plain.2
    · rwa [if_neg unnamed, if_neg unnamed'] at same

theorem segmentsOnly {xs ys : List String} (plain : ∀ x ∈ xs, PlainName x) (plain' : ∀ y ∈ ys, PlainName y)
    (same : xs.map Context.segment = ys.map Context.segment) : xs = ys := by
  induction xs generalizing ys with
  | nil => exact (List.map_eq_nil_iff.mp same.symm).symm
  | cons x xs ih =>
      cases ys with
      | nil => contradiction
      | cons y ys =>
          obtain ⟨here, later⟩ := List.forall_mem_cons.mp plain
          obtain ⟨here', later'⟩ := List.forall_mem_cons.mp plain'
          obtain ⟨first, rest⟩ := List.cons_eq_cons.mp same
          rw [segmentOnly here here' first, ih later later' rest]

def keyTail : List String → List Char
  | [] => []
  | segment :: rest => ':' :: ':' :: ("::".intercalate (segment :: rest)).toList

theorem keyTailOf (first : String) (rest : List String) :
    ("::".intercalate (first :: rest)).toList = first.toList ++ keyTail rest := by
  cases rest with
  | nil => simp [keyTail]
  | cons second rest => simp [keyTail, String.intercalate_cons_cons]

theorem firstSegment {first : String} (colonless : ':' ∉ first.toList) (rest : List String) :
    (first.toList ++ keyTail rest).takeWhile (· ≠ ':') = first.toList ∧
      (first.toList ++ keyTail rest).dropWhile (· ≠ ':') = keyTail rest := by
  refine Text.spanExact (fun c inside => ?_) fun c start => ?_
  · exact decide_eq_true fun colon => colonless (colon ▸ inside)
  · cases rest with
    | nil => contradiction
    | cons second rest =>
        cases Option.some.inj start
        rfl

theorem segmentsOfKey {xs ys : List String} (xsNonempty : xs ≠ []) (ysNonempty : ys ≠ [])
    (xsFree : ∀ x ∈ xs, ':' ∉ x.toList) (ysFree : ∀ y ∈ ys, ':' ∉ y.toList)
    (same : "::".intercalate xs = "::".intercalate ys) : xs = ys := by
  induction xs generalizing ys with
  | nil => contradiction
  | cons x xs ih =>
      cases ys with
      | nil => contradiction
      | cons y ys =>
          obtain ⟨xFree, xsFree⟩ := List.forall_mem_cons.mp xsFree
          obtain ⟨yFree, ysFree⟩ := List.forall_mem_cons.mp ysFree
          have characters : x.toList ++ keyTail xs = y.toList ++ keyTail ys := by
            rw [← keyTailOf, same, keyTailOf]
          have first : x.toList = y.toList := by
            rw [← (firstSegment xFree xs).1, characters, (firstSegment yFree ys).1]
          have tails : keyTail xs = keyTail ys := by
            rw [← (firstSegment xFree xs).2, characters, (firstSegment yFree ys).2]
          rw [String.toList_inj.mp first]
          cases xs with
          | nil =>
              cases ys with
              | nil => rfl
              | cons second rest => contradiction
          | cons second rest =>
              cases ys with
              | nil => contradiction
              | cons second' rest' =>
                  simp only [keyTail, List.cons.injEq, true_and] at tails
                  rw [ih (by simp) (by simp) xsFree ysFree (String.toList_inj.mp tails)]

theorem behindScope {scope xs ys : List String} (xsNonempty : xs ≠ []) (ysNonempty : ys ≠ [])
    (same : "::".intercalate (scope ++ xs) = "::".intercalate (scope ++ ys)) :
    "::".intercalate xs = "::".intercalate ys := by
  by_cases outermost : scope = []
  · simpa [outermost] using same
  · rw [String.intercalate_append_of_ne_nil outermost xsNonempty,
      String.intercalate_append_of_ne_nil outermost ysNonempty] at same
    have characters := congrArg String.toList same
    simp only [String.toList_append, List.append_cancel_left_eq] at characters
    exact String.toList_inj.mp characters

theorem qualifiedOnly {scope outer outer' : List String} {name name' : String}
    (plain : ∀ n ∈ outer ++ [name], PlainName n) (plain' : ∀ n ∈ outer' ++ [name'], PlainName n)
    (same : qualifiedName scope outer name = qualifiedName scope outer' name') :
    outer ++ [name] = outer' ++ [name'] := by
  have colonless {names : List String} (each : ∀ n ∈ names, PlainName n) :
      ∀ s ∈ names.map Context.segment, ':' ∉ s.toList := by
    intro s listed
    obtain ⟨n, inside, rfl⟩ := List.mem_map.mp listed
    exact segmentColonless (each n inside)
  have inner := behindScope (by simp) (by simp) same
  exact segmentsOnly plain plain'
    (segmentsOfKey (by simp) (by simp) (colonless plain) (colonless plain') inner)

namespace Context

def enterAll (context : Context) (names : List String) : Context := names.foldl enterNamespace context

theorem enterAllWithin (context : Context) (before names : List String) :
    (context.within before).enterAll names = context.within (before ++ names) := by
  induction names generalizing before with
  | nil => rw [List.append_nil]; rfl
  | cons name rest ih =>
      have step : (context.within before).enterAll (name :: rest) =
          ((context.within before).enterNamespace name).enterAll rest := rfl
      rw [step, enterWithin, ih, List.append_assoc, List.singleton_append]

theorem qualifyEntered (context : Context) (outer : List String) (name : String) :
    (context.enterAll outer).qualify name = qualifiedName context.scope outer name := by
  have entered := enterAllWithin context [] outer
  rw [withinNil, List.nil_append] at entered
  rw [entered, qualifyWithin]

end Context

namespace Declaration

theorem insideNamed {d : Declaration} {enclosing : List String} {name : String}
    (listed : name ∈ d.inside enclosing) : name ∈ enclosing ∨ d.kind = .ns ∧ d.name = name := by
  cases d with
  | ns own children =>
      rcases List.mem_append.mp listed with before | here
      · exact Or.inl before
      · exact Or.inr ⟨rfl, (List.mem_singleton.mp here).symm⟩
  | _ => exact Or.inl listed

theorem enclosingNamed (d : Declaration) : ∀ {outer number enclosing member place},
    place ∈ d.places outer number enclosing member → ∀ name ∈ place.enclosing, name ∈ enclosing ∨
      ∃ around ∈ d.places outer number enclosing member,
        around.declaration.kind = .ns ∧ around.declaration.name = name := by
  induction d using childInduction with
  | step d ih =>
      intro outer number enclosing member place found name listed
      rw [placesEq] at found
      rcases List.mem_cons.mp found with rfl | below
      · exact Or.inl listed
      · obtain ⟨i, child, atI, inChild⟩ := placesAllAt below
        rcases ih child (List.mem_of_getElem? atI) inChild name listed with inside | ⟨around, held, named⟩
        · rcases insideNamed inside with before | own
          · exact Or.inl before
          · rw [placesEq]
            exact Or.inr ⟨_, List.mem_cons_self, own⟩
        · rw [placesEq]
          exact Or.inr ⟨around, List.mem_cons_of_mem _ (atPlacesAll atI held), named⟩

end Declaration

def Outline.PlainNamespaces (outline : Outline) : Prop :=
  ∀ d ∈ outline.walk, d.kind = .ns → PlainName d.name

def Place.Fragments (outer : List String) (name : String) (place : Place) : Prop :=
  place.declaration.kind = .ns ∧ place.enclosing = outer ∧ place.declaration.name = name

instance (outer name place) : Decidable (Place.Fragments outer name place) :=
  inferInstanceAs (Decidable (place.declaration.kind = .ns ∧ place.enclosing = outer ∧ place.declaration.name = name))

theorem placeNamed {outline : Outline} (plain : outline.PlainNamespaces) {place : Place}
    (listed : place ∈ outline.places) (fragment : place.declaration.kind = .ns) :
    ∀ n ∈ place.enclosing ++ [place.declaration.name], PlainName n := by
  have named {around : Place} (held : around ∈ outline.places) (ns : around.declaration.kind = .ns) :
      PlainName around.declaration.name :=
    plain _ (outline.placesWalk ▸ List.mem_map_of_mem held) ns
  intro n inside
  rcases List.mem_append.mp inside with outer | own
  · obtain ⟨i, d, atI, inD⟩ := Declaration.placesAllAt listed
    rcases Declaration.enclosingNamed d inD n outer with none | ⟨around, held, ns, rfl⟩
    · contradiction
    · exact named (Declaration.atPlacesAll atI held) ns
  · rw [List.mem_singleton.mp own]
    exact named listed fragment

/- A key that some place has is had by the fragments of that place's namespace and by no others. -/
theorem oneNamespace {outline : Outline} (plain : outline.PlainNamespaces) (scope : List String) {place : Place}
    (listed : place ∈ outline.places) (fragment : place.declaration.kind = .ns) :
    outline.places.filter (Place.Names scope (qualifiedName scope place.enclosing place.declaration.name) ·) =
      outline.places.filter (Place.Fragments place.enclosing place.declaration.name ·) := by
  refine List.filter_congr fun other held => decide_eq_decide.mpr ⟨fun names => ?_, fun same => ?_⟩
  · obtain ⟨ns, key⟩ := names
    have path := qualifiedOnly (placeNamed plain held ns) (placeNamed plain listed fragment) key
    obtain ⟨outer, name⟩ := List.append_inj' path rfl
    exact ⟨ns, outer, List.singleton_inj.mp name⟩
  · obtain ⟨ns, outer, name⟩ := same
    exact ⟨ns, by rw [outer, name]⟩

theorem namespaceKeysApart :
    (∀ (context : Context) (outer outer' : List String) (name name' : String),
      (∀ n ∈ outer ++ [name], PlainName n) → (∀ n ∈ outer' ++ [name'], PlainName n) →
      ((context.enterAll outer).qualify name = (context.enterAll outer').qualify name' ↔
        outer ++ [name] = outer' ++ [name'])) ∧
    (∀ (root : Cursor) (depth : Nat) (scope : List String),
      let start : Context := ⟨depth, scope, some ∅⟩
      let run := extract root start
      run.outline.PlainNamespaces → ∃ index, run.context.index = some index ∧ ∀ key,
        index.positions key = [] ∨ ∃ outer name, (start.enterAll outer).qualify name = key ∧
          let own := run.outline.places.filter (Place.Fragments outer name ·)
          index.positions key = own.map Place.position ∧
          (index.fragments run.outline key).map Fragment.declaration = own.map Place.declaration) := by
  constructor
  · intro context outer outer' name name' plain plain'
    rw [context.qualifyEntered, context.qualifyEntered]
    constructor
    · exact qualifiedOnly plain plain'
    · intro same
      rw [qualifiedName, same, qualifiedName]
  · intro root depth scope start run plain
    refine ⟨Extraction.freshIndex scope root, freshIndexed root depth scope, fun key => ?_⟩
    have positions := freshPositions root start scope key
    cases held : run.outline.places.filter (Place.Names scope key ·) with
    | nil =>
        rw [positions, held]
        exact Or.inl rfl
    | cons place rest =>
        have first : place ∈ run.outline.places.filter (Place.Names scope key ·) := by
          rw [held]
          exact List.mem_cons_self
        obtain ⟨listed, names⟩ := List.mem_filter.mp first
        obtain ⟨fragment, named⟩ := of_decide_eq_true names
        have own := oneNamespace plain scope listed fragment
        rw [named] at own
        rw [own] at positions
        refine Or.inr ⟨place.enclosing, place.declaration.name, ?_, positions, ?_⟩
        · rw [start.qualifyEntered, ← named]
        · rw [SymbolIndex.fragments, positions]
          refine placesFetched (fun other found => ?_) fun other found => ?_
          · exact Outline.placeFound (List.mem_filter.mp found).1
          · exact (of_decide_eq_true (List.mem_filter.mp found).2).1

example : (Context.plain.enterAll ["a"]).qualify "b" = Context.plain.qualify "a::b" := by decide

def nestedNamespaces : Cursor :=
  .node (CursorHead.bare .unit "input.h")
    [.node (CursorHead.bare .ns "a") [.node (CursorHead.bare .ns "") []], .node (CursorHead.bare .ns "a") []]

theorem nestedKeysApart :
    (∀ n ∈ [] ++ ["a"], PlainName n) ∧ (∀ n ∈ ["a"] ++ [""], PlainName n) ∧
    Context.indexed.qualify "a" ≠ (Context.indexed.enterAll ["a"]).qualify "" ∧
    (extract nestedNamespaces Context.indexed).outline.PlainNamespaces ∧
    ∃ index, (extract nestedNamespaces Context.indexed).context.index = some index ∧
      index.positions "a" = [[0], [1]] ∧ ∃ outer name,
        (Context.indexed.enterAll outer).qualify name = "a" ∧ index.positions "a" =
          ((extract nestedNamespaces Context.indexed).outline.places.filter
            (Place.Fragments outer name ·)).map Place.position := by
  obtain ⟨apart, unmixed⟩ := namespaceKeysApart
  have outermost : ∀ n ∈ [] ++ ["a"], PlainName n := by decide
  have inner : ∀ n ∈ ["a"] ++ [""], PlainName n := by decide
  have plain : (extract nestedNamespaces Context.indexed).outline.PlainNamespaces := by
    rw [Outline.PlainNamespaces, Outline.walk, Declaration.visitEq]
    decide +kernel
  have held : (extract nestedNamespaces Context.indexed).context.index.map (·.positions "a") =
      some [[0], [1]] := by decide +kernel
  obtain ⟨index, indexed, ofKey⟩ := unmixed nestedNamespaces 0 [] plain
  have positions : index.positions "a" = [[0], [1]] := by
    have mapped := congrArg (Option.map (·.positions "a")) indexed
    exact Option.some.inj (mapped.symm.trans held)
  refine ⟨outermost, inner, ?_, plain, index, indexed, positions, ?_⟩
  · intro same
    have path := (apart Context.indexed [] ["a"] "a" "" outermost inner).mp same
    contradiction
  · rcases ofKey "a" with none | ⟨outer, name, key, own, -⟩
    · rw [positions] at none
      contradiction
    · exact ⟨outer, name, key, own⟩

end HeaderOutline
