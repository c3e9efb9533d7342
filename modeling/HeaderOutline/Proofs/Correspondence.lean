import HeaderOutline.Proofs.Shape

/-! The cursors in scope position against the outline and the index that they give. Those that declare
something stand, in order, where the outline's declarations stand that no record holds. The entries of
one key in one map come in the order of their cursors, since a namespace never has the key of one
inside it. -/
namespace HeaderOutline

def Site.place? (site : Site) : Option Place :=
  site.cursor.declaration?.map fun d => ⟨site.position, site.enclosing, false, d⟩

namespace Declaration

theorem heldPlaces (d : Declaration) : ∀ {outer number enclosing place},
    place ∈ d.places outer number enclosing true → place.member = true := by
  induction d using childInduction with
  | step d ih =>
      intro outer number enclosing place found
      rw [placesEq] at found
      rcases List.mem_cons.mp found with rfl | inner
      · rfl
      · obtain ⟨i, child, atI, inChild⟩ := placesAllAt inner
        exact ih child (List.mem_of_getElem? atI) inChild

theorem heldFiltered (outer : Position) (number : Nat) (enclosing : List String)
    (ds : List Declaration) :
    (placesAll outer number enclosing true ds).filter (fun place => !place.member) = [] := by
  refine List.filter_eq_nil_iff.mpr fun place found => ?_
  obtain ⟨i, d, _, inD⟩ := placesAllAt found
  simp [heldPlaces d inD]

end Declaration

open Declaration in
mutual
theorem sitePlaces (outer : Position) (number : Nat) (enclosing : List String) : (c : Cursor) →
    (c.sites outer number enclosing).filterMap Site.place? =
      (placesAll outer number enclosing false c.declaration?.toList).filter (fun place => !place.member)
  | .node head children => by
      cases system : head.inSystemHeader with
      | true => simp [Cursor.sites, Cursor.declaration?, system, placesAll]
      | false =>
          cases kind : head.kind with
          | ns =>
              have inner := sitesPlaces (outer ++ [number]) 0 (enclosing ++ [head.name]) children
              simp [Cursor.sites, Cursor.declaration?, Site.place?, system, kind, placesAll, places, inner]
          | classDecl | structDecl =>
              simp [Cursor.sites, Cursor.declaration?, Site.place?, system, kind, placesAll, places,
                Extraction.record, heldFiltered]
          | _ => simp [Cursor.sites, Cursor.declaration?, Site.place?, system, kind, placesAll, places]

theorem sitesPlaces (outer : Position) (number : Nat) (enclosing : List String) : (cs : List Cursor) →
    (Cursor.sitesAll outer number enclosing cs).filterMap Site.place? =
      (placesAll outer number enclosing false (Cursor.declarations cs)).filter (fun place => !place.member)
  | [] => rfl
  | first :: rest => by
      rw [Cursor.sitesAll, Cursor.declarations, List.filterMap_append, placesAllAppend, List.filter_append,
        first.declarationCount, sitePlaces outer number enclosing first,
        sitesPlaces outer (number + first.declares.toNat) enclosing rest]
end

theorem qualifiedNameBelow (scope enclosing more : List String) (name inner : String) :
    qualifiedName scope (enclosing ++ name :: more) inner ≠ qualifiedName scope enclosing name := by
  have split : scope ++ (enclosing ++ name :: more ++ [inner]).map Context.segment =
      (scope ++ (enclosing ++ [name]).map Context.segment) ++ (more ++ [inner]).map Context.segment := by
    simp
  intro same
  unfold qualifiedName at same
  rw [split, String.intercalate_append_of_ne_nil (by simp) (by simp)] at same
  have lengths := congrArg String.length same
  simp only [String.length_append] at lengths
  have separator : "::".length = 2 := rfl
  omega

mutual
theorem siteInside (outer : Position) (number : Nat) (enclosing : List String) : (c : Cursor) →
    ∀ site ∈ c.sites outer number enclosing,
      site.head.inSystemHeader = false ∧ ∃ more, site.enclosing = enclosing ++ more
  | .node head children, site, found => by
      cases system : head.inSystemHeader with
      | true => simp [Cursor.sites, system] at found
      | false =>
          simp only [Cursor.sites, system, Bool.false_eq_true, if_false] at found
          rcases List.mem_cons.mp found with rfl | below
          · exact ⟨system, [], (List.append_nil _).symm⟩
          · split at below
            · obtain ⟨user, more, inside⟩ := sitesInside _ _ _ children site below
              exact ⟨user, head.name :: more, by simpa using inside⟩
            · simp at below

theorem sitesInside (outer : Position) (number : Nat) (enclosing : List String) : (cs : List Cursor) →
    ∀ site ∈ Cursor.sitesAll outer number enclosing cs,
      site.head.inSystemHeader = false ∧ ∃ more, site.enclosing = enclosing ++ more
  | [], _, found => by simp [Cursor.sitesAll] at found
  | first :: rest, site, found => by
      rw [Cursor.sitesAll, List.mem_append] at found
      rcases found with here | later
      · exact siteInside _ _ _ first site here
      · exact sitesInside _ _ _ rest site later
end

def Site.Entered (scope : List String) (slot : Slot) (key : String) (site : Site) : Prop :=
  site.slot? = some slot ∧ site.key scope = key

instance (scope slot key site) : Decidable (Site.Entered scope slot key site) := by
  unfold Site.Entered
  infer_instance

theorem entryLogged (scope : List String) (slot : Slot) (key : String) (site : Site) :
    logged slot key (site.entry? scope).toList =
      ([site].filter (Site.Entered scope slot key ·)).map Site.position := by
  cases entered : site.slot? with
  | none => simp [Site.entry?, Site.Entered, entered, logged]
  | some other =>
      by_cases same : other = slot ∧ site.key scope = key
      · simp [Site.entry?, Site.Entered, entered, logged, same]
      · simp [Site.entry?, Site.Entered, entered, logged, same]

theorem slotNs {site : Site} : site.slot? = some .ns ↔ site.head.kind = .ns := by
  unfold Site.slot?
  cases site.head.kind <;> simp

theorem notEnteredBelow {scope more : List String} {slot : Slot} {key : String} (outer inner : Site)
    (fragment : outer.head.kind = .ns) (entered : outer.Entered scope slot key)
    (below : inner.enclosing = outer.enclosing ++ outer.head.name :: more) :
    ¬ inner.Entered scope slot key := by
  obtain ⟨outerSlot, outerKey⟩ := entered
  rintro ⟨innerSlot, innerKey⟩
  have same : slot = .ns := Option.some.inj (outerSlot.symm.trans (slotNs.mpr fragment))
  subst same
  have innerFragment := slotNs.mp innerSlot
  rw [Site.key, if_pos fragment] at outerKey
  rw [Site.key, if_pos innerFragment, below, ← outerKey] at innerKey
  exact qualifiedNameBelow scope outer.enclosing more outer.head.name inner.head.name innerKey

theorem noneEnteredBelow {scope enclosing : List String} {slot : Slot} {key : String}
    {position : Position} {head : CursorHead} {children : List Cursor} (fragment : head.kind = .ns)
    (entered : Site.Entered scope slot key ⟨position, enclosing, .node head children⟩)
    (outer : Position) (number : Nat) :
    (Cursor.sitesAll outer number (enclosing ++ [head.name]) children).filter
      (Site.Entered scope slot key ·) = [] := by
  refine List.filter_eq_nil_iff.mpr fun site found => ?_
  obtain ⟨_, more, inside⟩ := sitesInside _ _ _ children site found
  rw [List.append_assoc] at inside
  simpa using notEnteredBelow ⟨position, enclosing, .node head children⟩ site fragment entered inside

mutual
theorem entriesLogged (scope : List String) (slot : Slot) (key : String) (outer : Position) (number : Nat)
    (enclosing : List String) : (c : Cursor) →
    logged slot key (c.entries scope outer number enclosing) =
      ((c.sites outer number enclosing).filter (Site.Entered scope slot key ·)).map Site.position
  | .node head children => by
      cases system : head.inSystemHeader with
      | true => simp [Cursor.entries, Cursor.sites, system, logged]
      | false =>
          let here : Site := ⟨outer ++ [number], enclosing, .node head children⟩
          have own := entryLogged scope slot key here
          by_cases fragment : head.kind = .ns
          · have inner := entriesAllLogged scope slot key (outer ++ [number]) 0 (enclosing ++ [head.name])
              children
            simp only [Cursor.entries, Cursor.sites, system, Bool.false_eq_true, if_false, fragment, if_true]
            rw [loggedAppend, inner, own]
            -- The own entry is last in the log and first in the walk; it is the only one if it is there.
            by_cases entered : here.Entered scope slot key
            · have none := noneEnteredBelow fragment entered (outer ++ [number]) 0
              simp only [List.filter_cons, here, none, List.filter_nil, List.map_nil, List.nil_append]
            · have skipped : decide (here.Entered scope slot key) = false := decide_eq_false entered
              simp only [List.filter_cons, here, skipped, Bool.false_eq_true, if_false, List.filter_nil,
                List.map_nil, List.append_nil]
          · simp only [Cursor.entries, Cursor.sites, system, Bool.false_eq_true, if_false, fragment,
              List.nil_append]
            exact own

theorem entriesAllLogged (scope : List String) (slot : Slot) (key : String) (outer : Position)
    (number : Nat) (enclosing : List String) : (cs : List Cursor) →
    logged slot key (Cursor.entriesAll scope outer number enclosing cs) =
      ((Cursor.sitesAll outer number enclosing cs).filter (Site.Entered scope slot key ·)).map Site.position
  | [] => rfl
  | first :: rest => by
      rw [Cursor.entriesAll, Cursor.sitesAll, loggedAppend, List.filter_append, List.map_append,
        entriesLogged scope slot key outer number enclosing first,
        entriesAllLogged scope slot key outer (number + first.declares.toNat) enclosing rest]
end

theorem indexEntriesLogged (root : Cursor) (scope : List String) (slot : Slot) (key : String) :
    logged slot key (root.indexEntries scope) =
      (root.scopeSites.filter (Site.Entered scope slot key ·)).map Site.position :=
  entriesAllLogged scope slot key [] 0 [] root.children

def Extraction.freshIndex (scope : List String) (root : Cursor) : SymbolIndex :=
  (∅ : SymbolIndex).addAll (root.indexEntries scope)

theorem freshIndexed (root : Cursor) (depth : Nat) (scope : List String) :
    (extract root ⟨depth, scope, some ∅⟩).context.index = some (Extraction.freshIndex scope root) := by
  rw [extractRun]
  rfl

theorem scopePlaces (root : Cursor) (context : Context) : root.scopeSites.filterMap Site.place? =
    (extract root context).outline.places.filter (fun place => !place.member) := by
  rw [extractRun]
  exact sitesPlaces [] 0 [] root.children

end HeaderOutline
