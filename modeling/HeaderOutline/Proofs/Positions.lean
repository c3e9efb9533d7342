import HeaderOutline.Proofs.Places
import Mathlib.Data.List.Induction
import Mathlib.Data.List.Sort

/-! The ways through an outline agree. The walk, which takes declarations off a stack until none is left,
the recursive preorder and the positions in ascending order visit the same declarations in the same order,
each once, and a search by name stops at the least position that has it. -/
namespace HeaderOutline

namespace Declaration

/-- What a walk gives from a stack until nothing is left on it. The top of the stack is its end, so the
children of the declaration taken from there go onto it last first. -/
inductive Drains : List Declaration → List Declaration → Prop where
  | empty : Drains [] []
  | take {stack d given} (later : Drains (stack ++ d.children.reverse) given) :
      Drains (stack ++ [d]) (d :: given)

theorem drainsVisit {stack given : List Declaration} (drains : Drains stack given) :
    given = visit stack.reverse := by
  induction drains with
  | empty => simp [visit]
  | @take stack d given later ih => simp [visit, ih]

theorem visitDrains (stack : List Declaration) : Drains stack.reverse (visit stack) := by
  induction stack using visit.induct with
  | case1 =>
      rw [visit]
      exact .empty
  | case2 d rest ih =>
      rw [List.reverse_append] at ih
      rw [visit, List.reverse_cons]
      exact .take ih

theorem drainsExactly (stack given : List Declaration) :
    Drains stack.reverse given ↔ given = visit stack := by
  constructor
  · intro drains
    rw [drainsVisit drains, List.reverse_reverse]
  · rintro rfl
    exact visitDrains stack

theorem descendAppend (d : Declaration) (above below : Position) :
    d.descend (above ++ below) = (d.descend above).bind fun e => e.descend below := by
  induction above generalizing d with
  | nil => rfl
  | cons i rest ih =>
      cases child : d.children[i]? with
      | none => simp [descend, child]
      | some e => simp [descend, child, ih e]

theorem atPlacesAll {outer : Position} {number i : Nat} {enclosing : List String} {member : Bool}
    {ds : List Declaration} {d : Declaration} {place : Place} (atI : ds[i]? = some d)
    (inside : place ∈ d.places outer (number + i) enclosing member) :
    place ∈ placesAll outer number enclosing member ds := by
  obtain ⟨short, rfl⟩ := List.getElem?_eq_some_iff.mp atI
  have split : ds = ds.take i ++ ds[i] :: ds.drop (i + 1) := by simp
  rw [split, placesAllAppend, List.length_take_of_le (Nat.le_of_lt short), placesAll]
  exact List.mem_append_right _ (List.mem_append_left _ inside)

theorem descendPlace {below : Position} {d e : Declaration} (descent : d.descend below = some e)
    (outer : Position) (number : Nat) (enclosing : List String) (member : Bool) :
    ∃ place ∈ d.places outer number enclosing member,
      place.position = outer ++ number :: below ∧ place.declaration = e := by
  induction below generalizing d outer number enclosing member with
  | nil =>
      cases Option.some.inj descent
      rw [placesEq]
      exact ⟨_, List.mem_cons_self, rfl, rfl⟩
  | cons i rest ih =>
      cases child : d.children[i]? with
      | none => simp [descend, child] at descent
      | some next =>
          simp only [descend, child] at descent
          obtain ⟨place, inside, position, same⟩ :=
            ih descent (outer ++ [number]) (0 + i) (d.inside enclosing) (member || d.holdsMembers)
          refine ⟨place, ?_, by simpa using position, same⟩
          rw [placesEq]
          exact List.mem_cons_of_mem _ (atPlacesAll child inside)

end Declaration

namespace Outline

def positions (outline : Outline) : List Position := outline.places.map Place.position

def level? (outline : Outline) (outer : Position) : Option (List Declaration) :=
  if outer = [] then some outline.declarations else (outline.at? outer).map Declaration.children

theorem atAppend (outline : Outline) {outer : Position} (inner : outer ≠ []) (below : Position) :
    outline.at? (outer ++ below) = (outline.at? outer).bind fun d => d.descend below := by
  cases outer with
  | nil => contradiction
  | cons i rest =>
      cases top : outline.declarations[i]? with
      | none => simp [at?, top]
      | some d => simp [at?, top, Declaration.descendAppend]

theorem atLevel (outline : Outline) (outer : Position) (i : Nat) :
    outline.at? (outer ++ [i]) = (outline.level? outer).bind fun siblings => siblings[i]? := by
  unfold level?
  split
  · rename_i top
    subst top
    cases found : outline.declarations[i]? <;> simp [at?, found, Declaration.descend]
  · rename_i inner
    rw [outline.atAppend inner]
    cases found : outline.at? outer with
    | none => rfl
    | some d => cases child : d.children[i]? <;> simp [Declaration.descend, child]

def OutOfRange (outline : Outline) (position : Position) : Prop :=
  ∃ outer i below siblings, position = outer ++ i :: below ∧ outline.level? outer = some siblings ∧
    siblings.length ≤ i

theorem outOfRangeNothing {outline : Outline} {position : Position} (out : outline.OutOfRange position) :
    outline.at? position = none := by
  obtain ⟨outer, i, below, siblings, rfl, level, short⟩ := out
  have none : outline.at? (outer ++ [i]) = none := by
    rw [atLevel, level, Option.bind_some, List.getElem?_eq_none short]
  rw [List.append_cons, atAppend outline (by simp), none, Option.bind_none]

theorem nothingOutOfRange {outline : Outline} {position : Position} (inner : position ≠ [])
    (nothing : outline.at? position = none) : outline.OutOfRange position := by
  induction position using List.reverseRecOn with
  | nil => contradiction
  | append_singleton outer i ih =>
      rw [atLevel] at nothing
      cases level : outline.level? outer with
      | some siblings =>
          rw [level, Option.bind_some] at nothing
          exact ⟨outer, i, [], siblings, rfl, level, List.getElem?_eq_none_iff.mp nothing⟩
      | none =>
          unfold level? at level
          split at level
          · contradiction
          · rename_i deeper
            -- A number further up is out of range already, and it is so in the longer position.
            obtain ⟨above, j, below, siblings, same, range, short⟩ :=
              ih deeper (Option.map_eq_none_iff.mp level)
            exact ⟨above, j, below ++ [i], siblings, by simp [same], range, short⟩

theorem atPlace {outline : Outline} {position : Position} {d : Declaration}
    (found : outline.at? position = some d) :
    ∃ place ∈ outline.places, place.position = position ∧ place.declaration = d := by
  cases position with
  | nil => contradiction
  | cons i rest =>
      cases top : outline.declarations[i]? with
      | none => simp [at?, top] at found
      | some e =>
          simp only [at?, top] at found
          obtain ⟨place, inside, position, same⟩ := Declaration.descendPlace found [] (0 + i) [] false
          exact ⟨place, Declaration.atPlacesAll top inside, by simpa using position, same⟩

theorem positionsAscending (outline : Outline) : outline.positions.Pairwise (· < ·) :=
  List.pairwise_map.mpr outline.placesAscending

theorem positionListed (outline : Outline) (position : Position) :
    position ∈ outline.positions ↔ (outline.at? position).isSome := by
  constructor
  · intro listed
    obtain ⟨place, held, rfl⟩ := List.mem_map.mp listed
    rw [placeFound held]
    rfl
  · intro found
    obtain ⟨d, found⟩ := Option.isSome_iff_exists.mp found
    obtain ⟨place, held, rfl, -⟩ := atPlace found
    exact List.mem_map_of_mem held

theorem positionsOnly {outline : Outline} {positions : List Position} (ascending : positions.Pairwise (· < ·))
    (listed : ∀ position, position ∈ positions ↔ (outline.at? position).isSome) :
    positions = outline.positions :=
  ascending.eq_of_mem_iff outline.positionsAscending fun position =>
    (listed position).trans (outline.positionListed position).symm

theorem positionsWalk (outline : Outline) :
    outline.positions.map outline.at? = outline.walk.map some := by
  rw [positions, ← placesWalk, List.map_map, List.map_map]
  exact List.map_congr_left fun place held => placeFound held

structure FirstNamed (outline : Outline) (name : String) (position : Position) (d : Declaration) : Prop where
  found : outline.at? position = some d
  named : d.name = name
  first : ∀ other e, outline.at? other = some e → e.name = name → position = other ∨ position < other

theorem firstNamedOnly {outline : Outline} {name : String} {p q : Position} {d e : Declaration}
    (one : outline.FirstNamed name p d) (other : outline.FirstNamed name q e) : d = e := by
  suffices same : p = q from Option.some.inj (one.found.symm.trans (same ▸ other.found))
  rcases one.first q e other.found other.named with same | before
  · exact same
  · rcases other.first p d one.found one.named with same | after
    · exact same.symm
    · exact absurd (List.lt_trans before after) (List.lt_irrefl p)

theorem findFirst {outline : Outline} {name : String} {d : Declaration} (found : outline.find? name = some d) :
    ∃ position, outline.FirstNamed name position d := by
  rw [find?, ← placesWalk, List.find?_map] at found
  obtain ⟨place, stop, rfl⟩ := Option.map_eq_some_iff.mp found
  obtain ⟨named, before, after, split, skipped⟩ := List.find?_eq_some_iff_append.mp stop
  have held : place ∈ outline.places := by simp [split]
  have ascending := outline.placesAscending
  rw [split] at ascending
  have later := (List.pairwise_cons.mp (List.pairwise_append.mp ascending).2.1).1
  refine ⟨place.position, placeFound held, of_decide_eq_true named, fun other e there same => ?_⟩
  obtain ⟨place', held', rfl, rfl⟩ := atPlace there
  rw [split, List.mem_append, List.mem_cons] at held'
  rcases held' with earlier | rfl | later'
  · simpa [same] using skipped place' earlier
  · exact .inl rfl
  · exact .inr (later place' later')

theorem findNamed (outline : Outline) (name : String) (d : Declaration) :
    outline.find? name = some d ↔ ∃ position, outline.FirstNamed name position d := by
  refine ⟨findFirst, fun ⟨position, first⟩ => ?_⟩
  have some : (outline.find? name).isSome := by
    obtain ⟨place, held, -, rfl⟩ := atPlace first.found
    rw [find?, List.find?_isSome, ← placesWalk]
    exact ⟨place.declaration, List.mem_map_of_mem held, by simp [first.named]⟩
  obtain ⟨e, found⟩ := Option.isSome_iff_exists.mp some
  obtain ⟨q, other⟩ := findFirst found
  rw [found, firstNamedOnly other first]

theorem findNothing (outline : Outline) (name : String) :
    outline.find? name = none ↔ ∀ position d, outline.at? position = some d → d.name ≠ name := by
  rw [find?, ← placesWalk, List.find?_eq_none]
  constructor
  · intro none position d found
    obtain ⟨place, held, -, rfl⟩ := atPlace found
    simpa using none _ (List.mem_map_of_mem held)
  · intro none d listed
    obtain ⟨place, held, rfl⟩ := List.mem_map.mp listed
    simpa using none place.position place.declaration (placeFound held)

theorem walkPositions (outline : Outline) :
    (∀ given, Declaration.Drains outline.declarations.reverse given ↔ given = outline.walk) ∧
    outline.walk = Declaration.preorderAll outline.declarations ∧
    outline.positions.Pairwise (· < ·) ∧
    (∀ position, position ∈ outline.positions ↔ (outline.at? position).isSome) ∧
    (∀ positions : List Position, positions.Pairwise (· < ·) →
      (∀ position, position ∈ positions ↔ (outline.at? position).isSome) →
        positions = outline.positions) ∧
    outline.positions.map outline.at? = outline.walk.map some ∧
    (∀ position, outline.at? position = none ↔ position = [] ∨ outline.OutOfRange position) ∧
    (∀ name d, outline.find? name = some d ↔ ∃ position, outline.FirstNamed name position d) ∧
    (∀ name, outline.find? name = none ↔
      ∀ position d, outline.at? position = some d → d.name ≠ name) := by
  refine ⟨Declaration.drainsExactly outline.declarations, Declaration.visitEq _, outline.positionsAscending,
    outline.positionListed, fun _ => positionsOnly, outline.positionsWalk, fun position => ⟨?_, ?_⟩,
    outline.findNamed, outline.findNothing⟩
  · intro nothing
    by_cases empty : position = []
    · exact .inl empty
    · exact .inr (nothingOutOfRange empty nothing)
  · rintro (rfl | out)
    · rfl
    · exact outOfRangeNothing out

end Outline

end HeaderOutline
