import HeaderOutline.Context

/-! An index as what a list of entries makes of it. Of the entries under one key of one map, the
namespaces keep every position in order and each other map keeps the last; entries under other keys and
in other maps change nothing. So the index of one list after another is made of the indexes of both. -/
namespace HeaderOutline

inductive Slot where
  | ns | record (key : ClassKey) | enum
  deriving DecidableEq, Repr

structure IndexEntry where
  slot : Slot
  key : String
  position : Position
  deriving DecidableEq, Repr

def logged (slot : Slot) (key : String) (entries : List IndexEntry) : List Position :=
  (entries.filter fun e => e.slot = slot ∧ e.key = key).map IndexEntry.position

theorem loggedAppend (slot : Slot) (key : String) (xs ys : List IndexEntry) :
    logged slot key (xs ++ ys) = logged slot key xs ++ logged slot key ys := by
  simp [logged]

def held (positions : List Position) : Option (List Position) :=
  if positions = [] then none else some positions

theorem heldAppend (xs ys : List Position) :
    held (xs ++ ys) = Option.merge (· ++ ·) (held xs) (held ys) := by
  cases xs with
  | nil => simp [held]
  | cons x xs => cases ys <;> simp [held]

theorem mergeHeld (before : Option (List Position)) (positions : List Position) :
    (Option.merge (· ++ ·) before (held positions)).getD [] = before.getD [] ++ positions := by
  cases before <;> cases positions <;> simp [held]

theorem heldMap (move : Position → Position) (positions : List Position) :
    held (positions.map move) = (held positions).map (List.map move) := by
  cases positions <;> simp [held]

namespace SymbolIndex

def add (index : SymbolIndex) (entry : IndexEntry) : SymbolIndex :=
  match entry.slot with
  | .ns => index.insertNamespace entry.key entry.position
  | .record key => index.insertRecord key entry.key entry.position
  | .enum => index.insertEnum entry.key entry.position

def addAll (index : SymbolIndex) (entries : List IndexEntry) : SymbolIndex := entries.foldl add index

def latest? (index : SymbolIndex) (slot : Slot) (key : String) : Option Position :=
  match slot with
  | .ns => (index.positions key).getLast?
  | .record .cls => index.classes.get? key
  | .record .struct => index.structs.get? key
  | .enum => index.enums.get? key

theorem addAllAppend (index : SymbolIndex) (xs ys : List IndexEntry) :
    index.addAll (xs ++ ys) = (index.addAll xs).addAll ys := by
  simp [addAll]

theorem namespacesAdd (index : SymbolIndex) (entry : IndexEntry) (key : String) :
    (index.add entry).namespaces.get? key =
      Option.merge (· ++ ·) (index.namespaces.get? key) (held (logged .ns key [entry])) := by
  obtain ⟨slot, name, position⟩ := entry
  cases slot with
  | ns =>
      by_cases same : key = name
      · subst same
        cases before : index.namespaces.get? key <;>
          simp [add, insertNamespace, positions, logged, held, before]
      · simp [add, insertNamespace, logged, held, same, Ne.symm same]
  | record classKey => cases classKey <;> simp [add, insertRecord, logged, held]
  | enum => simp [add, insertEnum, logged, held]

theorem positionsAdd (index : SymbolIndex) (entry : IndexEntry) (key : String) :
    (index.add entry).positions key = index.positions key ++ logged .ns key [entry] := by
  rw [positions, namespacesAdd, mergeHeld, positions]

theorem latestSame (index : SymbolIndex) (slot : Slot) (name key : String) (position : Position) :
    (index.add ⟨slot, name, position⟩).latest? slot key =
      if key = name then some position else index.latest? slot key := by
  cases slot with
  | ns =>
      unfold latest?
      rw [positionsAdd]
      by_cases same : key = name
      · simp [logged, same]
      · simp [logged, same, Ne.symm same]
  | record classKey => cases classKey <;> exact Dictionary.getInsert _ _ _ _
  | enum => exact Dictionary.getInsert _ _ _ _

theorem latestOther (index : SymbolIndex) {entry : IndexEntry} {slot : Slot} (other : entry.slot ≠ slot)
    (key : String) : (index.add entry).latest? slot key = index.latest? slot key := by
  obtain ⟨written, name, position⟩ := entry
  rcases written with _ | written | _
  · rcases slot with _ | read | _
    · exact absurd rfl other
    · cases read <;> rfl
    · rfl
  · rcases slot with _ | read | _
    · cases written <;> rfl
    · cases written <;> cases read <;> first | exact absurd rfl other | rfl
    · cases written <;> rfl
  · rcases slot with _ | read | _
    · rfl
    · cases read <;> rfl
    · exact absurd rfl other

theorem latestAdd (index : SymbolIndex) (entry : IndexEntry) (slot : Slot) (key : String) :
    (index.add entry).latest? slot key =
      (logged slot key [entry]).getLast?.or (index.latest? slot key) := by
  obtain ⟨written, name, position⟩ := entry
  by_cases same : written = slot
  · subst same
    rw [latestSame]
    by_cases named : key = name
    · simp [logged, named]
    · simp [logged, named, Ne.symm named]
  · rw [latestOther index same]
    simp [logged, same]

theorem latestAddAll (index : SymbolIndex) (entries : List IndexEntry) (slot : Slot) (key : String) :
    (index.addAll entries).latest? slot key =
      (logged slot key entries).getLast?.or (index.latest? slot key) := by
  induction entries generalizing index with
  | nil => simp [addAll, logged]
  | cons entry rest ih =>
      have step : index.addAll (entry :: rest) = (index.add entry).addAll rest := rfl
      have split : entry :: rest = [entry] ++ rest := rfl
      rw [step, ih, latestAdd, split, loggedAppend, List.getLast?_append, Option.or_assoc]

theorem namespacesAddAll (index : SymbolIndex) (entries : List IndexEntry) (key : String) :
    (index.addAll entries).namespaces.get? key =
      Option.merge (· ++ ·) (index.namespaces.get? key) (held (logged .ns key entries)) := by
  induction entries generalizing index with
  | nil => simp [addAll, logged, held]
  | cons entry rest ih =>
      have step : index.addAll (entry :: rest) = (index.add entry).addAll rest := rfl
      have split : entry :: rest = [entry] ++ rest := rfl
      rw [step, ih, namespacesAdd, split, loggedAppend, heldAppend]
      exact Std.Associative.assoc _ _ _

theorem positionsAddAll (index : SymbolIndex) (entries : List IndexEntry) (key : String) :
    (index.addAll entries).positions key = index.positions key ++ logged .ns key entries := by
  rw [positions, namespacesAddAll, mergeHeld, positions]

theorem latestEmpty (slot : Slot) (key : String) : (∅ : SymbolIndex).latest? slot key = none := by
  rcases slot with _ | classKey | _
  · rfl
  · cases classKey <;> rfl
  · rfl

theorem sameContents {a b : SymbolIndex} (namespaces : ∀ key, a.namespaces.get? key = b.namespaces.get? key)
    (latest : ∀ slot key, a.latest? slot key = b.latest? slot key) : a = b := by
  have namespaces : a.namespaces = b.namespaces := Dictionary.eqOfGet namespaces
  have classes : a.classes = b.classes := Dictionary.eqOfGet (latest (.record .cls))
  have structs : a.structs = b.structs := Dictionary.eqOfGet (latest (.record .struct))
  have enums : a.enums = b.enums := Dictionary.eqOfGet (latest .enum)
  cases a
  cases b
  cases namespaces
  cases classes
  cases structs
  cases enums
  rfl

structure Continues (move : Position → Position) (first second whole : SymbolIndex) : Prop where
  namespaces : ∀ key, whole.namespaces.get? key =
    Option.merge (· ++ ·) (first.namespaces.get? key) ((second.namespaces.get? key).map (List.map move))
  classes : ∀ key, whole.classes.get? key =
    ((second.classes.get? key).map move).or (first.classes.get? key)
  structs : ∀ key, whole.structs.get? key =
    ((second.structs.get? key).map move).or (first.structs.get? key)
  enums : ∀ key, whole.enums.get? key =
    ((second.enums.get? key).map move).or (first.enums.get? key)

theorem logsContinue {move : Position → Position} {xs ys zs : List IndexEntry}
    (logs : ∀ slot key, logged slot key zs = logged slot key xs ++ (logged slot key ys).map move)
    (index : SymbolIndex) :
    Continues move (index.addAll xs) ((∅ : SymbolIndex).addAll ys) (index.addAll zs) := by
  have latest (slot : Slot) (key : String) : (index.addAll zs).latest? slot key =
      ((((∅ : SymbolIndex).addAll ys).latest? slot key).map move).or ((index.addAll xs).latest? slot key) := by
    simp only [latestAddAll, latestEmpty, Option.or_none, logs, List.getLast?_append, List.getLast?_map,
      Option.or_assoc]
  refine ⟨fun key => ?_, latest (.record .cls), latest (.record .struct), latest .enum⟩
  have none : (∅ : SymbolIndex).namespaces.get? key = none := rfl
  simp only [namespacesAddAll, none, Option.merge_none_left, logs, heldAppend, heldMap]
  exact (Std.Associative.assoc _ _ _).symm

end SymbolIndex

end HeaderOutline
