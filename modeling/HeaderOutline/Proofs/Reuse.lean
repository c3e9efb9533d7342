import HeaderOutline.Proofs.Correspondence

/-! One index that goes along from extraction to extraction. What an extraction enters into it depends on the
cursors and the scopes around them, not on what the index holds by then; so in the end it holds what it held
at first and then what each extraction alone would have left in an empty index. -/
namespace HeaderOutline

namespace SymbolIndex

def lastOf (indexes : List SymbolIndex) (slot : Slot) (key : String) : Option Position :=
  indexes.reverse.findSome? fun index => index.latest? slot key

theorem lastOfCons (index : SymbolIndex) (rest : List SymbolIndex) (slot : Slot) (key : String) :
    lastOf (index :: rest) slot key = (lastOf rest slot key).or (index.latest? slot key) := by
  simp [lastOf, List.findSome?_append]

theorem lastOfHeld {indexes : List SymbolIndex} {slot : Slot} {key : String} {position : Position}
    (last : lastOf indexes slot key = some position) :
    ∃ index ∈ indexes, index.latest? slot key = some position := by
  obtain ⟨index, listed, held⟩ := List.exists_of_findSome?_eq_some last
  exact ⟨index, List.mem_reverse.mp listed, held⟩

theorem lastOfNone {indexes : List SymbolIndex} {slot : Slot} {key : String} :
    lastOf indexes slot key = none ↔ ∀ index ∈ indexes, index.latest? slot key = none := by
  simp [lastOf]

/-- An index made of `first` and `later` in turn: of namespaces every position stays, in order, and under any
other key stands what the last index that has it says. -/
structure Joins (first : SymbolIndex) (later : List SymbolIndex) (whole : SymbolIndex) : Prop where
  positions : ∀ key, whole.positions key =
    first.positions key ++ later.flatMap fun index => index.positions key
  absent : ∀ key, whole.namespaces.get? key = none ↔
    first.namespaces.get? key = none ∧ ∀ index ∈ later, index.namespaces.get? key = none
  latest : ∀ slot key, whole.latest? slot key = (lastOf later slot key).or (first.latest? slot key)

theorem joinsNothing (first : SymbolIndex) : first.Joins [] first where
  positions key := by simp
  absent key := by simp
  latest slot key := by simp [lastOf]

theorem joinsNext {first whole : SymbolIndex} {entries : List IndexEntry} {later : List SymbolIndex}
    (joins : (first.addAll entries).Joins later whole) :
    first.Joins ((∅ : SymbolIndex).addAll entries :: later) whole where
  positions key := by
    have none : (∅ : SymbolIndex).positions key = [] := rfl
    rw [joins.positions, positionsAddAll, List.flatMap_cons, positionsAddAll, none, List.nil_append,
      List.append_assoc]
  absent key := by
    have none : (∅ : SymbolIndex).namespaces.get? key = none := rfl
    rw [joins.absent, namespacesAddAll, List.forall_mem_cons, namespacesAddAll, none, Option.merge_none_left,
      ← and_assoc]
    cases first.namespaces.get? key <;> cases held (logged .ns key entries) <;> simp
  latest slot key := by
    rw [joins.latest, lastOfCons, latestAddAll, latestAddAll, latestEmpty, Option.or_none, Option.or_assoc]

theorem namespacesOnly {a b : SymbolIndex} (positions : ∀ key, a.positions key = b.positions key)
    (absent : ∀ key, a.namespaces.get? key = none ↔ b.namespaces.get? key = none) :
    a.namespaces = b.namespaces := by
  refine Dictionary.eqOfGet fun key => ?_
  have same := positions key
  have both := absent key
  unfold SymbolIndex.positions at same
  cases one : a.namespaces.get? key with
  | none => exact (both.mp one).symm
  | some held =>
      cases other : b.namespaces.get? key with
      | none => simp [one, other] at both
      | some held' =>
          rw [one, other] at same
          exact congrArg some same

theorem joinsOnly {first a b : SymbolIndex} {later : List SymbolIndex} (one : first.Joins later a)
    (other : first.Joins later b) : a = b := by
  have namespaces : a.namespaces = b.namespaces :=
    namespacesOnly (fun key => (one.positions key).trans (other.positions key).symm)
      fun key => (one.absent key).trans (other.absent key).symm
  exact sameContents (fun key => by rw [namespaces])
    fun slot key => (one.latest slot key).trans (other.latest slot key).symm

structure Keeps (indexes : List SymbolIndex) (whole : SymbolIndex) : Prop where
  fragments : ∀ key position, position ∈ whole.positions key ↔
    ∃ index ∈ indexes, position ∈ index.positions key
  keys : ∀ slot key, whole.latest? slot key = none ↔ ∀ index ∈ indexes, index.latest? slot key = none
  given : ∀ slot key position, whole.latest? slot key = some position →
    ∃ index ∈ indexes, index.latest? slot key = some position

theorem joinsKeeps {first whole : SymbolIndex} {later : List SymbolIndex} (joins : first.Joins later whole) :
    Keeps (first :: later) whole where
  fragments key position := by
    rw [joins.positions, List.mem_append, List.mem_flatMap]
    simp only [List.mem_cons, exists_eq_or_imp]
  keys slot key := by
    rw [joins.latest, Option.or_eq_none_iff, lastOfNone, List.forall_mem_cons, and_comm]
  given slot key position held := by
    rw [joins.latest] at held
    rcases Option.or_eq_some_iff.mp held with last | ⟨-, old⟩
    · obtain ⟨index, listed, held⟩ := lastOfHeld last
      exact ⟨index, List.mem_cons_of_mem _ listed, held⟩
    · exact ⟨first, List.mem_cons_self, old⟩

end SymbolIndex

def extractAll (context : Context) (roots : List Cursor) : Context :=
  roots.foldl (fun context root => (extract root context).context) context

theorem extractAllRun (context : Context) (roots : List Cursor) :
    extractAll context roots = context.logging (roots.flatMap fun root => root.indexEntries context.scope) := by
  induction roots generalizing context with
  | nil => exact context.loggingNil.symm
  | cons root rest ih =>
      have step : extractAll context (root :: rest) = extractAll (extract root context).context rest := rfl
      rw [step, ih, extractRun, Context.loggingScope, Context.loggingAppend, List.flatMap_cons]

theorem entriesJoin (scope : List String) (index : SymbolIndex) (roots : List Cursor) :
    index.Joins (roots.map (Extraction.freshIndex scope))
      (index.addAll (roots.flatMap fun root => root.indexEntries scope)) := by
  induction roots generalizing index with
  | nil => exact index.joinsNothing
  | cons root rest ih =>
      rw [List.flatMap_cons, SymbolIndex.addAllAppend]
      exact SymbolIndex.joinsNext (ih _)

theorem reusedIndex (roots : List Cursor) (depth : Nat) (scope : List String) (index : SymbolIndex) :
    ∃ alone final,
      (∀ fresh, roots.map (fun root => (extract root ⟨fresh, scope, some ∅⟩).context.index) = alone.map some) ∧
      extractAll ⟨depth, scope, some index⟩ roots = ⟨depth, scope, some final⟩ ∧
      (∀ whole, index.Joins alone whole ↔ whole = final) ∧
      SymbolIndex.Keeps (index :: alone) final := by
  have joins := entriesJoin scope index roots
  refine ⟨roots.map (Extraction.freshIndex scope), _, fun fresh => ?_, extractAllRun _ roots,
    fun whole => ⟨fun other => SymbolIndex.joinsOnly other joins, fun same => same ▸ joins⟩,
    SymbolIndex.joinsKeeps joins⟩
  rw [List.map_map]
  exact List.map_congr_left fun root _ => freshIndexed root fresh scope

end HeaderOutline
