/-! Finite maps from text. The entries stand in strictly ascending order of key (by code point, which is
the order of the UTF-8 bytes), so two maps with the same content are equal. -/
namespace HeaderOutline

def insertEntry {α : Type} (key : String) (value : α) : List (String × α) → List (String × α)
  | [] => [(key, value)]
  | entry :: rest =>
      if key < entry.1 then (key, value) :: entry :: rest
      else if key = entry.1 then (key, value) :: rest
      else entry :: insertEntry key value rest

def Ascending {α : Type} (entries : List (String × α)) : Prop := entries.Pairwise fun a b => a.1 < b.1

theorem insertEntryBound {α : Type} {bound key : String} {value : α} {entries : List (String × α)}
    (above : ∀ e ∈ entries, bound < e.1) (keyAbove : bound < key) :
    ∀ e ∈ insertEntry key value entries, bound < e.1 := by
  induction entries with
  | nil => simpa [insertEntry] using keyAbove
  | cons entry rest ih =>
      have head := above entry (by simp)
      have tail := ih fun e he => above e (by simp [he])
      unfold insertEntry
      split
      · intro e he; simp at he; rcases he with rfl | rfl | he
        · exact keyAbove
        · exact head
        · exact above e (by simp [he])
      · split
        · intro e he; simp at he; rcases he with rfl | he
          · exact keyAbove
          · exact above e (by simp [he])
        · intro e he; simp at he; rcases he with rfl | he
          · exact head
          · exact tail e he

theorem insertEntryAscending {α : Type} {key : String} {value : α} {entries : List (String × α)}
    (ascending : Ascending entries) : Ascending (insertEntry key value entries) := by
  induction entries with
  | nil => simp [insertEntry, Ascending]
  | cons entry rest ih =>
      obtain ⟨first, others⟩ := List.pairwise_cons.mp ascending
      unfold insertEntry
      split
      · rename_i before
        refine List.pairwise_cons.mpr ⟨fun e he => ?_, ascending⟩
        rcases List.mem_cons.mp he with rfl | he
        · exact before
        · exact String.lt_trans before (first e he)
      · rename_i notBefore
        split
        · rename_i same
          exact List.pairwise_cons.mpr ⟨fun e he => same ▸ first e he, others⟩
        · rename_i different
          have after : entry.1 < key := by
            apply Decidable.byContradiction
            intro notAfter
            exact different (String.le_antisymm (String.not_lt.mp notAfter) (String.not_lt.mp notBefore))
          exact List.pairwise_cons.mpr ⟨insertEntryBound first after, ih others⟩

theorem lookupCons {α : Type} (k : String) (entry : String × α) (rest : List (String × α)) :
    (entry :: rest).lookup k = if k = entry.1 then some entry.2 else rest.lookup k := by
  obtain ⟨key, value⟩ := entry
  by_cases h : k = key
  · simp [h]
  · have : (k == key) = false := by simpa using h
    simp [List.lookup_cons, this, h]

theorem lookupInsertEntry {α : Type} (key : String) (value : α) (entries : List (String × α)) (k : String) :
    (insertEntry key value entries).lookup k = if k = key then some value else entries.lookup k := by
  induction entries with
  | nil => simp [insertEntry, lookupCons]
  | cons entry rest ih =>
      unfold insertEntry
      split
      · rw [lookupCons]
      · split
        · rename_i same
          rw [lookupCons, lookupCons, ← same]
          split <;> simp_all
        · rename_i different
          rw [lookupCons, lookupCons, ih]
          by_cases h : k = entry.1
          · simp [h, Ne.symm different]
          · simp [h]

theorem lookupListed {α : Type} {entries : List (String × α)} {name : String} {value : α}
    (found : entries.lookup name = some value) : (name, value) ∈ entries := by
  obtain ⟨front, back, rfl, -⟩ := List.lookup_eq_some_iff.mp found
  simp

theorem listedLookup {α : Type} {entries : List (String × α)} (distinct : (entries.map Prod.fst).Nodup)
    {name : String} {value : α} (listed : (name, value) ∈ entries) : entries.lookup name = some value := by
  induction entries with
  | nil => contradiction
  | cons entry rest ih =>
      obtain ⟨notLater, later⟩ := List.nodup_cons.mp distinct
      rw [lookupCons]
      rcases List.mem_cons.mp listed with rfl | below
      · exact if_pos rfl
      · have other : name ≠ entry.1 := by
          rintro rfl
          exact notLater (List.mem_map.mpr ⟨_, below, rfl⟩)
        rw [if_neg other]
        exact ih later below

theorem lookupBelow {α : Type} {key : String} {entries : List (String × α)} (above : ∀ e ∈ entries, key < e.1) :
    entries.lookup key = none := by
  induction entries with
  | nil => rfl
  | cons entry rest ih =>
      rw [lookupCons, if_neg (String.ne_of_lt (above entry List.mem_cons_self))]
      exact ih fun e listed => above e (List.mem_cons_of_mem _ listed)

theorem notBelowFirst {α : Type} {key : String} {entry : String × α} {rest : List (String × α)}
    (ascending : Ascending (entry :: rest)) (held : (entry :: rest).lookup key ≠ none) : ¬key < entry.1 := by
  intro before
  refine held (lookupBelow fun e listed => ?_)
  rcases List.mem_cons.mp listed with rfl | later
  · exact before
  · exact String.lt_trans before ((List.pairwise_cons.mp ascending).1 e later)

theorem ascendingUnique {α : Type} {xs ys : List (String × α)} (ascending : Ascending xs)
    (ascending' : Ascending ys) (same : ∀ k, xs.lookup k = ys.lookup k) : xs = ys := by
  induction xs generalizing ys with
  | nil =>
      cases ys with
      | nil => rfl
      | cons entry rest => simpa [lookupCons] using same entry.1
  | cons x xs ih =>
      cases ys with
      | nil => simpa [lookupCons] using same x.1
      | cons y ys =>
          obtain ⟨first, others⟩ := List.pairwise_cons.mp ascending
          obtain ⟨first', others'⟩ := List.pairwise_cons.mp ascending'
          have notBefore : ¬x.1 < y.1 := notBelowFirst ascending' (by simp [← same, lookupCons])
          have notAfter : ¬y.1 < x.1 := notBelowFirst ascending (by simp [same, lookupCons])
          have keys : x.1 = y.1 := String.le_antisymm (String.not_lt.mp notAfter) (String.not_lt.mp notBefore)
          have values : x.2 = y.2 := by simpa [lookupCons, keys] using same x.1
          refine List.cons_eq_cons.mpr ⟨Prod.ext keys values, ih others others' fun k => ?_⟩
          by_cases here : k = x.1
          · rw [here, lookupBelow first, keys, lookupBelow first']
          · have other : k ≠ y.1 := keys ▸ here
            simpa [lookupCons, here, other] using same k

structure Dictionary (α : Type) where
  entries : List (String × α)
  ascending : Ascending entries

namespace Dictionary
variable {α : Type}

instance [Repr α] : Repr (Dictionary α) := ⟨fun d n => reprPrec d.entries n⟩

instance [DecidableEq α] : DecidableEq (Dictionary α) := fun a b =>
  if h : a.entries = b.entries then isTrue (by cases a; cases b; simp_all)
  else isFalse fun same => h (by rw [same])

def empty : Dictionary α := ⟨[], List.Pairwise.nil⟩

instance : EmptyCollection (Dictionary α) := ⟨empty⟩

instance : Inhabited (Dictionary α) := ⟨empty⟩

def get? (d : Dictionary α) (key : String) : Option α := d.entries.lookup key

def insert (d : Dictionary α) (key : String) (value : α) : Dictionary α :=
  ⟨insertEntry key value d.entries, insertEntryAscending d.ascending⟩

def keys (d : Dictionary α) : List String := d.entries.map (·.1)

def size (d : Dictionary α) : Nat := d.entries.length

def ofList (entries : List (String × α)) : Dictionary α :=
  entries.foldl (fun d entry => d.insert entry.1 entry.2) ∅

@[simp] theorem getEmpty (key : String) : (∅ : Dictionary α).get? key = none := rfl

@[simp] theorem getInsert (d : Dictionary α) (key k : String) (value : α) :
    (d.insert key value).get? k = if k = key then some value else d.get? k :=
  lookupInsertEntry key value d.entries k

theorem distinctKeys (d : Dictionary α) : (d.entries.map Prod.fst).Nodup :=
  List.pairwise_map.mpr (d.ascending.imp fun before => String.ne_of_lt before)

theorem keyListed {d : Dictionary α} {key : String} : key ∈ d.keys ↔ d.get? key ≠ none := by
  constructor
  · intro listed
    obtain ⟨entry, inside, rfl⟩ := List.mem_map.mp listed
    have found := listedLookup d.distinctKeys inside
    simp [get?, found]
  · intro present
    obtain ⟨value, found⟩ := Option.ne_none_iff_exists'.mp present
    exact List.mem_map_of_mem (lookupListed found)

theorem eqOfGet {d e : Dictionary α} (same : ∀ key, d.get? key = e.get? key) : d = e := by
  obtain ⟨entries, ascending⟩ := d
  obtain ⟨entries', ascending'⟩ := e
  cases ascendingUnique ascending ascending' same
  rfl

end Dictionary

end HeaderOutline
