import HeaderOutline.Proofs.NamespaceIndex
import Mathlib.Data.List.Dedup

/-! What an index finds, read off the list of entries that were put into it. A namespace key finds, in order,
those of its positions where a namespace stands; any other key follows its latest position and no other,
whatever stands there. Each map counts its distinct keys. Entries of different maps or keys may change places. -/
namespace HeaderOutline

def keysIn (slot : Slot) (entries : List IndexEntry) : List String :=
  (entries.filter fun e => e.slot = slot).map IndexEntry.key

def recordLogged? (key : String) (entries : List IndexEntry) : Option Position :=
  (logged (.record .cls) key entries).getLast?.or (logged (.record .struct) key entries).getLast?

def IndexEntry.Apart (a b : IndexEntry) : Prop := a.slot ≠ b.slot ∨ a.key ≠ b.key

theorem loggedKey {slot : Slot} {key : String} {entries : List IndexEntry} :
    logged slot key entries ≠ [] ↔ key ∈ keysIn slot entries := by
  simp only [logged, keysIn, ne_eq, List.map_eq_nil_iff, List.filter_eq_nil_iff, List.mem_map, List.mem_filter,
    decide_eq_true_eq]
  grind

theorem loggedSwapped {first second : IndexEntry} (apart : first.Apart second) (slot : Slot) (key : String)
    (front back : List IndexEntry) :
    logged slot key (front ++ second :: first :: back) = logged slot key (front ++ first :: second :: back) := by
  have pair : logged slot key [second, first] = logged slot key [first, second] := by
    unfold IndexEntry.Apart at apart
    by_cases one : first.slot = slot ∧ first.key = key
    · have other : ¬(second.slot = slot ∧ second.key = key) := by grind
      simp [logged, one, other]
    · by_cases two : second.slot = slot ∧ second.key = key
      · simp [logged, one, two]
      · simp [logged, one, two]
  have split (a b : IndexEntry) : front ++ a :: b :: back = front ++ ([a, b] ++ back) := rfl
  simp only [split, loggedAppend, pair]

theorem Dictionary.sizeOfKeys {α : Type} {d : Dictionary α} {names : List String}
    (held : ∀ key, d.get? key ≠ none ↔ key ∈ names) : d.size = names.dedup.length := by
  have same : d.keys.Perm names.dedup := by
    refine (List.perm_ext_iff_of_nodup d.distinctKeys names.nodup_dedup).mpr fun key => ?_
    have listed : key ∈ d.keys ↔ key ∈ names := keyListed.trans (held key)
    exact listed.trans List.mem_dedup.symm
  rw [← same.length_eq, Dictionary.keys, List.length_map, Dictionary.size]

theorem fragmentsKept (outline : Outline) (positions : List Position) :
    (positions.filterMap fun p => (outline.at? p).bind Declaration.fragment?).map Fragment.declaration =
      (positions.filterMap outline.at?).filter (·.kind = .ns) := by
  induction positions with
  | nil => rfl
  | cons p rest ih =>
      cases found : outline.at? p with
      | none => simpa [found] using ih
      | some d =>
          cases d with
          | ns name children =>
              simpa [found, Declaration.fragment?, Fragment.declaration, Declaration.kind] using ih
          | _ => simpa [found, Declaration.fragment?, Declaration.kind] using ih

namespace SymbolIndex

variable {entries : List IndexEntry}

theorem loggedPositions (entries : List IndexEntry) (key : String) :
    ((∅ : SymbolIndex).addAll entries).positions key = logged .ns key entries :=
  positionsAddAll ∅ entries key

theorem loggedLatest (entries : List IndexEntry) (slot : Slot) (key : String) :
    ((∅ : SymbolIndex).addAll entries).latest? slot key = (logged slot key entries).getLast? := by
  rw [latestAddAll, latestEmpty, Option.or_none]

theorem loggedNamespaces (entries : List IndexEntry) (key : String) :
    ((∅ : SymbolIndex).addAll entries).namespaces.get? key = held (logged .ns key entries) := by
  have nothing : (∅ : SymbolIndex).namespaces.get? key = none := rfl
  rw [namespacesAddAll, nothing, Option.merge_none_left]

theorem onlyByLog {xs ys : List IndexEntry} (same : ∀ slot key, logged slot key xs = logged slot key ys) :
    (∅ : SymbolIndex).addAll xs = (∅ : SymbolIndex).addAll ys := by
  refine sameContents (fun key => ?_) fun slot key => ?_
  · rw [loggedNamespaces, loggedNamespaces, same]
  · rw [loggedLatest, loggedLatest, same]

theorem loggedRecordPosition (entries : List IndexEntry) (key : String) :
    ((∅ : SymbolIndex).addAll entries).recordPosition? key = recordLogged? key entries := by
  have classes := loggedLatest entries (.record .cls) key
  have structs := loggedLatest entries (.record .struct) key
  rw [recordPosition?, recordLogged?, ← classes, ← structs]
  rfl

theorem loggedKeyHeld (entries : List IndexEntry) (slot : Slot) (key : String) :
    ((∅ : SymbolIndex).addAll entries).latest? slot key ≠ none ↔ key ∈ keysIn slot entries := by
  rw [loggedLatest, ← loggedKey, ne_eq, List.getLast?_eq_none_iff]

theorem loggedCounts (entries : List IndexEntry) : ((∅ : SymbolIndex).addAll entries).counts =
    ⟨(keysIn .ns entries).dedup.length, (keysIn (.record .cls) entries).dedup.length,
      (keysIn (.record .struct) entries).dedup.length, (keysIn .enum entries).dedup.length⟩ := by
  have namespaces (key : String) : ((∅ : SymbolIndex).addAll entries).namespaces.get? key ≠ none ↔
      key ∈ keysIn .ns entries := by
    rw [loggedNamespaces, ← loggedKey, held]
    split <;> simp_all
  rw [counts, Dictionary.sizeOfKeys namespaces,
    Dictionary.sizeOfKeys (loggedKeyHeld entries (.record .cls)),
    Dictionary.sizeOfKeys (loggedKeyHeld entries (.record .struct)),
    Dictionary.sizeOfKeys (loggedKeyHeld entries .enum)]

end SymbolIndex

theorem recordAt {found : Option Declaration} {record : Record} :
    found.bind Declaration.record? = some record ↔
      ∃ classKey, found = some (.record classKey record.head record.members) := by
  obtain ⟨head, members⟩ := record
  cases found with
  | none => simp
  | some d => cases d <;> simp [Declaration.record?]

theorem enumerationAt {found : Option Declaration} {enumeration : Enumeration} :
    found.bind Declaration.enumeration? = some enumeration ↔ found = some (.enum enumeration) := by
  cases found with
  | none => simp
  | some d => cases d <;> simp [Declaration.enumeration?]

theorem logRefined (entries : List IndexEntry) :
    let index := (∅ : SymbolIndex).addAll entries
    (∀ outline key,
      (index.fragments outline key).map Fragment.declaration =
        ((logged .ns key entries).filterMap outline.at?).filter (·.kind = .ns) ∧
      (∀ record, index.record? outline key = some record ↔ ∃ position classKey,
        recordLogged? key entries = some position ∧
          outline.at? position = some (.record classKey record.head record.members)) ∧
      (∀ enumeration, index.enumeration? outline key = some enumeration ↔ ∃ position,
        (logged .enum key entries).getLast? = some position ∧
          outline.at? position = some (.enum enumeration))) ∧
    index.counts = ⟨(keysIn .ns entries).dedup.length, (keysIn (.record .cls) entries).dedup.length,
      (keysIn (.record .struct) entries).dedup.length, (keysIn .enum entries).dedup.length⟩ ∧
    (∀ front first second back, entries = front ++ first :: second :: back → first.Apart second →
      (∅ : SymbolIndex).addAll (front ++ second :: first :: back) = index) := by
  intro index
  refine ⟨fun outline key => ⟨?_, fun record => ?_, fun enumeration => ?_⟩,
    SymbolIndex.loggedCounts entries, ?_⟩
  · rw [SymbolIndex.fragments, SymbolIndex.loggedPositions]
    exact fragmentsKept outline _
  · rw [SymbolIndex.record?, SymbolIndex.loggedRecordPosition, recordAt]
    cases recordLogged? key entries <;> simp
  · have latest : index.enums.get? key = _ := SymbolIndex.loggedLatest entries .enum key
    rw [SymbolIndex.enumeration?, latest, enumerationAt]
    cases (logged .enum key entries).getLast? <;> simp
  · intro front first second back placed apart
    subst placed
    exact SymbolIndex.onlyByLog fun slot key => loggedSwapped apart slot key front back

def taggedUnit : Outline :=
  ⟨"input.h", [.ns "zoo" [.record .struct ⟨"Tag", "zoo::Tag", [], false⟩ []]], []⟩

def taggedLog : List IndexEntry :=
  [⟨.record .struct, "zoo::Tag", [0, 0]⟩, ⟨.record .cls, "zoo::Tag", [7]⟩]

theorem danglingClassUnfound :
    let index := (∅ : SymbolIndex).addAll taggedLog
    index.record? taggedUnit "zoo::Tag" = none ∧ index.counts = ⟨0, 1, 1, 0⟩ ∧
      (∅ : SymbolIndex).addAll taggedLog.reverse = index := by
  obtain ⟨lookups, counted, swapped⟩ := logRefined taggedLog
  refine ⟨?_, counted, swapped [] _ _ [] rfl (Or.inl (by decide))⟩
  refine Option.eq_none_iff_forall_ne_some.mpr fun record found => ?_
  obtain ⟨position, classKey, latest, there⟩ := ((lookups taggedUnit "zoo::Tag").2.1 record).mp found
  have dangling : recordLogged? "zoo::Tag" taggedLog = some [7] := by decide
  cases Option.some.inj (dangling.symm.trans latest)
  contradiction

end HeaderOutline
