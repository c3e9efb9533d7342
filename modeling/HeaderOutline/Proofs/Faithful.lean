import HeaderOutline.Dictionary
import HeaderOutline.Proofs.Form
import Mathlib.Data.List.Forall2
import Mathlib.Data.List.Nodup

/-! What is written for the value that some data was read as restates that data, once this holds of each
part: of words, of the items of a list, of the fields of a record. -/
namespace HeaderOutline

variable {α : Type} {respelled : Json → String → Prop}

def Faithful (respelled : Json → String → Prop) (form : Form) (read : Json → Option α) (write : α → Json)
    (x : α) : Prop :=
  ∀ v, Written form v → read v = some x → Restates respelled form v (write x)

theorem textFaithful (s : String) : Faithful respelled .text Json.str? .str s := by
  intro v _ reads
  cases v <;> simp only [Json.str?, reduceCtorEq, Option.some.injEq] at reads
  subst reads
  exact .text _

theorem flagFaithful (b : Bool) : Faithful respelled .flag Json.bool? .bool b := by
  intro v _ reads
  cases v <;> simp only [Json.bool?, reduceCtorEq, Option.some.injEq] at reads
  subst reads
  exact .flag _

theorem numberFaithful (n : Int64) : Faithful respelled .number Json.int64? .ofInt64 n := by
  intro v _ reads
  cases v with
  | int given =>
      obtain ⟨⟨low, high⟩, rfl⟩ := by simpa only [Json.int64?, Option.ite_none_right_eq_some,
        Option.some.injEq] using reads
      have exactly : (Int64.ofInt given).toInt = given :=
        Int64.toInt_ofInt_of_le low (Int.lt_of_le_of_lt high (by decide))
      rw [Json.ofInt64, exactly]
      exact .number given
  | _ => cases reads

theorem spellingOfSpelling {spelling : α → String} {all : List α} {name : String} {x : α}
    (found : ofSpelling? spelling all name = some x) : spelling x = name := by
  simpa using List.find?_some (p := fun a => spelling a = name) found

theorem wordFaithful {within : Bool} {all : List α} {spelling : α → String} {x : α} (listed : x ∈ all)
    (plain : spelling x ∈ plainWords) :
    Faithful Respelled (.word (all.map spelling)) (Json.symbol? within (ofSpelling? spelling all))
      (fun x => .str (spelling x)) x := by
  intro v _ reads
  refine .word (List.mem_map_of_mem listed) ?_
  unfold Json.symbol? at reads
  split at reads
  case h_1 =>
    obtain rfl := spellingOfSpelling reads
    exact .inl rfl
  case h_2 =>
    obtain rfl := spellingOfSpelling reads
    exact .inr (.null plain)
  case h_3 =>
    obtain ⟨-, reads⟩ := Option.ite_none_right_eq_some.mp reads
    obtain rfl := spellingOfSpelling reads
    exact .inr (.empty plain)
  case h_4 => cases reads

theorem mapMPairs {β : Type} {read : β → Option α} {items : List β} {xs : List α}
    (reads : items.mapM read = some xs) : List.Forall₂ (fun v x => read v = some x) items xs := by
  induction items generalizing xs with
  | nil =>
      obtain rfl := Option.some.inj reads
      exact .nil
  | cons v rest ih =>
      simp only [List.mapM_cons, bind, Option.bind_eq_some_iff] at reads
      obtain ⟨x, first, others, later, last⟩ := reads
      obtain rfl := Option.some.inj last
      exact .cons first (ih later)

theorem listFaithful {form : Form} {read : Json → Option α} {write : α → Json} {xs : List α}
    (each : ∀ x ∈ xs, Faithful respelled form read write x) :
    Faithful respelled (.list form) (Json.list? read) (fun xs => .arr (xs.map write)) xs := by
  intro v written reads
  cases written with
  | list written =>
    obtain ⟨lengths, pairs⟩ := List.forall₂_iff_zip.mp (mapMPairs reads)
    refine .list (by rw [List.length_map, lengths]) fun v w both => ?_
    rw [List.zip_map_right] at both
    obtain ⟨⟨_, x⟩, inPair, same⟩ := List.mem_map.mp both
    obtain ⟨rfl, rfl⟩ := Prod.mk.inj same
    exact each x (List.of_mem_zip inPair).2 _ (written _ (List.of_mem_zip inPair).1) (pairs inPair)

theorem writtenObject {fields : List (String × Form × Option Json)} {v : Json}
    (written : Written (.record fields) v) : ∃ entries, v = .obj entries := by
  cases written with
  | record _ _ => exact ⟨_, rfl⟩

theorem unlistedLookup {entries : List (String × Json)} {name : String}
    (absent : name ∉ entries.map Prod.fst) : entries.lookup name = none := by
  cases found : entries.lookup name with
  | none => rfl
  | some v => exact absurd (List.mem_map_of_mem (lookupListed found)) absent

structure Carries (respelled : Json → String → Prop) (old : List (String × Json))
    (field : String × Form × Option Json) (entry : String × Json) : Prop where
  name : entry.1 = field.1
  given : ∀ v, old.lookup field.1 = some v → Written field.2.1 v →
    Restates respelled field.2.1 v entry.2
  missing : old.lookup field.1 = none → field.2.2 = some entry.2

section Fields
variable {old : List (String × Json)} {position : Nat} {name : String} {form : Form}
  {read : Json → Option α} {write : α → Json}

theorem requiredCarries {x : α} (faithful : Faithful respelled form read write x)
    (taken : (Fields.named old).required position name read = some x) :
    Carries respelled old (name, form, none) (name, write x) := by
  obtain ⟨v, found, reads⟩ := Option.bind_eq_some_iff.mp taken
  replace found : old.lookup name = some v := found
  refine ⟨rfl, fun w given written => ?_, fun missing => ?_⟩
  · obtain rfl := Option.some.inj (given.symm.trans found)
    exact faithful w written reads
  · cases missing.symm.trans found

theorem withDefaultCarries {default x : α} (faithful : Faithful respelled form read write x)
    (taken : (Fields.named old).withDefault position name default read = some x) :
    Carries respelled old (name, form, some (write default)) (name, write x) := by
  simp only [Fields.withDefault, Fields.get?] at taken
  refine ⟨rfl, fun v given written => ?_, fun missing => ?_⟩
  · rw [given] at taken
    exact faithful v written taken
  · rw [missing] at taken
    cases Option.some.inj taken
    rfl

theorem requiredListCarries {xs : List α} (each : ∀ x ∈ xs, Faithful respelled form read write x)
    (taken : (Fields.named old).required position name (Json.list? read) = some xs) :
    Carries respelled old (name, .list form, none) (name, .arr (xs.map write)) := by
  have carried := requiredCarries (listFaithful each) taken
  exact carried

theorem withDefaultListCarries {default xs : List α}
    (each : ∀ x ∈ xs, Faithful respelled form read write x)
    (taken : (Fields.named old).withDefault position name default (Json.list? read) = some xs) :
    Carries respelled old (name, .list form, some (.arr (default.map write)))
      (name, .arr (xs.map write)) := by
  have carried := withDefaultCarries (listFaithful each) taken
  exact carried

theorem optionalTaken {x : Option α} (taken : (Fields.named old).optional position name read = some x) :
    (old.lookup name = none ∧ x = none) ∨ (old.lookup name = some .null ∧ x = none) ∨
      ∃ v y, old.lookup name = some v ∧ v ≠ .null ∧ read v = some y ∧ x = some y := by
  unfold Fields.optional at taken
  split at taken
  case h_1 missing => exact .inl ⟨missing, (Option.some.inj taken).symm⟩
  case h_2 => cases taken
  case h_3 null => exact .inr (.inl ⟨null, (Option.some.inj taken).symm⟩)
  case h_4 v present found =>
    obtain ⟨y, reads, same⟩ := Option.map_eq_some_iff.mp taken
    exact .inr (.inr ⟨v, y, found, present, reads, same.symm⟩)

theorem optionalCarries {x : Option α} (faithful : ∀ x, Faithful respelled form read write x)
    (taken : (Fields.named old).optional position name read = some x) :
    Carries respelled old (name, .nullable form, some .null) (name, .ofOption write x) := by
  obtain ⟨absent, rfl⟩ | ⟨null, rfl⟩ | ⟨v, y, found, present, reads, rfl⟩ := optionalTaken taken
  · refine ⟨rfl, fun v given _ => ?_, fun _ => rfl⟩
    cases absent.symm.trans given
  · refine ⟨rfl, fun v given _ => ?_, fun _ => rfl⟩
    obtain rfl := Option.some.inj (null.symm.trans given)
    exact .null form
  · refine ⟨rfl, fun w given written => ?_, fun missing => ?_⟩
    · obtain rfl := Option.some.inj (found.symm.trans given)
      cases written with
      | null => exact absurd rfl present
      | present inside => exact .present (faithful y v inside reads)
    · cases missing.symm.trans found

end Fields

section Record
variable {fields : List (String × Form × Option Json)} {old new : List (String × Json)}

theorem carriedNames (carried : List.Forall₂ (Carries respelled old) fields new) :
    new.map Prod.fst = fields.map Prod.fst := by
  induction carried with
  | nil => rfl
  | cons head _ ih => simp only [List.map_cons, ih, head.name]

theorem carriedEntry (apart : (fields.map Prod.fst).Nodup)
    (carried : List.Forall₂ (Carries respelled old) fields new) {field : String × Form × Option Json}
    {entry : String × Json} (known : field ∈ fields) (listed : entry ∈ new) (named : entry.1 = field.1) :
    Carries respelled old field entry := by
  induction carried with
  | nil => cases known
  | cons head rest ih =>
      obtain ⟨fresh, apart⟩ := List.nodup_cons.mp apart
      rcases List.mem_cons.mp known with rfl | knownLater <;>
        rcases List.mem_cons.mp listed with rfl | listedLater
      · exact head
      · rw [← carriedNames rest, ← named] at fresh
        exact absurd (List.mem_map_of_mem listedLater) fresh
      · rw [← head.name, named] at fresh
        exact absurd (List.mem_map_of_mem knownLater) fresh
      · exact ih apart knownLater listedLater

theorem restatesRecord (written : Written (.record fields) (.obj old))
    (apart : (fields.map Prod.fst).Nodup) (carried : List.Forall₂ (Carries respelled old) fields new) :
    Restates respelled (.record fields) (.obj old) (.obj new) := by
  cases written with
  | record distinct each =>
    refine .record (carriedNames carried) (fun name form default v w known given listed => ?_)
      fun name form default w known absent listed => ?_
    · exact (carriedEntry apart carried known listed rfl).given v (listedLookup distinct given)
        (each name form default v known given)
    · exact (carriedEntry apart carried known listed rfl).missing (unlistedLookup absent)

theorem restatedField (restated : Restates respelled (.record fields) (.obj old) (.obj new)) {name : String}
    {form : Form} {default : Option Json} {v w : Json} (known : (name, form, default) ∈ fields)
    (given : (name, v) ∈ old) (listed : (name, w) ∈ new) : Restates respelled form v w := by
  cases restated with
  | record _ kept _ => exact kept name form default v w known given listed

end Record

end HeaderOutline
