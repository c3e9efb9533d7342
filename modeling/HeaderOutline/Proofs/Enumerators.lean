import HeaderOutline.Extraction

/-! The values of an enumeration's constants, each told from the values that were given alone: a constant
without one goes on from the last given value before it, one further for each constant since, or counts
from zero if there is none. Counting wraps around, so every constant has a value. -/
namespace HeaderOutline

def Cursor.enumerators (enumeration : Cursor) : List Cursor :=
  enumeration.userChildren.filter (·.head.kind = .enumConstantDecl)

def Cursor.givenValues (enumeration : Cursor) : List (Option Int64) :=
  enumeration.enumerators.map (·.head.enumValue)

namespace Extraction

inductive Implied (given : List (Option Int64)) (i : Nat) : Int64 → Prop
  | counted (unresolved : ∀ j < i, given[j]? = some none) : Implied given i (.ofInt i)
  | continued {j : Nat} {v : Int64} (before : j < i) (resolved : given[j]? = some (some v))
      (since : ∀ k, j < k → k < i → given[k]? = some none) : Implied given i (.ofInt (v.toInt + (i - j)))

inductive Valued (given : List (Option Int64)) (i : Nat) : Int64 → Prop
  | resolved {v : Int64} (own : given[i]? = some (some v)) : Valued given i v
  | implied {v : Int64} (own : given[i]? = some none) (implied : Implied given i v) : Valued given i v

variable {given : List (Option Int64)} {i : Nat} {v w : Int64}

theorem ofIntSucc (n : Int) : Int64.ofInt (n + 1) = Int64.ofInt n + 1 := Int64.ofInt_add n 1

theorem impliedNext (valued : Valued given i v) : Implied given (i + 1) (v + 1) := by
  cases valued with
  | resolved own =>
      have next : Implied given (i + 1) (.ofInt (v.toInt + ((i + 1 : Nat) - i))) :=
        .continued (Nat.lt_succ_self i) own (by omega)
      have one : v.toInt + ((i + 1 : Nat) - i) = v.toInt + 1 := by omega
      rwa [one, ofIntSucc, Int64.ofInt_toInt] at next
  | implied own implied =>
      cases implied with
      | counted unresolved =>
          have next : Implied given (i + 1) (.ofInt (i + 1 : Nat)) :=
            .counted fun j below => (Nat.lt_succ_iff_lt_or_eq.mp below).elim (unresolved j) (· ▸ own)
          rwa [Int.natCast_succ, ofIntSucc] at next
      | @continued j u before resolved since =>
          have next : Implied given (i + 1) (.ofInt (u.toInt + ((i + 1 : Nat) - j))) :=
            .continued (by omega) resolved fun k after below =>
              (Nat.lt_succ_iff_lt_or_eq.mp below).elim (since k after) (· ▸ own)
          have one : u.toInt + ((i + 1 : Nat) - j) = u.toInt + (i - j) + 1 := by omega
          rwa [one, ofIntSucc] at next

theorem impliedOnly (one : Implied given i v) (other : Implied given i w) : v = w := by
  cases one with
  | counted unresolved =>
      cases other with
      | counted => rfl
      | continued before resolved => simp [unresolved _ before] at resolved
  | @continued j _ before resolved since =>
      cases other with
      | counted unresolved => simp [unresolved _ before] at resolved
      | @continued k _ below last after =>
          rcases Nat.lt_trichotomy j k with earlier | rfl | later
          · simp [since k earlier below] at last
          · cases Option.some.inj (Option.some.inj (resolved.symm.trans last))
            rfl
          · simp [after j later before] at resolved

theorem valuedOnly (one : Valued given i v) (other : Valued given i w) : v = w := by
  cases one with
  | resolved own =>
      cases other with
      | resolved same => exact Option.some.inj (Option.some.inj (own.symm.trans same))
      | implied none => simp [none] at own
  | implied own implied =>
      cases other with
      | resolved some => simp [some] at own
      | implied _ same => exact impliedOnly implied same

theorem constantsValued (earlier rest : List Cursor) (next : Int64)
    (implied : Implied ((earlier ++ rest).map (·.head.enumValue)) earlier.length next) :
    ∀ (i : Nat) (constant : EnumConstant), (constantsFrom next rest)[i]? = some constant →
      Valued ((earlier ++ rest).map (·.head.enumValue)) (earlier.length + i) constant.value := by
  -- The counter holds what the constants behind it imply for the next one.
  induction rest generalizing earlier next with
  | nil => intro i constant found; simp [constantsFrom] at found
  | cons c rest ih =>
      let given := (earlier ++ c :: rest).map (·.head.enumValue)
      have own : given[earlier.length]? = some c.head.enumValue := by simp [given]
      have here : Valued given earlier.length (c.head.enumValue.getD next) := by
        cases value : c.head.enumValue with
        | none => exact .implied (own.trans (congrArg some value)) implied
        | some v => exact .resolved (own.trans (congrArg some value))
      intro i constant found
      cases i with
      | zero =>
          cases Option.some.inj found
          exact here
      | succ i =>
          have after := ih (earlier ++ [c]) (c.head.enumValue.getD next + 1)
          simp only [List.append_assoc, List.singleton_append, List.length_append, List.length_singleton]
            at after
          rw [Nat.add_comm i, ← Nat.add_assoc]
          exact after (impliedNext here) i constant found

theorem constantsNamed (next : Int64) (cs : List Cursor) :
    (constantsFrom next cs).map (fun constant => (constant.name, constant.typeSpelling)) =
      cs.map fun c => (c.head.name, c.head.typeSpelling) := by
  induction cs generalizing next with
  | nil => rfl
  | cons c rest ih => simp [constantsFrom, ih]

end Extraction

open Extraction in
theorem enumeratorValues (c : Cursor) :
    let constants := (enumeration c).constants
    constants.map (fun constant => (constant.name, constant.typeSpelling)) =
      c.enumerators.map (fun child => (child.head.name, child.head.typeSpelling)) ∧
    ∀ (i : Nat) (constant : EnumConstant), constants[i]? = some constant →
      (∀ value, Valued c.givenValues i value ↔ value = constant.value) ∧
      ((∀ j ≤ i, c.givenValues[j]? = some none) → i ≤ Int64.maxValue.toInt → constant.value.toInt = i) := by
  intro constants
  refine ⟨constantsNamed 0 c.enumerators, fun i constant found => ?_⟩
  have valued : Valued c.givenValues i constant.value := by
    have all := constantsValued [] c.enumerators 0 (.counted (by simp)) i constant found
    simpa [Cursor.givenValues] using all
  refine ⟨fun value => ⟨fun other => valuedOnly other valued, fun same => same ▸ valued⟩, ?_⟩
  intro unresolved small
  rw [Int64.toInt_maxValue] at small
  have counted : Valued c.givenValues i (.ofInt i) :=
    .implied (unresolved i (Nat.le_refl i)) (.counted fun j below => unresolved j (Nat.le_of_lt below))
  rw [valuedOnly valued counted, Int64.toInt_ofInt]
  exact Int.bmod_eq_of_le (by omega) (by simp; omega)

end HeaderOutline
