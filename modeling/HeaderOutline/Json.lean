/-! JSON values and the two written forms of a structure: an object gives its fields by name, an array
gives them by position. Reading never looks at fields it does not ask for. -/
namespace HeaderOutline

inductive Json where
  | null
  | bool (value : Bool)
  | int (value : Int)
  | real (spelling : String)
  | str (value : String)
  | arr (items : List Json)
  | obj (fields : List (String × Json))
  deriving Repr

inductive Fields where
  | named (fields : List (String × Json))
  | listed (items : List Json)

namespace Fields

def get? (position : Nat) (name : String) : Fields → Option Json
  | named fields => fields.lookup name
  | listed items => items[position]?

def fit? (width : Nat) : Fields → Option Unit
  | named _ => some ()
  | listed items => if items.length ≤ width then some () else none

def required {α : Type} (fields : Fields) (position : Nat) (name : String) (read : Json → Option α) :
    Option α :=
  (fields.get? position name).bind read

def withDefault {α : Type} (fields : Fields) (position : Nat) (name : String) (default : α)
    (read : Json → Option α) : Option α :=
  match fields.get? position name with
  | none => some default
  | some json => read json

def optional {α : Type} (fields : Fields) (position : Nat) (name : String) (read : Json → Option α) :
    Option (Option α) :=
  match fields, fields.get? position name with
  | named _, none => some none
  | listed _, none => none
  | _, some .null => some none
  | _, some json => (read json).map some

end Fields

namespace Json

def fields? (width : Nat) : Json → Option Fields
  | obj fields => some (.named fields)
  | arr items => if items.length ≤ width then some (.listed items) else none
  | _ => none

def tagged? (tag : String) : Json → Option (Json × Fields)
  | obj fields => (fields.lookup tag).map fun value => (value, .named fields)
  | arr (value :: items) => some (value, .listed items)
  | _ => none

def str? : Json → Option String
  | str value => some value
  | _ => none

def bool? : Json → Option Bool
  | bool value => some value
  | _ => none

def int64? : Json → Option Int64
  | int value =>
      if Int64.minValue.toInt ≤ value ∧ value ≤ Int64.maxValue.toInt then some (Int64.ofInt value) else none
  | _ => none

/-- An alternative without content is written by its name, or as an object that sends the name to null;
within a tagged value also to the empty object. -/
def symbol? {α : Type} (within : Bool) (ofSpelling? : String → Option α) : Json → Option α
  | str name => ofSpelling? name
  | obj [(name, null)] => ofSpelling? name
  | obj [(name, obj [])] => if within then ofSpelling? name else none
  | _ => none

def list? {α : Type} (read : Json → Option α) : Json → Option (List α)
  | arr items => items.mapM read
  | _ => none

def ofInt64 (value : Int64) : Json := int value.toInt

def ofNat (value : Nat) : Json := int value

def strings (values : List String) : Json := arr (values.map str)

def ofOption {α : Type} (write : α → Json) : Option α → Json
  | none => null
  | some value => write value

theorem int64OfInt64 (value : Int64) : (ofInt64 value).int64? = some value := by
  have low := Int64.minValue_le_toInt value
  have high := Int64.toInt_le value
  simp only [ofInt64, int64?]
  rw [if_pos]
  · simp
  · exact ⟨low, by simpa using high⟩

theorem sizeOfLookup {name : String} {fields : List (String × Json)} {json : Json}
    (found : fields.lookup name = some json) : sizeOf json < sizeOf fields := by
  induction fields with
  | nil => simp at found
  | cons field rest ih =>
      obtain ⟨key, value⟩ := field
      by_cases same : name == key
      · simp only [List.lookup_cons, same, Option.some.injEq] at found
        subst found
        simp only [List.cons.sizeOf_spec, Prod.mk.sizeOf_spec]
        omega
      · simp only [List.lookup_cons, same] at found
        have := ih found
        simp only [List.cons.sizeOf_spec]
        omega

end Json

theorem Fields.sizeOfGet {fields : Fields} {position : Nat} {name : String} {json : Json}
    (found : fields.get? position name = some json) : sizeOf json < sizeOf fields := by
  cases fields with
  | named fields =>
      have := Json.sizeOfLookup found
      simp only [Fields.named.sizeOf_spec]
      omega
  | listed items =>
      have := List.sizeOf_lt_of_mem (List.mem_of_getElem? found)
      simp only [Fields.listed.sizeOf_spec]
      omega

theorem Json.sizeOfTagged {tag : String} {json value : Json} {fields : Fields}
    (found : json.tagged? tag = some (value, fields)) : sizeOf fields ≤ sizeOf json := by
  cases json with
  | obj entries =>
      simp only [Json.tagged?, Option.map_eq_some_iff, Prod.mk.injEq] at found
      obtain ⟨_, _, _, rfl⟩ := found
      simp
  | arr items =>
      cases items with
      | nil => simp [Json.tagged?] at found
      | cons head tail =>
          simp only [Json.tagged?, Option.some.injEq, Prod.mk.injEq] at found
          obtain ⟨_, rfl⟩ := found
          simp
  | _ => simp [Json.tagged?] at found

end HeaderOutline
