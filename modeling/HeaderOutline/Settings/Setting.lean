import HeaderOutline.Decimal.Shortest
import HeaderOutline.Dictionary
import HeaderOutline.Text.Quoted

/-! A setting as a file or a variable gives it, before it is known which type it has to have. Tables are
laid over one another key by key; any other setting takes the place of an older one whole. -/
namespace HeaderOutline

inductive Scalar where
  | bool (value : Bool)
  | unsigned (value : Nat)
  | signed (value : Int)
  | float (value : Decimal.Binary64)
  | char (value : Char)
  | text (value : String)
  deriving DecidableEq, Repr

def Scalar.description : Scalar → String
  | bool value => "bool " ++ toString value
  | unsigned value => "unsigned int `" ++ toString value ++ "`"
  | signed value => "signed int `" ++ toString value ++ "`"
  | float value => "float `" ++ value.text ++ "`"
  | char value => "char " ++ Text.quotedChar value
  | text value => "string " ++ Text.quoted value

inductive Setting where
  | scalar (scalar : Scalar)
  | list (items : List Setting)
  | table (entries : List (String × Setting))
  deriving Repr

namespace Setting

abbrev Entries := List (String × Setting)

def text (value : String) : Setting := scalar (.text value)

def entries : Setting → Entries
  | table entries => entries
  | _ => []

mutual
def laidOver (older : Setting) : Setting → Setting
  | .scalar s => .scalar s
  | .list items => .list items
  | .table newer => match older with
      | .table entries => .table (entriesOver entries newer)
      | _ => .table newer
termination_by structural newer => newer

def entriesOver (older : List (String × Setting)) : List (String × Setting) → List (String × Setting)
  | [] => older
  | entry :: rest => entryOver older (entriesOver older rest) entry
termination_by structural newer => newer

def entryOver (older merged : List (String × Setting)) : String × Setting → List (String × Setting)
  | (key, value) => match older.lookup key with
      | none => insertEntry key value merged
      | some previous => insertEntry key (laidOver previous value) merged
termination_by structural newer => newer
end

inductive Step where
  | key (name : String)
  | position (index : Nat)
  deriving DecidableEq, Repr

def Step.text : Step → String
  | key name => name
  | position index => toString index

def next? : Setting → Step → Option Setting
  | table entries, .key name => entries.lookup name
  | list items, .position index => items[index]?
  | _, _ => none

def at? : Setting → List Step → Option Setting
  | setting, [] => some setting
  | setting, step :: rest => match setting.next? step with
      | none => none
      | some next => next.at? rest

def description : Setting → String
  | scalar s => s.description
  | list _ => "sequence"
  | table _ => "map"

def under : List String → Setting → Setting
  | [], setting => setting
  | key :: rest, setting => table [(key, under rest setting)]

theorem entryOverEq (older merged : Entries) (key : String) (value : Setting) :
    entryOver older merged (key, value) =
      insertEntry key (match older.lookup key with
        | none => value
        | some previous => laidOver previous value) merged := by
  unfold entryOver
  cases older.lookup key <;> rfl

theorem entriesOverLookup (older newer : Entries) (k : String) :
    (entriesOver older newer).lookup k = match newer.lookup k, older.lookup k with
      | some value, some previous => some (laidOver previous value)
      | some value, none => some value
      | none, previous => previous := by
  induction newer with
  | nil => rfl
  | cons entry rest ih =>
      obtain ⟨key, value⟩ := entry
      rw [entriesOver, entryOverEq, lookupInsertEntry, lookupCons, ih]
      by_cases same : k = key
      · subst same
        cases older.lookup k <;> simp
      · simp [same]

end Setting

end HeaderOutline
