import HeaderOutline.Settings.Setting

/-! Tables while a document is read. How a table came to be decides what may still be added to it: a header
may open a table that stands only on the way to others, dotted keys may add to tables that no header opened,
and what was given as a value is closed. -/
namespace HeaderOutline.Toml

inductive Standing where
  | implied | dotted | declared
  deriving DecidableEq, Repr

inductive Node where
  | value (setting : Setting)
  | table (standing : Standing) (entries : List (String × Node))
  | array (tables : List Node)
  deriving Repr

namespace Node

abbrev Entries := List (String × Node)

mutual
def setting : Node → Setting
  | .value setting => setting
  | .table _ entries => .table (settingsOf entries)
  | .array tables => .list (settingList tables)
termination_by structural node => node

def settingsOf : List (String × Node) → List (String × Setting)
  | [] => []
  | entry :: rest => settingEntry entry :: settingsOf rest
termination_by structural entries => entries

def settingEntry : String × Node → String × Setting
  | (key, node) => (key, setting node)
termination_by structural entry => entry

def settingList : List Node → List Setting
  | [] => []
  | node :: rest => setting node :: settingList rest
termination_by structural nodes => nodes
end

def inLast (change : Standing → Entries → Option Entries) (tables : List Node) : Option Node :=
  match tables.reverse with
  | .table standing entries :: before =>
      (change standing entries).map fun entries => .array (before.reverse ++ [.table standing entries])
  | _ => none

def within (change : Entries → Option Entries) : List String → Entries → Option Entries
  | [], entries => change entries
  | key :: rest, entries => do
      let node ← match entries.lookup key with
        | none => (within change rest []).map (table .implied)
        | some (.value _) => none
        | some (.table standing inner) => (within change rest inner).map (table standing)
        | some (.array tables) => inLast (fun _ inner => within change rest inner) tables
      some (insertEntry key node entries)

def declareTable (key : String) (entries : Entries) : Option Entries :=
  match entries.lookup key with
  | none => some (insertEntry key (table .declared []) entries)
  | some (.table .implied inner) => some (insertEntry key (table .declared inner) entries)
  | some _ => none

def declareElement (key : String) (entries : Entries) : Option Entries :=
  match entries.lookup key with
  | none => some (insertEntry key (array [table .declared []]) entries)
  | some (.array tables) => some (insertEntry key (array (tables ++ [table .declared []])) entries)
  | some _ => none

def assignIn (value : Setting) (standing : Standing) (entries : Entries) : List String → Option Entries
  | [] => none
  | [key] =>
      if standing = .dotted ∧ (entries.lookup key).isNone then some (insertEntry key (.value value) entries)
      else none
  | key :: rest => do
      let node ← match entries.lookup key with
        | none => (assignIn value .dotted [] rest).map (table .dotted)
        | some (.value _) => none
        | some (.table standing inner) =>
            if standing = .declared then none else (assignIn value standing inner rest).map (table standing)
        | some (.array tables) => inLast (fun standing inner => assignIn value standing inner rest) tables
      some (insertEntry key node entries)

def assign (keys : List String) (value : Setting) (entries : Entries) : Option Entries :=
  assignIn value .dotted entries keys

end Node

end HeaderOutline.Toml
