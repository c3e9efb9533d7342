import HeaderOutline.Settings.Basic
import HeaderOutline.Settings.Setting

/-! Settings read from a merged table. Entries are read in the order of their keys and the first that does
not fit is reported; entries with other keys are passed over. -/
namespace HeaderOutline

inductive Expected where
  | text | path | boolean | sequence | map | headerGroup
  deriving DecidableEq, Repr

def Expected.description : Expected → String
  | text => "a string"
  | path => "path string"
  | boolean => "a boolean"
  | sequence => "a sequence"
  | map => "a map"
  | headerGroup => "struct HeaderGroup"

inductive Misfit where
  | wrongType (found : Setting) (expected : Expected)
  | missingField (name : String)
  | emptyGroup
  deriving Repr

def Misfit.message : Misfit → String
  | wrongType found expected =>
      "invalid type: found " ++ found.description ++ ", expected " ++ expected.description
  | missingField name => "missing field `" ++ name ++ "`"
  | emptyGroup => "invalid length 0, expected struct HeaderGroup with 3 elements"

structure Misreading where
  steps : List Setting.Step
  misfit : Misfit
  deriving Repr

abbrev Reading (α : Type) := Except Misreading α

namespace Reading
variable {α : Type}

def misfit (why : Misfit) : Reading α := .error ⟨[], why⟩

def below (step : Setting.Step) (reading : Reading α) : Reading α :=
  match reading with
  | .ok value => .ok value
  | .error error => .error ⟨step :: error.steps, error.misfit⟩

def textAs (expected : Expected) : Setting → Reading String
  | .scalar (.text value) => .ok value
  | .scalar (.char value) => .ok (String.ofList [value])
  | found => misfit (.wrongType found expected)

def text : Setting → Reading String := textAs .text

def path (setting : Setting) : Reading Path := (textAs .path setting).map Path.mk

def boolean : Setting → Reading Bool
  | .scalar (.bool value) => .ok value
  | found => misfit (.wrongType found .boolean)

def items (read : Setting → Reading α) (position : Nat) : List Setting → Reading (List α)
  | [] => .ok []
  | item :: rest => do
      let value ← below (.position position) (read item)
      let others ← items read (position + 1) rest
      .ok (value :: others)

def sequence (read : Setting → Reading α) : Setting → Reading (List α)
  | .list settings => items read 0 settings
  | found => misfit (.wrongType found .sequence)

def pairs : Setting.Entries → Reading (Dictionary String)
  | [] => .ok ∅
  | (key, setting) :: rest => do
      let value ← below (.key key) (text setting)
      let others ← pairs rest
      .ok (others.insert key value)

def dictionary : Setting → Reading (Dictionary String)
  | .table entries => pairs entries
  | found => misfit (.wrongType found .map)

def entry? (read : Setting → Reading α) (key : String) (entries : Setting.Entries) :
    Reading (Option α) :=
  match entries.lookup key with
  | none => .ok none
  | some setting => (below (.key key) (read setting)).map some

def groupOfEntries (entries : Setting.Entries) : Reading HeaderGroup := do
  let directory ← entry? path "directory" entries
  let discover ← entry? boolean "discover" entries
  let headers ← entry? (sequence text) "headers" entries
  match directory with
  | none => misfit (.missingField "directory")
  | some directory => .ok ⟨directory, headers.getD [], discover.getD false⟩

def groupOfItems : List Setting → Reading HeaderGroup
  | [] => misfit .emptyGroup
  | directory :: rest => do
      let directory ← below (.position 0) (path directory)
      match rest with
      | [] => .ok ⟨directory, [], false⟩
      | headers :: rest =>
          let headers ← below (.position 1) (sequence text headers)
          match rest with
          | [] => .ok ⟨directory, headers, false⟩
          | discover :: _ =>
              let discover ← below (.position 2) (boolean discover)
              .ok ⟨directory, headers, discover⟩

def group : Setting → Reading HeaderGroup
  | .table entries => groupOfEntries entries
  | .list items => groupOfItems items
  | found => misfit (.wrongType found .headerGroup)

end Reading

open Reading

def Settings.ofEntries (entries : Setting.Entries) : Reading Settings := do
  let frontEndArguments ← entry? (sequence text) "clang_args" entries
  let headers ← entry? (sequence group) "headers" entries
  let includeDirs ← entry? (sequence path) "include_dirs" entries
  let indexSymbols ← entry? boolean "index_symbols" entries
  let inputName ← entry? text "input_name" entries
  let macros ← entry? (sequence text) "macros" entries
  let predefined ← entry? dictionary "predefined" entries
  .ok
    { headers := headers.getD default.headers
      includeDirs := includeDirs.getD default.includeDirs
      macros := macros.getD default.macros
      predefined := predefined.getD default.predefined
      frontEndArguments := frontEndArguments.getD default.frontEndArguments
      inputName := inputName.getD default.inputName
      indexSymbols := indexSymbols.getD default.indexSymbols }

end HeaderOutline
