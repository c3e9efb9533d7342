import HeaderOutline.Path
import HeaderOutline.Settings.Setting

/-! Layers of settings. Each was read in one place; a later layer is laid over the earlier ones. What stands
in the merged table was last given by one of them. -/
namespace HeaderOutline

inductive Origin where
  | file (path : Path)
  | environment
  deriving DecidableEq, Repr

structure Layer where
  origin : Origin
  entries : Setting.Entries
  deriving Repr

namespace Layer

def merged (layers : List Layer) : Setting.Entries :=
  layers.foldl (fun older layer => Setting.entriesOver older layer.entries) []

def has (layer : Layer) (steps : List Setting.Step) : Bool :=
  ((Setting.table layer.entries).at? steps).isSome

def origin? (layers : List Layer) (steps : List Setting.Step) : Option Origin :=
  (layers.reverse.find? fun layer => layer.has steps).map Layer.origin

end Layer

end HeaderOutline
