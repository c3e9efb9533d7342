import HeaderOutline.Declaration.Basic
import HeaderOutline.Json

/-! The data form of an outline. A declaration is an object tagged by `kind`; inside another declaration the
tag may also be the number of the kind. -/
namespace HeaderOutline

def Access.json (a : Access) : Json := .str a.spelling

def Access.ofJson? (within : Bool) : Json → Option Access := Json.symbol? within ofSpelling?

def Storage.json (s : Storage) : Json := .str s.spelling

def Storage.ofJson? (within : Bool) : Json → Option Storage := Json.symbol? within ofSpelling?

def DeclarationKind.json (k : DeclarationKind) : Json := .str k.spelling

def DeclarationKind.ofJson? (within : Bool) : Json → Option DeclarationKind :=
  Json.symbol? within ofSpelling?

def DeclarationKind.ofTag? (within : Bool) : Json → Option DeclarationKind
  | .str name => ofSpelling? name
  | .int number => if within ∧ 0 ≤ number then all[number.toNat]? else none
  | _ => none

def Base.json (b : Base) : Json :=
  .obj [("access", b.access.json), ("type_spelling", .str b.typeSpelling)]

def Base.ofJson? (json : Json) : Option Base := do
  let fields ← json.fields? 2
  let access ← fields.required 0 "access" (Access.ofJson? true)
  let typeSpelling ← fields.required 1 "type_spelling" Json.str?
  some ⟨access, typeSpelling⟩

def EnumConstant.json (c : EnumConstant) : Json :=
  .obj [("name", .str c.name), ("type_spelling", .str c.typeSpelling), ("value", .ofInt64 c.value)]

def EnumConstant.ofJson? (json : Json) : Option EnumConstant := do
  let fields ← json.fields? 3
  let name ← fields.required 0 "name" Json.str?
  let typeSpelling ← fields.required 1 "type_spelling" Json.str?
  let value ← fields.required 2 "value" Json.int64?
  some ⟨name, typeSpelling, value⟩

def Enumeration.fields (e : Enumeration) : List (String × Json) :=
  [("name", .str e.name), ("type_spelling", .str e.typeSpelling),
   ("underlying_type", .str e.underlyingType), ("constants", .arr (e.constants.map EnumConstant.json))]

def Enumeration.ofFields? (fields : Fields) : Option Enumeration := do
  let name ← fields.required 0 "name" Json.str?
  let typeSpelling ← fields.required 1 "type_spelling" Json.str?
  let underlyingType ← fields.required 2 "underlying_type" Json.str?
  let constants ← fields.required 3 "constants" (Json.list? EnumConstant.ofJson?)
  some ⟨name, typeSpelling, underlyingType, constants⟩

def Parameter.json (p : Parameter) : Json :=
  .obj [("name", .str p.name), ("type_spelling", .str p.typeSpelling),
    ("default_value", .ofOption .str p.default)]

def Parameter.ofJson? (json : Json) : Option Parameter := do
  let fields ← json.fields? 3
  let name ← fields.required 0 "name" Json.str?
  let typeSpelling ← fields.required 1 "type_spelling" Json.str?
  let default ← fields.optional 2 "default_value" Json.str?
  some ⟨name, typeSpelling, default⟩

def Signature.json (s : Signature) : Json :=
  .obj [("return_type", .str s.returnType), ("storage", s.storage.json),
    ("params", .arr (s.parameters.map Parameter.json))]

def Signature.ofJson? (json : Json) : Option Signature := do
  let fields ← json.fields? 3
  let returnType ← fields.required 0 "return_type" Json.str?
  let storage ← fields.required 1 "storage" (Storage.ofJson? true)
  let parameters ← fields.required 2 "params" (Json.list? Parameter.ofJson?)
  some ⟨returnType, storage, parameters⟩

def ValueType.json (t : ValueType) : Json :=
  .obj [("spelling", .str t.spelling), ("storage", t.storage.json)]

def ValueType.ofJson? (json : Json) : Option ValueType := do
  let fields ← json.fields? 2
  let spelling ← fields.required 0 "spelling" Json.str?
  let storage ← fields.required 1 "storage" (Storage.ofJson? true)
  some ⟨spelling, storage⟩

def RecordHead.fields (h : RecordHead) : List (String × Json) :=
  [("name", .str h.name), ("type_spelling", .str h.typeSpelling), ("bases", .arr (h.bases.map Base.json)),
   ("truncated", .bool h.truncated)]

def RecordHead.ofFields? (fields : Fields) : Option RecordHead := do
  let name ← fields.required 0 "name" Json.str?
  let typeSpelling ← fields.required 1 "type_spelling" Json.str?
  let bases ← fields.required 2 "bases" (Json.list? Base.ofJson?)
  let truncated ← fields.required 3 "truncated" Json.bool?
  some ⟨name, typeSpelling, bases, truncated⟩

namespace Declaration

def tag (d : Declaration) : String × Json := ("kind", d.kind.json)

mutual
def fields : Declaration → List (String × Json)
  | ns name children => [("name", .str name), ("children", .arr (jsonAll children))]
  | record _ head members => head.fields ++ [("members", .arr (jsonAll members))]
  | enum e => e.fields
  | func name signature => [("name", .str name), ("signature", signature.json)]
  | var name type => [("name", .str name), ("value_type", type.json)]
  | field name access type =>
      [("name", .str name), ("access", access.json), ("value_type", type.json)]
  | method name access signature =>
      [("name", .str name), ("access", access.json), ("signature", signature.json)]
termination_by structural d => d

def jsonAll : List Declaration → List Json
  | [] => []
  | d :: rest => .obj (d.tag :: d.fields) :: jsonAll rest
termination_by structural ds => ds
end

def json (d : Declaration) : Json := .obj (d.tag :: d.fields)

theorem jsonAllEqMap (ds : List Declaration) : jsonAll ds = ds.map json := by
  induction ds with
  | nil => rfl
  | cons d rest ih => simp [jsonAll, json, ih]

mutual
def ofJson? (within : Bool) (json : Json) : Option Declaration :=
  match _found : json.tagged? "kind" with
  | none => none
  | some (tag, fields) =>
      match DeclarationKind.ofTag? within tag with
      | none => none
      | some .ns => do
          fields.fit? 2
          let name ← fields.required 0 "name" Json.str?
          match _inside : fields.get? 1 "children" with
          | some (.arr items) => (ofJsonAll? true items).map (ns name)
          | _ => none
      | some (.record key) => do
          fields.fit? 5
          let head ← RecordHead.ofFields? fields
          match _inside : fields.get? 4 "members" with
          | some (.arr items) => (ofJsonAll? true items).map (record key head)
          | _ => none
      | some .enum => do
          fields.fit? 4
          (Enumeration.ofFields? fields).map enum
      | some .func => do
          fields.fit? 2
          let name ← fields.required 0 "name" Json.str?
          let signature ← fields.required 1 "signature" Signature.ofJson?
          some (func name signature)
      | some .var => do
          fields.fit? 2
          let name ← fields.required 0 "name" Json.str?
          let type ← fields.required 1 "value_type" ValueType.ofJson?
          some (var name type)
      | some .field => do
          fields.fit? 3
          let name ← fields.required 0 "name" Json.str?
          let access ← fields.required 1 "access" (Access.ofJson? true)
          let type ← fields.required 2 "value_type" ValueType.ofJson?
          some (field name access type)
      | some .method => do
          fields.fit? 3
          let name ← fields.required 0 "name" Json.str?
          let access ← fields.required 1 "access" (Access.ofJson? true)
          let signature ← fields.required 2 "signature" Signature.ofJson?
          some (method name access signature)
termination_by sizeOf json
decreasing_by
  all_goals
    have outer := Json.sizeOfTagged _found
    have inner := Fields.sizeOfGet _inside
    simp only [Json.arr.sizeOf_spec] at inner
    omega

def ofJsonAll? (within : Bool) : List Json → Option (List Declaration)
  | [] => some []
  | json :: rest => do
      let d ← ofJson? within json
      let others ← ofJsonAll? within rest
      some (d :: others)
termination_by jsons => sizeOf jsons
end

end Declaration

def Fragment.json (f : Fragment) : Json := .obj (Declaration.fields (.ns f.name f.children))

def Record.json (r : Record) : Json := .obj (Declaration.fields (.record .cls r.head r.members))

def Enumeration.json (e : Enumeration) : Json := .obj e.fields

def Diagnostic.json (d : Diagnostic) : Json :=
  .obj [("type", .str "unrecognized_kind"), ("kind", .str d.kind), ("name", .str d.name)]

def Diagnostic.ofJson? (json : Json) : Option Diagnostic := do
  let (tag, fields) ← json.tagged? "type"
  if tag.str? = some "unrecognized_kind" then
    fields.fit? 2
    let kind ← fields.required 0 "kind" Json.str?
    let name ← fields.required 1 "name" Json.str?
    some ⟨kind, name⟩
  else none

namespace Outline

def json (outline : Outline) : Json :=
  .obj [("name", .str outline.name), ("declarations", .arr (Declaration.jsonAll outline.declarations)),
    ("diagnostics", .arr (outline.diagnostics.map Diagnostic.json))]

def ofJson? (json : Json) : Option Outline := do
  let fields ← json.fields? 3
  let name ← fields.required 0 "name" Json.str?
  let declarations ← fields.required 1 "declarations" fun
    | .arr items => Declaration.ofJsonAll? false items
    | _ => none
  let diagnostics ← fields.withDefault 2 "diagnostics" [] (Json.list? Diagnostic.ofJson?)
  some ⟨name, declarations, diagnostics⟩

end Outline

end HeaderOutline
