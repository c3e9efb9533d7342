import HeaderOutline.Dictionary
import HeaderOutline.Proofs.Faithful

/-! An outline is read back from its data, and data that is read restates what it is read from. -/
namespace HeaderOutline

namespace Declaration

def ofContent? (kind : DeclarationKind) (fields : Fields) : Option Declaration :=
  match kind with
  | .ns => do
      fields.fit? 2
      let name ← fields.required 0 "name" Json.str?
      (fields.required 1 "children" (Json.list? (ofJson? true))).map (ns name)
  | .record key => do
      fields.fit? 5
      let head ← RecordHead.ofFields? fields
      (fields.required 4 "members" (Json.list? (ofJson? true))).map (record key head)
  | .enum => do
      fields.fit? 4
      (Enumeration.ofFields? fields).map enum
  | .func => do
      fields.fit? 2
      let name ← fields.required 0 "name" Json.str?
      let signature ← fields.required 1 "signature" Signature.ofJson?
      some (func name signature)
  | .var => do
      fields.fit? 2
      let name ← fields.required 0 "name" Json.str?
      let type ← fields.required 1 "value_type" ValueType.ofJson?
      some (var name type)
  | .field => do
      fields.fit? 3
      let name ← fields.required 0 "name" Json.str?
      let access ← fields.required 1 "access" (Access.ofJson? true)
      let type ← fields.required 2 "value_type" ValueType.ofJson?
      some (field name access type)
  | .method => do
      fields.fit? 3
      let name ← fields.required 0 "name" Json.str?
      let access ← fields.required 1 "access" (Access.ofJson? true)
      let signature ← fields.required 2 "signature" Signature.ofJson?
      some (method name access signature)

theorem ofJsonAllMapM (within : Bool) (items : List Json) :
    ofJsonAll? within items = items.mapM (ofJson? within) := by
  induction items with
  | nil => rw [ofJsonAll?]; rfl
  | cons json rest ih => rw [ofJsonAll?, ih, List.mapM_cons]; rfl

-- The reader keeps how it found the children, for its own recursion; nothing else needs that.
theorem childrenEq (fields : Fields) (position : Nat) (label : String)
    (build : List Declaration → Declaration) :
    (match _inside : fields.get? position label with
      | some (.arr items) => (ofJsonAll? true items).map build
      | _ => none) = (fields.required position label (Json.list? (ofJson? true))).map build := by
  unfold Fields.required
  split
  next items inside => rw [inside, ofJsonAllMapM]; rfl
  next other =>
    cases found : fields.get? position label with
    | none => rfl
    | some json =>
        cases json with
        | arr items => exact absurd found (other items)
        | _ => rfl

theorem ofJsonEq (within : Bool) (json : Json) :
    ofJson? within json = (json.tagged? "kind").bind fun found =>
      (DeclarationKind.ofTag? within found.1).bind fun kind => ofContent? kind found.2 := by
  rw [ofJson?]
  split
  next none => simp only [none, Option.bind_none]
  next tag fields found =>
    simp only [found, Option.bind_some]
    split
    next none => simp only [none, Option.bind_none]
    next kind =>
      simp only [kind, Option.bind_some, ofContent?]
      exact bind_congr fun _ => bind_congr fun name => childrenEq fields 1 "children" (ns name)
    next key kind =>
      simp only [kind, Option.bind_some, ofContent?]
      exact bind_congr fun _ => bind_congr fun head => childrenEq fields 4 "members" (record key head)
    all_goals
      next kind => simp only [kind, Option.bind_some, ofContent?]

end Declaration

section Reads

@[simp] theorem Fields.requiredNamed {α : Type} (entries : List (String × Json)) (position : Nat)
    (name : String) (read : Json → Option α) :
    (Fields.named entries).required position name read = (entries.lookup name).bind read := rfl

theorem mapMReads {α β : Type} {read : β → Option α} {write : α → β} {xs : List α}
    (each : ∀ x ∈ xs, read (write x) = some x) : (xs.map write).mapM read = some xs := by
  induction xs with
  | nil => rfl
  | cons x rest ih =>
      have later := ih fun y inRest => each y (List.mem_cons_of_mem x inRest)
      simp only [List.map_cons, List.mapM_cons, each x List.mem_cons_self, later]
      rfl

theorem listReads {α : Type} {read : Json → Option α} {write : α → Json} {xs : List α}
    (each : ∀ x ∈ xs, read (write x) = some x) : Json.list? read (.arr (xs.map write)) = some xs :=
  mapMReads each

@[simp] theorem Access.reads (within : Bool) (a : Access) : Access.ofJson? within a.json = some a :=
  a.ofSpellingSpelling

@[simp] theorem Storage.reads (within : Bool) (s : Storage) : Storage.ofJson? within s.json = some s :=
  s.ofSpellingSpelling

@[simp] theorem DeclarationKind.reads (within : Bool) (k : DeclarationKind) :
    DeclarationKind.ofTag? within k.json = some k := k.ofSpellingSpelling

@[simp] theorem Base.reads (b : Base) : Base.ofJson? b.json = some b := by
  simp [Base.ofJson?, Base.json, Json.fields?, lookupCons, Json.str?]

@[simp] theorem EnumConstant.reads (c : EnumConstant) : EnumConstant.ofJson? c.json = some c := by
  simp [EnumConstant.ofJson?, EnumConstant.json, Json.fields?, lookupCons, Json.str?,
    Json.int64OfInt64]

@[simp] theorem Enumeration.reads (tag : Json) (e : Enumeration) :
    Enumeration.ofFields? (.named (("kind", tag) :: e.fields)) = some e := by
  simp [Enumeration.ofFields?, Enumeration.fields, lookupCons, Json.str?, listReads]

@[simp] theorem Parameter.reads (p : Parameter) : Parameter.ofJson? p.json = some p := by
  obtain ⟨name, typeSpelling, default⟩ := p
  cases default <;> simp [Parameter.ofJson?, Parameter.json, Json.fields?, lookupCons, Json.str?,
    Fields.optional, Fields.get?, Json.ofOption]

@[simp] theorem Signature.reads (s : Signature) : Signature.ofJson? s.json = some s := by
  simp [Signature.ofJson?, Signature.json, Json.fields?, lookupCons, Json.str?, listReads]

@[simp] theorem ValueType.reads (t : ValueType) : ValueType.ofJson? t.json = some t := by
  simp [ValueType.ofJson?, ValueType.json, Json.fields?, lookupCons, Json.str?]

@[simp] theorem RecordHead.reads (tag : Json) (h : RecordHead) (more : List (String × Json)) :
    RecordHead.ofFields? (.named (("kind", tag) :: (h.fields ++ more))) = some h := by
  simp [RecordHead.ofFields?, RecordHead.fields, lookupCons, Json.str?, Json.bool?, listReads]

theorem Diagnostic.reads (d : Diagnostic) : Diagnostic.ofJson? d.json = some d := by
  simp [Diagnostic.ofJson?, Diagnostic.json, Json.tagged?, lookupCons, Json.str?, Fields.fit?]

namespace Declaration

theorem contentReads (d : Declaration) (inside : ∀ child ∈ d.children, ofJson? true child.json = some child) :
    ofContent? d.kind (.named (d.tag :: d.fields)) = some d := by
  have childrenRead := listReads inside
  cases d with
  | ns name children =>
      simpa [ofContent?, kind, fields, tag, lookupCons, Json.str?, Fields.fit?, jsonAllEqMap,
        Declaration.children] using childrenRead
  | record key head members =>
      have own : (head.fields ++ [("members", Json.arr (members.map json))]).lookup "members" =
          some (.arr (members.map json)) := by
        simp [RecordHead.fields, lookupCons]
      simpa [ofContent?, kind, fields, tag, lookupCons, Fields.fit?, jsonAllEqMap, own,
        Declaration.children] using childrenRead
  | enum e => simp [ofContent?, kind, fields, tag, Fields.fit?]
  | _ => simp [ofContent?, kind, fields, tag, lookupCons, Json.str?, Fields.fit?]

theorem reads (within : Bool) (d : Declaration) : ofJson? within d.json = some d := by
  induction d using childInduction generalizing within with
  | step d ih =>
    have tagged : d.json.tagged? "kind" = some (d.kind.json, .named (d.tag :: d.fields)) := rfl
    rw [ofJsonEq, tagged, Option.bind_some, DeclarationKind.reads, Option.bind_some]
    exact contentReads d fun child inside => ih child inside true

end Declaration

theorem Outline.ofJsonEq (json : Json) :
    ofJson? json = (do
      let fields ← json.fields? 3
      let name ← fields.required 0 "name" Json.str?
      let declarations ← fields.required 1 "declarations" (Json.list? (Declaration.ofJson? false))
      let diagnostics ← fields.withDefault 2 "diagnostics" [] (Json.list? Diagnostic.ofJson?)
      some ⟨name, declarations, diagnostics⟩) := by
  unfold ofJson?
  refine bind_congr fun fields => bind_congr fun name => ?_
  congr 2
  funext json
  cases json <;> simp only [Json.list?, Declaration.ofJsonAllMapM]

theorem Outline.reads (outline : Outline) : ofJson? outline.json = some outline := by
  have declarations : Json.list? (Declaration.ofJson? false)
      (.arr (outline.declarations.map Declaration.json)) = some outline.declarations :=
    listReads fun d _ => d.reads false
  have diagnostics : Json.list? Diagnostic.ofJson? (.arr (outline.diagnostics.map Diagnostic.json)) =
      some outline.diagnostics := listReads fun d _ => d.reads
  simp [ofJsonEq, json, Json.fields?, lookupCons, Json.str?, Fields.withDefault, Fields.get?,
    Declaration.jsonAllEqMap, declarations, diagnostics]

end Reads

section Faithful

theorem Access.faithful (within : Bool) (a : Access) :
    Faithful Respelled Form.access (ofJson? within) json a :=
  wordFaithful (by cases a <;> decide) (by cases a <;> decide)

theorem Storage.faithful (within : Bool) (s : Storage) :
    Faithful Respelled Form.storage (ofJson? within) json s :=
  wordFaithful (by cases s <;> decide) (by cases s <;> decide)

theorem Base.faithful (b : Base) : Faithful Respelled Form.base ofJson? json b := by
  intro v written reads
  obtain ⟨old, rfl⟩ := writtenObject written
  simp only [ofJson?, Json.fields?, bind, Option.bind_some, Option.bind_eq_some_iff] at reads
  obtain ⟨access, accessRead, spelling, spellingRead, last⟩ := reads
  obtain rfl := Option.some.inj last
  exact restatesRecord written (by decide)
    (.cons (requiredCarries (access.faithful true) accessRead)
      (.cons (requiredCarries (textFaithful spelling) spellingRead) .nil))

theorem EnumConstant.faithful (c : EnumConstant) : Faithful Respelled Form.constant ofJson? json c := by
  intro v written reads
  obtain ⟨old, rfl⟩ := writtenObject written
  simp only [ofJson?, Json.fields?, bind, Option.bind_some, Option.bind_eq_some_iff] at reads
  obtain ⟨name, nameRead, spelling, spellingRead, value, valueRead, last⟩ := reads
  obtain rfl := Option.some.inj last
  exact restatesRecord written (by decide)
    (.cons (requiredCarries (textFaithful name) nameRead)
      (.cons (requiredCarries (textFaithful spelling) spellingRead)
        (.cons (requiredCarries (numberFaithful value) valueRead) .nil)))

theorem Parameter.faithful (p : Parameter) : Faithful Respelled Form.parameter ofJson? json p := by
  intro v written reads
  obtain ⟨old, rfl⟩ := writtenObject written
  simp only [ofJson?, Json.fields?, bind, Option.bind_some, Option.bind_eq_some_iff] at reads
  obtain ⟨name, nameRead, spelling, spellingRead, default, defaultRead, last⟩ := reads
  obtain rfl := Option.some.inj last
  exact restatesRecord written (by decide)
    (.cons (requiredCarries (textFaithful name) nameRead)
      (.cons (requiredCarries (textFaithful spelling) spellingRead)
        (.cons (optionalCarries textFaithful defaultRead) .nil)))

theorem Signature.faithful (s : Signature) : Faithful Respelled Form.signature ofJson? json s := by
  intro v written reads
  obtain ⟨old, rfl⟩ := writtenObject written
  simp only [ofJson?, Json.fields?, bind, Option.bind_some, Option.bind_eq_some_iff] at reads
  obtain ⟨returnType, returnTypeRead, storage, storageRead, parameters, parametersRead, last⟩ := reads
  obtain rfl := Option.some.inj last
  exact restatesRecord written (by decide)
    (.cons (requiredCarries (textFaithful returnType) returnTypeRead)
      (.cons (requiredCarries (storage.faithful true) storageRead)
        (.cons (requiredListCarries (fun p _ => p.faithful) parametersRead) .nil)))

theorem ValueType.faithful (t : ValueType) : Faithful Respelled Form.valueType ofJson? json t := by
  intro v written reads
  obtain ⟨old, rfl⟩ := writtenObject written
  simp only [ofJson?, Json.fields?, bind, Option.bind_some, Option.bind_eq_some_iff] at reads
  obtain ⟨spelling, spellingRead, storage, storageRead, last⟩ := reads
  obtain rfl := Option.some.inj last
  exact restatesRecord written (by decide)
    (.cons (requiredCarries (textFaithful spelling) spellingRead)
      (.cons (requiredCarries (storage.faithful true) storageRead) .nil))

theorem Enumeration.carries {old : List (String × Json)} {e : Enumeration}
    (reads : ofFields? (.named old) = some e) :
    List.Forall₂ (Carries Respelled old) DeclarationKind.enum.content e.fields := by
  simp only [ofFields?, bind, Option.bind_eq_some_iff] at reads
  obtain ⟨name, nameRead, spelling, spellingRead, underlying, underlyingRead, constants, constantsRead,
    last⟩ := reads
  obtain rfl := Option.some.inj last
  exact .cons (requiredCarries (textFaithful name) nameRead)
    (.cons (requiredCarries (textFaithful spelling) spellingRead)
      (.cons (requiredCarries (textFaithful underlying) underlyingRead)
        (.cons (requiredListCarries (fun c _ => c.faithful) constantsRead) .nil)))

theorem Diagnostic.faithful (d : Diagnostic) : Faithful Respelled Form.diagnostic ofJson? json d := by
  intro v written reads
  obtain ⟨old, rfl⟩ := writtenObject written
  simp only [ofJson?, Json.tagged?, bind, Option.bind_eq_some_iff, Option.map_eq_some_iff] at reads
  obtain ⟨_, ⟨tag, found, rfl⟩, reads⟩ := reads
  obtain ⟨named, reads⟩ := Option.ite_none_right_eq_some.mp reads
  simp only [Option.bind_eq_some_iff] at reads
  obtain ⟨-, -, kind, kindRead, name, nameRead, last⟩ := reads
  obtain rfl := Option.some.inj last
  refine restatesRecord written (by decide) (.cons ⟨rfl, fun v given _ => ?_, fun missing => ?_⟩
    (.cons (requiredCarries (textFaithful kind) kindRead)
      (.cons (requiredCarries (textFaithful name) nameRead) .nil)))
  · obtain rfl := Option.some.inj (found.symm.trans given)
    have spelled : tag = .str "unrecognized_kind" := by
      cases tag <;> simp_all [Json.str?]
    exact .word List.mem_cons_self (.inl spelled)
  · cases missing.symm.trans found

theorem RecordHead.carries {old : List (String × Json)} {head : RecordHead}
    (reads : ofFields? (.named old) = some head) :
    List.Forall₂ (Carries Respelled old) [("name", .text, none), ("type_spelling", .text, none),
      ("bases", .list Form.base, none), ("truncated", .flag, none)] head.fields := by
  simp only [ofFields?, bind, Option.bind_eq_some_iff] at reads
  obtain ⟨name, nameRead, spelling, spellingRead, bases, basesRead, truncated, truncatedRead, last⟩ := reads
  obtain rfl := Option.some.inj last
  exact .cons (requiredCarries (textFaithful name) nameRead)
    (.cons (requiredCarries (textFaithful spelling) spellingRead)
      (.cons (requiredListCarries (fun b _ => b.faithful) basesRead)
        (.cons (requiredCarries (flagFaithful truncated) truncatedRead) .nil)))

theorem DeclarationKind.tagFaithful {within : Bool} (kind : DeclarationKind) :
    Faithful Respelled (.word [kind.spelling]) (ofTag? within) json kind := by
  intro v _ reads
  refine .word List.mem_cons_self ?_
  cases v with
  | str name =>
      obtain rfl := spellingOfSpelling reads
      exact .inl rfl
  | int number =>
      obtain ⟨⟨-, counts⟩, listed⟩ := Option.ite_none_right_eq_some.mp reads
      obtain ⟨position, rfl⟩ := Int.eq_ofNat_of_zero_le counts
      exact .inr (.number listed)
  | _ => cases reads

theorem DeclarationKind.ofTagWithin {within : Bool} {tag : Json} {kind : DeclarationKind}
    (named : ofTag? within tag = some kind) : ofTag? true tag = some kind := by
  cases tag with
  | int number =>
      obtain ⟨⟨-, counts⟩, listed⟩ := Option.ite_none_right_eq_some.mp named
      exact (if_pos ⟨rfl, counts⟩).trans listed
  | _ => exact named

theorem DeclarationKind.namesApart (kind : DeclarationKind) :
    (("kind" :: kind.content.map Prod.fst)).Nodup := by
  cases kind <;> simp [content]

namespace Declaration

theorem contentCarries {kind : DeclarationKind} {old : List (String × Json)} {d : Declaration}
    (inside : ∀ child ∈ d.children, Faithful Respelled .declaration (ofJson? true) json child)
    (reads : ofContent? kind (.named old) = some d) :
    d.kind = kind ∧ List.Forall₂ (Carries Respelled old) kind.content d.fields := by
  cases kind with
  | ns =>
      simp only [ofContent?, Fields.fit?, bind, Option.bind_some, Option.bind_eq_some_iff,
        Option.map_eq_some_iff] at reads
      obtain ⟨name, nameRead, children, childrenRead, rfl⟩ := reads
      rw [fields, jsonAllEqMap]
      exact ⟨rfl, .cons (requiredCarries (textFaithful name) nameRead)
        (.cons (requiredListCarries inside childrenRead) .nil)⟩
  | record key =>
      simp only [ofContent?, Fields.fit?, bind, Option.bind_some, Option.bind_eq_some_iff,
        Option.map_eq_some_iff] at reads
      obtain ⟨head, headRead, members, membersRead, rfl⟩ := reads
      rw [fields, jsonAllEqMap]
      exact ⟨rfl, List.rel_append (RecordHead.carries headRead)
        (.cons (requiredListCarries inside membersRead) .nil)⟩
  | enum =>
      simp only [ofContent?, Fields.fit?, bind, Option.bind_some, Option.map_eq_some_iff] at reads
      obtain ⟨e, read, rfl⟩ := reads
      exact ⟨rfl, Enumeration.carries read⟩
  | func =>
      simp only [ofContent?, Fields.fit?, bind, Option.bind_some, Option.bind_eq_some_iff] at reads
      obtain ⟨name, nameRead, signature, signatureRead, last⟩ := reads
      obtain rfl := Option.some.inj last
      exact ⟨rfl, .cons (requiredCarries (textFaithful name) nameRead)
        (.cons (requiredCarries signature.faithful signatureRead) .nil)⟩
  | var =>
      simp only [ofContent?, Fields.fit?, bind, Option.bind_some, Option.bind_eq_some_iff] at reads
      obtain ⟨name, nameRead, type, typeRead, last⟩ := reads
      obtain rfl := Option.some.inj last
      exact ⟨rfl, .cons (requiredCarries (textFaithful name) nameRead)
        (.cons (requiredCarries type.faithful typeRead) .nil)⟩
  | field =>
      simp only [ofContent?, Fields.fit?, bind, Option.bind_some, Option.bind_eq_some_iff] at reads
      obtain ⟨name, nameRead, access, accessRead, type, typeRead, last⟩ := reads
      obtain rfl := Option.some.inj last
      exact ⟨rfl, .cons (requiredCarries (textFaithful name) nameRead)
        (.cons (requiredCarries (access.faithful true) accessRead)
          (.cons (requiredCarries type.faithful typeRead) .nil))⟩
  | method =>
      simp only [ofContent?, Fields.fit?, bind, Option.bind_some, Option.bind_eq_some_iff] at reads
      obtain ⟨name, nameRead, access, accessRead, signature, signatureRead, last⟩ := reads
      obtain rfl := Option.some.inj last
      exact ⟨rfl, .cons (requiredCarries (textFaithful name) nameRead)
        (.cons (requiredCarries (access.faithful true) accessRead)
          (.cons (requiredCarries signature.faithful signatureRead) .nil))⟩

theorem faithful (within : Bool) (d : Declaration) :
    Faithful Respelled .declaration (ofJson? within) json d := by
  induction d using childInduction generalizing within with
  | step d ih =>
    intro v written reads
    cases written with
    | @declaration old distinct each =>
      simp only [ofJsonEq, Json.tagged?, Option.bind_eq_some_iff, Option.map_eq_some_iff] at reads
      obtain ⟨_, ⟨tag, found, rfl⟩, kind, named, content⟩ := reads
      obtain ⟨rfl, carried⟩ := contentCarries (fun child inside => ih child inside true) content
      have tagRead : (Fields.named old).required 0 "kind" (DeclarationKind.ofTag? within) = some d.kind :=
        Option.bind_eq_some_iff.mpr ⟨tag, found, named⟩
      have asKind := each d.kind tag (lookupListed found) (DeclarationKind.ofTagWithin named)
      exact .declaration (restatesRecord asKind d.kind.namesApart
        (.cons (requiredCarries d.kind.tagFaithful tagRead) carried))

end Declaration

theorem Outline.faithful (outline : Outline) :
    Faithful Respelled Form.outline ofJson? json outline := by
  intro v written reads
  obtain ⟨old, rfl⟩ := writtenObject written
  simp only [ofJsonEq, Json.fields?, bind, Option.bind_some, Option.bind_eq_some_iff] at reads
  obtain ⟨name, nameRead, declarations, declarationsRead, diagnostics, diagnosticsRead, last⟩ := reads
  obtain rfl := Option.some.inj last
  rw [json, Declaration.jsonAllEqMap]
  exact restatesRecord written (by decide)
    (.cons (requiredCarries (textFaithful name) nameRead)
      (.cons (requiredListCarries (fun d _ => d.faithful false) declarationsRead)
        (.cons (withDefaultListCarries (fun d _ => d.faithful) diagnosticsRead) .nil)))

end Faithful

end HeaderOutline
