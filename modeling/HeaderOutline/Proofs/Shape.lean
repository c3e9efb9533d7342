import HeaderOutline.Proofs.Traversal

/-! Which outlines an extraction can give. In a scope there are namespaces, whole records, enumerations,
functions and variables; a record holds fields, methods and truncated records. Every outline of that
shape, with any texts and values and any diagnostics, is the extraction of some cursor tree. -/
namespace HeaderOutline

inductive MemberShaped : Declaration → Prop where
  | field (name access type) : MemberShaped (.field name access type)
  | method (name access signature) : MemberShaped (.method name access signature)
  | truncated (key name typeSpelling) : MemberShaped (.record key ⟨name, typeSpelling, [], true⟩ [])

inductive ScopeShaped : Declaration → Prop where
  | ns {name children} (inner : ∀ child ∈ children, ScopeShaped child) : ScopeShaped (.ns name children)
  | record {key head members} (whole : head.truncated = false)
      (inner : ∀ member ∈ members, MemberShaped member) : ScopeShaped (.record key head members)
  | enum (enumeration) : ScopeShaped (.enum enumeration)
  | func (name signature) : ScopeShaped (.func name signature)
  | var (name type) : ScopeShaped (.var name type)

def Outline.Shaped (outline : Outline) : Prop := ∀ d ∈ outline.declarations, ScopeShaped d

theorem shapedHeld {d : Declaration} (shaped : ScopeShaped d) : ∀ {outer number enclosing place},
    place ∈ d.places outer number enclosing false → place.member = true →
      MemberShaped place.declaration := by
  induction shaped with
  | @ns name children inner ih =>
      intro outer number enclosing place found held
      rcases List.mem_cons.mp found with rfl | below
      · contradiction
      · obtain ⟨i, child, atI, inChild⟩ := Declaration.placesAllAt below
        exact ih child (List.mem_of_getElem? atI) inChild held
  | @record key head members whole inner =>
      intro outer number enclosing place found held
      rcases List.mem_cons.mp found with rfl | below
      · contradiction
      · obtain ⟨i, d, atI, inD⟩ := Declaration.placesAllAt below
        have shaped := inner d (List.mem_of_getElem? atI)
        cases shaped <;> cases List.mem_singleton.mp inD <;> constructor
  | enum | func | var =>
      intro outer number enclosing place found held
      cases List.mem_singleton.mp found
      contradiction

theorem memberNotNs {d : Declaration} (shaped : MemberShaped d) : d.kind ≠ .ns := by
  cases shaped <;> exact nofun

theorem memberShaped {record : String} {c : Cursor} {d : Declaration}
    (declared : Extraction.member record c = .declared d) : MemberShaped d := by
  simp only [Extraction.member] at declared
  split at declared <;> cases declared
  · exact .method ..
  · exact .field ..
  · exact .field ..
  · exact .truncated ..
  · exact .truncated ..

theorem recordShaped (key : ClassKey) (c : Cursor) : ScopeShaped (Extraction.record key c) := by
  refine .record rfl fun d held => ?_
  obtain ⟨m, listed, declared⟩ := List.mem_filterMap.mp held
  obtain ⟨child, _, rfl⟩ := List.mem_map.mp listed
  cases same : Extraction.member c.head.name child with
  | declared e =>
      rw [same] at declared
      cases Option.some.inj declared
      exact memberShaped same
  | _ => simp [same, Extraction.Member.declared?] at declared

mutual
theorem declarationShaped : (c : Cursor) → {d : Declaration} → c.declaration? = some d → ScopeShaped d
  | .node head children, d, declared => by
      unfold Cursor.declaration? at declared
      split at declared
      · contradiction
      · split at declared <;> cases declared
        · exact .ns (declarationsShaped children)
        · exact recordShaped ..
        · exact recordShaped ..
        · exact .enum _
        · exact .var ..
        · exact .func ..

theorem declarationsShaped : (cs : List Cursor) → ∀ d ∈ Cursor.declarations cs, ScopeShaped d
  | [], _, listed => by simp [Cursor.declarations] at listed
  | first :: rest, d, listed => by
      simp only [Cursor.declarations, List.mem_append, Option.mem_toList] at listed
      rcases listed with here | later
      · exact declarationShaped first here
      · exact declarationsShaped rest d later
end

/-! A cursor tree for an outline of that shape. What an attribute does not need is left empty. -/

def CursorHead.bare (kind : CursorKind) (name : String) : CursorHead :=
  ⟨kind, name, "", .user, true, .unspecified, .unspecified, "", [], none, ""⟩

def defaultTokens : Option String → List Token
  | none => []
  | some text => [⟨.punctuation, "="⟩, ⟨.literal, text⟩]

def Base.cursor (b : Base) : Cursor :=
  .node { CursorHead.bare .baseSpecifier "" with access := b.access, typeSpelling := b.typeSpelling } []

def EnumConstant.cursor (c : EnumConstant) : Cursor :=
  .node { CursorHead.bare .enumConstantDecl c.name with
    typeSpelling := c.typeSpelling, enumValue := some c.value } []

def Parameter.cursor (p : Parameter) : Cursor :=
  .node { CursorHead.bare .parmDecl p.name with
    typeSpelling := p.typeSpelling, tokens := defaultTokens p.default } []

def Diagnostic.cursor (d : Diagnostic) : Cursor := .node (CursorHead.bare (.other d.kind) d.name) []

def ClassKey.cursorKind : ClassKey → CursorKind
  | cls => .classDecl
  | struct => .structDecl

namespace Declaration

mutual
def cursor : Declaration → Cursor
  | ns name children => .node (CursorHead.bare .ns name) (cursors children)
  | record key head members =>
      .node { CursorHead.bare key.cursorKind head.name with typeSpelling := head.typeSpelling }
        (head.bases.map Base.cursor ++ cursors members)
  | enum e =>
      .node { CursorHead.bare .enumDecl e.name with
        typeSpelling := e.typeSpelling, underlyingType := e.underlyingType }
        (e.constants.map EnumConstant.cursor)
  | func name s =>
      .node { CursorHead.bare .functionDecl name with resultType := s.returnType, storage := s.storage }
        (s.parameters.map Parameter.cursor)
  | var name type =>
      .node { CursorHead.bare .varDecl name with
        typeSpelling := type.spelling, storage := type.storage } []
  | field name access type =>
      .node { CursorHead.bare .fieldDecl name with
        typeSpelling := type.spelling, storage := type.storage, access := access } []
  | method name access s =>
      .node { CursorHead.bare .method name with
        resultType := s.returnType, storage := s.storage, access := access }
        (s.parameters.map Parameter.cursor)
termination_by structural d => d

def cursors : List Declaration → List Cursor
  | [] => []
  | d :: rest => d.cursor :: cursors rest
termination_by structural ds => ds
end

theorem cursorsMap (ds : List Declaration) : cursors ds = ds.map cursor := by
  induction ds with
  | nil => rfl
  | cons d rest ih => rw [cursors, ih, List.map_cons]

theorem cursorUser (d : Declaration) : d.cursor.head.inSystemHeader = false := by
  cases d <;> rfl

end Declaration

def Outline.cursor (outline : Outline) : Cursor :=
  .node (CursorHead.bare .unit outline.name)
    (outline.diagnostics.map Diagnostic.cursor ++ outline.declarations.map Declaration.cursor)

theorem userChildrenAll {head : CursorHead} {children : List Cursor}
    (user : ∀ child ∈ children, child.head.inSystemHeader = false) :
    (Cursor.node head children).userChildren = children :=
  List.filter_eq_self.mpr fun child listed => by rw [user child listed]; rfl

theorem userChildrenMap {α : Type} {head : CursorHead} {f : α → Cursor} (xs : List α)
    (user : ∀ x, (f x).head.inSystemHeader = false) :
    (Cursor.node head (xs.map f)).userChildren = xs.map f :=
  userChildrenAll (List.forall_mem_map.mpr fun x _ => user x)

theorem kindMap {α : Type} {f : α → Cursor} {kind : CursorKind} (xs : List α)
    (same : ∀ x, (f x).head.kind = kind) : (xs.map f).filter (·.head.kind = kind) = xs.map f :=
  List.filter_eq_self.mpr (List.forall_mem_map.mpr fun x _ => decide_eq_true (same x))

theorem defaultTokensRead (default : Option String) : defaultValue? (defaultTokens default) = default := by
  cases default <;> rfl

theorem parameterRead (p : Parameter) : Extraction.parameter p.cursor = p := by
  simp [Extraction.parameter, Parameter.cursor, Cursor.head, CursorHead.bare, defaultTokensRead]

theorem signatureRead {head : CursorHead} {s : Signature} (result : head.resultType = s.returnType)
    (storage : head.storage = s.storage) :
    Extraction.signature (.node head (s.parameters.map Parameter.cursor)) = s := by
  have kinds : (s.parameters.map Parameter.cursor).filter (·.head.kind = .parmDecl) =
      s.parameters.map Parameter.cursor := kindMap _ fun _ => rfl
  unfold Extraction.signature
  rw [userChildrenMap s.parameters fun _ => rfl, kinds, List.map_map]
  simp [Function.comp_def, parameterRead, Cursor.head, result, storage]

theorem constantsRead (next : Int64) (cs : List EnumConstant) :
    Extraction.constantsFrom next (cs.map EnumConstant.cursor) = cs := by
  induction cs generalizing next with
  | nil => rfl
  | cons c rest ih =>
      simp only [List.map_cons, Extraction.constantsFrom]
      rw [ih]
      rfl

theorem enumerationRead {head : CursorHead} {e : Enumeration} (name : head.name = e.name)
    (type : head.typeSpelling = e.typeSpelling) (underlying : head.underlyingType = e.underlyingType) :
    Extraction.enumeration (.node head (e.constants.map EnumConstant.cursor)) = e := by
  have kinds : (e.constants.map EnumConstant.cursor).filter (·.head.kind = .enumConstantDecl) =
      e.constants.map EnumConstant.cursor := kindMap _ fun _ => rfl
  unfold Extraction.enumeration
  rw [userChildrenMap e.constants fun _ => rfl, kinds, constantsRead]
  simp [Cursor.head, name, type, underlying]

theorem memberRead {d : Declaration} (shaped : MemberShaped d) (record : String) :
    Extraction.member record d.cursor = .declared d := by
  cases shaped with
  | field name access type => rfl
  | method name access s =>
      have read : Extraction.signature (Declaration.method name access s).cursor = s :=
        signatureRead rfl rfl
      exact congrArg (fun s => Extraction.Member.declared (.method name access s)) read
  | truncated key name typeSpelling => cases key <;> rfl

theorem membersRead {head : CursorHead} {bases : List Base} {ds : List Declaration}
    (shaped : ∀ d ∈ ds, MemberShaped d) :
    Extraction.members (.node head (bases.map Base.cursor ++ ds.map Declaration.cursor)) =
      bases.map Extraction.Member.base ++ ds.map Extraction.Member.declared := by
  have user : ∀ child ∈ bases.map Base.cursor ++ ds.map Declaration.cursor,
      child.head.inSystemHeader = false := by
    intro child listed
    rcases List.mem_append.mp listed with inBases | inMembers
    · obtain ⟨b, _, rfl⟩ := List.mem_map.mp inBases
      rfl
    · obtain ⟨d, _, rfl⟩ := List.mem_map.mp inMembers
      exact d.cursorUser
  unfold Extraction.members
  rw [userChildrenAll user, List.map_append, List.map_map, List.map_map]
  congr 1
  exact List.map_congr_left fun d held => memberRead (shaped d held) head.name

theorem recordRead (head : CursorHead) (key : ClassKey) (bases : List Base) {ds : List Declaration}
    (shaped : ∀ d ∈ ds, MemberShaped d) :
    Extraction.record key (.node head (bases.map Base.cursor ++ ds.map Declaration.cursor)) =
      .record key ⟨head.name, head.typeSpelling, bases, false⟩ ds := by
  have basesRead : (bases.map Extraction.Member.base ++ ds.map Extraction.Member.declared).filterMap
      Extraction.Member.base? = bases := by
    have none : (ds.map Extraction.Member.declared).filterMap Extraction.Member.base? = [] := by
      simp [List.filterMap_eq_nil_iff, Extraction.Member.base?]
    simp [List.filterMap_append, none, Function.comp_def, Extraction.Member.base?]
  have declared : (bases.map Extraction.Member.base ++ ds.map Extraction.Member.declared).filterMap
      Extraction.Member.declared? = ds := by
    have none : (bases.map Extraction.Member.base).filterMap Extraction.Member.declared? = [] := by
      simp [List.filterMap_eq_nil_iff, Extraction.Member.declared?]
    simp [List.filterMap_append, none, Function.comp_def, Extraction.Member.declared?]
  unfold Extraction.record
  rw [membersRead shaped, basesRead, declared]
  rfl

theorem declarationsRead {ds : List Declaration} (each : ∀ d ∈ ds, d.cursor.declaration? = some d) :
    Cursor.declarations (ds.map Declaration.cursor) = ds := by
  induction ds with
  | nil => rfl
  | cons d rest ih =>
      have first := each d List.mem_cons_self
      have later := ih fun e held => each e (List.mem_cons_of_mem d held)
      simp [Cursor.declarations, first, later]

theorem declarationRead {d : Declaration} (shaped : ScopeShaped d) : d.cursor.declaration? = some d := by
  induction shaped with
  | @ns name children inner ih =>
      have read := declarationsRead ih
      rw [← Declaration.cursorsMap] at read
      exact congrArg (fun ds => some (Declaration.ns name ds)) read
  | @record key head members whole inner =>
      obtain ⟨name, type, bases, truncated⟩ := head
      cases whole
      have read (outer : CursorHead) := recordRead outer key bases inner
      simp only [← Declaration.cursorsMap] at read
      cases key <;> exact congrArg some (read _)
  | enum e =>
      have read : Extraction.enumeration (Declaration.enum e).cursor = e := enumerationRead rfl rfl rfl
      exact congrArg (fun e => some (Declaration.enum e)) read
  | func name s =>
      have read : Extraction.signature (Declaration.func name s).cursor = s := signatureRead rfl rfl
      exact congrArg (fun s => some (Declaration.func name s)) read
  | var name type => rfl

theorem silentAll {cs : List Cursor}
    (each : ∀ c ∈ cs, ∀ outer number enclosing,
      (c.sites outer number enclosing).filterMap Site.diagnostic? = [])
    (outer : Position) (number : Nat) (enclosing : List String) :
    (Cursor.sitesAll outer number enclosing cs).filterMap Site.diagnostic? = [] := by
  induction cs generalizing number with
  | nil => rfl
  | cons c rest ih =>
      have later := ih fun e held => each e (List.mem_cons_of_mem c held)
      rw [Cursor.sitesAll, List.filterMap_append, each c List.mem_cons_self, later, List.nil_append]

theorem shapedSilent {d : Declaration} (shaped : ScopeShaped d) : ∀ outer number enclosing,
    (d.cursor.sites outer number enclosing).filterMap Site.diagnostic? = [] := by
  induction shaped with
  | @ns name children inner ih =>
      intro outer number enclosing
      have below := silentAll (List.forall_mem_map.mpr ih) (outer ++ [number]) 0 (enclosing ++ [name])
      rw [← Declaration.cursorsMap] at below
      exact below
  | @record key head members whole inner => cases key <;> exact fun _ _ _ => rfl
  | enum | func | var => exact fun _ _ _ => rfl

theorem diagnosticsRead (outer : Position) (number : Nat) (enclosing : List String)
    (diagnostics : List Diagnostic) (cs : List Cursor) :
    Cursor.declarations (diagnostics.map Diagnostic.cursor ++ cs) = Cursor.declarations cs ∧
    (Cursor.sitesAll outer number enclosing (diagnostics.map Diagnostic.cursor ++ cs)).filterMap
        Site.diagnostic? =
      diagnostics ++ (Cursor.sitesAll outer number enclosing cs).filterMap Site.diagnostic? := by
  induction diagnostics with
  | nil => exact ⟨rfl, rfl⟩
  | cons d rest ih => exact ⟨ih.1, congrArg (d :: ·) ih.2⟩

theorem extractionRead {outline : Outline} (shaped : outline.Shaped) (context : Context) :
    (extract outline.cursor context).outline = outline := by
  have declared := declarationsRead fun d held => declarationRead (shaped d held)
  have silent := silentAll (List.forall_mem_map.mpr fun d held => shapedSilent (shaped d held)) [] 0 []
  have read := diagnosticsRead [] 0 [] outline.diagnostics (outline.declarations.map Declaration.cursor)
  rw [declared, silent, List.append_nil] at read
  rw [extractRun]
  show Outline.mk outline.name (Cursor.declarations (_ ++ _))
    (List.filterMap _ (Cursor.sitesAll _ _ _ (_ ++ _))) = _
  rw [read.1, read.2]

theorem extractionShaped (root : Cursor) (context : Context) : (extract root context).outline.Shaped := by
  rw [extractRun]
  exact declarationsShaped root.children

theorem extractionImage (outline : Outline) :
    ((∃ root context, (extract root context).outline = outline) ↔ outline.Shaped) ∧
    ((∃ root, ∀ context, (extract root context).outline = outline) ↔ outline.Shaped) := by
  refine ⟨⟨?_, ?_⟩, ⟨?_, ?_⟩⟩
  · rintro ⟨root, context, rfl⟩
    exact extractionShaped root context
  · exact fun shaped => ⟨outline.cursor, .plain, extractionRead shaped .plain⟩
  · rintro ⟨root, same⟩
    exact same .plain ▸ extractionShaped root .plain
  · exact fun shaped => ⟨outline.cursor, extractionRead shaped⟩

end HeaderOutline
