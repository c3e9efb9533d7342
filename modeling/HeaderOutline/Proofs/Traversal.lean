import HeaderOutline.Proofs.Sites

/-! What an extraction does, told by the cursors in scope position: the outline does not depend on the
context, the context comes back as it was but for the index, and the index has taken the entries of the
cursors in order. -/
namespace HeaderOutline

namespace Context

def logging (context : Context) (entries : List IndexEntry) : Context :=
  { context with index := context.index.map (·.addAll entries) }

def within (context : Context) (enclosing : List String) : Context :=
  { context with
    depth := context.depth + enclosing.length
    scope := context.scope ++ enclosing.map segment }

@[simp] theorem loggingDepth (context : Context) (entries : List IndexEntry) :
    (context.logging entries).depth = context.depth := rfl

@[simp] theorem loggingScope (context : Context) (entries : List IndexEntry) :
    (context.logging entries).scope = context.scope := rfl

theorem loggingNil (context : Context) : context.logging [] = context := by
  obtain ⟨depth, scope, index⟩ := context
  cases index <;> rfl

theorem loggingAppend (context : Context) (xs ys : List IndexEntry) :
    (context.logging xs).logging ys = context.logging (xs ++ ys) := by
  obtain ⟨depth, scope, index⟩ := context
  cases index <;> simp [logging, SymbolIndex.addAllAppend]

theorem withinNil (context : Context) : context.within [] = context := by
  simp [within]

theorem enterWithin (context : Context) (enclosing : List String) (name : String) :
    (context.within enclosing).enterNamespace name = context.within (enclosing ++ [name]) := by
  simp [within, enterNamespace, indent, Nat.add_assoc]

theorem exitWithin (context : Context) (enclosing : List String) (name : String) :
    (context.within (enclosing ++ [name])).exitNamespace = context.within enclosing := by
  rw [← enterWithin, exitEnter]

theorem qualifyWithin (context : Context) (enclosing : List String) (name : String) :
    (context.within enclosing).qualify name = qualifiedName context.scope enclosing name := by
  simp [qualify, within, qualifiedName]

end Context

namespace Extraction

def yielded (depth : Nat) (declarations : List Declaration) (sites : List Site) : Yield :=
  ⟨declarations, sites.filterMap Site.diagnostic?, sites.flatMap (Site.events depth)⟩

theorem yieldedAppend (depth : Nat) (ds es : List Declaration) (xs ys : List Site) :
    yielded depth ds xs ++ yielded depth es ys = yielded depth (ds ++ es) (xs ++ ys) := by
  show Yield.append _ _ = _
  simp [yielded, Yield.append]

theorem enterRun (context : Context) (site : Site) {d : Declaration}
    (declared : site.cursor.declaration? = some d) :
    enter (context.within site.enclosing) site.head.isDefinition site.position d =
      (context.logging (site.entry? context.scope).toList).within site.enclosing := by
  obtain ⟨position, enclosing, head, children⟩ := site
  have qualified := context.qualifyWithin enclosing head.name
  obtain ⟨depth, scope, index⟩ := context
  cases index with
  | none => rfl
  | some index =>
      have user : head.inSystemHeader = false := by
        cases system : head.inSystemHeader with
        | false => rfl
        | true => simp [Cursor.declaration?, system] at declared
      simp only [Cursor.declaration?, user, Bool.false_eq_true, if_false] at declared
      cases kind : head.kind with
      | ns =>
          simp only [kind, Option.some.injEq] at declared
          subst declared
          simp only [enter, qualified, Site.entry?, Site.slot?, Site.key, Site.head, Cursor.head, kind]
          rfl
      | classDecl | structDecl | enumDecl =>
          simp only [kind, Option.some.injEq] at declared
          subst declared
          cases definition : head.isDefinition with
          | false =>
              simp only [enter, record, Site.entry?, Site.slot?, Site.head, Cursor.head, kind, definition,
                Bool.false_eq_true, if_false]
              rfl
          | true =>
              simp only [enter, record, enumeration, Site.entry?, Site.slot?, Site.key, Site.head, Cursor.head,
                kind, definition]
              rfl
      | varDecl | functionDecl =>
          simp only [kind, Option.some.injEq] at declared
          subst declared
          simp only [enter, Site.entry?, Site.slot?, Site.head, Cursor.head, kind]
          rfl
      | _ => simp [kind] at declared

mutual
theorem cursorRun (context : Context) (outer : Position) (number : Nat) (enclosing : List String) :
    (c : Cursor) → cursor outer number (context.within enclosing) c =
      (yielded context.depth c.declaration?.toList (c.sites outer number enclosing),
       (context.logging (c.entries context.scope outer number enclosing)).within enclosing)
  | .node head children => by
      cases system : head.inSystemHeader with
      | true => simp [cursor, Cursor.declaration?, Cursor.sites, Cursor.entries, system,
          Context.loggingNil, yielded, Yield.nothing]
      | false =>
          let here : Site := ⟨outer ++ [number], enclosing, .node head children⟩
          have entered (context : Context) (d : Declaration)
              (declared : (Cursor.node head children).declaration? = some d) :
              enter (context.within enclosing) head.isDefinition (outer ++ [number]) d =
                (context.logging (here.entry? context.scope).toList).within enclosing :=
            enterRun context here declared
          simp only [cursor, Cursor.sites, Cursor.entries, system, Bool.false_eq_true, if_false]
          cases kind : head.kind with
          | ns =>
              have inner := scopeRun context (outer ++ [number]) 0 (enclosing ++ [head.name]) children
              have declared : (Cursor.node head children).declaration? =
                  some (.ns head.name (Cursor.declarations children)) := by
                simp [Cursor.declaration?, system, kind]
              -- The namespace is entered after its contents, whose entries are in the index by then.
              have outerEntered := entered
                (context.logging (Cursor.entriesAll context.scope (outer ++ [number]) 0
                  (enclosing ++ [head.name]) children)) _ declared
              simp only [Context.enterWithin, inner, Context.exitWithin, yielded, declared, if_true]
              rw [outerEntered, Context.loggingAppend]
              simp [Site.diagnostic?, Site.events, Site.head, Cursor.head, CursorKind.declares, kind, here]
          | classDecl | structDecl | enumDecl | varDecl | functionDecl =>
              simp [Cursor.declaration?, entered, yielded, Yield.one, Site.diagnostic?, Site.events, Site.head,
                Cursor.head, CursorKind.declares, system, kind, here]
          | _ =>
              simp [Cursor.declaration?, yielded, Site.diagnostic?, Site.events, Site.entry?, Site.slot?,
                Site.head, Cursor.head, CursorKind.declares, system, kind, Context.loggingNil, Context.within]

theorem scopeRun (context : Context) (outer : Position) (number : Nat) (enclosing : List String) :
    (cs : List Cursor) → scope outer number (context.within enclosing) cs =
      (yielded context.depth (Cursor.declarations cs) (Cursor.sitesAll outer number enclosing cs),
       (context.logging (Cursor.entriesAll context.scope outer number enclosing cs)).within enclosing)
  | [] => by
      simp only [scope, Cursor.declarations, Cursor.sitesAll, Cursor.entriesAll, Context.loggingNil]
      rfl
  | first :: rest => by
      have head := cursorRun context outer number enclosing first
      have width : (yielded context.depth first.declaration?.toList
          (first.sites outer number enclosing)).declarations.length = first.declares.toNat :=
        first.declarationCount
      have tail := scopeRun (context.logging (first.entries context.scope outer number enclosing))
        outer (number + first.declares.toNat) enclosing rest
      simp only [scope, head, width, tail, Cursor.declarations, Cursor.sitesAll, Cursor.entriesAll,
        Context.loggingDepth, Context.loggingScope, Context.loggingAppend, yieldedAppend]
end

theorem scopeRunHere (context : Context) (outer : Position) (number : Nat) (cs : List Cursor) :
    scope outer number context cs =
      (yielded context.depth (Cursor.declarations cs) (Cursor.sitesAll outer number [] cs),
       context.logging (Cursor.entriesAll context.scope outer number [] cs)) := by
  have run := scopeRun context outer number [] cs
  rwa [Context.withinNil, Context.withinNil] at run

end Extraction

def Cursor.indexEntries (scope : List String) (root : Cursor) : List IndexEntry :=
  Cursor.entriesAll scope [] 0 [] root.children

theorem extractRun (root : Cursor) (context : Context) : extract root context =
    { outline := ⟨root.head.name, Cursor.declarations root.children,
        root.scopeSites.filterMap Site.diagnostic?⟩
      events := root.scopeSites.flatMap (Site.events context.depth) ++
        [.finished (Cursor.declarations root.children).length
          (root.scopeSites.filterMap Site.diagnostic?).length]
      context := context.logging (root.indexEntries context.scope) } := by
  simp only [extract, Extraction.scopeRunHere, Extraction.yielded, Cursor.scopeSites, Cursor.indexEntries]

end HeaderOutline
