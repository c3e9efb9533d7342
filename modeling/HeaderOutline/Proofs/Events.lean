import HeaderOutline.Proofs.Traversal

/-! What an extraction logs is what it gives. Its warnings are the diagnostics, each at the depth of the
cursor that it is about; its traces are what the records of the scopes left out; and its last word counts
what was found. -/
namespace HeaderOutline

def CursorKind.inRecords : List CursorKind :=
  [baseSpecifier, method, fieldDecl, varDecl, classDecl, structDecl]

def Cursor.leftOut (record : Cursor) : List Cursor :=
  record.userChildren.filter fun child => child.head.kind ∉ CursorKind.inRecords

namespace Site

def isRecord (site : Site) : Bool := site.head.kind = .classDecl ∨ site.head.kind = .structDecl

def warning (depth : Nat) (site : Site) : Extraction.Event :=
  .unrecognized site.head.kind.spelling site.head.name (depth + site.enclosing.length)

def traces (site : Site) : List Extraction.Event :=
  site.cursor.leftOut.map fun child => .memberSkipped child.head.kind.spelling child.head.name site.head.name

end Site

namespace Extraction

def Event.diagnostic? : Event → Option Diagnostic
  | unrecognized kind name _ => some ⟨kind, name⟩
  | _ => none

theorem memberEvent (record : String) (c : Cursor) : (member record c).event? =
    if c.head.kind ∉ CursorKind.inRecords then
      some (.memberSkipped c.head.kind.spelling c.head.name record)
    else none := by
  cases kind : c.head.kind <;> simp [member, kind, Member.event?, CursorKind.inRecords]

theorem skippedLeftOut (site : Site) : skippedMembers site.cursor = site.traces := by
  unfold skippedMembers members Site.traces Cursor.leftOut
  rw [List.filterMap_map, ← List.filterMap_eq_map, List.filterMap_filter]
  refine congrArg (List.filterMap · _) (funext fun child => ?_)
  simp only [Function.comp_apply, memberEvent, decide_eq_true_eq]
  rfl

@[simp] theorem warningLevel (depth : Nat) (site : Site) : (site.warning depth).level = .warn := rfl

theorem tracesLevel (site : Site) : ∀ event ∈ site.traces, event.level = .trace := by
  intro event listed
  obtain ⟨child, -, rfl⟩ := List.mem_map.mp listed
  rfl

theorem siteEvents (depth : Nat) (site : Site) : site.events depth =
    (if site.isRecord then site.traces else []) ++
      if !site.head.kind.declares then [site.warning depth] else [] := by
  cases kind : site.head.kind <;>
    simp [Site.events, Site.warning, Site.isRecord, kind, CursorKind.declares, skippedLeftOut]

theorem siteWarnings (depth : Nat) (site : Site) : (site.events depth).filter (·.level = .warn) =
    if !site.head.kind.declares then [site.warning depth] else [] := by
  have quiet : site.traces.filter (·.level = .warn) = [] :=
    List.filter_eq_nil_iff.mpr fun event listed => by simp [tracesLevel site event listed]
  rw [siteEvents, List.filter_append]
  split <;> split <;> simp [quiet]

theorem siteTraces (depth : Nat) (site : Site) : (site.events depth).filter (·.level = .trace) =
    if site.isRecord then site.traces else [] := by
  have all : site.traces.filter (·.level = .trace) = site.traces :=
    List.filter_eq_self.mpr fun event listed => by simp [tracesLevel site event listed]
  rw [siteEvents, List.filter_append]
  split <;> split <;> simp [all]

theorem filterSites {depth : Nat} {level : Level} {speaks : Site → Bool} {said : Site → List Event}
    (each : ∀ site, (site.events depth).filter (·.level = level) = if speaks site then said site else [])
    (sites : List Site) :
    (sites.flatMap (Site.events depth)).filter (·.level = level) = (sites.filter speaks).flatMap said := by
  induction sites with
  | nil => rfl
  | cons site rest ih =>
      rw [List.flatMap_cons, List.filter_append, each, ih, List.filter_cons]
      split <;> simp

theorem warnedDiagnostics (depth : Nat) (sites : List Site) :
    ((sites.filter fun site => !site.head.kind.declares).map (Site.warning depth)).map Event.diagnostic? =
      (sites.filterMap Site.diagnostic?).map some := by
  induction sites with
  | nil => rfl
  | cons site rest ih =>
      cases declares : site.head.kind.declares with
      | true => simpa [Site.diagnostic?, declares] using ih
      | false => simpa [Site.diagnostic?, declares, Site.warning, Event.diagnostic?] using ih

end Extraction

theorem eventsAgree (root : Cursor) (context : Context) :
    let run := extract root context
    let unmodelled := root.scopeSites.filter fun site => !site.head.kind.declares
    let records := root.scopeSites.filter Site.isRecord
    let warnings := run.events.filter (·.level = .warn)
    warnings.map Extraction.Event.diagnostic? = run.outline.diagnostics.map some ∧
    warnings = unmodelled.map (Site.warning context.depth) ∧
    run.events.filter (·.level = .trace) = records.flatMap Site.traces ∧
    run.events.getLast? =
      some (.finished run.outline.declarations.length run.outline.diagnostics.length) := by
  intro run unmodelled records warnings
  have events : run.events = root.scopeSites.flatMap (Site.events context.depth) ++
      [.finished run.outline.declarations.length run.outline.diagnostics.length] := by
    simp only [run, extractRun]
  -- The summary is of a level of its own.
  have last (level : Level) (other : level ≠ .debug) : run.events.filter (·.level = level) =
      (root.scopeSites.flatMap (Site.events context.depth)).filter (·.level = level) := by
    rw [events, List.filter_append]
    simp [Extraction.Event.level, other.symm]
  have warned : warnings = unmodelled.map (Site.warning context.depth) := by
    show run.events.filter (·.level = .warn) = _
    rw [last .warn (by decide), Extraction.filterSites (Extraction.siteWarnings context.depth)]
    exact List.map_eq_flatMap.symm
  refine ⟨?_, warned, ?_, by simp [events]⟩
  · rw [warned, Extraction.warnedDiagnostics]
    simp only [run, extractRun]
  · rw [last .trace (by decide), Extraction.filterSites (Extraction.siteTraces context.depth)]

end HeaderOutline
