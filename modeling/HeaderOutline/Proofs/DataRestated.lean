import HeaderOutline.Proofs.SettingsData

/-! Outlines and settings survive being written as data. Data that is read and written again settles at
once, and is what it was but for fields that are not known, fields left out and words spelled otherwise. -/
namespace HeaderOutline

def namespaceData (tag : Json) (name : String) (children : List Json) : Json :=
  .obj [("kind", tag), ("name", .str name), ("children", .arr children)]

theorem namespaceWritten {tag : Json} {name : String} {children : List Json}
    (named : DeclarationKind.ofTag? true tag = some .ns) (inside : ∀ v ∈ children, Written .declaration v) :
    Written .declaration (namespaceData tag name children) := by
  refine .declaration (by simp) fun kind other listed kindNamed => ?_
  obtain rfl : other = tag := by simpa using listed
  obtain rfl := Option.some.inj (named.symm.trans kindNamed)
  refine .record (by simp) fun label form default v known given => ?_
  simp only [DeclarationKind.content, List.mem_cons, Prod.mk.injEq, List.not_mem_nil, or_false] at known
  obtain ⟨rfl, rfl, -⟩ | ⟨rfl, rfl, -⟩ | ⟨rfl, rfl, -⟩ := known
  · exact .word _ v
  · exact .text v
  · obtain rfl : v = .arr children := by simpa using given
    exact .list inside

theorem namespaceReads {within : Bool} {tag : Json} {name : String} {children : List Json}
    {inside : List Declaration} (named : DeclarationKind.ofTag? within tag = some .ns)
    (reads : children.mapM (Declaration.ofJson? true) = some inside) :
    Declaration.ofJson? within (namespaceData tag name children) = some (.ns name inside) := by
  simp [namespaceData, Declaration.ofJsonEq, Json.tagged?, named, Declaration.ofContent?, Fields.fit?,
    lookupCons, Json.str?, Json.list?, reads]

theorem namespaceVerbatim {tag : Json} {name : String} {olds news : List Json}
    (restated : Restates Verbatim .declaration (namespaceData tag name olds)
      (namespaceData (.str "namespace") name news)) :
    tag = .str "namespace" ∧ ∀ v w, (v, w) ∈ olds.zip news → Restates Verbatim .declaration v w := by
  cases restated with
  | @declaration kind _ _ given =>
    have tagged := restatedField given List.mem_cons_self List.mem_cons_self List.mem_cons_self
    cases tagged with
    | word known spelled =>
      have named : DeclarationKind.ns.spelling = kind.spelling := List.mem_singleton.mp known
      have same := congrArg DeclarationKind.ofSpelling? named
      simp only [DeclarationKind.ofSpellingSpelling, Option.some.injEq] at same
      subst same
      have inside : Restates Verbatim (.list .declaration) (.arr olds) (.arr news) :=
        restatedField given (.tail _ (.tail _ List.mem_cons_self)) (.tail _ (.tail _ List.mem_cons_self))
          (.tail _ (.tail _ List.mem_cons_self))
      cases inside with
      | list _ each => exact ⟨spelled.resolve_right id, each⟩

def numbered : Json :=
  .obj [("name", .str "u"), ("made", .null),
    ("declarations", .arr [namespaceData (.str "namespace") "n" [namespaceData (.int 0) "m" []]])]

def numberedOutline : Outline := ⟨"u", [.ns "n" [.ns "m" []]], []⟩

theorem numberedWritten : Written Form.outline numbered := by
  have inner : Written .declaration (namespaceData (.int 0) "m" []) := namespaceWritten rfl (by simp)
  have outer : Written .declaration
      (namespaceData (.str "namespace") "n" [namespaceData (.int 0) "m" []]) :=
    namespaceWritten (DeclarationKind.ofSpellingSpelling .ns) (by simpa using inner)
  refine .record (by simp) fun label form default v known given => ?_
  simp only [List.mem_cons, Prod.mk.injEq, List.not_mem_nil, or_false] at known
  obtain ⟨rfl, rfl, -⟩ | ⟨rfl, rfl, -⟩ | ⟨rfl, rfl, -⟩ := known
  · exact .text v
  · obtain rfl : v = .arr _ := by simpa using given
    exact .list (by simpa using outer)
  · simp at given

theorem numberedReads : Outline.ofJson? numbered = some numberedOutline := by
  have inner : Declaration.ofJson? true (namespaceData (.int 0) "m" []) = some (.ns "m" []) :=
    namespaceReads rfl rfl
  have outer : Declaration.ofJson? false
      (namespaceData (.str "namespace") "n" [namespaceData (.int 0) "m" []]) =
        some (.ns "n" [.ns "m" []]) :=
    namespaceReads (DeclarationKind.ofSpellingSpelling .ns) (by simp [inner])
  simp [numbered, numberedOutline, Outline.ofJsonEq, Json.fields?, lookupCons, Json.str?, Json.list?,
    Fields.withDefault, Fields.get?, outer]

theorem dataRestated :
    (∀ outline : Outline, Outline.ofJson? outline.json = some outline) ∧
    (∀ settings : Settings, Settings.ofJson? settings.json = some settings) ∧
    (∀ v outline, Written Form.outline v → Outline.ofJson? v = some outline →
      (Outline.ofJson? outline.json).map Outline.json = some outline.json ∧
        Restates Respelled Form.outline v outline.json) ∧
    (∀ v settings, Written Form.settings v → Settings.ofJson? v = some settings →
      (Settings.ofJson? settings.json).map Settings.json = some settings.json ∧
        Restates Verbatim Form.settings v settings.json) := by
  refine ⟨Outline.reads, Settings.reads, fun v outline written reads => ⟨?_, ?_⟩,
    fun v settings written reads => ⟨?_, ?_⟩⟩
  · rw [outline.reads, Option.map_some]
  · exact outline.faithful v written reads
  · rw [settings.reads, Option.map_some]
  · exact settings.faithful v written reads

theorem numberedRestated :
    Written Form.outline numbered ∧ Outline.ofJson? numbered = some numberedOutline ∧
      Restates Respelled Form.outline numbered numberedOutline.json ∧
      Written Form.settings (.obj []) ∧ Settings.ofJson? (.obj []) = some .default ∧
      Restates Verbatim Form.settings (.obj []) Settings.default.json := by
  have nothingWritten : Written Form.settings (.obj []) := .record (by simp) (by simp)
  have nothingRead : Settings.ofJson? (.obj []) = some .default := rfl
  exact ⟨numberedWritten, numberedReads,
    (dataRestated.2.2.1 numbered numberedOutline numberedWritten numberedReads).2,
    nothingWritten, nothingRead,
    (dataRestated.2.2.2 (.obj []) .default nothingWritten nothingRead).2⟩

theorem numberedNotVerbatim :
    Written Form.outline numbered ∧ Outline.ofJson? numbered = some numberedOutline ∧
      ¬ Restates Verbatim Form.outline numbered numberedOutline.json := by
  refine ⟨numberedWritten, numberedReads, fun restated => ?_⟩
  have declarations := restatedField restated (.tail _ List.mem_cons_self)
    (.tail _ (.tail _ List.mem_cons_self)) (.tail _ List.mem_cons_self)
  cases declarations with
  | list _ each =>
    obtain ⟨-, children⟩ := namespaceVerbatim (each _ _ List.mem_cons_self)
    obtain ⟨numbered, -⟩ := namespaceVerbatim (children _ _ List.mem_cons_self)
    cases numbered

end HeaderOutline
