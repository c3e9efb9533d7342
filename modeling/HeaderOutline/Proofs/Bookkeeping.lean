import HeaderOutline.Proofs.Traversal

/-! What an extraction carries along is bookkeeping. Nothing that it finds depends on it, and it comes back
with the depth and the scopes that it went in with, whatever stood on the way; only an index that was there
from the beginning has taken entries. -/
namespace HeaderOutline

structure Context.Resumes (before after : Context) : Prop where
  depth : after.depth = before.depth
  scope : after.scope = before.scope
  indexed : after.index.isSome = before.index.isSome

theorem Context.Resumes.plain {before after : Context} (resumes : before.Resumes after)
    (plain : before.index = none) : after = before := by
  have absent : after.index = none := by simpa [plain] using resumes.indexed
  calc
    after = ⟨after.depth, after.scope, after.index⟩ := rfl
    _ = ⟨before.depth, before.scope, before.index⟩ := by rw [resumes.depth, resumes.scope, absent, plain]
    _ = before := rfl

theorem Context.loggingResumes (context : Context) (entries : List IndexEntry) :
    context.Resumes (context.logging entries) :=
  ⟨rfl, rfl, Option.isSome_map⟩

namespace Extraction

theorem scopeResumes (outer : Position) (number : Nat) (context : Context) (cs : List Cursor) :
    context.Resumes (scope outer number context cs).2 := by
  rw [scopeRunHere]
  exact context.loggingResumes _

theorem scopeFinds (outer : Position) (number : Nat) (context other : Context) (cs : List Cursor) :
    (scope outer number context cs).1.declarations = (scope outer number other cs).1.declarations ∧
    (scope outer number context cs).1.diagnostics = (scope outer number other cs).1.diagnostics := by
  rw [scopeRunHere, scopeRunHere]
  exact ⟨rfl, rfl⟩

end Extraction

theorem contextRestored (root : Cursor) (context other : Context) :
    (extract root context).outline = (extract root other).outline ∧
    context.Resumes (extract root context).context ∧
    ∀ depth scope, (extract root ⟨depth, scope, none⟩).context = ⟨depth, scope, none⟩ := by
  refine ⟨?_, Extraction.scopeResumes [] 0 context root.children, fun depth scope => ?_⟩
  · obtain ⟨declarations, diagnostics⟩ := Extraction.scopeFinds [] 0 context other root.children
    simp only [extract, declarations, diagnostics]
  · exact (Extraction.scopeResumes [] 0 ⟨depth, scope, none⟩ root.children).plain rfl

end HeaderOutline
