import Mathlib.Data.List.Forall2
import PageObject.Page.Walk
import PageObject.Proofs.Element.Reading

namespace PageObject

def SameUpTo (path other text text' : String) : Prop := text = text' ∨ (text = path ∧ text' = other)

/-- Two faults have the same code and the same arguments, but for a path among them. -/
structure Fault.SameUpTo (path other : String) (fault fault' : Fault) : Prop where
  code : fault.code = fault'.code
  args : List.Forall₂ (PageObject.SameUpTo path other) fault.args fault'.args

structure Diagnostic.SameUpTo (path other : String) (diagnostic diagnostic' : Diagnostic) : Prop where
  element : PageObject.SameUpTo path other diagnostic.element diagnostic'.element
  fault : diagnostic.fault.SameUpTo path other diagnostic'.fault

inductive Outcome.SameUpTo (path other : String) : Outcome → Outcome → Prop where
  | built (accessor : Accessor) : SameUpTo path other (.built accessor) (.built accessor)
  | skipped {diagnostic diagnostic' : Diagnostic} (same : diagnostic.SameUpTo path other diagnostic') :
    SameUpTo path other (.skipped diagnostic) (.skipped diagnostic')

variable {path other : String}

theorem SameUpTo.refl (text : String) : SameUpTo path other text text := .inl rfl

theorem SameUpTo.paths : SameUpTo path other path other := .inr ⟨rfl, rfl⟩

theorem Fault.SameUpTo.refl (fault : Fault) : fault.SameUpTo path other fault :=
  ⟨rfl, List.forall₂_same.mpr fun text _ => PageObject.SameUpTo.refl text⟩

theorem Outcome.SameUpTo.refl (outcome : Outcome) : outcome.SameUpTo path other outcome := by
  cases outcome with
  | built accessor => exact .built accessor
  | skipped diagnostic => exact .skipped ⟨.refl _, .refl _⟩

namespace Element

variable {node : Json} {registry : Registry} {fault : Fault}

theorem readName_eq_error_at {fields : Json.Fields} (h : readName fields path = .error fault)
    (other : String) :
    ∃ fault', readName fields other = .error fault' ∧ fault.SameUpTo path other fault' := by
  unfold readName Property.string Property.string? at h ⊢
  split at h
  · cases h
    exact ⟨_, rfl, rfl, .cons .paths (.cons (.refl _) .nil)⟩
  · rename_i text present
    simp only [Bind.bind, Except.bind] at h ⊢
    by_cases empty : text = ""
    · rw [if_pos empty] at h
      cases h
      simp only [if_pos empty]
      exact ⟨_, rfl, rfl, .cons .paths (.cons (.refl _) .nil)⟩
    · simp only [if_neg empty] at h ⊢
      by_cases identifier : Text.isIdentifier text
      · rw [if_pos identifier] at h
        cases h
      · rw [if_neg identifier] at h
        cases h
        simp only [if_neg identifier]
        exact ⟨_, rfl, rfl, .cons .paths (.cons (.refl _) .nil)⟩
  · cases h
    exact ⟨_, rfl, rfl, .cons .paths (.cons (.refl _) (.cons (.refl _) .nil))⟩

theorem read_eq_error_at (h : read node path registry = .error fault) (other : String) :
    ∃ fault', read node other registry = .error fault' ∧ fault.SameUpTo path other fault' := by
  cases node with
  | object fields =>
    cases named : readName fields path with
    | error first =>
      rcases readName_eq_error_at named other with ⟨fault', elsewhere, same⟩
      simp only [read, Property.fields, named, elsewhere, Bind.bind, Except.bind] at h ⊢
      cases h
      exact ⟨fault', rfl, same⟩
    | ok name =>
      have elsewhere : readName fields other = .ok name :=
        readName_eq_ok_iff.mpr (readName_eq_ok_iff.mp named)
      refine ⟨fault, ?_, .refl fault⟩
      simp only [read, Property.fields, named, elsewhere, Bind.bind, Except.bind] at h ⊢
      exact h
  | _ =>
    cases h
    exact ⟨_, rfl, rfl, .cons (.refl _) (.cons .paths (.cons (.refl _) .nil))⟩

theorem label_at (node : Json) (path other : String) :
    SameUpTo path other (label node path) (label node other) := by
  unfold label
  cases (node.field? "name").bind Json.string? with
  | none => exact .paths
  | some name => exact .refl name

end Element

end PageObject
