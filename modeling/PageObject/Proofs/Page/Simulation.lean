import Mathlib.Data.List.Forall2
import PageObject.Proofs.Alike
import PageObject.Proofs.Page.Preorder

namespace PageObject

inductive Outcome.Alike (Same : Accessor → Accessor → Prop) : Outcome → Outcome → Prop where
  | built {accessor accessor' : Accessor} (same : Same accessor accessor') :
    Outcome.Alike Same (.built accessor) (.built accessor')
  | skipped (diagnostic : Diagnostic) : Outcome.Alike Same (.skipped diagnostic) (.skipped diagnostic)

theorem Outcome.Alike.eq {outcome outcome' : Outcome} (h : outcome.Alike Eq outcome') :
    outcome' = outcome := by
  cases h with
  | built same => rw [same]
  | skipped diagnostic => rfl

structure Step.Alike (Same : Accessor → Accessor → Prop) (SameVisit : Visit → Visit → Prop)
    (step step' : Step) : Prop where
  outcome : step.outcome.Alike Same step'.outcome
  reserved : step'.reserved = step.reserved
  inner : List.Forall₂ SameVisit step.inner step'.inner

section Steps

variable {Same : Accessor → Accessor → Prop} {SameVisit : Visit → Visit → Prop}
  {registry registry' : Registry}

theorem Visit.alike_run {visit visit' : Visit} {SameElement : Element → Element → Prop}
    (label : visit'.label = visit.label)
    (read : Alike SameElement (Element.read visit.node visit.path.text registry)
      (Element.read visit'.node visit'.path.text registry'))
    (name : ∀ element element', SameElement element element' →
      element'.name = element.name ∧ element'.isPublic = element.isPublic)
    (build : ∀ element element', SameElement element element' →
      Alike Same ((element.plan visit.scope registry).build registry).outcome
        ((element'.plan visit'.scope registry').build registry').outcome)
    (inner : ∀ element element' accessor accessor', SameElement element element' →
      Same accessor accessor' → List.Forall₂ SameVisit (innerVisits element accessor visit.path)
        (innerVisits element' accessor' visit'.path))
    (taken : List String) :
    (visit.run taken registry).value.Alike Same SameVisit (visit'.run taken registry').value := by
  have label : Element.label visit'.node visit'.path.text = Element.label visit.node visit.path.text :=
    label
  unfold run
  rw [label]
  generalize Element.read visit.node visit.path.text registry = found at read ⊢
  generalize Element.read visit'.node visit'.path.text registry' = found' at read ⊢
  cases read with
  | error fault => exact ⟨.skipped _, rfl, .nil⟩
  | @ok element element' same =>
    rcases name element element' same with ⟨sameName, samePublic⟩
    have accessorName : element'.accessorName = element.accessorName := by
      rw [Element.accessorName, Element.accessorName, sameName, samePublic]
    simp only [compile, sameName, accessorName]
    by_cases known : element.accessorName ∈ taken
    · rw [if_pos known, if_pos known]
      exact ⟨.skipped _, rfl, .nil⟩
    · rw [if_neg known, if_neg known, Logged.value_bind, Logged.value_bind]
      have built := build element element' same
      unfold Attempt.outcome at built
      generalize ((element.plan visit.scope registry).build registry).run.value = result at built ⊢
      generalize ((element'.plan visit'.scope registry').build registry').run.value = result' at built ⊢
      cases built with
      | error fault => exact ⟨.skipped _, rfl, .nil⟩
      | ok sameAccessor => exact ⟨.built sameAccessor, rfl, inner _ _ _ _ same sameAccessor⟩

theorem alike_walk
    (step : ∀ visit visit' taken, SameVisit visit visit' →
      (visit.run taken registry).value.Alike Same SameVisit (visit'.run taken registry').value)
    (taken : List String) {visits visits' : List Visit} (same : List.Forall₂ SameVisit visits visits') :
    List.Forall₂ (Outcome.Alike Same) (walk registry taken visits).value
      (walk registry' taken visits').value := by
  induction taken, visits using walk.induct registry generalizing visits' with
  | case1 =>
    cases same
    simp [walk]
  | case2 taken visit rest here =>
    rename_i ih
    cases same with
    | cons first others =>
      have steps := step _ _ taken first
      have next := ih (List.rel_append steps.inner others)
      rw [walk, walk, steps.reserved]
      exact .cons steps.outcome next

end Steps

end PageObject
