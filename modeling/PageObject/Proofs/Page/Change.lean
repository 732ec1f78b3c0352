import PageObject.Proofs.Element.Change
import PageObject.Proofs.Page.Reading
import PageObject.Proofs.Page.Simulation

namespace PageObject

structure Visit.AlikeBy (Same : ObjectKind → Json → Json → Prop) (visit visit' : Visit) : Prop where
  node : Same .element visit.node visit'.node
  scope : visit'.scope = visit.scope
  path : visit'.path = visit.path

section

variable {Same : ObjectKind → Json → Json → Prop} {Nodes : List Json → List Json → Prop}

theorem Page.alike_outcome_read (likeness : Likeness Same Nodes) {value value' : Json}
    (h : Same .page value value') :
    Alike (fun page page' => page'.rootLocator = page.rootLocator ∧ page.nested.AlikeBy Nodes page'.nested)
      (read value).outcome (read value').outcome := by
  rw [outcome_read, outcome_read]
  apply (Property.alike_fields likeness h pageContext "$").bind
  intro fields fields' parts
  apply Alike.bind_same (parts.flag_eq "root" (by decide) (by decide) _)
  intro isRoot
  have rootLocator : (readRootLocator fields' isRoot).outcome = (readRootLocator fields isRoot).outcome := by
    have part := parts.get? "selector" (by decide)
    have object : ObjectKind.part? .page "selector" = some (.one .rootSelector) := by decide
    rw [object] at part
    unfold readRootLocator
    generalize fields.get? "selector" = found at part ⊢
    generalize fields'.get? "selector" = found' at part ⊢
    cases part with
    | same => rfl
    | one same =>
      cases isRoot with
      | false => rfl
      | true => simp only [Attempt.outcome_map, Selector.outcome_readRoot_of_alike likeness same]
    | objects unread => exact absurd rfl (unread .rootSelector)
  apply Alike.bind_same rootLocator
  intro rootLocator
  apply (Nested.alike_read likeness parts (.inl rfl)).bind
  intro nested nested' same
  exact .ok ⟨rfl, same⟩

theorem Visit.alikeBy_ofList {nodes nodes' : List Json} (scope : Scope) (path : NodePath) (inShadow : Bool)
    (h : List.Forall₂ (Same .element) nodes nodes') :
    List.Forall₂ (Visit.AlikeBy Same) (Visit.ofList nodes scope path inShadow)
      (Visit.ofList nodes' scope path inShadow) := by
  unfold Visit.ofList
  generalize 0 = start
  induction h generalizing start with
  | nil => exact .nil
  | cons first others ih => exact .cons ⟨first, rfl, rfl⟩ (ih _)

theorem Visit.alikeBy_ofNested {nested nested' : Nested}
    (h : nested.AlikeBy (List.Forall₂ (Same .element)) nested') (scope shadowScope : Scope) (path : NodePath) :
    List.Forall₂ (Visit.AlikeBy Same) (Visit.ofNested nested scope shadowScope path)
      (Visit.ofNested nested' scope shadowScope path) :=
  List.rel_append (alikeBy_ofList scope path false h.elements)
    (alikeBy_ofList shadowScope path true h.shadowElements)

variable (likeness : Likeness Same (List.Forall₂ (Same .element)))

include likeness

theorem Visit.alike_run_of_alikeBy {visit visit' : Visit} (h : visit.AlikeBy Same visit')
    (registry : Registry) (taken : List String) :
    (visit.run taken registry).value.Alike Eq (Visit.AlikeBy Same) (visit'.run taken registry).value := by
  rcases visit with ⟨node, scope, path⟩
  rcases visit' with ⟨node', scope', path'⟩
  rcases h with ⟨same, rfl, rfl⟩
  apply Visit.alike_run (Element.label_of_alike likeness same _) (Element.alike_read likeness same _)
  · rintro element element' ⟨nested, rfl, sameNested⟩
    exact ⟨rfl, rfl⟩
  · rintro element element' ⟨nested, rfl, sameNested⟩
    exact .of_eq rfl
  · rintro element element' accessor accessor' ⟨nested, rfl, sameNested⟩ rfl
    exact Visit.alikeBy_ofNested sameNested _ _ _

theorem Page.outcome_compile_of_alike {value value' : Json} (h : Same .page value value')
    (registry : Registry) : (compile value' registry).outcome = (compile value registry).outcome := by
  rw [outcome_compile, outcome_compile]
  apply Alike.eq
  apply (alike_outcome_read likeness h).map
  rintro page page' ⟨rootLocator, same⟩
  have visits : List.Forall₂ (Visit.AlikeBy Same) page.visits page'.visits :=
    Visit.alikeBy_ofNested same _ _ _
  have outcomes : (walk registry [Scope.rootGetter] page'.visits).value =
      (walk registry [Scope.rootGetter] page.visits).value := by
    have alike := alike_walk (fun _ _ taken same => Visit.alike_run_of_alikeBy likeness same registry taken)
      [Scope.rootGetter] visits
    have equal := alike.imp fun _ _ same => same.eq.symm
    rw [List.forall₂_eq_eq_eq] at equal
    exact equal.symm
  rw [rootLocator, outcomes]

end

theorem Page.outcome_compile_of_changed {Changed : ObjectKind → Json.Fields → Json.Fields → Prop}
    (unread : ∀ kind fields fields', Changed kind fields fields' → kind.ReadSame fields fields')
    {value value' : Json} (h : ChangedIn Changed .page value value') (registry : Registry) :
    (compile value' registry).outcome = (compile value registry).outcome :=
  outcome_compile_of_alike (ChangedIn.likeness_of_readSame unread) h registry

end PageObject
