import PageObject.Element
import PageObject.Proofs.Property

namespace PageObject.Element

def context (element : Element) : String := "element '" ++ element.name ++ "'"

/-- The fields of a node declare an element: each property is there in the shape it has to have. -/
structure DeclaredBy (element : Element) (fields : Json.Fields) (registry : Registry) : Prop where
  name : fields.value? "name" = some (.string element.name)
  named : element.name ≠ ""
  identifier : Text.isIdentifier element.name
  kind : readKind fields element.context registry = .ok element.kind
  isPublic : Property.flag fields "public" element.context = .ok element.isPublic
  isNullable : Property.flag fields "nullable" element.context = .ok element.isNullable
  selector : ∃ value, fields.get? "selector" = some value ∧
    Selector.read value element.context registry = .ok element.selector
  cardinality : ∃ filter?, readFilter? fields element.context registry = .ok filter? ∧
    cardinalityOf element.selector.returnsAll filter? element.context = .ok element.cardinality
  nested : Nested.read fields element.context = .ok element.nested
  nesting : checkNesting element.nested element.selector element.kind element.context = .ok ()

theorem readName_eq_ok_iff {fields : Json.Fields} {path name : String} :
    readName fields path = .ok name ↔
      fields.value? "name" = some (.string name) ∧ name ≠ "" ∧ Text.isIdentifier name := by
  unfold readName
  rw [bind_eq_ok_iff]
  constructor
  · intro h
    rcases h with ⟨read, found, h⟩
    rcases Property.string_eq_ok_iff.mp found with ⟨present, filled⟩
    split at h
    · rename_i identifier
      cases h
      exact ⟨present, filled, identifier⟩
    · cases h
  · intro h
    rcases h with ⟨present, filled, identifier⟩
    exact ⟨name, Property.string_eq_ok_iff.mpr ⟨present, filled⟩, if_pos identifier⟩

theorem read_eq_ok_iff {node : Json} {path : String} {registry : Registry} {element : Element} :
    read node path registry = .ok element ↔
      ∃ fields, node = .object fields ∧ element.DeclaredBy fields registry := by
  unfold read
  simp only [bind_eq_ok_iff, Property.fields_eq_ok_iff, readName_eq_ok_iff,
    Property.value_eq_ok_iff]
  constructor
  · rintro ⟨fields, rfl, name, ⟨present, named, identifier⟩, kind, hKind, isPublic, hPublic,
      isNullable, hNullable, value, hValue, selector, hSelector, filter, hFilter, cardinality,
      hCardinality, nested, hNested, checked, hNesting, h⟩
    cases h
    exact ⟨fields, rfl, present, named, identifier, hKind, hPublic, hNullable,
      ⟨value, hValue, hSelector⟩, ⟨filter, hFilter, hCardinality⟩, hNested, hNesting⟩
  · intro h
    rcases h with ⟨fields, rfl, declared⟩
    rcases declared.selector with ⟨value, hValue, hSelector⟩
    rcases declared.cardinality with ⟨filter, hFilter, hCardinality⟩
    exact ⟨fields, rfl, element.name, ⟨declared.name, declared.named, declared.identifier⟩,
      element.kind, declared.kind, element.isPublic, declared.isPublic, element.isNullable,
      declared.isNullable, value, hValue, element.selector, hSelector, filter, hFilter,
      element.cardinality, hCardinality, element.nested, declared.nested, (), declared.nesting, rfl⟩

theorem read_eq_ok_at {node : Json} {path : String} {registry : Registry} {element : Element}
    (h : read node path registry = .ok element) (other : String) :
    read node other registry = .ok element :=
  read_eq_ok_iff.mpr (read_eq_ok_iff.mp h)

theorem label_of_written {fields : Json.Fields} {name : String}
    (written : fields.value? "name" = some (.string name)) (path : String) :
    label (.object fields) path = name := by
  simp [label, Json.field?, Json.Fields.get?_of_value? written, Json.string?]

theorem label_of_read {node : Json} {path : String} {registry : Registry} {element : Element}
    (h : read node path registry = .ok element) (other : String) :
    label node other = element.name := by
  rcases read_eq_ok_iff.mp h with ⟨fields, rfl, declared⟩
  exact label_of_written declared.name other

end PageObject.Element

namespace PageObject

namespace AccessorPlan

theorem outcome_build (plan : AccessorPlan) (registry : Registry) :
    (plan.build registry).outcome =
      match plan.merge.conflict with
      | some fault => .error fault
      | none => .ok (plan.accessor registry plan.merge.signature.parameters) := by
  unfold build
  cases hConflict : plan.merge.conflict <;> simp only [hConflict] <;> rfl

theorem outcome_build_eq_ok_iff {plan : AccessorPlan} {registry : Registry} {accessor : Accessor} :
    (plan.build registry).outcome = .ok accessor ↔
      plan.merge.conflict = none ∧ accessor = plan.accessor registry plan.merge.signature.parameters := by
  rw [outcome_build]
  cases hConflict : plan.merge.conflict <;> simp [eq_comm]

theorem name_of_build {plan : AccessorPlan} {registry : Registry} {accessor : Accessor}
    (h : (plan.build registry).outcome = .ok accessor) : accessor.name = plan.name := by
  rw [(outcome_build_eq_ok_iff.mp h).2]
  rfl

theorem scopeLine_of_build {plan : AccessorPlan} {registry : Registry} {accessor : Accessor}
    (h : (plan.build registry).outcome = .ok accessor) :
    accessor.scopeLine = plan.scope.declarationLine registry.basicElement := by
  rw [(outcome_build_eq_ok_iff.mp h).2]
  rfl

end AccessorPlan

namespace Element

variable {node : Json} {path : String} {scope : Scope} {registry : Registry} {element : Element}

theorem outcome_compile_of_read (h : read node path registry = .ok element) (scope : Scope) :
    (compile node scope registry).outcome = ((element.plan scope registry).build registry).outcome := by
  unfold compile
  rw [Attempt.outcome_bind]
  have lifted : (liftM (read node "element" registry) : Attempt Element).outcome =
      read node "element" registry := rfl
  rw [lifted, read_eq_ok_at h "element"]
  rfl

theorem read_of_compile {accessor : Accessor}
    (h : (compile node scope registry).outcome = .ok accessor) (path : String) :
    ∃ element, read node path registry = .ok element ∧
      ((element.plan scope registry).build registry).outcome = .ok accessor := by
  unfold compile at h
  rw [Attempt.outcome_bind] at h
  rcases exists_of_bind_eq_ok h with ⟨element, found, built⟩
  exact ⟨element, read_eq_ok_at found path, built⟩

@[simp] theorem name_plan (element : Element) (scope : Scope) (registry : Registry) :
    (element.plan scope registry).name = element.accessorName := rfl

theorem name_of_build {accessor : Accessor}
    (h : ((element.plan scope registry).build registry).outcome = .ok accessor) :
    accessor.name = element.accessorName := by
  rw [AccessorPlan.name_of_build h, name_plan]

end Element

end PageObject
