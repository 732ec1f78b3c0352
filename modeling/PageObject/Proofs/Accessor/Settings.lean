import PageObject.Proofs.Element.Reading
import PageObject.Proofs.Element.Settings

namespace PageObject

section

variable {config config' : Config}

theorem Parameter.SameUnder.key_eq_iff {parameter parameter' other other' : Parameter}
    (h : parameter.SameUnder config config' parameter') (h' : other.SameUnder config config' other') :
    parameter'.type.key = other'.type.key ↔ parameter.type.key = other.type.key := by
  rcases h.type with ⟨type, same, same'⟩
  rcases h'.type with ⟨otherType, sameOther, sameOther'⟩
  rw [same, same', sameOther, sameOther', Config.key_typeOf_eq_iff, Config.key_typeOf_eq_iff]

theorem argumentList_of_sameParameters {parameters parameters' : List Parameter}
    (same : SameParameters config config' parameters parameters') :
    argumentList parameters' = argumentList parameters := by
  rw [argumentList, argumentList, map_eq_of_forall₂ same fun _ _ here => here.argumentText]

theorem Locator.code_of_sameParameters {parameters parameters' : List Parameter}
    (same : SameParameters config config' parameters parameters') (locator : Locator) :
    locator.code parameters' = locator.code parameters := by
  have empty : parameters'.isEmpty = parameters.isEmpty := by
    cases same <;> rfl
  unfold Locator.code
  rw [empty, argumentList_of_sameParameters same]

theorem Predicate.SameUnder.code {predicate predicate' : Predicate}
    (h : predicate.SameUnder config config' predicate') : predicate'.code = predicate.code := by
  unfold Predicate.code
  rw [h.applyMethod, h.matcher, argumentList_of_sameParameters h.applyParameters,
    argumentList_of_sameParameters h.matcherParameters]

namespace Signature

structure SameUnder (config config' : Config) (signature signature' : Signature) : Prop where
  owner : signature'.owner = signature.owner
  parameters : SameParameters config config' signature.parameters signature'.parameters

variable {signature signature' : Signature} (h : signature.SameUnder config config' signature')

include h

theorem SameUnder.find? (name : String) :
    Option.Rel (Parameter.SameUnder config config') (signature.find? name) (signature'.find? name) :=
  rel_find?_of_forall₂ h.parameters fun _ _ here => by rw [here.name]

theorem SameUnder.push {parameter parameter' : Parameter}
    (same : parameter.SameUnder config config' parameter') :
    (signature.push parameter).SameUnder config config' (signature'.push parameter') :=
  ⟨h.owner, List.rel_append h.parameters (.cons same .nil)⟩

theorem SameUnder.merge {parameters parameters' : List Parameter}
    (same : SameParameters config config' parameters parameters') :
    (signature'.merge parameters').conflict = (signature.merge parameters).conflict ∧
      (signature.merge parameters).signature.SameUnder config config'
        (signature'.merge parameters').signature := by
  induction same generalizing signature signature' with
  | nil => exact ⟨rfl, h⟩
  | @cons parameter parameter' rest rest' first others ih =>
    unfold Signature.merge
    rw [first.isLiteral]
    by_cases literal : parameter.isLiteral
    · rw [if_pos literal, if_pos literal]
      exact ih h
    · rw [if_neg literal, if_neg literal, first.name]
      have known := h.find? parameter.name
      generalize signature.find? parameter.name = found at known ⊢
      generalize signature'.find? parameter.name = found' at known ⊢
      cases known with
      | none => exact ih (h.push first)
      | @some known known' sameKnown =>
        -- A key tells which declared type it is of, so no import path can make two types agree or clash.
        have agree := sameKnown.key_eq_iff first
        by_cases type : known.type.key = parameter.type.key
        · simp only [agree.mpr type, type, if_true]
          exact ih h
        · have type' : known'.type.key ≠ parameter'.type.key := fun other => type (agree.mp other)
          simp only [type, type', if_false]
          refine ⟨?_, h⟩
          rw [h.owner, sameKnown.writtenAlike.displayName, first.writtenAlike.displayName]

end Signature

structure Scope.SameUnder (config config' : Config) (scope scope' : Scope) : Prop where
  name : scope'.name = scope.name
  getter : scope'.getter = scope.getter
  parameters : SameParameters config config' scope.parameters scope'.parameters
  isNullable : scope'.isNullable = scope.isNullable
  expandsShadowRoot : scope'.expandsShadowRoot = scope.expandsShadowRoot

/-- An accessor under two settings: they make no difference beyond the imports. -/
structure Accessor.SameUnder (config config' : Config) (accessor accessor' : Accessor) : Prop where
  name : accessor'.name = accessor.name
  isPublic : accessor'.isPublic = accessor.isPublic
  parameters : SameParameters config config' accessor.parameters accessor'.parameters
  returnType : accessor.returnType.WrittenAlike accessor'.returnType
  scopeLine : accessor'.scopeLine = accessor.scopeLine
  returnLine : accessor'.returnLine = accessor.returnLine

theorem Accessor.SameUnder.signature {accessor accessor' : Accessor}
    (h : accessor.SameUnder config config' accessor') : accessor'.signature = accessor.signature := by
  unfold Accessor.signature
  rw [h.returnType.displayName, h.name, map_eq_of_forall₂ h.parameters fun _ _ here => here.declaration]

theorem ElementKind.SameUnder.lookup {kind kind' : ElementKind} (h : kind.SameUnder kind') :
    kind'.lookup = kind.lookup := by
  cases h <;> rfl

theorem ElementKind.SameUnder.type {kind kind' : ElementKind} (h : kind.SameUnder kind') :
    (kind.type config.registry).WrittenAlike (kind'.type config'.registry) := by
  cases h with
  | basic => exact config.basicElement_writtenAlike config'
  | pageObject same => exact same

namespace Cardinality.SameUnder

variable {cardinality cardinality' : Cardinality} (h : cardinality.SameUnder config config' cardinality')

include h

theorem isList : cardinality'.isList = cardinality.isList := by
  cases h <;> rfl

theorem predicate? : Option.Rel (Predicate.SameUnder config config') cardinality.predicate?
    cardinality'.predicate? := by
  cases h with
  | single | multiple => exact .none
  | filtered same => exact .some same

theorem parameters : SameParameters config config' cardinality.parameters cardinality'.parameters := by
  cases h with
  | single | multiple => exact .nil
  | filtered same => exact List.rel_append same.applyParameters same.matcherParameters

end Cardinality.SameUnder

structure AccessorPlan.SameUnder (config config' : Config) (plan plan' : AccessorPlan) : Prop where
  elementName : plan'.elementName = plan.elementName
  isPublic : plan'.isPublic = plan.isPublic
  lookup : plan'.lookup = plan.lookup
  elementType : plan.elementType.WrittenAlike plan'.elementType
  locator : plan'.locator = plan.locator
  locatorParameters : SameParameters config config' plan.locatorParameters plan'.locatorParameters
  scope : plan.scope.SameUnder config config' plan'.scope
  cardinality : plan.cardinality.SameUnder config config' plan'.cardinality

theorem Element.SameUnder.plan {element element' : Element} (h : element.SameUnder config config' element')
    {scope scope' : Scope} (sameScope : scope.SameUnder config config' scope') :
    (element.plan scope config.registry).SameUnder config config' (element'.plan scope' config'.registry) where
  elementName := h.name
  isPublic := h.isPublic
  lookup := h.kind.lookup
  elementType := h.kind.type
  locator := h.selector.locator
  locatorParameters := h.selector.parameters
  scope := sameScope
  cardinality := h.cardinality

theorem Scope.SameUnder.declarationLine {scope scope' : Scope} (h : scope.SameUnder config config' scope') :
    scope'.declarationLine config'.registry.basicElement =
      scope.declarationLine config.registry.basicElement := by
  unfold Scope.declarationLine
  rw [(config.basicElement_writtenAlike config').simpleName, h.name, h.getter, h.isNullable,
    h.expandsShadowRoot, argumentList_of_sameParameters h.parameters]

namespace AccessorPlan.SameUnder

variable {plan plan' : AccessorPlan} (h : plan.SameUnder config config' plan')

include h

theorem name : plan'.name = plan.name := by
  rw [AccessorPlan.name, AccessorPlan.name, h.elementName, h.isPublic]

theorem returnType : plan.returnType.WrittenAlike plan'.returnType := by
  unfold AccessorPlan.returnType
  rw [h.cardinality.isList]
  split
  · exact ⟨h.elementType.simpleName, rfl⟩
  · exact ⟨h.elementType.simpleName, rfl⟩

theorem required : SameParameters config config' plan.required plan'.required :=
  List.rel_append (List.rel_append h.scope.parameters h.locatorParameters) h.cardinality.parameters

theorem returnLine : plan'.returnLine = plan.returnLine := by
  have predicate := h.cardinality.predicate?
  unfold AccessorPlan.returnLine
  rw [h.lookup, h.scope.name, h.locator, Locator.code_of_sameParameters h.locatorParameters,
    h.cardinality.isList, h.elementType.simpleName]
  generalize plan.cardinality.predicate? = found at predicate ⊢
  generalize plan'.cardinality.predicate? = found' at predicate ⊢
  cases predicate with
  | none => rfl
  | some same => simp only [same.code]

theorem alike_build : Alike (Accessor.SameUnder config config') (plan.build config.registry).outcome
    (plan'.build config'.registry).outcome := by
  have start : ({ owner := "method '" ++ plan.name ++ "'" } : Signature).SameUnder config config'
      { owner := "method '" ++ plan'.name ++ "'" } := ⟨by rw [h.name], .nil⟩
  rcases start.merge h.required with ⟨conflict, merged⟩
  have conflict : plan'.merge.conflict = plan.merge.conflict := conflict
  rw [outcome_build, outcome_build, conflict]
  cases plan.merge.conflict with
  | some fault => exact .error fault
  | none => exact .ok {
      name := h.name
      isPublic := h.isPublic
      parameters := merged.parameters
      returnType := h.returnType
      scopeLine := h.scope.declarationLine
      returnLine := h.returnLine }

end AccessorPlan.SameUnder

end

end PageObject
