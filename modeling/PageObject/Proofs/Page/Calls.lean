import PageObject.Proofs.Accessor.Parameters
import PageObject.Proofs.Accessor.Statements
import PageObject.Proofs.Page.Origin

namespace PageObject

/-- An accessor gets the element around its own from `called`, for the declaration `outer`. -/
structure Accessor.GetsFrom (accessor called : Accessor) (outer : Element) (inShadow : Bool)
    (registry : Registry) : Prop where
  returnType : called.returnType = registry.basicElement.element
  statement : accessor.scopeLine = getterStatement registry.basicElement outer.name called.name
    (called.parameters.map Parameter.name) outer.isNullable inShadow
  parameters : called.parameters <+: accessor.parameters

/-- Two pieces of code are the statements of an accessor, and pass its parameters, literals, and nothing
else: each argument has the type of its parameter, and no parameter is left out. -/
structure Accessor.Passes (accessor : Accessor) (first second : Code) : Prop where
  scopeLine : accessor.scopeLine = first.text
  returnLine : accessor.returnLine = second.text
  declared : ∀ argument ∈ second.arguments, argument.isLiteral = false →
    ∃ parameter ∈ accessor.parameters, parameter.name = argument.argumentText ∧
      parameter.type.key = argument.type.key
  passed : ∀ parameter ∈ accessor.parameters,
    parameter ∈ first.arguments ++ second.arguments ∧ parameter.argumentText = parameter.name

namespace AccessorPlan

variable {plan : AccessorPlan} {registry : Registry} {accessor : Accessor}

theorem returnLine_of_build (built : (plan.build registry).outcome = .ok accessor) :
    accessor.returnLine = plan.returnLine := by
  rw [(outcome_build_eq_ok_iff.mp built).2]
  rfl

theorem returnType_of_build (built : (plan.build registry).outcome = .ok accessor) :
    accessor.returnType = plan.returnType := by
  rw [(outcome_build_eq_ok_iff.mp built).2]
  rfl

theorem passes_of_build (built : (plan.build registry).outcome = .ok accessor)
    (count : ∀ predicate, plan.cardinality.predicate? = some predicate →
      predicate.matcherParameters.length = predicate.matcher.arity) :
    accessor.Passes (plan.scope.code registry.basicElement) plan.returnCode where
  scopeLine := by rw [scopeLine_of_build built, Scope.text_code]
  returnLine := by rw [returnLine_of_build built, text_returnCode]
  declared := by
    intro argument member named
    rw [arguments_returnCode count] at member
    have needed : argument ∈ plan.required := by
      rw [required, List.append_assoc]
      exact List.mem_append_right _ member
    rw [Parameter.argumentText_of_named named]
    exact exists_parameter_of_mem_required built needed named
  passed := by
    intro parameter member
    refine ⟨?_, Parameter.argumentText_of_named (isLiteral_of_mem_parameters built parameter member)⟩
    rw [Scope.arguments_code, arguments_returnCode count, ← List.append_assoc]
    exact mem_required_of_mem_parameters built parameter member

theorem getsFrom_of_build {outerPlan : AccessorPlan} {called : Accessor} {outer : Element} {inShadow : Bool}
    (calledBuilt : (outerPlan.build registry).outcome = .ok called)
    (returnType : called.returnType = registry.basicElement.element)
    (built : (plan.build registry).outcome = .ok accessor)
    (scope : plan.scope = called.scope outer.name outer.isNullable inShadow) :
    accessor.GetsFrom called outer inShadow registry where
  returnType := returnType
  statement := by
    have named : ∀ parameter ∈ plan.scope.parameters, parameter.isLiteral = false := by
      rw [scope]
      exact isLiteral_of_mem_parameters calledBuilt
    rw [scopeLine_of_build built, Scope.declarationLine_of_named named, scope]
    rfl
  parameters := by
    have extended := @prefix_of_build plan registry accessor built
    rw [scope] at extended
    exact extended (isLiteral_of_mem_parameters calledBuilt) (nodup_names_of_build calledBuilt)

end AccessorPlan

namespace Page

variable {value : Json} {registry : Registry} {compilation : Compilation} {before after : List Accessor}
  {accessor : Accessor}

theorem returnType_of_nested {earlier : List Visited} {here : Visited} {element : Element}
    (made : MadeFor value registry before accessor earlier here element)
    (inhabited : element.nested.isEmpty = false) : accessor.returnType = registry.basicElement.element := by
  rcases Element.single_of_nested made.readable inhabited with ⟨kind, cardinality⟩
  rw [AccessorPlan.returnType_of_build made.build]
  simp [AccessorPlan.returnType, Element.plan, kind, cardinality, Cardinality.isList, ElementKind.type]

theorem calls_fit_signatures (h : (compile value registry).outcome = .ok compilation)
    (split : compilation.accessors = before ++ accessor :: after) :
    ∃ earlier here element, MadeFor value registry before accessor earlier here element ∧
      ((∃ place, here.visit.path = [place] ∧ accessor.scopeLine =
          getterStatement registry.basicElement "root" Scope.rootGetter [] false place.inShadow) ∨
        ∃ outerBefore called outerEarlier parent outer place,
          MadeFor value registry outerBefore called outerEarlier parent outer ∧
            here.visit.path = parent.visit.path ++ [place] ∧ called ∈ before ∧
            compilation.accessors.filter (fun other => other.name = called.name) = [called] ∧
            accessor.GetsFrom called outer place.inShadow registry) ∧
      let plan := element.plan here.visit.scope registry
      plan.returnCode.arguments = element.selector.parameters ++ element.cardinality.parameters ∧
        accessor.Passes (here.visit.scope.code registry.basicElement) plan.returnCode := by
  rcases exists_madeFor h split with ⟨earlier, here, element, made⟩
  refine ⟨earlier, here, element, made, ?_, AccessorPlan.arguments_returnCode made.count,
    AccessorPlan.passes_of_build made.build made.count⟩
  rcases made.container with ⟨place, path, scope⟩ |
    ⟨outerBefore, called, outerEarlier, parent, outer, place, outerMade, inside, held, path, scope⟩
  · refine .inl ⟨place, path, ?_⟩
    rw [AccessorPlan.scopeLine_of_build made.build, Element.plan, scope]
    exact Scope.declarationLine_of_named (by simp [Scope.root]) _
  · refine .inr ⟨outerBefore, called, outerEarlier, parent, outer, place, outerMade, path, inside, ?_, ?_⟩
    · refine filter_key_eq_singleton (nodup_names_of_outcome_compile h).1 ?_
      rw [split]
      exact List.mem_append_left _ inside
    · have inhabited : outer.nested.isEmpty = false := by
        rw [Json.child?, ← Element.nodes_of_read outerMade.readable] at held
        exact Nested.isEmpty_of_getElem? held
      exact AccessorPlan.getsFrom_of_build outerMade.build (returnType_of_nested outerMade inhabited) made.build
        scope

def boxedRows : Json :=
  let argument (name type : String) : Json := .object [("name", .string name), ("type", .string type)]
  let row : Json := .object [("name", .string "row"),
    ("selector", .object [("css", .string "%d"), ("args", .array [argument "n" "number"]),
      ("returnAll", .bool true)]),
    ("filter", .object [("apply", .string "getAttribute"), ("args", .array [argument "y" "string"]),
      ("matcher", .object [("type", .string "stringEquals"), ("args", .array [argument "z" "string"])])])]
  .object [("elements", .array [.object [("name", .string "box"), ("nullable", .bool true),
    ("selector", .object [("css", .string "%s"), ("args", .array [argument "x" "string"])]),
    ("shadow", .object [("elements", .array [row])])]])]

theorem calls_fit_signatures_boxedRows :
    ∃ (compilation : Compilation) (box row : Accessor) (outer : Element) (inShadow : Bool)
      (first second : Code), (compile boxedRows .standard).outcome = .ok compilation ∧
      compilation.accessors = [box] ++ row :: [] ∧
      row.parameters.map Parameter.name = ["x", "n", "y", "z"] ∧
      row.scopeLine = "BasicElement box = this.getBoxElement(x).nullable().expandShadowRoot()" ∧
      row.GetsFrom box outer inShadow .standard ∧ row.Passes first second := by
  obtain ⟨compilation, compiled, view⟩ := exists_of_view
    (show (compile boxedRows .standard).outcome.toOption.map (fun compilation =>
        compilation.accessors.map fun accessor =>
          (accessor.parameters.map Parameter.name, accessor.scopeLine)) =
      some [(["x"], "BasicElement root = this.getRootElement()"), (["x", "n", "y", "z"],
        "BasicElement box = this.getBoxElement(x).nullable().expandShadowRoot()")] by decide +kernel)
  rcases List.map_eq_cons_iff.mp view with ⟨box, rest, split, first, view⟩
  rcases List.map_eq_cons_iff.mp view with ⟨row, rest, rfl, second, view⟩
  cases List.map_eq_nil_iff.mp view
  rcases Prod.mk.inj second with ⟨names, line⟩
  have split : compilation.accessors = [box] ++ row :: [] := split
  rcases calls_fit_signatures compiled split with
    ⟨earlier, here, element, made, origin, arguments, passes⟩
  rcases origin with ⟨place, path, root⟩ |
    ⟨outerBefore, called, outerEarlier, parent, outer, place, outerMade, path, inside, unique, gets⟩
  · have different : ∀ inShadow, "BasicElement box = this.getBoxElement(x).nullable().expandShadowRoot()" ≠
        getterStatement Registry.standard.basicElement "root" Scope.rootGetter [] false inShadow := by decide
    exact absurd (line.symm.trans root) (different _)
  · cases List.mem_singleton.mp inside
    exact ⟨compilation, box, row, outer, _, _, _, compiled, split, names, line, gets, passes⟩

end Page

end PageObject
