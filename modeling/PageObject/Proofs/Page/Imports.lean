import PageObject.Proofs.Page.Declarations

namespace PageObject

namespace AccessorPlan

variable {plan : AccessorPlan} {registry : Registry} {accessor : Accessor} {key : String × String}

theorem mem_keys_signatureImports (built : (plan.build registry).outcome = .ok accessor) :
    key ∈ accessor.signatureImports.map NamedType.key ↔
      key ∈ (registry.imports accessor.returnType).map NamedType.key := by
  rw [(outcome_build_eq_ok_iff.mp built).2]
  simp [AccessorPlan.accessor, Registry.mem_keys_addImports]

theorem mem_keys_imports (built : (plan.build registry).outcome = .ok accessor) :
    key ∈ accessor.imports.map NamedType.key ↔
      key ∈ accessor.signatureImports.map NamedType.key ∨
        key ∈ (registry.imports registry.basicElement).map NamedType.key := by
  rw [(outcome_build_eq_ok_iff.mp built).2]
  exact Registry.mem_keys_addImports

end AccessorPlan

section Locators

variable {value : Json} {context : String} {config : Config}

theorem Selector.ne_locator_of_read {selector : Selector}
    (found : read value context config.registry = .ok selector) :
    ∀ declared ∈ value.declaredArguments, declared.type ≠ .locator := by
  intro declared member isLocator
  have passed := DeclaredArgument.parameter_mem_of_named (named_of_read found) member
  rcases read_eq_ok_iff.mp found with ⟨fields, rfl, declares⟩
  rcases Placeholder.exists_type_of_check declares.placeholders _ passed with ⟨placeholder, fits⟩
  rw [DeclaredArgument.parameter, config.parameterType?_typeOf, isLocator] at fits
  cases placeholder <;> cases fits

theorem Filter.ne_locator_of_readMatcher {matcher : Matcher} {parameters : List Parameter}
    (found : readMatcher value context config.registry = .ok (matcher, parameters)) :
    ∀ declared ∈ value.declaredArguments, declared.type ≠ .locator := by
  intro declared member isLocator
  have passed := DeclaredArgument.parameter_mem_of_named (named_of_readMatcher found) member
  rcases readMatcher_eq_ok_iff.mp found with ⟨fields, rfl, named, items, checked⟩
  rcases checkArguments_eq_ok_iff.mp checked with ⟨count, fits⟩
  cases expected : matcher.argumentType? with
  | none =>
    rw [Matcher.arity, expected] at count
    rw [List.length_eq_zero_iff.mp count] at passed
    cases passed
  | some type =>
    have fit := fits type expected _ passed
    rw [DeclaredArgument.parameter, config.parameterType?_typeOf, isLocator] at fit
    cases fit
    cases matcher <;> cases expected

theorem Filter.ne_locator_of_read {filter : Filter}
    (found : read value context config.registry = .ok filter) :
    ∀ declared ∈ value.declaredIn "matcher", declared.type ≠ .locator := by
  rcases read_eq_ok_iff.mp found with ⟨fields, rfl, declares⟩
  rcases declares.matcher with ⟨matcherValue, present, read⟩
  have held : (Json.object fields).field? "matcher" = some matcherValue := present
  rw [Json.declaredIn_of_field? held]
  exact ne_locator_of_readMatcher read

namespace Element

variable {node : Json} {path : String} {element : Element}

theorem ne_locator_of_mem_selectorArguments (found : read node path config.registry = .ok element) :
    ∀ declared ∈ node.selectorArguments, declared.type ≠ .locator := by
  rcases read_eq_ok_iff.mp found with ⟨fields, rfl, declares⟩
  rcases declares.selector with ⟨value, present, read⟩
  have held : (Json.object fields).field? "selector" = some value := present
  rw [Json.selectorArguments, Json.declaredIn_of_field? held]
  exact Selector.ne_locator_of_read read

theorem mem_declaredIn_of_locator (found : read node path config.registry = .ok element)
    {declared : DeclaredArgument} (member : declared ∈ node.filterArguments)
    (isLocator : declared.type = .locator) : declared ∈ node.declaredIn "filter" := by
  cases filtered : element.cardinality.predicate? with
  | none =>
    have nothing := (named_of_read found).2
    rw [Cardinality.parameters, filtered] at nothing
    rw [List.map_eq_nil_iff.mp nothing.symm] at member
    cases member
  | some predicate =>
    rcases exists_filter_of_read found filtered with ⟨filterValue, filter, held, read, same⟩
    rw [Json.filterArguments, held] at member
    rcases List.mem_append.mp member with applied | matched
    · exact applied
    · exact absurd isLocator (Filter.ne_locator_of_read read declared matched)

end Element

end Locators

/-- The types that a signature names: the one returned, without the list around it, and those of the
parameters. -/
def Accessor.namedTypes (accessor : Accessor) : List NamedType :=
  accessor.returnType.element :: accessor.parameters.map Parameter.type

/-- A list of imports has every type that is named in a signature and has to be imported. -/
def Accessor.CoveredBy (accessor : Accessor) (imports : List NamedType) : Prop :=
  ∀ type ∈ accessor.namedTypes, type.needsImport → type.key ∈ imports.map NamedType.key

instance (accessor : Accessor) (imports : List NamedType) : Decidable (accessor.CoveredBy imports) :=
  inferInstanceAs (Decidable (∀ type ∈ accessor.namedTypes, type.needsImport = true →
    type.key ∈ imports.map NamedType.key))

namespace Page

variable {value : Json} {config : Config} {page : Page} {before : List Accessor} {accessor : Accessor}
  {earlier : List Visited} {here : Visited} {element : Element}

theorem ne_locator_of_mem_outerArguments (found : (read value).outcome = .ok page) :
    ∀ here ∈ page.preorder config.registry, ∀ declared ∈ here.visit.outerArguments value,
      declared.type ≠ .locator := by
  refine forall_visit_of_mem_preorder found (P := fun visit => ∀ declared ∈ visit.outerArguments value,
    declared.type ≠ .locator) ?_ ?_
  · intro place node held declared inside
    cases inside
  · intro earlier here outcome located nonempty inherited visit nested declared inside
    rw [Visit.outerArguments_of_mem_inner located nonempty nested, Visit.ownArguments,
      Visit.filterArguments_of_mem_inner nested, List.append_nil] at inside
    rcases Visited.mem_inner.mp nested with ⟨accessor, element, place, node, built, readable, held, same⟩
    rcases List.mem_append.mp inside with outer | own
    · exact inherited declared outer
    · exact Element.ne_locator_of_mem_selectorArguments readable declared own

theorem MadeFor.locator_iff (made : MadeFor value config.registry before accessor earlier here element) :
    (∃ declared ∈ here.visit.declarations value, declared.type = .locator) ↔
      ∃ declared ∈ here.visit.node.declaredIn "filter", declared.type = .locator := by
  rcases made.visited with ⟨page, later, found, split⟩
  constructor
  · intro h
    rcases h with ⟨declared, member, isLocator⟩
    rcases List.mem_append.mp member with outer | own
    · exact absurd isLocator (ne_locator_of_mem_outerArguments found here (mem_of_split split) declared outer)
    · rcases List.mem_append.mp own with selector | filter
      · exact absurd isLocator (Element.ne_locator_of_mem_selectorArguments made.readable declared selector)
      · exact ⟨declared, Element.mem_declaredIn_of_locator made.readable filter isLocator, isLocator⟩
  · intro h
    rcases h with ⟨declared, member, isLocator⟩
    exact ⟨declared, List.mem_append_right _ (List.mem_append_right _ (List.mem_append_left _ member)),
      isLocator⟩

theorem MadeFor.coveredBy_iff {imports : List NamedType}
    (made : MadeFor value config.registry before accessor earlier here element)
    (returned : ∀ key ∈ (config.registry.imports accessor.returnType).map NamedType.key,
      key ∈ imports.map NamedType.key) :
    accessor.CoveredBy imports ↔
      (∀ declared ∈ here.visit.node.declaredIn "filter", declared.type ≠ .locator) ∨
        config.registry.locator.key ∈ imports.map NamedType.key := by
  rcases made.parameters with ⟨agree, parameters⟩
  have applied : (∀ declared ∈ here.visit.node.declaredIn "filter", declared.type ≠ .locator) ↔
      ¬ ∃ declared ∈ here.visit.node.declaredIn "filter", declared.type = .locator := by
    simp only [not_exists, not_and, ne_eq]
  rw [applied, ← imp_iff_not_or, ← made.locator_iff, ← DeclaredArgument.mem_keys_parameters_iff agree,
    ← parameters]
  have typed : ∀ parameter ∈ accessor.parameters, ∃ type, parameter.type = config.registry.typeOf type := by
    intro parameter member
    rw [parameters] at member
    rcases List.mem_map.mp member with ⟨declared, inside, rfl⟩
    exact ⟨declared.type, rfl⟩
  constructor
  · intro covered passed
    rcases List.mem_map.mp passed with ⟨parameter, member, same⟩
    rcases typed parameter member with ⟨type, ofType⟩
    have isLocator : type = .locator := by
      rw [ofType, config.key_typeOf_eq_iff] at same
      exact ParameterType.name_injective same
    rw [isLocator] at ofType
    have named : parameter.type ∈ accessor.namedTypes := List.mem_cons_of_mem _ (List.mem_map_of_mem member)
    rw [ofType] at named
    exact covered _ named ((config.needsImport_typeOf_iff .locator).mpr rfl)
  · intro locators type named needed
    rcases List.mem_cons.mp named with rfl | named
    · exact returned _ (config.registry.key_mem_imports needed)
    · rcases List.mem_map.mp named with ⟨parameter, member, rfl⟩
      rcases typed parameter member with ⟨type, ofType⟩
      rw [ofType] at needed ⊢
      rw [(config.needsImport_typeOf_iff type).mp needed] at ofType ⊢
      refine locators (List.mem_map.mpr ⟨parameter, member, ?_⟩)
      rw [ofType]

theorem signature_covered_iff {compilation : Compilation} {after : List Accessor}
    (h : (compile value config.registry).outcome = .ok compilation)
    (split : compilation.accessors = before ++ accessor :: after) :
    ∃ earlier here element, MadeFor value config.registry before accessor earlier here element ∧
      (accessor.returnType.element.needsImport →
        accessor.returnType.element.key ∈ accessor.signatureImports.map NamedType.key ∧
          accessor.returnType.element.key ∈ accessor.imports.map NamedType.key) ∧
      let covered := (∀ declared ∈ here.visit.node.declaredIn "filter", declared.type ≠ .locator) ∨
        config.registry.locator.key ∈ (config.registry.imports accessor.returnType).map NamedType.key
      (accessor.CoveredBy accessor.signatureImports ↔ covered) ∧
        (accessor.CoveredBy accessor.imports ↔ covered) := by
  rcases exists_madeFor h split with ⟨earlier, here, element, made⟩
  have inSignature : ∀ key, key ∈ accessor.signatureImports.map NamedType.key ↔
      key ∈ (config.registry.imports accessor.returnType).map NamedType.key :=
    fun key => AccessorPlan.mem_keys_signatureImports made.build
  have inImports : ∀ key, key ∈ accessor.imports.map NamedType.key ↔
      key ∈ accessor.signatureImports.map NamedType.key ∨
        key ∈ (config.registry.imports config.registry.basicElement).map NamedType.key :=
    fun key => AccessorPlan.mem_keys_imports made.build
  have signature := made.coveredBy_iff fun key => (inSignature key).mpr
  have whole := made.coveredBy_iff fun key returned => (inImports key).mpr (.inl ((inSignature key).mpr returned))
  have sameLocator : config.registry.locator.key ∈ accessor.imports.map NamedType.key ↔
      config.registry.locator.key ∈ accessor.signatureImports.map NamedType.key := by
    simp only [inImports, config.locator_not_mem_imports_basicElement, or_false]
  rw [sameLocator] at whole
  simp only [inSignature] at signature whole
  refine ⟨earlier, here, element, made, fun needed => ?_, signature, whole⟩
  have returned := (inSignature accessor.returnType.key).mpr (config.registry.key_mem_imports needed)
  exact ⟨returned, (inImports _).mpr (.inl returned)⟩

def labelledRow : Json :=
  .object [("elements", .array [.object [("name", .string "row"),
    ("selector", .object [("css", .string "tr"), ("returnAll", .bool true)]),
    ("filter", .object [("apply", .string "getAttribute"),
      ("args", .array [.object [("name", .string "key"), ("type", .string "string")]]),
      ("matcher", .object [("type", .string "notNull")])])]])]

theorem signature_covered_iff_labelledRow :
    ∃ (compilation : Compilation) (accessor : Accessor) (here : Visited),
      (compile labelledRow ({} : Config).registry).outcome = .ok compilation ∧
      compilation.accessors = [] ++ accessor :: [] ∧
      accessor.signature = "List<BasicElement> getRowElement(String key)" ∧
      accessor.CoveredBy accessor.signatureImports ∧ accessor.CoveredBy accessor.imports ∧
      ((∀ declared ∈ here.visit.node.declaredIn "filter", declared.type ≠ .locator) ∨
        ({} : Config).registry.locator.key ∈
          (({} : Config).registry.imports accessor.returnType).map NamedType.key) := by
  obtain ⟨compilation, compiled, view⟩ := exists_of_view
    (show (compile labelledRow ({} : Config).registry).outcome.toOption.map (fun compilation =>
        compilation.accessors.map fun accessor =>
          (accessor.signature, decide (accessor.CoveredBy accessor.signatureImports))) =
      some [("List<BasicElement> getRowElement(String key)", true)] by decide +kernel)
  rcases List.map_eq_cons_iff.mp view with ⟨accessor, rest, split, first, nothing⟩
  cases List.map_eq_nil_iff.mp nothing
  rcases Prod.mk.inj first with ⟨signature, covered⟩
  have covered := of_decide_eq_true covered
  have split : compilation.accessors = [] ++ accessor :: [] := split
  rcases signature_covered_iff compiled split with
    ⟨earlier, here, element, made, returned, inSignature, inImports⟩
  exact ⟨compilation, accessor, here, compiled, split, signature, covered,
    inImports.mpr (inSignature.mp covered), inSignature.mp covered⟩

def locatedRow : Json :=
  .object [("elements", .array [.object [("name", .string "row"),
    ("selector", .object [("css", .string "tr"), ("returnAll", .bool true)]),
    ("filter", .object [("apply", .string "containsElement"),
      ("args", .array [.object [("name", .string "inner"), ("type", .string "locator")]]),
      ("matcher", .object [("type", .string "isTrue")])])]])]

theorem not_forall_signature_covered :
    ¬ ∀ (value : Json) (config : Config) (compilation : Compilation), config.check = .ok () →
      (compile value config.registry).outcome = .ok compilation → ∀ accessor ∈ compilation.accessors,
        accessor.CoveredBy accessor.signatureImports ∧ accessor.CoveredBy accessor.imports := by
  intro all
  obtain ⟨compilation, compiled, view⟩ := exists_of_view
    (show (compile locatedRow ({} : Config).registry).outcome.toOption.map (fun compilation =>
        compilation.accessors.map fun accessor => decide (accessor.CoveredBy accessor.signatureImports)) =
      some [false] by decide +kernel)
  rcases List.map_eq_cons_iff.mp view with ⟨accessor, rest, split, uncovered, nothing⟩
  have covered := all locatedRow {} compilation (by decide) compiled accessor
    (by rw [split]; exact List.mem_cons_self)
  exact of_decide_eq_false uncovered covered.1

end Page

end PageObject
