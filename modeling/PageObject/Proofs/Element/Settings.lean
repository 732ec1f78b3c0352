import PageObject.Element
import PageObject.Proofs.Alike
import PageObject.Proofs.Registry

namespace PageObject

/-- Two types that are written alike, whatever has to be imported for them. -/
structure NamedType.WrittenAlike (type type' : NamedType) : Prop where
  simpleName : type'.simpleName = type.simpleName
  isCollection : type'.isCollection = type.isCollection

theorem NamedType.WrittenAlike.displayName {type type' : NamedType} (h : type.WrittenAlike type') :
    type'.displayName = type.displayName := by
  rw [NamedType.displayName, NamedType.displayName, h.simpleName, h.isCollection]

theorem Config.typeOf_writtenAlike (config config' : Config) (type : ParameterType) :
    (config.registry.typeOf type).WrittenAlike (config'.registry.typeOf type) := by
  cases type <;> constructor <;> simp [Registry.typeOf, Config.registry]

theorem Config.basicElement_writtenAlike (config config' : Config) :
    config.registry.basicElement.WrittenAlike config'.registry.basicElement := by
  constructor <;> simp [Config.registry]

/-- One parameter under two settings: its type is the same declared type under each. -/
structure Parameter.SameUnder (config config' : Config) (parameter parameter' : Parameter) : Prop where
  name : parameter'.name = parameter.name
  literal : parameter'.literal = parameter.literal
  type : ∃ type, parameter.type = config.registry.typeOf type ∧ parameter'.type = config'.registry.typeOf type

section

variable {config config' : Config} {context : String}

namespace Parameter.SameUnder

variable {parameter parameter' : Parameter} (h : parameter.SameUnder config config' parameter')

include h

theorem writtenAlike : parameter.type.WrittenAlike parameter'.type := by
  rcases h.type with ⟨type, same, same'⟩
  rw [same, same']
  exact config.typeOf_writtenAlike config' type

theorem parameterType? :
    config'.registry.parameterType? parameter'.type = config.registry.parameterType? parameter.type := by
  rcases h.type with ⟨type, same, same'⟩
  rw [same, same', Config.parameterType?_typeOf, Config.parameterType?_typeOf]

theorem isLiteral : parameter'.isLiteral = parameter.isLiteral := by
  rw [Parameter.isLiteral, Parameter.isLiteral, h.literal]

theorem argumentText : parameter'.argumentText = parameter.argumentText := by
  rw [Parameter.argumentText, Parameter.argumentText, h.literal, h.name]

theorem declaration : parameter'.declaration = parameter.declaration := by
  rw [Parameter.declaration, Parameter.declaration, h.writtenAlike.displayName, h.name]

end Parameter.SameUnder

abbrev SameParameters (config config' : Config) : List Parameter → List Parameter → Prop :=
  List.Forall₂ (Parameter.SameUnder config config')

namespace Argument

theorem alike_readLiteral (fields : Json.Fields) (value : Json) :
    Alike (Parameter.SameUnder config config') (readLiteral fields value context config.registry)
      (readLiteral fields value context config'.registry) := by
  have last (type : ParameterType) : Alike (Parameter.SameUnder config config')
      (Property.string? fields "name" context >>= fun name =>
        pure { name := name.getD value.text, type := config.registry.typeOf type, literal := some value })
      (Property.string? fields "name" context >>= fun name =>
        pure { name := name.getD value.text, type := config'.registry.typeOf type, literal := some value }) := by
    apply Alike.bind_same rfl
    intro name
    exact .ok ⟨rfl, rfl, type, rfl, rfl⟩
  unfold readLiteral
  cases ParameterType.ofLiteral? value with
  | none => exact .error _
  | some type =>
    apply Alike.bind_same rfl
    intro type
    apply Alike.bind_same rfl
    intro declared?
    cases declared? with
    | none => exact last type
    | some name =>
      apply Alike.bind_same rfl
      intro declared
      by_cases same : declared = type
      · simp only [same, ne_eq, not_true_eq_false, if_false]
        exact last type
      · simp only [same, ne_eq, not_false_eq_true, if_true]
        exact .error _

theorem alike_readNamed (fields : Json.Fields) :
    Alike (Parameter.SameUnder config config') (readNamed fields context config.registry)
      (readNamed fields context config'.registry) := by
  apply Alike.bind_same rfl
  intro name
  apply Alike.bind_same rfl
  intro typeName
  apply Alike.bind_same rfl
  intro type
  exact .ok ⟨rfl, rfl, type, rfl, rfl⟩

theorem alike_read (value : Json) (index : Nat) :
    Alike (Parameter.SameUnder config config') (read value index context config.registry)
      (read value index context config'.registry) := by
  apply Alike.bind_same rfl
  intro fields
  cases fields.get? "value" with
  | none => exact alike_readNamed fields
  | some literal => exact alike_readLiteral fields literal

theorem alike_readFrom (values : List Json) (index : Nat) :
    Alike (SameParameters config config') (readFrom context config.registry index values)
      (readFrom context config'.registry index values) := by
  induction values generalizing index with
  | nil => exact .ok .nil
  | cons value rest ih =>
    apply (alike_read value index).bind
    intro parameter parameter' first
    apply (ih (index + 1)).bind
    intro parameters parameters' others
    exact .ok (.cons first others)

theorem alike_readAll (values : List Json) :
    Alike (SameParameters config config') (readAll values context config.registry)
      (readAll values context config'.registry) :=
  alike_readFrom values 0

end Argument

theorem Placeholder.misfit_of_sameParameters {args args' : List Parameter}
    (same : SameParameters config config' args args') (expression : String) :
    Option.Rel (fun pair pair' => pair'.1 = pair.1 ∧ pair.2.SameUnder config config' pair'.2)
      (((ofExpression expression).zip args).find? fun (placeholder, argument) =>
        config.registry.parameterType? argument.type ≠ some placeholder.type)
      (((ofExpression expression).zip args').find? fun (placeholder, argument) =>
        config'.registry.parameterType? argument.type ≠ some placeholder.type) := by
  apply rel_find?_of_forall₂ (forall₂_zip_left same (ofExpression expression))
  rintro ⟨placeholder, argument⟩ ⟨placeholder', argument'⟩ ⟨samePlaceholder, here⟩
  simp only at samePlaceholder here ⊢
  rw [samePlaceholder, here.parameterType?]

theorem Placeholder.check_of_sameParameters {args args' : List Parameter}
    (same : SameParameters config config' args args') (expression : String) :
    check expression args' context config'.registry = check expression args context config.registry := by
  have misfit := misfit_of_sameParameters same expression
  unfold check
  simp only [same.length_eq]
  generalize List.find? _ (List.zip _ args) = found at misfit ⊢
  generalize List.find? _ (List.zip _ args') = found' at misfit ⊢
  cases misfit with
  | none => rfl
  | some here =>
    rename_i pair pair'
    rcases pair with ⟨placeholder, argument⟩
    rcases pair' with ⟨placeholder', argument'⟩
    rcases here with ⟨samePlaceholder, here⟩
    simp only at samePlaceholder here ⊢
    rw [samePlaceholder, here.name, here.parameterType?]

structure Selector.SameUnder (config config' : Config) (selector selector' : Selector) : Prop where
  locator : selector'.locator = selector.locator
  parameters : SameParameters config config' selector.parameters selector'.parameters
  returnsAll : selector'.returnsAll = selector.returnsAll

theorem Selector.alike_read (value : Json) :
    Alike (Selector.SameUnder config config') (read value context config.registry)
      (read value context config'.registry) := by
  apply Alike.bind_same rfl
  intro fields
  apply Alike.bind_same rfl
  intro locator
  apply Alike.bind_same rfl
  intro args
  apply (Argument.alike_readAll args).bind
  intro parameters parameters' same
  apply Alike.bind_same (Placeholder.check_of_sameParameters same _)
  intro checked
  apply Alike.bind_same rfl
  intro returnsAll
  exact .ok ⟨rfl, same, rfl⟩

structure Predicate.SameUnder (config config' : Config) (predicate predicate' : Predicate) : Prop where
  applyMethod : predicate'.applyMethod = predicate.applyMethod
  applyParameters : SameParameters config config' predicate.applyParameters predicate'.applyParameters
  matcher : predicate'.matcher = predicate.matcher
  matcherParameters : SameParameters config config' predicate.matcherParameters predicate'.matcherParameters

structure Filter.SameUnder (config config' : Config) (filter filter' : Filter) : Prop where
  predicate : filter.predicate.SameUnder config config' filter'.predicate
  firstOnly : filter'.firstOnly = filter.firstOnly

namespace Filter

theorem checkArguments_of_sameParameters {args args' : List Parameter}
    (same : SameParameters config config' args args') (matcher : Matcher) :
    checkArguments matcher args' context config'.registry =
      checkArguments matcher args context config.registry := by
  unfold checkArguments
  rw [same.length_eq]
  cases matcher.argumentType? with
  | none => rfl
  | some expected =>
    have misfit : Option.Rel (Parameter.SameUnder config config')
        (args.find? fun argument => config.registry.parameterType? argument.type ≠ some expected)
        (args'.find? fun argument => config'.registry.parameterType? argument.type ≠ some expected) := by
      apply rel_find?_of_forall₂ same
      intro argument argument' here
      rw [here.parameterType?]
    simp only
    generalize args.find? _ = found at misfit ⊢
    generalize args'.find? _ = found' at misfit ⊢
    cases misfit with
    | none => rfl
    | some here =>
      simp only
      rw [here.name, here.parameterType?]

theorem alike_readMatcher (value : Json) :
    Alike (fun (found found' : Matcher × List Parameter) => found'.1 = found.1 ∧
        SameParameters config config' found.2 found'.2)
      (readMatcher value context config.registry) (readMatcher value context config'.registry) := by
  apply Alike.bind_same rfl
  intro fields
  apply Alike.bind_same rfl
  intro name
  cases Matcher.ofName? name with
  | none => exact .error _
  | some matcher =>
    apply Alike.bind_same rfl
    intro args
    apply (Argument.alike_readAll args).bind
    intro parameters parameters' same
    apply Alike.bind_same (checkArguments_of_sameParameters same matcher)
    intro checked
    exact .ok ⟨rfl, same⟩

theorem alike_read (value : Json) :
    Alike (Filter.SameUnder config config') (read value context config.registry)
      (read value context config'.registry) := by
  apply Alike.bind_same rfl
  intro fields
  apply Alike.bind_same rfl
  intro applyMethod
  cases Text.isIdentifier applyMethod with
  | false => exact .error _
  | true =>
    apply Alike.bind_same rfl
    intro args
    apply (Argument.alike_readAll args).bind
    intro applyParameters applyParameters' sameApply
    apply Alike.bind_same rfl
    intro matcherValue
    apply (alike_readMatcher matcherValue).bind
    rintro ⟨matcher, matcherParameters⟩ ⟨matcher', matcherParameters'⟩ ⟨rfl, sameMatcher⟩
    apply Alike.bind_same rfl
    intro firstOnly
    exact .ok ⟨⟨rfl, sameApply, rfl, sameMatcher⟩, rfl⟩

end Filter

inductive Cardinality.SameUnder (config config' : Config) : Cardinality → Cardinality → Prop where
  | single : Cardinality.SameUnder config config' .single .single
  | multiple : Cardinality.SameUnder config config' .multiple .multiple
  | filtered {predicate predicate' : Predicate} (same : predicate.SameUnder config config' predicate')
    (firstOnly : Bool) :
    Cardinality.SameUnder config config' (.filtered predicate firstOnly) (.filtered predicate' firstOnly)

inductive ElementKind.SameUnder : ElementKind → ElementKind → Prop where
  | basic : ElementKind.SameUnder .basic .basic
  | pageObject {type type' : NamedType} (same : type.WrittenAlike type') :
    ElementKind.SameUnder (.pageObject type) (.pageObject type')

structure Element.SameUnder (config config' : Config) (element element' : Element) : Prop where
  name : element'.name = element.name
  isPublic : element'.isPublic = element.isPublic
  isNullable : element'.isNullable = element.isNullable
  kind : element.kind.SameUnder element'.kind
  selector : element.selector.SameUnder config config' element'.selector
  cardinality : element.cardinality.SameUnder config config' element'.cardinality
  nested : element'.nested = element.nested

namespace Element

theorem alike_readKind (fields : Json.Fields) :
    Alike ElementKind.SameUnder (readKind fields context config.registry)
      (readKind fields context config'.registry) := by
  apply Alike.bind_same rfl
  intro reference?
  cases reference? with
  | none => exact .ok .basic
  | some reference =>
    simp only [Registry.pageObjectType]
    cases Reference.ofText? reference with
    | none => exact .error _
    | some parsed => exact .ok (.pageObject ⟨rfl, rfl⟩)

theorem alike_readFilter? (fields : Json.Fields) :
    Alike (Option.Rel (Filter.SameUnder config config')) (readFilter? fields context config.registry)
      (readFilter? fields context config'.registry) := by
  unfold readFilter?
  cases fields.value? "filter" with
  | none => exact .ok .none
  | some value => exact (Filter.alike_read value).map fun _ _ same => .some same

theorem alike_cardinalityOf {filter? filter?' : Option Filter}
    (same : Option.Rel (Filter.SameUnder config config') filter? filter?') (returnsAll : Bool) :
    Alike (Cardinality.SameUnder config config') (cardinalityOf returnsAll filter? context)
      (cardinalityOf returnsAll filter?' context) := by
  cases same with
  | none =>
    cases returnsAll with
    | false => exact .ok .single
    | true => exact .ok .multiple
  | @some filter filter' same =>
    cases returnsAll with
    | false => exact .error _
    | true =>
      simp only [cardinalityOf, same.firstOnly]
      exact .ok (.filtered same.predicate _)

theorem checkNesting_of_sameUnder {selector selector' : Selector} {kind kind' : ElementKind}
    (sameSelector : selector.SameUnder config config' selector') (sameKind : kind.SameUnder kind')
    (nested : Nested) : checkNesting nested selector' kind' context = checkNesting nested selector kind context := by
  unfold checkNesting nestingBar?
  rw [sameSelector.returnsAll]
  cases sameKind <;> rfl

theorem alike_read_of_config (node : Json) (path : String) :
    Alike (Element.SameUnder config config') (read node path config.registry)
      (read node path config'.registry) := by
  apply Alike.bind_same rfl
  intro fields
  apply Alike.bind_same rfl
  intro name
  apply (alike_readKind fields).bind
  intro kind kind' sameKind
  apply Alike.bind_same rfl
  intro isPublic
  apply Alike.bind_same rfl
  intro isNullable
  apply Alike.bind_same rfl
  intro selectorValue
  apply (Selector.alike_read selectorValue).bind
  intro selector selector' sameSelector
  apply (alike_readFilter? fields).bind
  intro filter? filter?' sameFilter
  rw [sameSelector.returnsAll]
  apply (alike_cardinalityOf sameFilter selector.returnsAll).bind
  intro cardinality cardinality' sameCardinality
  apply Alike.bind_same rfl
  intro nested
  apply Alike.bind_same (checkNesting_of_sameUnder sameSelector sameKind nested)
  intro checked
  exact .ok ⟨rfl, rfl, rfl, sameKind, sameSelector, sameCardinality, rfl⟩

end Element

end

end PageObject
