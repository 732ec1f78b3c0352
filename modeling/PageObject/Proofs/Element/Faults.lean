import PageObject.Element
import PageObject.Proofs.Fault

namespace PageObject

variable {fields : Json.Fields} {value : Json} {key property name context : String} {registry : Registry}

namespace Property

def forms : List (Nat × Nat) :=
  [(FaultCode.wrongShape, 3), (FaultCode.missingProperty, 2), (FaultCode.emptyString, 2)]

theorem fields_reports : Reports (Fault.Among forms) (Property.fields value context property) := by
  cases value with
  | object found => exact .ok _
  | _ => exact .site (by simp [forms])

theorem string?_reports : Reports (Fault.Among forms) (string? fields key context) := by
  unfold string?
  split
  · exact .ok _
  · exact .ok _
  · exact .site (by simp [forms])

theorem string_reports : Reports (Fault.Among forms) (string fields key context) := by
  apply string?_reports.bind
  intro found _
  cases found with
  | none => exact .site (by simp [forms])
  | some text =>
    simp only
    split
    · exact .site (by simp [forms])
    · exact .ok _

theorem flag_reports : Reports (Fault.Among forms) (flag fields key context) := by
  unfold flag
  split
  · exact .ok _
  · exact .ok _
  · exact .site (by simp [forms])

theorem items_reports : Reports (Fault.Among forms) (items fields key context) := by
  unfold items
  split
  · exact .ok _
  · exact .ok _
  · exact .site (by simp [forms])

theorem value_reports : Reports (Fault.Among forms) (Property.value fields key context) := by
  unfold Property.value
  split
  · exact .site (by simp [forms])
  · exact .ok _

end Property

namespace Argument

def forms : List (Nat × Nat) := (FaultCode.unsupportedType, 3) :: Property.forms

theorem propertyForms_subset : Property.forms ⊆ forms := List.subset_cons_self _ _

theorem declaredType_reports : Reports (Fault.Among forms) (declaredType name context) := by
  unfold declaredType
  split
  · exact .ok _
  · exact .site (by simp [forms])

theorem readLiteral_reports : Reports (Fault.Among forms) (readLiteral fields value context registry) := by
  have last (type : NamedType) : Reports (Fault.Among forms) (do
      let name ← Property.string? fields "name" context
      pure ({ name := name.getD value.text, type, literal := some value } : Parameter)) :=
    (Property.string?_reports.widen propertyForms_subset).bind fun _ _ => .ok _
  unfold readLiteral
  cases ParameterType.ofLiteral? value with
  | none => exact .site (by simp [forms])
  | some type =>
    apply (Property.string?_reports.widen propertyForms_subset).bind
    intro declared? _
    cases declared? with
    | none => exact last _
    | some name =>
      apply declaredType_reports.bind
      intro declared _
      split
      · exact .site (by simp [forms, Property.forms])
      · exact last _

theorem readNamed_reports : Reports (Fault.Among forms) (readNamed fields context registry) := by
  apply (Property.string_reports.widen propertyForms_subset).bind
  intro name _
  apply (Property.string_reports.widen propertyForms_subset).bind
  intro typeName _
  exact declaredType_reports.bind fun _ _ => .ok _

theorem read_reports {index : Nat} : Reports (Fault.Among forms) (read value index context registry) := by
  apply (Property.fields_reports.widen propertyForms_subset).bind
  intro fields _
  cases fields.get? "value" with
  | some literal => exact readLiteral_reports
  | none => exact readNamed_reports

theorem readFrom_reports {values : List Json} {index : Nat} :
    Reports (Fault.Among forms) (readFrom context registry index values) := by
  induction values generalizing index with
  | nil => exact .ok _
  | cons value rest ih => exact read_reports.bind fun _ _ => ih.bind fun _ _ => .ok _

theorem readAll_reports {values : List Json} :
    Reports (Fault.Among forms) (readAll values context registry) :=
  readFrom_reports

end Argument

namespace Locator

def forms : List (Nat × Nat) :=
  [(FaultCode.emptyString, 2), (FaultCode.noSelector, 1), (FaultCode.severalSelectors, 1)]

theorem ofExpressions_reports {expression? : Strategy → Option String} :
    Reports (Fault.Among forms) (ofExpressions expression?) := by
  unfold ofExpressions
  split
  · exact .site (by simp [forms])
  · split
    · exact .site (by simp [forms])
    · exact .ok _
    · exact .site (by simp [forms])

end Locator

namespace Placeholder

def forms : List (Nat × Nat) := [(FaultCode.placeholderCount, 4), (FaultCode.placeholderType, 4)]

theorem check_reports {expression : String} {args : List Parameter} :
    Reports (Fault.Among forms) (check expression args context registry) := by
  unfold check
  simp only
  split
  · exact .site (by simp [forms])
  · split
    · exact .site (by simp [forms])
    · exact .ok _

end Placeholder

namespace Selector

def locatorForms : List (Nat × Nat) := Property.forms ++ Locator.forms

def forms : List (Nat × Nat) := Argument.forms ++ Locator.forms ++ Placeholder.forms

theorem propertyForms_subset : Property.forms ⊆ forms := by decide

theorem readLocator_reports : Reports (Fault.Among locatorForms) (readLocator fields context) := by
  have expression (strategy : Strategy) :
      Reports (Fault.Among locatorForms) (Property.string? fields strategy.property (context ++ " selector")) :=
    Property.string?_reports.widen (List.subset_append_left _ _)
  apply (expression .css).bind
  intro css _
  apply (expression .accessId).bind
  intro accessId _
  apply (expression .classChain).bind
  intro classChain _
  apply (expression .uiAutomator).bind
  intro uiAutomator _
  exact Locator.ofExpressions_reports.widen (List.subset_append_right _ _)

theorem read_reports : Reports (Fault.Among forms) (read value context registry) := by
  apply (Property.fields_reports.widen propertyForms_subset).bind
  intro fields _
  apply (readLocator_reports.widen (by decide)).bind
  intro locator _
  apply (Property.items_reports.widen propertyForms_subset).bind
  intro args _
  apply (Argument.readAll_reports.widen (by decide)).bind
  intro parameters _
  apply (Placeholder.check_reports.widen (by decide)).bind
  intro _ _
  exact (Property.flag_reports.widen propertyForms_subset).bind fun _ _ => .ok _

end Selector

namespace Filter

def forms : List (Nat × Nat) :=
  Argument.forms ++ [(FaultCode.unknownMatcher, 3), (FaultCode.matcherCount, 4), (FaultCode.matcherType, 5),
    (FaultCode.invalidMethodName, 2)]

theorem propertyForms_subset : Property.forms ⊆ forms := by decide

theorem argumentForms_subset : Argument.forms ⊆ forms := List.subset_append_left _ _

theorem checkArguments_reports {matcher : Matcher} {args : List Parameter} :
    Reports (Fault.Among forms) (checkArguments matcher args context registry) := by
  unfold checkArguments
  split
  · exact .site (by simp [forms])
  · split
    · exact .ok _
    · split
      · exact .ok _
      · exact .site (by simp [forms])

theorem readMatcher_reports : Reports (Fault.Among forms) (readMatcher value context registry) := by
  apply (Property.fields_reports.widen propertyForms_subset).bind
  intro fields _
  apply (Property.string_reports.widen propertyForms_subset).bind
  intro name _
  cases Matcher.ofName? name with
  | none => exact .site (by simp [forms])
  | some matcher =>
    apply (Property.items_reports.widen propertyForms_subset).bind
    intro args _
    apply (Argument.readAll_reports.widen argumentForms_subset).bind
    intro parameters _
    exact checkArguments_reports.bind fun _ _ => .ok _

theorem read_reports : Reports (Fault.Among forms) (read value context registry) := by
  apply (Property.fields_reports.widen propertyForms_subset).bind
  intro fields _
  apply (Property.string_reports.widen propertyForms_subset).bind
  intro applyMethod _
  split
  · exact .site (by simp [forms])
  · apply (Property.items_reports.widen propertyForms_subset).bind
    intro args _
    apply (Argument.readAll_reports.widen argumentForms_subset).bind
    intro applyParameters _
    apply (Property.value_reports.widen propertyForms_subset).bind
    intro matcherValue _
    apply readMatcher_reports.bind
    intro matcher _
    exact (Property.flag_reports.widen propertyForms_subset).bind fun _ _ => .ok _

end Filter

theorem Registry.pageObjectType_reports {reference : String} :
    Reports (Fault.Among [(FaultCode.invalidReference, 2)]) (registry.pageObjectType reference context) := by
  unfold pageObjectType
  split
  · exact .ok _
  · exact .site (by simp)

theorem Nested.read_reports : Reports (Fault.Among Property.forms) (Nested.read fields context) := by
  have shadow : Reports (Fault.Among Property.forms) (readShadow fields context) := by
    unfold readShadow
    split
    · exact .ok _
    · exact Property.fields_reports.bind fun _ _ => Property.items_reports
  exact Property.items_reports.bind fun _ _ => shadow.bind fun _ _ => .ok _

namespace Element

def forms : List (Nat × Nat) :=
  Selector.forms ++ Filter.forms ++ [(FaultCode.invalidElementName, 2), (FaultCode.invalidReference, 2),
    (FaultCode.filterOfSingle, 1), (FaultCode.nestingNotAllowed, 2)]

theorem propertyForms_subset : Property.forms ⊆ forms := by decide

theorem readName_reports {path : String} : Reports (Fault.Among forms) (readName fields path) := by
  apply (Property.string_reports.widen propertyForms_subset).bind
  intro name _
  split
  · exact .ok _
  · exact .site (by simp [forms])

theorem readKind_reports : Reports (Fault.Among forms) (readKind fields context registry) := by
  apply (Property.string?_reports.widen propertyForms_subset).bind
  intro reference? _
  cases reference? with
  | none => exact .ok _
  | some reference => exact (Registry.pageObjectType_reports.widen (by decide)).bind fun _ _ => .ok _

theorem readFilter?_reports : Reports (Fault.Among forms) (readFilter? fields context registry) := by
  unfold readFilter?
  split
  · exact .ok _
  · exact (Filter.read_reports.widen (by decide)).map

theorem cardinalityOf_reports {returnsAll : Bool} {filter? : Option Filter} :
    Reports (Fault.Among forms) (cardinalityOf returnsAll filter? context) := by
  unfold cardinalityOf
  split
  · exact .ok _
  · exact .site (by simp [forms])
  · exact .ok _
  · exact .ok _

theorem checkNesting_reports {nested : Nested} {selector : Selector} {kind : ElementKind} :
    Reports (Fault.Among forms) (checkNesting nested selector kind context) := by
  unfold checkNesting
  split
  · exact .ok _
  · split
    · exact .site (by simp [forms])
    · exact .ok _

theorem read_reports {node : Json} {path : String} : Reports (Fault.Among forms) (read node path registry) := by
  apply (Property.fields_reports.widen propertyForms_subset).bind
  intro fields _
  apply readName_reports.bind
  intro name _
  apply readKind_reports.bind
  intro kind _
  apply (Property.flag_reports.widen propertyForms_subset).bind
  intro isPublic _
  apply (Property.flag_reports.widen propertyForms_subset).bind
  intro isNullable _
  apply (Property.value_reports.widen propertyForms_subset).bind
  intro selectorValue _
  apply (Selector.read_reports.widen (by decide)).bind
  intro selector _
  apply readFilter?_reports.bind
  intro filter? _
  apply cardinalityOf_reports.bind
  intro cardinality _
  apply (Nested.read_reports.widen propertyForms_subset).bind
  intro nested _
  exact checkNesting_reports.bind fun _ _ => .ok _

end Element

end PageObject
