import PageObject.Fault

namespace PageObject

inductive Shape where
  | object
  | string
  | boolean
  | array
  | literal (type : ParameterType)
deriving DecidableEq, Repr

@[simp] def Shape.text : Shape → String
  | .object => "an object"
  | .string => "a string"
  | .boolean => "a boolean"
  | .array => "an array"
  | .literal type => "a " ++ type.name ++ " literal"

namespace Fault

abbrev emptyString (context property : String) : Fault := ⟨FaultCode.emptyString, [context, property]⟩

abbrev missingProperty (context property : String) : Fault := ⟨FaultCode.missingProperty, [context, property]⟩

abbrev noSelector : Fault := ⟨FaultCode.noSelector, [Strategy.supported]⟩

abbrev severalSelectors : Fault := ⟨FaultCode.severalSelectors, [Strategy.supported]⟩

abbrev placeholderType (context parameter : String) (actual : Option ParameterType) (expected : ParameterType) :
    Fault :=
  ⟨FaultCode.placeholderType, [context, parameter, actualTypeName actual, expected.name]⟩

abbrev parameterConflict (owner parameter declaredType conflictingType : String) : Fault :=
  ⟨FaultCode.parameterConflict, [owner, parameter, declaredType, conflictingType]⟩

abbrev unknownMatcher (context name : String) : Fault :=
  ⟨FaultCode.unknownMatcher, [context, name, Matcher.supported]⟩

abbrev matcherCount (context : String) (matcher : Matcher) (actual : Nat) : Fault :=
  ⟨FaultCode.matcherCount, [context, matcher.name, toString matcher.arity, toString actual]⟩

abbrev wrongShape (context property : String) (expected : Shape) : Fault :=
  ⟨FaultCode.wrongShape, [context, property, expected.text]⟩

abbrev duplicateAccessor (element accessor : String) : Fault :=
  ⟨FaultCode.duplicateAccessor, [pageContext, element, accessor]⟩

abbrev filterOfSingle (context : String) : Fault := ⟨FaultCode.filterOfSingle, [context]⟩

abbrev invalidReference (context reference : String) : Fault :=
  ⟨FaultCode.invalidReference, [context, reference]⟩

abbrev nestingNotAllowed (context : String) (bar : NestingBar) : Fault :=
  ⟨FaultCode.nestingNotAllowed, [context, bar.text]⟩

abbrev unsupportedProperty (context property : String) : Fault :=
  ⟨FaultCode.unsupportedProperty, [context, property]⟩

abbrev matcherType (context : String) (matcher : Matcher) (parameter : String) (actual : Option ParameterType)
    (expected : ParameterType) : Fault :=
  ⟨FaultCode.matcherType, [context, matcher.name, parameter, actualTypeName actual, expected.name]⟩

abbrev invalidElementName (context name : String) : Fault := ⟨FaultCode.invalidElementName, [context, name]⟩

abbrev invalidMethodName (context name : String) : Fault := ⟨FaultCode.invalidMethodName, [context, name]⟩

end Fault

/-- A reading reports no faults but those of a kind. -/
def Reports {α : Type} (Kind : Fault → Prop) (x : Except Fault α) : Prop :=
  ∀ fault, x = .error fault → Kind fault

namespace Reports

variable {α β : Type} {Kind Other : Fault → Prop} {x : Except Fault α}

theorem ok (a : α) : Reports Kind (.ok a) := by
  intro fault h
  cases h

theorem error {fault : Fault} (kind : Kind fault) : Reports Kind (.error fault : Except Fault α) := by
  intro other h
  cases h
  exact kind

theorem bind {f : α → Except Fault β} (first : Reports Kind x)
    (next : ∀ a, x = .ok a → Reports Kind (f a)) : Reports Kind (x >>= f) := by
  cases x with
  | error fault => exact error (first fault rfl)
  | ok a => exact next a rfl

theorem map {f : α → β} (reports : Reports Kind x) : Reports Kind (x.map f) := by
  cases x with
  | error fault => exact error (reports fault rfl)
  | ok a => exact ok (f a)

theorem mono (reports : Reports Kind x) (wider : ∀ fault, Kind fault → Other fault) : Reports Other x :=
  fun fault h => wider fault (reports fault h)

end Reports

/-- The form of a fault: its code, and the number of its arguments. -/
def Fault.form (fault : Fault) : Nat × Nat := (fault.code, fault.args.length)

def Fault.Among (forms : List (Nat × Nat)) (fault : Fault) : Prop := fault.form ∈ forms

section Among

variable {α : Type} {forms others : List (Nat × Nat)} {x : Except Fault α}

theorem Reports.site {code : Nat} {args : List String} (listed : (code, args.length) ∈ forms) :
    Reports (Fault.Among forms) (.error ⟨code, args⟩ : Except Fault α) :=
  .error listed

theorem Reports.widen (reports : Reports (Fault.Among forms) x) (within : forms ⊆ others) :
    Reports (Fault.Among others) x :=
  reports.mono fun _ among => within among

end Among

end PageObject
