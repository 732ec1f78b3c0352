import PageObject.Event
import PageObject.Filter
import PageObject.Locator
import PageObject.Registry
import PageObject.Scope
import PageObject.Signature
import PageObject.Text.Uppercase

namespace PageObject

inductive Lookup where
  | basic
  | custom
deriving DecidableEq, Repr

def Lookup.method : Lookup → String
  | .basic => "basic"
  | .custom => "custom"

inductive Cardinality where
  | single
  | multiple
  | filtered (predicate : Predicate) (firstOnly : Bool)
deriving Repr

namespace Cardinality

def isList : Cardinality → Bool
  | .single => false
  | .multiple => true
  | .filtered _ firstOnly => !firstOnly

def predicate? : Cardinality → Option Predicate
  | .filtered predicate _ => some predicate
  | _ => none

def parameters (cardinality : Cardinality) : List Parameter :=
  (cardinality.predicate?.map Predicate.parameters).getD []

end Cardinality

/-- A method that returns elements: its signature, its two statements, and the types to import for
the method and for its signature alone. -/
structure Accessor where
  name : String
  isPublic : Bool
  parameters : List Parameter
  returnType : NamedType
  scopeLine : String
  returnLine : String
  imports : List NamedType
  signatureImports : List NamedType
deriving Repr

namespace Accessor

def nameFor (element : String) (isPublic : Bool) : String :=
  "get" ++ Text.capitalize element ++ if isPublic then "" else "Element"

def signature (accessor : Accessor) : String :=
  accessor.returnType.displayName ++ " " ++ accessor.name ++
    "(" ++ ", ".intercalate (accessor.parameters.map Parameter.declaration) ++ ")"

/-- The scope of the elements nested in the element that the accessor returns. The parameters of the
accessor include those of every scope around it. -/
def scope (accessor : Accessor) (element : String) (isNullable expandsShadowRoot : Bool) : Scope :=
  { name := element, getter := accessor.name, parameters := accessor.parameters, isNullable,
    expandsShadowRoot }

end Accessor

structure AccessorPlan where
  elementName : String
  isPublic : Bool
  lookup : Lookup
  elementType : NamedType
  locator : Locator
  locatorParameters : List Parameter
  scope : Scope
  cardinality : Cardinality
deriving Repr

namespace AccessorPlan

def name (plan : AccessorPlan) : String := Accessor.nameFor plan.elementName plan.isPublic

def returnType (plan : AccessorPlan) : NamedType :=
  if plan.cardinality.isList then plan.elementType.list else plan.elementType.element

def required (plan : AccessorPlan) : List Parameter :=
  plan.scope.parameters ++ plan.locatorParameters ++ plan.cardinality.parameters

def returnLine (plan : AccessorPlan) : String :=
  "return " ++ plan.lookup.method ++ "(" ++ plan.scope.name ++ ", " ++
    plan.locator.code plan.locatorParameters ++ ")." ++
    (if plan.cardinality.isList then "buildList" else "build") ++
    "(" ++ plan.elementType.simpleName ++ ".class" ++
    (match plan.cardinality.predicate? with
      | some predicate => ", " ++ predicate.code
      | none => "") ++ ")"

def merge (plan : AccessorPlan) : Signature.Merge :=
  ({ owner := "method '" ++ plan.name ++ "'" } : Signature).merge plan.required

def accessor (plan : AccessorPlan) (registry : Registry) (parameters : List Parameter) : Accessor :=
  { name := plan.name
    isPublic := plan.isPublic
    parameters
    returnType := plan.returnType
    scopeLine := plan.scope.declarationLine registry.basicElement
    returnLine := plan.returnLine
    imports :=
      registry.addImports (registry.addImports [] plan.returnType)
        registry.basicElement
    signatureImports := registry.addImports [] plan.returnType }

def build (plan : AccessorPlan) (registry : Registry) : Attempt Accessor :=
  let merge := plan.merge
  match merge.conflict with
  | some fault => ExceptT.mk ⟨.error fault, merge.events⟩
  | none =>
    let accessor := plan.accessor registry merge.signature.parameters
    let built := Event.builtAccessor accessor.name accessor.parameters.length accessor.returnType
    ExceptT.mk ⟨.ok accessor, merge.events ++ [built]⟩

end AccessorPlan

end PageObject
