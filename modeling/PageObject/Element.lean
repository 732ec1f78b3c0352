import PageObject.Accessor
import PageObject.Nested
import PageObject.Selector

namespace PageObject

inductive ElementKind where
  | basic
  | pageObject (type : NamedType)
deriving Repr

def ElementKind.lookup : ElementKind → Lookup
  | .basic => .basic
  | .pageObject _ => .custom

def ElementKind.type (registry : Registry) : ElementKind → NamedType
  | .basic => registry.basicElement
  | .pageObject type => type

structure Element where
  name : String
  isPublic : Bool
  isNullable : Bool
  kind : ElementKind
  selector : Selector
  cardinality : Cardinality
  nested : Nested
deriving Repr

namespace Element

def label (node : Json) (path : String) : String :=
  ((node.field? "name").bind Json.string?).getD path

def readName (fields : Json.Fields) (path : String) : Except Fault String := do
  let name ← Property.string fields "name" path
  if Text.isIdentifier name then return name
  else throw ⟨FaultCode.invalidElementName, [path, name]⟩

def readKind (fields : Json.Fields) (context : String) (registry : Registry) :
    Except Fault ElementKind := do
  match ← Property.string? fields "type" context with
  | none => return .basic
  | some reference => return .pageObject (← registry.pageObjectType reference context)

def readFilter? (fields : Json.Fields) (context : String) (registry : Registry) :
    Except Fault (Option Filter) :=
  match fields.value? "filter" with
  | none => .ok none
  | some value => (Filter.read value context registry).map some

def cardinalityOf (returnsAll : Bool) (filter? : Option Filter) (context : String) :
    Except Fault Cardinality :=
  match returnsAll, filter? with
  | false, none => .ok .single
  | false, some _ => .error ⟨FaultCode.filterOfSingle, [context]⟩
  | true, none => .ok .multiple
  | true, some filter => .ok (.filtered filter.predicate filter.firstOnly)

def nestingBar? (selector : Selector) (kind : ElementKind) : Option NestingBar :=
  if selector.returnsAll then some .returnsList
  else
    match kind with
    | .basic => none
    | .pageObject _ => some .hasPageObjectType

def checkNesting (nested : Nested) (selector : Selector) (kind : ElementKind) (context : String) :
    Except Fault Unit :=
  if nested.isEmpty then .ok ()
  else
    match nestingBar? selector kind with
    | some bar => .error ⟨FaultCode.nestingNotAllowed, [context, bar.text]⟩
    | none => .ok ()

/-- Reads an element node. Before its name is known, faults are reported at its path. -/
def read (node : Json) (path : String) (registry : Registry) : Except Fault Element := do
  let fields ← Property.fields node pageContext path
  let name ← readName fields path
  let context := "element '" ++ name ++ "'"
  let kind ← readKind fields context registry
  let isPublic ← Property.flag fields "public" context
  let isNullable ← Property.flag fields "nullable" context
  let selectorValue ← Property.value fields "selector" context
  let selector ← Selector.read selectorValue context registry
  let filter? ← readFilter? fields context registry
  let cardinality ← cardinalityOf selector.returnsAll filter? context
  let nested ← Nested.read fields context
  checkNesting nested selector kind context
  return { name, isPublic, isNullable, kind, selector, cardinality, nested }

theorem totalSize_nested_lt {node : Json} {path : String} {registry : Registry} {element : Element}
    (h : read node path registry = .ok element) : element.nested.totalSize < sizeOf node := by
  cases node <;> try cases h
  rename_i fields
  obtain ⟨_, hFields, h⟩ := exists_of_bind_eq_ok h
  cases hFields
  obtain ⟨_, _, h⟩ := exists_of_bind_eq_ok h
  obtain ⟨_, _, h⟩ := exists_of_bind_eq_ok h
  obtain ⟨_, _, h⟩ := exists_of_bind_eq_ok h
  obtain ⟨_, _, h⟩ := exists_of_bind_eq_ok h
  obtain ⟨_, _, h⟩ := exists_of_bind_eq_ok h
  obtain ⟨_, _, h⟩ := exists_of_bind_eq_ok h
  obtain ⟨_, _, h⟩ := exists_of_bind_eq_ok h
  obtain ⟨_, _, h⟩ := exists_of_bind_eq_ok h
  obtain ⟨_, hNested, h⟩ := exists_of_bind_eq_ok h
  obtain ⟨_, _, h⟩ := exists_of_bind_eq_ok h
  cases h
  exact Nat.lt_of_lt_of_le (Nested.totalSize_read_lt hNested)
    (by rw [Json.object.sizeOf_spec]; omega)

def plan (element : Element) (scope : Scope) (registry : Registry) : AccessorPlan :=
  { elementName := element.name
    isPublic := element.isPublic
    lookup := element.kind.lookup
    elementType := element.kind.type registry
    locator := element.selector.locator
    locatorParameters := element.selector.parameters
    scope
    cardinality := element.cardinality }

def accessorName (element : Element) : String := Accessor.nameFor element.name element.isPublic

def compile (node : Json) (scope : Scope) (registry : Registry) : Attempt Accessor := do
  let element ← Element.read node "element" registry
  (element.plan scope registry).build registry

end Element

end PageObject
