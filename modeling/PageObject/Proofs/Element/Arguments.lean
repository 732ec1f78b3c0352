import PageObject.Proofs.Argument.Reading
import PageObject.Proofs.Element.Reading
import PageObject.Proofs.Filter.Reading
import PageObject.Proofs.Selector.Reading

namespace PageObject

structure DeclaredArgument where
  name : String
  type : ParameterType
deriving DecidableEq, Repr

namespace DeclaredArgument

def parameter (registry : Registry) (declared : DeclaredArgument) : Parameter :=
  { name := declared.name, type := registry.typeOf declared.type }

def Agrees (declared other : DeclaredArgument) : Prop :=
  declared.name = other.name → declared.type.name = other.type.name

instance (declared other : DeclaredArgument) : Decidable (declared.Agrees other) :=
  inferInstanceAs (Decidable (_ → _))

/-- The first declaration that disagrees with an earlier one, and the first one of its name. -/
def FirstClash (declarations : List DeclaredArgument) (first clash : DeclaredArgument) : Prop :=
  ∃ before after, declarations = before ++ clash :: after ∧ before.Pairwise Agrees ∧
    before.find? (fun declared => declared.name = clash.name) = some first ∧
    first.type.name ≠ clash.type.name

end DeclaredArgument

namespace Json

/-- The declaration in an item of an argument list, unless the item is a literal. -/
def declaredArgument? (item : Json) : Option DeclaredArgument :=
  match item.field? "value" with
  | some _ => none
  | none => do
    let name ← (item.field? "name").bind string?
    let typeName ← (item.field? "type").bind string?
    let type ← ParameterType.ofName? typeName
    return ⟨name, type⟩

def declaredArguments (value : Json) : List DeclaredArgument :=
  match value.field? "args" with
  | some (.array items) => items.filterMap declaredArgument?
  | _ => []

def declaredIn (value : Json) (key : String) : List DeclaredArgument :=
  ((value.field? key).map declaredArguments).getD []

theorem declaredIn_of_field? {value inner : Json} {key : String} (held : value.field? key = some inner) :
    value.declaredIn key = inner.declaredArguments := by
  rw [declaredIn, held]
  rfl

def selectorArguments (node : Json) : List DeclaredArgument := node.declaredIn "selector"

def filterArguments (node : Json) : List DeclaredArgument :=
  node.declaredIn "filter" ++ (((node.field? "filter").map fun filter => filter.declaredIn "matcher").getD [])

end Json

def Parameter.named (parameters : List Parameter) : List Parameter :=
  parameters.filter fun parameter => !parameter.isLiteral

theorem Parameter.named_append (parameters others : List Parameter) :
    named (parameters ++ others) = named parameters ++ named others :=
  List.filter_append ..

theorem DeclaredArgument.parameter_mem_of_named {registry : Registry} {parameters : List Parameter}
    {declarations : List DeclaredArgument} {declared : DeclaredArgument}
    (named : Parameter.named parameters = declarations.map (parameter registry))
    (member : declared ∈ declarations) : declared.parameter registry ∈ parameters := by
  have inside : declared.parameter registry ∈ Parameter.named parameters := by
    rw [named]
    exact List.mem_map_of_mem member
  exact (List.mem_filter.mp inside).1

theorem Parameter.isLiteral_of_mem_named {parameters : List Parameter} {parameter : Parameter}
    (member : parameter ∈ Parameter.named parameters) : parameter.isLiteral = false := by
  simpa using (List.mem_filter.mp member).2

theorem Parameter.named_eq_self {parameters : List Parameter}
    (named : ∀ parameter ∈ parameters, parameter.isLiteral = false) : Parameter.named parameters = parameters :=
  List.filter_eq_self.mpr fun parameter member => by rw [named parameter member]; rfl

namespace Argument

variable {context : String} {registry : Registry}

theorem isLiteral_of_readLiteral {fields : Json.Fields} {value : Json} {parameter : Parameter}
    (h : readLiteral fields value context registry = .ok parameter) : parameter.isLiteral = true := by
  rcases readLiteral_eq_ok_iff.mp h with ⟨type, _, _, name?, _, rfl⟩
  rfl

theorem declared_of_readNamed {fields : Json.Fields} {parameter : Parameter}
    (h : readNamed fields context registry = .ok parameter) (noLiteral : fields.get? "value" = none) :
    ∃ declared, (Json.object fields).declaredArgument? = some declared ∧
      parameter = declared.parameter registry := by
  rcases readNamed_eq_ok_iff.mp h with ⟨name, type, named, _, typed, rfl⟩
  refine ⟨⟨name, type⟩, ?_, rfl⟩
  simp [Json.declaredArgument?, Json.field?, noLiteral, Json.Fields.get?_of_value? named,
    Json.Fields.get?_of_value? typed, Json.string?, ParameterType.ofName?_name]

theorem named_of_read {value : Json} {index : Nat} {parameter : Parameter}
    (found : read value index context registry = .ok parameter) :
    Parameter.named [parameter] =
      value.declaredArgument?.toList.map (DeclaredArgument.parameter registry) := by
  rcases exists_of_bind_eq_ok found with ⟨fields, isObject, h⟩
  cases Property.fields_eq_ok_iff.mp isObject
  split at h
  · rename_i literal present
    have isLiteral := isLiteral_of_readLiteral h
    have none : (Json.object fields).declaredArgument? = none := by
      simp [Json.declaredArgument?, Json.field?, present]
    rw [none]
    simp [Parameter.named, isLiteral]
  · rename_i absent
    rcases declared_of_readNamed h absent with ⟨declared, declares, rfl⟩
    rw [declares]
    rfl

theorem named_of_readFrom {values : List Json} {index : Nat} {parameters : List Parameter}
    (h : readFrom context registry index values = .ok parameters) :
    Parameter.named parameters =
      (values.filterMap Json.declaredArgument?).map (DeclaredArgument.parameter registry) := by
  induction values generalizing index parameters with
  | nil =>
    cases h
    rfl
  | cons value rest ih =>
    rcases exists_of_bind_eq_ok h with ⟨parameter, first, h⟩
    rcases exists_of_bind_eq_ok h with ⟨others, behind, h⟩
    cases h
    rw [← List.singleton_append, Parameter.named_append, named_of_read first, ih behind,
      List.filterMap_cons]
    cases value.declaredArgument? <;> rfl

theorem named_of_readAll {fields : Json.Fields} {items : List Json} {parameters : List Parameter}
    {outer : String} (found : Property.items fields "args" outer = .ok items)
    (h : readAll items context registry = .ok parameters) :
    Parameter.named parameters =
      (Json.object fields).declaredArguments.map (DeclaredArgument.parameter registry) := by
  rw [named_of_readFrom h]
  congr 1
  unfold Json.declaredArguments
  rcases Property.items_eq_ok_iff.mp found with ⟨absent, rfl⟩ | present
  · split
    · rename_i items held
      simp only [Json.field?] at held
      simp [Json.Fields.value?, held, Json.isNull] at absent
    · rfl
  · simp [Json.field?, Json.Fields.get?_of_value? present]

end Argument

variable {context : String} {registry : Registry}

theorem Selector.named_of_read {value : Json} {selector : Selector}
    (found : Selector.read value context registry = .ok selector) :
    Parameter.named selector.parameters =
      value.declaredArguments.map (DeclaredArgument.parameter registry) := by
  rcases Selector.read_eq_ok_iff.mp found with ⟨fields, rfl, declared⟩
  rcases declared.parameters with ⟨items, hItems, hParameters⟩
  exact Argument.named_of_readAll hItems hParameters

namespace Filter

theorem named_of_readMatcher {value : Json} {matcher : Matcher} {parameters : List Parameter}
    (found : readMatcher value context registry = .ok (matcher, parameters)) :
    Parameter.named parameters =
      value.declaredArguments.map (DeclaredArgument.parameter registry) := by
  rcases readMatcher_eq_ok_iff.mp found with ⟨fields, rfl, named, ⟨items, hItems, hParameters⟩, checked⟩
  exact Argument.named_of_readAll hItems hParameters

theorem named_applyParameters_of_read {value : Json} {filter : Filter}
    (found : Filter.read value context registry = .ok filter) :
    Parameter.named filter.predicate.applyParameters =
      value.declaredArguments.map (DeclaredArgument.parameter registry) := by
  rcases read_eq_ok_iff.mp found with ⟨fields, rfl, declared⟩
  rcases declared.applyParameters with ⟨items, hItems, hParameters⟩
  exact Argument.named_of_readAll hItems hParameters

theorem named_of_read {value : Json} {filter : Filter}
    (found : Filter.read value context registry = .ok filter) :
    Parameter.named filter.predicate.parameters =
      (value.declaredArguments ++ value.declaredIn "matcher").map
        (DeclaredArgument.parameter registry) := by
  have applied := named_applyParameters_of_read found
  rcases read_eq_ok_iff.mp found with ⟨fields, rfl, declared⟩
  rcases declared.matcher with ⟨matcherValue, held, hMatcher⟩
  have present : (Json.object fields).field? "matcher" = some matcherValue := held
  rw [Predicate.parameters, Parameter.named_append, applied, named_of_readMatcher hMatcher, List.map_append,
    Json.declaredIn_of_field? present]

end Filter

namespace Element

variable {fields : Json.Fields} {element : Element}

theorem predicate?_of_cardinalityOf {returnsAll : Bool} {filter? : Option Filter}
    {cardinality : Cardinality} (h : cardinalityOf returnsAll filter? context = .ok cardinality) :
    cardinality.predicate? = filter?.map Filter.predicate := by
  unfold cardinalityOf at h
  split at h <;> cases h <;> rfl

theorem parameters_of_cardinalityOf {returnsAll : Bool} {filter? : Option Filter}
    {cardinality : Cardinality} (h : cardinalityOf returnsAll filter? context = .ok cardinality) :
    cardinality.parameters = (filter?.map fun filter => filter.predicate.parameters).getD [] := by
  rw [Cardinality.parameters, predicate?_of_cardinalityOf h, Option.map_map]
  rfl

theorem cardinalityOf_single_eq_ok_iff {filter? : Option Filter} {cardinality : Cardinality} :
    cardinalityOf false filter? context = .ok cardinality ↔ filter? = none ∧ cardinality = .single := by
  cases filter? <;> simp [cardinalityOf, eq_comm]

theorem readFilter?_eq_ok_iff {filter? : Option Filter} :
    readFilter? fields context registry = .ok filter? ↔
      (fields.value? "filter" = none ∧ filter? = none) ∨
        ∃ value filter, fields.value? "filter" = some value ∧
          Filter.read value context registry = .ok filter ∧ filter? = some filter := by
  unfold readFilter?
  cases fields.value? "filter" with
  | none => simp [eq_comm]
  | some value => cases read : Filter.read value context registry <;> simp [read, Except.map, eq_comm]

theorem named_of_readFilter? {filter? : Option Filter}
    (found : readFilter? fields context registry = .ok filter?) :
    Parameter.named ((filter?.map fun filter => filter.predicate.parameters).getD []) =
      (Json.object fields).filterArguments.map (DeclaredArgument.parameter registry) := by
  rcases readFilter?_eq_ok_iff.mp found with ⟨absent, rfl⟩ | ⟨value, filter, present, read, rfl⟩
  · cases held : fields.get? "filter" with
    | none => simp [Json.filterArguments, Json.declaredIn, Json.field?, held, Parameter.named]
    | some value =>
      cases value <;> simp [Json.Fields.value?, held, Json.isNull] at absent
      simp [Json.filterArguments, Json.declaredIn, Json.declaredArguments, Json.field?, held,
        Parameter.named]
  · have held : (Json.object fields).field? "filter" = some value := Json.Fields.get?_of_value? present
    rw [Json.filterArguments, Json.declaredIn_of_field? held, held]
    exact Filter.named_of_read read

theorem exists_filter_of_read {node : Json} {path : String} {predicate : Predicate}
    (found : read node path registry = .ok element)
    (filtered : element.cardinality.predicate? = some predicate) :
    ∃ value filter, node.field? "filter" = some value ∧
      Filter.read value element.context registry = .ok filter ∧ filter.predicate = predicate := by
  rcases read_eq_ok_iff.mp found with ⟨fields, rfl, declared⟩
  rcases declared.cardinality with ⟨filter?, read, chosen⟩
  rw [predicate?_of_cardinalityOf chosen] at filtered
  rcases readFilter?_eq_ok_iff.mp read with ⟨absent, rfl⟩ | ⟨value, filter, present, readFrom, rfl⟩
  · cases filtered
  · cases filtered
    exact ⟨value, filter, Json.Fields.get?_of_value? present, readFrom, rfl⟩

theorem count_of_read {node : Json} {path : String} {predicate : Predicate}
    (found : read node path registry = .ok element)
    (filtered : element.cardinality.predicate? = some predicate) :
    predicate.matcherParameters.length = predicate.matcher.arity := by
  rcases exists_filter_of_read found filtered with ⟨value, filter, held, read, rfl⟩
  exact (Filter.checkArguments_eq_ok_iff.mp (Filter.checked_of_read read)).1

theorem named_of_read {node : Json} {path : String} (found : read node path registry = .ok element) :
    Parameter.named element.selector.parameters =
        node.selectorArguments.map (DeclaredArgument.parameter registry) ∧
      Parameter.named element.cardinality.parameters =
        node.filterArguments.map (DeclaredArgument.parameter registry) := by
  rcases read_eq_ok_iff.mp found with ⟨fields, rfl, declared⟩
  constructor
  · rcases declared.selector with ⟨value, present, read⟩
    have held : (Json.object fields).field? "selector" = some value := present
    rw [Selector.named_of_read read, Json.selectorArguments, Json.declaredIn_of_field? held]
  · rcases declared.cardinality with ⟨filter?, read, chosen⟩
    rw [parameters_of_cardinalityOf chosen, named_of_readFilter? read]

theorem nestingBar?_of_nested {node : Json} {path : String}
    (found : read node path registry = .ok element) (inhabited : element.nested.isEmpty = false) :
    nestingBar? element.selector element.kind = none := by
  rcases read_eq_ok_iff.mp found with ⟨fields, rfl, declared⟩
  have nesting := declared.nesting
  unfold checkNesting at nesting
  rw [inhabited] at nesting
  cases barred : nestingBar? element.selector element.kind with
  | none => rfl
  | some bar =>
    rw [barred] at nesting
    cases nesting

theorem single_of_nested {node : Json} {path : String} (found : read node path registry = .ok element)
    (inhabited : element.nested.isEmpty = false) :
    element.kind = .basic ∧ element.cardinality = .single := by
  have free := nestingBar?_of_nested found inhabited
  unfold nestingBar? at free
  rcases read_eq_ok_iff.mp found with ⟨fields, rfl, declared⟩
  rcases declared.cardinality with ⟨filter?, read, chosen⟩
  cases all : element.selector.returnsAll with
  | true => simp [all] at free
  | false =>
    rw [all] at chosen free
    refine ⟨?_, (cardinalityOf_single_eq_ok_iff.mp chosen).2⟩
    cases kind : element.kind with
    | basic => rfl
    | pageObject type => simp [kind] at free

theorem filterArguments_of_nested {node : Json} {path : String}
    (found : read node path registry = .ok element) (inhabited : element.nested.isEmpty = false) :
    node.filterArguments = [] := by
  have named := (named_of_read found).2
  rw [(single_of_nested found inhabited).2] at named
  exact List.map_eq_nil_iff.mp named.symm

end Element

end PageObject
