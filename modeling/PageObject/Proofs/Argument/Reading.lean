import Mathlib.Data.List.Forall2
import PageObject.Argument
import PageObject.Json.Size
import PageObject.Proofs.Alike
import PageObject.Proofs.Property
import PageObject.Proofs.Registry

namespace PageObject

namespace Json

/-- The type of an argument: the one that its value has, or else the one that it declares. -/
def argumentType? (item : Json) : Option ParameterType :=
  match item.field? "value" with
  | some value => ParameterType.ofLiteral? value
  | none => ((item.field? "type").bind string?).bind ParameterType.ofName?

/-- The name of an argument. A value that has none is called by its text. -/
def argumentName? (item : Json) : Option String :=
  ((item.field? "name").bind string?).or ((item.field? "value").map text)

def parameter? (item : Json) (registry : Registry) : Option Parameter := do
  let name ← item.argumentName?
  let type ← item.argumentType?
  return { name, type := registry.typeOf type, literal := item.field? "value" }

theorem type_of_parameter? {item : Json} {registry : Registry} {parameter : Parameter}
    (written : item.parameter? registry = some parameter) :
    ∃ type, item.argumentType? = some type ∧ parameter.type = registry.typeOf type := by
  simp only [parameter?, Option.bind_eq_bind, Option.bind_eq_some_iff] at written
  rcases written with ⟨name, _, type, typed, h⟩
  cases h
  exact ⟨type, typed, rfl⟩

theorem name_of_parameter? {item : Json} {registry : Registry} {parameter : Parameter}
    (written : item.parameter? registry = some parameter) : item.argumentName? = some parameter.name := by
  simp only [parameter?, Option.bind_eq_bind, Option.bind_eq_some_iff] at written
  rcases written with ⟨name, named, type, _, h⟩
  cases h
  exact named

theorem literal_of_parameter? {item : Json} {registry : Registry} {parameter : Parameter}
    (written : item.parameter? registry = some parameter) : parameter.literal = item.field? "value" := by
  simp only [parameter?, Option.bind_eq_bind, Option.bind_eq_some_iff] at written
  rcases written with ⟨name, _, type, _, h⟩
  cases h
  rfl

end Json

theorem Config.parameterType?_of_written {config : Config} {item : Json} {parameter : Parameter}
    (written : item.parameter? config.registry = some parameter) :
    config.registry.parameterType? parameter.type = item.argumentType? := by
  rcases Json.type_of_parameter? written with ⟨type, typed, same⟩
  rw [same, config.parameterType?_typeOf, typed]

namespace Argument

variable {fields : Json.Fields} {context : String} {registry : Registry} {parameter : Parameter}

theorem declaredType_eq_ok_iff {name : String} {type : ParameterType} :
    declaredType name context = .ok type ↔ ParameterType.ofName? name = some type := by
  unfold declaredType
  cases ParameterType.ofName? name <;> simp

theorem name_eq_ok_iff {value : Json} {type : NamedType} :
    (do
        let name ← Property.string? fields "name" context
        pure { name := name.getD value.text, type, literal := some value }) = Except.ok parameter ↔
      ∃ name? : Option String, fields.value? "name" = name?.map Json.string ∧
        parameter = { name := name?.getD value.text, type, literal := some value } := by
  rw [bind_eq_ok_iff]
  constructor
  · rintro ⟨name?, read, h⟩
    cases h
    exact ⟨name?, Property.string?_eq_ok_iff.mp read, rfl⟩
  · rintro ⟨name?, read, rfl⟩
    exact ⟨name?, Property.string?_eq_ok_iff.mpr read, rfl⟩

theorem readLiteral_eq_ok_iff {value : Json} :
    readLiteral fields value context registry = .ok parameter ↔
      ∃ type, ParameterType.ofLiteral? value = some type ∧
        (fields.value? "type" = none ∨ fields.value? "type" = some (.string type.name)) ∧
        ∃ name? : Option String, fields.value? "name" = name?.map Json.string ∧
          parameter =
            { name := name?.getD value.text, type := registry.typeOf type, literal := some value } := by
  unfold readLiteral
  cases ParameterType.ofLiteral? value with
  | none => exact iff_of_false (by rintro ⟨⟩) (by simp)
  | some type =>
    simp only [pure_bind, bind_eq_ok_iff (x := Property.string? fields "type" context),
      Property.string?_eq_ok_iff, Option.some.injEq, exists_eq_left']
    constructor
    · rintro ⟨declared?, written, h⟩
      cases declared? with
      | none => exact ⟨.inl written, name_eq_ok_iff.mp h⟩
      | some name =>
        rcases exists_of_bind_eq_ok h with ⟨declared, known, h⟩
        split at h
        · cases h
        · rename_i same
          cases not_not.mp same
          rw [← ParameterType.name_of_ofName? (declaredType_eq_ok_iff.mp known)] at written
          exact ⟨.inr written, name_eq_ok_iff.mp h⟩
    · rintro ⟨absent | present, named⟩
      · exact ⟨none, absent, name_eq_ok_iff.mpr named⟩
      · refine ⟨some type.name, present, ?_⟩
        refine bind_eq_ok_iff.mpr ⟨type, declaredType_eq_ok_iff.mpr (ParameterType.ofName?_name type), ?_⟩
        rw [if_neg (not_not_intro rfl)]
        exact name_eq_ok_iff.mpr named

theorem readNamed_eq_ok_iff :
    readNamed fields context registry = .ok parameter ↔
      ∃ name type, fields.value? "name" = some (.string name) ∧ name ≠ "" ∧
        fields.value? "type" = some (.string (ParameterType.name type)) ∧
        parameter = { name, type := registry.typeOf type } := by
  unfold readNamed
  simp only [bind_eq_ok_iff, Property.string_eq_ok_iff, declaredType_eq_ok_iff]
  constructor
  · rintro ⟨name, ⟨named, filled⟩, typeName, ⟨typed, _⟩, type, known, h⟩
    cases h
    rw [← ParameterType.name_of_ofName? known] at typed
    exact ⟨name, type, named, filled, typed, rfl⟩
  · rintro ⟨name, type, named, filled, typed, rfl⟩
    have typeFilled : type.name ≠ "" := by cases type <;> decide
    exact ⟨name, ⟨named, filled⟩, type.name, ⟨typed, typeFilled⟩, type, ParameterType.ofName?_name type, rfl⟩

theorem parameter?_of_readLiteral {value : Json} (held : fields.get? "value" = some value)
    (found : readLiteral fields value context registry = .ok parameter) :
    (Json.object fields).parameter? registry = some parameter := by
  rcases readLiteral_eq_ok_iff.mp found with ⟨type, inferred, _, name?, named, rfl⟩
  have own : (fields.get? "name").bind Json.string? = name? := by
    rw [Json.Fields.get?_bind_string?, named]
    cases name? <;> rfl
  have name : (Json.object fields).argumentName? = some (name?.getD value.text) := by
    simp only [Json.argumentName?, Json.field?, own, held]
    cases name? <;> rfl
  simp [Json.parameter?, name, Json.argumentType?, Json.field?, held, inferred]

theorem parameter?_of_readNamed (noValue : fields.get? "value" = none)
    (found : readNamed fields context registry = .ok parameter) :
    (Json.object fields).parameter? registry = some parameter := by
  rcases readNamed_eq_ok_iff.mp found with ⟨name, type, named, _, typed, rfl⟩
  have name : (Json.object fields).argumentName? = some name := by
    simp [Json.argumentName?, Json.field?, Json.Fields.get?_of_value? named, Json.string?]
  have type : (Json.object fields).argumentType? = some type := by
    simp [Json.argumentType?, Json.field?, noValue, Json.Fields.get?_of_value? typed, Json.string?,
      ParameterType.ofName?_name]
  simp [Json.parameter?, name, type, Json.field?, noValue]

theorem parameter?_of_read {value : Json} {index : Nat}
    (found : read value index context registry = .ok parameter) :
    value.parameter? registry = some parameter := by
  rcases exists_of_bind_eq_ok found with ⟨fields, isObject, h⟩
  cases Property.fields_eq_ok_iff.mp isObject
  split at h
  · rename_i value held
    exact parameter?_of_readLiteral held h
  · rename_i noValue
    exact parameter?_of_readNamed noValue h

theorem parameters_of_readFrom {values : List Json} {index : Nat} {parameters : List Parameter}
    (found : readFrom context registry index values = .ok parameters) :
    List.Forall₂ (fun value parameter => value.parameter? registry = some parameter) values parameters := by
  induction values generalizing index parameters with
  | nil =>
    cases found
    exact .nil
  | cons value rest ih =>
    rcases exists_of_bind_eq_ok found with ⟨parameter, first, h⟩
    rcases exists_of_bind_eq_ok h with ⟨others, behind, h⟩
    cases h
    exact .cons (parameter?_of_read first) (ih behind)

theorem parameterTypes_of_written {config : Config} {items : List Json} {parameters : List Parameter}
    (written : List.Forall₂ (fun item parameter => item.parameter? config.registry = some parameter) items
      parameters) :
    (parameters.map fun parameter => config.registry.parameterType? parameter.type) =
      items.map Json.argumentType? :=
  map_eq_of_forall₂ written fun _ _ => Config.parameterType?_of_written

end Argument

end PageObject
