import PageObject.Proofs.Argument.Reading
import PageObject.Proofs.Text.Constant
import PageObject.Proofs.Text.Numeral

namespace PageObject

/-- An `Integer` of generated code has 32 bits, one of them for the sign. -/
def InIntegerRange (n : Int) : Prop := -2147483648 ≤ n ∧ n ≤ 2147483647

instance (n : Int) : Decidable (InIntegerRange n) := inferInstanceAs (Decidable (_ ∧ _))

namespace NamedType

/-- The value that a text stands for as a constant of a type. Only the built-in types have constants. -/
def constant? (type : NamedType) (code : String) : Option Json :=
  if type = { simpleName := "String" } then
    match Text.readConstant? code.toList with
    | some (text, []) => some (.string (String.ofList text))
    | _ => none
  else if type = { simpleName := "Boolean" } then
    if code = "true" then some (.bool true) else if code = "false" then some (.bool false) else none
  else if type = { simpleName := "Integer" } then
    match Text.readNumeral? code.toList with
    | some n => if InIntegerRange n then some (.number (.int n)) else none
    | none => none
  else none

end NamedType

namespace Argument

variable {registry : Registry} {value : Json} {type : ParameterType}

theorem constant?_quote (text : String) :
    (registry.typeOf .string).constant? (Text.quote text) = some (.string text) := by
  have read := Text.readConstant?_quote_append text []
  rw [List.append_nil] at read
  simp only [Registry.typeOf, NamedType.constant?, if_true, read, String.ofList_toList]

theorem constant?_toString (n : Int) :
    (registry.typeOf .number).constant? (toString n) =
      if InIntegerRange n then some (.number (.int n)) else none := by
  simp only [Registry.typeOf, NamedType.constant?, Text.readNumeral?_toString]
  rfl

theorem constant?_truth (truth : Bool) :
    (registry.typeOf .boolean).constant? (Json.bool truth).text = some (.bool truth) := by
  cases truth <;> rfl

theorem constant?_text_iff (inferred : ParameterType.ofLiteral? value = some type) :
    (registry.typeOf type).constant? value.text = some value ↔ ∀ n, value = .number (.int n) → InIntegerRange n := by
  cases value with
  | string text =>
    cases inferred
    exact iff_of_true (constant?_quote text) nofun
  | bool truth =>
    cases inferred
    exact iff_of_true (constant?_truth truth) nofun
  | number number =>
    cases number with
    | int n =>
      cases inferred
      have written : (Json.number (.int n)).text = toString n := String.ofList_toList
      rw [written, constant?_toString]
      by_cases fits : InIntegerRange n <;> simp [fits]
    | float negative magnitude => cases inferred
  | null | array items | object fields => cases inferred

theorem typeOf_of_literal {item : Json} {parameter : Parameter} (written : item.parameter? registry = some parameter)
    (given : parameter.literal = some value) :
    ∃ type, ParameterType.ofLiteral? value = some type ∧ parameter.type = registry.typeOf type := by
  rcases Json.type_of_parameter? written with ⟨type, typed, same⟩
  rw [Json.literal_of_parameter? written] at given
  rw [Json.argumentType?, given] at typed
  exact ⟨type, typed, same⟩

/-- What is passed for a literal of an accepted list is a constant of its type that stands for the value given in its
place, if and only if the value is no number out of range. Such a number is passed as its numeral all the same. -/
theorem constant?_argumentText_iff {values : List Json} {context : String} {parameters : List Parameter}
    (found : readAll values context registry = .ok parameters) :
    List.Forall₂ (fun item parameter => parameter.literal = item.field? "value" ∧
      ∀ value, parameter.literal = some value →
        (parameter.type.constant? parameter.argumentText = some value ↔
          ∀ n, value = .number (.int n) → InIntegerRange n) ∧
        ∀ n, value = .number (.int n) → parameter.type = registry.typeOf .number ∧
          Text.readNumeral? parameter.argumentText.toList = some n) values parameters := by
  refine (parameters_of_readFrom found).imp fun item parameter written => ?_
  refine ⟨Json.literal_of_parameter? written, fun value given => ?_⟩
  have passed : parameter.argumentText = value.text := by rw [Parameter.argumentText, given]
  rcases typeOf_of_literal written given with ⟨type, inferred, same⟩
  rw [passed, same]
  refine ⟨constant?_text_iff inferred, ?_⟩
  rintro n rfl
  cases inferred
  have numeral : (Json.number (.int n)).text = toString n := String.ofList_toList
  exact ⟨rfl, by rw [numeral, Text.readNumeral?_toString]⟩

def edgeArguments : List Json := [
  .object [("value", .number (.int 2147483647))],
  .object [("name", .string "index"), ("type", .string "number")],
  .object [("name", .string "least"), ("value", .number (.int (-2147483648)))],
  .object [("value", .string "say \"hi\"\n"), ("type", .string "string")],
  .object [("value", .bool false)]]

theorem constant?_argumentText_iff_edges :
    ∃ greatest index least title shown,
      readAll edgeArguments "element 'row'" .standard = .ok [greatest, index, least, title, shown] ∧
      argumentList [greatest, index, least, title, shown] =
        "2147483647, index, -2147483648, \"say \\\"hi\\\"\\n\", false" ∧
      greatest.type.constant? greatest.argumentText = some (.number (.int 2147483647)) ∧
      index.literal = none ∧
      least.type.constant? least.argumentText = some (.number (.int (-2147483648))) ∧
      title.type.constant? title.argumentText = some (.string "say \"hi\"\n") ∧
      shown.type.constant? shown.argumentText = some (.bool false) := by
  cases found : readAll edgeArguments "element 'row'" .standard with
  | error fault => cases found
  | ok parameters =>
    have denoted := constant?_argumentText_iff found
    cases found
    rcases denoted with _ | ⟨greatest, _ | ⟨index, _ | ⟨least, _ | ⟨title, _ | ⟨shown, _⟩⟩⟩⟩⟩
    refine ⟨_, _, _, _, _, rfl, by decide, (greatest.2 _ rfl).1.mpr ?_, rfl, (least.2 _ rfl).1.mpr ?_,
      (title.2 _ rfl).1.mpr nofun, (shown.2 _ rfl).1.mpr nofun⟩
    · rintro n ⟨⟩
      decide
    · rintro n ⟨⟩
      decide

/-- A number beyond 32 bits is accepted as an `Integer`, of which its numeral is no constant. -/
theorem not_forall_constant?_argumentText :
    ¬ ∀ (values : List Json) (context : String) (registry : Registry) (parameters : List Parameter),
      readAll values context registry = .ok parameters →
        ∀ parameter ∈ parameters, ∀ value, parameter.literal = some value →
          parameter.type.constant? parameter.argumentText = some value := by
  intro all
  have denoted : ({ simpleName := "Integer" } : NamedType).constant? "2147483648" = _ :=
    all [.object [("value", .number (.int 2147483648))]] "element 'row'" .standard
      [{ name := "2147483648", type := { simpleName := "Integer" }, literal := some (.number (.int 2147483648)) }] rfl
      _ List.mem_cons_self _ rfl
  have unread : ({ simpleName := "Integer" } : NamedType).constant? "2147483648" = none := by decide
  rw [unread] at denoted
  cases denoted

end Argument

end PageObject
