import PageObject.Proofs.Accessor.Statements
import PageObject.Proofs.Argument.Reading
import PageObject.Proofs.Breach
import PageObject.Proofs.Filter.Reading

namespace PageObject

namespace Json.Fields

def matcher? (fields : Fields) : Option Matcher :=
  ((fields.value? "type").bind string?).bind Matcher.ofName?

/-- What an accepted matcher node says: one of the matchers, with as many arguments as it takes, of its type. -/
structure WritesMatcher (fields : Fields) (matcher : Matcher) (context : String) (registry : Registry) :
    Prop where
  written : fields.value? "type" = some (.string matcher.name)
  args : fields.Fits "args" .array
  arguments : ∃ parameters,
    Argument.readAll (fields.items "args") (context ++ " matcher") registry = .ok parameters
  count : (fields.items "args").length = matcher.arity
  types : ∀ expected, matcher.argumentType? = some expected →
    ∀ item ∈ fields.items "args", item.argumentType? = some expected

/-- What an accepted filter says: a method to apply with its arguments, and a matcher. -/
structure WritesFilter (fields : Fields) (context : String) (registry : Registry) : Prop where
  applyMethod : ∃ name, fields.value? "apply" = some (.string name) ∧ name ≠ "" ∧ Text.isIdentifier name
  args : fields.Fits "args" .array
  arguments : ∃ parameters, Argument.readAll (fields.items "args") context registry = .ok parameters
  matcher : ∃ (matcherFields : Fields) (matcher : Matcher), fields.get? "matcher" = some (.object matcherFields) ∧
    matcherFields.WritesMatcher matcher context registry
  findFirst : fields.Fits "findFirst" .boolean

end Json.Fields

namespace Code

def Piece.call? : Piece → Option (String × List String)
  | .call function texts arguments => some (function, texts ++ arguments.map Parameter.argumentText)
  | _ => none

def calls (code : Code) : List (String × List String) := code.filterMap Piece.call?

end Code

namespace Filter

section Breaches

def listBreaches (fields : Json.Fields) (context : String) (registry : Registry) : List (Fault → Prop) :=
  [fun fault => fields.Misfits "args" .array ∧ fault = .wrongShape context "args" .array,
    fun fault => Argument.readAll (fields.items "args") context registry = .error fault]

def argumentBreaches (matcher : Matcher) (items : List Json) (context : String) : List (Fault → Prop) :=
  (fun fault => items.length ≠ matcher.arity ∧ fault = .matcherCount context matcher items.length) ::
    match matcher.argumentType? with
    | none => []
    | some expected => items.map fun item fault => item.argumentType? ≠ some expected ∧
        fault = .matcherType context matcher (item.argumentName?.getD "") item.argumentType? expected

def matcherBreaches (node : Json) (context : String) (registry : Registry) : List (Fault → Prop) :=
  let fields := node.fields
  (fun fault => node.hasShape .object = false ∧ fault = .wrongShape context "matcher" .object) ::
    (Property.stringBreaches fields "type" (context ++ " matcher") ++
    ((fun fault => ∃ name, (fields.value? "type" = some (.string name) ∧ Matcher.ofName? name = none) ∧
      fault = .unknownMatcher context name) ::
    (listBreaches fields (context ++ " matcher") registry ++
    match fields.matcher? with
    | none => []
    | some matcher => argumentBreaches matcher (fields.items "args") context)))

def matcherPropertyBreaches (fields : Json.Fields) (context : String) (registry : Registry) :
    List (Fault → Prop) :=
  (fun fault => fields.get? "matcher" = none ∧ fault = .missingProperty context "matcher") ::
    match fields.get? "matcher" with
    | none => []
    | some node => matcherBreaches node context registry

/-- The requirements on a filter, in the order in which they are checked. -/
def breaches (value : Json) (context : String) (registry : Registry) : List (Fault → Prop) :=
  let fields := value.fields
  let own := context ++ " filter"
  (fun fault => value.hasShape .object = false ∧ fault = .wrongShape context "filter" .object) ::
    (Property.stringBreaches fields "apply" own ++
    ((fun fault => ∃ name, (fields.value? "apply" = some (.string name) ∧ ¬ Text.isIdentifier name) ∧
      fault = .invalidMethodName own name) ::
    (listBreaches fields own registry ++
    (matcherPropertyBreaches fields own registry ++
    [fun fault => fields.Misfits "findFirst" .boolean ∧ fault = .wrongShape own "findFirst" .boolean]))))

variable {config : Config} {context : String}

theorem checkArguments_eq_error_iff {matcher : Matcher} {items : List Json} {parameters : List Parameter}
    (written : List.Forall₂ (fun item parameter => item.parameter? config.registry = some parameter) items
      parameters) (fault : Fault) :
    checkArguments matcher parameters context config.registry = .error fault ↔
      FirstOf (argumentBreaches matcher items context) fault := by
  unfold checkArguments argumentBreaches
  rw [written.length_eq]
  by_cases count : parameters.length = matcher.arity
  · rw [if_neg (not_not_intro count), FirstOf.cons_iff_of_forall_not fun other broken => broken.1 count]
    cases matcher.argumentType? with
    | none => exact iff_of_false (by simp) id
    | some expected =>
      have same := map_eq_of_forall₂ written
        (f := fun item (fault : Fault) => item.argumentType? ≠ some expected ∧
          fault = .matcherType context matcher (item.argumentName?.getD "") item.argumentType? expected)
        (g := fun parameter (fault : Fault) => config.registry.parameterType? parameter.type ≠ some expected ∧
          fault = .matcherType context matcher parameter.name
            (config.registry.parameterType? parameter.type) expected)
        (by
          intro item parameter written
          rw [Config.parameterType?_of_written written, Json.name_of_parameter? written]
          rfl)
      simp only
      rw [← same, ← List.append_nil (parameters.map _)]
      apply FirstOf.find?_eq_error_iff (fun _ => decide_eq_true_iff)
      · intro parameter misfit
        rw [misfit]
      · intro fits fault
        rw [fits]
        exact iff_of_false (by simp) id
  · rw [if_pos count, FirstOf.cons_iff_of_broken ⟨_, count, rfl⟩]
    simp [count, Fault.matcherCount, eq_comm]

theorem list_eq_error_iff {fields : Json.Fields} {registry : Registry} {α : Type} {others : List (Fault → Prop)}
    {next : List Parameter → Except Fault α}
    (behind : ∀ parameters, Argument.readAll (fields.items "args") context registry = .ok parameters →
      ∀ fault, next parameters = .error fault ↔ FirstOf others fault) (fault : Fault) :
    (do
        let args ← Property.items fields "args" context
        next (← Argument.readAll args context registry)) = .error fault ↔
      FirstOf (listBreaches fields context registry ++ others) fault := by
  revert fault
  apply FirstOf.bind_eq_error_iff (fun _ => Property.items_eq_error_iff)
  intro items found
  rcases Property.items_eq_ok_iff_fits.mp found with ⟨_, rfl⟩
  exact FirstOf.bind_eq_error_iff (fun _ => Iff.rfl) behind

theorem exists_written_iff {fields : Json.Fields} {key text : String} {P : String → Prop}
    {report : String → Fault} (written : fields.value? key = some (.string text)) (fault : Fault) :
    (∃ other, (fields.value? key = some (.string other) ∧ P other) ∧ fault = report other) ↔
      P text ∧ fault = report text := by
  simp [written]

theorem readMatcher_eq_error_iff {node : Json} (fault : Fault) :
    readMatcher node context config.registry = .error fault ↔
      FirstOf (matcherBreaches node context config.registry) fault := by
  apply FirstOf.bind_eq_error_iff (fun _ => Property.fields_eq_error_iff)
  intro fields found
  cases Property.fields_eq_ok_iff.mp found
  rw [Json.fields_object]
  apply FirstOf.bind_append_eq_error_iff Property.string_eq_error_iff
  intro name hName fault
  have written := (Property.string_eq_ok_iff.mp hName).1
  have named : fields.matcher? = Matcher.ofName? name := by
    rw [Json.Fields.matcher?, written]
    rfl
  simp only [exists_written_iff written, named]
  cases known : Matcher.ofName? name with
  | none =>
    rw [FirstOf.cons_iff_of_broken ⟨_, rfl, rfl⟩]
    simp [throw, throwThe, MonadExceptOf.throw, eq_comm]
  | some matcher =>
    rw [FirstOf.cons_iff_of_forall_not (by simp)]
    apply list_eq_error_iff
    intro parameters hParameters fault
    simp only
    rw [← List.append_nil (argumentBreaches _ _ _)]
    apply FirstOf.bind_append_eq_error_iff
    · exact checkArguments_eq_error_iff (Argument.parameters_of_readFrom hParameters)
    intro _ _ fault
    exact iff_of_false (by simp [pure, Except.pure]) id

theorem read_eq_error_iff {value : Json} (fault : Fault) :
    read value context config.registry = .error fault ↔ FirstOf (breaches value context config.registry) fault := by
  apply FirstOf.bind_eq_error_iff (fun _ => Property.fields_eq_error_iff)
  intro fields found
  cases Property.fields_eq_ok_iff.mp found
  rw [Json.fields_object]
  apply FirstOf.bind_append_eq_error_iff Property.string_eq_error_iff
  intro name hName fault
  simp only [exists_written_iff (Property.string_eq_ok_iff.mp hName).1]
  by_cases identifier : Text.isIdentifier name
  · rw [if_neg (by simp [identifier]), FirstOf.cons_iff_of_forall_not (by simp [identifier])]
    apply list_eq_error_iff
    intro parameters _
    apply FirstOf.bind_eq_error_iff (fun _ => Property.value_eq_error_iff)
    intro node hNode
    rw [Property.value_eq_ok_iff.mp hNode]
    apply FirstOf.bind_append_eq_error_iff readMatcher_eq_error_iff
    rintro ⟨matcher, matcherParameters⟩ _
    apply FirstOf.bind_eq_error_iff (fun _ => Property.flag_eq_error_iff)
    intro firstOnly _ fault
    exact iff_of_false (by simp [pure, Except.pure]) id
  · rw [if_pos (by simp [identifier]), FirstOf.cons_iff_of_broken ⟨_, identifier, rfl⟩]
    simp [identifier, throw, throwThe, MonadExceptOf.throw, bind, Except.bind, eq_comm]

end Breaches

section Acceptance

variable {config : Config} {context : String} {matcher : Matcher}

theorem types_iff {items : List Json} {parameters : List Parameter}
    (written : List.Forall₂ (fun item parameter => item.parameter? config.registry = some parameter) items
      parameters) (expected : ParameterType) :
    (∀ argument ∈ parameters, config.registry.parameterType? argument.type = some expected) ↔
      ∀ item ∈ items, item.argumentType? = some expected := by
  rw [← List.forall_mem_map (P := (· = some expected)), Argument.parameterTypes_of_written written,
    List.forall_mem_map]

theorem checkArguments_iff {items : List Json} {parameters : List Parameter}
    (written : List.Forall₂ (fun item parameter => item.parameter? config.registry = some parameter) items
      parameters) :
    checkArguments matcher parameters context config.registry = .ok () ↔
      items.length = matcher.arity ∧ ∀ expected, matcher.argumentType? = some expected →
        ∀ item ∈ items, item.argumentType? = some expected := by
  simp only [checkArguments_eq_ok_iff, types_iff written, written.length_eq]

theorem writesMatcher_of_read {node : Json} {parameters : List Parameter}
    (found : readMatcher node context config.registry = .ok (matcher, parameters)) :
    ∃ fields : Json.Fields, node = .object fields ∧ fields.WritesMatcher matcher context config.registry ∧
      List.Forall₂ (fun item parameter => item.parameter? config.registry = some parameter) (fields.items "args")
        parameters := by
  rcases readMatcher_eq_ok_iff.mp found with ⟨fields, rfl, named, ⟨items, hItems, hParameters⟩, checked⟩
  rcases Property.items_eq_ok_iff_fits.mp hItems with ⟨args, rfl⟩
  have written := Argument.parameters_of_readFrom hParameters
  rcases (checkArguments_iff written).mp checked with ⟨count, types⟩
  exact ⟨fields, rfl, ⟨named, args, ⟨parameters, hParameters⟩, count, types⟩, written⟩

theorem exists_read_of_writesMatcher {fields : Json.Fields}
    (writes : fields.WritesMatcher matcher context config.registry) :
    ∃ parameters, readMatcher (.object fields) context config.registry = .ok (matcher, parameters) := by
  rcases writes.arguments with ⟨parameters, hParameters⟩
  have checked : checkArguments matcher parameters context config.registry = .ok () :=
    (checkArguments_iff (Argument.parameters_of_readFrom hParameters)).mpr ⟨writes.count, writes.types⟩
  exact ⟨parameters, readMatcher_eq_ok_iff.mpr ⟨fields, rfl, writes.written,
    ⟨_, Property.items_eq_ok_iff_fits.mpr ⟨writes.args, rfl⟩, hParameters⟩, checked⟩⟩

theorem exists_read_iff {value : Json} :
    (∃ filter, read value context config.registry = .ok filter) ↔
      ∃ fields : Json.Fields, value = .object fields ∧ fields.WritesFilter (context ++ " filter") config.registry := by
  constructor
  · rintro ⟨filter, found⟩
    rcases read_eq_ok_iff.mp found with ⟨fields, rfl, declared⟩
    rcases declared.applyParameters with ⟨items, hItems, hParameters⟩
    rcases Property.items_eq_ok_iff_fits.mp hItems with ⟨args, rfl⟩
    rcases declared.matcher with ⟨node, held, hMatcher⟩
    rcases writesMatcher_of_read hMatcher with ⟨matcherFields, rfl, writes, _⟩
    exact ⟨fields, rfl, {
      applyMethod := ⟨_, declared.applyMethod, declared.named, declared.identifier⟩
      args
      arguments := ⟨_, hParameters⟩
      matcher := ⟨matcherFields, _, held, writes⟩
      findFirst := (Property.flag_eq_ok_iff_fits.mp declared.firstOnly).1 }⟩
  · rintro ⟨fields, rfl, writes⟩
    rcases writes.applyMethod with ⟨name, written, named, identifier⟩
    rcases writes.arguments with ⟨parameters, hParameters⟩
    rcases writes.matcher with ⟨matcherFields, matcher, held, writesMatcher⟩
    rcases exists_read_of_writesMatcher writesMatcher with ⟨matcherParameters, hMatcher⟩
    rcases Property.exists_flag_iff_fits.mpr writes.findFirst with ⟨firstOnly, hFirst⟩
    refine ⟨⟨⟨name, parameters, matcher, matcherParameters⟩, firstOnly⟩, read_eq_ok_iff.mpr ⟨fields, rfl, ?_⟩⟩
    exact {
      applyMethod := written
      named
      identifier
      applyParameters := ⟨_, Property.items_eq_ok_iff_fits.mpr ⟨writes.args, rfl⟩, hParameters⟩
      matcher := ⟨_, held, hMatcher⟩
      firstOnly := hFirst }

end Acceptance

end Filter

end PageObject
