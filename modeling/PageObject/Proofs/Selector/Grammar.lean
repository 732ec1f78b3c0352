import PageObject.Proofs.Argument.Reading
import PageObject.Proofs.Element.Faults
import PageObject.Proofs.Registry
import PageObject.Proofs.Selector.Reading
import PageObject.Proofs.Selector.Root
import PageObject.Proofs.Selector.Scan

namespace PageObject

/-- What an accepted selector says: one expression, and an argument for each of its placeholders. -/
structure Json.Fields.WritesSelector (fields : Json.Fields) (context : String) (registry : Registry) :
    Prop where
  expressions : ∀ strategy : Strategy, fields.Fits strategy.property .string ∧
    fields.value? strategy.property ≠ some (.string "")
  single : ∃! strategy : Strategy, fields.value? strategy.property ≠ none
  args : fields.Fits "args" .array
  arguments : ∃ parameters,
    Argument.readAll (fields.items "args") (context ++ " selector") registry = .ok parameters
  types : ∀ (strategy : Strategy) (expression : String),
    fields.value? strategy.property = some (.string expression) →
      List.Forall₂ (fun placeholder item => item.argumentType? = some placeholder.type)
        (Placeholder.scanned expression) (fields.items "args")
  returnAll : fields.Fits "returnAll" .boolean

theorem Strategy.mem_all (strategy : Strategy) : strategy ∈ all := by
  cases strategy <;> decide

namespace Locator

variable {expression? : Strategy → Option String} {locator : Locator}

theorem given_iff_of_ofExpressions (read : ofExpressions expression? = .ok locator) (strategy : Strategy)
    (expression : String) : expression? strategy = some expression ↔ mk strategy expression = locator := by
  unfold ofExpressions at read
  split at read
  · cases read
  · split at read
    · cases read
    · rename_i only given
      cases read
      rw [← List.mem_singleton (b := locator), ← given, List.mem_filterMap]
      constructor
      · intro found
        exact ⟨strategy, strategy.mem_all, by rw [found]; rfl⟩
      · rintro ⟨other, _, found⟩
        rcases Option.map_eq_some_iff.mp found with ⟨held, found, same⟩
        cases same
        exact found
    · cases read

theorem filled_of_ofExpressions (read : ofExpressions expression? = .ok locator) (strategy : Strategy) :
    expression? strategy ≠ some "" := by
  intro empty
  unfold ofExpressions at read
  split at read
  · cases read
  · rename_i filled
    exact List.find?_eq_none.mp filled _ strategy.mem_all (decide_eq_true empty)

theorem ofExpressions_eq_ok_iff :
    ofExpressions expression? = .ok locator ↔
      locator.expression ≠ "" ∧
        ∀ strategy, expression? strategy =
          if strategy = locator.strategy then some locator.expression else none := by
  constructor
  · intro read
    have own : expression? locator.strategy = some locator.expression :=
      (given_iff_of_ofExpressions read _ _).mpr rfl
    refine ⟨?_, fun strategy => ?_⟩
    · intro empty
      exact filled_of_ofExpressions read locator.strategy (by rw [own, empty])
    · by_cases same : strategy = locator.strategy
      · rw [if_pos same, same, own]
      · rw [if_neg same]
        cases found : expression? strategy with
        | none => rfl
        | some expression =>
          have alone := (given_iff_of_ofExpressions read _ _).mp found
          exact absurd (congrArg Locator.strategy alone) same
  · rintro ⟨filled, given⟩
    cases funext given
    have noneEmpty : (Strategy.all.find? fun strategy =>
        (if strategy = locator.strategy then some locator.expression else none) = some "") = none :=
      List.find?_eq_none.mpr (by simp [filled])
    unfold ofExpressions
    simp only [noneEmpty]
    rcases locator with ⟨strategy, expression⟩
    cases strategy <;> rfl

end Locator

/-- If a fault is about an argument of the wrong type, then it says which type the argument has. -/
def Fault.NamesTypes (fault : Fault) : Prop :=
  fault.code = FaultCode.placeholderType → fault.args[2]? ≠ some (actualTypeName none)

theorem Reports.namesTypes {forms : List (Nat × Nat)} {α : Type} {x : Except Fault α}
    (reports : Reports (Fault.Among forms) x) (others : ∀ form ∈ forms, form.1 ≠ FaultCode.placeholderType) :
    Reports Fault.NamesTypes x :=
  reports.mono fun _ among same => absurd same (others _ among)

theorem ParameterType.name_ne_unknown (type : ParameterType) : type.name ≠ actualTypeName none := by
  cases type <;> decide

namespace Selector

variable {fields : Json.Fields} {context : String}

theorem exists_expressions_of_readLocator {locator : Locator} :
    readLocator fields context = .ok locator ↔
      ∃ expression? : Strategy → Option String,
        (∀ strategy, fields.value? strategy.property = (expression? strategy).map Json.string) ∧
          Locator.ofExpressions expression? = .ok locator := by
  unfold readLocator
  simp only [bind_eq_ok_iff, Property.string?_eq_ok_iff]
  constructor
  · rintro ⟨css, hCss, accessId, hAccessId, classChain, hClassChain, uiAutomator, hUiAutomator, h⟩
    refine ⟨_, fun strategy => ?_, h⟩
    cases strategy with
    | css => exact hCss
    | accessId => exact hAccessId
    | classChain => exact hClassChain
    | uiAutomator => exact hUiAutomator
  · rintro ⟨expression?, given, h⟩
    refine ⟨_, given .css, _, given .accessId, _, given .classChain, _, given .uiAutomator, ?_⟩
    rw [← h]
    congr 1
    funext strategy
    cases strategy <;> rfl

theorem readLocator_eq_ok_iff {locator : Locator} :
    readLocator fields context = .ok locator ↔
      locator.expression ≠ "" ∧
        ∀ strategy : Strategy, fields.value? strategy.property =
          if strategy = locator.strategy then some (.string locator.expression) else none := by
  rw [exists_expressions_of_readLocator]
  simp only [Locator.ofExpressions_eq_ok_iff]
  constructor
  · rintro ⟨expression?, given, filled, only⟩
    refine ⟨filled, fun strategy => ?_⟩
    rw [given, only, apply_ite (Option.map Json.string)]
    rfl
  · rintro ⟨filled, only⟩
    refine ⟨_, fun strategy => ?_, filled, fun strategy => rfl⟩
    rw [only, apply_ite (Option.map Json.string)]
    rfl

theorem argumentTypes_iff {config : Config} {items : List Json} {parameters : List Parameter}
    (read : Argument.readAll items context config.registry = .ok parameters) (placeholders : List Placeholder) :
    List.Forall₂ (fun placeholder argument =>
        config.registry.parameterType? argument.type = some placeholder.type) placeholders parameters ↔
      List.Forall₂ (fun placeholder item => item.argumentType? = some placeholder.type) placeholders items := by
  have types := Argument.parameterTypes_of_written (Argument.parameters_of_readFrom read)
  rw [← List.forall₂_map_right_iff (R := fun (placeholder : Placeholder) type => type = some placeholder.type),
    types, List.forall₂_map_right_iff]

theorem writesSelector_of_read {config : Config} {selector : Selector}
    (read : Selector.read (.object fields) context config.registry = .ok selector) :
    fields.WritesSelector context config.registry := by
  rcases read_eq_ok_iff.mp read with ⟨_, same, declared⟩
  cases same
  rcases readLocator_eq_ok_iff.mp declared.locator with ⟨filled, only⟩
  rcases declared.parameters with ⟨items, hItems, hParameters⟩
  rcases Property.items_eq_ok_iff_fits.mp hItems with ⟨args, rfl⟩
  have placeholders := Placeholder.check_eq_ok_iff.mp declared.placeholders
  rw [argumentTypes_iff hParameters, Placeholder.ofExpression_eq] at placeholders
  exact {
    expressions := by
      intro strategy
      rw [Json.Fields.Fits, only]
      split <;> simp [Json.hasShape, filled]
    single := by
      refine ⟨selector.locator.strategy, by simp [only], ?_⟩
      intro other given
      by_contra different
      exact given (by rw [only, if_neg different])
    args
    arguments := ⟨_, hParameters⟩
    types := by
      intro strategy expression given
      rw [only] at given
      split at given
      · cases given
        exact placeholders
      · cases given
    returnAll := (Property.flag_eq_ok_iff_fits.mp declared.returnsAll).1 }

theorem exists_read_of_writesSelector {config : Config}
    (writes : fields.WritesSelector context config.registry) :
    ∃ selector, Selector.read (.object fields) context config.registry = .ok selector := by
  rcases writes.single with ⟨strategy, given, others⟩
  rcases writes.expressions strategy with ⟨fits, filled⟩
  rcases (Property.fits_string_iff.mp fits).resolve_left given with ⟨expression, written⟩
  rcases writes.arguments with ⟨parameters, hParameters⟩
  rcases Property.exists_flag_iff_fits.mpr writes.returnAll with ⟨returnsAll, hReturnsAll⟩
  have locator : readLocator fields context = .ok ⟨strategy, expression⟩ := by
    refine readLocator_eq_ok_iff.mpr ⟨fun empty : expression = "" => ?_, fun other => ?_⟩
    · exact filled (by rw [written, empty])
    · split
      · rename_i same
        rw [same, written]
      · rename_i different
        by_contra given
        exact different (others other given)
  refine ⟨⟨⟨strategy, expression⟩, parameters, returnsAll⟩, read_eq_ok_iff.mpr ⟨fields, rfl, ?_⟩⟩
  exact {
    locator
    parameters := ⟨_, Property.items_eq_ok_iff_fits.mpr ⟨writes.args, rfl⟩, hParameters⟩
    placeholders := by
      rw [Placeholder.check_eq_ok_iff, argumentTypes_iff hParameters, Placeholder.ofExpression_eq]
      exact writes.types strategy expression written
    returnsAll := hReturnsAll }

theorem known_of_readAll {config : Config} {items : List Json} {parameters : List Parameter}
    (read : Argument.readAll items context config.registry = .ok parameters) :
    ∀ parameter ∈ parameters, (config.registry.parameterType? parameter.type).isSome := by
  have written := Argument.parameters_of_readFrom read
  clear read
  induction written with
  | nil => simp
  | cons first others ih =>
    rcases Json.type_of_parameter? first with ⟨type, _, same⟩
    refine List.forall_mem_cons.mpr ⟨?_, ih⟩
    rw [same, config.parameterType?_typeOf]
    rfl

theorem check_namesTypes {expression : String} {parameters : List Parameter} {registry : Registry}
    (known : ∀ parameter ∈ parameters, (registry.parameterType? parameter.type).isSome) :
    Reports Fault.NamesTypes (Placeholder.check expression parameters context registry) := by
  unfold Placeholder.check
  simp only
  split
  · exact .error nofun
  · split
    · rename_i placeholder argument misfit
      have member : argument ∈ parameters := (List.of_mem_zip (List.mem_of_find?_eq_some misfit)).2
      rcases Option.isSome_iff_exists.mp (known argument member) with ⟨type, typed⟩
      rw [typed]
      exact .error fun _ same => type.name_ne_unknown (Option.some.inj same)
    · exact .ok _

theorem read_namesTypes {config : Config} {value : Json} :
    Reports Fault.NamesTypes (Selector.read value context config.registry) := by
  apply (Property.fields_reports.namesTypes (by decide)).bind
  intro fields _
  apply (readLocator_reports.namesTypes (by decide)).bind
  intro locator _
  apply (Property.items_reports.namesTypes (by decide)).bind
  intro args _
  apply (Argument.readAll_reports.namesTypes (by decide)).bind
  intro parameters hParameters
  apply (check_namesTypes (known_of_readAll hParameters)).bind
  intro _ _
  exact (Property.flag_reports.namesTypes (by decide)).bind fun _ _ => .ok _

/-- A selector is read if and only if its object gives one expression and fits it with arguments. The selector
that is read has that expression, the arguments in the order in which they are written, each with its type, and
the flag. No argument is refused because its type is not known. -/
theorem read_iff_writesSelector (config : Config) (value : Json) (context : String) :
    ((∃ selector, read value context config.registry = .ok selector) ↔
      ∃ fields : Json.Fields, value = .object fields ∧ fields.WritesSelector context config.registry) ∧
    (∀ (fields : Json.Fields) (selector : Selector),
      read (.object fields) context config.registry = .ok selector →
        fields.value? selector.locator.strategy.property = some (.string selector.locator.expression) ∧
        List.Forall₂ (fun item parameter => item.parameter? config.registry = some parameter)
          (fields.items "args") selector.parameters ∧
        (selector.returnsAll ↔ fields.value? "returnAll" = some (.bool true))) ∧
    ∀ owner argument expected,
      read value context config.registry ≠ .error (.placeholderType owner argument none expected) := by
  refine ⟨?_, ?_, ?_⟩
  · constructor
    · rintro ⟨selector, found⟩
      rcases read_eq_ok_iff.mp found with ⟨fields, rfl, _⟩
      exact ⟨fields, rfl, writesSelector_of_read found⟩
    · rintro ⟨fields, rfl, writes⟩
      exact exists_read_of_writesSelector writes
  · intro fields selector found
    rcases read_eq_ok_iff.mp found with ⟨_, same, declared⟩
    cases same
    rcases declared.parameters with ⟨items, hItems, hParameters⟩
    rcases Property.items_eq_ok_iff_fits.mp hItems with ⟨_, rfl⟩
    have given := (readLocator_eq_ok_iff.mp declared.locator).2 selector.locator.strategy
    rw [if_pos rfl] at given
    exact ⟨given, Argument.parameters_of_readFrom hParameters,
      (Property.flag_eq_ok_iff_fits.mp declared.returnsAll).2⟩
  · intro owner argument expected found
    exact read_namesTypes _ found rfl rfl

def linkSelector : Json :=
  .object [("css", .string "li:nth-child(%d) a[title='%s %%s']"),
    ("args", .array [.object [("name", .string "index"), ("type", .string "number")],
      .object [("value", .string "Home")]]),
    ("returnAll", .bool true)]

theorem read_iff_writesSelector_link :
    ∃ selector, read linkSelector "element 'link'" ({} : Config).registry = .ok selector ∧
      selector.parameters.length = 2 ∧ selector.returnsAll := by
  rcases read_iff_writesSelector {} linkSelector "element 'link'" with ⟨_, describes, _⟩
  have accepted : ((read linkSelector "element 'link'" ({} : Config).registry).toOption.map
      Selector.returnsAll).isSome := by decide +kernel
  cases found : read linkSelector "element 'link'" ({} : Config).registry with
  | error fault =>
    rw [found] at accepted
    cases accepted
  | ok selector =>
    rcases describes _ selector found with ⟨_, parameters, returnsAll⟩
    exact ⟨selector, rfl, parameters.length_eq.symm, returnsAll.mpr rfl⟩

end Selector

end PageObject
