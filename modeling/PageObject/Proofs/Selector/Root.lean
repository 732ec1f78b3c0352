import PageObject.Proofs.Breach
import PageObject.Selector

namespace PageObject.Selector

theorem outcome_readRoot (value : Json) (context : String) :
    (readRoot value context).outcome = (do
      let fields ← Property.fields value context "selector"
      match ["args", "returnAll"].find? fields.contains with
      | some property => .error (.unsupportedProperty (context ++ " root selector") property)
      | none => readLocator fields context) := by
  unfold readRoot
  rw [Attempt.outcome_bind, Attempt.outcome_liftM]
  congr 1
  funext fields
  cases ["args", "returnAll"].find? fields.contains with
  | some property => rfl
  | none =>
    simp only [Attempt.outcome_bind, Attempt.outcome_liftM]
    cases readLocator fields context <;> rfl

theorem events_readRoot {value : Json} {context : String} {locator : Locator}
    (found : (readRoot value context).outcome = .ok locator) :
    (readRoot value context).events = [.readRootSelector locator.strategy] := by
  unfold readRoot at found ⊢
  rw [Attempt.outcome_bind, Attempt.outcome_liftM] at found
  rcases exists_of_bind_eq_ok found with ⟨fields, hFields, h⟩
  rw [Attempt.events_liftM_bind hFields]
  cases refused : ["args", "returnAll"].find? fields.contains with
  | some property =>
    rw [refused, Attempt.outcome_bind] at h
    rcases exists_of_bind_eq_ok h with ⟨nothing, impossible, _⟩
    cases impossible
  | none =>
    rw [refused, Attempt.outcome_bind, Attempt.outcome_liftM] at h
    rcases exists_of_bind_eq_ok h with ⟨again, hLocator, h⟩
    cases h
    exact Attempt.events_liftM_bind hLocator

def expressionBreaches (expression? : Strategy → Option String) : List (Fault → Prop) :=
  let given := Strategy.all.countP fun strategy => (expression? strategy).isSome
  (Strategy.all.map fun strategy fault =>
    expression? strategy = some "" ∧ fault = .emptyString "selector" strategy.property) ++
  [fun fault => given = 0 ∧ fault = .noSelector, fun fault => 2 ≤ given ∧ fault = .severalSelectors]

theorem ofExpressions_eq_error_iff {expression? : Strategy → Option String} (fault : Fault) :
    Locator.ofExpressions expression? = .error fault ↔ FirstOf (expressionBreaches expression?) fault := by
  have count : (Strategy.all.countP fun strategy => (expression? strategy).isSome) =
      (Strategy.all.filterMap fun strategy => (expression? strategy).map (Locator.mk strategy)).length := by
    simp only [List.length_filterMap_eq_countP, Option.isSome_map]
  unfold Locator.ofExpressions
  apply FirstOf.find?_eq_error_iff (fun strategy => decide_eq_true_iff)
  · intro strategy found
    rw [found]
  · intro none fault
    rw [none, count]
    simp only
    generalize (Strategy.all.filterMap fun strategy => (expression? strategy).map (Locator.mk strategy)) = given
    cases given with
    | nil => simp [FirstOf, eq_comm]
    | cons locator rest => cases rest <;> simp [FirstOf, eq_comm]

def expression? (fields : Json.Fields) (strategy : Strategy) : Option String :=
  (fields.value? strategy.property).bind Json.string?

def locatorBreaches (fields : Json.Fields) (context : String) : List (Fault → Prop) :=
  (Strategy.all.map fun strategy fault => fields.Misfits strategy.property .string ∧
    fault = .wrongShape (context ++ " selector") strategy.property .string) ++
  expressionBreaches (expression? fields)

theorem expression?_of_string? {fields : Json.Fields} {strategy : Strategy} {context : String}
    {found : Option String} (read : Property.string? fields strategy.property context = .ok found) :
    expression? fields strategy = found := by
  rw [expression?, Property.string?_eq_ok_iff.mp read]
  cases found <;> rfl

theorem readLocator_eq_error_iff {fields : Json.Fields} {context : String} (fault : Fault) :
    readLocator fields context = .error fault ↔ FirstOf (locatorBreaches fields context) fault := by
  apply FirstOf.bind_eq_error_iff (fun _ => Property.string?_eq_error_iff)
  intro css hCss
  apply FirstOf.bind_eq_error_iff (fun _ => Property.string?_eq_error_iff)
  intro accessId hAccessId
  apply FirstOf.bind_eq_error_iff (fun _ => Property.string?_eq_error_iff)
  intro classChain hClassChain
  apply FirstOf.bind_eq_error_iff (fun _ => Property.string?_eq_error_iff)
  intro uiAutomator hUiAutomator fault
  refine (ofExpressions_eq_error_iff fault).trans (iff_of_eq ?_)
  show FirstOf _ fault = FirstOf (expressionBreaches (expression? fields)) fault
  congr 2
  funext strategy
  cases strategy with
  | css => exact (expression?_of_string? hCss).symm
  | accessId => exact (expression?_of_string? hAccessId).symm
  | classChain => exact (expression?_of_string? hClassChain).symm
  | uiAutomator => exact (expression?_of_string? hUiAutomator).symm

/-- The requirements on a root selector, in the order in which they are checked. -/
def rootBreaches (value : Json) (context : String) : List (Fault → Prop) :=
  (fun fault => value.hasShape .object = false ∧ fault = .wrongShape context "selector" .object) ::
    ((["args", "returnAll"].map fun property fault => value.fields.contains property ∧
      fault = .unsupportedProperty (context ++ " root selector") property) ++
    locatorBreaches value.fields context)

theorem outcome_readRoot_eq_error_iff {value : Json} {context : String} (fault : Fault) :
    (readRoot value context).outcome = .error fault ↔ FirstOf (rootBreaches value context) fault := by
  rw [outcome_readRoot]
  apply FirstOf.bind_eq_error_iff (fun _ => Property.fields_eq_error_iff)
  intro fields found
  cases Property.fields_eq_ok_iff.mp found
  rw [Json.fields_object]
  apply FirstOf.find?_eq_error_iff (fun _ => Iff.rfl)
  · intro property held
    rw [held]
  · intro none
    rw [none]
    exact readLocator_eq_error_iff

end PageObject.Selector
