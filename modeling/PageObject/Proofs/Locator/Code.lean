import Mathlib.Data.List.Basic
import PageObject.Locator
import PageObject.Proofs.Text.Constant

namespace PageObject

def Strategy.ofFactory? (name : String) : Option Strategy := all.find? fun strategy => strategy.factory = name

theorem Strategy.ofFactory?_factory (strategy : Strategy) : ofFactory? strategy.factory = some strategy := by
  cases strategy <;> decide

namespace Locator

/-- Reads what the factory of a strategy is passed: a constant, or a format call with a constant and arguments.
The arguments themselves are not read, as they may be written in any way. -/
def ofFactoryArgument? (strategy : Strategy) (text : List Char) : Option (Locator × Option String) :=
  match text.dropPrefix? "String.format(".toList with
  | some call => do
    let (expression, behind) ← Text.readConstant? call
    let behind ← behind.dropPrefix? ", ".toList
    let args ← behind.dropSuffix? "))".toList
    return (⟨strategy, String.ofList expression⟩, some (String.ofList args))
  | none => do
    let (expression, behind) ← Text.readConstant? text
    if behind = ")".toList then return (⟨strategy, String.ofList expression⟩, none) else none

def ofCode? (code : String) : Option (Locator × Option String) := do
  let call ← code.toList.dropPrefix? "LocatorBy.".toList
  let strategy ← Strategy.ofFactory? (String.ofList (call.takeWhile (· ≠ '(')))
  ofFactoryArgument? strategy ((call.dropWhile (· ≠ '(')).drop 1)

def opening (strategy : Strategy) (args : List Parameter) : String :=
  "LocatorBy." ++ strategy.factory ++ "(" ++ if args.isEmpty then "" else "String.format("

def closing (args : List Parameter) : String :=
  if args.isEmpty then ")" else ", " ++ argumentList args ++ "))"

def writtenArguments? (args : List Parameter) : Option String :=
  if args.isEmpty then none else some (argumentList args)

theorem code_eq (locator : Locator) (args : List Parameter) :
    locator.code args = opening locator.strategy args ++ Text.quote locator.expression ++ closing args := by
  cases args with
  | nil => simp [code, opening, closing, String.append_assoc]
  | cons first rest =>
    have brackets : "))" = ")" ++ ")" := by decide
    simp only [code, opening, closing, List.isEmpty_cons, Bool.false_eq_true, if_false, String.append_assoc, brackets]

theorem not_mem_opening (strategy : Strategy) (args : List Parameter) : '"' ∉ (opening strategy args).toList := by
  unfold opening
  generalize args.isEmpty = isEmpty
  cases strategy <;> cases isEmpty <;> decide

theorem dropPrefix?_append (before behind : List Char) : (before ++ behind).dropPrefix? before = some behind :=
  List.dropPrefix?_append_of_beq behind BEq.rfl

theorem ofFactoryArgument?_constant (strategy : Strategy) (expression : String) :
    ofFactoryArgument? strategy ((Text.quote expression).toList ++ ")".toList) =
      some (⟨strategy, expression⟩, none) := by
  have noCall : ((Text.quote expression).toList ++ ")".toList).dropPrefix? "String.format(".toList = none := by
    rw [Text.quote, String.toList_ofList]
    rfl
  unfold ofFactoryArgument?
  rw [noCall]
  simp [Text.readConstant?_quote_append]

theorem ofFactoryArgument?_call (strategy : Strategy) (expression args : String) :
    ofFactoryArgument? strategy ("String.format(".toList ++
        ((Text.quote expression).toList ++ (", ".toList ++ (args.toList ++ "))".toList)))) =
      some (⟨strategy, expression⟩, some args) := by
  have closed : (args.toList ++ "))".toList).dropSuffix? "))".toList = some args.toList :=
    List.dropSuffix?_eq_some_iff.mpr ⟨_, rfl, BEq.rfl⟩
  unfold ofFactoryArgument?
  rw [dropPrefix?_append]
  simp only [Text.readConstant?_quote_append, Option.bind_eq_bind, Option.bind_some, dropPrefix?_append, closed,
    String.ofList_toList]
  rfl

theorem ofCode?_eq {code : String} {strategy : Strategy} {text : List Char}
    (written : code.toList = "LocatorBy.".toList ++ (strategy.factory.toList ++ '(' :: text)) :
    ofCode? code = ofFactoryArgument? strategy text := by
  have name : ∀ c ∈ strategy.factory.toList, decide (c ≠ '(') = true :=
    List.all_eq_true.mp (by cases strategy <;> rfl)
  have taken : (strategy.factory.toList ++ '(' :: text).takeWhile (· ≠ '(') = strategy.factory.toList := by
    rw [List.takeWhile_append_of_pos name]
    exact List.append_nil _
  have left : (strategy.factory.toList ++ '(' :: text).dropWhile (· ≠ '(') = '(' :: text :=
    List.dropWhile_append_of_pos name
  unfold ofCode?
  rw [written, dropPrefix?_append]
  simp only [Option.bind_eq_bind, Option.bind_some, taken, left, String.ofList_toList,
    Strategy.ofFactory?_factory, List.drop_one, List.tail_cons]

theorem ofCode?_code (locator : Locator) (args : List Parameter) :
    ofCode? (locator.code args) = some (locator, writtenArguments? args) := by
  rcases locator with ⟨strategy, expression⟩
  cases args with
  | nil =>
    have written : (code ⟨strategy, expression⟩ []).toList = "LocatorBy.".toList ++
        (strategy.factory.toList ++ '(' :: ((Text.quote expression).toList ++ ")".toList)) := by
      simp [code_eq, opening, closing]
    rw [ofCode?_eq written]
    exact ofFactoryArgument?_constant strategy expression
  | cons first rest =>
    have written : (code ⟨strategy, expression⟩ (first :: rest)).toList = "LocatorBy.".toList ++
        (strategy.factory.toList ++ '(' :: ("String.format(".toList ++ ((Text.quote expression).toList ++
          (", ".toList ++ ((argumentList (first :: rest)).toList ++ "))".toList))))) := by
      simp [code_eq, opening, closing]
    rw [ofCode?_eq written]
    exact ofFactoryArgument?_call strategy expression (argumentList (first :: rest))

theorem writtenArguments?_eq_iff {args others : List Parameter} :
    writtenArguments? args = writtenArguments? others ↔
      (args = [] ↔ others = []) ∧ argumentList args = argumentList others := by
  cases args <;> cases others <;> simp [writtenArguments?]

/-- The code of a locator determines it, and tells whether it has arguments, of which only the text can be read back:
a name may hold a comma. The expression stands in the code as the constant that its first quote opens. -/
theorem code_eq_code_iff (locator other : Locator) (args others : List Parameter) :
    (locator.code args = other.code others ↔
      locator = other ∧ (args = [] ↔ others = []) ∧ argumentList args = argumentList others) ∧
    locator.code args = opening locator.strategy args ++ Text.quote locator.expression ++ closing args ∧
    '"' ∉ (opening locator.strategy args).toList ∧
    Text.readConstant? (Text.quote locator.expression ++ closing args).toList =
      some (locator.expression.toList, (closing args).toList) := by
  refine ⟨⟨?_, ?_⟩, code_eq locator args, not_mem_opening locator.strategy args, ?_⟩
  · intro same
    have read := ofCode?_code locator args
    rw [same, ofCode?_code other others, Option.some.injEq, Prod.mk.injEq] at read
    exact ⟨read.1.symm, writtenArguments?_eq_iff.mp read.2.symm⟩
  · rintro ⟨rfl, bothEmpty, alike⟩
    simp only [code, List.isEmpty_iff, bothEmpty, alike]
  · rw [String.toList_append]
    exact Text.readConstant?_quote_append locator.expression _

end Locator

end PageObject
