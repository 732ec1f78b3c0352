import PageObject.Fault
import PageObject.Parameter

namespace PageObject

structure Locator where
  strategy : Strategy
  expression : String
deriving DecidableEq, Repr

namespace Locator

def ofExpressions (expression? : Strategy → Option String) : Except Fault Locator :=
  match Strategy.all.find? fun strategy => expression? strategy = some "" with
  | some strategy => .error ⟨FaultCode.emptyString, ["selector", strategy.property]⟩
  | none =>
    match Strategy.all.filterMap fun strategy => (expression? strategy).map (mk strategy) with
    | [] => .error ⟨FaultCode.noSelector, [Strategy.supported]⟩
    | [locator] => .ok locator
    | _ => .error ⟨FaultCode.severalSelectors, [Strategy.supported]⟩

def code (locator : Locator) (args : List Parameter) : String :=
  let expression := Text.quote locator.expression
  let value :=
    if args.isEmpty then expression
    else "String.format(" ++ expression ++ ", " ++ argumentList args ++ ")"
  "LocatorBy." ++ locator.strategy.factory ++ "(" ++ value ++ ")"

end Locator

end PageObject
