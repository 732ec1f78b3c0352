import PageObject.Argument
import PageObject.Event
import PageObject.Locator
import PageObject.Selector.Placeholder

namespace PageObject

structure Selector where
  locator : Locator
  parameters : List Parameter
  returnsAll : Bool
deriving Repr

namespace Selector

def readLocator (fields : Json.Fields) (context : String) : Except Fault Locator := do
  let ownContext := context ++ " selector"
  let css ← Property.string? fields Strategy.css.property ownContext
  let accessId ← Property.string? fields Strategy.accessId.property ownContext
  let classChain ← Property.string? fields Strategy.classChain.property ownContext
  let uiAutomator ← Property.string? fields Strategy.uiAutomator.property ownContext
  Locator.ofExpressions fun
    | .css => css
    | .accessId => accessId
    | .classChain => classChain
    | .uiAutomator => uiAutomator

def readRoot (value : Json) (context : String) : Attempt Locator := do
  let fields ← Property.fields value context "selector"
  if let some property := ["args", "returnAll"].find? fields.contains then
    throw ⟨FaultCode.unsupportedProperty, [context ++ " root selector", property]⟩
  let locator ← readLocator fields context
  Attempt.note (.readRootSelector locator.strategy)
  return locator

def read (value : Json) (context : String) (registry : Registry) : Except Fault Selector := do
  let fields ← Property.fields value context "selector"
  let locator ← readLocator fields context
  let ownContext := context ++ " selector"
  let args ← Property.items fields "args" ownContext
  let parameters ← Argument.readAll args ownContext registry
  Placeholder.check locator.expression parameters context registry
  let returnsAll ← Property.flag fields "returnAll" ownContext
  return { locator, parameters, returnsAll }

end Selector

end PageObject
