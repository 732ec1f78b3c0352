import PageObject.Failure
import PageObject.Json.Reader
import PageObject.Page.Walk

namespace PageObject

structure Compilation where
  rootLocator : Option Locator
  accessors : List Accessor
  diagnostics : List Diagnostic
deriving Repr

def Outcome.accessor? : Outcome → Option Accessor
  | .built accessor => some accessor
  | .skipped _ => none

def Outcome.diagnostic? : Outcome → Option Diagnostic
  | .built _ => none
  | .skipped diagnostic => some diagnostic

namespace Compilation

def ofOutcomes (rootLocator : Option Locator) (outcomes : List Outcome) : Compilation :=
  { rootLocator
    accessors := outcomes.filterMap Outcome.accessor?
    diagnostics := outcomes.filterMap Outcome.diagnostic? }

def isSuccess (compilation : Compilation) : Bool := compilation.diagnostics.isEmpty

def accessor? (compilation : Compilation) (name : String) : Option Accessor :=
  compilation.accessors.find? fun accessor => accessor.name = name

end Compilation

structure Page where
  rootLocator : Option Locator
  nested : Nested
deriving Repr

namespace Page

def readRootLocator (fields : Json.Fields) (isRoot : Bool) : Attempt (Option Locator) :=
  match isRoot, fields.get? "selector" with
  | true, some value => some <$> Selector.readRoot value pageContext
  | true, none => throw ⟨FaultCode.missingProperty, [pageContext, "selector"]⟩
  | false, some _ => throw ⟨FaultCode.unsupportedProperty, [pageContext, "selector"]⟩
  | false, none => pure none

def read (value : Json) : Attempt Page := do
  let fields ← Property.fields value pageContext "$"
  let isRoot ← Property.flag fields "root" pageContext
  let rootLocator ← readRootLocator fields isRoot
  let nested ← Nested.read fields pageContext
  return { rootLocator, nested }

def visits (page : Page) : List Visit :=
  Visit.ofNested page.nested (Scope.root false) (Scope.root true) []

def compileElements (page : Page) (registry : Registry) : Logged Compilation := do
  let outcomes ← walk registry [Scope.rootGetter] page.visits
  let compilation := Compilation.ofOutcomes page.rootLocator outcomes
  Logged.note (.compiledPage compilation.accessors.length compilation.diagnostics.length)
  return compilation

def compile (value : Json) (registry : Registry) : Attempt Compilation := do
  let page ← Page.read value
  ExceptT.lift (page.compileElements registry)

def compileText (text : String) (registry : Registry) : Logged (Except Failure Compilation) :=
  match Json.read text with
  | .error error => pure (.error (.text error))
  | .ok value => do return (← (compile value registry).run).mapError .fault

end Page

end PageObject
