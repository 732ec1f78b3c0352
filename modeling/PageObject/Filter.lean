import PageObject.Argument
import PageObject.Matcher

namespace PageObject

structure Predicate where
  applyMethod : String
  applyParameters : List Parameter
  matcher : Matcher
  matcherParameters : List Parameter
deriving Repr

namespace Predicate

def candidate : String := "elm"

def operand : String := "tmp"

def parameters (predicate : Predicate) : List Parameter :=
  predicate.applyParameters ++ predicate.matcherParameters

def code (predicate : Predicate) : String :=
  let call := candidate ++ "." ++ predicate.applyMethod ++
    "(" ++ argumentList predicate.applyParameters ++ ")"
  let condition := predicate.matcher.condition operand (argumentList predicate.matcherParameters)
  candidate ++ " -> \x7b " ++ predicate.matcher.resultType ++ " " ++ operand ++ " = " ++ call ++
    "; return " ++ condition ++ "; \x7d"

end Predicate

structure Filter where
  predicate : Predicate
  firstOnly : Bool
deriving Repr

namespace Filter

def checkArguments (matcher : Matcher) (args : List Parameter) (context : String)
    (registry : Registry) : Except Fault Unit :=
  if args.length ≠ matcher.arity then
    .error ⟨FaultCode.matcherCount,
      [context, matcher.name, toString matcher.arity, toString args.length]⟩
  else
    match matcher.argumentType? with
    | none => .ok ()
    | some expected =>
      match args.find? fun argument => registry.parameterType? argument.type ≠ some expected with
      | none => .ok ()
      | some argument =>
        .error ⟨FaultCode.matcherType,
          [context, matcher.name, argument.name,
            actualTypeName (registry.parameterType? argument.type), expected.name]⟩

def readMatcher (value : Json) (context : String) (registry : Registry) :
    Except Fault (Matcher × List Parameter) := do
  let ownContext := context ++ " matcher"
  let fields ← Property.fields value context "matcher"
  let name ← Property.string fields "type" ownContext
  match Matcher.ofName? name with
  | none => throw ⟨FaultCode.unknownMatcher, [context, name, Matcher.supported]⟩
  | some matcher =>
    let args ← Property.items fields "args" ownContext
    let parameters ← Argument.readAll args ownContext registry
    checkArguments matcher parameters context registry
    return (matcher, parameters)

def read (value : Json) (context : String) (registry : Registry) : Except Fault Filter := do
  let ownContext := context ++ " filter"
  let fields ← Property.fields value context "filter"
  let applyMethod ← Property.string fields "apply" ownContext
  if !Text.isIdentifier applyMethod then
    throw ⟨FaultCode.invalidMethodName, [ownContext, applyMethod]⟩
  let args ← Property.items fields "args" ownContext
  let applyParameters ← Argument.readAll args ownContext registry
  let matcherValue ← Property.value fields "matcher" ownContext
  let (matcher, matcherParameters) ← readMatcher matcherValue ownContext registry
  let firstOnly ← Property.flag fields "findFirst" ownContext
  return { predicate := { applyMethod, applyParameters, matcher, matcherParameters }, firstOnly }

end Filter

end PageObject
