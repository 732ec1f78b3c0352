import PageObject.Catalog.Template
import PageObject.Fault

namespace PageObject

/-- Message templates by code. The first template of a code counts. -/
structure Catalog where
  templates : List (Nat × Template)

namespace Catalog

def message? (catalog : Catalog) (code : Nat) (args : List String) : Option String :=
  (catalog.templates.lookup code).map fun template => template.fill args

def render (catalog : Catalog) (fault : Fault) : String :=
  (catalog.message? fault.code fault.args).getD fault.text

def withTemplate (catalog : Catalog) (code : Nat) (template : Template) : Catalog :=
  ⟨(code, template) :: catalog.templates⟩

def standard : Catalog := ⟨[
  (FaultCode.emptyString, [
    .argument 0, .text ": property \"", .argument 1, .text "\" should be a non-empty string"]),
  (FaultCode.missingProperty, [
    .argument 0, .text ": required property \"", .argument 1, .text "\" is missing"]),
  (FaultCode.noSelector, [
    .text "no recognized selector type provided, supported types are ", .argument 0]),
  (FaultCode.severalSelectors, [
    .text "mutually exclusive selector types provided, supported types are ", .argument 0]),
  (FaultCode.placeholderCount, [
    .argument 0, .text ": selector \"", .argument 1, .text "\" expects ", .argument 2,
    .text " argument(s), found ", .argument 3]),
  (FaultCode.placeholderType, [
    .argument 0, .text ": selector argument \"", .argument 1, .text "\" has type ", .argument 2,
    .text ", placeholder expects ", .argument 3]),
  (FaultCode.parameterConflict, [
    .argument 0, .text ": parameter \"", .argument 1,
    .text "\" is already declared with type ", .argument 2,
    .text ", cannot redeclare it with type ", .argument 3]),
  (FaultCode.unknownMatcher, [
    .argument 0, .text ": unknown matcher type \"", .argument 1,
    .text "\", supported types are ", .argument 2]),
  (FaultCode.matcherCount, [
    .argument 0, .text ": matcher \"", .argument 1, .text "\" expects ", .argument 2,
    .text " argument(s), found ", .argument 3]),
  (FaultCode.unsupportedType, [
    .argument 0, .text ": unsupported parameter type \"", .argument 1,
    .text "\", supported types are ", .argument 2]),
  (FaultCode.wrongShape, [
    .argument 0, .text ": property \"", .argument 1, .text "\" should be ", .argument 2]),
  (FaultCode.duplicateAccessor, [
    .argument 0, .text ": element \"", .argument 1, .text "\" duplicates accessor \"",
    .argument 2, .text "\""]),
  (FaultCode.filterOfSingle, [
    .argument 0,
    .text ": filter can only be applied when selector sets \"returnAll\" to true"]),
  (FaultCode.invalidReference, [
    .argument 0, .text ": element type \"", .argument 1,
    .text "\" is not a valid page object type"]),
  (FaultCode.nestingNotAllowed, [
    .argument 0, .text ": nested elements are not allowed, ", .argument 1]),
  (FaultCode.unsupportedProperty, [
    .argument 0, .text ": property \"", .argument 1, .text "\" is not supported"]),
  (FaultCode.matcherType, [
    .argument 0, .text ": matcher \"", .argument 1, .text "\" argument \"", .argument 2,
    .text "\" has type ", .argument 3, .text ", expected ", .argument 4]),
  (FaultCode.invalidElementName, [
    .argument 0, .text ": \"", .argument 1, .text "\" is not a valid element name"]),
  (FaultCode.invalidMethodName, [
    .argument 0, .text ": \"", .argument 1, .text "\" is not a valid method name"])]⟩

end Catalog

end PageObject
