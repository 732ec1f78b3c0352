import PageObject.Config
import PageObject.ParameterType
import PageObject.NamedType

namespace PageObject

structure Registry where
  basicElement : NamedType
  list : NamedType
  locator : NamedType
  packageMapping : PackageMapping
deriving DecidableEq, Repr

def unqualifiedName (name : String) : String :=
  match Text.splitLast? '.' name.toList with
  | some (_, after) => String.ofList after
  | none => name

def Config.registry (config : Config) : Registry :=
  let core := Text.trim config.corePackage
  { basicElement := { simpleName := "BasicElement", importPath := core ++ ".BasicElement" }
    list := { simpleName := unqualifiedName config.listImport, importPath := config.listImport }
    locator := { simpleName := "Locator", importPath := core ++ ".Locator" }
    packageMapping := config.packageMapping }

namespace Registry

def ofConfig (config : Config) : Except ConfigError Registry := do
  config.check
  return config.registry

def standard : Registry := ({} : Config).registry

def typeOf (registry : Registry) : ParameterType → NamedType
  | .string => { simpleName := "String" }
  | .number => { simpleName := "Integer" }
  | .boolean => { simpleName := "Boolean" }
  | .locator => registry.locator

def parameterType? (registry : Registry) (type : NamedType) : Option ParameterType :=
  ParameterType.all.find? fun declared => (registry.typeOf declared).key = type.key

def imports (registry : Registry) (type : NamedType) : List NamedType :=
  (if type.isCollection then [registry.list] else []) ++
    (if type.needsImport then [type.element] else [])

def addImports (registry : Registry) (types : List NamedType) (type : NamedType) : List NamedType :=
  (registry.imports type).foldl insertType types

end Registry

end PageObject
