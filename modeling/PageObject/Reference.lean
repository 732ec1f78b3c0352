import PageObject.Fault
import PageObject.Registry
import PageObject.Text.Identifier
import PageObject.Text.Uppercase

namespace PageObject

structure Reference where
  namespaceName : List Char
  directories : List (List Char)
  name : List Char
deriving DecidableEq, Repr

namespace Reference

def marker : List Char := "pageObjects".toList

/-- The reference that a text writes: a namespace, the marker, any directories and a name, with
slashes between them. The namespace and the directories are hyphenated words, the name is an
identifier. -/
def ofText? (text : String) : Option Reference :=
  match Text.segments '/' text.toList with
  | namespaceName :: mark :: rest =>
    match rest.getLast? with
    | some name =>
      if Text.isHyphenatedWord namespaceName ∧ mark = marker ∧
          rest.dropLast.all Text.isHyphenatedWord ∧ Text.isIdentifierText name then
        some ⟨namespaceName, rest.dropLast, name⟩
      else none
    | none => none
  | _ => none

def defaultPackage (namespaceName : List Char) : String :=
  String.ofList (namespaceName.map fun c => if c = '-' then '.' else c) ++ ".pageobjects"

/-- The package of a directory. For the ASCII words that directories are, `Char.toLower` is lower
case. -/
def directoryPackage (directory : List Char) : String :=
  String.ofList (directory.map fun c => if c = '-' then '_' else c.toLower)

def package (reference : Reference) (mapping : PackageMapping) : String :=
  let root := (mapping.get? (String.ofList reference.namespaceName)).getD
    (defaultPackage reference.namespaceName)
  reference.directories.foldl (fun path directory => path ++ "." ++ directoryPackage directory) root

def type (reference : Reference) (mapping : PackageMapping) : NamedType :=
  let simpleName := Text.capitalize (String.ofList reference.name)
  { simpleName, importPath := reference.package mapping ++ "." ++ simpleName }

end Reference

namespace Registry

def pageObjectType (registry : Registry) (reference context : String) : Except Fault NamedType :=
  match Reference.ofText? reference with
  | some parsed => .ok (parsed.type registry.packageMapping)
  | none => .error ⟨FaultCode.invalidReference, [context, reference]⟩

end Registry

end PageObject
