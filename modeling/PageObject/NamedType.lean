namespace PageObject

/-- A named type, the import it needs, and whether a collection of it is meant. A type that is
always in scope has an empty import path. -/
structure NamedType where
  simpleName : String
  importPath : String := ""
  isCollection : Bool := false
deriving DecidableEq, Repr

namespace NamedType

/-- What tells two types apart. A type and the collection of it count as the same type. -/
def key (type : NamedType) : String × String := (type.simpleName, type.importPath)

def list (type : NamedType) : NamedType := { type with isCollection := true }

def element (type : NamedType) : NamedType := { type with isCollection := false }

def needsImport (type : NamedType) : Bool := type.importPath != ""

def displayName (type : NamedType) : String :=
  if type.isCollection then "List<" ++ type.simpleName ++ ">" else type.simpleName

@[simp] theorem key_list (type : NamedType) : type.list.key = type.key := rfl

@[simp] theorem key_element (type : NamedType) : type.element.key = type.key := rfl

@[simp] theorem element_list (type : NamedType) : type.list.element = type.element := rfl

end NamedType

def insertType (types : List NamedType) (type : NamedType) : List NamedType :=
  if types.any fun known => known.key = type.key then types else types ++ [type]

end PageObject
