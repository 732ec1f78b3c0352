import PageObject.Parameter

namespace PageObject

structure Scope where
  name : String
  getter : String
  parameters : List Parameter
  isNullable : Bool
  expandsShadowRoot : Bool
deriving Repr

namespace Scope

def rootGetter : String := "getRootElement"

def root (expandsShadowRoot : Bool) : Scope :=
  { name := "root", getter := rootGetter, parameters := [], isNullable := false, expandsShadowRoot }

def declarationLine (scope : Scope) (base : NamedType) : String :=
  base.simpleName ++ " " ++ scope.name ++ " = this." ++ scope.getter ++
    "(" ++ argumentList scope.parameters ++ ")" ++
    (if scope.isNullable then ".nullable()" else "") ++
    (if scope.expandsShadowRoot then ".expandShadowRoot()" else "")

end Scope

end PageObject
