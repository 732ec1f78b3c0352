namespace PageObject

structure NodePlace where
  inShadow : Bool
  index : Nat
deriving DecidableEq, Repr

def NodePlace.text (place : NodePlace) : String :=
  (if place.inShadow then "shadow." else "") ++ s!"elements[{place.index}]"

abbrev NodePath := List NodePlace

def NodePath.text (path : NodePath) : String := ".".intercalate (path.map NodePlace.text)

end PageObject
