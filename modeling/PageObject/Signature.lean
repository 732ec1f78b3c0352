import PageObject.Event
import PageObject.Parameter

namespace PageObject

structure Signature where
  owner : String
  parameters : List Parameter := []

/-- What adding parameters came to: the signature, the parameters that were new, and the conflict
that ended it early, if there was one. -/
structure Signature.Merge where
  signature : Signature
  added : List Parameter := []
  conflict : Option Fault := none

namespace Signature

def find? (signature : Signature) (name : String) : Option Parameter :=
  signature.parameters.find? fun parameter => parameter.name = name

def push (signature : Signature) (parameter : Parameter) : Signature :=
  { signature with parameters := signature.parameters ++ [parameter] }

def merge (signature : Signature) : List Parameter → Merge
  | [] => { signature }
  | parameter :: rest =>
    if parameter.isLiteral then signature.merge rest
    else
      match signature.find? parameter.name with
      | some known =>
        if known.type.key = parameter.type.key then signature.merge rest
        else
          { signature
            conflict := some ⟨FaultCode.parameterConflict,
              [signature.owner, parameter.name, known.type.displayName,
                parameter.type.displayName]⟩ }
      | none =>
        let merged := (signature.push parameter).merge rest
        { merged with added := parameter :: merged.added }

def Merge.events (merge : Merge) : List Event :=
  merge.added.map fun parameter => .addedParameter merge.signature.owner parameter.name

end Signature

end PageObject
