import PageObject.Element
import PageObject.Page.Path

namespace PageObject

structure Diagnostic where
  element : String
  fault : Fault
deriving DecidableEq, Repr

inductive Outcome where
  | built (accessor : Accessor)
  | skipped (diagnostic : Diagnostic)
deriving Repr

structure Visit where
  node : Json
  scope : Scope
  path : NodePath
deriving Repr

def Visit.ofList (nodes : List Json) (scope : Scope) (path : NodePath) (inShadow : Bool) :
    List Visit :=
  nodes.zipIdx.map fun (node, index) => ⟨node, scope, path ++ [⟨inShadow, index⟩]⟩

def Visit.ofNested (nested : Nested) (scope shadowScope : Scope) (path : NodePath) : List Visit :=
  ofList nested.elements scope path false ++ ofList nested.shadowElements shadowScope path true

structure Step where
  outcome : Outcome
  reserved : List String := []
  inner : List Visit := []
deriving Repr

namespace Visit

def innerVisits (element : Element) (accessor : Accessor) (path : NodePath) : List Visit :=
  ofNested element.nested (accessor.scope element.name element.isNullable false)
    (accessor.scope element.name element.isNullable true) path

def skip (element : String) (fault : Fault) (reserved : List String) : Logged Step := do
  Logged.note (.skippedElement element fault.code)
  return { outcome := .skipped { element, fault }, reserved }

/-- Compiles the element of a node that could be read, unless the name of its accessor is taken. The
name is taken from then on, even if the accessor's parameters conflict. -/
def compile (visit : Visit) (taken : List String) (registry : Registry) (element : Element) :
    Logged Step :=
  let name := element.accessorName
  if name ∈ taken then
    skip element.name ⟨FaultCode.duplicateAccessor, [pageContext, element.name, name]⟩ []
  else do
    match ← ((element.plan visit.scope registry).build registry).run with
    | .error fault => skip element.name fault [name]
    | .ok accessor =>
      return {
        outcome := .built accessor
        reserved := [name]
        inner := innerVisits element accessor visit.path }

def run (visit : Visit) (taken : List String) (registry : Registry) : Logged Step :=
  match Element.read visit.node visit.path.text registry with
  | .error fault => skip (Element.label visit.node visit.path.text) fault []
  | .ok element => visit.compile taken registry element

noncomputable def totalSize (visits : List Visit) : Nat := Json.totalSize (visits.map Visit.node)

theorem totalSize_append (visits others : List Visit) :
    totalSize (visits ++ others) = totalSize visits + totalSize others := by
  rw [totalSize, totalSize, totalSize, List.map_append, Json.totalSize_append]

theorem map_node_ofList (nodes : List Json) (scope : Scope) (path : NodePath) (inShadow : Bool) :
    (ofList nodes scope path inShadow).map Visit.node = nodes := by
  simp only [ofList, List.map_map]
  exact List.zipIdx_map_fst 0 nodes

theorem totalSize_ofNested (nested : Nested) (scope shadowScope : Scope) (path : NodePath) :
    totalSize (ofNested nested scope shadowScope path) = nested.totalSize := by
  rw [ofNested, totalSize_append, totalSize, totalSize, map_node_ofList, map_node_ofList]
  rfl

theorem totalSize_inner_lt (visit : Visit) (taken : List String) (registry : Registry) :
    totalSize (visit.run taken registry).value.inner < sizeOf visit.node := by
  have positive := visit.node.sizeOf_pos
  simp only [run]
  split
  · exact positive
  · rename_i element heq
    simp only [compile]
    split
    · exact positive
    · rw [Logged.value_bind]
      split
      · exact positive
      · simp only [Logged.value_pure, innerVisits, totalSize_ofNested]
        exact Element.totalSize_nested_lt heq

end Visit

/-- Makes visits in order, each followed by those to the nodes nested in its own, and collects their
outcomes. -/
def walk (registry : Registry) (taken : List String) : List Visit → Logged (List Outcome)
  | [] => pure []
  | visit :: rest =>
    let step := visit.run taken registry
    let others := walk registry (step.value.reserved ++ taken) (step.value.inner ++ rest)
    ⟨step.value.outcome :: others.value, step.events ++ others.events⟩
termination_by visits => Visit.totalSize visits
decreasing_by
  have := visit.totalSize_inner_lt taken registry
  rw [Visit.totalSize_append]
  simp only [Visit.totalSize, List.map_cons, Json.totalSize_cons]
  simp only [Visit.totalSize] at this
  omega

end PageObject
