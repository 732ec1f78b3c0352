import PageObject.Page
import PageObject.Proofs.Element.Reading

namespace PageObject

namespace Json

def nodesIn (value : Json) (inShadow : Bool) : List Json :=
  match (if inShadow then value.field? "shadow" else some value).bind (·.field? "elements") with
  | some (.array nodes) => nodes
  | _ => []

def child? (value : Json) (place : NodePlace) : Option Json :=
  (value.nodesIn place.inShadow)[place.index]?

def nodeAt? : Json → NodePath → Option Json
  | value, [] => some value
  | value, place :: rest => (value.child? place).bind fun node => node.nodeAt? rest

/-- The nodes that a path passes through, its end included. -/
def nodesAlong : Json → NodePath → List Json
  | _, [] => []
  | value, place :: rest => match value.child? place with
    | some node => node :: node.nodesAlong rest
    | none => []

theorem nodeAt?_append (value : Json) (path rest : NodePath) :
    value.nodeAt? (path ++ rest) = (value.nodeAt? path).bind fun node => node.nodeAt? rest := by
  induction path generalizing value with
  | nil => rfl
  | cons place path ih =>
    simp only [List.cons_append, nodeAt?]
    cases value.child? place with
    | none => rfl
    | some node => exact ih node

theorem nodeAt?_snoc (value : Json) (path : NodePath) (place : NodePlace) :
    value.nodeAt? (path ++ [place]) = (value.nodeAt? path).bind fun node => node.child? place := by
  rw [nodeAt?_append]
  cases value.nodeAt? path with
  | none => rfl
  | some node => cases h : node.child? place <;> simp [nodeAt?, h]

theorem nodesAlong_append {value node : Json} {path : NodePath} (h : value.nodeAt? path = some node)
    (rest : NodePath) : value.nodesAlong (path ++ rest) = value.nodesAlong path ++ node.nodesAlong rest := by
  induction path generalizing value with
  | nil =>
    cases h
    rfl
  | cons place path ih =>
    simp only [nodeAt?, Option.bind_eq_some_iff] at h
    rcases h with ⟨next, found, h⟩
    simp only [List.cons_append, nodesAlong, found, ih h]

end Json

namespace Nested

def nodes (nested : Nested) (inShadow : Bool) : List Json :=
  if inShadow then nested.shadowElements else nested.elements

theorem isEmpty_of_getElem? {nested : Nested} {inShadow : Bool} {index : Nat} {node : Json}
    (held : (nested.nodes inShadow)[index]? = some node) : nested.isEmpty = false := by
  have inhabited : nested.nodes inShadow ≠ [] := by
    intro empty
    rw [empty] at held
    cases held
  unfold nodes at inhabited
  cases inShadow <;> simp_all [isEmpty]

theorem nodes_of_items {fields : Json.Fields} {context : String} {found : List Json}
    (h : Property.items fields "elements" context = .ok found) :
    (Json.object fields).nodesIn false = found := by
  rcases Property.items_eq_ok_iff.mp h with ⟨absent, rfl⟩ | present
  · unfold Json.nodesIn
    split
    · rename_i items held
      simp only [Bool.false_eq_true, ↓reduceIte, Option.bind_some, Json.field?] at held
      simp [Json.Fields.value?, held, Json.isNull] at absent
    · rfl
  · have held := Json.Fields.get?_of_value? present
    simp [Json.nodesIn, Json.field?, held]

theorem nodes_of_readShadow {fields : Json.Fields} {context : String} {found : List Json}
    (h : readShadow fields context = .ok found) : (Json.object fields).nodesIn true = found := by
  unfold readShadow at h
  split at h
  · rename_i absent
    cases h
    unfold Json.nodesIn
    split
    · rename_i items held
      simp only [↓reduceIte, Json.field?] at held
      cases shadow : fields.get? "shadow" with
      | none => simp [shadow] at held
      | some value =>
        cases value <;> simp [Json.Fields.value?, shadow, Json.isNull] at absent held
    · rfl
  · rename_i value present
    rcases exists_of_bind_eq_ok h with ⟨shadow, isObject, h⟩
    cases Property.fields_eq_ok_iff.mp isObject
    have held := Json.Fields.get?_of_value? present
    rw [← nodes_of_items h]
    simp [Json.nodesIn, Json.field?, held]

theorem nodes_of_read {fields : Json.Fields} {context : String} {nested : Nested}
    (h : read fields context = .ok nested) (inShadow : Bool) :
    nested.nodes inShadow = (Json.object fields).nodesIn inShadow := by
  rcases exists_of_bind_eq_ok h with ⟨elements, hElements, h⟩
  rcases exists_of_bind_eq_ok h with ⟨shadowElements, hShadow, h⟩
  cases h
  cases inShadow
  · exact (nodes_of_items hElements).symm
  · exact (nodes_of_readShadow hShadow).symm

end Nested

theorem Element.nodes_of_read {node : Json} {path : String} {registry : Registry} {element : Element}
    (h : Element.read node path registry = .ok element) (inShadow : Bool) :
    element.nested.nodes inShadow = node.nodesIn inShadow := by
  rcases Element.read_eq_ok_iff.mp h with ⟨fields, rfl, declared⟩
  exact Nested.nodes_of_read declared.nested inShadow

namespace Page

theorem outcome_read_eq_ok_iff {value : Json} {page : Page} :
    (read value).outcome = .ok page ↔
      ∃ fields isRoot, value = .object fields ∧ Property.flag fields "root" pageContext = .ok isRoot ∧
        (readRootLocator fields isRoot).outcome = .ok page.rootLocator ∧
        Nested.read fields pageContext = .ok page.nested := by
  unfold read
  simp only [Attempt.outcome_bind, bind_eq_ok_iff]
  constructor
  · intro h
    rcases h with ⟨fields, hFields, isRoot, hRoot, rootLocator, hLocator, nested, hNested, h⟩
    cases h
    exact ⟨fields, isRoot, Property.fields_eq_ok_iff.mp hFields, hRoot, hLocator, hNested⟩
  · intro h
    rcases h with ⟨fields, isRoot, isObject, hRoot, hLocator, hNested⟩
    exact ⟨fields, Property.fields_eq_ok_iff.mpr isObject, isRoot, hRoot, page.rootLocator, hLocator,
      page.nested, hNested, rfl⟩

theorem nodes_of_read {value : Json} {page : Page} (h : (read value).outcome = .ok page)
    (inShadow : Bool) : page.nested.nodes inShadow = value.nodesIn inShadow := by
  rcases outcome_read_eq_ok_iff.mp h with ⟨fields, isRoot, rfl, hRoot, hLocator, hNested⟩
  exact Nested.nodes_of_read hNested inShadow

theorem outcome_compile_eq_ok_iff {value : Json} {registry : Registry} {compilation : Compilation} :
    (compile value registry).outcome = .ok compilation ↔
      ∃ page, (read value).outcome = .ok page ∧
        compilation = .ofOutcomes page.rootLocator (walk registry [Scope.rootGetter] page.visits).value := by
  unfold compile
  rw [Attempt.outcome_bind, bind_eq_ok_iff]
  constructor
  · intro h
    rcases h with ⟨page, found, h⟩
    cases h
    exact ⟨page, found, rfl⟩
  · intro h
    rcases h with ⟨page, found, rfl⟩
    exact ⟨page, found, rfl⟩

end Page

theorem Visit.mem_ofList {visit : Visit} {nodes : List Json} {scope : Scope} {path : NodePath}
    {inShadow : Bool} :
    visit ∈ Visit.ofList nodes scope path inShadow ↔
      ∃ index node, nodes[index]? = some node ∧ visit = ⟨node, scope, path ++ [⟨inShadow, index⟩]⟩ := by
  unfold Visit.ofList
  rw [List.mem_map]
  constructor
  · intro h
    rcases h with ⟨⟨node, index⟩, member, rfl⟩
    exact ⟨index, node, List.mk_mem_zipIdx_iff_getElem?.mp member, rfl⟩
  · intro h
    rcases h with ⟨index, node, found, rfl⟩
    exact ⟨(node, index), List.mk_mem_zipIdx_iff_getElem?.mpr found, rfl⟩

theorem Visit.mem_ofNested {visit : Visit} {nested : Nested} {scope shadowScope : Scope} {path : NodePath} :
    visit ∈ Visit.ofNested nested scope shadowScope path ↔
      ∃ place node, (nested.nodes place.inShadow)[place.index]? = some node ∧
        visit = ⟨node, if place.inShadow then shadowScope else scope, path ++ [place]⟩ := by
  unfold Visit.ofNested
  rw [List.mem_append, mem_ofList, mem_ofList]
  constructor
  · rintro (⟨index, node, found, rfl⟩ | ⟨index, node, found, rfl⟩)
    · exact ⟨⟨false, index⟩, node, found, rfl⟩
    · exact ⟨⟨true, index⟩, node, found, rfl⟩
  · intro h
    rcases h with ⟨⟨inShadow, index⟩, node, found, rfl⟩
    cases inShadow
    · exact .inl ⟨index, node, found, rfl⟩
    · exact .inr ⟨index, node, found, rfl⟩

end PageObject
