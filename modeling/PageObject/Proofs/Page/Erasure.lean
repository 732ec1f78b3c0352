import PageObject.Proofs.Page.Tree

namespace PageObject

namespace Json

def mapField (key : String) (change : Json → Json) : Json → Json
  | .object fields =>
    match Fields.get? fields key with
    | some held => .object (Fields.put fields key (change held))
    | none => .object fields
  | value => value

def mapItems (change : List Json → List Json) : Json → Json
  | .array items => .array (change items)
  | value => value

def mapNodes (inShadow : Bool) (change : List Json → List Json) (value : Json) : Json :=
  if inShadow then value.mapField "shadow" (mapField "elements" (mapItems change))
  else value.mapField "elements" (mapItems change)

/-- Takes the node at the end of a path out of its list. -/
def eraseNode : NodePath → Json → Json
  | [], value => value
  | [place], value => value.mapNodes place.inShadow fun nodes => nodes.eraseIdx place.index
  | place :: rest, value =>
    value.mapNodes place.inShadow fun nodes => nodes.modify place.index (eraseNode rest)

def eraseIn (index : Nat) : NodePath → List Json → List Json
  | [], nodes => nodes.eraseIdx index
  | next :: rest, nodes => nodes.modify index (eraseNode (next :: rest))

theorem eraseNode_cons (place : NodePlace) (rest : NodePath) (value : Json) :
    eraseNode (place :: rest) value = value.mapNodes place.inShadow (eraseIn place.index rest) := by
  cases rest <;> rfl

theorem eraseIn_nil (index : Nat) (rest : NodePath) : eraseIn index rest [] = [] := by
  cases rest with
  | nil => rfl
  | cons next rest => cases index <;> rfl

theorem Fields.get?_put (fields : Fields) (key other : String) (value : Json) :
    get? (put fields key value) other = if other = key then some value else get? fields other := by
  induction fields with
  | nil =>
    rw [put, get?_cons]
  | cons field rest ih =>
    rcases field with ⟨name, old⟩
    unfold put
    split
    · rename_i same
      subst same
      rw [get?_cons, get?_cons]
      split <;> rfl
    · rename_i different
      rw [get?_cons, get?_cons, ih]
      by_cases first : other = name
      · have later : other ≠ key := fun same => different (first.symm.trans same)
        rw [if_pos first, if_pos first, if_neg later]
      · rw [if_neg first, if_neg first]

theorem mapField_object (fields : Fields) (key : String) (change : Json → Json) :
    ∃ fields' : Fields, mapField key change (.object fields) = .object fields' ∧
      Fields.get? fields' key = (Fields.get? fields key).map change ∧
      ∀ other, other ≠ key → Fields.get? fields' other = Fields.get? fields other := by
  unfold mapField
  cases found : Fields.get? fields key with
  | none => exact ⟨fields, by simp [found], by simp [found], fun _ _ => rfl⟩
  | some held =>
    refine ⟨Fields.put fields key (change held), by simp [found], ?_, ?_⟩
    · simp [Fields.get?_put]
    · intro other different
      rw [Fields.get?_put, if_neg different]

end Json

theorem Property.items_mapItems {fields fields' : Json.Fields} {key context : String}
    {change : List Json → List Json} (empty : change [] = []) {items : List Json}
    (h : Property.items fields key context = .ok items)
    (changed : fields'.get? key = (fields.get? key).map (Json.mapItems change)) :
    Property.items fields' key context = .ok (change items) := by
  have kept : fields'.value? key = (fields.value? key).map (Json.mapItems change) := by
    unfold Json.Fields.value?
    rw [changed]
    cases fields.get? key with
    | none => rfl
    | some value => cases value <;> rfl
  rw [Property.items_eq_ok_iff] at h ⊢
  rw [kept]
  rcases h with ⟨absent, rfl⟩ | present
  · exact .inl ⟨by rw [absent]; rfl, empty⟩
  · exact .inr (by rw [present]; rfl)

namespace Nested

def map (nested : Nested) (inShadow : Bool) (change : List Json → List Json) : Nested :=
  if inShadow then { nested with shadowElements := change nested.shadowElements }
  else { nested with elements := change nested.elements }

theorem readShadow_mapItems {fields fields' : Json.Fields} {context : String}
    {change : List Json → List Json} (empty : change [] = []) {items : List Json}
    (h : readShadow fields context = .ok items)
    (changed : fields'.get? "shadow" =
      (fields.get? "shadow").map (Json.mapField "elements" (Json.mapItems change))) :
    readShadow fields' context = .ok (change items) := by
  have kept : fields'.value? "shadow" =
      (fields.value? "shadow").map (Json.mapField "elements" (Json.mapItems change)) := by
    unfold Json.Fields.value?
    rw [changed]
    cases fields.get? "shadow" with
    | none => rfl
    | some value =>
      cases value with
      | object shadow =>
        obtain ⟨shadow', isObject, found, others⟩ :=
          Json.mapField_object shadow "elements" (Json.mapItems change)
        rw [Option.map_some, isObject]
        exact congrArg some isObject.symm
      | _ => rfl
  unfold readShadow at h ⊢
  rw [kept]
  cases held : fields.value? "shadow" with
  | none =>
    rw [held] at h
    cases h
    simp [empty]
  | some value =>
    rw [held] at h
    rcases exists_of_bind_eq_ok h with ⟨shadow, isObject, h⟩
    cases Property.fields_eq_ok_iff.mp isObject
    obtain ⟨shadow', isObject', found, others⟩ :=
      Json.mapField_object shadow "elements" (Json.mapItems change)
    simp only [Option.map_some, isObject']
    exact Property.items_mapItems empty h found

theorem read_mapNodes {fields : Json.Fields} {context : String} {nested : Nested} {inShadow : Bool}
    {change : List Json → List Json} (empty : change [] = [])
    (h : read fields context = .ok nested) :
    ∃ fields' : Json.Fields, (Json.object fields).mapNodes inShadow change = .object fields' ∧
      (∀ key, key ≠ "elements" → key ≠ "shadow" → fields'.get? key = fields.get? key) ∧
      read fields' context = .ok (nested.map inShadow change) := by
  rcases exists_of_bind_eq_ok h with ⟨elements, hElements, h⟩
  rcases exists_of_bind_eq_ok h with ⟨shadowElements, hShadow, h⟩
  cases h
  cases inShadow with
  | false =>
    obtain ⟨fields', isObject, changed, others⟩ :=
      Json.mapField_object fields "elements" (Json.mapItems change)
    refine ⟨fields', isObject, fun key light _ => others key light, ?_⟩
    have shadow : readShadow fields' context = .ok shadowElements := by
      rw [← hShadow]
      unfold readShadow
      rw [Property.value?_congr (others "shadow" (by decide))]
    simp only [read, Property.items_mapItems empty hElements changed, shadow, Bind.bind, Except.bind]
    rfl
  | true =>
    obtain ⟨fields', isObject, changed, others⟩ :=
      Json.mapField_object fields "shadow" (Json.mapField "elements" (Json.mapItems change))
    refine ⟨fields', isObject, fun key _ shadow => others key shadow, ?_⟩
    have light : Property.items fields' "elements" context = .ok elements :=
      (Property.items_congr (Property.value?_congr (others "elements" (by decide))) _).trans hElements
    simp only [read, light, readShadow_mapItems empty hShadow changed, Bind.bind, Except.bind]
    rfl

end Nested

namespace Element

theorem DeclaredBy.mapNodes {element : Element} {fields fields' : Json.Fields} {registry : Registry}
    {inShadow : Bool} {change : List Json → List Json} (empty : change [] = [])
    (declared : element.DeclaredBy fields registry)
    (others : ∀ key, key ≠ "elements" → key ≠ "shadow" → fields'.get? key = fields.get? key)
    (nested : Nested.read fields' element.context = .ok (element.nested.map inShadow change)) :
    DeclaredBy { element with nested := element.nested.map inShadow change } fields' registry where
  name := (Property.value?_congr (others "name" (by decide) (by decide))).trans declared.name
  named := declared.named
  identifier := declared.identifier
  kind := by
    have same : readKind fields' element.context registry = readKind fields element.context registry := by
      unfold readKind
      rw [Property.string?_congr (Property.value?_congr (others "type" (by decide) (by decide)))]
    exact same.trans declared.kind
  isPublic :=
    (Property.flag_congr (Property.value?_congr (others "public" (by decide) (by decide))) _).trans
      declared.isPublic
  isNullable :=
    (Property.flag_congr (Property.value?_congr (others "nullable" (by decide) (by decide))) _).trans
      declared.isNullable
  selector := by
    rw [others "selector" (by decide) (by decide)]
    exact declared.selector
  cardinality := by
    have same : readFilter? fields' element.context registry =
        readFilter? fields element.context registry := by
      unfold readFilter?
      rw [Property.value?_congr (others "filter" (by decide) (by decide))]
    rcases declared.cardinality with ⟨filter, found, chosen⟩
    exact ⟨filter, same.trans found, chosen⟩
  nested := nested
  nesting := by
    have nesting := declared.nesting
    unfold checkNesting at nesting ⊢
    split
    · rfl
    · rename_i inhabited
      split at nesting
      · rename_i barren
        refine absurd ?_ inhabited
        cases inShadow <;>
          simp_all [Nested.map, Nested.isEmpty, List.isEmpty_iff]
      · exact nesting

theorem read_mapNodes {node : Json} {path : String} {registry : Registry} {element : Element}
    {inShadow : Bool} {change : List Json → List Json} (empty : change [] = [])
    (h : read node path registry = .ok element) :
    read (node.mapNodes inShadow change) path registry =
      .ok { element with nested := element.nested.map inShadow change } := by
  rcases read_eq_ok_iff.mp h with ⟨fields, rfl, declared⟩
  rcases Nested.read_mapNodes empty declared.nested with ⟨fields', isObject, others, nested⟩
  exact read_eq_ok_iff.mpr ⟨fields', isObject, declared.mapNodes empty others nested⟩

end Element

theorem Page.read_mapNodes {value : Json} {page : Page} {inShadow : Bool}
    {change : List Json → List Json} (empty : change [] = [])
    (h : (Page.read value).outcome = .ok page) :
    (Page.read (value.mapNodes inShadow change)).outcome =
      .ok { page with nested := page.nested.map inShadow change } := by
  rcases outcome_read_eq_ok_iff.mp h with ⟨fields, isRoot, rfl, hRoot, hLocator, hNested⟩
  rcases Nested.read_mapNodes empty hNested with ⟨fields', isObject, others, nested⟩
  refine outcome_read_eq_ok_iff.mpr ⟨fields', isRoot, isObject, ?_, ?_, nested⟩
  · exact (Property.flag_congr (Property.value?_congr (others "root" (by decide) (by decide))) _).trans hRoot
  · have same : readRootLocator fields' isRoot = readRootLocator fields isRoot := by
      unfold readRootLocator
      rw [others "selector" (by decide) (by decide)]
    rw [same]
    exact hLocator

end PageObject
