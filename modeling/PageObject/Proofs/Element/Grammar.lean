import PageObject.Proofs.Element.Arguments
import PageObject.Proofs.Nested.Reading

namespace PageObject

namespace Json.Fields

def ReturnsAll (fields : Fields) : Prop :=
  ∃ selector : Fields, fields.get? "selector" = some (.object selector) ∧
    selector.value? "returnAll" = some (.bool true)

def HasNodes (fields : Fields) : Prop :=
  fields.items "elements" ≠ [] ∨ fields.shadow.items "elements" ≠ []

end Json.Fields

def Element.contextOf (name : String) : String := "element '" ++ name ++ "'"

open Element in
/-- What an accepted element node of a given name says. -/
structure Json.Fields.WritesElement (fields : Json.Fields) (name : String) (registry : Registry) : Prop where
  written : fields.value? "name" = some (.string name)
  named : name ≠ ""
  identifier : Text.isIdentifier name
  type : fields.Fits "type" .string
  reference : ∀ reference, fields.value? "type" = some (.string reference) →
    ∃ type, registry.pageObjectType reference (contextOf name) = .ok type
  isPublic : fields.Fits "public" .boolean
  isNullable : fields.Fits "nullable" .boolean
  selector : ∃ value selector, fields.get? "selector" = some value ∧
    Selector.read value (contextOf name) registry = .ok selector
  filter : ∀ value, fields.value? "filter" = some value →
    (∃ filter, Filter.read value (contextOf name) registry = .ok filter) ∧ fields.ReturnsAll
  elements : fields.Fits "elements" .array
  shadow : fields.Fits "shadow" .object
  shadowElements : fields.shadow.Fits "elements" .array
  nesting : fields.HasNodes → ¬ fields.ReturnsAll ∧ fields.value? "type" = none

theorem Selector.returnsAll_iff {fields : Json.Fields} {value : Json} {context : String} {registry : Registry}
    {selector : Selector} (held : fields.get? "selector" = some value)
    (found : Selector.read value context registry = .ok selector) :
    selector.returnsAll ↔ fields.ReturnsAll := by
  rcases read_eq_ok_iff.mp found with ⟨selectorFields, rfl, declared⟩
  rw [(Property.flag_eq_ok_iff_fits.mp declared.returnsAll).2, Json.Fields.ReturnsAll, held]
  simp

namespace Element

variable {fields : Json.Fields} {path context : String} {registry : Registry} {element : Element}

theorem isEmpty_iff {nested : Nested} (found : Nested.read fields context = .ok nested) :
    nested.isEmpty = false ↔ fields.HasNodes := by
  rcases Nested.read_eq_ok_iff.mp found with ⟨_, _, _, rfl⟩
  simp [Nested.isEmpty, Json.Fields.HasNodes, imp_iff_not_or]

section Breaches

def nameBreaches (fields : Json.Fields) (name path : String) : List (Fault → Prop) :=
  Property.stringBreaches fields "name" path ++
    [fun fault => ¬ Text.isIdentifier name ∧ fault = .invalidElementName path name]

def typeBreaches (fields : Json.Fields) (context : String) (registry : Registry) : List (Fault → Prop) :=
  [fun fault => fields.Misfits "type" .string ∧ fault = .wrongShape context "type" .string,
    fun fault => ∃ reference, fields.value? "type" = some (.string reference) ∧
      registry.pageObjectType reference context = .error fault]

def lookupBreaches (fields : Json.Fields) (context : String) (registry : Registry) : List (Fault → Prop) :=
  [fun fault => fields.Misfits "public" .boolean ∧ fault = .wrongShape context "public" .boolean,
    fun fault => fields.Misfits "nullable" .boolean ∧ fault = .wrongShape context "nullable" .boolean,
    fun fault => fields.get? "selector" = none ∧ fault = .missingProperty context "selector",
    fun fault => ∃ value, fields.get? "selector" = some value ∧
      Selector.read value context registry = .error fault,
    fun fault => ∃ value, fields.value? "filter" = some value ∧
      Filter.read value context registry = .error fault,
    fun fault => (fields.value? "filter" ≠ none ∧ ¬ fields.ReturnsAll) ∧ fault = .filterOfSingle context]

def nestingBreaches (fields : Json.Fields) (context : String) : List (Fault → Prop) :=
  [fun fault => (fields.HasNodes ∧ fields.ReturnsAll) ∧ fault = .nestingNotAllowed context .returnsList,
    fun fault => (fields.HasNodes ∧ ¬ fields.ReturnsAll ∧ fields.value? "type" ≠ none) ∧
      fault = .nestingNotAllowed context .hasPageObjectType]

/-- The requirements on an element node, in the order in which they are checked. -/
def breaches (node : Json) (path : String) (registry : Registry) : List (Fault → Prop) :=
  let fields := node.fields
  let name := label node path
  (fun fault => node.hasShape .object = false ∧ fault = .wrongShape pageContext path .object) ::
    (nameBreaches fields name path ++
    (typeBreaches fields (contextOf name) registry ++
    (lookupBreaches fields (contextOf name) registry ++
    (Nested.breaches fields (contextOf name) ++ nestingBreaches fields (contextOf name)))))

theorem readName_eq_error_iff {name : String}
    (given : ∀ text, fields.value? "name" = some (.string text) → name = text) (fault : Fault) :
    readName fields path = .error fault ↔ FirstOf (nameBreaches fields name path) fault := by
  apply FirstOf.bind_append_eq_error_iff Property.string_eq_error_iff
  intro text read fault
  rcases Property.string_eq_ok_iff.mp read with ⟨present, _⟩
  cases given text present
  by_cases identifier : Text.isIdentifier name
  · rw [if_pos identifier]
    exact iff_of_false (by simp [pure, Except.pure]) (by simp [FirstOf, identifier])
  · rw [if_neg identifier]
    simp [FirstOf, identifier, throw, throwThe, MonadExceptOf.throw, eq_comm]

theorem readKind_eq_error_iff (fault : Fault) :
    readKind fields context registry = .error fault ↔ FirstOf (typeBreaches fields context registry) fault := by
  apply FirstOf.bind_eq_error_iff (fun _ => Property.string?_eq_error_iff)
  intro reference? read fault
  rw [Property.string?_eq_ok_iff] at read
  cases reference? with
  | none => exact iff_of_false (by simp [pure, Except.pure]) (by simp [FirstOf, read])
  | some reference =>
    cases typed : registry.pageObjectType reference context <;>
      simp [FirstOf, read, typed, pure, bind, Except.pure, Except.bind]

theorem readFilter?_eq_error_iff {fault : Fault} :
    readFilter? fields context registry = .error fault ↔
      ∃ value, fields.value? "filter" = some value ∧ Filter.read value context registry = .error fault := by
  unfold readFilter?
  cases fields.value? "filter" with
  | none => simp
  | some value => cases read : Filter.read value context registry <;> simp [read, Except.map]

theorem isSome_of_readFilter? {filter? : Option Filter}
    (found : readFilter? fields context registry = .ok filter?) :
    filter?.isSome ↔ fields.value? "filter" ≠ none := by
  rcases readFilter?_eq_ok_iff.mp found with ⟨absent, rfl⟩ | ⟨value, filter, present, _, rfl⟩
  · simp [absent]
  · simp [present]

theorem cardinalityOf_eq_error_iff {returnsAll : Bool} {filter? : Option Filter} {fault : Fault} :
    cardinalityOf returnsAll filter? context = .error fault ↔
      (filter?.isSome ∧ returnsAll = false) ∧ fault = .filterOfSingle context := by
  unfold cardinalityOf
  cases returnsAll <;> cases filter? <;> simp [eq_comm]

theorem type_of_readKind {kind : ElementKind} (found : readKind fields context registry = .ok kind) :
    kind = .basic ↔ fields.value? "type" = none := by
  rcases exists_of_bind_eq_ok found with ⟨reference?, read, h⟩
  rw [Property.string?_eq_ok_iff] at read
  cases reference? with
  | none =>
    cases h
    simp [read]
  | some reference =>
    rcases exists_of_bind_eq_ok h with ⟨type, _, h⟩
    cases h
    simp [read]

theorem checkNesting_eq_error_iff {nested : Nested} {selector : Selector} {kind : ElementKind}
    (inhabited : nested.isEmpty = false ↔ fields.HasNodes) (all : selector.returnsAll ↔ fields.ReturnsAll)
    (basic : kind = .basic ↔ fields.value? "type" = none) (fault : Fault) :
    checkNesting nested selector kind context = .error fault ↔
      FirstOf (nestingBreaches fields context) fault := by
  rw [nestingBreaches, ← inhabited, ← all, Ne, ← basic]
  unfold checkNesting nestingBar?
  cases nested.isEmpty <;> cases selector.returnsAll <;> cases kind <;> simp [FirstOf, eq_comm]

theorem read_eq_error_iff {node : Json} (fault : Fault) :
    read node path registry = .error fault ↔ FirstOf (breaches node path registry) fault := by
  apply FirstOf.bind_eq_error_iff (fun _ => Property.fields_eq_error_iff)
  intro fields found
  cases Property.fields_eq_ok_iff.mp found
  simp only [Json.fields_object]
  apply FirstOf.bind_append_eq_error_iff
  · apply readName_eq_error_iff
    intro text present
    exact label_of_written present path
  intro name hName
  rw [label_of_written (readName_eq_ok_iff.mp hName).1]
  refine FirstOf.bind_append_eq_error_iff readKind_eq_error_iff fun kind hKind => ?_
  apply FirstOf.bind_eq_error_iff (fun _ => Property.flag_eq_error_iff)
  intro isPublic _
  apply FirstOf.bind_eq_error_iff (fun _ => Property.flag_eq_error_iff)
  intro isNullable _
  apply FirstOf.bind_eq_error_iff (fun _ => Property.value_eq_error_iff)
  intro value hValue
  have held := Property.value_eq_ok_iff.mp hValue
  apply FirstOf.bind_eq_error_iff (fun fault => by simp [held, contextOf])
  intro selector hSelector
  apply FirstOf.bind_eq_error_iff (fun _ => readFilter?_eq_error_iff)
  intro filter? hFilter
  have all := Selector.returnsAll_iff held hSelector
  apply FirstOf.bind_eq_error_iff
  · intro fault
    rw [cardinalityOf_eq_error_iff, isSome_of_readFilter? hFilter, ← all, Bool.not_eq_true, contextOf]
  intro cardinality _
  show ∀ fault, _ ↔
    FirstOf (Nested.breaches fields (contextOf name) ++ nestingBreaches fields (contextOf name)) fault
  apply FirstOf.bind_append_eq_error_iff Nested.read_eq_error_iff
  intro nested hNested fault
  -- The nesting is checked last: nothing can go wrong behind it.
  rw [← List.append_nil (nestingBreaches _ _)]
  apply FirstOf.bind_append_eq_error_iff
  · exact checkNesting_eq_error_iff (isEmpty_iff hNested) all (type_of_readKind hKind)
  intro _ _ fault
  exact iff_of_false (by simp [pure, Except.pure]) id

end Breaches

section Acceptance

variable {name : String}

theorem forall_not_breach_iff {P : Prop} {report : Fault} : (∀ fault, ¬ (P ∧ fault = report)) ↔ ¬ P := by
  simp

theorem forall_not_error_iff {α β : Type} {P : α → Prop} {x : α → Except Fault β} :
    (∀ fault, ¬ ∃ a, P a ∧ x a = .error fault) ↔ ∀ a, P a → ∃ b, x a = .ok b := by
  simp only [exists_ok_iff]
  constructor
  · rintro none a held ⟨fault, failed⟩
    exact none fault ⟨a, held, failed⟩
  · rintro all fault ⟨a, held, failed⟩
    exact all a held ⟨fault, failed⟩

theorem keeps_iff_writesElement :
    (∀ breach ∈ breaches (.object fields) path registry, ∀ fault, ¬ breach fault) ↔
      ∃ name, fields.WritesElement name registry := by
  simp only [breaches, nameBreaches, Property.stringBreaches, typeBreaches, lookupBreaches, Nested.breaches,
    nestingBreaches, Json.fields_object, List.forall_mem_append, List.forall_mem_cons, List.not_mem_nil,
    false_imp_iff, implies_true, and_true, forall_not_breach_iff, forall_not_error_iff]
  simp only [← Property.fits_iff, and_assoc, not_not]
  constructor
  · rintro ⟨_, text, present, filled, identifier, type, reference, isPublic, isNullable, selectorHeld, selector,
      filter, filterOfAll, elements, shadow, shadowElements, noList, noType⟩
    rcases (Property.fits_string_iff.mp text).resolve_left present with ⟨name, written⟩
    rw [label_of_written written] at identifier reference selector filter
    rcases Option.ne_none_iff_exists'.mp selectorHeld with ⟨value, held⟩
    rcases selector value held with ⟨found, read⟩
    exact ⟨name, {
      written
      named := by
        rintro rfl
        exact filled written
      identifier
      type
      reference
      isPublic
      isNullable
      selector := ⟨value, found, held, read⟩
      filter := by
        intro value present
        refine ⟨filter value present, ?_⟩
        by_contra single
        exact filterOfAll ⟨by simp [present], single⟩
      elements
      shadow
      shadowElements
      nesting := by
        intro inhabited
        have single : ¬ fields.ReturnsAll := fun all => noList ⟨inhabited, all⟩
        refine ⟨single, ?_⟩
        by_contra typed
        exact noType ⟨inhabited, single, typed⟩ }⟩
  · rintro ⟨name, writes⟩
    rw [label_of_written writes.written]
    rcases writes.selector with ⟨value, selector, held, read⟩
    have filterOfAll : ¬ (fields.value? "filter" ≠ none ∧ ¬ fields.ReturnsAll) := by
      rintro ⟨present, single⟩
      rcases Option.ne_none_iff_exists'.mp present with ⟨value, present⟩
      exact single (writes.filter value present).2
    have selectorRead : ∀ value, fields.get? "selector" = some value →
        ∃ selector, Selector.read value (contextOf name) registry = .ok selector := by
      intro other same
      cases held.symm.trans same
      exact ⟨selector, read⟩
    exact ⟨by simp [Json.hasShape], Property.fits_string_iff.mpr (.inr ⟨name, writes.written⟩),
      by simp [writes.written], by simp [writes.written, writes.named], writes.identifier, writes.type,
      writes.reference, writes.isPublic, writes.isNullable, by simp [held], selectorRead,
      fun value present => (writes.filter value present).1, filterOfAll, writes.elements, writes.shadow,
      writes.shadowElements, fun inside => (writes.nesting inside.1).1 inside.2,
      fun inside => inside.2.2 (writes.nesting inside.1).2⟩

end Acceptance

theorem exists_read_iff {node : Json} :
    (∃ element, read node path registry = .ok element) ↔
      ∃ (fields : Json.Fields) (name : String), node = .object fields ∧ fields.WritesElement name registry := by
  have keeps : (∃ element, read node path registry = .ok element) ↔
      ∀ breach ∈ breaches node path registry, ∀ fault, ¬ breach fault := by
    rw [exists_ok_iff]
    simp only [read_eq_error_iff, FirstOf.exists_iff, not_exists, not_and]
  constructor
  · rintro ⟨element, found⟩
    rcases read_eq_ok_iff.mp found with ⟨fields, rfl, _⟩
    rcases keeps_iff_writesElement.mp (keeps.mp ⟨element, found⟩) with ⟨name, writes⟩
    exact ⟨fields, name, rfl, writes⟩
  · rintro ⟨fields, name, rfl, writes⟩
    exact keeps.mpr (keeps_iff_writesElement.mpr ⟨name, writes⟩)

/-- The cardinality of an element is the one that its selector and its filter ask for. -/
structure LooksUpBy (element : Element) (fields : Json.Fields) (registry : Registry) : Prop where
  single : element.cardinality = .single ↔ ¬ fields.ReturnsAll
  multiple : element.cardinality = .multiple ↔ fields.ReturnsAll ∧ fields.value? "filter" = none
  filtered : ∀ predicate firstOnly, element.cardinality = .filtered predicate firstOnly ↔
    fields.ReturnsAll ∧ ∃ value, fields.value? "filter" = some value ∧
      Filter.read value element.context registry = .ok ⟨predicate, firstOnly⟩

theorem looksUpBy_of_read (found : read (.object fields) path registry = .ok element) :
    element.LooksUpBy fields registry := by
  rcases read_eq_ok_iff.mp found with ⟨_, same, declared⟩
  cases same
  rcases declared.selector with ⟨value, held, hSelector⟩
  rcases declared.cardinality with ⟨filter?, hFilter, chosen⟩
  have all := Selector.returnsAll_iff held hSelector
  cases returns : element.selector.returnsAll with
  | false =>
    rw [returns] at all chosen
    have single := (cardinalityOf_single_eq_ok_iff.mp chosen).2
    constructor <;> simp [single, ← all]
  | true =>
    rw [returns] at all chosen
    rcases readFilter?_eq_ok_iff.mp hFilter with ⟨absent, rfl⟩ | ⟨value, filter, present, read, rfl⟩
    · have multiple : .multiple = element.cardinality := Except.ok.inj chosen
      constructor <;> simp [← multiple, ← all, absent]
    · rcases filter with ⟨predicate, firstOnly⟩
      have filtered : .filtered predicate firstOnly = element.cardinality := Except.ok.inj chosen
      constructor <;> simp [← filtered, ← all, present, read]

theorem nested_of_read (found : read (.object fields) path registry = .ok element) :
    element.nested = ⟨fields.items "elements", fields.shadow.items "elements"⟩ := by
  rcases read_eq_ok_iff.mp found with ⟨_, same, declared⟩
  cases same
  exact (Nested.read_eq_ok_iff.mp declared.nested).2.2.2

/-- Two objects that write the same but for the nodes declared inside, of which both have some or none. -/
structure SameButNodes (fields fields' : Json.Fields) : Prop where
  others : ∀ key, key ≠ "elements" → key ≠ "shadow" → fields'.get? key = fields.get? key
  elements : SameButItems (fields.get? "elements") (fields'.get? "elements")
  shadow : SameShadow (fields.get? "shadow") (fields'.get? "shadow")
  hasNodes : fields'.HasNodes ↔ fields.HasNodes

theorem alike_nested_of_sameButNodes {fields' : Json.Fields} (same : SameButNodes fields fields') :
    Alike (fun nested nested' => nested'.isEmpty = nested.isEmpty) (Nested.read fields context)
      (Nested.read fields' context) := by
  have alike := Nested.alike_read_of_sameShadow same.elements same.shadow context
  generalize found : Nested.read fields context = result at alike ⊢
  generalize found' : Nested.read fields' context = result' at alike ⊢
  cases alike with
  | error fault => exact .error fault
  | ok _ =>
    refine .ok (Bool.eq_iff_iff.mpr ?_)
    rw [← not_iff_not, Bool.not_eq_true, Bool.not_eq_true, isEmpty_iff found', isEmpty_iff found, same.hasNodes]

theorem alike_read_of_sameButNodes {fields' : Json.Fields} (same : SameButNodes fields fields') :
    Alike (fun element element' => element' = { element with nested := element'.nested })
      (read (.object fields) path registry) (read (.object fields') path registry) := by
  have value (key : String) (elements : key ≠ "elements") (shadow : key ≠ "shadow") :
      fields'.value? key = fields.value? key :=
    Property.value?_congr (same.others key elements shadow)
  have name : readName fields' path = readName fields path := by
    unfold readName Property.string
    rw [Property.string?_congr (value "name" (by decide) (by decide))]
  have kind (context : String) : readKind fields' context registry = readKind fields context registry := by
    unfold readKind
    rw [Property.string?_congr (value "type" (by decide) (by decide))]
  have selectorValue (context : String) :
      Property.value fields' "selector" context = Property.value fields "selector" context := by
    unfold Property.value
    rw [same.others "selector" (by decide) (by decide)]
  have filter (context : String) :
      readFilter? fields' context registry = readFilter? fields context registry := by
    unfold readFilter?
    rw [value "filter" (by decide) (by decide)]
  have objects : Alike (fun found found' => found = fields ∧ found' = fields')
      (Property.fields (.object fields) pageContext path)
      (Property.fields (.object fields') pageContext path) :=
    .ok ⟨rfl, rfl⟩
  apply objects.bind
  rintro _ _ ⟨rfl, rfl⟩
  apply Alike.bind_same name
  intro name
  apply Alike.bind_same (kind _)
  intro kind
  apply Alike.bind_same (Property.flag_congr (value "public" (by decide) (by decide)) _)
  intro isPublic
  apply Alike.bind_same (Property.flag_congr (value "nullable" (by decide) (by decide)) _)
  intro isNullable
  apply Alike.bind_same (selectorValue _)
  intro selectorValue
  apply Alike.bind_same rfl
  intro selector
  apply Alike.bind_same (filter _)
  intro filter?
  apply Alike.bind_same rfl
  intro cardinality
  apply (alike_nested_of_sameButNodes same).bind
  intro nested nested' sameEmptiness
  apply Alike.bind_same (by unfold checkNesting; rw [sameEmptiness])
  intro checked
  exact .ok rfl

/-- A node is read as an element if and only if it is an object that says what an element has to say, and
otherwise with the fault of the first requirement that it breaks. The element that is read looks up what its
selector and its filter ask for; another node that differs only in the nodes declared inside it is read alike,
as long as one has such nodes if the other has. -/
theorem read_iff_writesElement (node : Json) (path : String) (registry : Registry) :
    ((∃ element, read node path registry = .ok element) ↔
      ∃ (fields : Json.Fields) (name : String), node = .object fields ∧ fields.WritesElement name registry) ∧
    (∀ fault, read node path registry = .error fault ↔ FirstOf (breaches node path registry) fault) ∧
    ∀ fields : Json.Fields, node = .object fields →
      (∀ element, read node path registry = .ok element → element.LooksUpBy fields registry ∧
        element.nested = ⟨fields.items "elements", fields.shadow.items "elements"⟩) ∧
      ∀ fields', SameButNodes fields fields' →
        Alike (fun element element' => element' = { element with nested := element'.nested })
          (read node path registry) (read (.object fields') path registry) := by
  refine ⟨exists_read_iff, read_eq_error_iff, ?_⟩
  rintro fields rfl
  refine ⟨fun element found => ⟨looksUpBy_of_read found, nested_of_read found⟩, fun fields' => ?_⟩
  exact alike_read_of_sameButNodes

def rowWith (nodes : List Json) : Json.Fields :=
  [("name", .string "row"), ("selector", .object [("css", .string "tr")]), ("elements", .array nodes)]

theorem read_iff_writesElement_row :
    SameButNodes (rowWith [.null]) (rowWith [.object [], .null]) ∧
    ∃ element element', read (.object (rowWith [.null])) "elements[0]" .standard = .ok element ∧
      read (.object (rowWith [.object [], .null])) "elements[0]" .standard = .ok element' ∧
      element.cardinality = .single ∧ element'.cardinality = .single ∧ element.nested.elements.length = 1 := by
  have same : SameButNodes (rowWith [.null]) (rowWith [.object [], .null]) := {
    others := by
      intro key elements _
      have other : (key == "elements") = false := beq_false_of_ne elements
      simp [rowWith, Json.Fields.get?, List.lookup_cons, other]
    elements := .arrays _ _
    shadow := .same none
    hasNodes := iff_of_true (.inl (List.cons_ne_nil _ _)) (.inl (List.cons_ne_nil _ _)) }
  have single : ¬ (rowWith [.null]).ReturnsAll := by
    rintro ⟨selector, held, all⟩
    cases held
    cases all
  rcases read_iff_writesElement (.object (rowWith [.null])) "elements[0]" .standard with ⟨_, _, rest⟩
  rcases rest (rowWith [.null]) rfl with ⟨describes, alike⟩
  have alike := alike _ same
  have accepted : ((read (.object (rowWith [.null])) "elements[0]" .standard).toOption.map
      Element.name).isSome := by decide +kernel
  generalize found : read (.object (rowWith [.null])) "elements[0]" .standard = result
    at alike accepted describes
  generalize found' : read (.object (rowWith [.object [], .null])) "elements[0]" .standard = result' at alike
  cases alike with
  | error fault => cases accepted
  | @ok element element' same' =>
    rcases describes element rfl with ⟨lookup, nested⟩
    have cardinality := lookup.single.mpr single
    refine ⟨same, element, element', rfl, rfl, cardinality, ?_, by rw [nested]; rfl⟩
    rw [same']
    exact cardinality

end Element

end PageObject
