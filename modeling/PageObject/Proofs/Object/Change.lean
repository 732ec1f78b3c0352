import Mathlib.Data.List.Forall2
import PageObject.Proofs.Alike
import PageObject.Proofs.Page.Erasure

namespace PageObject

inductive ObjectKind where
  | page
  | shadow
  | rootSelector
  | element
  | selector
  | filter
  | matcher
  | argument
deriving DecidableEq, Repr

inductive ObjectPart where
  | one (kind : ObjectKind)
  | many (kind : ObjectKind)
deriving DecidableEq, Repr

namespace ObjectKind

/-- The properties that are read in the objects of a kind. -/
def known : ObjectKind → List String
  | .page => ["root", "selector", "elements", "shadow"]
  | .shadow => ["elements"]
  | .rootSelector => ["css", "accessid", "classchain", "uiautomator", "args", "returnAll"]
  | .element => ["name", "type", "public", "nullable", "selector", "filter", "elements", "shadow"]
  | .selector => ["css", "accessid", "classchain", "uiautomator", "args", "returnAll"]
  | .filter => ["apply", "args", "matcher", "findFirst"]
  | .matcher => ["type", "args"]
  | .argument => ["name", "type", "value"]

/-- The properties that count as soon as their key is there, whatever stands under it. -/
def keyed : ObjectKind → List String
  | .page => ["selector"]
  | .rootSelector => ["args", "returnAll"]
  | .element => ["selector"]
  | .filter => ["matcher"]
  | .argument => ["value"]
  | .shadow | .selector | .matcher => []

def part? : ObjectKind → String → Option ObjectPart
  | .page, "selector" => some (.one .rootSelector)
  | .element, "selector" => some (.one .selector)
  | .element, "filter" => some (.one .filter)
  | .filter, "matcher" => some (.one .matcher)
  | .page, "shadow" | .element, "shadow" => some (.one .shadow)
  | .page, "elements" | .element, "elements" | .shadow, "elements" => some (.many .element)
  | .selector, "args" | .filter, "args" | .matcher, "args" => some (.many .argument)
  | _, _ => none

end ObjectKind

/-- At most one object in a value of a kind is changed: the value itself, or an object inside it. -/
inductive ChangedIn (Changed : ObjectKind → Json.Fields → Json.Fields → Prop) :
    ObjectKind → Json → Json → Prop where
  | same {kind : ObjectKind} (value : Json) : ChangedIn Changed kind value value
  | here {kind : ObjectKind} {fields fields' : Json.Fields} (changed : Changed kind fields fields') :
    ChangedIn Changed kind (.object fields) (.object fields')
  | inside {kind inner : ObjectKind} {fields : Json.Fields} {key : String} {value value' : Json}
    (part : kind.part? key = some (.one inner)) (held : fields.get? key = some value)
    (changed : ChangedIn Changed inner value value') :
    ChangedIn Changed kind (.object fields) (.object (fields.put key value'))
  | among {kind inner : ObjectKind} {fields : Json.Fields} {key : String} {before after : List Json}
    {value value' : Json} (part : kind.part? key = some (.many inner))
    (held : fields.get? key = some (.array (before ++ value :: after)))
    (changed : ChangedIn Changed inner value value') :
    ChangedIn Changed kind (.object fields) (.object (fields.put key (.array (before ++ value' :: after))))

/-- All that is read in two objects of a kind is the same. -/
structure ObjectKind.ReadSame (kind : ObjectKind) (fields fields' : Json.Fields) : Prop where
  value? : ∀ key ∈ kind.known, fields'.value? key = fields.value? key
  get? : ∀ key ∈ kind.keyed, fields'.get? key = fields.get? key

/-- What may differ in what is found under a property. An object that is read there, or a list of them, may be
replaced by one that is alike; what has another shape than is read there may differ inside. -/
inductive PartChanged (Same : ObjectKind → Json → Json → Prop) (Nodes : List Json → List Json → Prop) :
    Option ObjectPart → Option Json → Option Json → Prop where
  | same {part : Option ObjectPart} (found : Option Json) : PartChanged Same Nodes part found found
  | one {kind : ObjectKind} {value value' : Json} (same : Same kind value value') :
    PartChanged Same Nodes (some (.one kind)) (some value) (some value')
  | nodes {nodes nodes' : List Json} (same : Nodes nodes nodes') :
    PartChanged Same Nodes (some (.many .element)) (some (.array nodes)) (some (.array nodes'))
  | arguments {values values' : List Json} (same : List.Forall₂ (Same .argument) values values') :
    PartChanged Same Nodes (some (.many .argument)) (some (.array values)) (some (.array values'))
  | objects {part : Option ObjectPart} (unread : ∀ kind, part ≠ some (.one kind)) (fields fields' : Json.Fields) :
    PartChanged Same Nodes part (some (.object fields)) (some (.object fields'))
  | arrays (items items' : List Json) :
    PartChanged Same Nodes none (some (.array items)) (some (.array items'))

/-- What may differ in two objects of a kind is what stands under their properties. -/
structure ObjectKind.PartsChanged (Same : ObjectKind → Json → Json → Prop) (Nodes : List Json → List Json → Prop)
    (kind : ObjectKind) (fields fields' : Json.Fields) : Prop where
  value? : ∀ key ∈ kind.known,
    PartChanged Same Nodes (kind.part? key) (fields.value? key) (fields'.value? key)
  get? : ∀ key ∈ kind.keyed, PartChanged Same Nodes (kind.part? key) (fields.get? key) (fields'.get? key)

/-- Values of each kind are alike, and so are lists of element nodes, if they differ in nothing that is read but
in the nodes that are nested in them. -/
structure Likeness (Same : ObjectKind → Json → Json → Prop) (Nodes : List Json → List Json → Prop) : Prop where
  refl : ∀ kind value, Same kind value value
  nodes_refl : ∀ nodes, Nodes nodes nodes
  isEmpty : ∀ {nodes nodes'}, Nodes nodes nodes' → nodes'.isEmpty = nodes.isEmpty
  shapes : ∀ {kind value value'}, Same kind value value' → value' = value ∨
    (∃ items items', value = .array items ∧ value' = .array items') ∨
    ∃ fields fields', value = .object fields ∧ value' = .object fields' ∧
      kind.PartsChanged Same Nodes fields fields'

theorem ObjectKind.known_of_keyed (kind : ObjectKind) : ∀ key ∈ kind.keyed, key ∈ kind.known := by
  cases kind <;> decide

theorem ObjectKind.list_of_part? {kind inner : ObjectKind} {key : String}
    (part : kind.part? key = some (.many inner)) : inner = .element ∨ inner = .argument := by
  unfold part? at part
  split at part <;> cases part <;> simp

section

variable {Same : ObjectKind → Json → Json → Prop} {Nodes : List Json → List Json → Prop} {kind : ObjectKind}
  {fields fields' : Json.Fields}

theorem ObjectKind.PartsChanged.refl (kind : ObjectKind) (fields : Json.Fields) :
    kind.PartsChanged Same Nodes fields fields :=
  ⟨fun _ _ => .same _, fun _ _ => .same _⟩

theorem ObjectKind.ReadSame.partsChanged (h : kind.ReadSame fields fields') :
    kind.PartsChanged Same Nodes fields fields' := by
  constructor
  · intro key known
    rw [h.value? key known]
    exact .same _
  · intro key keyed
    rw [h.get? key keyed]
    exact .same _

theorem PartChanged.value?_of_get? (isNull : ∀ kind value value', Same kind value value' →
      value'.isNull = value.isNull) {part : Option ObjectPart} {key : String}
    (h : PartChanged Same Nodes part (fields.get? key) (fields'.get? key)) :
    PartChanged Same Nodes part (fields.value? key) (fields'.value? key) := by
  unfold Json.Fields.value?
  generalize fields.get? key = found at h ⊢
  generalize fields'.get? key = found' at h ⊢
  cases h with
  | same => exact .same _
  | @one inner value value' same =>
    by_cases null : value.isNull
    · simp only [Option.filter_some, isNull _ _ _ same, null]
      exact .same none
    · simp only [Option.filter_some, isNull _ _ _ same, null]
      exact .one same
  | nodes same => exact .nodes same
  | arguments same => exact .arguments same
  | objects unread => exact .objects unread _ _
  | arrays => exact .arrays _ _

theorem ObjectKind.partsChanged_of_get? (isNull : ∀ kind value value', Same kind value value' →
      value'.isNull = value.isNull)
    (parts : ∀ key ∈ kind.known,
      PartChanged Same Nodes (kind.part? key) (fields.get? key) (fields'.get? key)) :
    kind.PartsChanged Same Nodes fields fields' :=
  ⟨fun key known => (parts key known).value?_of_get? isNull,
    fun key keyed => parts key (kind.known_of_keyed key keyed)⟩

end

section

variable {Changed : ObjectKind → Json.Fields → Json.Fields → Prop} {Nodes : List Json → List Json → Prop}
  {kind : ObjectKind}

theorem ChangedIn.isNull {value value' : Json} (h : ChangedIn Changed kind value value') :
    value'.isNull = value.isNull := by
  cases h <;> rfl

theorem ObjectKind.partsChanged_put {fields : Json.Fields} {key : String} {part : ObjectPart}
    {value value' : Json} (standing : kind.part? key = some part) (held : fields.get? key = some value)
    (changed : PartChanged (ChangedIn Changed) Nodes (some part) (some value) (some value')) :
    kind.PartsChanged (ChangedIn Changed) Nodes fields (fields.put key value') := by
  refine partsChanged_of_get? (fun _ _ _ => ChangedIn.isNull) fun other _ => ?_
  rw [Json.Fields.get?_put]
  by_cases same : other = key
  · rw [if_pos same, same, standing, held]
    exact changed
  · rw [if_neg same]
    exact .same _

/-- A value is like one in which an object is changed, if the object is like the one that it is changed to. -/
theorem ChangedIn.likeness (nodes_refl : ∀ nodes, Nodes nodes nodes)
    (isEmpty : ∀ {nodes nodes'}, Nodes nodes nodes' → nodes'.isEmpty = nodes.isEmpty)
    (among : ∀ {nodes nodes'}, List.Forall₂ (ChangedIn Changed .element) nodes nodes' → Nodes nodes nodes')
    (parts : ∀ kind fields fields', Changed kind fields fields' →
      kind.PartsChanged (ChangedIn Changed) Nodes fields fields') :
    Likeness (ChangedIn Changed) Nodes where
  refl := fun _ value => .same value
  nodes_refl := nodes_refl
  isEmpty := isEmpty
  shapes := by
    intro kind value value' h
    cases h with
    | same => exact .inl rfl
    | here changed => exact .inr (.inr ⟨_, _, rfl, rfl, parts _ _ _ changed⟩)
    | inside part held changed =>
      exact .inr (.inr ⟨_, _, rfl, rfl, ObjectKind.partsChanged_put part held (.one changed)⟩)
    | among part held changed =>
      refine .inr (.inr ⟨_, _, rfl, rfl, ObjectKind.partsChanged_put part held ?_⟩)
      have items := forall₂_among ChangedIn.same changed
      rcases ObjectKind.list_of_part? part with rfl | rfl
      · exact .nodes (among (items _ _))
      · exact .arguments (items _ _)

theorem ChangedIn.likeness_of_readSame
    (unread : ∀ kind fields fields', Changed kind fields fields' → kind.ReadSame fields fields') :
    Likeness (ChangedIn Changed) (List.Forall₂ (ChangedIn Changed .element)) :=
  likeness (fun _ => List.forall₂_same.mpr fun _ _ => .same _) (fun same => by cases same <;> rfl) id
    fun _ _ _ changed => (unread _ _ _ changed).partsChanged

end

end PageObject
