import Mathlib.Data.List.Forall2
import PageObject.Element
import PageObject.Proofs.Alike
import PageObject.Proofs.Object.Change
import PageObject.Proofs.Selector.Root

namespace PageObject

section

variable {Same : ObjectKind → Json → Json → Prop} {Nodes : List Json → List Json → Prop} {kind : ObjectKind}
  {fields fields' : Json.Fields} {context : String} {registry : Registry}

namespace ObjectKind.PartsChanged

variable (parts : kind.PartsChanged Same Nodes fields fields') (key : String)

include parts

theorem bind_string?_eq (known : key ∈ kind.known) (single : kind.part? key = none) :
    (fields'.value? key).bind Json.string? = (fields.value? key).bind Json.string? := by
  have part := parts.value? key known
  rw [single] at part
  generalize fields.value? key = found at part ⊢
  generalize fields'.value? key = found' at part ⊢
  cases part <;> rfl

theorem contains_eq (keyed : key ∈ kind.keyed) (single : kind.part? key = none) :
    fields'.contains key = fields.contains key := by
  have part := parts.get? key keyed
  rw [single] at part
  unfold Json.Fields.contains
  generalize fields.get? key = found at part ⊢
  generalize fields'.get? key = found' at part ⊢
  cases part <;> rfl

theorem string?_eq (known : key ∈ kind.known) (single : kind.part? key = none) (context : String) :
    Property.string? fields' key context = Property.string? fields key context := by
  have part := parts.value? key known
  rw [single] at part
  unfold Property.string?
  generalize fields.value? key = found at part ⊢
  generalize fields'.value? key = found' at part ⊢
  cases part <;> rfl

theorem string_eq (known : key ∈ kind.known) (single : kind.part? key = none) (context : String) :
    Property.string fields' key context = Property.string fields key context := by
  unfold Property.string
  rw [parts.string?_eq key known single]

theorem flag_eq (known : key ∈ kind.known) (single : kind.part? key = none) (context : String) :
    Property.flag fields' key context = Property.flag fields key context := by
  have part := parts.value? key known
  rw [single] at part
  unfold Property.flag
  generalize fields.value? key = found at part ⊢
  generalize fields'.value? key = found' at part ⊢
  cases part <;> rfl

theorem alike_arguments (known : key ∈ kind.known) (list : kind.part? key = some (.many .argument))
    (unchanged : ∀ value, Same .argument value value) (context : String) :
    Alike (List.Forall₂ (Same .argument)) (Property.items fields key context)
      (Property.items fields' key context) := by
  have part := parts.value? key known
  rw [list] at part
  unfold Property.items
  generalize fields.value? key = found at part ⊢
  generalize fields'.value? key = found' at part ⊢
  cases part with
  | same => exact .refl (fun values => List.forall₂_same.mpr fun value _ => unchanged value) _
  | arguments same => exact .ok same
  | objects => exact .error _

theorem alike_nodes (known : key ∈ kind.known) (list : kind.part? key = some (.many .element))
    (unchanged : ∀ nodes, Nodes nodes nodes) (context : String) :
    Alike Nodes (Property.items fields key context) (Property.items fields' key context) := by
  have part := parts.value? key known
  rw [list] at part
  unfold Property.items
  generalize fields.value? key = found at part ⊢
  generalize fields'.value? key = found' at part ⊢
  cases part with
  | same => exact .refl unchanged _
  | nodes same => exact .ok same
  | objects => exact .error _

theorem alike_value (inner : ObjectKind) (keyed : key ∈ kind.keyed)
    (object : kind.part? key = some (.one inner)) (unchanged : ∀ value, Same inner value value)
    (context : String) :
    Alike (Same inner) (Property.value fields key context) (Property.value fields' key context) := by
  have part := parts.get? key keyed
  rw [object] at part
  unfold Property.value
  generalize fields.get? key = found at part ⊢
  generalize fields'.get? key = found' at part ⊢
  cases part with
  | same => exact .refl unchanged _
  | one same => exact .ok same
  | objects unread => exact absurd rfl (unread inner)

end ObjectKind.PartsChanged

variable (likeness : Likeness Same Nodes)

include likeness

theorem Property.alike_fields {value value' : Json} (h : Same kind value value') (context property : String) :
    Alike (kind.PartsChanged Same Nodes) (Property.fields value context property)
      (Property.fields value' context property) := by
  rcases likeness.shapes h with rfl | ⟨items, items', rfl, rfl⟩ | ⟨fields, fields', rfl, rfl, parts⟩
  · exact .refl (.refl kind) _
  · exact .error _
  · exact .ok parts

namespace Argument

theorem read_of_alike {value value' : Json} (h : Same .argument value value') (index : Nat) :
    read value' index context registry = read value index context registry := by
  apply Alike.eq
  apply (Property.alike_fields likeness h context (property index)).bind
  intro fields fields' parts
  apply Alike.of_eq
  have name := parts.string?_eq "name" (by decide) (by decide)
  have type := parts.string?_eq "type" (by decide) (by decide)
  have part := parts.get? "value" (by decide)
  have single : ObjectKind.part? .argument "value" = none := by decide
  rw [single] at part
  generalize fields.get? "value" = found at part ⊢
  generalize fields'.get? "value" = found' at part ⊢
  cases part with
  | same => simp only [readLiteral, readNamed, Property.string, name, type]
  | objects => rfl
  | arrays => rfl

theorem readFrom_of_alike {values values' : List Json} (h : List.Forall₂ (Same .argument) values values')
    (index : Nat) : readFrom context registry index values' = readFrom context registry index values := by
  induction h generalizing index with
  | nil => rfl
  | @cons value value' values values' first others ih =>
    rw [readFrom, readFrom, read_of_alike likeness first, ih]

theorem readAll_of_alike {values values' : List Json} (h : List.Forall₂ (Same .argument) values values') :
    readAll values' context registry = readAll values context registry :=
  readFrom_of_alike likeness h 0

end Argument

omit likeness in
theorem Selector.readLocator_of_partsChanged (parts : kind.PartsChanged Same Nodes fields fields')
    (known : ∀ strategy : Strategy, strategy.property ∈ kind.known ∧ kind.part? strategy.property = none) :
    readLocator fields' context = readLocator fields context := by
  have same (strategy : Strategy) (context : String) :
      Property.string? fields' strategy.property context = Property.string? fields strategy.property context :=
    parts.string?_eq _ (known strategy).1 (known strategy).2 context
  simp only [readLocator, same]

theorem Selector.read_of_alike {value value' : Json} (h : Same .selector value value') :
    read value' context registry = read value context registry := by
  apply Alike.eq
  apply (Property.alike_fields likeness h context "selector").bind
  intro fields fields' parts
  apply Alike.bind_same (readLocator_of_partsChanged parts fun strategy => by cases strategy <;> decide)
  intro locator
  apply (parts.alike_arguments "args" (by decide) (by decide) (likeness.refl _) _).bind
  intro items items' same
  apply Alike.bind_same (Argument.readAll_of_alike likeness same)
  intro parameters
  apply Alike.bind_same rfl
  intro checked
  apply Alike.of_eq
  rw [parts.flag_eq "returnAll" (by decide) (by decide)]

theorem Selector.outcome_readRoot_of_alike {value value' : Json} (h : Same .rootSelector value value') :
    (readRoot value' context).outcome = (readRoot value context).outcome := by
  rw [outcome_readRoot, outcome_readRoot]
  apply Alike.eq
  apply (Property.alike_fields likeness h context "selector").bind
  intro fields fields' parts
  have args := parts.contains_eq "args" (by decide) (by decide)
  have returnsAll := parts.contains_eq "returnAll" (by decide) (by decide)
  have locator : readLocator fields' context = readLocator fields context :=
    readLocator_of_partsChanged parts fun strategy => by cases strategy <;> decide
  apply Alike.of_eq
  simp only [List.find?_cons, List.find?_nil, args, returnsAll, locator]

namespace Filter

theorem readMatcher_of_alike {value value' : Json} (h : Same .matcher value value') :
    readMatcher value' context registry = readMatcher value context registry := by
  apply Alike.eq
  apply (Property.alike_fields likeness h context "matcher").bind
  intro fields fields' parts
  apply Alike.bind_same (parts.string_eq "type" (by decide) (by decide) _)
  intro name
  cases Matcher.ofName? name with
  | none => exact .error _
  | some matcher =>
    apply (parts.alike_arguments "args" (by decide) (by decide) (likeness.refl _) _).bind
    intro items items' same
    apply Alike.of_eq
    rw [Argument.readAll_of_alike likeness same]

theorem read_of_alike {value value' : Json} (h : Same .filter value value') :
    read value' context registry = read value context registry := by
  apply Alike.eq
  apply (Property.alike_fields likeness h context "filter").bind
  intro fields fields' parts
  apply Alike.bind_same (parts.string_eq "apply" (by decide) (by decide) _)
  intro applyMethod
  cases Text.isIdentifier applyMethod with
  | false => exact .error _
  | true =>
    apply (parts.alike_arguments "args" (by decide) (by decide) (likeness.refl _) _).bind
    intro items items' same
    apply Alike.bind_same (Argument.readAll_of_alike likeness same)
    intro parameters
    apply (parts.alike_value "matcher" .matcher (by decide) (by decide) (likeness.refl _) _).bind
    intro matcherValue matcherValue' sameMatcher
    apply Alike.bind_same (readMatcher_of_alike likeness sameMatcher)
    rintro ⟨matcher, matcherParameters⟩
    apply Alike.of_eq
    rw [parts.flag_eq "findFirst" (by decide) (by decide)]

end Filter

end

structure Nested.AlikeBy (Nodes : List Json → List Json → Prop) (nested nested' : Nested) : Prop where
  elements : Nodes nested.elements nested'.elements
  shadowElements : Nodes nested.shadowElements nested'.shadowElements

section

variable {Same : ObjectKind → Json → Json → Prop} {Nodes : List Json → List Json → Prop} {kind : ObjectKind}
  {fields fields' : Json.Fields} {context : String} {registry : Registry} (likeness : Likeness Same Nodes)

include likeness

theorem Nested.AlikeBy.isEmpty {nested nested' : Nested} (h : nested.AlikeBy Nodes nested') :
    nested'.isEmpty = nested.isEmpty := by
  rw [Nested.isEmpty, Nested.isEmpty, likeness.isEmpty h.elements, likeness.isEmpty h.shadowElements]

theorem Nested.alike_readShadow (parts : kind.PartsChanged Same Nodes fields fields')
    (known : "shadow" ∈ kind.known) (object : kind.part? "shadow" = some (.one .shadow)) :
    Alike Nodes (readShadow fields context) (readShadow fields' context) := by
  have part := parts.value? "shadow" known
  rw [object] at part
  unfold readShadow
  generalize fields.value? "shadow" = found at part ⊢
  generalize fields'.value? "shadow" = found' at part ⊢
  cases part with
  | same => exact .refl likeness.nodes_refl _
  | one same =>
    apply (Property.alike_fields likeness same context "shadow").bind
    intro shadow shadow' shadowParts
    exact shadowParts.alike_nodes "elements" (by decide) (by decide) likeness.nodes_refl _
  | objects unread => exact absurd rfl (unread .shadow)

theorem Nested.alike_read (parts : kind.PartsChanged Same Nodes fields fields')
    (hosts : kind = .page ∨ kind = .element) :
    Alike (Nested.AlikeBy Nodes) (Nested.read fields context) (Nested.read fields' context) := by
  have light : Alike Nodes (Property.items fields "elements" context)
      (Property.items fields' "elements" context) := by
    rcases hosts with rfl | rfl <;>
      exact parts.alike_nodes _ (by decide) (by decide) likeness.nodes_refl _
  have shadow : Alike Nodes (readShadow fields context) (readShadow fields' context) := by
    rcases hosts with rfl | rfl <;> exact alike_readShadow likeness parts (by decide) (by decide)
  apply light.bind
  intro elements elements' same
  apply shadow.bind
  intro shadowElements shadowElements' sameShadow
  exact .ok ⟨same, sameShadow⟩

namespace Element

theorem readFilter?_of_partsChanged
    (parts : ObjectKind.PartsChanged Same Nodes .element fields fields') :
    readFilter? fields' context registry = readFilter? fields context registry := by
  have part := parts.value? "filter" (by decide)
  have object : ObjectKind.part? .element "filter" = some (.one .filter) := by decide
  rw [object] at part
  unfold readFilter?
  generalize fields.value? "filter" = found at part ⊢
  generalize fields'.value? "filter" = found' at part ⊢
  cases part with
  | same => rfl
  | one same => simp only [Filter.read_of_alike likeness same]
  | objects unread => exact absurd rfl (unread .filter)

theorem alike_read {node node' : Json} (h : Same .element node node') (path : String) :
    Alike (fun element element' => ∃ nested, element' = { element with nested } ∧
        element.nested.AlikeBy Nodes nested)
      (read node path registry) (read node' path registry) := by
  apply (Property.alike_fields likeness h pageContext path).bind
  intro fields fields' parts
  have name : readName fields' path = readName fields path := by
    unfold readName
    rw [parts.string_eq "name" (by decide) (by decide)]
  apply Alike.bind_same name
  intro name
  have kind (context : String) : readKind fields' context registry = readKind fields context registry := by
    unfold readKind
    rw [parts.string?_eq "type" (by decide) (by decide)]
  apply Alike.bind_same (kind _)
  intro kind
  apply Alike.bind_same (parts.flag_eq "public" (by decide) (by decide) _)
  intro isPublic
  apply Alike.bind_same (parts.flag_eq "nullable" (by decide) (by decide) _)
  intro isNullable
  apply (parts.alike_value "selector" .selector (by decide) (by decide) (likeness.refl _) _).bind
  intro selectorValue selectorValue' same
  apply Alike.bind_same (Selector.read_of_alike likeness same)
  intro selector
  apply Alike.bind_same (readFilter?_of_partsChanged likeness parts)
  intro filter?
  apply Alike.bind_same rfl
  intro cardinality
  apply (Nested.alike_read likeness parts (.inr rfl)).bind
  intro nested nested' same
  have nesting (context : String) : checkNesting nested' selector kind context =
      checkNesting nested selector kind context := by
    unfold checkNesting
    rw [same.isEmpty likeness]
  apply Alike.bind_same (nesting _)
  intro checked
  exact .ok ⟨nested', rfl, same⟩

theorem label_of_alike {node node' : Json} (h : Same .element node node') (path : String) :
    label node' path = label node path := by
  rcases likeness.shapes h with rfl | ⟨items, items', rfl, rfl⟩ | ⟨fields, fields', rfl, rfl, parts⟩
  · rfl
  · rfl
  · have name := parts.bind_string?_eq "name" (by decide) (by decide)
    simp only [label, Json.field?, Json.Fields.get?_bind_string?, name]

end Element

end

end PageObject
