import Mathlib.Data.List.Nodup
import Mathlib.Logic.Relation
import PageObject.Proofs.Page.Change
import PageObject.Proofs.Page.Traversal

namespace PageObject

/-- A change that the listed properties survive: the fields of an object are put in another order, or a property
that is not listed is added or taken out. The keys of an object are distinct. -/
inductive Json.Fields.Rearranged (listed : List String) : Json.Fields → Json.Fields → Prop where
  | permuted {fields fields' : Json.Fields} (distinct : (fields.map Prod.fst).Nodup)
    (order : fields.Perm fields') : Rearranged listed fields fields'
  | added {before after : Json.Fields} {key : String} (value : Json) (unlisted : key ∉ listed) :
    Rearranged listed (before ++ after) (before ++ (key, value) :: after)
  | removed {before after : Json.Fields} {key : String} (value : Json) (unlisted : key ∉ listed) :
    Rearranged listed (before ++ (key, value) :: after) (before ++ after)

namespace ObjectPart

def properties : Option ObjectPart → List String
  | some (.one kind) => kind.known
  | _ => []

def under : Option ObjectPart → String → Option ObjectPart
  | some (.one kind), key => kind.part? key
  | _, _ => none

def item : Option ObjectPart → Option ObjectPart
  | some (.many kind) => some (.one kind)
  | _ => none

end ObjectPart

/-- One object is rearranged, the value itself or any object inside it. What is expected where the value stands
decides which properties have to survive. -/
inductive Json.Rearranged : Option ObjectPart → Json → Json → Prop where
  | here {part : Option ObjectPart} {fields fields' : Json.Fields}
    (rearranged : Fields.Rearranged (ObjectPart.properties part) fields fields') :
    Rearranged part (.object fields) (.object fields')
  | field {part : Option ObjectPart} {before after : Json.Fields} {key : String} {value value' : Json}
    (inside : Rearranged (ObjectPart.under part key) value value') :
    Rearranged part (.object (before ++ (key, value) :: after)) (.object (before ++ (key, value') :: after))
  | item {part : Option ObjectPart} {before after : List Json} {value value' : Json}
    (inside : Rearranged (ObjectPart.item part) value value') :
    Rearranged part (.array (before ++ value :: after)) (.array (before ++ value' :: after))

def RearrangedPage : Json → Json → Prop :=
  Relation.ReflTransGen (Json.Rearranged (some (.one .page)))

namespace Json.Fields

theorem get?_append (before after : Fields) (key : String) :
    get? (before ++ after) key = (get? before key).or (get? after key) :=
  List.lookup_append

theorem get?_of_perm {fields fields' : Fields} (order : fields.Perm fields')
    (distinct : (fields.map Prod.fst).Nodup) (key : String) : get? fields' key = get? fields key := by
  induction order with
  | nil => rfl
  | @cons field rest rest' order ih =>
    rcases field with ⟨name, value⟩
    rw [List.map_cons, List.nodup_cons] at distinct
    rw [get?_cons, get?_cons, ih distinct.2]
  | swap field other rest =>
    rcases field with ⟨name, value⟩
    rcases other with ⟨name', value'⟩
    have different : name' ≠ name := by
      intro same
      simp [same] at distinct
    simp only [get?_cons]
    by_cases first : key = name
    · have second : key ≠ name' := fun second => different (second.symm.trans first)
      rw [if_pos first, if_neg second, if_pos first]
    · rw [if_neg first, if_neg first]
  | trans first second ih ih' =>
    rw [ih' ((first.map Prod.fst).nodup_iff.mp distinct), ih distinct]

theorem get?_of_rearranged {listed : List String} {fields fields' : Fields}
    (h : Rearranged listed fields fields') : ∀ key ∈ listed, get? fields' key = get? fields key := by
  intro key member
  cases h with
  | permuted distinct order => exact get?_of_perm order distinct key
  | @added before after other value unlisted =>
    have different : key ≠ other := fun same => unlisted (same ▸ member)
    rw [get?_append, get?_append, get?_cons, if_neg different]
  | @removed before after other value unlisted =>
    have different : key ≠ other := fun same => unlisted (same ▸ member)
    rw [get?_append, get?_append, get?_cons, if_neg different]

end Json.Fields

namespace Json

abbrev RearrangedAs (kind : ObjectKind) : Json → Json → Prop :=
  Relation.ReflGen (Rearranged (some (.one kind)))

theorem Rearranged.isNull {part : Option ObjectPart} {value value' : Json}
    (h : Rearranged part value value') : value'.isNull = value.isNull := by
  cases h <;> rfl

variable {Nodes : List Json → List Json → Prop}

theorem Rearranged.partChanged {kind : ObjectKind} {key : String} {value value' : Json}
    (h : Rearranged (kind.part? key) value value') :
    PartChanged RearrangedAs (List.Forall₂ (RearrangedAs .element)) (kind.part? key) (some value)
      (some value') := by
  cases part : kind.part? key with
  | none =>
    rw [part] at h
    cases h with
    | here => exact .objects (fun _ same => by cases same) _ _
    | field => exact .objects (fun _ same => by cases same) _ _
    | item => exact .arrays _ _
  | some expected =>
    rw [part] at h
    cases expected with
    | one inner => exact .one (.single h)
    | many inner =>
      cases h with
      | here => exact .objects (fun _ same => by cases same) _ _
      | field => exact .objects (fun _ same => by cases same) _ _
      | item inside =>
        have items := forall₂_among (R := RearrangedAs inner) (fun _ => .refl) (.single inside)
        rcases ObjectKind.list_of_part? part with rfl | rfl
        · exact .nodes (items _ _)
        · exact .arguments (items _ _)

theorem likeness_rearrangedAs : Likeness RearrangedAs (List.Forall₂ (RearrangedAs .element)) where
  refl := fun _ _ => .refl
  nodes_refl := fun _ => List.forall₂_same.mpr fun _ _ => .refl
  isEmpty := fun same => by cases same <;> rfl
  shapes := by
    have isNull : ∀ kind value value', RearrangedAs kind value value' → value'.isNull = value.isNull := by
      intro kind value value' h
      cases h with
      | refl => rfl
      | single h => exact h.isNull
    intro kind value value' h
    cases h with
    | refl => exact .inl rfl
    | single h =>
      cases h with
      | here rearranged =>
        refine .inr (.inr ⟨_, _, rfl, rfl, ObjectKind.partsChanged_of_get? isNull fun key known => ?_⟩)
        rw [Fields.get?_of_rearranged rearranged key known]
        exact .same _
      | @field _ before after key value value' inside =>
        refine .inr (.inr ⟨_, _, rfl, rfl, ObjectKind.partsChanged_of_get? isNull fun other known => ?_⟩)
        rw [Fields.get?_append, Fields.get?_append, Fields.get?_cons, Fields.get?_cons]
        cases Fields.get? before other with
        | some found => exact .same _
        | none =>
          by_cases same : other = key
          · rw [if_pos same, if_pos same, same]
            exact inside.partChanged
          · rw [if_neg same, if_neg same]
            exact .same _
      | item inside => exact .inr (.inl ⟨_, _, rfl, rfl⟩)

end Json

namespace Page

/-- Only the properties that are read matter in a page, and their order does not. -/
theorem outcome_compile_of_rearranged {value other : Json} (h : RearrangedPage value other)
    (registry : Registry) : (compile other registry).outcome = (compile value registry).outcome := by
  induction h with
  | refl => rfl
  | tail before step ih =>
    rw [outcome_compile_of_alike Json.likeness_rearrangedAs (.single step), ih]

def rowAndBroken (page row literal : Json.Fields → Json.Fields) : Json :=
  .object (page [("root", .bool false), ("elements", .array [
    .object (row [("name", .string "row"), ("selector", .object [("css", .string "tr")])]),
    .object [("name", .string "broken"), ("selector", .object [("css", .string "%s"), ("args", .array [
      .object [("value", .object (literal [("a", .null), ("b", .null)]))]])])]])])

theorem rearrangedPage_rowAndBroken :
    RearrangedPage (rowAndBroken id id id)
      (rowAndBroken List.reverse (("comment", .null) :: ·) List.reverse) := by
  have swapped : RearrangedPage (rowAndBroken id id id) (rowAndBroken List.reverse id id) :=
    .single (.here (.permuted (by decide) (List.reverse_perm _).symm))
  have commented : Json.Rearranged (some (.one .page)) (rowAndBroken List.reverse id id)
      (rowAndBroken List.reverse (("comment", .null) :: ·) id) :=
    @Json.Rearranged.field _ [] _ "elements" _ _ (@Json.Rearranged.item _ [] _ _ _
      (.here (@Json.Fields.Rearranged.added _ [] _ "comment" _ (by decide))))
  refine (swapped.tail commented).tail (@Json.Rearranged.field _ [] _ "elements" _ _
    (@Json.Rearranged.item _ [_] [] _ _ (@Json.Rearranged.field _ [_] [] "selector" _ _
      (@Json.Rearranged.field _ [_] [] "args" _ _ (@Json.Rearranged.item _ [] [] _ _
        (@Json.Rearranged.field _ [] [] "value" _ _
          (.here (.permuted (by decide) (List.reverse_perm _).symm))))))))

theorem outcome_compile_of_rearranged_rowAndBroken :
    ∃ compilation other, other = rowAndBroken List.reverse (("comment", .null) :: ·) List.reverse ∧
      RearrangedPage (rowAndBroken id id id) other ∧
      (compile (rowAndBroken id id id) .standard).outcome = .ok compilation ∧
      compilation.accessors.map Accessor.name = ["getRowElement"] ∧
      compilation.diagnostics.map (fun found => found.fault.code) = [1009] ∧
      (compile other .standard).outcome = .ok compilation := by
  obtain ⟨compilation, compiled, names, codes⟩ := exists_of_outline
    (show outline (rowAndBroken id id id) .standard = some (["getRowElement"], [1009]) by decide +kernel)
  refine ⟨compilation, _, rfl, rearrangedPage_rowAndBroken, compiled, names, codes, ?_⟩
  rw [outcome_compile_of_rearranged rearrangedPage_rowAndBroken, compiled]

end Page

end PageObject
