import Mathlib.Logic.Relation
import PageObject.Proofs.Page.Change
import PageObject.Proofs.Page.Traversal

namespace PageObject

def Json.Fields.erase (fields : Json.Fields) (key : String) : Json.Fields :=
  fields.filter fun field => field.1 ≠ key

theorem Json.Fields.get?_erase (fields : Json.Fields) (key other : String) :
    (fields.erase key).get? other = if other = key then none else fields.get? other := by
  induction fields with
  | nil => simp [erase, get?]
  | cons field rest ih =>
    rcases field with ⟨name, held⟩
    have kept : erase ((name, held) :: rest) key =
        if name = key then erase rest key else (name, held) :: erase rest key := by
      by_cases same : name = key <;> simp [erase, same]
    rw [kept, get?_cons]
    by_cases gone : name = key
    · rw [if_pos gone, ih]
      by_cases wanted : other = key
      · rw [if_pos wanted, if_pos wanted]
      · rw [if_neg wanted, if_neg wanted, if_neg fun same => wanted (same.trans gone)]
    · rw [if_neg gone, get?_cons, ih]
      by_cases first : other = name
      · rw [if_pos first, if_pos first, if_neg fun same => gone (first.symm.trans same)]
      · rw [if_neg first, if_neg first]

/-- A property that is `null`, one of those listed for objects of its kind, is taken out of an object. -/
def NullErased (listed : ObjectKind → List String) (kind : ObjectKind) (fields fields' : Json.Fields) : Prop :=
  ∃ key ∈ listed kind, fields.get? key = some .null ∧ fields' = fields.erase key

/-- Some of the listed properties that are `null` are taken out of a page, each from any object in it. -/
def NullsErased (listed : ObjectKind → List String) : Json → Json → Prop :=
  Relation.ReflTransGen (ChangedIn (NullErased listed) .page)

theorem NullErased.readSame {listed : ObjectKind → List String}
    (unkeyed : ∀ kind, ∀ key ∈ listed kind, key ∉ kind.keyed) {kind : ObjectKind}
    {fields fields' : Json.Fields} (h : NullErased listed kind fields fields') :
    kind.ReadSame fields fields' := by
  rcases h with ⟨erased, member, null, rfl⟩
  constructor
  · intro key known
    unfold Json.Fields.value?
    rw [Json.Fields.get?_erase]
    by_cases same : key = erased
    · rw [if_pos same, same, null]
      rfl
    · rw [if_neg same]
  · intro key keyed
    have other : key ≠ erased := fun same => unkeyed kind erased member (same ▸ keyed)
    rw [Json.Fields.get?_erase, if_neg other]

namespace Page

theorem outcome_compile_of_nullsErased {listed : ObjectKind → List String}
    (unkeyed : ∀ kind, ∀ key ∈ listed kind, key ∉ kind.keyed) {value other : Json}
    (h : NullsErased listed value other) (registry : Registry) :
    (compile other registry).outcome = (compile value registry).outcome := by
  induction h with
  | refl => rfl
  | tail before step ih =>
    have same := outcome_compile_of_changed (fun _ _ _ erased => erased.readSame unkeyed) step registry
    rw [same, ih]

def codes (value : Json) : List Nat :=
  match (compile value .standard).outcome with
  | .error fault => [fault.code]
  | .ok compilation => compilation.diagnostics.map fun diagnostic => diagnostic.fault.code

def ofElement (fields : Json.Fields) : Json := .object [("elements", .array [.object fields])]

theorem changedIn_ofElement {Changed : ObjectKind → Json.Fields → Json.Fields → Prop}
    {fields fields' : Json.Fields} (h : ChangedIn Changed .element (.object fields) (.object fields')) :
    ChangedIn Changed .page (ofElement fields) (ofElement fields') :=
  @ChangedIn.among _ .page .element _ "elements" [] [] _ _ rfl rfl h

def namedWith (fields : Json.Fields) : Json.Fields := ("name", .string "row") :: fields

def withArgument (fields : Json.Fields) : Json.Fields :=
  [("selector", .object [("css", .string "%s"), ("args", .array [.object fields])])]

theorem changedIn_withArgument {Changed : ObjectKind → Json.Fields → Json.Fields → Prop}
    {fields fields' : Json.Fields} (h : ChangedIn Changed .argument (.object fields) (.object fields')) :
    ChangedIn Changed .element (.object (namedWith (withArgument fields)))
      (.object (namedWith (withArgument fields'))) :=
  @ChangedIn.inside _ .element .selector _ "selector" _ _ rfl rfl
    (@ChangedIn.among _ .selector .argument _ "args" [] [] _ _ rfl rfl h)

/-- A property that counts by its key makes a difference in some page even if it is `null`. -/
theorem exists_codes_ne_of_keyed {kind : ObjectKind} {key : String} (keyed : key ∈ kind.keyed)
    {listed : ObjectKind → List String} (member : key ∈ listed kind) :
    ∃ value other, ChangedIn (NullErased listed) .page value other ∧ codes other ≠ codes value := by
  cases kind with
  | page =>
    cases List.mem_singleton.mp keyed
    exact ⟨.object [("selector", .null)], _, .here ⟨_, member, rfl, rfl⟩, by decide +kernel⟩
  | rootSelector =>
    rcases List.mem_pair.mp keyed with rfl | rfl
    · exact ⟨.object [("root", .bool true), ("selector", .object [("css", .string "a"), ("args", .null)])], _,
        @ChangedIn.inside _ .page .rootSelector _ "selector" _ _ rfl rfl (.here ⟨_, member, rfl, rfl⟩),
        by decide +kernel⟩
    · exact ⟨.object [("root", .bool true),
          ("selector", .object [("css", .string "a"), ("returnAll", .null)])], _,
        @ChangedIn.inside _ .page .rootSelector _ "selector" _ _ rfl rfl (.here ⟨_, member, rfl, rfl⟩),
        by decide +kernel⟩
  | element =>
    cases List.mem_singleton.mp keyed
    exact ⟨ofElement (namedWith [("selector", .null)]), _,
      changedIn_ofElement (.here ⟨_, member, rfl, rfl⟩), by decide +kernel⟩
  | filter =>
    cases List.mem_singleton.mp keyed
    exact ⟨ofElement (namedWith [("selector", .object [("css", .string "a"), ("returnAll", .bool true)]),
        ("filter", .object [("apply", .string "getText"), ("matcher", .null)])]), _,
      changedIn_ofElement (@ChangedIn.inside _ .element .filter _ "filter" _ _ rfl rfl
        (.here ⟨_, member, rfl, rfl⟩)), by decide +kernel⟩
  | argument =>
    cases List.mem_singleton.mp keyed
    exact ⟨ofElement (namedWith (withArgument
        [("name", .string "x"), ("type", .string "string"), ("value", .null)])), _,
      changedIn_ofElement (changedIn_withArgument (.here ⟨_, member, rfl, rfl⟩)), by decide +kernel⟩
  | shadow | selector | matcher => cases keyed

/-- Properties can be taken out of any page where they are `null`, if none of them counts by its key, and
only then. -/
theorem nullsErased_harmless_iff (listed : ObjectKind → List String) :
    (∀ value other registry, NullsErased listed value other →
        (compile other registry).outcome = (compile value registry).outcome) ↔
      ∀ kind, ∀ key ∈ listed kind, key ∉ kind.keyed := by
  constructor
  · intro harmless kind key member keyed
    rcases exists_codes_ne_of_keyed keyed member with ⟨value, other, erased, differ⟩
    have same := harmless value other .standard (.single erased)
    exact differ (by unfold codes; rw [same])
  · intro unkeyed value other registry erased
    exact outcome_compile_of_nullsErased unkeyed erased registry

theorem not_forall_outcome_compile_of_nullsErased :
    ¬ ∀ value other registry, NullsErased ObjectKind.known value other →
      (compile other registry).outcome = (compile value registry).outcome := by
  intro all
  have listed : "value" ∈ ObjectKind.argument.known := by decide
  have same := all (ofElement (namedWith (withArgument
      [("name", .string "x"), ("type", .string "string"), ("value", .null)]))) _ .standard
    (.single (changedIn_ofElement (changedIn_withArgument (.here ⟨"value", listed, rfl, rfl⟩))))
  have codes := congrArg (fun outcome : Except Fault Compilation => outcome.toOption.map fun compilation =>
    compilation.diagnostics.map fun diagnostic => diagnostic.fault.code) same
  revert codes
  decide +kernel

end Page

end PageObject
