import PageObject.Registry

namespace PageObject

namespace Config

variable (config : Config)

theorem key_typeOf_eq_iff (type other : ParameterType) :
    (config.registry.typeOf type).key = (config.registry.typeOf other).key ↔ type.name = other.name := by
  cases type <;> cases other <;>
    simp [Registry.typeOf, Config.registry, NamedType.key, ParameterType.name]

theorem parameterType?_typeOf (type : ParameterType) :
    config.registry.parameterType? (config.registry.typeOf type) = some type := by
  unfold Registry.parameterType?
  simp only [config.key_typeOf_eq_iff]
  exact ParameterType.ofName?_name type

theorem needsImport_typeOf_iff (type : ParameterType) :
    (config.registry.typeOf type).needsImport ↔ type = .locator := by
  cases type <;> simp [Registry.typeOf, NamedType.needsImport, Config.registry]

theorem locator_not_mem_imports_basicElement :
    config.registry.locator.key ∉
      (config.registry.imports config.registry.basicElement).map NamedType.key := by
  simp [Registry.imports, NamedType.needsImport, Config.registry, NamedType.key, NamedType.element]

theorem check_eq_ok_iff {config : Config} :
    config.check = .ok () ↔ Text.isBlankText config.corePackage = false ∧ isQualified config.listImport ∧
      ∀ entry ∈ config.packageMapping.entries, Text.isBlankText entry.2 = false := by
  unfold check
  split
  · rename_i blank
    exact iff_of_false nofun fun given => absurd (blank.symm.trans given.1) nofun
  · rename_i filled
    split
    · rename_i unqualified
      rw [Bool.not_eq_true'] at unqualified
      exact iff_of_false nofun fun given => absurd (unqualified.symm.trans given.2.1) nofun
    · rename_i qualified
      split
      · rename_i name package found
        have blank := List.find?_some found
        exact iff_of_false nofun fun given =>
          absurd (blank.symm.trans (given.2.2 _ (List.mem_of_find?_eq_some found))) nofun
      · rename_i packages
        exact iff_of_true rfl ⟨by simpa using filled, by simpa using qualified, by simpa using packages⟩

theorem isQualified_of_check {config : Config} (accepted : config.check = .ok ()) :
    isQualified config.listImport :=
  (check_eq_ok_iff.mp accepted).2.1

end Config

theorem Registry.ofConfig_eq_ok_iff {config : Config} {registry : Registry} :
    ofConfig config = .ok registry ↔ config.check = .ok () ∧ registry = config.registry := by
  unfold ofConfig
  cases config.check <;> simp [Bind.bind, Except.bind, Pure.pure, Except.pure, eq_comm]

section Keys

variable {types others : List NamedType} {type : NamedType} {key : String × String}

theorem NamedType.eq_of_key {type other : NamedType} (same : type.key = other.key)
    (collection : type.isCollection = other.isCollection) : type = other := by
  rcases Prod.mk.inj same with ⟨simpleName, importPath⟩
  cases type
  cases other
  cases simpleName
  cases importPath
  cases collection
  rfl

theorem mem_keys_insertType :
    key ∈ (insertType types type).map NamedType.key ↔ key ∈ types.map NamedType.key ∨ key = type.key := by
  unfold insertType
  split
  · rename_i known
    rcases List.any_eq_true.mp known with ⟨other, member, same⟩
    have same : other.key = type.key := by simpa using same
    have inside : type.key ∈ types.map NamedType.key := by
      rw [← same]
      exact List.mem_map_of_mem member
    constructor
    · exact .inl
    · intro h
      rcases h with member | rfl
      · exact member
      · exact inside
  · simp [eq_comm]

theorem mem_keys_foldl_insertType :
    key ∈ (others.foldl insertType types).map NamedType.key ↔
      key ∈ types.map NamedType.key ∨ key ∈ others.map NamedType.key := by
  induction others generalizing types with
  | nil => simp
  | cons first rest ih =>
    rw [List.foldl_cons, ih, mem_keys_insertType, List.map_cons, List.mem_cons, or_assoc]

theorem nodup_keys_insertType (distinct : (types.map NamedType.key).Nodup) (type : NamedType) :
    ((insertType types type).map NamedType.key).Nodup := by
  unfold insertType
  split
  · exact distinct
  · rename_i unknown
    rw [List.map_append, List.nodup_append]
    refine ⟨distinct, by simp, ?_⟩
    intro key inside other last same
    rcases List.mem_map.mp inside with ⟨known, member, rfl⟩
    refine unknown (List.any_eq_true.mpr ⟨known, member, decide_eq_true ?_⟩)
    rw [same, List.mem_singleton.mp last]

theorem nodup_keys_foldl_insertType (distinct : (types.map NamedType.key).Nodup) :
    ((others.foldl insertType types).map NamedType.key).Nodup := by
  induction others generalizing types with
  | nil => exact distinct
  | cons first rest ih => exact ih (nodup_keys_insertType distinct first)

theorem mem_of_mem_foldl_insertType (member : type ∈ others.foldl insertType types) :
    type ∈ types ∨ type ∈ others := by
  induction others generalizing types with
  | nil => exact .inl member
  | cons first rest ih =>
    rcases ih member with inside | behind
    · unfold insertType at inside
      split at inside
      · exact .inl inside
      · rcases List.mem_append.mp inside with known | last
        · exact .inl known
        · rw [List.mem_singleton.mp last]
          exact .inr List.mem_cons_self
    · exact .inr (List.mem_cons_of_mem _ behind)

theorem head?_foldl_insertType {first : NamedType} (head : types.head? = some first)
    (others : List NamedType) : (others.foldl insertType types).head? = some first := by
  induction others generalizing types with
  | nil => exact head
  | cons other rest ih =>
    refine ih ?_
    unfold insertType
    split
    · exact head
    · rw [List.head?_append, head]
      rfl

/-- Types that differ in their keys are the same for a set, unless one of them is a collection. -/
theorem mem_foldl_insertType_iff (flat : ∀ type ∈ others, type.isCollection = false) :
    type ∈ others.foldl insertType [] ↔ type ∈ others := by
  constructor
  · intro member
    exact (mem_of_mem_foldl_insertType member).resolve_left List.not_mem_nil
  · intro member
    have key : type.key ∈ (others.foldl insertType []).map NamedType.key :=
      mem_keys_foldl_insertType.mpr (.inr (List.mem_map_of_mem member))
    rcases List.mem_map.mp key with ⟨found, inside, same⟩
    have single := flat _ ((mem_of_mem_foldl_insertType inside).resolve_left List.not_mem_nil)
    rwa [← NamedType.eq_of_key same (single.trans (flat _ member).symm)]

theorem Registry.mem_keys_addImports {registry : Registry} :
    key ∈ (registry.addImports types type).map NamedType.key ↔
      key ∈ types.map NamedType.key ∨ key ∈ (registry.imports type).map NamedType.key :=
  mem_keys_foldl_insertType

theorem Registry.key_mem_imports (registry : Registry) (needed : type.needsImport) :
    type.key ∈ (registry.imports type).map NamedType.key := by
  simp [imports, needed]

end Keys

end PageObject
