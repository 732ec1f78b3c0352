import PageObject.Proofs.Registry
import PageObject.Proofs.Signature.Merge

namespace PageObject

variable {type : NamedType} {registry : Registry}

theorem insertType_firstOccurrences (known : List NamedType) (type : NamedType) :
    insertType (firstOccurrences NamedType.key known) type = firstOccurrences NamedType.key (known ++ [type]) := by
  have among : ((firstOccurrences NamedType.key known).any fun other => other.key = type.key) ↔
      ∃ other ∈ known, other.key = type.key := by
    rw [← List.mem_map, ← mem_map_firstOccurrences, List.mem_map]
    simp
  unfold insertType
  split
  · rename_i held
    rw [firstOccurrences_snoc_of_known (among.mp held)]
  · rename_i fresh
    rw [firstOccurrences_snoc_of_fresh fun other member same => fresh (among.mpr ⟨other, member, same⟩)]

theorem foldl_insertType_firstOccurrences (known others : List NamedType) :
    others.foldl insertType (firstOccurrences NamedType.key known) =
      firstOccurrences NamedType.key (known ++ others) := by
  induction others generalizing known with
  | nil => rw [List.foldl_nil, List.append_nil]
  | cons type others ih =>
    rw [List.foldl_cons, insertType_firstOccurrences, ih, List.append_assoc, List.singleton_append]

namespace Registry

theorem addImports_firstOccurrences (registry : Registry) (known : List NamedType) (type : NamedType) :
    registry.addImports (firstOccurrences NamedType.key known) type =
      firstOccurrences NamedType.key (known ++ registry.imports type) :=
  foldl_insertType_firstOccurrences known (registry.imports type)

theorem foldl_addImports (registry : Registry) (known steps : List NamedType) :
    steps.foldl registry.addImports (firstOccurrences NamedType.key known) =
      firstOccurrences NamedType.key (known ++ steps.flatMap registry.imports) := by
  induction steps generalizing known with
  | nil => rw [List.foldl_nil, List.flatMap_nil, List.append_nil]
  | cons type steps ih =>
    rw [List.foldl_cons, addImports_firstOccurrences, ih, List.flatMap_cons, List.append_assoc]

theorem imports_element_subset (registry : Registry) (type : NamedType) :
    registry.imports type.element ⊆ registry.imports type := by
  intro imported member
  have single : registry.imports type.element = if type.needsImport then [type.element] else [] := rfl
  rw [single] at member
  exact List.mem_append_right _ member

end Registry

namespace Config

variable {config : Config}

theorem listImport_ne_empty (accepted : config.check = .ok ()) : config.listImport ≠ "" := by
  intro empty
  have qualified := isQualified_of_check accepted
  rw [empty] at qualified
  exact absurd qualified (by decide)

theorem single_of_mem_imports (accepted : config.check = .ok ()) {imported : NamedType}
    (member : imported ∈ config.registry.imports type) :
    imported.isCollection = false ∧ imported.importPath ≠ "" := by
  rcases List.mem_append.mp member with list | element
  · split at list
    · rw [List.mem_singleton.mp list]
      exact ⟨rfl, listImport_ne_empty accepted⟩
    · cases list
  · split at element
    · rename_i needed
      rw [List.mem_singleton.mp element]
      exact ⟨rfl, by simpa [NamedType.element, NamedType.needsImport] using needed⟩
    · cases element

end Config

namespace Registry

/-- Under accepted settings, the imports that are recorded for types are the first ones of each key among those that
the types need. They are single types with an import path, and no two of them are the same. Another type goes behind
them, and a type that was recorded before, or the element of one, changes nothing. -/
theorem dependencies_eq_firstOccurrences {config : Config} (accepted : ofConfig config = .ok registry)
    (steps : List NamedType) :
    let dependencies := steps.foldl registry.addImports []
    dependencies = firstOccurrences NamedType.key (steps.flatMap registry.imports) ∧
    (∀ type ∈ dependencies, type.isCollection = false ∧ type.importPath ≠ "") ∧
    dependencies.Pairwise (fun type other => type.key ≠ other.key) ∧
    (∀ type, dependencies <+: registry.addImports dependencies type) ∧
    ∀ type ∈ steps, registry.addImports dependencies type = dependencies ∧
      registry.addImports dependencies type.element = dependencies := by
  intro dependencies
  obtain ⟨checked, rfl⟩ := ofConfig_eq_ok_iff.mp accepted
  have recorded : dependencies = firstOccurrences NamedType.key (steps.flatMap config.registry.imports) :=
    foldl_addImports config.registry [] steps
  have again : ∀ type ∈ steps, ∀ other : NamedType,
      config.registry.imports other ⊆ config.registry.imports type →
        config.registry.addImports dependencies other = dependencies := by
    intro type member other within
    rw [recorded, addImports_firstOccurrences]
    refine firstOccurrences_append_of_known fun imported needed => List.mem_map_of_mem ?_
    exact List.mem_flatMap.mpr ⟨type, member, within needed⟩
  refine ⟨recorded, ?_, ?_, ?_, ?_⟩
  · intro type member
    rw [recorded] at member
    rcases List.mem_flatMap.mp ((sublist_firstOccurrences _).subset member) with ⟨step, -, needed⟩
    exact Config.single_of_mem_imports checked needed
  · rw [recorded]
    exact List.pairwise_map.mp (nodup_firstOccurrences _)
  · intro type
    rw [recorded, addImports_firstOccurrences, firstOccurrences_append]
    exact List.prefix_append _ _
  · intro type member
    exact ⟨again type member type (List.Subset.refl _),
      again type member type.element (imports_element_subset _ type)⟩

def menuTypes : List NamedType := [
  { simpleName := "Menu", importPath := "app.pageobjects.Menu", isCollection := true },
  { simpleName := "List", importPath := "java.util.List" }, { simpleName := "String" },
  { simpleName := "Menu", importPath := "app.pageobjects.Menu" }]

theorem dependencies_eq_firstOccurrences_menus :
    ofConfig {} = .ok standard ∧
    menuTypes.foldl standard.addImports [] = [standard.list,
      { simpleName := "Menu", importPath := "app.pageobjects.Menu" }] ∧
    firstOccurrences NamedType.key (menuTypes.flatMap standard.imports) =
      menuTypes.foldl standard.addImports [] ∧
    (standard.list.isCollection = false ∧ standard.list.importPath ≠ "") ∧
    ∃ menus ∈ menuTypes, menus.isCollection ∧
      standard.addImports (menuTypes.foldl standard.addImports []) menus.element =
        menuTypes.foldl standard.addImports [] := by
  have accepted : ofConfig {} = .ok standard := rfl
  have recorded : menuTypes.foldl standard.addImports [] = [standard.list,
    { simpleName := "Menu", importPath := "app.pageobjects.Menu" }] := by decide
  have held : standard.list ∈ menuTypes.foldl standard.addImports [] := by
    rw [recorded]
    exact List.mem_cons_self
  obtain ⟨first, single, -, -, again⟩ := dependencies_eq_firstOccurrences accepted menuTypes
  exact ⟨accepted, recorded, first.symm, single _ held, _, List.mem_cons_self, rfl, (again _ List.mem_cons_self).2⟩

end Registry

end PageObject
