import Mathlib.Data.List.Nodup
import PageObject.Proofs.Page.Calls
import PageObject.Proofs.Page.Imports

namespace PageObject

theorem unqualifiedName_eq_iff {qualified name : String} (accepted : isQualified qualified)
    (undotted : '.' ∉ name.toList) :
    unqualifiedName qualified = name ↔ ∃ package, package ≠ "" ∧ qualified = package ++ "." ++ name := by
  unfold isQualified at accepted
  unfold unqualifiedName
  constructor
  · intro h
    cases found : Text.splitLast? '.' qualified.toList with
    | none =>
      rw [found] at accepted
      cases accepted
    | some cut =>
      rcases cut with ⟨before, after⟩
      rw [found] at accepted h
      rcases Text.splitLast?_eq_some_iff.mp found with ⟨whole, free⟩
      refine ⟨String.ofList before, ?_, ?_⟩
      · intro empty
        have : before = [] := by simpa using congrArg String.toList empty
        simp [this] at accepted
      · rw [← String.toList_inj, whole, ← h]
        simp
  · intro h
    rcases h with ⟨package, filled, rfl⟩
    have cut : Text.splitLast? '.' (package ++ "." ++ name).toList = some (package.toList, name.toList) :=
      Text.splitLast?_eq_some_iff.mpr ⟨by simp, undotted⟩
    rw [cut]
    exact String.ofList_toList

/-- The name in front of the type in angle brackets, in the signature of a list accessor. -/
def Accessor.wrapper (accessor : Accessor) : String :=
  String.ofList (accessor.signature.toList.takeWhile (· ≠ '<'))

theorem Accessor.wrapper_of_collection {accessor : Accessor} (collection : accessor.returnType.isCollection) :
    accessor.wrapper = "List" := by
  unfold wrapper signature NamedType.displayName
  rw [if_pos collection]
  simp [String.toList_append]

namespace AccessorPlan

variable {plan : AccessorPlan} {registry : Registry} {accessor : Accessor}

theorem signatureImports_of_build (built : (plan.build registry).outcome = .ok accessor) :
    accessor.signatureImports = (registry.imports accessor.returnType).foldl insertType [] := by
  rw [(outcome_build_eq_ok_iff.mp built).2]
  rfl

theorem imports_of_build (built : (plan.build registry).outcome = .ok accessor) :
    accessor.imports = (registry.imports accessor.returnType ++ registry.imports registry.basicElement).foldl
      insertType [] := by
  rw [List.foldl_append, (outcome_build_eq_ok_iff.mp built).2]
  rfl

theorem head?_imports_of_build (built : (plan.build registry).outcome = .ok accessor)
    (collection : accessor.returnType.isCollection) :
    accessor.signatureImports.head? = some registry.list ∧ accessor.imports.head? = some registry.list := by
  have alone : [registry.list].head? = some registry.list := rfl
  have first (others : List NamedType) :
      ((registry.list :: others).foldl insertType []).head? = some registry.list :=
    head?_foldl_insertType alone others
  rw [signatureImports_of_build built, imports_of_build built, Registry.imports, if_pos collection]
  exact ⟨first _, first _⟩

end AccessorPlan

namespace Page

variable {value : Json} {config : Config} {registry : Registry} {compilation : Compilation}
  {before after : List Accessor} {accessor : Accessor}

theorem exists_build_of_mem_accessors (h : (compile value registry).outcome = .ok compilation)
    (member : accessor ∈ compilation.accessors) :
    ∃ plan : AccessorPlan, (plan.build registry).outcome = .ok accessor := by
  rcases List.append_of_mem member with ⟨before, after, split⟩
  rcases exists_madeFor h split with ⟨earlier, here, element, made⟩
  exact ⟨_, made.build⟩

/-- Under any settings that are accepted, a list accessor imports the list type that is set. Its signature
names this type only if it is called `List`. -/
theorem wrapper_imported_iff (accepted : Registry.ofConfig config = .ok registry)
    (h : (compile value registry).outcome = .ok compilation) (member : accessor ∈ compilation.accessors)
    (collection : accessor.returnType.isCollection) :
    accessor.signatureImports.head? = some registry.list ∧ accessor.imports.head? = some registry.list ∧
      (accessor.wrapper = registry.list.simpleName ↔
        ∃ package, package ≠ "" ∧ config.listImport = package ++ ".List") := by
  rcases Registry.ofConfig_eq_ok_iff.mp accepted with ⟨checked, rfl⟩
  rcases exists_build_of_mem_accessors h member with ⟨plan, built⟩
  rcases AccessorPlan.head?_imports_of_build built collection with ⟨inSignature, inImports⟩
  refine ⟨inSignature, inImports, ?_⟩
  rw [Accessor.wrapper_of_collection collection, eq_comm]
  have undotted : '.' ∉ "List".toList := by decide
  have named := unqualifiedName_eq_iff (Config.isQualified_of_check checked) undotted
  simp only [String.append_assoc] at named
  exact named

def typedRows (reference? : Option String) : Json :=
  .object [("elements", .array [.object ((reference?.map fun text => ("type", .string text)).toList ++
    [("name", .string "row"), ("selector", .object [("css", .string "tr"), ("returnAll", .bool true)])])])]

theorem wrapper_imported_iff_typedRows :
    ∃ registry compilation accessor, Registry.ofConfig { listImport := "com.acme.List" } = .ok registry ∧
      (compile (typedRows none) registry).outcome = .ok compilation ∧
      compilation.accessors = [accessor] ∧
      accessor.signature = "List<BasicElement> getRowElement()" ∧
      accessor.signatureImports.head? = some registry.list ∧ accessor.imports.head? = some registry.list ∧
      registry.list.importPath = "com.acme.List" ∧ accessor.wrapper = registry.list.simpleName := by
  obtain ⟨compilation, accessor, compiled, split, view⟩ := exists_of_accessor
    (show (compile (typedRows none) { listImport := "com.acme.List" : Config }.registry).outcome.toOption.map
        (fun compilation => compilation.accessors.map fun accessor =>
          (accessor.signature, accessor.returnType.isCollection)) =
      some [("List<BasicElement> getRowElement()", true)] by decide +kernel)
  rcases Prod.mk.inj view with ⟨signature, collection⟩
  have accepted : Registry.ofConfig { listImport := "com.acme.List" } =
    .ok { listImport := "com.acme.List" : Config }.registry := rfl
  rcases wrapper_imported_iff accepted compiled (by simp [split]) collection with
    ⟨inSignature, inImports, named⟩
  exact ⟨_, compilation, accessor, accepted, compiled, split, signature, inSignature, inImports, rfl,
    named.mpr ⟨"com.acme", by decide, by decide⟩⟩

/-- Under a list type of another name, the signature of a list accessor names a type that nothing imports. -/
theorem not_forall_wrapper_imported :
    ¬ ∀ (value : Json) (config : Config) (registry : Registry) (compilation : Compilation),
      Registry.ofConfig config = .ok registry → (compile value registry).outcome = .ok compilation →
        ∀ accessor ∈ compilation.accessors, accessor.returnType.isCollection →
          accessor.wrapper = registry.list.simpleName ∧ registry.list ∈ accessor.signatureImports ∧
            registry.list ∈ accessor.imports := by
  intro all
  obtain ⟨compilation, accessor, compiled, split, view⟩ := exists_of_accessor
    (show (compile (typedRows none) { listImport := "com.acme.Seq" : Config }.registry).outcome.toOption.map
        (fun compilation => compilation.accessors.map fun accessor =>
          (accessor.wrapper, accessor.returnType.isCollection)) =
      some [("List", true)] by decide +kernel)
  rcases Prod.mk.inj view with ⟨wrapper, collection⟩
  have member : accessor ∈ compilation.accessors := by simp [split]
  have named := (all _ { listImport := "com.acme.Seq" } _ compilation rfl compiled accessor member collection).1
  rw [wrapper] at named
  exact absurd named (by decide)

end Page

/-- The types that an accessor names, apart from those of its parameters: the list type if it returns a list,
the type of what it returns, and the type of the element that it starts from. -/
def Accessor.types (accessor : Accessor) (registry : Registry) : List NamedType :=
  (if accessor.returnType.isCollection then [registry.list] else []) ++
    [accessor.returnType.element, registry.basicElement]

/-- Where the types of an accessor are named in its texts. -/
structure Accessor.NamesTypes (accessor : Accessor) (registry : Registry) : Prop where
  scopeLine : ∃ rest, accessor.scopeLine = registry.basicElement.simpleName ++ " " ++ rest
  returnLine : ∃ start rest,
    accessor.returnLine = start ++ "(" ++ accessor.returnType.simpleName ++ ".class" ++ rest
  single : accessor.returnType.isCollection = false →
    ∃ rest, accessor.signature = accessor.returnType.simpleName ++ " " ++ rest
  list : accessor.returnType.isCollection →
    ∃ wrapper rest, accessor.signature = wrapper ++ "<" ++ accessor.returnType.simpleName ++ "> " ++ rest

/-- Two types are called differently, or they are the same import. -/
def NamedType.Distinguishable (type other : NamedType) : Prop :=
  type.simpleName = other.simpleName → type.importPath = other.importPath

/-- The page-object type of an element and the basic element can be told apart by their names, and from the list
type too if the element is one of many. -/
structure Element.TypesApart (element : Element) (registry : Registry) : Prop where
  pageObject : ∀ type, element.kind = .pageObject type → type.Distinguishable registry.basicElement
  list : element.cardinality.isList → registry.list.Distinguishable registry.basicElement
  items : element.cardinality.isList → ∀ type, element.kind = .pageObject type →
    type.Distinguishable registry.list

namespace NamedType.Distinguishable

theorem refl (type : NamedType) : type.Distinguishable type := fun _ => rfl

theorem symm {type other : NamedType} (h : type.Distinguishable other) : other.Distinguishable type :=
  fun same => (h same.symm).symm

end NamedType.Distinguishable

theorem nodup_simpleNames_iff {types : List NamedType} (distinct : (types.map NamedType.key).Nodup) :
    (types.map NamedType.simpleName).Nodup ↔
      ∀ type ∈ types, ∀ other ∈ types, type.Distinguishable other := by
  constructor
  · intro unique type member other member' same
    rw [List.inj_on_of_nodup_map unique member member' same]
  · intro apart
    refine List.Nodup.map_on ?_ (List.Nodup.of_map _ distinct)
    intro type member other member' same
    exact List.inj_on_of_nodup_map distinct member member'
      (Prod.ext same (apart type member other member' same))

theorem Element.typesApart_iff {element : Element} {registry : Registry} :
    element.TypesApart registry ↔
      (element.kind.type registry).Distinguishable registry.basicElement ∧
        (element.cardinality.isList → registry.list.Distinguishable registry.basicElement ∧
          (element.kind.type registry).Distinguishable registry.list) := by
  cases kind : element.kind with
  | basic =>
    constructor
    · intro apart
      exact ⟨.refl _, fun isList => ⟨apart.list isList, (apart.list isList).symm⟩⟩
    · intro apart
      have no (type : NamedType) : element.kind ≠ .pageObject type := by simp [kind]
      exact ⟨fun type same => absurd same (no type), fun isList => (apart.2 isList).1,
        fun _ type same => absurd same (no type)⟩
  | pageObject type =>
    constructor
    · intro apart
      exact ⟨apart.pageObject type kind, fun isList => ⟨apart.list isList, apart.items isList type kind⟩⟩
    · intro apart
      have only (other : NamedType) (same : element.kind = .pageObject other) : other = type := by
        cases kind.symm.trans same
        rfl
      refine ⟨fun other same => ?_, fun isList => (apart.2 isList).1, fun isList other same => ?_⟩
      · rw [only other same]
        exact apart.1
      · rw [only other same]
        exact (apart.2 isList).2

namespace AccessorPlan

variable {plan : AccessorPlan} {registry : Registry} {accessor : Accessor}

theorem namesTypes_of_build (built : (plan.build registry).outcome = .ok accessor) :
    accessor.NamesTypes registry where
  scopeLine := by
    rw [scopeLine_of_build built, Scope.declarationLine]
    simp only [String.append_assoc]
    exact ⟨_, rfl⟩
  returnLine := by
    have same : accessor.returnType.simpleName = plan.elementType.simpleName := by
      rw [returnType_of_build built, AccessorPlan.returnType]
      split <;> rfl
    rw [returnLine_of_build built, same]
    exact ⟨_, _, String.append_assoc⟩
  single := by
    intro single
    rw [Accessor.signature, NamedType.displayName, if_neg (by simp [single])]
    simp only [String.append_assoc]
    exact ⟨_, rfl⟩
  list := by
    intro collection
    rw [Accessor.signature, NamedType.displayName, if_pos collection]
    simp only [String.append_assoc]
    exact ⟨"List", _, rfl⟩

end AccessorPlan

namespace Config

variable (config : Config)

theorem needsImport_basicElement : config.registry.basicElement.needsImport := by
  simp [NamedType.needsImport, Config.registry]

theorem imports_of_needed {type : NamedType} (needed : type.needsImport) :
    config.registry.imports type ++ config.registry.imports config.registry.basicElement =
      (if type.isCollection then [config.registry.list] else []) ++
        [type.element, config.registry.basicElement] := by
  rw [Registry.imports, Registry.imports, if_pos needed, if_pos config.needsImport_basicElement,
    List.append_assoc]
  rfl

end Config

namespace Element

variable {config : Config} {node : Json} {path : String} {element : Element}

theorem needsImport_of_read (found : read node path config.registry = .ok element) :
    (element.kind.type config.registry).needsImport := by
  rcases read_eq_ok_iff.mp found with ⟨fields, rfl, declared⟩
  rcases bind_eq_ok_iff.mp declared.kind with ⟨reference?, present, kind⟩
  cases reference? with
  | none =>
    rw [← Except.ok.inj kind]
    exact config.needsImport_basicElement
  | some reference =>
    rcases bind_eq_ok_iff.mp kind with ⟨type, resolved, same⟩
    rw [← Except.ok.inj same]
    unfold Registry.pageObjectType at resolved
    split at resolved
    · cases resolved
      simp [NamedType.needsImport, Reference.type, ElementKind.type]
    · cases resolved

end Element

namespace Page

variable {value : Json} {config : Config} {before : List Accessor} {accessor : Accessor}
  {earlier : List Visited} {here : Visited} {element : Element}

namespace MadeFor

variable (made : MadeFor value config.registry before accessor earlier here element)

include made

theorem returnType : accessor.returnType =
    if element.cardinality.isList then (element.kind.type config.registry).list
    else (element.kind.type config.registry).element :=
  AccessorPlan.returnType_of_build made.build

theorem isCollection_iff : accessor.returnType.isCollection ↔ element.cardinality.isList := by
  rw [made.returnType]
  cases element.cardinality.isList <;> simp [NamedType.list, NamedType.element]

theorem element_returnType : accessor.returnType.element = (element.kind.type config.registry).element := by
  rw [made.returnType]
  split <;> rfl

theorem needsImport_returnType : accessor.returnType.needsImport := by
  have needed := Element.needsImport_of_read made.readable
  rw [made.returnType]
  split <;> exact needed

theorem imports : accessor.imports = (accessor.types config.registry).foldl insertType [] := by
  rw [AccessorPlan.imports_of_build made.build, config.imports_of_needed made.needsImport_returnType]
  rfl

theorem mem_imports_iff {type : NamedType} :
    type ∈ accessor.imports ↔ type ∈ accessor.types config.registry := by
  rw [made.imports]
  refine mem_foldl_insertType_iff ?_
  intro other member
  rcases List.mem_append.mp member with list | others
  · split at list
    · rw [List.mem_singleton.mp list]
      rfl
    · cases list
  · rcases List.mem_cons.mp others with rfl | basic
    · rfl
    · rw [List.mem_singleton.mp basic]
      rfl

theorem mem_types_iff {type : NamedType} : type ∈ accessor.types config.registry ↔
    (element.cardinality.isList ∧ type = config.registry.list) ∨
      type = (element.kind.type config.registry).element ∨ type = config.registry.basicElement := by
  simp [Accessor.types, made.isCollection_iff, made.element_returnType]

theorem nodup_simpleNames_imports_iff :
    (accessor.imports.map NamedType.simpleName).Nodup ↔ element.TypesApart config.registry := by
  have distinct : (accessor.imports.map NamedType.key).Nodup := by
    rw [made.imports]
    exact nodup_keys_foldl_insertType .nil
  rw [nodup_simpleNames_iff distinct, Element.typesApart_iff]
  simp only [made.mem_imports_iff, made.mem_types_iff]
  constructor
  · intro apart
    have typed := apart _ (.inr (.inl rfl))
    refine ⟨typed _ (.inr (.inr rfl)), fun isList => ?_⟩
    exact ⟨apart _ (.inl ⟨isList, rfl⟩) _ (.inr (.inr rfl)), typed _ (.inl ⟨isList, rfl⟩)⟩
  · intro h
    rcases h with ⟨basic, lists⟩
    -- Each of the two is the list type, the type of the element or the basic element.
    rintro type (⟨isList, rfl⟩ | rfl | rfl) other (⟨isList', rfl⟩ | rfl | rfl)
    · exact .refl _
    · exact (lists isList).2.symm
    · exact (lists isList).1
    · exact (lists isList').2
    · exact .refl _
    · exact basic
    · exact (lists isList').1.symm
    · exact basic.symm
    · exact .refl _

end MadeFor

theorem simpleNames_apart_iff {registry : Registry} {compilation : Compilation} {after : List Accessor}
    (accepted : Registry.ofConfig config = .ok registry)
    (h : (compile value registry).outcome = .ok compilation)
    (split : compilation.accessors = before ++ accessor :: after) :
    ∃ earlier here element, MadeFor value registry before accessor earlier here element ∧
      accessor.NamesTypes registry ∧ (∀ type, type ∈ accessor.imports ↔ type ∈ accessor.types registry) ∧
      ((accessor.imports.map NamedType.simpleName).Nodup ↔ element.TypesApart registry) ∧
      (element.TypesApart registry → ∀ type ∈ accessor.types registry,
        accessor.imports.filter (fun other => other.simpleName = type.simpleName) = [type]) := by
  rcases Registry.ofConfig_eq_ok_iff.mp accepted with ⟨checked, rfl⟩
  rcases exists_madeFor h split with ⟨earlier, here, element, made⟩
  refine ⟨earlier, here, element, made, AccessorPlan.namesTypes_of_build made.build,
    fun _ => made.mem_imports_iff, made.nodup_simpleNames_imports_iff, ?_⟩
  intro apart type named
  exact filter_key_eq_singleton (made.nodup_simpleNames_imports_iff.mpr apart) (made.mem_imports_iff.mpr named)

theorem simpleNames_apart_iff_typedRows :
    ∃ (registry : Registry) (compilation : Compilation) (accessor : Accessor) (element : Element),
      Registry.ofConfig {} = .ok registry ∧
      (compile (typedRows (some "app/pageObjects/row")) registry).outcome = .ok compilation ∧
      compilation.accessors = [] ++ accessor :: [] ∧
      accessor.imports.map NamedType.simpleName = ["List", "Row", "BasicElement"] ∧
      element.TypesApart registry ∧ registry.list ∈ accessor.types registry ∧
      accessor.imports.filter (fun other => other.simpleName = "List") = [registry.list] := by
  obtain ⟨compilation, accessor, compiled, split, view⟩ := exists_of_accessor
    (show (compile (typedRows (some "app/pageObjects/row")) .standard).outcome.toOption.map
        (fun compilation => compilation.accessors.map fun accessor =>
          (accessor.imports.map NamedType.simpleName, accessor.returnType.isCollection)) =
      some [(["List", "Row", "BasicElement"], true)] by decide +kernel)
  rcases Prod.mk.inj view with ⟨names, collection⟩
  have accepted : Registry.ofConfig {} = .ok .standard := rfl
  rcases simpleNames_apart_iff accepted compiled split with
    ⟨earlier, here, element, made, named, imported, unique, found⟩
  have apart : element.TypesApart .standard := unique.mp (by rw [names]; decide)
  have list : Registry.standard.list ∈ accessor.types .standard := by
    rw [Accessor.types, if_pos collection]
    exact List.mem_cons_self
  exact ⟨_, compilation, accessor, element, accepted, compiled, split, names, apart, list, found apart _ list⟩

/-- A page-object type that is called like the basic element. -/
theorem not_forall_simpleNames_apart :
    ¬ ∀ (value : Json) (config : Config) (registry : Registry) (compilation : Compilation),
      Registry.ofConfig config = .ok registry → (compile value registry).outcome = .ok compilation →
        ∀ accessor ∈ compilation.accessors, (accessor.imports.map NamedType.simpleName).Nodup := by
  intro all
  obtain ⟨compilation, accessor, compiled, split, names⟩ := exists_of_accessor
    (show (compile (typedRows (some "app/pageObjects/basicElement")) .standard).outcome.toOption.map
        (fun compilation => compilation.accessors.map fun accessor =>
          accessor.imports.map NamedType.simpleName) =
      some [["List", "BasicElement", "BasicElement"]] by decide +kernel)
  have unique := all _ {} _ compilation rfl compiled accessor (by simp [split])
  rw [names] at unique
  exact absurd unique (by decide)

end Page

end PageObject
