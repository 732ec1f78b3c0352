import Mathlib.Data.List.DropRight
import PageObject.Proofs.Reference.ImportPath
import PageObject.Proofs.Registry

namespace PageObject

open Text (Between IsPath Continued)

theorem Text.trim_ne_empty {text : String} (filled : isBlankText text = false) : trim text ≠ "" := by
  intro empty
  have blankRest : ∀ c ∈ text.toList.dropWhile isBlank, isBlank c = true := by
    simpa [trim] using empty
  have blank : text.toList.all isBlank := by
    rw [← List.takeWhile_append_dropWhile (p := isBlank) (l := text.toList), List.all_append, List.all_takeWhile,
      Bool.true_and]
    exact List.all_eq_true.mpr blankRest
  rw [isBlankText, blank] at filled
  cases filled

theorem Reference.isBlank_of_isPathChar {c : Char} (h : IsPathChar c) : Text.isBlank c = false := by
  rw [isPathChar_iff] at h
  exact Text.of_ascii (p := fun c => Text.isWordChar c → Text.isBlank c = false) (by decide)
    (Text.toNat_lt_of_isWordChar h) h

namespace Config

/-- A path can stand in an import: it has two or more segments with dots between them, none of them empty and none with
white space in it. -/
structure Importable (path : String) : Prop where
  segments : IsPath (fun c => Text.isBlank c = false) path
  qualified : 2 ≤ (path.toList.splitOn '.').length

/-- Each dot in a name stands between two other characters, and nothing in the name is white space. -/
structure Usable (name : String) : Prop where
  dots : Between '.' name.toList
  filled : ∀ c ∈ name.toList, Text.isBlank c = false

instance (name : String) : Decidable (Usable name) :=
  decidable_of_iff (Between '.' name.toList ∧ name.toList.all fun c => !Text.isBlank c) <| by
    constructor
    · intro h
      exact ⟨h.1, by simpa using h.2⟩
    · intro h
      exact ⟨h.dots, by simpa using h.filled⟩

/-- The import paths under given settings, each with the name in the settings that it comes from. -/
inductive Names (config : Config) (registry : Registry) : String → String → Prop
  | basicElement : Names config registry (Text.trim config.corePackage) registry.basicElement.importPath
  | locator : Names config registry (Text.trim config.corePackage) registry.locator.importPath
  | list : Names config registry config.listImport registry.list.importPath
  | pageObject {text context package : String} {type : NamedType}
      (resolved : registry.pageObjectType text context = .ok type)
      (mapped : config.packageMapping.get? (Reference.namespaceOf text) = some package) :
      Names config registry package type.importPath

variable {config : Config} {registry : Registry} {name path : String}

theorem isPath_iff_usable (given : name ≠ "") : IsPath (fun c => Text.isBlank c = false) name ↔ Usable name := by
  rw [Text.isPath_iff, and_iff_right given]
  constructor
  · intro h
    rcases h with ⟨dots, filled⟩
    refine ⟨dots, fun c member => ?_⟩
    by_cases dot : c = '.'
    · rw [dot]
      rfl
    · exact filled c member dot
  · intro h
    exact ⟨h.dots, fun c member _ => h.filled c member⟩

theorem importable_iff (qualified : 2 ≤ (path.toList.splitOn '.').length) :
    Importable path ↔ IsPath (fun c => Text.isBlank c = false) path :=
  ⟨Importable.segments, fun segments => ⟨segments, qualified⟩⟩

theorem importable_iff_of_continued {words : List (List Char)}
    (continued : Continued Reference.IsPathChar name path words) (more : words ≠ []) (given : name ≠ "") :
    2 ≤ (path.toList.splitOn '.').length ∧ (Importable path ↔ Usable name) := by
  have qualified := continued.two_le_length more
  have unblank := continued.mono fun c => Reference.isBlank_of_isPathChar
  refine ⟨qualified, ?_⟩
  rw [importable_iff qualified, unblank.isPath_iff, isPath_iff_usable given]

theorem importable_iff_of_isQualified (accepted : isQualified name) :
    2 ≤ (name.toList.splitOn '.').length ∧ (Importable name ↔ Usable name) := by
  unfold isQualified at accepted
  split at accepted
  · rename_i before after found
    obtain ⟨whole, undotted⟩ := Text.splitLast?_eq_some_iff.mp found
    have start := List.length_pos_iff.mpr (List.splitOn_ne_nil '.' before)
    have qualified : 2 ≤ (name.toList.splitOn '.').length := by
      rw [whole, List.splitOn_append_cons_self, List.length_append, List.splitOn_eq_singleton undotted,
        List.length_singleton]
      omega
    have given : name ≠ "" := by
      intro empty
      rw [empty] at whole
      simp at whole
    refine ⟨qualified, ?_⟩
    rw [importable_iff qualified, isPath_iff_usable given]
  · cases accepted

theorem ne_empty_of_mapped (checked : config.check = .ok ())
    (mapped : config.packageMapping.get? name = some path) : path ≠ "" := by
  obtain ⟨before, after, whole, -⟩ := List.lookup_eq_some_iff.mp mapped
  have filled := (check_eq_ok_iff.mp checked).2.2 (name, path) (by rw [whole]; simp)
  intro empty
  rw [empty] at filled
  cases filled

/-- Under accepted settings, every import path has two or more segments. It can stand in an import if and only if no
dot of its name in the settings is at an end or next to another one and the name has no white space. -/
theorem importable_iff_usable (accepted : Registry.ofConfig config = .ok registry)
    (comes : Names config registry name path) :
    2 ≤ (path.toList.splitOn '.').length ∧ (Importable path ↔ Usable name) := by
  obtain ⟨checked, rfl⟩ := Registry.ofConfig_eq_ok_iff.mp accepted
  have core := Text.trim_ne_empty (check_eq_ok_iff.mp checked).1
  cases comes with
  | basicElement =>
    have behind : ".BasicElement".toList = '.' :: "BasicElement".toList := rfl
    exact importable_iff_of_continued (Reference.continued_append _ behind (by decide) (by decide)) (by simp) core
  | locator =>
    have behind : ".Locator".toList = '.' :: "Locator".toList := rfl
    exact importable_iff_of_continued (Reference.continued_append _ behind (by decide) (by decide)) (by simp) core
  | list => exact importable_iff_of_isQualified (isQualified_of_check checked)
  | pageObject resolved mapped =>
    obtain ⟨namespaceName, directories, simple, segmented, named⟩ :=
      Registry.pageObjectType_eq_ok_iff_namedBy.mp resolved
    have given := ne_empty_of_mapped checked mapped
    rw [Reference.namespaceOf_eq segmented] at mapped
    have continued := Reference.continued_importPath segmented named
    have root : Reference.rootPackage config.registry.packageMapping namespaceName = name := by
      rw [Reference.rootPackage, show config.registry.packageMapping = config.packageMapping from rfl, mapped]
    rw [root] at continued
    exact importable_iff_of_continued continued (by simp [Reference.pathWords]) given

def acme : Config where
  corePackage := " acme.core "
  packageMapping := .ofList [("acme", "com.acme.ui")]

theorem importable_iff_usable_acme :
    ∃ registry type, Registry.ofConfig acme = .ok registry ∧
      registry.pageObjectType "acme/pageObjects/nav/button" "element 'b'" = .ok type ∧
      type.importPath = "com.acme.ui.nav.Button" ∧ Importable type.importPath ∧
      Importable registry.basicElement.importPath ∧ Importable registry.list.importPath := by
  have accepted : Registry.ofConfig acme = .ok acme.registry := rfl
  have resolved : acme.registry.pageObjectType "acme/pageObjects/nav/button" "element 'b'" =
    .ok { simpleName := "Button", importPath := "com.acme.ui.nav.Button" } := by decide
  have page := (importable_iff_usable accepted (.pageObject resolved rfl)).2
  have basic := (importable_iff_usable accepted .basicElement).2
  have list := (importable_iff_usable accepted .list).2
  exact ⟨_, _, accepted, resolved, rfl, page.mpr (by decide +kernel), basic.mpr (by decide +kernel),
    list.mpr (by decide +kernel)⟩

/-- A list type with two dots in a row is accepted, and imported with an empty segment. -/
theorem not_forall_importable :
    ¬ ∀ (config : Config) (registry : Registry) (name path : String),
      Registry.ofConfig config = .ok registry → Names config registry name path → Importable path := by
  intro all
  have importable := all { listImport := "java..List" } _ _ _ rfl .list
  have empty : [] ∈ "java..List".toList.splitOn '.' := by decide
  exact importable.segments.filled empty

end Config

end PageObject
