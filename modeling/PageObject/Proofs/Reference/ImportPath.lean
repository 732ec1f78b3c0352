import PageObject.Proofs.Reference.Grammar

namespace PageObject

open Text (Between IsPath Continued)

namespace Reference

def namespaceOf (text : String) : String := String.ofList (text.toList.takeWhile (· ≠ '/'))

def IsPathChar (c : Char) : Prop := c.isAlphanum ∨ c = '_'

variable {mapping : PackageMapping} {namespaceName name : List Char} {directories : List (List Char)}
  {type : NamedType}

theorem namespaceOf_eq {text : String} (segmented : Segmented text.toList namespaceName directories name) :
    namespaceOf text = String.ofList namespaceName := by
  rw [namespaceOf, Text.takeWhile_eq_of_splitOn segmented.segments]

theorem isPathChar_iff (c : Char) : IsPathChar c ↔ Text.isWordChar c := (isWordChar_iff c).symm

theorem not_isPathChar_dot : ¬ IsPathChar '.' := by
  rw [isPathChar_iff]
  decide

theorem isPathChar_of_isWord {word : List Char} (isWord : IsWord word) {c : Char} (member : c ∈ word)
    (other : c ≠ '-') : IsPathChar c := by
  rcases isWord.2 c member with alphanum | underscore | hyphen
  · exact .inl alphanum
  · exact .inr underscore
  · exact absurd hyphen other

theorem isPathChar_of_mem_directory {directory : List Char} (isWord : IsWord directory) :
    ∀ c ∈ (directory.map fun c => if c = '-' then '_' else c).map Char.toLower, IsPathChar c := by
  rw [List.map_map]
  intro c written
  rcases List.mem_map.mp written with ⟨d, here, rfl⟩
  rw [Function.comp_apply, isPathChar_iff]
  refine Text.isWordChar_toLower ?_
  rw [← isPathChar_iff]
  split
  · exact .inr rfl
  · rename_i other
    exact isPathChar_of_isWord isWord here other

theorem isPathChar_of_mem_capitalized {first : Char} {rest : List Char} (isName : IsName (first :: rest)) :
    ∀ c ∈ first.toUpper :: rest, IsPathChar c := by
  rcases isName with ⟨_, _, same, letter, word⟩
  cases same
  refine List.forall_mem_cons.mpr ⟨?_, word⟩
  rw [← isLetter_eq] at letter
  rw [isPathChar_iff, Text.isWordChar, Text.isLetter_toUpper letter]
  rfl

def pathWords (directories : List (List Char)) (simpleName : String) : List (List Char) :=
  directories.map (fun directory => (directory.map fun c => if c = '-' then '_' else c).map Char.toLower) ++
    [simpleName.toList]

theorem isPathChar_of_mem_pathWords (areWords : ∀ directory ∈ directories, IsWord directory) (isName : IsName name)
    (named : NamedBy mapping namespaceName directories name type) :
    ∀ word ∈ pathWords directories type.simpleName, word ≠ [] ∧ ∀ c ∈ word, IsPathChar c := by
  intro word member
  rcases List.mem_append.mp member with within | last
  · rcases List.mem_map.mp within with ⟨directory, inside, rfl⟩
    have isWord := areWords directory inside
    exact ⟨by simpa using isWord.1, isPathChar_of_mem_directory isWord⟩
  · rcases named.simpleName with ⟨first, rest, rfl, simpleName⟩
    rw [List.mem_singleton.mp last, simpleName, String.toList_ofList]
    exact ⟨List.cons_ne_nil _ _, isPathChar_of_mem_capitalized isName⟩

theorem continued_importPath {text : List Char} (segmented : Segmented text namespaceName directories name)
    (named : NamedBy mapping namespaceName directories name type) :
    Continued IsPathChar (rootPackage mapping namespaceName) type.importPath
      (pathWords directories type.simpleName) := by
  have words := isPathChar_of_mem_pathWords segmented.directories segmented.name named
  have undotted : ∀ word ∈ pathWords directories type.simpleName, word.splitOn '.' = [word] := fun word member =>
    List.splitOn_eq_singleton fun dot => not_isPathChar_dot ((words word member).2 '.' dot)
  have texts : directories.map (fun directory => String.ofList
      ((directory.map fun c => if c = '-' then '_' else c).map Char.toLower)) ++ [type.simpleName] =
        (pathWords directories type.simpleName).map String.ofList := by
    simp [pathWords]
  refine ⟨?_, fun empty => (words _ empty).1 rfl, fun word member => (words word member).2⟩
  rw [named.importPath, List.cons_append, texts, Text.splitOn_toList_intercalate (List.cons_ne_nil _ _),
    List.flatMap_cons, List.flatMap_map]
  simp only [String.toList_ofList]
  rw [List.flatMap_congr undotted, List.flatMap_singleton']

theorem continued_append (root : String) {suffix : String} {word : List Char} (behind : suffix.toList = '.' :: word)
    (filled : word ≠ []) (isWord : word.all Text.isWordChar) :
    Continued IsPathChar root (root ++ suffix) [word] := by
  have each : ∀ c ∈ word, IsPathChar c := fun c member =>
    (isPathChar_iff c).mpr (List.all_eq_true.mp isWord c member)
  have undotted : '.' ∉ word := fun dot => not_isPathChar_dot (each '.' dot)
  refine ⟨?_, ?_, List.forall_mem_singleton.mpr each⟩
  · rw [String.toList_append, behind, List.splitOn_append_cons_self, List.splitOn_eq_singleton undotted]
  · exact fun empty => filled (List.mem_singleton.mp empty).symm

theorem continued_rootPackage (unmapped : mapping.get? (String.ofList namespaceName) = none) :
    Continued IsPathChar (String.ofList (namespaceName.map fun c => if c = '-' then '.' else c))
      (rootPackage mapping namespaceName) ["pageobjects".toList] := by
  have behind : ".pageobjects".toList = '.' :: "pageobjects".toList := rfl
  rw [rootPackage, unmapped]
  exact continued_append _ behind (by decide) (by decide)

theorem splitOn_hyphens (isWord : IsWord namespaceName) :
    (String.ofList (namespaceName.map fun c => if c = '-' then '.' else c)).toList.splitOn '.' =
      namespaceName.splitOn '-' := by
  have apart : ∀ c ∈ namespaceName, (if c = '-' then '.' else c) = '.' ↔ c = '-' := by
    intro c member
    by_cases hyphen : c = '-'
    · simp [hyphen]
    · have other : c ≠ '.' := fun dot => not_isPathChar_dot (dot ▸ isPathChar_of_isWord isWord member hyphen)
      simp [hyphen, other]
  have kept : ∀ word ∈ namespaceName.splitOn '-', word.map (fun c => if c = '-' then '.' else c) = word := by
    intro word member
    refine (List.map_congr_left fun c inside => if_neg ?_).trans (List.map_id word)
    exact (Text.exists_mem_splitOn_iff.mp ⟨word, member, inside⟩).2
  rw [String.toList_ofList, Text.splitOn_map apart, List.map_congr_left kept, List.map_id']

theorem isPathChar_of_mem_splitOn (isWord : IsWord namespaceName) :
    ∀ word ∈ namespaceName.splitOn '-', ∀ c ∈ word, IsPathChar c := by
  intro word member c inside
  have here := Text.exists_mem_splitOn_iff.mp ⟨word, member, inside⟩
  exact isPathChar_of_isWord isWord here.1 here.2

end Reference

namespace Registry

open Reference

/-- The segments of an import path without a mapping hold letters, digits and underscores only. None of them is empty
if and only if each hyphen of the namespace stands between two other characters. -/
theorem isPath_importPath_iff {registry : Registry} {text context : String} {type : NamedType}
    (accepted : registry.pageObjectType text context = .ok type)
    (unmapped : registry.packageMapping.get? (namespaceOf text) = none) :
    (∀ segment ∈ type.importPath.toList.splitOn '.', ∀ c ∈ segment, IsPathChar c) ∧
    (IsPath IsPathChar type.importPath ↔ Between '-' (namespaceOf text).toList) := by
  obtain ⟨namespaceName, directories, name, segmented, named⟩ := pageObjectType_eq_ok_iff_namedBy.mp accepted
  have isWord := segmented.namespaceName
  have whole := continued_importPath segmented named
  rw [namespaceOf_eq segmented] at unmapped ⊢
  have root := continued_rootPackage unmapped
  have cut := splitOn_hyphens isWord
  have words := isPathChar_of_mem_splitOn isWord
  rw [← cut] at words
  refine ⟨whole.forall_segment (root.forall_segment words), ?_⟩
  rw [whole.isPath_iff, root.isPath_iff, String.toList_ofList]
  constructor
  · intro path
    have filled := path.filled
    rw [cut] at filled
    exact (Text.nil_not_mem_splitOn_iff.mp filled).2
  · intro between
    refine ⟨?_, words⟩
    rw [cut]
    exact Text.nil_not_mem_splitOn_iff.mpr ⟨isWord.1, between⟩

theorem isPath_importPath_iff_menuBar :
    ∃ type, Registry.standard.pageObjectType "utam-app/pageObjects/-nav-/menuBar" "element 'menu'" = .ok type ∧
      Registry.standard.packageMapping.get? (namespaceOf "utam-app/pageObjects/-nav-/menuBar") = none ∧
      type.importPath = "utam.app.pageobjects._nav_.MenuBar" ∧ IsPath IsPathChar type.importPath := by
  have accepted : Registry.standard.pageObjectType "utam-app/pageObjects/-nav-/menuBar" "element 'menu'" =
    .ok { simpleName := "MenuBar", importPath := "utam.app.pageobjects._nav_.MenuBar" } := by decide
  have unmapped :
    Registry.standard.packageMapping.get? (namespaceOf "utam-app/pageObjects/-nav-/menuBar") = none := by decide
  have between : Between '-' (namespaceOf "utam-app/pageObjects/-nav-/menuBar").toList := by decide +kernel
  exact ⟨_, accepted, unmapped, rfl, (isPath_importPath_iff accepted unmapped).2.mpr between⟩

/-- Two hyphens in a row leave an empty segment in the package of a namespace. -/
theorem not_forall_isPath_importPath :
    ¬ ∀ (registry : Registry) (text context : String) (type : NamedType),
      registry.pageObjectType text context = .ok type →
        registry.packageMapping.get? (namespaceOf text) = none → IsPath IsPathChar type.importPath := by
  intro all
  have accepted : Registry.standard.pageObjectType "my--app/pageObjects/menu" "element 'm'" =
    .ok { simpleName := "Menu", importPath := "my..app.pageobjects.Menu" } := by decide
  have path := all _ _ _ _ accepted (by decide)
  have empty : [] ∈ "my..app.pageobjects.Menu".toList.splitOn '.' := by decide
  exact path.filled empty

end Registry

end PageObject
