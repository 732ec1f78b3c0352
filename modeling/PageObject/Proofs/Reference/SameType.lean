import PageObject.Proofs.Reference.ImportPath

namespace PageObject

namespace Reference

/-- How a directory is written in a package: in lower case, with underscores in place of hyphens. -/
def packageWord (directory : List Char) : List Char :=
  (directory.map fun c => if c = '-' then '_' else c).map Char.toLower

def SameName (reference other : Reference) : Prop :=
  ∃ first second rest, reference.name = first :: rest ∧ other.name = second :: rest ∧
    first.toUpper = second.toUpper

def SamePlace (reference other : Reference) : Prop :=
  reference.namespaceName = other.namespaceName ∧
    reference.directories.map packageWord = other.directories.map packageWord

/-- The other namespace is this one with the word `pageobjects` and further words behind it, and in a package the
directories are written as these further words, `pageobjects` and the other directories. -/
def RunsInto (reference other : Reference) : Prop :=
  ∃ words, other.namespaceName = reference.namespaceName ++ ("pageobjects".toList :: words).flatMap ('-' :: ·) ∧
    reference.directories.map packageWord = words ++ "pageobjects".toList :: other.directories.map packageWord

variable {mapping : PackageMapping} {reference other : Reference} {text : List Char} {type otherType : NamedType}

theorem splitOn_importPath
    (segmented : Segmented text reference.namespaceName reference.directories reference.name)
    (named : NamedBy mapping reference.namespaceName reference.directories reference.name type)
    (unmapped : mapping.get? (String.ofList reference.namespaceName) = none) :
    type.importPath.toList.splitOn '.' = reference.namespaceName.splitOn '-' ++
      "pageobjects".toList :: reference.directories.map packageWord ++ [type.simpleName.toList] := by
  rw [(continued_importPath segmented named).segments, (continued_rootPackage unmapped).segments,
    splitOn_hyphens segmented.namespaceName, List.append_assoc, List.append_assoc]
  rfl

theorem simpleName_eq_iff
    (named : NamedBy mapping reference.namespaceName reference.directories reference.name type)
    (namedOther : NamedBy mapping other.namespaceName other.directories other.name otherType) :
    type.simpleName = otherType.simpleName ↔ reference.SameName other := by
  rcases named.simpleName with ⟨first, rest, name, simpleName⟩
  rcases namedOther.simpleName with ⟨second, others, otherName, otherSimpleName⟩
  rw [simpleName, otherSimpleName, String.ofList_inj, List.cons.injEq, SameName, name, otherName]
  constructor
  · intro h
    rcases h with ⟨letter, rfl⟩
    exact ⟨first, second, rest, rfl, rfl, letter⟩
  · intro h
    rcases h with ⟨_, _, _, same, sameOther, letter⟩
    cases same
    cases sameOther
    exact ⟨letter, rfl⟩

theorem hyphen_not_mem_packageWord (areWords : ∀ directory ∈ reference.directories, IsWord directory) :
    ∀ word ∈ reference.directories.map packageWord, '-' ∉ word := by
  intro word member hyphen
  rcases List.mem_map.mp member with ⟨directory, inside, rfl⟩
  have isPathChar := isPathChar_of_mem_directory (areWords directory inside) '-' hyphen
  rw [isPathChar_iff] at isPathChar
  exact absurd isPathChar (by decide)

theorem runsInto_iff (areWords : ∀ directory ∈ reference.directories, IsWord directory) :
    (∃ words, other.namespaceName.splitOn '-' =
        reference.namespaceName.splitOn '-' ++ "pageobjects".toList :: words ∧
      reference.directories.map packageWord = words ++ "pageobjects".toList :: other.directories.map packageWord) ↔
    reference.RunsInto other := by
  refine exists_congr fun words => and_congr_left fun split => ?_
  have undivided := hyphen_not_mem_packageWord areWords
  rw [split, List.forall_mem_append] at undivided
  exact Text.splitOn_eq_append_iff (List.forall_mem_cons.mpr ⟨by decide, undivided.1⟩)

theorem segments_eq_iff (areWords : ∀ directory ∈ reference.directories, IsWord directory)
    (areOtherWords : ∀ directory ∈ other.directories, IsWord directory) :
    reference.namespaceName.splitOn '-' ++ "pageobjects".toList :: reference.directories.map packageWord =
        other.namespaceName.splitOn '-' ++ "pageobjects".toList :: other.directories.map packageWord ↔
      reference.SamePlace other ∨ reference.RunsInto other ∨ other.RunsInto reference := by
  rw [Text.append_cons_eq_append_cons_iff, runsInto_iff areWords, runsInto_iff areOtherWords,
    (Text.splitOn_injective '-').eq_iff]
  rfl

end Reference

namespace Registry

open Reference

/-- Without a mapping, two references name one type if and only if their names differ in the case of the first letter
at most and they are in the same place, or one of them runs into the other one. -/
theorem key_eq_iff_samePlace {registry : Registry} {text context otherText otherContext : String}
    {type otherType : NamedType} (accepted : registry.pageObjectType text context = .ok type)
    (acceptedOther : registry.pageObjectType otherText otherContext = .ok otherType)
    (unmapped : registry.packageMapping.get? (namespaceOf text) = none)
    (unmappedOther : registry.packageMapping.get? (namespaceOf otherText) = none) :
    ∃ reference other : Reference,
      Segmented text.toList reference.namespaceName reference.directories reference.name ∧
      Segmented otherText.toList other.namespaceName other.directories other.name ∧
      (type.key = otherType.key ↔ reference.SameName other ∧
        (reference.SamePlace other ∨ reference.RunsInto other ∨ other.RunsInto reference)) := by
  obtain ⟨namespaceName, directories, name, segmented, named⟩ := pageObjectType_eq_ok_iff_namedBy.mp accepted
  obtain ⟨otherNamespace, otherDirectories, otherName, segmentedOther, namedOther⟩ :=
    pageObjectType_eq_ok_iff_namedBy.mp acceptedOther
  let reference : Reference := ⟨namespaceName, directories, name⟩
  let other : Reference := ⟨otherNamespace, otherDirectories, otherName⟩
  rw [namespaceOf_eq segmented] at unmapped
  rw [namespaceOf_eq segmentedOther] at unmappedOther
  have path := @splitOn_importPath _ reference _ _ segmented named unmapped
  have otherPath := @splitOn_importPath _ other _ _ segmentedOther namedOther unmappedOther
  have names := @simpleName_eq_iff _ reference other _ _ named namedOther
  have places := @segments_eq_iff reference other segmented.directories segmentedOther.directories
  have paths : type.importPath = otherType.importPath ↔
      type.importPath.toList.splitOn '.' = otherType.importPath.toList.splitOn '.' := by
    rw [(Text.splitOn_injective '.').eq_iff, String.toList_inj]
  refine ⟨reference, other, segmented, segmentedOther, ?_⟩
  rw [NamedType.key, NamedType.key, Prod.mk.injEq, ← names, ← places, paths, path, otherPath]
  constructor
  · intro h
    rcases h with ⟨simpleName, same⟩
    rw [simpleName] at same
    exact ⟨simpleName, List.append_cancel_right same⟩
  · intro h
    rcases h with ⟨simpleName, same⟩
    exact ⟨simpleName, by rw [simpleName, same]⟩

theorem key_eq_iff_samePlace_menu :
    let menu : NamedType := { simpleName := "Menu", importPath := "app.pageobjects.pageobjects.Menu" }
    Registry.standard.pageObjectType "app/pageObjects/pageObjects/menu" "element 'a'" = .ok menu ∧
    Registry.standard.pageObjectType "app-pageobjects/pageObjects/Menu" "element 'b'" = .ok menu ∧
    Registry.standard.packageMapping.get? (namespaceOf "app/pageObjects/pageObjects/menu") = none ∧
    Registry.standard.packageMapping.get? (namespaceOf "app-pageobjects/pageObjects/Menu") = none ∧
    ∃ reference other : Reference,
      Segmented "app/pageObjects/pageObjects/menu".toList reference.namespaceName reference.directories
        reference.name ∧
      Segmented "app-pageobjects/pageObjects/Menu".toList other.namespaceName other.directories other.name ∧
      reference.SameName other ∧
      (reference.SamePlace other ∨ reference.RunsInto other ∨ other.RunsInto reference) := by
  intro menu
  have accepted : Registry.standard.pageObjectType "app/pageObjects/pageObjects/menu" "element 'a'" = .ok menu := by
    decide
  have acceptedOther : Registry.standard.pageObjectType "app-pageobjects/pageObjects/Menu" "element 'b'" =
    .ok menu := by decide
  have unmapped : Registry.standard.packageMapping.get? (namespaceOf "app/pageObjects/pageObjects/menu") =
    none := by decide
  have unmappedOther : Registry.standard.packageMapping.get? (namespaceOf "app-pageobjects/pageObjects/Menu") =
    none := by decide
  obtain ⟨reference, other, segmented, segmentedOther, same⟩ :=
    key_eq_iff_samePlace accepted acceptedOther unmapped unmappedOther
  exact ⟨accepted, acceptedOther, unmapped, unmappedOther, reference, other, segmented, segmentedOther, same.mp rfl⟩

/-- Two references of different namespaces can name one type. -/
theorem not_forall_samePlace :
    ¬ ∀ (registry : Registry) (text context otherText otherContext : String) (type otherType : NamedType)
      (reference other : Reference), registry.pageObjectType text context = .ok type →
      registry.pageObjectType otherText otherContext = .ok otherType →
      registry.packageMapping.get? (namespaceOf text) = none →
      registry.packageMapping.get? (namespaceOf otherText) = none →
      Segmented text.toList reference.namespaceName reference.directories reference.name →
      Segmented otherText.toList other.namespaceName other.directories other.name →
      type.key = otherType.key → reference.SameName other ∧ reference.SamePlace other := by
  intro all
  let reference : Reference := ⟨"app".toList, ["pageobjects".toList], "menu".toList⟩
  let other : Reference := ⟨"app-pageobjects".toList, [], "menu".toList⟩
  have segmented : Segmented "app/pageObjects/pageobjects/menu".toList reference.namespaceName
    reference.directories reference.name := ofText?_eq_some_iff.mp (by decide)
  have segmentedOther : Segmented "app-pageobjects/pageObjects/menu".toList other.namespaceName
    other.directories other.name := ofText?_eq_some_iff.mp (by decide)
  have same : reference.namespaceName = other.namespaceName :=
    (all .standard "app/pageObjects/pageobjects/menu" "element 'a'" "app-pageobjects/pageObjects/menu" "element 'b'"
      { simpleName := "Menu", importPath := "app.pageobjects.pageobjects.Menu" }
      { simpleName := "Menu", importPath := "app.pageobjects.pageobjects.Menu" } reference other (by decide)
      (by decide) (by decide) (by decide) segmented segmentedOther rfl).2.1
  exact absurd same (by decide)

end Registry

end PageObject
