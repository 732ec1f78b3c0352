import Mathlib.Computability.Language
import PageObject.Proofs.Fault
import PageObject.Proofs.Text.Identifier
import PageObject.Proofs.Text.Segments
import PageObject.Reference

namespace PageObject

open scoped Computability

namespace Reference

/-- Letters, digits, underscores and hyphens, at least one of them. -/
def IsWord (word : List Char) : Prop := word ≠ [] ∧ ∀ c ∈ word, c.isAlphanum ∨ c = '_' ∨ c = '-'

/-- A letter, and behind it letters, digits and underscores. -/
def IsName (name : List Char) : Prop :=
  ∃ first rest, name = first :: rest ∧ first.isAlpha ∧ ∀ c ∈ rest, c.isAlphanum ∨ c = '_'

/-- The segments between the slashes of a text that is a reference. -/
structure Segmented (text namespaceName : List Char) (directories : List (List Char)) (name : List Char) :
    Prop where
  segments : text.splitOn '/' = namespaceName :: "pageObjects".toList :: (directories ++ [name])
  namespaceName : IsWord namespaceName
  directories : ∀ directory ∈ directories, IsWord directory
  name : IsName name

def words : Language Char := {word | IsWord word}

def names : Language Char := {name | IsName name}

/-- The three groups of the pattern `^([A-Za-z0-9_-]+)/pageObjects/((?:[A-Za-z0-9_-]+/)*)([A-Za-z][A-Za-z0-9_]*)$` in a
match of a text. -/
structure Captures (text namespaceName within name : List Char) : Prop where
  text : text = namespaceName ++ "/pageObjects/".toList ++ within ++ name
  namespaceName : namespaceName ∈ words
  within : within ∈ (words * {['/']})∗
  name : name ∈ names

def directoriesOf (within : List Char) : List (List Char) :=
  (within.splitOn '/').filter fun directory => !directory.isEmpty

def rootPackage (mapping : PackageMapping) (namespaceName : List Char) : String :=
  match mapping.get? (String.ofList namespaceName) with
  | some package => package
  | none => String.ofList (namespaceName.map fun c => if c = '-' then '.' else c) ++ ".pageobjects"

/-- A type is what the segments of a reference name under a mapping: the last one, capitalized, below the packages
of the others. -/
structure NamedBy (mapping : PackageMapping) (namespaceName : List Char) (directories : List (List Char))
    (name : List Char) (type : NamedType) : Prop where
  simpleName : ∃ first rest, name = first :: rest ∧ type.simpleName = String.ofList (first.toUpper :: rest)
  importPath : type.importPath = ".".intercalate (rootPackage mapping namespaceName ::
    (directories.map fun directory =>
      String.ofList ((directory.map fun c => if c = '-' then '_' else c).map Char.toLower)) ++ [type.simpleName])
  isCollection : type.isCollection = false

theorem isLetter_eq (c : Char) : Text.isLetter c = c.isAlpha := by
  have alpha : c.isAlpha = (c.isUpper || c.isLower) := rfl
  have upper : c.isUpper = (decide ('A' ≤ c) && decide (c ≤ 'Z')) := Bool.decide_and _ _
  have lower : c.isLower = (decide ('a' ≤ c) && decide (c ≤ 'z')) := rfl
  rw [Text.isLetter, alpha, upper, lower, Bool.or_comm]

theorem isWordChar_iff (c : Char) : Text.isWordChar c ↔ c.isAlphanum ∨ c = '_' := by
  have digit : (decide ('0' ≤ c) && decide (c ≤ '9')) = c.isDigit := rfl
  rw [Text.isWordChar, isLetter_eq, digit, Char.isAlphanum]
  simp

theorem isHyphenatedWord_iff (word : List Char) : Text.isHyphenatedWord word ↔ IsWord word := by
  simp [Text.isHyphenatedWord, Text.isHyphenatedChar, IsWord, isWordChar_iff, or_assoc]

theorem isIdentifierText_iff (name : List Char) : Text.isIdentifierText name ↔ IsName name := by
  cases name with
  | nil => simp [Text.isIdentifierText, IsName]
  | cons first rest => simp [Text.isIdentifierText, IsName, isWordChar_iff, isLetter_eq]

theorem slash_not_mem_of_isWord {word : List Char} (isWord : IsWord word) : '/' ∉ word := by
  intro member
  rcases isWord.2 _ member with h | h | h <;> exact absurd h (by decide)

theorem slash_not_mem_of_isName {name : List Char} (isName : IsName name) : '/' ∉ name := by
  rcases isName with ⟨first, rest, rfl, letter, word⟩
  intro member
  rcases List.mem_cons.mp member with rfl | member
  · cases letter
  · rcases word _ member with h | h <;> exact absurd h (by decide)

theorem ofText?_eq_some_iff {text : String} {reference : Reference} :
    ofText? text = some reference ↔
      Segmented text.toList reference.namespaceName reference.directories reference.name := by
  unfold ofText?
  rw [Text.segments_eq_splitOn]
  constructor
  · intro h
    split at h
    · rename_i namespaceName mark rest cut
      split at h
      · rename_i name last
        split at h
        · rename_i written
          rcases written with ⟨isWord, marked, directories, isName⟩
          cases h
          exact {
            segments := by rw [cut, List.dropLast_append_getLast? name last, marked]; rfl
            namespaceName := (isHyphenatedWord_iff _).mp isWord
            directories := fun directory member =>
              (isHyphenatedWord_iff _).mp (List.all_eq_true.mp directories directory member)
            name := (isIdentifierText_iff _).mp isName }
        · cases h
      · cases h
    · cases h
  · intro h
    have isWord := (isHyphenatedWord_iff _).mpr h.namespaceName
    have directories : reference.directories.all Text.isHyphenatedWord :=
      List.all_eq_true.mpr fun directory member => (isHyphenatedWord_iff _).mpr (h.directories directory member)
    have isName := (isIdentifierText_iff _).mpr h.name
    simp only [h.segments, List.getLast?_concat, List.dropLast_concat]
    rw [if_pos ⟨isWord, rfl, directories, isName⟩]

theorem intercalate_concat (separator : Char) (texts : List (List Char)) (last : List Char) :
    [separator].intercalate (texts ++ [last]) = texts.flatMap (· ++ [separator]) ++ last := by
  induction texts with
  | nil => exact List.intercalate_singleton
  | cons first rest ih =>
    have behind : rest ++ [last] ≠ [] := List.append_ne_nil_of_right_ne_nil _ (List.cons_ne_nil _ _)
    rw [List.cons_append, List.intercalate_cons_of_ne_nil behind, ih, List.flatMap_cons, List.append_assoc _ _ last]

theorem mem_kstar_iff {within : List Char} :
    within ∈ (words * {['/']})∗ ↔
      ∃ directories : List (List Char), (∀ directory ∈ directories, IsWord directory) ∧
        within = directories.flatMap (· ++ ['/']) := by
  rw [Language.mem_kstar]
  constructor
  · intro h
    rcases h with ⟨parts, rfl, each⟩
    induction parts with
    | nil => exact ⟨[], by simp, rfl⟩
    | cons part parts ih =>
      rcases ih fun part member => each part (List.mem_cons_of_mem _ member) with ⟨directories, isWord, rest⟩
      rcases Language.mem_mul.mp (each part List.mem_cons_self) with ⟨directory, here, slash, closing, rfl⟩
      cases closing
      refine ⟨directory :: directories, List.forall_mem_cons.mpr ⟨here, isWord⟩, ?_⟩
      rw [List.flatten_cons, rest, List.flatMap_cons]
  · intro h
    rcases h with ⟨directories, isWord, rfl⟩
    refine ⟨directories.map (· ++ ['/']), rfl, ?_⟩
    intro part member
    rcases List.mem_map.mp member with ⟨directory, inside, rfl⟩
    exact Language.append_mem_mul (isWord directory inside) rfl

theorem directoriesOf_flatMap {directories : List (List Char)} (isWord : ∀ directory ∈ directories, IsWord directory) :
    directoriesOf (directories.flatMap (· ++ ['/'])) = directories := by
  have free : ∀ segment ∈ directories ++ [[]], '/' ∉ segment := by
    intro segment member
    rcases List.mem_append.mp member with member | last
    · exact slash_not_mem_of_isWord (isWord segment member)
    · rw [List.mem_singleton.mp last]
      exact List.not_mem_nil
  have filled : ∀ directory ∈ directories, (!directory.isEmpty) = true := by
    intro directory member
    simp [(isWord directory member).1]
  have cut := List.splitOn_intercalate '/' free (by simp)
  rw [intercalate_concat, List.append_nil] at cut
  rw [directoriesOf, cut, List.filter_append, List.filter_eq_self.mpr filled]
  exact List.append_nil directories

theorem intercalate_segments (namespaceName name : List Char) (directories : List (List Char)) :
    ['/'].intercalate (namespaceName :: "pageObjects".toList :: (directories ++ [name])) =
      namespaceName ++ "/pageObjects/".toList ++ directories.flatMap (· ++ ['/']) ++ name := by
  have marker : "/pageObjects/".toList = ['/'] ++ ("pageObjects".toList ++ ['/']) := rfl
  rw [← List.cons_append, ← List.cons_append, intercalate_concat, List.flatMap_cons, List.flatMap_cons, marker]
  simp only [List.append_assoc]

/-- A match has the same groups however it is found: its text is cut into the segments of a reference. -/
theorem captures_iff {text namespaceName within name : List Char} :
    Captures text namespaceName within name ↔
      ∃ directories, Segmented text namespaceName directories name ∧ within = directories.flatMap (· ++ ['/']) := by
  constructor
  · intro h
    rcases mem_kstar_iff.mp h.within with ⟨directories, isWord, rfl⟩
    have free : ∀ segment ∈ namespaceName :: "pageObjects".toList :: (directories ++ [name]), '/' ∉ segment := by
      simp only [List.forall_mem_cons, List.forall_mem_append]
      exact ⟨slash_not_mem_of_isWord h.namespaceName, by decide,
        fun directory member => slash_not_mem_of_isWord (isWord directory member),
        slash_not_mem_of_isName h.name, by simp⟩
    have segments := List.splitOn_intercalate '/' free (List.cons_ne_nil _ _)
    rw [intercalate_segments, ← h.text] at segments
    exact ⟨directories, ⟨segments, h.namespaceName, isWord, h.name⟩, rfl⟩
  · intro h
    rcases h with ⟨directories, h, rfl⟩
    refine ⟨?_, h.namespaceName, mem_kstar_iff.mpr ⟨directories, h.directories, rfl⟩, h.name⟩
    rw [← intercalate_segments, ← h.segments, List.intercalate_splitOn]

theorem directoryPackage_eq (directory : List Char) :
    directoryPackage directory =
      String.ofList ((directory.map fun c => if c = '-' then '_' else c).map Char.toLower) := by
  rw [directoryPackage, List.map_map]
  refine congrArg String.ofList (List.map_congr_left fun c _ => ?_)
  by_cases hyphen : c = '-' <;> simp [hyphen]

theorem foldl_append_eq_intercalate (root last : String) (packages : List String) :
    packages.foldl (fun path package => path ++ "." ++ package) root ++ "." ++ last =
      ".".intercalate (root :: packages ++ [last]) := by
  induction packages generalizing root with
  | nil => rfl
  | cons first rest ih =>
    rw [List.foldl_cons, ih]
    rfl

theorem importPath_type (reference : Reference) (mapping : PackageMapping) :
    (reference.type mapping).importPath = ".".intercalate (rootPackage mapping reference.namespaceName ::
      reference.directories.map directoryPackage ++ [(reference.type mapping).simpleName]) := by
  have root : (mapping.get? (String.ofList reference.namespaceName)).getD
      (defaultPackage reference.namespaceName) = rootPackage mapping reference.namespaceName := by
    rw [rootPackage]
    cases mapping.get? (String.ofList reference.namespaceName) <;> rfl
  rw [← foldl_append_eq_intercalate, List.foldl_map, ← root]
  rfl

theorem simpleName_type {reference : Reference} (mapping : PackageMapping) {first : Char} {rest : List Char}
    (name : reference.name = first :: rest) (letter : first.isAlpha) :
    (reference.type mapping).simpleName = String.ofList (first.toUpper :: rest) := by
  rw [← isLetter_eq] at letter
  have bounds := (Text.isLetter_iff first).mp letter
  rw [type, Text.capitalize, name, String.toList_ofList]
  simp only [Text.uppercase_of_ascii (show first.toNat < 128 by omega)]
  rfl

theorem namedBy_iff {mapping : PackageMapping} (reference : Reference) (isName : IsName reference.name)
    (type : NamedType) :
    NamedBy mapping reference.namespaceName reference.directories reference.name type ↔
      type = reference.type mapping := by
  rcases isName with ⟨first, rest, name, letter, _⟩
  have simpleName := simpleName_type mapping name letter
  have importPath := importPath_type reference mapping
  rw [simpleName, List.map_congr_left fun directory _ => directoryPackage_eq directory] at importPath
  constructor
  · intro h
    rcases h with ⟨⟨c, others, named, simple⟩, path, single⟩
    cases name.symm.trans named
    rw [simple, ← importPath] at path
    rw [← simpleName] at simple
    cases type
    cases simple
    cases path
    cases single
    rfl
  · rintro rfl
    exact ⟨⟨first, rest, name, simpleName⟩, by rw [simpleName, importPath], rfl⟩

end Reference

namespace Registry

open Reference

variable {registry : Registry} {text context : String} {type : NamedType}

theorem pageObjectType_eq_ok_iff :
    registry.pageObjectType text context = .ok type ↔
      ∃ reference, ofText? text = some reference ∧ type = reference.type registry.packageMapping := by
  unfold pageObjectType
  cases ofText? text <;> simp [eq_comm]

theorem pageObjectType_eq_ok_iff_namedBy :
    registry.pageObjectType text context = .ok type ↔
      ∃ namespaceName directories name, Segmented text.toList namespaceName directories name ∧
        NamedBy registry.packageMapping namespaceName directories name type := by
  rw [pageObjectType_eq_ok_iff]
  constructor
  · intro h
    rcases h with ⟨reference, read, same⟩
    have segmented := ofText?_eq_some_iff.mp read
    exact ⟨_, _, _, segmented, (namedBy_iff _ segmented.name type).mpr same⟩
  · intro h
    rcases h with ⟨namespaceName, directories, name, segmented, named⟩
    exact ⟨⟨namespaceName, directories, name⟩, ofText?_eq_some_iff.mpr segmented,
      (namedBy_iff _ segmented.name type).mp named⟩

theorem pageObjectType_eq_error_iff {fault : Fault} :
    registry.pageObjectType text context = .error fault ↔
      (¬ ∃ namespaceName directories name, Segmented text.toList namespaceName directories name) ∧
        fault = .invalidReference context text := by
  unfold pageObjectType
  cases read : ofText? text with
  | none =>
    have unread : ¬ ∃ namespaceName directories name, Segmented text.toList namespaceName directories name := by
      intro h
      rcases h with ⟨namespaceName, directories, name, segmented⟩
      have found : ofText? text = some ⟨namespaceName, directories, name⟩ := ofText?_eq_some_iff.mpr segmented
      rw [read] at found
      cases found
    simp [unread, eq_comm]
  | some reference =>
    have segmented := ofText?_eq_some_iff.mp read
    exact iff_of_false nofun fun refused => refused.1 ⟨_, _, _, segmented⟩

/-- A text is resolved segment by segment if it is cut into the segments of a reference. A match of the pattern finds
the same segments, since the directories are read back from its second group. Any other text is refused. -/
theorem pageObjectType_iff_segmented (registry : Registry) (text context : String) :
    (∀ type, registry.pageObjectType text context = .ok type ↔
      ∃ namespaceName directories name, Segmented text.toList namespaceName directories name ∧
        NamedBy registry.packageMapping namespaceName directories name type) ∧
    (∀ type, registry.pageObjectType text context = .ok type ↔
      ∃ namespaceName within name, Captures text.toList namespaceName within name ∧
        NamedBy registry.packageMapping namespaceName (directoriesOf within) name type) ∧
    ((∃ fault, registry.pageObjectType text context = .error fault ∧ fault.code = 1013 ∧
        fault.args = [context, text]) ↔
      ¬ ∃ namespaceName directories name, Segmented text.toList namespaceName directories name) := by
  refine ⟨fun type => pageObjectType_eq_ok_iff_namedBy, fun type => ?_, ?_⟩
  · rw [pageObjectType_eq_ok_iff_namedBy]
    constructor
    · intro h
      rcases h with ⟨namespaceName, directories, name, segmented, named⟩
      rw [← directoriesOf_flatMap segmented.directories] at named
      exact ⟨namespaceName, _, name, captures_iff.mpr ⟨directories, segmented, rfl⟩, named⟩
    · intro h
      rcases h with ⟨namespaceName, within, name, captures, named⟩
      rcases captures_iff.mp captures with ⟨directories, segmented, rfl⟩
      rw [directoriesOf_flatMap segmented.directories] at named
      exact ⟨namespaceName, directories, name, segmented, named⟩
  · constructor
    · intro h
      rcases h with ⟨fault, refused, _⟩
      exact (pageObjectType_eq_error_iff.mp refused).1
    · intro unsegmented
      exact ⟨.invalidReference context text, pageObjectType_eq_error_iff.mpr ⟨unsegmented, rfl⟩, rfl, rfl⟩

example : Registry.standard.pageObjectType "utam-app/pageObjects/Main-Nav/pageObjects/menuBar" "element 'menu'" =
    .ok { simpleName := "MenuBar", importPath := "utam.app.pageobjects.main_nav.pageobjects.MenuBar" } := by decide

end Registry

end PageObject
