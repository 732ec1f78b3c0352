import Mathlib.Data.List.Infix
import PageObject.Text.Segments

namespace PageObject.Text

variable {separator : Char} {text : List Char}

/-- Two lists with the same item in them are equal if their parts are, or if one of the lists has the item once more:
the part in front of it goes on with the other part in front, and the rest of it stands in the part behind. -/
theorem append_cons_eq_append_cons_iff {α : Type} {front behind otherFront otherBehind : List α} {item : α} :
    front ++ item :: behind = otherFront ++ item :: otherBehind ↔
      (front = otherFront ∧ behind = otherBehind) ∨
      (∃ middle, otherFront = front ++ item :: middle ∧ behind = middle ++ item :: otherBehind) ∨
      ∃ middle, front = otherFront ++ item :: middle ∧ otherBehind = middle ++ item :: behind := by
  constructor
  · intro same
    rcases List.append_eq_append_iff.mp same with ⟨more, split, rest⟩ | ⟨more, split, rest⟩
    · rcases List.cons_eq_append_iff.mp rest with ⟨rfl, same⟩ | ⟨middle, rfl, after⟩
      · cases same
        exact .inl ⟨by simpa using split.symm, rfl⟩
      · exact .inr (.inl ⟨middle, split, after⟩)
    · rcases List.cons_eq_append_iff.mp rest with ⟨rfl, same⟩ | ⟨middle, rfl, after⟩
      · cases same
        exact .inl ⟨by simpa using split, rfl⟩
      · exact .inr (.inr ⟨middle, split, after⟩)
  · intro h
    rcases h with ⟨rfl, rfl⟩ | ⟨middle, rfl, rfl⟩ | ⟨middle, rfl, rfl⟩ <;> simp

theorem segments_eq_splitOn (separator : Char) (text : List Char) :
    segments separator text = text.splitOn separator := by
  induction text with
  | nil => rfl
  | cons c rest ih => simp only [segments, List.splitOn_cons_eq_if_modifyHead, ih, beq_iff_eq]

theorem exists_splitOn_cons (separator c : Char) (rest : List Char) :
    ∃ first others, rest.splitOn separator = first :: others ∧
      (c :: rest).splitOn separator = if c = separator then [] :: first :: others else (c :: first) :: others := by
  rcases List.exists_cons_of_ne_nil (List.splitOn_ne_nil separator rest) with ⟨first, others, cut⟩
  refine ⟨first, others, cut, ?_⟩
  simp only [List.splitOn_cons_eq_if_modifyHead, cut, List.modifyHead_cons, beq_iff_eq]

theorem exists_mem_splitOn_iff {c : Char} :
    (∃ segment ∈ text.splitOn separator, c ∈ segment) ↔ c ∈ text ∧ c ≠ separator := by
  induction text with
  | nil => simp
  | cons d rest ih =>
    rcases exists_splitOn_cons separator d rest with ⟨first, others, behind, cut⟩
    rw [behind] at ih
    rw [cut, List.mem_cons, or_and_right, ← ih]
    by_cases same : d = separator
    · have other : ¬ (c = d ∧ c ≠ separator) := fun h => h.2 (h.1.trans same)
      rw [if_pos same, or_iff_right other]
      simp only [List.mem_cons, exists_eq_or_imp, List.not_mem_nil, false_or]
    · have other : c = d → c ≠ separator := fun h => h ▸ same
      rw [if_neg same, and_iff_left_of_imp other]
      simp only [List.mem_cons, exists_eq_or_imp, or_assoc]

theorem takeWhile_eq_of_splitOn {first : List Char} {others : List (List Char)}
    (cut : text.splitOn separator = first :: others) : text.takeWhile (· ≠ separator) = first := by
  induction text generalizing first others with
  | nil =>
    cases cut
    rfl
  | cons c rest ih =>
    rcases exists_splitOn_cons separator c rest with ⟨head, tail, behind, here⟩
    rw [here] at cut
    by_cases same : c = separator
    · rw [if_pos same] at cut
      cases cut
      simp [same]
    · rw [if_neg same] at cut
      cases cut
      rw [List.takeWhile_cons, if_pos (decide_eq_true same), ih behind]

theorem splitOn_intercalate_eq {texts : List (List Char)} (given : texts ≠ []) :
    ([separator].intercalate texts).splitOn separator = texts.flatMap (List.splitOn separator) := by
  induction texts with
  | nil => exact absurd rfl given
  | cons first rest ih =>
    cases rest with
    | nil => simp
    | cons next others =>
      rw [List.intercalate_cons_cons, List.append_assoc, List.singleton_append, List.splitOn_append_cons_self,
        ih (List.cons_ne_nil _ _)]
      rfl

theorem splitOn_injective (separator : Char) : Function.Injective (List.splitOn separator) :=
  Function.LeftInverse.injective fun _ => List.intercalate_splitOn separator

theorem splitOn_append_flatMap {words : List (List Char)} (undivided : ∀ word ∈ words, separator ∉ word) :
    (text ++ words.flatMap (separator :: ·)).splitOn separator = text.splitOn separator ++ words := by
  induction words generalizing text with
  | nil => simp
  | cons word words ih =>
    have alone := List.splitOn_eq_singleton (undivided word List.mem_cons_self)
    have behind := @ih word fun other member => undivided other (List.mem_cons_of_mem _ member)
    rw [List.flatMap_cons, List.cons_append, List.splitOn_append_cons_self, behind, alone, List.singleton_append]

/-- A text has these words behind the segments of another one if it is the other one with each of the words and a
separator in front of it. -/
theorem splitOn_eq_append_iff {other : List Char} {words : List (List Char)}
    (undivided : ∀ word ∈ words, separator ∉ word) :
    other.splitOn separator = text.splitOn separator ++ words ↔ other = text ++ words.flatMap (separator :: ·) := by
  rw [← splitOn_append_flatMap undivided]
  exact (splitOn_injective separator).eq_iff

theorem splitOn_map {f : Char → Char} {other : Char} (apart : ∀ c ∈ text, f c = other ↔ c = separator) :
    (text.map f).splitOn other = (text.splitOn separator).map (List.map f) := by
  induction text with
  | nil => rfl
  | cons c rest ih =>
    have here := apart c List.mem_cons_self
    have behind := ih fun c member => apart c (List.mem_cons_of_mem _ member)
    rcases exists_splitOn_cons separator c rest with ⟨first, others, cutRest, cut⟩
    rw [cut, List.map_cons, List.splitOn_cons_eq_if_modifyHead, behind, cutRest]
    simp only [beq_iff_eq, here]
    split <;> rfl

theorem head?_splitOn_eq_nil_iff (separator : Char) (text : List Char) :
    (text.splitOn separator).head? = some [] ↔ text = [] ∨ text.head? = some separator := by
  cases text with
  | nil => simp
  | cons c rest =>
    rcases exists_splitOn_cons separator c rest with ⟨first, others, -, cut⟩
    rw [cut]
    by_cases same : c = separator <;> simp [same]

theorem nil_mem_tail_splitOn_iff (separator : Char) (text : List Char) :
    [] ∈ (text.splitOn separator).tail ↔ text.getLast? = some separator ∨ [separator, separator] <:+: text := by
  induction text with
  | nil => simp
  | cons c rest ih =>
    cases rest with
    | nil => by_cases same : c = separator <;> simp [List.splitOn_cons_eq_if_modifyHead, same, List.infix_cons_iff]
    | cons d rest =>
      have start := head?_splitOn_eq_nil_iff separator (d :: rest)
      rcases exists_splitOn_cons separator c (d :: rest) with ⟨first, others, cutRest, cut⟩
      rw [cutRest] at ih start
      simp only [List.head?_cons, Option.some.injEq, List.tail_cons, reduceCtorEq, false_or] at ih start
      rw [cut, List.infix_cons_iff, List.getLast?_cons_cons]
      by_cases same : c = separator
      · simp only [same, if_true, List.tail_cons, List.mem_cons, ih, List.cons_prefix_cons, true_and, List.nil_prefix,
          and_true, eq_comm (a := []), start, eq_comm (a := d)]
        exact or_left_comm
      · have noPrefix : ¬ [separator, separator] <+: c :: d :: rest := fun prefixed =>
          same (List.cons_prefix_cons.mp prefixed).1.symm
        rw [if_neg same, List.tail_cons, ih, or_iff_right noPrefix]

/-- Each separator in a text stands between two other characters. -/
structure Between (separator : Char) (text : List Char) : Prop where
  notFirst : text.head? ≠ some separator
  notLast : text.getLast? ≠ some separator
  notDoubled : ¬ [separator, separator] <:+: text

theorem between_iff : Between separator text ↔
    text.head? ≠ some separator ∧ text.getLast? ≠ some separator ∧ ¬ [separator, separator] <:+: text :=
  ⟨fun ⟨notFirst, notLast, notDoubled⟩ => ⟨notFirst, notLast, notDoubled⟩,
    fun ⟨notFirst, notLast, notDoubled⟩ => ⟨notFirst, notLast, notDoubled⟩⟩

instance : Decidable (Between separator text) := decidable_of_iff _ between_iff.symm

theorem nil_not_mem_splitOn_iff : [] ∉ text.splitOn separator ↔ text ≠ [] ∧ Between separator text := by
  have start := head?_splitOn_eq_nil_iff separator text
  have behind := nil_mem_tail_splitOn_iff separator text
  rcases List.exists_cons_of_ne_nil (List.splitOn_ne_nil separator text) with ⟨first, others, cut⟩
  rw [cut] at start behind ⊢
  rw [List.tail_cons] at behind
  rw [List.head?_cons, Option.some.injEq] at start
  rw [List.mem_cons, behind, eq_comm, start, between_iff, not_or, not_or, not_or, and_assoc]

/-- Segments with dots between them, each of them made of one or more of the allowed characters. -/
structure IsPath (allowed : Char → Prop) (path : String) : Prop where
  filled : [] ∉ path.toList.splitOn '.'
  allowed : ∀ segment ∈ path.toList.splitOn '.', ∀ c ∈ segment, allowed c

theorem isPath_iff {allowed : Char → Prop} {path : String} : IsPath allowed path ↔
    path ≠ "" ∧ Between '.' path.toList ∧ ∀ c ∈ path.toList, c ≠ '.' → allowed c := by
  have filled : path ≠ "" ↔ path.toList ≠ [] := by simp
  rw [filled, ← and_assoc, ← nil_not_mem_splitOn_iff]
  constructor
  · intro h
    rcases h with ⟨filled, each⟩
    refine ⟨filled, fun c member other => ?_⟩
    rcases exists_mem_splitOn_iff.mpr ⟨member, other⟩ with ⟨segment, inside, here⟩
    exact each segment inside c here
  · intro h
    rcases h with ⟨filled, each⟩
    refine ⟨filled, fun segment inside c here => ?_⟩
    rcases exists_mem_splitOn_iff.mp ⟨segment, inside, here⟩ with ⟨member, other⟩
    exact each c member other

theorem splitOn_toList_intercalate {paths : List String} (given : paths ≠ []) :
    (".".intercalate paths).toList.splitOn '.' = paths.flatMap fun path => path.toList.splitOn '.' := by
  have mapped : paths.map String.toList ≠ [] := fun empty => given (List.map_eq_nil_iff.mp empty)
  rw [String.toList_intercalate]
  exact (splitOn_intercalate_eq mapped).trans (List.flatMap_map _ _ _)

/-- A path goes on behind the segments of its root with words of the allowed characters. -/
structure Continued (allowed : Char → Prop) (root path : String) (words : List (List Char)) : Prop where
  segments : path.toList.splitOn '.' = root.toList.splitOn '.' ++ words
  filled : [] ∉ words
  allowed : ∀ word ∈ words, ∀ c ∈ word, allowed c

namespace Continued

variable {allowed other : Char → Prop} {root path : String} {words : List (List Char)}

theorem mono (continued : Continued allowed root path words) (wider : ∀ c, allowed c → other c) :
    Continued other root path words where
  segments := continued.segments
  filled := continued.filled
  allowed := fun word member c inside => wider c (continued.allowed word member c inside)

theorem forall_segment (continued : Continued allowed root path words)
    (start : ∀ segment ∈ root.toList.splitOn '.', ∀ c ∈ segment, allowed c) :
    ∀ segment ∈ path.toList.splitOn '.', ∀ c ∈ segment, allowed c := by
  rw [continued.segments]
  exact List.forall_mem_append.mpr ⟨start, continued.allowed⟩

theorem isPath_iff (continued : Continued allowed root path words) :
    IsPath allowed path ↔ IsPath allowed root := by
  constructor
  · intro h
    rcases h with ⟨filled, each⟩
    rw [continued.segments] at filled each
    exact ⟨fun empty => filled (List.mem_append_left _ empty), (List.forall_mem_append.mp each).1⟩
  · intro h
    rcases h with ⟨filled, each⟩
    refine ⟨?_, continued.forall_segment each⟩
    rw [continued.segments, List.mem_append, not_or]
    exact ⟨filled, continued.filled⟩

theorem two_le_length (continued : Continued allowed root path words) (more : words ≠ []) :
    2 ≤ (path.toList.splitOn '.').length := by
  have start := List.length_pos_iff.mpr (List.splitOn_ne_nil '.' root.toList)
  have behind := List.length_pos_iff.mpr more
  rw [continued.segments, List.length_append]
  omega

end Continued

end PageObject.Text
