import PageObject.Proofs.Locator.Code
import PageObject.Proofs.Selector.Reading
import PageObject.Proofs.Selector.Scan

namespace PageObject

inductive Value where
  | text (characters : List Char)
  | number (value : Int)
deriving DecidableEq, Repr

namespace Value

def type : Value → ParameterType
  | .text _ => .string
  | .number _ => .number

def characters : Value → List Char
  | .text characters => characters
  | .number value => (toString value).toList

end Value

/-- The arguments of a call have values of their types. -/
def TypedAs (registry : Registry) : List Parameter → List Value → Prop :=
  List.Forall₂ fun parameter value => registry.parameterType? parameter.type = some value.type

/-- The text that a format call makes of a template, and the arguments that it leaves. Two percent signs write one,
`%s` writes the next argument, and `%d` writes the next argument if it is a number. Any other percent sign asks for
something else or is an error, so that nothing is known of the text. -/
def format? : List Char → List Value → Option (List Char × List Value)
  | [], values => some ([], values)
  | '%' :: conversion :: rest, values =>
    match conversion, values with
    | '%', values => (format? rest values).map (Prod.map ('%' :: ·) id)
    | 's', value :: values => (format? rest values).map (Prod.map (value.characters ++ ·) id)
    | 'd', .number value :: values =>
      (format? rest values).map (Prod.map ((Value.number value).characters ++ ·) id)
    | _, _ => none
  | c :: rest, values => if c = '%' then none else (format? rest values).map (Prod.map (c :: ·) id)

/-- The text that the code of a locator passes to its factory, if its arguments have the given values. -/
def Locator.passed? (code : String) (values : List Value) : Option (List Char) :=
  match ofCode? code with
  | some (locator, none) => some locator.expression.toList
  | some (locator, some _) => (format? locator.expression.toList values).map Prod.fst
  | none => none

namespace Placeholder

/-- The text that is meant by an expression: an escape is one percent sign, and a placeholder is the value of its
argument. -/
def expand : List Piece → List Value → List Char
  | [], _ => []
  | .escape :: pieces, values => '%' :: expand pieces values
  | .placeholder _ :: pieces, value :: values => value.characters ++ expand pieces values
  | .placeholder _ :: _, [] => []
  | .character c :: pieces, values => c :: expand pieces values

/-- Every percent sign of an expression, read from left to right, belongs to an escape or to a placeholder. -/
def Covers (expression : String) : Prop :=
  ∀ piece ∈ scan expression.toList, '%' ∈ piece.text → piece = .escape ∨ piece.placeholder?.isSome

theorem covers_iff (expression : String) :
    Covers expression ↔ .character '%' ∉ scan expression.toList := by
  constructor
  · intro covers stray
    rcases covers _ stray List.mem_cons_self with escape | placeholder
    · cases escape
    · cases placeholder
  · intro noStray piece member percent
    cases piece with
    | escape => exact .inl rfl
    | placeholder found => exact .inr rfl
    | character c =>
      rw [← List.mem_singleton.mp percent] at member
      exact absurd member noStray

theorem format?_stray {rest : List Char} (noEscape : ∀ behind, rest ≠ '%' :: behind)
    (noString : ∀ behind, rest ≠ 's' :: behind) (noNumber : ∀ behind, rest ≠ 'd' :: behind) (values : List Value) :
    format? ('%' :: rest) values = none := by
  cases rest with
  | nil => rfl
  | cons conversion behind =>
    apply format?.eq_5
    · rintro rfl
      exact noEscape behind rfl
    · rintro _ _ rfl _
      exact noString behind rfl
    · rintro _ _ rfl _
      exact noNumber behind rfl

theorem format?_plain {c : Char} (plain : c ≠ '%') (rest : List Char) (values : List Value) :
    format? (c :: rest) values = (format? rest values).map (Prod.map (c :: ·) id) := by
  rw [format?.eq_6 values c rest fun _ _ percent _ => plain percent, if_neg plain]

theorem format?_eq {text : List Char} {values : List Value}
    (fit : List.Forall₂ (fun placeholder value => value.type = placeholder.type)
      ((scan text).filterMap Piece.placeholder?) values) :
    format? text values =
      if .character '%' ∈ scan text then none else some (expand (scan text) values, []) := by
  fun_induction scan text generalizing values with
  | case1 rest ih =>
    rw [format?, ih fit]
    by_cases stray : .character '%' ∈ scan rest <;> simp [stray, expand]
  | case2 rest ih =>
    cases fit with
    | @cons _ value _ values typed others =>
      rw [format?, ih others]
      by_cases stray : .character '%' ∈ scan rest <;> simp [stray, expand]
  | case3 rest ih =>
    cases fit with
    | @cons _ value _ values typed others =>
      cases value with
      | text characters => cases typed
      | number value =>
        rw [format?, ih others]
        by_cases stray : .character '%' ∈ scan rest <;> simp [stray, expand]
  | case4 c rest noEscape noString noNumber ih =>
    by_cases percent : c = '%'
    · rw [percent, if_pos List.mem_cons_self]
      exact format?_stray (fun behind => noEscape behind percent) (fun behind => noString behind percent)
        (fun behind => noNumber behind percent) values
    · have other : Piece.character '%' ≠ .character c := fun same => percent (Piece.character.inj same).symm
      rw [format?_plain percent, ih fit]
      by_cases stray : .character '%' ∈ scan rest <;> simp [stray, other, expand]
  | case5 =>
    cases fit
    rfl

theorem typed_of_check {expression context : String} {registry : Registry} {args : List Parameter}
    {values : List Value} (checked : check expression args context registry = .ok ())
    (typed : TypedAs registry args values) :
    List.Forall₂ (fun placeholder value => value.type = placeholder.type)
      ((scan expression.toList).filterMap Piece.placeholder?) values := by
  have fits := check_eq_ok_iff.mp checked
  rw [ofExpression_eq, scanned] at fits
  clear checked
  generalize (scan expression.toList).filterMap Piece.placeholder? = placeholders at fits ⊢
  induction fits generalizing values with
  | nil =>
    cases typed
    exact .nil
  | cons fit others ih =>
    cases typed with
    | cons first rest => exact .cons (Option.some.inj (first.symm.trans fit)) (ih rest)

theorem length_expand_add_count {pieces : List Piece} (plain : pieces.filterMap Piece.placeholder? = [])
    (values : List Value) :
    (expand pieces values).length + pieces.count .escape = (pieces.flatMap Piece.text).length := by
  induction pieces with
  | nil => rfl
  | cons piece pieces ih =>
    cases piece with
    | escape =>
      have := ih plain
      simp only [expand, List.length_cons, List.count_cons_self, List.flatMap_cons, Piece.text, List.length_append,
        List.length_nil]
      omega
    | placeholder found => cases plain
    | character c =>
      have := ih plain
      simp only [expand, List.length_cons, List.flatMap_cons, Piece.text, List.length_append, List.length_nil]
      rw [List.count_cons_of_ne (by simp)]
      omega

theorem expand_eq_flatMap_iff {pieces : List Piece} (plain : pieces.filterMap Piece.placeholder? = [])
    (values : List Value) : expand pieces values = pieces.flatMap Piece.text ↔ .escape ∉ pieces := by
  constructor
  · intro same
    have lengths := length_expand_add_count plain values
    rw [same, Nat.add_eq_left] at lengths
    exact List.count_eq_zero.mp lengths
  · intro noEscape
    induction pieces with
    | nil => rfl
    | cons piece pieces ih =>
      have behind : .escape ∉ pieces := fun member => noEscape (List.mem_cons_of_mem _ member)
      cases piece with
      | escape => exact absurd List.mem_cons_self noEscape
      | placeholder found => cases plain
      | character c => rw [expand, ih plain behind, List.flatMap_cons]; rfl

end Placeholder

namespace Selector

open Placeholder

variable {value : Json} {context : String} {registry : Registry} {selector : Selector} {values : List Value}

/-- The call that an accepted selector with arguments makes passes these arguments, which have the types of the
placeholders that a scan of the expression comes to. It writes what is meant and leaves no argument, if and only if
each percent sign is covered, and otherwise it comes to a percent sign that nothing was checked for. -/
theorem format?_eq_expand_iff (found : read value context registry = .ok selector)
    (given : selector.parameters ≠ []) (typed : TypedAs registry selector.parameters values) :
    Locator.ofCode? (selector.locator.code selector.parameters) =
      some (selector.locator, some (argumentList selector.parameters)) ∧
    List.Forall₂ (fun placeholder argument => registry.parameterType? argument.type = some placeholder.type)
      (scanned selector.locator.expression) selector.parameters ∧
    (format? selector.locator.expression.toList values =
        some (expand (scan selector.locator.expression.toList) values, []) ↔
      Covers selector.locator.expression) ∧
    (format? selector.locator.expression.toList values = none ↔ ¬ Covers selector.locator.expression) := by
  rcases read_eq_ok_iff.mp found with ⟨fields, rfl, declared⟩
  have checked := check_eq_ok_iff.mp declared.placeholders
  rw [ofExpression_eq] at checked
  have written : Locator.writtenArguments? selector.parameters = some (argumentList selector.parameters) := by
    simp [Locator.writtenArguments?, given]
  refine ⟨by rw [Locator.ofCode?_code, written], checked, ?_⟩
  rw [format?_eq (typed_of_check declared.placeholders typed), covers_iff]
  by_cases stray : .character '%' ∈ scan selector.locator.expression.toList <;> simp [stray]

def discountSelector : Json :=
  .object [("css", .string "li:nth-child(%d) a[title='20%% %s']"),
    ("args", .array [.object [("name", .string "index"), ("type", .string "number")],
      .object [("value", .string "off")]])]

def discount : Selector where
  locator := ⟨.css, "li:nth-child(%d) a[title='20%% %s']"⟩
  parameters := [{ name := "index", type := { simpleName := "Integer" } },
    { name := "\"off\"", type := { simpleName := "String" }, literal := some (.string "off") }]
  returnsAll := false

theorem read_discountSelector : read discountSelector "element 'link'" .standard = .ok discount := rfl

theorem typedAs_discount : TypedAs .standard discount.parameters [.number 3, .text "off".toList] :=
  .cons rfl (.cons rfl .nil)

theorem covers_discount : Covers discount.locator.expression := (covers_iff _).mpr (by decide)

theorem format?_eq_expand_iff_discount :
    read discountSelector "element 'link'" .standard = .ok discount ∧ discount.parameters ≠ [] ∧
    TypedAs .standard discount.parameters [.number 3, .text "off".toList] ∧
    format? discount.locator.expression.toList [.number 3, .text "off".toList] =
      some ("li:nth-child(3) a[title='20% off']".toList, []) := by
  have given : discount.parameters ≠ [] := List.cons_ne_nil _ _
  refine ⟨read_discountSelector, given, typedAs_discount, ?_⟩
  rw [(format?_eq_expand_iff read_discountSelector given typedAs_discount).2.2.1.mpr covers_discount]
  rfl

/-- A percent sign may stand beside a placeholder without being an escape. The format call then takes it for a
conversion. -/
theorem not_forall_covers :
    ¬ ∀ (value : Json) (context : String) (registry : Registry) (selector : Selector),
      read value context registry = .ok selector → selector.parameters ≠ [] →
        Covers selector.locator.expression := by
  intro all
  have covers := all (.object [("css", .string "[style='width: 50%'] a[title='%s']"),
      ("args", .array [.object [("name", .string "title"), ("type", .string "string")]])]) "element 'link'" .standard
    { locator := ⟨.css, "[style='width: 50%'] a[title='%s']"⟩
      parameters := [{ name := "title", type := { simpleName := "String" } }]
      returnsAll := false } rfl (List.cons_ne_nil _ _)
  exact (covers_iff _).mp covers (by decide)

theorem passed?_of_no_arguments (noArguments : selector.parameters = []) (values : List Value) :
    Locator.passed? (selector.locator.code selector.parameters) values = some selector.locator.expression.toList := by
  rw [Locator.passed?, Locator.ofCode?_code, noArguments]
  rfl

/-- What the code of an accepted selector passes to the factory, where each percent sign is covered, is what is meant
if and only if it has arguments or no escapes. Without arguments no format call reads the escapes, and the expression
is passed as it is written. -/
theorem passed?_eq_expand_iff (found : read value context registry = .ok selector)
    (covers : Covers selector.locator.expression) (typed : TypedAs registry selector.parameters values) :
    (Locator.passed? (selector.locator.code selector.parameters) values =
        some (expand (scan selector.locator.expression.toList) values) ↔
      selector.parameters ≠ [] ∨ .escape ∉ scan selector.locator.expression.toList) ∧
    (selector.parameters = [] → Locator.passed? (selector.locator.code selector.parameters) values =
      some selector.locator.expression.toList) := by
  refine ⟨?_, fun noArguments => passed?_of_no_arguments noArguments values⟩
  rcases read_eq_ok_iff.mp found with ⟨fields, rfl, declared⟩
  have fit := typed_of_check declared.placeholders typed
  by_cases noArguments : selector.parameters = []
  · rw [passed?_of_no_arguments noArguments, Option.some.injEq]
    rw [noArguments] at typed
    cases typed
    have same := expand_eq_flatMap_iff (List.forall₂_nil_right_iff.mp fit) []
    rw [flatMap_text_scan] at same
    rw [eq_comm, same]
    exact (or_iff_right (not_not_intro noArguments)).symm
  · have formatted := format?_eq fit
    rw [if_neg ((covers_iff _).mp covers)] at formatted
    have passed : Locator.passed? (selector.locator.code selector.parameters) values =
        some (expand (scan selector.locator.expression.toList) values) := by
      rw [Locator.passed?, Locator.ofCode?_code]
      simp [Locator.writtenArguments?, noArguments, formatted]
    exact iff_of_true passed (.inl noArguments)

theorem passed?_eq_expand_iff_discount :
    read discountSelector "element 'link'" .standard = .ok discount ∧ Covers discount.locator.expression ∧
    TypedAs .standard discount.parameters [.number 3, .text "off".toList] ∧
    Locator.passed? (discount.locator.code discount.parameters) [.number 3, .text "off".toList] =
      some "li:nth-child(3) a[title='20% off']".toList := by
  refine ⟨read_discountSelector, covers_discount, typedAs_discount, ?_⟩
  rw [(passed?_eq_expand_iff read_discountSelector covers_discount typedAs_discount).1.mpr
    (.inl (List.cons_ne_nil _ _))]
  rfl

/-- Without arguments an escape is passed as the two percent signs that it is written with. -/
theorem not_forall_passed?_eq_expand :
    ¬ ∀ (value : Json) (context : String) (registry : Registry) (selector : Selector) (values : List Value),
      read value context registry = .ok selector → Covers selector.locator.expression →
        TypedAs registry selector.parameters values →
        Locator.passed? (selector.locator.code selector.parameters) values =
          some (expand (scan selector.locator.expression.toList) values) := by
  intro all
  let selector : Selector := { locator := ⟨.css, "a[title='100%%s']"⟩, parameters := [], returnsAll := false }
  have expanded := all (.object [("css", .string "a[title='100%%s']")]) "element 'link'" .standard selector [] rfl
    ((covers_iff _).mpr (by decide)) .nil
  rw [passed?_of_no_arguments rfl] at expanded
  exact absurd expanded (by decide)

end Selector

end PageObject
