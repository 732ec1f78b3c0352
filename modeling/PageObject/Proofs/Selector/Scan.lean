import PageObject.Selector.Placeholder

namespace PageObject.Placeholder

/-- What a scan takes at once: an escape, which is two percent signs, a placeholder, or one character. -/
inductive Piece where
  | escape
  | placeholder (found : Placeholder)
  | character (c : Char)
deriving DecidableEq, Repr

namespace Piece

def text : Piece → List Char
  | .escape => ['%', '%']
  | .placeholder .string => ['%', 's']
  | .placeholder .number => ['%', 'd']
  | .character c => [c]

def placeholder? : Piece → Option Placeholder
  | .placeholder found => some found
  | _ => none

end Piece

def scan : List Char → List Piece
  | '%' :: '%' :: rest => .escape :: scan rest
  | '%' :: 's' :: rest => .placeholder .string :: scan rest
  | '%' :: 'd' :: rest => .placeholder .number :: scan rest
  | c :: rest => .character c :: scan rest
  | [] => []

def scanned (expression : String) : List Placeholder :=
  (scan expression.toList).filterMap Piece.placeholder?

theorem flatMap_text_scan (text : List Char) : (scan text).flatMap Piece.text = text := by
  fun_induction scan text with
  | case1 rest ih => simp [Piece.text, ih]
  | case2 rest ih => simp [Piece.text, ih]
  | case3 rest ih => simp [Piece.text, ih]
  | case4 c rest noEscape noString noNumber ih => simp [Piece.text, ih]
  | case5 => rfl

theorem exists_of_deleteEscapes {text rest : List Char} {first : Char} (plain : ∀ rest, text ≠ '%' :: rest)
    (deleted : deleteEscapes text = first :: rest) : ∃ rest, text = first :: rest := by
  cases text with
  | nil => cases deleted
  | cons c text =>
    rw [deleteEscapes.eq_2 c text fun rest percent _ => plain text (by rw [percent])] at deleted
    cases deleted
    exact ⟨text, rfl⟩

/-- Behind a percent sign that is no part of an escape, a deletion brings no character up. -/
theorem not_begins_deleteEscapes {c next : Char} {rest : List Char}
    (noEscape : ∀ behind, c = '%' → rest = '%' :: behind → False)
    (apart : ∀ behind, c = '%' → rest = next :: behind → False) (behind : List Char) (percent : c = '%')
    (deleted : deleteEscapes rest = next :: behind) : False := by
  have plain (behind : List Char) : rest ≠ '%' :: behind := noEscape behind percent
  rcases exists_of_deleteEscapes plain deleted with ⟨behind, same⟩
  exact apart behind percent same

theorem findAll_deleteEscapes (text : List Char) :
    findAll (deleteEscapes text) = (scan text).filterMap Piece.placeholder? := by
  fun_induction scan text with
  | case1 rest ih => rw [deleteEscapes.eq_1, ih]; rfl
  | case2 rest ih => simp [deleteEscapes, ih, findAll, Piece.placeholder?]
  | case3 rest ih => simp [deleteEscapes, ih, findAll, Piece.placeholder?]
  | case4 c rest noEscape noString noNumber ih =>
    -- The character stays, and behind it the rest still starts no placeholder, even if it is a percent sign.
    rw [deleteEscapes.eq_2 c rest noEscape, findAll.eq_3 c _ (not_begins_deleteEscapes noEscape noString)
      (not_begins_deleteEscapes noEscape noNumber), ih]
    rfl
  | case5 => rfl

theorem scan_deleteEscapes (text : List Char) :
    scan (deleteEscapes text) = (scan text).filter (· ≠ .escape) := by
  fun_induction scan text with
  | case1 rest ih => simp [deleteEscapes, ih]
  | case2 rest ih => simp [deleteEscapes, ih, scan]
  | case3 rest ih => simp [deleteEscapes, ih, scan]
  | case4 c rest noEscape noString noNumber ih =>
    rw [deleteEscapes.eq_2 c rest noEscape, scan.eq_4 c _ (not_begins_deleteEscapes noEscape noEscape)
      (not_begins_deleteEscapes noEscape noString) (not_begins_deleteEscapes noEscape noNumber), ih]
    rfl
  | case5 => rfl

theorem ofExpression_eq (expression : String) : ofExpression expression = scanned expression :=
  findAll_deleteEscapes expression.toList

/-- The placeholders of an expression are those that one scan comes to, which takes each percent sign with the
character behind it. What a deletion of all escapes leaves is scanned to the same pieces without the escapes:
no placeholder is made and none is lost. -/
theorem ofExpression_eq_scanned (expression : String) :
    ofExpression expression = scanned expression ∧
      (scan expression.toList).flatMap Piece.text = expression.toList ∧
      scan (deleteEscapes expression.toList) = (scan expression.toList).filter (· ≠ .escape) :=
  ⟨ofExpression_eq expression, flatMap_text_scan _, scan_deleteEscapes _⟩

example : scanned "%%%s at 100%%s%" = [.string] := by decide

end PageObject.Placeholder
