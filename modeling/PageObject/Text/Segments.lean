namespace PageObject.Text

/-- The segments between the separators, empty ones included. There is always at least one. -/
def segments (separator : Char) : List Char → List (List Char)
  | [] => [[]]
  | c :: rest =>
    if c = separator then [] :: segments separator rest
    else (segments separator rest).modifyHead (c :: ·)

def splitLast? (separator : Char) (text : List Char) : Option (List Char × List Char) :=
  match text.reverse.dropWhile (· ≠ separator) with
  | [] => none
  | _ :: before => some (before.reverse, (text.reverse.takeWhile (· ≠ separator)).reverse)

theorem segments_ne_nil (separator : Char) (text : List Char) : segments separator text ≠ [] := by
  induction text with
  | nil => simp [segments]
  | cons c rest ih =>
    simp only [segments]
    split
    · simp
    · cases h : segments separator rest with
      | nil => exact absurd h ih
      | cons first others => simp

theorem splitLast?_eq_some_iff {separator : Char} {text before after : List Char} :
    splitLast? separator text = some (before, after) ↔
      text = before ++ separator :: after ∧ separator ∉ after := by
  unfold splitLast?
  constructor
  · intro h
    have whole := List.takeWhile_append_dropWhile (p := (· ≠ separator)) (l := text.reverse)
    have outside : ∀ c ∈ text.reverse.takeWhile (· ≠ separator), c ≠ separator := fun c member => by
      simpa using List.all_eq_true.mp List.all_takeWhile c member
    generalize text.reverse.takeWhile (· ≠ separator) = passed at h whole outside
    cases found : text.reverse.dropWhile (· ≠ separator) with
    | nil =>
      rw [found] at h
      cases h
    | cons c rest =>
      have stop := List.head?_dropWhile_not (· ≠ separator) text.reverse
      rw [found] at h whole stop
      have stop : c = separator := by simpa using stop
      cases h
      constructor
      · rw [← List.reverse_reverse text, ← whole, stop]
        simp
      · intro member
        exact outside _ (List.mem_reverse.mp member) rfl
  · intro h
    rcases h with ⟨rfl, free⟩
    have passed : ∀ c ∈ after.reverse, decide (c ≠ separator) = true := by
      intro c member
      refine decide_eq_true fun same => free ?_
      rw [← same]
      exact List.mem_reverse.mp member
    simp only [List.reverse_append, List.reverse_cons, List.append_assoc, List.cons_append, List.nil_append]
    rw [List.dropWhile_append_of_pos passed, List.takeWhile_append_of_pos passed]
    simp

end PageObject.Text
