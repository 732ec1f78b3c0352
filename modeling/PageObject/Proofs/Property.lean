import PageObject.Property

namespace PageObject

theorem bind_eq_ok_iff {ε α β : Type} {x : Except ε α} {f : α → Except ε β} {b : β} :
    x >>= f = .ok b ↔ ∃ a, x = .ok a ∧ f a = .ok b := by
  constructor
  · exact exists_of_bind_eq_ok
  · intro h
    rcases h with ⟨a, rfl, h⟩
    exact h

theorem Json.Fields.get?_bind_string? (fields : Json.Fields) (key : String) :
    (fields.get? key).bind string? = (fields.value? key).bind string? := by
  unfold value?
  cases fields.get? key with
  | none => rfl
  | some value => cases value <;> rfl

namespace Property

theorem fields_eq_ok_iff {value : Json} {context property : String} {found : Json.Fields} :
    fields value context property = .ok found ↔ value = .object found := by
  cases value <;> simp [fields]

theorem string?_eq_ok_iff {fields : Json.Fields} {key context : String} {found : Option String} :
    string? fields key context = .ok found ↔ fields.value? key = found.map Json.string := by
  unfold string?
  split
  · rename_i absent
    cases found <;> simp [absent]
  · rename_i text present
    cases found <;> simp [present]
  · rename_i value other present
    cases found with
    | none => simp [present]
    | some text => simpa [present] using other text

theorem string_eq_ok_iff {fields : Json.Fields} {key context text : String} :
    string fields key context = .ok text ↔ fields.value? key = some (.string text) ∧ text ≠ "" := by
  unfold string
  rw [bind_eq_ok_iff]
  constructor
  · intro h
    rcases h with ⟨found, read, h⟩
    cases found with
    | none => cases h
    | some held =>
      simp only at h
      split at h
      · cases h
      · rename_i filled
        cases h
        exact ⟨string?_eq_ok_iff.mp read, filled⟩
  · intro h
    rcases h with ⟨present, filled⟩
    exact ⟨some text, string?_eq_ok_iff.mpr present, if_neg filled⟩

theorem items_eq_ok_iff {fields : Json.Fields} {key context : String} {found : List Json} :
    items fields key context = .ok found ↔
      (fields.value? key = none ∧ found = []) ∨ fields.value? key = some (.array found) := by
  unfold items
  split
  · rename_i absent
    simp [absent, eq_comm]
  · rename_i value present
    simp [present]
  · rename_i value other present
    simpa [present] using other found

theorem value_eq_ok_iff {fields : Json.Fields} {key context : String} {found : Json} :
    value fields key context = .ok found ↔ fields.get? key = some found := by
  unfold value
  split <;> simp_all

section

variable {fields fields' : Json.Fields} {key : String}

theorem value?_congr (same : fields'.get? key = fields.get? key) :
    fields'.value? key = fields.value? key := by
  unfold Json.Fields.value?
  rw [same]

theorem string?_congr (same : fields'.value? key = fields.value? key) (context : String) :
    string? fields' key context = string? fields key context := by
  unfold string?
  rw [same]

theorem flag_congr (same : fields'.value? key = fields.value? key) (context : String) :
    flag fields' key context = flag fields key context := by
  unfold flag
  rw [same]

theorem items_congr (same : fields'.value? key = fields.value? key) (context : String) :
    items fields' key context = items fields key context := by
  unfold items
  rw [same]

end

end Property

end PageObject
