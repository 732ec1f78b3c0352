import PageObject.Json.Basic

namespace PageObject.Json

noncomputable def totalSize : List Json → Nat
  | [] => 0
  | value :: rest => sizeOf value + totalSize rest

theorem sizeOf_pos (value : Json) : 0 < sizeOf value := by
  cases value <;> simp only [null.sizeOf_spec, bool.sizeOf_spec, number.sizeOf_spec,
    string.sizeOf_spec, array.sizeOf_spec, object.sizeOf_spec] <;> omega

@[simp] theorem totalSize_nil : totalSize [] = 0 := rfl

theorem totalSize_cons (value : Json) (rest : List Json) :
    totalSize (value :: rest) = sizeOf value + totalSize rest := rfl

theorem totalSize_append (values others : List Json) :
    totalSize (values ++ others) = totalSize values + totalSize others := by
  induction values with
  | nil => simp
  | cons value rest ih =>
    rw [List.cons_append, totalSize_cons, totalSize_cons, ih]
    omega

theorem totalSize_lt_sizeOf (values : List Json) : totalSize values < sizeOf values := by
  induction values with
  | nil => simp
  | cons value rest ih =>
    rw [totalSize_cons, List.cons.sizeOf_spec]
    omega

theorem totalSize_array_lt (items : List Json) : totalSize items < sizeOf (Json.array items) := by
  have := totalSize_lt_sizeOf items
  rw [array.sizeOf_spec]
  omega

namespace Fields

theorem get?_cons (name : String) (value : Json) (rest : Fields) (key : String) :
    get? ((name, value) :: rest) key = if key = name then some value else get? rest key := by
  by_cases h : key = name
  · simp [get?, h]
  · have : (key == name) = false := by simp [h]
    simp [get?, List.lookup_cons, this, h]

theorem sizeOf_lt_of_get? {fields : Fields} {key : String} {value : Json}
    (h : get? fields key = some value) : sizeOf value < sizeOf fields := by
  induction fields with
  | nil => simp [get?] at h
  | cons field rest ih =>
    obtain ⟨name, held⟩ := field
    rw [get?_cons] at h
    split at h
    · cases h
      simp only [List.cons.sizeOf_spec, Prod.mk.sizeOf_spec]
      omega
    · have := ih h
      simp only [List.cons.sizeOf_spec]
      omega

theorem sizeOf_add_lt_of_get? {fields : Fields} {key other : String} {value otherValue : Json}
    (different : key ≠ other) (h : get? fields key = some value)
    (hOther : get? fields other = some otherValue) :
    sizeOf value + sizeOf otherValue < sizeOf fields := by
  induction fields with
  | nil => simp [get?] at h
  | cons field rest ih =>
    obtain ⟨name, held⟩ := field
    rw [get?_cons] at h hOther
    by_cases first : key = name
    · rw [if_pos first] at h
      rw [if_neg fun second => different (first.trans second.symm)] at hOther
      cases h
      have := sizeOf_lt_of_get? hOther
      simp only [List.cons.sizeOf_spec, Prod.mk.sizeOf_spec]
      omega
    · rw [if_neg first] at h
      by_cases second : other = name
      · rw [if_pos second] at hOther
        cases hOther
        have := sizeOf_lt_of_get? h
        simp only [List.cons.sizeOf_spec, Prod.mk.sizeOf_spec]
        omega
      · rw [if_neg second] at hOther
        have := ih h hOther
        simp only [List.cons.sizeOf_spec]
        omega

theorem get?_of_value? {fields : Fields} {key : String} {value : Json}
    (h : value? fields key = some value) : get? fields key = some value := by
  simp only [value?, Option.filter_eq_some_iff] at h
  exact h.1

end Fields

end PageObject.Json
