import PageObject.Json.Size
import PageObject.Property

namespace PageObject

structure Nested where
  elements : List Json
  shadowElements : List Json
deriving Repr

namespace Nested

def isEmpty (nested : Nested) : Bool := nested.elements.isEmpty && nested.shadowElements.isEmpty

def readShadow (fields : Json.Fields) (context : String) : Except Fault (List Json) :=
  match fields.value? "shadow" with
  | none => .ok []
  | some value => do
    let shadow ← Property.fields value context "shadow"
    Property.items shadow "elements" (context ++ " shadow")

def read (fields : Json.Fields) (context : String) : Except Fault Nested := do
  let elements ← Property.items fields "elements" context
  let shadowElements ← readShadow fields context
  return { elements, shadowElements }

noncomputable def totalSize (nested : Nested) : Nat :=
  Json.totalSize nested.elements + Json.totalSize nested.shadowElements

end Nested

theorem Property.totalSize_items_lt {fields : Json.Fields} {key context : String}
    {items : List Json} (h : Property.items fields key context = .ok items) :
    items = [] ∨ ∃ value, fields.get? key = some value ∧ Json.totalSize items < sizeOf value := by
  simp only [Property.items] at h
  split at h
  · cases h
    exact .inl rfl
  · rename_i found heq
    cases h
    exact .inr ⟨_, Json.Fields.get?_of_value? heq, Json.totalSize_array_lt items⟩
  · cases h

namespace Nested

theorem totalSize_readShadow_lt {fields : Json.Fields} {context : String} {items : List Json}
    (h : readShadow fields context = .ok items) :
    items = [] ∨
      ∃ value, fields.get? "shadow" = some value ∧ Json.totalSize items < sizeOf value := by
  simp only [readShadow] at h
  split at h
  · cases h
    exact .inl rfl
  · rename_i value heq
    cases value <;> simp only [Property.fields, Bind.bind, Except.bind] at h <;> try cases h
    rename_i shadow
    rcases Property.totalSize_items_lt h with rfl | ⟨held, found, smaller⟩
    · exact .inl rfl
    · have := Json.Fields.sizeOf_lt_of_get? found
      refine .inr ⟨_, Json.Fields.get?_of_value? heq, ?_⟩
      rw [Json.object.sizeOf_spec]
      omega

theorem totalSize_read_lt {fields : Json.Fields} {context : String} {nested : Nested}
    (h : read fields context = .ok nested) : nested.totalSize < sizeOf fields := by
  have positive : 0 < sizeOf fields := by
    cases fields <;> simp only [List.nil.sizeOf_spec, List.cons.sizeOf_spec] <;> omega
  obtain ⟨elements, hElements, h⟩ := exists_of_bind_eq_ok h
  obtain ⟨shadowElements, hShadow, h⟩ := exists_of_bind_eq_ok h
  cases h
  simp only [totalSize]
  rcases Property.totalSize_items_lt hElements with rfl | ⟨value, found, smaller⟩
  · rcases totalSize_readShadow_lt hShadow with rfl | ⟨other, foundOther, smallerOther⟩
    · simpa using positive
    · have := Json.Fields.sizeOf_lt_of_get? foundOther
      simp only [Json.totalSize_nil]
      omega
  · rcases totalSize_readShadow_lt hShadow with rfl | ⟨other, foundOther, smallerOther⟩
    · have := Json.Fields.sizeOf_lt_of_get? found
      simp only [Json.totalSize_nil]
      omega
    · have := Json.Fields.sizeOf_add_lt_of_get? (by decide) found foundOther
      omega

end Nested

end PageObject
