import PageObject.Nested
import PageObject.Proofs.Alike
import PageObject.Proofs.Breach

namespace PageObject

def Json.Fields.shadow (fields : Json.Fields) : Json.Fields := ((fields.value? "shadow").getD .null).fields

namespace Nested

def breaches (fields : Json.Fields) (context : String) : List (Fault → Prop) :=
  let shadow := ((fields.value? "shadow").getD .null).fields
  [fun fault => fields.Misfits "elements" .array ∧ fault = .wrongShape context "elements" .array,
    fun fault => fields.Misfits "shadow" .object ∧ fault = .wrongShape context "shadow" .object,
    fun fault => shadow.Misfits "elements" .array ∧
      fault = .wrongShape (context ++ " shadow") "elements" .array]

theorem read_eq_error_iff {fields : Json.Fields} {context : String} (fault : Fault) :
    read fields context = .error fault ↔ FirstOf (breaches fields context) fault := by
  apply FirstOf.bind_eq_error_iff (fun _ => Property.items_eq_error_iff)
  intro elements _ fault
  unfold readShadow
  cases held : fields.value? "shadow" with
  | none =>
    have object : ¬ fields.Misfits "shadow" .object := Property.not_misfits held
    -- Without a shadow block there is no list in it either.
    have array : ¬ Json.Fields.Misfits [] "elements" .array := Property.not_misfits rfl
    rw [FirstOf.cons_iff_of_forall_not (fun _ broken => object broken.1),
      FirstOf.cons_iff_of_forall_not (fun _ broken => array broken.1)]
    exact iff_of_false (by simp [pure, bind, Except.pure, Except.bind]) id
  | some value =>
    simp only [bind_assoc, Property.misfits_iff held]
    apply FirstOf.bind_eq_error_iff (fun _ => Property.fields_eq_error_iff)
    intro shadow found
    cases Property.fields_eq_ok_iff.mp found
    apply FirstOf.bind_eq_error_iff (fun _ => Property.items_eq_error_iff)
    intro shadowElements _ fault
    exact iff_of_false (by simp [pure, Except.pure]) id

theorem readShadow_eq_ok_iff {fields : Json.Fields} {context : String} {found : List Json} :
    readShadow fields context = .ok found ↔
      fields.Fits "shadow" .object ∧ fields.shadow.Fits "elements" .array ∧
        fields.shadow.items "elements" = found := by
  unfold readShadow Json.Fields.shadow
  cases held : fields.value? "shadow" with
  | none =>
    have object : fields.Fits "shadow" .object := Property.fits_iff.mpr (Property.not_misfits held)
    have array : Json.Fields.Fits [] "elements" .array := Property.fits_iff.mpr (Property.not_misfits rfl)
    rw [and_iff_right object]
    constructor
    · intro h
      cases h
      exact ⟨array, rfl⟩
    · rintro ⟨_, rfl⟩
      rfl
  | some value =>
    simp only [bind_eq_ok_iff, Property.fields_eq_ok_iff, Property.items_eq_ok_iff_fits, Option.getD_some]
    constructor
    · rintro ⟨shadow, rfl, read⟩
      exact ⟨by simp [Json.Fields.Fits, held, Json.hasShape], read⟩
    · rintro ⟨object, read⟩
      have object := object value held
      cases value with
      | object shadow => exact ⟨shadow, rfl, read⟩
      | _ => cases object

theorem read_eq_ok_iff {fields : Json.Fields} {context : String} {nested : Nested} :
    read fields context = .ok nested ↔
      fields.Fits "elements" .array ∧ fields.Fits "shadow" .object ∧ fields.shadow.Fits "elements" .array ∧
        nested = ⟨fields.items "elements", fields.shadow.items "elements"⟩ := by
  unfold read
  simp only [bind_eq_ok_iff, Property.items_eq_ok_iff_fits, readShadow_eq_ok_iff]
  constructor
  · rintro ⟨elements, ⟨array, rfl⟩, shadowElements, ⟨object, shadowArray, rfl⟩, h⟩
    cases h
    exact ⟨array, object, shadowArray, rfl⟩
  · rintro ⟨array, object, shadowArray, rfl⟩
    exact ⟨_, ⟨array, rfl⟩, _, ⟨object, shadowArray, rfl⟩, rfl⟩

end Nested

/-- What is found under a key in two objects, if it may differ in nothing but the items of an array. -/
inductive SameButItems : Option Json → Option Json → Prop where
  | same (found : Option Json) : SameButItems found found
  | arrays (items items' : List Json) : SameButItems (some (.array items)) (some (.array items'))

/-- What is found under the key of a shadow block, if it may differ in nothing but its nodes. -/
inductive SameShadow : Option Json → Option Json → Prop where
  | same (found : Option Json) : SameShadow found found
  | objects {fields fields' : Json.Fields}
    (elements : SameButItems (fields.get? "elements") (fields'.get? "elements")) :
    SameShadow (some (.object fields)) (some (.object fields'))

theorem Property.alike_items_of_sameButItems {fields fields' : Json.Fields} {key : String}
    (same : SameButItems (fields.get? key) (fields'.get? key)) (context : String) :
    Alike (fun _ _ => True) (items fields key context) (items fields' key context) := by
  unfold items Json.Fields.value?
  generalize fields.get? key = found at same ⊢
  generalize fields'.get? key = found' at same ⊢
  cases same with
  | same => exact .refl (fun _ => trivial) _
  | arrays items items' => exact .ok trivial

theorem Nested.alike_read_of_sameShadow {fields fields' : Json.Fields}
    (elements : SameButItems (fields.get? "elements") (fields'.get? "elements"))
    (shadow : SameShadow (fields.get? "shadow") (fields'.get? "shadow")) (context : String) :
    Alike (fun _ _ => True) (read fields context) (read fields' context) := by
  apply (Property.alike_items_of_sameButItems elements context).bind
  intro items items' _
  have shadowElements : Alike (fun _ _ => True) (readShadow fields context) (readShadow fields' context) := by
    unfold readShadow Json.Fields.value?
    generalize fields.get? "shadow" = found at shadow ⊢
    generalize fields'.get? "shadow" = found' at shadow ⊢
    cases shadow with
    | same => exact .refl (fun _ => trivial) _
    | objects elements => exact Property.alike_items_of_sameButItems elements _
  apply shadowElements.bind
  intro shadowItems shadowItems' _
  exact .ok trivial

end PageObject
