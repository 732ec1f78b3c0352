import Mathlib.Data.List.Forall2
import PageObject.Proofs.Property
import PageObject.Selector

namespace PageObject

theorem Placeholder.check_eq_ok_iff {expression context : String} {args : List Parameter}
    {registry : Registry} :
    check expression args context registry = .ok () ↔
      List.Forall₂ (fun placeholder argument => registry.parameterType? argument.type = some placeholder.type)
        (ofExpression expression) args := by
  rw [List.forall₂_iff_zip]
  unfold check
  simp only
  by_cases length : (ofExpression expression).length = args.length
  · rw [if_neg (not_not_intro length)]
    split
    · rename_i placeholder argument misfit
      refine iff_of_false (by simp) fun fits => ?_
      have differs : registry.parameterType? argument.type ≠ some placeholder.type := by
        simpa using List.find?_some misfit
      exact differs (fits.2 (List.mem_of_find?_eq_some misfit))
    · rename_i misfit
      refine iff_of_true rfl ⟨length, fun inside => ?_⟩
      simpa using List.find?_eq_none.mp misfit _ inside
  · rw [if_pos length]
    exact iff_of_false (by simp) fun fits => length fits.1

theorem Placeholder.exists_type_of_check {expression context : String} {args : List Parameter}
    {registry : Registry} (checked : check expression args context registry = .ok ()) :
    ∀ argument ∈ args, ∃ placeholder : Placeholder,
      registry.parameterType? argument.type = some placeholder.type := by
  have fits := check_eq_ok_iff.mp checked
  clear checked
  generalize ofExpression expression = placeholders at fits
  induction fits with
  | nil =>
    intro argument none
    cases none
  | @cons placeholder first placeholders rest fit others ih =>
    intro argument member
    rcases List.mem_cons.mp member with rfl | member
    · exact ⟨placeholder, fit⟩
    · exact ih argument member

namespace Selector

structure DeclaredBy (selector : Selector) (fields : Json.Fields) (context : String)
    (registry : Registry) : Prop where
  locator : readLocator fields context = .ok selector.locator
  parameters : ∃ items, Property.items fields "args" (context ++ " selector") = .ok items ∧
    Argument.readAll items (context ++ " selector") registry = .ok selector.parameters
  placeholders : Placeholder.check selector.locator.expression selector.parameters context registry = .ok ()
  returnsAll : Property.flag fields "returnAll" (context ++ " selector") = .ok selector.returnsAll

theorem read_eq_ok_iff {value : Json} {context : String} {registry : Registry} {selector : Selector} :
    read value context registry = .ok selector ↔
      ∃ fields, value = .object fields ∧ selector.DeclaredBy fields context registry := by
  unfold read
  simp only [bind_eq_ok_iff, Property.fields_eq_ok_iff]
  constructor
  · rintro ⟨fields, rfl, locator, hLocator, items, hItems, parameters, hParameters, checked, hChecked,
      returnsAll, hReturnsAll, h⟩
    cases h
    exact ⟨fields, rfl, hLocator, ⟨items, hItems, hParameters⟩, hChecked, hReturnsAll⟩
  · intro h
    rcases h with ⟨fields, rfl, declared⟩
    rcases declared.parameters with ⟨items, hItems, hParameters⟩
    exact ⟨fields, rfl, selector.locator, declared.locator, items, hItems, selector.parameters, hParameters,
      (), declared.placeholders, selector.returnsAll, declared.returnsAll, rfl⟩

end Selector

end PageObject
