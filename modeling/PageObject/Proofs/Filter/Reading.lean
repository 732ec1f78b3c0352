import PageObject.Filter
import PageObject.Proofs.Property

namespace PageObject.Filter

variable {context : String} {registry : Registry} {matcher : Matcher}

theorem checkArguments_eq_ok_iff {args : List Parameter} :
    checkArguments matcher args context registry = .ok () ↔
      args.length = matcher.arity ∧ ∀ expected, matcher.argumentType? = some expected →
        ∀ argument ∈ args, registry.parameterType? argument.type = some expected := by
  unfold checkArguments
  by_cases length : args.length = matcher.arity
  · rw [if_neg (not_not_intro length)]
    cases matcher.argumentType? with
    | none => simp [length]
    | some expected =>
      simp only
      cases misfit : args.find? fun argument => registry.parameterType? argument.type ≠ some expected with
      | none =>
        refine iff_of_true rfl ⟨length, fun other same argument member => ?_⟩
        cases same
        simpa using List.find?_eq_none.mp misfit argument member
      | some argument =>
        refine iff_of_false (by simp) fun fits => ?_
        have differs : registry.parameterType? argument.type ≠ some expected := by
          simpa using List.find?_some misfit
        exact differs (fits.2 expected rfl argument (List.mem_of_find?_eq_some misfit))
  · rw [if_pos length]
    exact iff_of_false (by simp) fun fits => length fits.1

theorem readMatcher_eq_ok_iff {value : Json} {parameters : List Parameter} :
    readMatcher value context registry = .ok (matcher, parameters) ↔
      ∃ fields : Json.Fields, value = .object fields ∧
        fields.value? "type" = some (.string matcher.name) ∧
        (∃ items, Property.items fields "args" (context ++ " matcher") = .ok items ∧
          Argument.readAll items (context ++ " matcher") registry = .ok parameters) ∧
        checkArguments matcher parameters context registry = .ok () := by
  unfold readMatcher
  simp only [bind_eq_ok_iff, Property.fields_eq_ok_iff, Property.string_eq_ok_iff]
  constructor
  · rintro ⟨fields, rfl, name, ⟨present, filled⟩, h⟩
    split at h
    · cases h
    · rename_i found known
      simp only [bind_eq_ok_iff] at h
      rcases h with ⟨items, hItems, arguments, hArguments, checked, hChecked, h⟩
      cases h
      rw [← Matcher.name_of_ofName? known] at present
      exact ⟨fields, rfl, present, ⟨items, hItems, hArguments⟩, hChecked⟩
  · rintro ⟨fields, rfl, present, ⟨items, hItems, hArguments⟩, hChecked⟩
    have filled : matcher.name ≠ "" := by cases matcher <;> decide
    refine ⟨fields, rfl, matcher.name, ⟨present, filled⟩, ?_⟩
    simp only [Matcher.ofName?_name, bind_eq_ok_iff]
    exact ⟨items, hItems, parameters, hArguments, (), hChecked, rfl⟩

structure DeclaredBy (filter : Filter) (fields : Json.Fields) (context : String) (registry : Registry) :
    Prop where
  applyMethod : fields.value? "apply" = some (.string filter.predicate.applyMethod)
  named : filter.predicate.applyMethod ≠ ""
  identifier : Text.isIdentifier filter.predicate.applyMethod
  applyParameters : ∃ items, Property.items fields "args" context = .ok items ∧
    Argument.readAll items context registry = .ok filter.predicate.applyParameters
  matcher : ∃ value, fields.get? "matcher" = some value ∧
    readMatcher value context registry = .ok (filter.predicate.matcher, filter.predicate.matcherParameters)
  firstOnly : Property.flag fields "findFirst" context = .ok filter.firstOnly

theorem read_eq_ok_iff {value : Json} {filter : Filter} :
    read value context registry = .ok filter ↔
      ∃ fields, value = .object fields ∧ filter.DeclaredBy fields (context ++ " filter") registry := by
  unfold read
  simp only [bind_eq_ok_iff, Property.fields_eq_ok_iff, Property.string_eq_ok_iff]
  constructor
  · rintro ⟨fields, rfl, applyMethod, ⟨present, filled⟩, h⟩
    split at h
    · rcases exists_of_bind_eq_ok h with ⟨nothing, impossible, h⟩
      cases impossible
    · rename_i identifier
      simp only [bind_eq_ok_iff] at h
      rcases h with ⟨items, hItems, parameters, hParameters, matcherValue, hValue,
        ⟨matcher, matcherParameters⟩, hMatcher, firstOnly, hFirst, h⟩
      cases h
      exact ⟨fields, rfl, present, filled, by simpa using identifier, ⟨items, hItems, hParameters⟩,
        ⟨matcherValue, Property.value_eq_ok_iff.mp hValue, hMatcher⟩, hFirst⟩
  · intro h
    rcases h with ⟨fields, rfl, declared⟩
    rcases declared.applyParameters with ⟨items, hItems, hParameters⟩
    rcases declared.matcher with ⟨matcherValue, hValue, hMatcher⟩
    refine ⟨fields, rfl, filter.predicate.applyMethod, ⟨declared.applyMethod, declared.named⟩, ?_⟩
    rw [if_neg (by simp [declared.identifier])]
    simp only [bind_eq_ok_iff]
    exact ⟨items, hItems, _, hParameters, matcherValue, Property.value_eq_ok_iff.mpr hValue, _, hMatcher,
      filter.firstOnly, declared.firstOnly, rfl⟩

theorem checked_of_read {value : Json} {filter : Filter} (found : read value context registry = .ok filter) :
    checkArguments filter.predicate.matcher filter.predicate.matcherParameters (context ++ " filter")
      registry = .ok () := by
  rcases read_eq_ok_iff.mp found with ⟨fields, rfl, declared⟩
  rcases declared.matcher with ⟨matcherValue, held, hMatcher⟩
  rcases readMatcher_eq_ok_iff.mp hMatcher with ⟨matcherFields, rfl, named, arguments, checked⟩
  exact checked

end PageObject.Filter
