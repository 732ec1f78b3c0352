import PageObject.Proofs.Element.Arguments
import PageObject.Proofs.Signature.Merge

namespace PageObject.AccessorPlan

variable {plan : AccessorPlan} {registry : Registry} {accessor : Accessor}

theorem parameters_of_build (built : (plan.build registry).outcome = .ok accessor) :
    (Parameter.named plan.required).Pairwise Parameter.Agrees ∧
      accessor.parameters = firstOccurrences Parameter.name (Parameter.named plan.required) := by
  rcases outcome_build_eq_ok_iff.mp built with ⟨noConflict, rfl⟩
  have cleaned : plan.merge =
      Signature.merge { owner := "method '" ++ plan.name ++ "'" } (Parameter.named plan.required) := by
    rw [merge, ← Signature.merge_filter_isLiteral]
    rfl
  have named : ∀ parameter ∈ Parameter.named plan.required, parameter.isLiteral = false :=
    fun _ => Parameter.isLiteral_of_mem_named
  rcases @Signature.merge_of_agree { owner := "method '" ++ plan.name ++ "'" } [] _ rfl .nil named with
    ⟨agree, none, parameters⟩ | ⟨before, clash, after, first, split, agree, found, differ, conflict⟩
  · refine ⟨agree, ?_⟩
    rw [← cleaned] at parameters
    exact parameters
  · rw [← cleaned, noConflict] at conflict
    cases conflict

theorem isLiteral_of_mem_parameters (built : (plan.build registry).outcome = .ok accessor) :
    ∀ parameter ∈ accessor.parameters, parameter.isLiteral = false := by
  intro parameter member
  rw [(parameters_of_build built).2] at member
  exact Parameter.isLiteral_of_mem_named ((sublist_firstOccurrences _).subset member)

theorem mem_required_of_mem_parameters (built : (plan.build registry).outcome = .ok accessor) :
    ∀ parameter ∈ accessor.parameters, parameter ∈ plan.required := by
  intro parameter member
  rw [(parameters_of_build built).2] at member
  exact (List.mem_filter.mp ((sublist_firstOccurrences _).subset member)).1

theorem names_of_build (built : (plan.build registry).outcome = .ok accessor) :
    accessor.parameters.map Parameter.name =
      firstOccurrences id ((Parameter.named plan.required).map Parameter.name) := by
  rw [(parameters_of_build built).2, firstOccurrences_map]
  rfl

theorem nodup_names_of_build (built : (plan.build registry).outcome = .ok accessor) :
    (accessor.parameters.map Parameter.name).Nodup := by
  rw [(parameters_of_build built).2]
  exact nodup_firstOccurrences _

theorem prefix_of_build (built : (plan.build registry).outcome = .ok accessor)
    (named : ∀ parameter ∈ plan.scope.parameters, parameter.isLiteral = false)
    (unique : (plan.scope.parameters.map Parameter.name).Nodup) :
    plan.scope.parameters <+: accessor.parameters := by
  rw [(parameters_of_build built).2, required, List.append_assoc, Parameter.named_append,
    Parameter.named_eq_self named, firstOccurrences_append, firstOccurrences_eq_self unique]
  exact List.prefix_append ..

theorem exists_parameter_of_mem_required (built : (plan.build registry).outcome = .ok accessor)
    {argument : Parameter} (needed : argument ∈ plan.required) (named : argument.isLiteral = false) :
    ∃ parameter ∈ accessor.parameters, parameter.name = argument.name ∧
      parameter.type.key = argument.type.key := by
  rcases parameters_of_build built with ⟨agree, parameters⟩
  have inside : argument ∈ Parameter.named plan.required := List.mem_filter.mpr ⟨needed, by simp [named]⟩
  have first : argument.name ∈ accessor.parameters.map Parameter.name := by
    rw [parameters]
    exact mem_map_firstOccurrences.mpr (List.mem_map_of_mem inside)
  rcases List.mem_map.mp first with ⟨parameter, member, same⟩
  have among : parameter ∈ Parameter.named plan.required := by
    rw [parameters] at member
    exact (sublist_firstOccurrences _).subset member
  exact ⟨parameter, member, same, Parameter.agrees_of_mem agree among inside same⟩

end PageObject.AccessorPlan
