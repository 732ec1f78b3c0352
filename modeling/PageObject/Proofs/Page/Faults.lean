import PageObject.Proofs.Element.Faults
import PageObject.Proofs.Element.Reading
import PageObject.Proofs.Page.Reading
import PageObject.Proofs.Selector.Root
import PageObject.Proofs.Signature.Merge

namespace PageObject

theorem AccessorPlan.build_reports (plan : AccessorPlan) (registry : Registry) :
    Reports (Fault.Among [(FaultCode.parameterConflict, 4)]) (plan.build registry).outcome := by
  rw [outcome_build]
  cases conflict : plan.merge.conflict with
  | none => exact .ok _
  | some fault =>
    have form := Signature.form_of_conflict conflict
    exact .error (List.mem_singleton.mpr form)

theorem Element.compile_reports (node : Json) (scope : Scope) (registry : Registry) :
    Reports (Fault.Among (forms ++ [(FaultCode.parameterConflict, 4)])) (compile node scope registry).outcome := by
  unfold compile
  rw [Attempt.outcome_bind]
  apply Reports.bind (read_reports.widen (List.subset_append_left _ _))
  intro element _
  exact (AccessorPlan.build_reports _ _).widen (List.subset_append_right _ _)

namespace Visit

def forms : List (Nat × Nat) :=
  Element.forms ++ [(FaultCode.parameterConflict, 4), (FaultCode.duplicateAccessor, 3)]

theorem run_among {visit : Visit} {taken : List String} {registry : Registry} {diagnostic : Diagnostic}
    (skipped : (visit.run taken registry).value.outcome = .skipped diagnostic) :
    diagnostic.fault.Among forms := by
  unfold run at skipped
  cases found : Element.read visit.node visit.path.text registry with
  | error fault =>
    rw [found] at skipped
    cases skipped
    exact Element.read_reports.widen (List.subset_append_left _ _) fault found
  | ok element =>
    simp only [found, compile] at skipped
    split at skipped
    · cases skipped
      simp [Fault.Among, Fault.form, forms]
    · rw [Logged.value_bind] at skipped
      cases built : ((element.plan visit.scope registry).build registry).run.value with
      | error fault =>
        rw [built] at skipped
        cases skipped
        exact (AccessorPlan.build_reports _ _).widen (by decide) fault built
      | ok accessor =>
        rw [built] at skipped
        cases skipped

end Visit

theorem walk_among (registry : Registry) (taken : List String) (visits : List Visit) :
    ∀ diagnostic ∈ (walk registry taken visits).value.filterMap Outcome.diagnostic?,
      diagnostic.fault.Among Visit.forms := by
  induction taken, visits using walk.induct registry with
  | case1 =>
    rw [walk]
    exact List.forall_mem_nil _
  | case2 taken visit rest step ih =>
    rw [walk]
    cases outcome : step.value.outcome with
    | built accessor => exact ih
    | skipped diagnostic => exact List.forall_mem_cons.mpr ⟨Visit.run_among outcome, ih⟩

namespace Page

def forms : List (Nat × Nat) := (FaultCode.unsupportedProperty, 2) :: Selector.locatorForms

theorem propertyForms_subset : Property.forms ⊆ forms := by decide

theorem outcome_readRoot_reports (value : Json) (context : String) :
    Reports (Fault.Among forms) (Selector.readRoot value context).outcome := by
  rw [Selector.outcome_readRoot]
  apply (Property.fields_reports.widen propertyForms_subset).bind
  intro fields _
  split
  · exact .site (by simp [forms])
  · exact Selector.readLocator_reports.widen (List.subset_cons_self _ _)

theorem readRootLocator_reports (fields : Json.Fields) (isRoot : Bool) :
    Reports (Fault.Among forms) (readRootLocator fields isRoot).outcome := by
  unfold readRootLocator
  split
  · rw [Attempt.outcome_map]
    exact (outcome_readRoot_reports _ _).map
  · exact .site (by simp [forms, Selector.locatorForms, Property.forms])
  · exact .site (by simp [forms])
  · exact .ok _

theorem read_reports (value : Json) : Reports (Fault.Among forms) (read value).outcome := by
  rw [outcome_read]
  apply (Property.fields_reports.widen propertyForms_subset).bind
  intro fields _
  apply (Property.flag_reports.widen propertyForms_subset).bind
  intro isRoot _
  apply (readRootLocator_reports fields isRoot).bind
  intro rootLocator _
  exact (Nested.read_reports.widen propertyForms_subset).bind fun _ _ => .ok _

theorem compile_reports (value : Json) (registry : Registry) :
    Reports (Fault.Among forms) (compile value registry).outcome := by
  rw [outcome_compile]
  exact (read_reports value).map

theorem diagnostics_among {value : Json} {registry : Registry} {compilation : Compilation}
    (compiled : (compile value registry).outcome = .ok compilation) :
    ∀ diagnostic ∈ compilation.diagnostics, diagnostic.fault.Among Visit.forms := by
  rw [outcome_compile] at compiled
  cases found : (read value).outcome with
  | error fault =>
    rw [found] at compiled
    cases compiled
  | ok page =>
    rw [found] at compiled
    cases compiled
    exact walk_among _ _ _

end Page

end PageObject
