import PageObject.Page
import PageObject.Proofs.Property

namespace PageObject.Page

theorem outcome_read (value : Json) :
    (read value).outcome = (do
      let fields ← Property.fields value pageContext "$"
      let isRoot ← Property.flag fields "root" pageContext
      let rootLocator ← (readRootLocator fields isRoot).outcome
      let nested ← Nested.read fields pageContext
      return { rootLocator, nested }) := by
  unfold read
  simp only [Attempt.outcome_bind]
  rfl

theorem outcome_compile (value : Json) (registry : Registry) :
    (compile value registry).outcome = (read value).outcome.map fun page =>
      .ofOutcomes page.rootLocator (walk registry [Scope.rootGetter] page.visits).value := by
  unfold compile
  rw [Attempt.outcome_bind]
  cases (read value).outcome <;> rfl

end PageObject.Page
