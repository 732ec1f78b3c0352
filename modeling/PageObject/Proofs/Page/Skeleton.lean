import PageObject.Proofs.Nested.Reading
import PageObject.Proofs.Page.Reading
import PageObject.Proofs.Page.Traversal
import PageObject.Proofs.Selector.Root

namespace PageObject

namespace Page

def IsRoot (fields : Json.Fields) : Prop := fields.value? "root" = some (.bool true)

theorem outcome_readRootLocator_true_eq_error_iff {fields : Json.Fields} (fault : Fault) :
    (readRootLocator fields true).outcome = .error fault ↔
      (fields.get? "selector" = none ∧ fault = .missingProperty pageContext "selector") ∨
        ∃ selector, fields.get? "selector" = some selector ∧
          (Selector.readRoot selector pageContext).outcome = .error fault := by
  unfold readRootLocator
  cases fields.get? "selector" with
  | none => simp [eq_comm]
  | some selector =>
    rw [Attempt.outcome_map]
    cases found : (Selector.readRoot selector pageContext).outcome <;> simp [found, Except.map]

theorem outcome_readRootLocator_false_eq_error_iff {fields : Json.Fields} (fault : Fault) :
    (readRootLocator fields false).outcome = .error fault ↔
      fields.contains "selector" ∧ fault = .unsupportedProperty pageContext "selector" := by
  unfold readRootLocator Json.Fields.contains
  cases fields.get? "selector" with
  | none => simp
  | some selector => simp [eq_comm]

/-- The requirements on the skeleton of a page, in the order in which they are checked. -/
def breaches (value : Json) : List (Fault → Prop) :=
  let fields := value.fields
  (fun fault => value.hasShape .object = false ∧ fault = .wrongShape pageContext "$" .object) ::
  (fun fault => fields.Misfits "root" .boolean ∧ fault = .wrongShape pageContext "root" .boolean) ::
  (fun fault => IsRoot fields ∧
    ((fields.get? "selector" = none ∧ fault = .missingProperty pageContext "selector") ∨
      ∃ selector, fields.get? "selector" = some selector ∧
        (Selector.readRoot selector pageContext).outcome = .error fault)) ::
  (fun fault => ¬ IsRoot fields ∧ fields.contains "selector" ∧
    fault = .unsupportedProperty pageContext "selector") ::
  Nested.breaches fields pageContext

theorem outcome_read_eq_error_iff {value : Json} (fault : Fault) :
    (read value).outcome = .error fault ↔ FirstOf (breaches value) fault := by
  rw [outcome_read]
  apply FirstOf.bind_eq_error_iff (fun _ => Property.fields_eq_error_iff)
  intro fields found
  cases Property.fields_eq_ok_iff.mp found
  simp only [Json.fields_object]
  apply FirstOf.bind_eq_error_iff (fun _ => Property.flag_eq_error_iff)
  intro isRoot root fault
  have nested (rootLocator : Option Locator) (fault : Fault) :
      (Nested.read fields pageContext >>= fun nested => pure (⟨rootLocator, nested⟩ : Page)) = .error fault ↔
        FirstOf (Nested.breaches fields pageContext) fault := by
    rw [← Nested.read_eq_error_iff]
    cases Nested.read fields pageContext <;> simp [pure, bind, Except.pure, Except.bind]
  -- The two requirements on the selector exclude each other, and one reading answers for both.
  cases isRoot with
  | true =>
    have isRoot : IsRoot fields := Property.flag_eq_true_iff.mp root
    apply FirstOf.bind_eq_error_iff
    · intro fault
      rw [outcome_readRootLocator_true_eq_error_iff, and_iff_right isRoot]
    · intro rootLocator _ fault
      rw [FirstOf.cons_iff_of_forall_not (fun _ broken => broken.1 isRoot)]
      exact nested rootLocator fault
  | false =>
    have notRoot : ¬ IsRoot fields := by
      intro isRoot
      rw [Property.flag_eq_true_iff.mpr isRoot] at root
      cases root
    rw [FirstOf.cons_iff_of_forall_not (fun _ broken => notRoot broken.1)]
    apply FirstOf.bind_eq_error_iff
    · intro fault
      rw [outcome_readRootLocator_false_eq_error_iff, and_iff_right notRoot]
    · intro rootLocator _
      exact nested rootLocator

end Page

/-- Two pages of one skeleton: they may differ in their nodes. -/
structure Page.SameSkeleton (value value' : Json) : Prop where
  object : value'.hasShape .object = value.hasShape .object
  root : value'.fields.get? "root" = value.fields.get? "root"
  selector : value'.fields.get? "selector" = value.fields.get? "selector"
  elements : SameButItems (value.fields.get? "elements") (value'.fields.get? "elements")
  shadow : SameShadow (value.fields.get? "shadow") (value'.fields.get? "shadow")

namespace Page

theorem alike_outcome_read_of_sameSkeleton {value value' : Json} (same : SameSkeleton value value') :
    Alike (fun page page' => page'.rootLocator = page.rootLocator) (read value).outcome
      (read value').outcome := by
  rw [outcome_read, outcome_read]
  have fields : Alike (fun fields fields' => fields = value.fields ∧ fields' = value'.fields)
      (Property.fields value pageContext "$") (Property.fields value' pageContext "$") := by
    rw [Property.fields_eq_ite, Property.fields_eq_ite, same.object]
    split
    · exact .ok ⟨rfl, rfl⟩
    · exact .error _
  apply fields.bind
  rintro fields fields' ⟨rfl, rfl⟩
  apply Alike.bind_same (Property.flag_congr (Property.value?_congr same.root) _)
  intro isRoot
  have rootLocator : readRootLocator value'.fields isRoot = readRootLocator value.fields isRoot := by
    unfold readRootLocator
    rw [same.selector]
  apply Alike.bind_same (congrArg Attempt.outcome rootLocator)
  intro rootLocator
  apply (Nested.alike_read_of_sameShadow same.elements same.shadow _).bind
  intro nested nested' _
  exact .ok rfl

/-- Compiling a page fails as a whole if and only if its skeleton breaks a requirement, and then with the
fault of the first one; a root selector has its own requirements. Pages of one skeleton fail alike, or they
have the same root locator. -/
theorem fails_iff_skeleton (value : Json) (registry : Registry) :
    (∀ fault, (compile value registry).outcome = .error fault ↔ FirstOf (breaches value) fault) ∧
    ((∃ fault, (compile value registry).outcome = .error fault) ↔
      ∃ breach ∈ breaches value, ∃ fault, breach fault) ∧
    (∀ selector fault, (Selector.readRoot selector pageContext).outcome = .error fault ↔
      FirstOf (Selector.rootBreaches selector pageContext) fault) ∧
    ∀ other registry', SameSkeleton value other →
      Alike (fun compilation compilation' => compilation'.rootLocator = compilation.rootLocator)
        (compile value registry).outcome (compile other registry').outcome := by
  have first (fault : Fault) :
      (compile value registry).outcome = .error fault ↔ FirstOf (breaches value) fault := by
    rw [← outcome_read_eq_error_iff, outcome_compile]
    cases (read value).outcome <;> simp [Except.map]
  refine ⟨first, ?_, ?_, ?_⟩
  · rw [← FirstOf.exists_iff]
    exact exists_congr first
  · intro selector fault
    exact Selector.outcome_readRoot_eq_error_iff fault
  · intro other registry' same
    rw [outcome_compile, outcome_compile]
    exact (alike_outcome_read_of_sameSkeleton same).map fun _ _ rootLocator => rootLocator

def rooted (nodes shadowNodes : List Json) : Json :=
  .object [("root", .bool true), ("selector", .object [("css", .string ".app")]), ("elements", .array nodes),
    ("shadow", .object [("elements", .array shadowNodes)])]

theorem fails_iff_skeleton_rooted :
    SameSkeleton (rooted [.null] []) (rooted [] [.object []]) ∧
    ∃ compilation compilation', (compile (rooted [.null] []) .standard).outcome = .ok compilation ∧
      (compile (rooted [] [.object []]) .standard).outcome = .ok compilation' ∧
      compilation.rootLocator = some ⟨.css, ".app"⟩ ∧ compilation'.rootLocator = compilation.rootLocator := by
  have same : SameSkeleton (rooted [.null] []) (rooted [] [.object []]) :=
    ⟨rfl, rfl, rfl, .arrays _ _, .objects (.arrays _ _)⟩
  rcases fails_iff_skeleton (rooted [.null] []) .standard with ⟨_, _, _, alike⟩
  have alike := alike _ .standard same
  obtain ⟨compilation, compiled, rootLocator⟩ := exists_of_view
    (show (compile (rooted [.null] []) .standard).outcome.toOption.map Compilation.rootLocator =
      some (some ⟨.css, ".app"⟩) by decide +kernel)
  rw [compiled] at alike
  generalize other : (compile (rooted [] [.object []]) .standard).outcome = outcome at alike
  cases alike with
  | ok same' => exact ⟨same, compilation, _, compiled, rfl, rootLocator, same'⟩

end Page

end PageObject
