import PageObject.Proofs.Accessor.Settings
import PageObject.Proofs.Page.Reading
import PageObject.Proofs.Page.Simulation
import PageObject.Proofs.Page.Traversal

namespace PageObject

section

variable {config config' : Config}

structure Visit.SameUnder (config config' : Config) (visit visit' : Visit) : Prop where
  node : visit'.node = visit.node
  scope : visit.scope.SameUnder config config' visit'.scope
  path : visit'.path = visit.path

theorem Visit.sameUnder_ofList (nodes : List Json) {scope scope' : Scope}
    (same : scope.SameUnder config config' scope') (path : NodePath) (inShadow : Bool) :
    List.Forall₂ (Visit.SameUnder config config') (Visit.ofList nodes scope path inShadow)
      (Visit.ofList nodes scope' path inShadow) := by
  unfold Visit.ofList
  generalize nodes.zipIdx = places
  induction places with
  | nil => exact .nil
  | cons place rest ih => exact .cons ⟨rfl, same, rfl⟩ ih

theorem Visit.sameUnder_ofNested (nested : Nested) {scope scope' shadowScope shadowScope' : Scope}
    (same : scope.SameUnder config config' scope')
    (sameShadow : shadowScope.SameUnder config config' shadowScope') (path : NodePath) :
    List.Forall₂ (Visit.SameUnder config config') (Visit.ofNested nested scope shadowScope path)
      (Visit.ofNested nested scope' shadowScope' path) :=
  List.rel_append (sameUnder_ofList _ same path false) (sameUnder_ofList _ sameShadow path true)

theorem Accessor.SameUnder.scope {accessor accessor' : Accessor}
    (h : accessor.SameUnder config config' accessor') (element : String) (isNullable inShadow : Bool) :
    (accessor.scope element isNullable inShadow).SameUnder config config'
      (accessor'.scope element isNullable inShadow) :=
  ⟨rfl, h.name, h.parameters, rfl, rfl⟩

theorem Visit.alike_run_of_sameUnder {visit visit' : Visit} (h : visit.SameUnder config config' visit')
    (taken : List String) :
    (visit.run taken config.registry).value.Alike (Accessor.SameUnder config config')
      (Visit.SameUnder config config') (visit'.run taken config'.registry).value := by
  have label : visit'.label = visit.label := by
    rw [Visit.label, Visit.label, h.node, h.path]
  have read : Alike (Element.SameUnder config config')
      (Element.read visit.node visit.path.text config.registry)
      (Element.read visit'.node visit'.path.text config'.registry) := by
    rw [h.node, h.path]
    exact Element.alike_read_of_config visit.node visit.path.text
  apply Visit.alike_run label read
  · intro element element' same
    exact ⟨same.name, same.isPublic⟩
  · intro element element' same
    exact (same.plan h.scope).alike_build
  · intro element element' accessor accessor' same sameAccessor
    unfold innerVisits
    rw [same.name, same.isNullable, same.nested, h.path]
    exact sameUnder_ofNested _ (sameAccessor.scope _ _ _) (sameAccessor.scope _ _ _) _

end

structure Parameter.SameButImports (parameter parameter' : Parameter) : Prop where
  name : parameter'.name = parameter.name
  type : parameter.type.WrittenAlike parameter'.type
  literal : parameter'.literal = parameter.literal

/-- Two accessors that differ at most in the imports of the types that they name. -/
structure Accessor.SameButImports (accessor accessor' : Accessor) : Prop where
  name : accessor'.name = accessor.name
  isPublic : accessor'.isPublic = accessor.isPublic
  parameters : List.Forall₂ Parameter.SameButImports accessor.parameters accessor'.parameters
  returnType : accessor.returnType.WrittenAlike accessor'.returnType
  signature : accessor'.signature = accessor.signature
  scopeLine : accessor'.scopeLine = accessor.scopeLine
  returnLine : accessor'.returnLine = accessor.returnLine

structure Compilation.SameButImports (compilation compilation' : Compilation) : Prop where
  rootLocator : compilation'.rootLocator = compilation.rootLocator
  accessors : List.Forall₂ Accessor.SameButImports compilation.accessors compilation'.accessors
  diagnostics : compilation'.diagnostics = compilation.diagnostics

theorem Accessor.SameUnder.sameButImports {config config' : Config} {accessor accessor' : Accessor}
    (h : accessor.SameUnder config config' accessor') : accessor.SameButImports accessor' where
  name := h.name
  isPublic := h.isPublic
  parameters := h.parameters.imp fun _ _ same => ⟨same.name, same.writtenAlike, same.literal⟩
  returnType := h.returnType
  signature := h.signature
  scopeLine := h.scopeLine
  returnLine := h.returnLine

theorem Compilation.sameButImports_ofOutcomes {Same : Accessor → Accessor → Prop}
    (imports : ∀ accessor accessor', Same accessor accessor' → accessor.SameButImports accessor')
    (rootLocator : Option Locator) {outcomes outcomes' : List Outcome}
    (same : List.Forall₂ (Outcome.Alike Same) outcomes outcomes') :
    (ofOutcomes rootLocator outcomes).SameButImports (ofOutcomes rootLocator outcomes') := by
  induction same with
  | nil => exact ⟨rfl, .nil, rfl⟩
  | cons first others ih =>
    cases first with
    | built same => exact ⟨rfl, .cons (imports _ _ same) ih.accessors, ih.diagnostics⟩
    | skipped diagnostic => exact ⟨rfl, ih.accessors, congrArg (diagnostic :: ·) ih.diagnostics⟩

namespace Page

/-- Under any two settings that can be used, compiling a page fails with the same fault, or it ends in the
same root locator, diagnostics and methods, up to imports. -/
theorem compile_sameButImports (value : Json) {config config' : Config} {registry registry' : Registry}
    (first : Registry.ofConfig config = .ok registry) (second : Registry.ofConfig config' = .ok registry') :
    Alike Compilation.SameButImports (compile value registry).outcome (compile value registry').outcome := by
  rcases exists_of_bind_eq_ok first with ⟨_, _, same⟩
  cases same
  rcases exists_of_bind_eq_ok second with ⟨_, _, same⟩
  cases same
  rw [outcome_compile, outcome_compile]
  cases (read value).outcome with
  | error fault => exact .error fault
  | ok page =>
    have visits : List.Forall₂ (Visit.SameUnder config config') page.visits page.visits := by
      have root (inShadow : Bool) : (Scope.root inShadow).SameUnder config config' (Scope.root inShadow) :=
        ⟨rfl, rfl, .nil, rfl, rfl⟩
      exact Visit.sameUnder_ofNested _ (root false) (root true) _
    have outcomes := alike_walk (fun _ _ taken same => Visit.alike_run_of_sameUnder same taken)
      [Scope.rootGetter] visits
    exact .ok (Compilation.sameButImports_ofOutcomes (fun _ _ same => same.sameButImports) _ outcomes)

def moved : Config :=
  { corePackage := "org.core", listImport := "org.core.Seq", packageMapping := ⟨[("app", "org.app")]⟩ }

def mappedRow : Json :=
  .object [("elements", .array [
    .object [("name", .string "row"), ("type", .string "app/pageObjects/row"),
      ("selector", .object [("css", .string "tr%d"), ("returnAll", .bool true),
        ("args", .array [.object [("name", .string "n"), ("type", .string "number")]])])],
    .object [("name", .string "row")]])]

theorem compile_sameButImports_mappedRow :
    ∃ registry registry' compilation compilation', Registry.ofConfig {} = .ok registry ∧
      Registry.ofConfig moved = .ok registry' ∧
      (compile mappedRow registry).outcome = .ok compilation ∧
      (compile mappedRow registry').outcome = .ok compilation' ∧
      compilation.SameButImports compilation' ∧
      compilation.accessors.map (fun accessor => accessor.returnType.importPath) = ["app.pageobjects.Row"] ∧
      compilation'.accessors.map (fun accessor => accessor.returnType.importPath) = ["org.app.Row"] := by
  have first : Registry.ofConfig {} = .ok .standard := rfl
  have second : Registry.ofConfig moved = .ok moved.registry := rfl
  have alike := compile_sameButImports mappedRow first second
  obtain ⟨compilation, compiled, imports⟩ := exists_of_view
    (show (compile mappedRow .standard).outcome.toOption.map
        (fun compilation => compilation.accessors.map fun accessor => accessor.returnType.importPath) =
      some ["app.pageobjects.Row"] by decide +kernel)
  obtain ⟨compilation', compiled', imports'⟩ := exists_of_view
    (show (compile mappedRow moved.registry).outcome.toOption.map
        (fun compilation => compilation.accessors.map fun accessor => accessor.returnType.importPath) =
      some ["org.app.Row"] by decide +kernel)
  rw [compiled, compiled'] at alike
  cases alike with
  | ok same =>
    exact ⟨_, _, compilation, compilation', first, second, compiled, compiled', same, imports, imports'⟩

end Page

end PageObject
