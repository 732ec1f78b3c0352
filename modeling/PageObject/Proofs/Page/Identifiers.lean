import PageObject.Proofs.Page.Declarations
import PageObject.Proofs.Text.Identifier

namespace PageObject

theorem Accessor.isIdentifier_nameFor {element : String} (identifier : Text.isIdentifier element)
    (isPublic : Bool) : Text.isIdentifier (nameFor element isPublic) := by
  have capitalized := Text.all_isWordChar_of_isIdentifier (Text.isIdentifier_capitalize identifier)
  have getter := Text.isIdentifier_append (show Text.isIdentifier "get" by decide) capitalized
  refine Text.isIdentifier_append getter ?_
  cases isPublic <;> decide

theorem Element.isIdentifier_of_read {node : Json} {path : String} {registry : Registry}
    {element : Element} (found : read node path registry = .ok element) :
    Text.isIdentifier element.name := by
  rcases read_eq_ok_iff.mp found with ⟨fields, rfl, declared⟩
  exact declared.identifier

theorem Filter.isIdentifier_of_read {value : Json} {context : String} {registry : Registry}
    {filter : Filter} (found : read value context registry = .ok filter) :
    Text.isIdentifier filter.predicate.applyMethod := by
  rcases read_eq_ok_iff.mp found with ⟨fields, rfl, declared⟩
  exact declared.identifier

namespace Page

variable {value : Json} {registry : Registry} {compilation : Compilation} {before after : List Accessor}
  {accessor : Accessor}

theorem isIdentifier_scope_name {earlier : List Visited} {here : Visited} {element : Element}
    (made : MadeFor value registry before accessor earlier here element) :
    Text.isIdentifier here.visit.scope.name := by
  rcases made.container with ⟨place, path, scope⟩ |
    ⟨outerBefore, called, outerEarlier, parent, outer, place, outerMade, inside, held, path, scope⟩
  · rw [scope]
    exact show Text.isIdentifier "root" by decide
  · rw [scope]
    exact Element.isIdentifier_of_read outerMade.readable

theorem identifiers_iff (h : (compile value registry).outcome = .ok compilation)
    (split : compilation.accessors = before ++ accessor :: after) :
    ∃ earlier here element, MadeFor value registry before accessor earlier here element ∧
      Text.isIdentifier accessor.name ∧ Text.isIdentifier here.visit.scope.name ∧
      (∀ predicate, element.cardinality.predicate? = some predicate →
        Text.isIdentifier predicate.applyMethod) ∧
      ((∀ parameter ∈ accessor.parameters, Text.isIdentifier parameter.name) ↔
        ∀ declared ∈ here.visit.declarations value, Text.isIdentifier declared.name) := by
  rcases exists_madeFor h split with ⟨earlier, here, element, made⟩
  refine ⟨earlier, here, element, made, ?_, isIdentifier_scope_name made, ?_, ?_⟩
  · rw [AccessorPlan.name_of_build made.build]
    exact Accessor.isIdentifier_nameFor (Element.isIdentifier_of_read made.readable) _
  · intro predicate filtered
    rcases Element.exists_filter_of_read made.readable filtered with ⟨node, filter, held, read, rfl⟩
    exact Filter.isIdentifier_of_read read
  · exact made.forall_names_iff (P := fun name => Text.isIdentifier name)

def attributeRow : Json :=
  let argument (name type : String) : Json := .object [("name", .string name), ("type", .string type)]
  .object [("elements", .array [.object [("name", .string "row"),
    ("selector", .object [("css", .string "%d"), ("args", .array [argument "n" "number"]),
      ("returnAll", .bool true)]),
    ("filter", .object [("apply", .string "getAttribute"), ("args", .array [argument "key" "string"]),
      ("matcher", .object [("type", .string "notNull")])])]])]

theorem identifiers_iff_attributeRow :
    ∃ (compilation : Compilation) (accessor : Accessor) (here : Visited),
      (compile attributeRow .standard).outcome = .ok compilation ∧
      compilation.accessors = [] ++ accessor :: [] ∧ accessor.name = "getRowElement" ∧
      accessor.parameters.map Parameter.name = ["n", "key"] ∧
      Text.isIdentifier accessor.name ∧ Text.isIdentifier here.visit.scope.name ∧
      ∀ declared ∈ here.visit.declarations attributeRow, Text.isIdentifier declared.name := by
  obtain ⟨compilation, compiled, view⟩ := exists_of_view
    (show (compile attributeRow .standard).outcome.toOption.map (fun compilation =>
        compilation.accessors.map fun accessor =>
          (accessor.name, accessor.parameters.map Parameter.name)) =
      some [("getRowElement", ["n", "key"])] by decide +kernel)
  rcases List.map_eq_cons_iff.mp view with ⟨accessor, rest, split, first, view⟩
  cases List.map_eq_nil_iff.mp view
  rcases Prod.mk.inj first with ⟨named, parameters⟩
  have split : compilation.accessors = [] ++ accessor :: [] := split
  rcases identifiers_iff compiled split with
    ⟨earlier, here, element, made, name, scope, applied, declared⟩
  refine ⟨compilation, accessor, here, compiled, split, named, parameters, name, scope, declared.mp ?_⟩
  intro parameter member
  have inside : parameter.name ∈ ["n", "key"] := by
    rw [← parameters]
    exact List.mem_map_of_mem member
  have identifiers : ∀ name ∈ ["n", "key"], Text.isIdentifier name := by decide
  exact identifiers parameter.name inside

def injectedArgument : Json :=
  .object [("elements", .array [.object [("name", .string "foo"),
    ("selector", .object [("css", .string "%s"), ("args", .array [.object [
      ("name", .string "x) evil("), ("type", .string "string")]])])]])]

theorem not_forall_identifiers :
    ¬ ∀ (value : Json) (registry : Registry) (compilation : Compilation),
      (compile value registry).outcome = .ok compilation → ∀ accessor ∈ compilation.accessors,
        ∀ parameter ∈ accessor.parameters, Text.isIdentifier parameter.name := by
  intro all
  obtain ⟨compilation, compiled, view⟩ := exists_of_view
    (show (compile injectedArgument .standard).outcome.toOption.map (fun compilation =>
        compilation.accessors.map fun accessor => accessor.parameters.map Parameter.name) =
      some [["x) evil("]] by decide +kernel)
  rcases List.map_eq_cons_iff.mp view with ⟨accessor, rest, split, names, nothing⟩
  rcases List.map_eq_cons_iff.mp names with ⟨parameter, others, parameters, named, none⟩
  have identifier := all injectedArgument .standard compilation compiled accessor
    (by rw [split]; exact List.mem_cons_self) parameter (by rw [parameters]; exact List.mem_cons_self)
  rw [named] at identifier
  exact absurd identifier (by decide)

end Page

end PageObject
