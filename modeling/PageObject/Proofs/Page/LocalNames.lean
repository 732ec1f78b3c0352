import PageObject.Proofs.Page.Calls
import PageObject.Proofs.Page.Declarations

namespace PageObject

/-- The variable that the accessor of a node starts from: the root, or the element around the node. -/
def Json.scopeVariable? (value : Json) (path : NodePath) : Option String :=
  match path.dropLast with
  | [] => some "root"
  | above => (value.nodeAt? above).bind fun around => (around.field? "name").bind string?

def Cardinality.localNames (cardinality : Cardinality) : List String :=
  (cardinality.predicate?.map fun _ => [Predicate.candidate, Predicate.operand]).getD []

theorem Cardinality.nodup_localNames (cardinality : Cardinality) : cardinality.localNames.Nodup := by
  unfold localNames
  cases cardinality.predicate? with
  | none => exact .nil
  | some predicate => exact show [Predicate.candidate, Predicate.operand].Nodup by decide

/-- A piece of code passes no argument by a name that is one of the local names. -/
def Code.CapturesNone (code : Code) (localNames : List String) : Prop :=
  ∀ argument ∈ code.arguments, argument.isLiteral = false → argument.argumentText ∉ localNames

namespace Page

variable {value : Json} {registry : Registry} {compilation : Compilation} {before after : List Accessor}
  {accessor : Accessor} {earlier : List Visited} {here : Visited} {element : Element}
  {localNames : List String}

namespace MadeFor

theorem scopeVariable?_eq (made : MadeFor value registry before accessor earlier here element) :
    value.scopeVariable? here.visit.path = some here.visit.scope.name := by
  rcases made.container with ⟨place, path, scope⟩ |
    ⟨outerBefore, called, outerEarlier, parent, outer, place, outerMade, inside, held, path, scope⟩
  · rw [path, scope]
    rfl
  · rcases outerMade.visited with ⟨page, later, found, split⟩
    have nonempty := path_ne_nil_of_mem_preorder found parent (mem_of_split split)
    have named : parent.visit.node.field? "name" = some (.string outer.name) := by
      rcases Element.read_eq_ok_iff.mp outerMade.readable with ⟨fields, isObject, declared⟩
      rw [isObject]
      exact Json.Fields.get?_of_value? declared.name
    rw [path, scope, Json.scopeVariable?, List.dropLast_concat]
    split
    · rename_i root
      exact absurd root nonempty
    · rw [outerMade.located, Option.bind_some, named]
      rfl

theorem nodup_append_iff (made : MadeFor value registry before accessor earlier here element) :
    (localNames ++ accessor.parameters.map Parameter.name).Nodup ↔
      localNames.Nodup ∧ ∀ declared ∈ here.visit.declarations value, declared.name ∉ localNames := by
  have unique := AccessorPlan.nodup_names_of_build made.build
  have apart := made.forall_names_iff (P := fun name => name ∉ localNames)
  rw [← apart, List.nodup_append]
  constructor
  · intro h
    refine ⟨h.1, fun parameter member inside => ?_⟩
    exact h.2.2 _ inside _ (List.mem_map_of_mem member) rfl
  · intro h
    refine ⟨h.1, unique, fun name inside other member same => ?_⟩
    rcases List.mem_map.mp member with ⟨parameter, held, rfl⟩
    rw [same] at inside
    exact h.2 parameter held inside

/-- Every parameter is passed somewhere, and what is passed by its name is a parameter. -/
theorem capturesNone_iff (made : MadeFor value registry before accessor earlier here element) :
    let plan := element.plan here.visit.scope registry
    (here.visit.scope.code registry.basicElement ++ plan.returnCode).CapturesNone localNames ↔
      ∀ declared ∈ here.visit.declarations value, declared.name ∉ localNames := by
  intro plan
  have required : (here.visit.scope.code registry.basicElement ++ plan.returnCode).arguments =
      plan.required := by
    rw [Code.arguments_append, Scope.arguments_code, AccessorPlan.arguments_returnCode made.count,
      AccessorPlan.required, List.append_assoc]
    rfl
  have apart := made.forall_names_iff (P := fun name => name ∉ localNames)
  rw [Code.CapturesNone, required, ← apart]
  constructor
  · intro free parameter member
    have named := AccessorPlan.isLiteral_of_mem_parameters made.build parameter member
    have passed := free parameter (AccessorPlan.mem_required_of_mem_parameters made.build parameter member)
    rw [← Parameter.argumentText_of_named named]
    exact passed named
  · intro free argument needed named
    rcases AccessorPlan.exists_parameter_of_mem_required made.build needed named with
      ⟨parameter, member, same, type⟩
    rw [Parameter.argumentText_of_named named, ← same]
    exact free parameter member

end MadeFor

theorem localNames_apart_iff (h : (compile value registry).outcome = .ok compilation)
    (split : compilation.accessors = before ++ accessor :: after) :
    ∃ earlier here element, MadeFor value registry before accessor earlier here element ∧
      let first := here.visit.scope.code registry.basicElement
      let second := (element.plan here.visit.scope registry).returnCode
      let localNames := first.binders ++ second.binders
      accessor.scopeLine = first.text ∧ accessor.returnLine = second.text ∧
      localNames = here.visit.scope.name :: element.cardinality.localNames ∧
      value.scopeVariable? here.visit.path = some here.visit.scope.name ∧
      ((localNames ++ accessor.parameters.map Parameter.name).Nodup ↔
        here.visit.scope.name ∉ element.cardinality.localNames ∧
          ∀ declared ∈ here.visit.declarations value, declared.name ∉ localNames) ∧
      ((first ++ second).CapturesNone localNames ↔
        ∀ declared ∈ here.visit.declarations value, declared.name ∉ localNames) := by
  rcases exists_madeFor h split with ⟨earlier, here, element, made⟩
  have localNames : (here.visit.scope.code registry.basicElement).binders ++
      (element.plan here.visit.scope registry).returnCode.binders =
        here.visit.scope.name :: element.cardinality.localNames := by
    rw [Scope.binders_code, AccessorPlan.binders_returnCode]
    rfl
  refine ⟨earlier, here, element, made, ?_, ?_, localNames, made.scopeVariable?_eq, ?_,
    made.capturesNone_iff⟩
  · rw [AccessorPlan.scopeLine_of_build made.build, Scope.text_code]
    rfl
  · rw [AccessorPlan.returnLine_of_build made.build, AccessorPlan.text_returnCode]
  · rw [made.nodup_append_iff, localNames, List.nodup_cons]
    simp only [element.cardinality.nodup_localNames, and_true]

def pickedRow : Json :=
  let argument (name type : String) : Json := .object [("name", .string name), ("type", .string type)]
  .object [("elements", .array [.object [("name", .string "row"),
    ("selector", .object [("css", .string "%d"), ("args", .array [argument "n" "number"]),
      ("returnAll", .bool true)]),
    ("filter", .object [("apply", .string "getText"),
      ("matcher", .object [("type", .string "stringEquals"), ("args", .array [argument "text" "string"])])])]])]

theorem localNames_apart_iff_pickedRow :
    ∃ (compilation : Compilation) (accessor : Accessor) (here : Visited) (first second : Code),
      (compile pickedRow .standard).outcome = .ok compilation ∧
      compilation.accessors = [] ++ accessor :: [] ∧
      accessor.parameters.map Parameter.name = ["n", "text"] ∧
      accessor.scopeLine = first.text ∧ accessor.returnLine = second.text ∧
      here.visit.scope.name = "root" ∧ (first ++ second).CapturesNone (first.binders ++ second.binders) := by
  obtain ⟨compilation, compiled, view⟩ := exists_of_view
    (show (compile pickedRow .standard).outcome.toOption.map (fun compilation =>
        compilation.accessors.map fun accessor => accessor.parameters.map Parameter.name) =
      some [["n", "text"]] by decide +kernel)
  rcases List.map_eq_cons_iff.mp view with ⟨accessor, rest, split, names, nothing⟩
  cases List.map_eq_nil_iff.mp nothing
  have split : compilation.accessors = [] ++ accessor :: [] := split
  rcases localNames_apart_iff compiled split with
    ⟨earlier, here, element, made, scopeLine, returnLine, localNames, variableName, apart, captures⟩
  rcases made.scope_of_first with ⟨inShadow, scope⟩
  have root : here.visit.scope.name = "root" := by rw [scope]; rfl
  refine ⟨compilation, accessor, here, _, _, compiled, split, names, scopeLine, returnLine, root,
    captures.mpr (apart.mp ?_).2⟩
  rw [localNames, names, root, Cardinality.localNames]
  cases element.cardinality.predicate? with
  | none => exact show ["root", "n", "text"].Nodup by decide
  | some predicate => exact show ["root", "elm", "tmp", "n", "text"].Nodup by decide

def rootArgument : Json :=
  .object [("elements", .array [.object [("name", .string "foo"),
    ("selector", .object [("css", .string "%s"), ("args", .array [.object [
      ("name", .string "root"), ("type", .string "string")]])])]])]

theorem not_forall_localNames_apart :
    ¬ ∀ (value : Json) (registry : Registry) (compilation : Compilation) (before after : List Accessor)
        (accessor : Accessor) (earlier : List Visited) (here : Visited) (element : Element),
      (compile value registry).outcome = .ok compilation →
      compilation.accessors = before ++ accessor :: after →
      MadeFor value registry before accessor earlier here element →
      ((here.visit.scope.code registry.basicElement).binders ++
        (element.plan here.visit.scope registry).returnCode.binders ++
        accessor.parameters.map Parameter.name).Nodup := by
  intro all
  obtain ⟨compilation, compiled, view⟩ := exists_of_view
    (show (compile rootArgument .standard).outcome.toOption.map (fun compilation =>
        compilation.accessors.map fun accessor => accessor.parameters.map Parameter.name) =
      some [["root"]] by decide +kernel)
  rcases List.map_eq_cons_iff.mp view with ⟨accessor, rest, split, names, nothing⟩
  have split : compilation.accessors = [] ++ accessor :: rest := split
  rcases exists_madeFor compiled split with ⟨earlier, here, element, made⟩
  rcases made.scope_of_first with ⟨inShadow, scope⟩
  have apart := all _ _ _ _ _ _ _ _ _ compiled split made
  rw [names, List.nodup_append] at apart
  refine apart.2.2 "root" ?_ "root" List.mem_cons_self rfl
  rw [Scope.binders_code, scope]
  exact List.mem_cons_self

end Page

end PageObject
