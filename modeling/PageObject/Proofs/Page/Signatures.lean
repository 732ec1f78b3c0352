import PageObject.Proofs.Page.Traversal
import PageObject.Proofs.Signature.Flattening

namespace PageObject

open DeclaredArgument (FirstClash)

theorem Json.nodesAlong_dropLast {value node : Json} {path : NodePath} (nonempty : path ≠ [])
    (held : value.nodeAt? path = some node) :
    value.nodesAlong path = value.nodesAlong path.dropLast ++ [node] := by
  rcases (List.eq_nil_or_concat path).resolve_left nonempty with ⟨stem, place, rfl⟩
  rw [List.concat_eq_append] at held ⊢
  rw [nodeAt?_snoc] at held
  rcases Option.bind_eq_some_iff.mp held with ⟨parent, around, child⟩
  rw [List.dropLast_concat, nodesAlong_append around, nodesAlong, child]
  rfl

namespace Visit

variable {value : Json} {config : Config} {visit : Visit} {element : Element}

/-- The arguments that the selectors of the nodes around a node declare, from the outside in. -/
def outerArguments (value : Json) (visit : Visit) : List DeclaredArgument :=
  (value.nodesAlong visit.path.dropLast).flatMap Json.selectorArguments

def ownArguments (visit : Visit) : List DeclaredArgument :=
  visit.node.selectorArguments ++ visit.node.filterArguments

/-- A visit whose scope has merged the arguments of the nodes around it. -/
structure Inherits (value : Json) (config : Config) (visit : Visit) : Prop where
  agree : (visit.outerArguments value).Pairwise DeclaredArgument.Agrees
  parameters : visit.scope.parameters =
    DeclaredArgument.parameters config.registry (visit.outerArguments value)

theorem outcome_build_of_inherits (inherits : visit.Inherits value config)
    (found : Element.read visit.node visit.path.text config.registry = .ok element) :
    ((visit.outerArguments value ++ visit.ownArguments).Pairwise DeclaredArgument.Agrees ∧
        ((element.plan visit.scope config.registry).build config.registry).outcome =
          .ok ((element.plan visit.scope config.registry).accessor config.registry
            (DeclaredArgument.parameters config.registry
              (visit.outerArguments value ++ visit.ownArguments)))) ∨
      ∃ first clash, FirstClash (visit.outerArguments value ++ visit.ownArguments) first clash ∧
        ((element.plan visit.scope config.registry).build config.registry).outcome =
          .error (.parameterConflict ("method '" ++ element.accessorName ++ "'") clash.name
            (config.registry.typeOf first.type).displayName
            (config.registry.typeOf clash.type).displayName) := by
  rcases Element.named_of_read found with ⟨selector, filter⟩
  apply AccessorPlan.outcome_build_of_declared inherits.parameters inherits.agree
  rw [ownArguments, List.map_append, ← selector, ← filter, ← Parameter.named_append]
  rfl

theorem filterArguments_of_mem_inner {here : Visited} {registry : Registry}
    (nested : visit ∈ here.inner registry) : here.visit.node.filterArguments = [] := by
  rcases Visited.mem_inner.mp nested with ⟨accessor, element, place, node, built, found, held, same⟩
  rw [Json.child?, ← Element.nodes_of_read found] at held
  exact Element.filterArguments_of_nested found (Nested.isEmpty_of_getElem? held)

theorem outerArguments_of_mem_inner {here : Visited} {registry : Registry}
    (located : value.nodeAt? here.visit.path = some here.visit.node) (nonempty : here.visit.path ≠ [])
    (nested : visit ∈ here.inner registry) :
    visit.outerArguments value = here.visit.outerArguments value ++ here.visit.ownArguments := by
  -- The parent has no filter, so all that it declares is in its selector.
  rw [ownArguments, filterArguments_of_mem_inner nested, List.append_nil]
  rcases Visited.mem_inner.mp nested with ⟨accessor, element, place, node, built, found, held, rfl⟩
  rw [outerArguments, List.dropLast_concat, Json.nodesAlong_dropLast nonempty located, List.flatMap_append]
  rw [outerArguments]
  simp

theorem exists_build_of_mem_inner {here : Visited} {earlier : List Visited} {registry : Registry}
    (outcome : here.outcome = here.visit.outcomeBehind registry earlier)
    (nested : visit ∈ here.inner registry) :
    ∃ accessor element, Element.read here.visit.node here.visit.path.text registry = .ok element ∧
      ((element.plan here.visit.scope registry).build registry).outcome = .ok accessor ∧
      visit.scope.parameters = accessor.parameters := by
  rcases Visited.mem_inner.mp nested with ⟨accessor, element, place, node, built, found, held, rfl⟩
  rw [outcome] at built
  rcases read_of_outcomeBehind built with ⟨again, foundAgain, compiled⟩
  cases found.symm.trans foundAgain
  exact ⟨accessor, element, found, compiled, rfl⟩

theorem inherits_of_mem_inner {here : Visited} {earlier : List Visited}
    (outcome : here.outcome = here.visit.outcomeBehind config.registry earlier)
    (located : value.nodeAt? here.visit.path = some here.visit.node) (nonempty : here.visit.path ≠ [])
    (inherits : here.visit.Inherits value config) :
    ∀ visit ∈ here.inner config.registry, visit.Inherits value config := by
  intro visit nested
  have outer := outerArguments_of_mem_inner located nonempty nested
  rcases exists_build_of_mem_inner outcome nested with ⟨accessor, element, found, compiled, scope⟩
  rcases outcome_build_of_inherits inherits found with ⟨agree, built⟩ | ⟨first, clash, isFirst, failed⟩
  · rw [compiled] at built
    cases built
    exact ⟨by rw [outer]; exact agree, by rw [outer, scope]; rfl⟩
  · rw [compiled] at failed
    cases failed

end Visit

namespace Page

variable {value : Json} {config : Config} {page : Page}

theorem inherits_of_mem_preorder (found : (read value).outcome = .ok page) :
    ∀ here ∈ page.preorder config.registry, here.visit.Inherits value config := by
  refine forall_visit_of_mem_preorder found (P := fun visit => visit.Inherits value config) ?_ ?_
  · intro place node held
    exact ⟨.nil, rfl⟩
  · intro earlier here outcome located nonempty inherits
    exact Visit.inherits_of_mem_inner outcome located nonempty inherits

theorem signature_of_declared {compilation : Compilation} {earlier later : List Visited} {here : Visited}
    {element : Element} (h : (compile value config.registry).outcome = .ok compilation)
    (found : (read value).outcome = .ok page)
    (split : page.preorder config.registry = earlier ++ here :: later)
    (readable : Element.read here.visit.node here.visit.path.text config.registry = .ok element)
    (free : element.accessorName ∉ Visit.namesBehind config.registry earlier) :
    let declared := here.visit.outerArguments value ++ here.visit.ownArguments
    compilation = .ofOutcomes page.rootLocator ((earlier ++ here :: later).map Visited.outcome) ∧
      ((∃ accessor, here.outcome = .built accessor) ↔ declared.Pairwise DeclaredArgument.Agrees) ∧
      (∀ accessor, here.outcome = .built accessor → accessor.name = element.accessorName ∧
        accessor.parameters = DeclaredArgument.parameters config.registry declared) ∧
      (¬ declared.Pairwise DeclaredArgument.Agrees → ∃ first clash diagnostic,
        FirstClash declared first clash ∧ here.outcome = .skipped diagnostic ∧
          diagnostic.fault.code = 1006 ∧
          diagnostic.fault.args = ["method '" ++ element.accessorName ++ "'", clash.name,
            (config.registry.typeOf first.type).displayName,
            (config.registry.typeOf clash.type).displayName]) := by
  intro declared
  have member := mem_of_split split
  have outcome := outcome_of_split split
  rw [Visit.outcomeBehind_of_read readable, List.nil_append, if_neg free] at outcome
  refine ⟨?_, ?_⟩
  · rcases compilation_of_outcome_compile h with ⟨same, again, rfl⟩
    rw [found] at again
    cases again
    rw [split]
  · rcases Visit.outcome_build_of_inherits (inherits_of_mem_preorder found here member) readable with
      ⟨agree, built⟩ | ⟨first, clash, isFirst, failed⟩
    · rw [built] at outcome
      refine ⟨⟨fun _ => agree, fun _ => ⟨_, outcome⟩⟩, ?_, fun disagree => absurd agree disagree⟩
      intro accessor same
      rw [outcome] at same
      cases same
      exact ⟨rfl, rfl⟩
    · rw [failed] at outcome
      refine ⟨⟨?_, fun agree => absurd agree isFirst.not_pairwise⟩, ?_, ?_⟩
      · intro h
        rcases h with ⟨accessor, built⟩
        rw [outcome] at built
        cases built
      · intro accessor built
        rw [outcome] at built
        cases built
      · intro disagree
        exact ⟨first, clash, _, isFirst, outcome, rfl, rfl⟩

def boxed : Json :=
  let selector (css type : String) : Json := .object [("css", .string css),
    ("args", .array [.object [("name", .string "x"), ("type", .string type)]])]
  .object [("elements", .array [.object [("name", .string "box"), ("selector", selector "%s" "string"),
    ("elements", .array [.object [("name", .string "row"), ("selector", selector "%d" "number")]])]])]

theorem signature_of_declared_boxed :
    ∃ (compilation : Compilation) (page : Page) (box row : Visited) (diagnostic : Diagnostic),
      (compile boxed ({} : Config).registry).outcome = .ok compilation ∧
      page.preorder ({} : Config).registry = [box] ++ row :: [] ∧
      row.visit.outerArguments boxed ++ row.visit.ownArguments = [⟨"x", .string⟩, ⟨"x", .number⟩] ∧
      row.outcome = .skipped diagnostic ∧ diagnostic.fault.code = 1006 ∧
      diagnostic.fault.args = ["method 'getRowElement'", "x", "String", "Integer"] := by
  obtain ⟨page, found, h⟩ := exists_of_summary
    (show summary (fun here => (here.visit.accessorName? ({} : Config).registry,
        here.visit.outerArguments boxed ++ here.visit.ownArguments)) boxed ({} : Config).registry =
      some [(some "getBoxElement", [⟨"x", .string⟩]),
        (some "getRowElement", [⟨"x", .string⟩, ⟨"x", .number⟩])] by decide +kernel)
  rcases List.map_eq_cons_iff.mp h with ⟨box, rest, split, first, h⟩
  rcases List.map_eq_cons_iff.mp h with ⟨row, rest, rfl, second, h⟩
  cases List.map_eq_nil_iff.mp h
  rcases Prod.mk.inj first with ⟨boxName, boxDeclares⟩
  rcases Prod.mk.inj second with ⟨rowName, rowDeclares⟩
  rcases Visit.accessorName?_eq_some_iff.mp rowName with ⟨element, readable, named⟩
  obtain ⟨compilation, compiled, names, codes⟩ := exists_of_outline
    (show outline boxed ({} : Config).registry = some (["getBoxElement"], [1006]) by decide +kernel)
  have split : page.preorder ({} : Config).registry = [box] ++ row :: [] := split
  have free : element.accessorName ∉ Visit.namesBehind ({} : Config).registry [box] := by
    simp only [named, Visit.namesBehind, List.filterMap_cons, boxName]
    decide
  rcases signature_of_declared compiled found split readable free with ⟨same, built, parameters, skipped⟩
  rw [rowDeclares] at skipped
  rcases skipped (by decide) with ⟨first, clash, diagnostic, isFirst, outcome, code, args⟩
  refine ⟨compilation, page, box, row, diagnostic, compiled, split, rowDeclares, outcome, code, ?_⟩
  rw [args, named]
  rcases isFirst with ⟨before, after, declared, agree, known, differ⟩
  rcases before with _ | ⟨earlier, _ | ⟨second, before⟩⟩
  · cases known
  · cases declared
    cases known
    rfl
  · have length := congrArg List.length declared
    simp at length

end Page

end PageObject
