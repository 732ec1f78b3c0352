import PageObject.Proofs.Accessor.Parameters
import PageObject.Proofs.Page.Origin
import PageObject.Proofs.Page.Signatures

namespace PageObject

namespace Visit

variable {value : Json} {registry : Registry} {visit : Visit} {element : Element} {accessor : Accessor}

/-- The arguments declared for a visit: around its node, and in it. -/
def declarations (value : Json) (visit : Visit) : List DeclaredArgument :=
  visit.outerArguments value ++ visit.ownArguments

/-- A visit whose scope has a parameter for every name declared around its node. -/
structure InheritsNames (value : Json) (visit : Visit) : Prop where
  named : ∀ parameter ∈ visit.scope.parameters, parameter.isLiteral = false
  names : visit.scope.parameters.map Parameter.name =
    firstOccurrences id ((visit.outerArguments value).map DeclaredArgument.name)

theorem names_of_inherits (inherits : visit.InheritsNames value)
    (found : Element.read visit.node visit.path.text registry = .ok element)
    (built : ((element.plan visit.scope registry).build registry).outcome = .ok accessor) :
    accessor.parameters.map Parameter.name =
      firstOccurrences id ((visit.declarations value).map DeclaredArgument.name) := by
  have own : (Parameter.named (element.selector.parameters ++ element.cardinality.parameters)).map
      Parameter.name = visit.ownArguments.map DeclaredArgument.name := by
    rcases Element.named_of_read found with ⟨selector, filter⟩
    rw [Parameter.named_append, selector, filter, ← List.map_append, List.map_map]
    rfl
  rw [AccessorPlan.names_of_build built, AccessorPlan.required, List.append_assoc, Parameter.named_append,
    List.map_append]
  simp only [Element.plan]
  rw [Parameter.named_eq_self inherits.named, inherits.names, own, firstOccurrences_firstOccurrences_append,
    ← List.map_append]
  rfl

theorem inheritsNames_of_mem_inner {here : Visited} {earlier : List Visited}
    (outcome : here.outcome = here.visit.outcomeBehind registry earlier)
    (located : value.nodeAt? here.visit.path = some here.visit.node) (nonempty : here.visit.path ≠ [])
    (inherits : here.visit.InheritsNames value) (nested : visit ∈ here.inner registry) :
    visit.InheritsNames value := by
  have outer := outerArguments_of_mem_inner located nonempty nested
  rcases exists_build_of_mem_inner outcome nested with ⟨accessor, element, found, compiled, scope⟩
  refine ⟨?_, ?_⟩
  · rw [scope]
    exact AccessorPlan.isLiteral_of_mem_parameters compiled
  · rw [outer, scope]
    exact names_of_inherits inherits found compiled

end Visit

namespace Page

variable {value : Json} {registry : Registry} {page : Page} {before : List Accessor} {accessor : Accessor}
  {earlier : List Visited} {here : Visited} {element : Element}

theorem inheritsNames_of_mem_preorder (found : (read value).outcome = .ok page) :
    ∀ here ∈ page.preorder registry, here.visit.InheritsNames value := by
  refine forall_visit_of_mem_preorder found (P := fun visit => visit.InheritsNames value) ?_ ?_
  · intro place node held
    exact ⟨fun parameter none => absurd none List.not_mem_nil, rfl⟩
  · intro earlier here outcome located nonempty inherits visit nested
    exact Visit.inheritsNames_of_mem_inner outcome located nonempty inherits nested

theorem MadeFor.names (made : MadeFor value registry before accessor earlier here element) :
    accessor.parameters.map Parameter.name =
      firstOccurrences id ((here.visit.declarations value).map DeclaredArgument.name) := by
  rcases made.visited with ⟨page, later, found, split⟩
  exact Visit.names_of_inherits (inheritsNames_of_mem_preorder found here (mem_of_split split)) made.readable
    made.build

theorem MadeFor.mem_names (made : MadeFor value registry before accessor earlier here element)
    {name : String} : name ∈ accessor.parameters.map Parameter.name ↔
      ∃ declared ∈ here.visit.declarations value, declared.name = name := by
  have member := @mem_map_firstOccurrences String String _ id
    ((here.visit.declarations value).map DeclaredArgument.name) name
  rw [List.map_id, List.map_id] at member
  rw [made.names, member, List.mem_map]

theorem MadeFor.forall_names_iff (made : MadeFor value registry before accessor earlier here element)
    {P : String → Prop} : (∀ parameter ∈ accessor.parameters, P parameter.name) ↔
      ∀ declared ∈ here.visit.declarations value, P declared.name := by
  constructor
  · intro holds declared member
    rcases List.mem_map.mp (made.mem_names.mpr ⟨declared, member, rfl⟩) with ⟨parameter, inside, same⟩
    rw [← same]
    exact holds parameter inside
  · intro holds parameter member
    rcases made.mem_names.mp (List.mem_map_of_mem member) with ⟨declared, inside, same⟩
    rw [← same]
    exact holds declared inside

theorem MadeFor.parameters {config : Config}
    (made : MadeFor value config.registry before accessor earlier here element) :
    (here.visit.declarations value).Pairwise DeclaredArgument.Agrees ∧ accessor.parameters =
      DeclaredArgument.parameters config.registry (here.visit.declarations value) := by
  rcases made.visited with ⟨page, later, found, split⟩
  rcases Visit.outcome_build_of_inherits (inherits_of_mem_preorder found here (mem_of_split split))
    made.readable with ⟨agree, built⟩ | ⟨first, clash, isFirst, failed⟩
  · rw [made.build] at built
    cases built
    exact ⟨agree, rfl⟩
  · rw [made.build] at failed
    cases failed

end Page

end PageObject
