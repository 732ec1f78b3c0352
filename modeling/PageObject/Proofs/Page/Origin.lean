import PageObject.Proofs.Element.Arguments
import PageObject.Proofs.Page.AccessorNames

namespace PageObject.Page

/-- Behind the accessors `before` a page has an accessor that it made for the node `here`. The node
declares `element`, and the traversal came to `earlier` before it. -/
structure MadeFor (value : Json) (registry : Registry) (before : List Accessor) (accessor : Accessor)
    (earlier : List Visited) (here : Visited) (element : Element) : Prop where
  visited : ∃ page later, (read value).outcome = .ok page ∧
    page.preorder registry = earlier ++ here :: later
  before : earlier.filterMap Visited.accessor? = before
  located : value.nodeAt? here.visit.path = some here.visit.node
  readable : Element.read here.visit.node here.visit.path.text registry = .ok element
  outcome : here.outcome = .built accessor

variable {value : Json} {registry : Registry} {page : Page} {compilation : Compilation}
  {before after : List Accessor} {accessor : Accessor} {earlier later : List Visited} {here : Visited}
  {element : Element}

theorem exists_madeFor_of_built (found : (read value).outcome = .ok page)
    (split : page.preorder registry = earlier ++ here :: later) (built : here.outcome = .built accessor) :
    ∃ element, MadeFor value registry (earlier.filterMap Visited.accessor?) accessor earlier here element := by
  have member := mem_of_split split
  rcases read_of_built member built with ⟨element, readable, compiled⟩
  exact ⟨element, ⟨page, later, found, split⟩, rfl, nodeAt?_of_mem_preorder found here member, readable, built⟩

theorem exists_madeFor (h : (compile value registry).outcome = .ok compilation)
    (split : compilation.accessors = before ++ accessor :: after) :
    ∃ earlier here element, MadeFor value registry before accessor earlier here element := by
  rcases accessors_of_outcome_compile h with ⟨page, found, same⟩
  rw [same] at split
  rcases List.filterMap_eq_append_iff.mp split with ⟨first, second, visited, rfl, rest⟩
  rcases List.filterMap_eq_cons_iff.mp rest with ⟨skipped, here, later, rfl, none, built, behind⟩
  have visited : page.preorder registry = (first ++ skipped) ++ here :: later := by
    rw [visited, List.append_assoc]
  have nothing : skipped.filterMap Visited.accessor? = [] := List.filterMap_eq_nil_iff.mpr none
  rcases exists_madeFor_of_built found visited (Visited.accessor?_eq_some_iff.mp built) with ⟨element, made⟩
  rw [List.filterMap_append, nothing, List.append_nil] at made
  exact ⟨first ++ skipped, here, element, made⟩

namespace MadeFor

theorem build (made : MadeFor value registry before accessor earlier here element) :
    ((element.plan here.visit.scope registry).build registry).outcome = .ok accessor := by
  rcases made.visited with ⟨page, later, found, split⟩
  rcases read_of_built (mem_of_split split) made.outcome with ⟨again, readable, compiled⟩
  rw [made.readable] at readable
  cases readable
  exact compiled

theorem count (made : MadeFor value registry before accessor earlier here element) :
    ∀ predicate, (element.plan here.visit.scope registry).cardinality.predicate? = some predicate →
      predicate.matcherParameters.length = predicate.matcher.arity :=
  fun _ filtered => Element.count_of_read made.readable filtered

theorem container (made : MadeFor value registry before accessor earlier here element) :
    (∃ place, here.visit.path = [place] ∧ here.visit.scope = Scope.root place.inShadow) ∨
      ∃ outerBefore called outerEarlier parent outer place,
        MadeFor value registry outerBefore called outerEarlier parent outer ∧ called ∈ before ∧
          parent.visit.node.child? place = some here.visit.node ∧
          here.visit.path = parent.visit.path ++ [place] ∧
          here.visit.scope = called.scope outer.name outer.isNullable place.inShadow := by
  rcases made.visited with ⟨page, later, found, split⟩
  rcases origin_of_preorder_eq found split with root |
    ⟨parent, member, called, outer, place, built, readable, held, path, scope⟩
  · exact .inl root
  · rcases List.append_of_mem member with ⟨first, second, rfl⟩
    have around : page.preorder registry = first ++ parent :: (second ++ here :: later) := by
      rw [split, List.append_assoc, List.cons_append]
    rcases exists_madeFor_of_built found around built with ⟨again, outerMade⟩
    cases readable.symm.trans outerMade.readable
    refine .inr ⟨_, called, first, parent, outer, place, outerMade, ?_, held, path, scope⟩
    rw [← made.before]
    exact List.mem_filterMap.mpr ⟨parent, member, Visited.accessor?_eq_some_iff.mpr built⟩

theorem scope_of_first (made : MadeFor value registry [] accessor earlier here element) :
    ∃ inShadow, here.visit.scope = Scope.root inShadow := by
  rcases made.container with ⟨place, path, scope⟩ |
    ⟨outerBefore, called, outerEarlier, parent, outer, place, outerMade, inside, held, path, scope⟩
  · exact ⟨place.inShadow, scope⟩
  · cases inside

end MadeFor

end PageObject.Page
