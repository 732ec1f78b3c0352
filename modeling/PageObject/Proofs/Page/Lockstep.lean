import PageObject.Proofs.Element.Relocation
import PageObject.Proofs.Page.Ancestry
import PageObject.Proofs.Page.Shift

namespace PageObject

/-- What a node of a page is in the page without the node of a target path. -/
structure Visited.Survives (target : NodePath) (registry : Registry) (visited visited' : Visited) :
    Prop where
  visit : visited'.visit = visited.visit.without target
  name : visited'.visit.accessorName? registry = visited.visit.accessorName? registry
  outcome : visited.outcome.SameUpTo visited.visit.path.text visited'.visit.path.text visited'.outcome

namespace Visit

variable {visit : Visit} {target : NodePath} {registry : Registry} {earlier earlier' : List Visited}

/-- An element at another node and another path that differs at most in the nodes nested in it, all of
which have moved along. -/
def ReadsAs (visit visit' : Visit) (target : NodePath) (registry : Registry) (element : Element) : Prop :=
  ∃ nested, Element.read visit'.node visit'.path.text registry = .ok { element with nested } ∧
    ∀ scope shadowScope, ofNested nested scope shadowScope visit'.path =
      eraseFrom target (ofNested element.nested scope shadowScope visit.path)

theorem readsAs_without_of_isPrefix {element : Element} (other : visit.path ≠ target)
    (around : visit.path <+: target)
    (found : Element.read visit.node visit.path.text registry = .ok element) :
    visit.ReadsAs (visit.without target) target registry element := by
  rcases around with ⟨rest, rfl⟩
  cases rest with
  | nil => exact absurd (List.append_nil _).symm other
  | cons place rest =>
    have path : (visit.without (visit.path ++ place :: rest)).path = visit.path :=
      NodePath.without_self_append visit.path (List.cons_ne_nil place rest)
    have node : (visit.without (visit.path ++ place :: rest)).node =
        visit.node.mapNodes place.inShadow (Json.eraseIn place.index rest) := by
      rw [← Json.eraseNode_cons]
      simp [without]
    refine ⟨element.nested.map place.inShadow (Json.eraseIn place.index rest), ?_, ?_⟩
    · rw [node, path]
      exact Element.read_mapNodes (Json.eraseIn_nil ..) found
    · intro scope shadowScope
      rw [path]
      exact (eraseFrom_ofNested ..).symm

theorem readsAs_without_of_apart {element : Element} (apart : ¬ visit.path <+: target)
    (found : Element.read visit.node visit.path.text registry = .ok element) :
    visit.ReadsAs (visit.without target) target registry element := by
  have node : (visit.without target).node = visit.node := if_neg apart
  refine ⟨element.nested, ?_, ?_⟩
  · rw [node]
    exact Element.read_eq_ok_at found _
  · intro scope shadowScope
    exact (eraseFrom_ofNested_apart element.nested scope shadowScope apart).symm

theorem readsAs_without {element : Element} (other : visit.path ≠ target)
    (found : Element.read visit.node visit.path.text registry = .ok element) :
    visit.ReadsAs (visit.without target) target registry element := by
  by_cases around : visit.path <+: target
  · exact readsAs_without_of_isPrefix other around found
  · exact readsAs_without_of_apart around found

theorem node_without_of_error {fault : Fault}
    (around : visit.path <+: target →
      ∃ element, Element.read visit.node visit.path.text registry = .ok element)
    (found : Element.read visit.node visit.path.text registry = .error fault) :
    (visit.without target).node = visit.node := by
  refine if_neg fun isPrefix => ?_
  rcases around isPrefix with ⟨element, readable⟩
  rw [found] at readable
  cases readable

theorem accessorName?_without (other : visit.path ≠ target)
    (around : visit.path <+: target →
      ∃ element, Element.read visit.node visit.path.text registry = .ok element) :
    (visit.without target).accessorName? registry = visit.accessorName? registry := by
  unfold accessorName?
  cases found : Element.read visit.node visit.path.text registry with
  | ok element =>
    rcases readsAs_without other found with ⟨nested, found', below⟩
    rw [found']
    rfl
  | error fault =>
    have node := node_without_of_error around found
    rcases Element.read_eq_error_at found (visit.without target).path.text with ⟨fault', found', same⟩
    rw [node, found']

section Step

variable (other : visit.path ≠ target)
  (agree : ∀ name, visit.accessorName? registry = some name →
    (name ∈ namesBehind registry earlier' ↔ name ∈ namesBehind registry earlier))

include other agree

theorem outcomeBehind_without_of_read {element : Element}
    (found : Element.read visit.node visit.path.text registry = .ok element) :
    (visit.without target).outcomeBehind registry earlier' = visit.outcomeBehind registry earlier := by
  rcases readsAs_without other found with ⟨nested, found', below⟩
  have known : element.accessorName ∈ namesBehind registry earlier' ↔
      element.accessorName ∈ namesBehind registry earlier :=
    agree _ (by simp [accessorName?, found])
  rw [outcomeBehind_of_read found, outcomeBehind_of_read found']
  exact if_congr known rfl rfl

/-- One step: a node that stays has the same outcome, and the same nodes below it but for those that
are gone. -/
theorem survives_without
    (around : visit.path <+: target →
      ∃ element, Element.read visit.node visit.path.text registry = .ok element) :
    (visit.visitedBehind registry earlier).Survives target registry
        ((visit.without target).visitedBehind registry earlier') ∧
      ((visit.without target).visitedBehind registry earlier').inner registry =
        eraseFrom target ((visit.visitedBehind registry earlier).inner registry) := by
  have name := accessorName?_without other around
  cases found : Element.read visit.node visit.path.text registry with
  | ok element =>
    have same := outcomeBehind_without_of_read other agree found
    refine ⟨⟨rfl, name, ?_⟩, ?_⟩
    · simp only [visitedBehind, same]
      exact .refl _
    · rcases readsAs_without other found with ⟨nested, found', below⟩
      simp only [Visited.inner, visitedBehind, same, found, found']
      cases visit.outcomeBehind registry earlier with
      | built accessor => exact below _ _
      | skipped diagnostic => rfl
  | error fault =>
    have node := node_without_of_error around found
    rcases Element.read_eq_error_at found (visit.without target).path.text with ⟨fault', found', same⟩
    refine ⟨⟨rfl, name, ?_⟩, ?_⟩
    · simp only [visitedBehind, outcomeBehind, label, node, found, found']
      exact .skipped ⟨Element.label_at .., same⟩
    · simp only [Visited.inner, visitedBehind, outcomeBehind, node, found, found']
      rfl

end Step

def AgreeBut (reserved : Option String) (registry : Registry) (earlier earlier' : List Visited) : Prop :=
  ∀ name, reserved ≠ some name →
    (name ∈ namesBehind registry earlier' ↔ name ∈ namesBehind registry earlier)

end Visit

/-- Nodes out of which that of a target path can be taken: it has nothing below it, it takes no name
but the reserved one, none of the others asks for that, and those around it can be read. -/
structure Removable (target : NodePath) (registry : Registry) (reserved : Option String)
    (earlier visited : List Visited) : Prop where
  free : ∀ other ∈ visited, other.visit.path ≠ target →
    ∀ name, other.visit.accessorName? registry = some name → reserved ≠ some name
  barren : ∀ here ∈ visited, here.visit.path = target → here.inner registry = []
  taken : ∀ first here second, visited = first ++ here :: second → here.visit.path = target →
    ∀ name, here.visit.accessorName? registry = some name →
      reserved = some name ∨ name ∈ Visit.namesBehind registry (earlier ++ first)
  around : ∀ other ∈ visited, other.visit.path <+: target → other.visit.path ≠ target →
    ∃ element, Element.read other.visit.node other.visit.path.text registry = .ok element

section Traversals

variable {target : NodePath} {registry : Registry} {reserved : Option String}
  {earlier earlier' before after : List Visited} {visits : List Visit}

theorem Removable.tail {here : Visited}
    (removable : Removable target registry reserved earlier (here :: before)) :
    Removable target registry reserved (earlier ++ [here]) before where
  free := fun other member => removable.free other (List.mem_cons_of_mem _ member)
  barren := fun other member => removable.barren other (List.mem_cons_of_mem _ member)
  taken := by
    intro first other second split
    have h := removable.taken (here :: first) other second (by rw [split]; rfl)
    simpa using h
  around := fun other member => removable.around other (List.mem_cons_of_mem _ member)

theorem Visit.AgreeBut.skip {here : Visited} (agree : AgreeBut reserved registry earlier earlier')
    (taken : ∀ name, here.visit.accessorName? registry = some name →
      reserved = some name ∨ name ∈ namesBehind registry earlier) :
    AgreeBut reserved registry (earlier ++ [here]) earlier' := by
  intro name outside
  rw [agree name outside, namesBehind_append, List.mem_append]
  constructor
  · exact .inl
  · rintro (known | asked)
    · exact known
    · have asked : here.visit.accessorName? registry = some name := by simpa using asked
      exact (taken name asked).resolve_left outside

theorem Visit.AgreeBut.snoc {here here' : Visited} (agree : AgreeBut reserved registry earlier earlier')
    (same : here'.visit.accessorName? registry = here.visit.accessorName? registry) :
    AgreeBut reserved registry (earlier ++ [here]) (earlier' ++ [here']) := by
  intro name outside
  rw [namesBehind_append, namesBehind_append, List.mem_append, List.mem_append, agree name outside]
  simp [same]

/-- The two traversals make their steps together, except that only one of them comes to the node of
the target path. -/
theorem exists_lockstep (h : preorder registry earlier visits = before ++ after)
    (agree : Visit.AgreeBut reserved registry earlier earlier')
    (removable : Removable target registry reserved earlier before) :
    ∃ pending before', after = preorder registry (earlier ++ before) pending ∧
      preorder registry earlier' (Visit.eraseFrom target visits) =
        before' ++ preorder registry (earlier' ++ before') (Visit.eraseFrom target pending) ∧
      List.Forall₂ (Visited.Survives target registry)
        (before.filter fun visited => visited.visit.path ≠ target) before' := by
  induction before generalizing earlier earlier' visits with
  | nil => exact ⟨visits, [], by simpa using h.symm, by simp, .nil⟩
  | cons here before ih =>
    rcases exists_of_preorder_eq_cons h with ⟨visit, rest, rfl, hHere, others⟩
    have isVisit : here.visit = visit := by rw [hHere]; rfl
    by_cases same : visit.path = target
    · -- Only the traversal of the whole page steps, and nothing follows from the step.
      have gone : here.visit.path = target := isVisit ▸ same
      have barren := removable.barren here List.mem_cons_self gone
      have taken := removable.taken [] here before rfl gone
      rw [List.append_nil] at taken
      rw [barren, List.nil_append] at others
      obtain ⟨pending, before', behind, elsewhere, survive⟩ :=
        ih others.symm (agree.skip taken) removable.tail
      refine ⟨pending, before', by simpa using behind, ?_, ?_⟩
      · rw [Visit.eraseFrom_cons_of_eq same]
        exact elsewhere
      · simpa [gone] using survive
    · have stays : here.visit.path ≠ target := isVisit ▸ same
      have around := removable.around here List.mem_cons_self
      rw [isVisit] at around
      have known : ∀ name, visit.accessorName? registry = some name →
          (name ∈ Visit.namesBehind registry earlier' ↔ name ∈ Visit.namesBehind registry earlier) := by
        intro name asked
        exact agree name (removable.free here List.mem_cons_self stays name (isVisit ▸ asked))
      rcases Visit.survives_without same known fun isPrefix => around isPrefix same with ⟨survives, below⟩
      rw [← hHere] at survives below
      obtain ⟨pending, before', behind, elsewhere, survive⟩ :=
        ih others.symm (agree.snoc survives.name) removable.tail
      refine ⟨pending, (visit.without target).visitedBehind registry earlier' :: before',
        by simpa using behind, ?_, ?_⟩
      · rw [Visit.eraseFrom_cons_of_ne same, preorder_cons, below, ← Visit.eraseFrom_append, elsewhere]
        simp
      · rw [List.filter_cons_of_pos (by simpa using stays)]
        exact .cons survives survive

end Traversals

end PageObject
