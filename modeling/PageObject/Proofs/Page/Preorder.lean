import PageObject.Proofs.Fault
import PageObject.Proofs.Page.Tree

namespace PageObject

structure Visited where
  visit : Visit
  outcome : Outcome

def Visited.accessor? (visited : Visited) : Option Accessor := visited.outcome.accessor?

def Visited.diagnostic? (visited : Visited) : Option Diagnostic := visited.outcome.diagnostic?

theorem Visited.accessor?_eq_some_iff {visited : Visited} {accessor : Accessor} :
    visited.accessor? = some accessor ↔ visited.outcome = .built accessor := by
  unfold accessor?
  cases visited.outcome <;> simp [Outcome.accessor?]

theorem Visited.diagnostic?_eq_some_iff {visited : Visited} {diagnostic : Diagnostic} :
    visited.diagnostic? = some diagnostic ↔ visited.outcome = .skipped diagnostic := by
  unfold diagnostic?
  cases visited.outcome <;> simp [Outcome.diagnostic?]

namespace Visit

def label (visit : Visit) : String := Element.label visit.node visit.path.text

def accessorName? (visit : Visit) (registry : Registry) : Option String :=
  match Element.read visit.node visit.path.text registry with
  | .ok element => some element.accessorName
  | .error _ => none

/-- The names in use behind some nodes: the root's getter, and those that the nodes ask for. -/
def namesBehind (registry : Registry) (earlier : List Visited) : List String :=
  Scope.rootGetter :: earlier.filterMap fun visited => visited.visit.accessorName? registry

def outcomeBehind (visit : Visit) (registry : Registry) (earlier : List Visited) : Outcome :=
  match Element.read visit.node visit.path.text registry with
  | .error fault => .skipped ⟨visit.label, fault⟩
  | .ok element =>
    if element.accessorName ∈ namesBehind registry earlier then
      .skipped ⟨visit.label, .duplicateAccessor element.name element.accessorName⟩
    else
      match (Element.compile visit.node visit.scope registry).outcome with
      | .error fault => .skipped ⟨visit.label, fault⟩
      | .ok accessor => .built accessor

def visitedBehind (visit : Visit) (registry : Registry) (earlier : List Visited) : Visited :=
  ⟨visit, visit.outcomeBehind registry earlier⟩

end Visit

namespace Visit

variable {visit : Visit} {registry : Registry} {earlier : List Visited}

theorem accessorName?_eq_some_iff {name : String} :
    visit.accessorName? registry = some name ↔
      ∃ element, Element.read visit.node visit.path.text registry = .ok element ∧
        element.accessorName = name := by
  unfold accessorName?
  cases Element.read visit.node visit.path.text registry <;> simp

theorem namesBehind_append (earlier later : List Visited) :
    namesBehind registry (earlier ++ later) =
      namesBehind registry earlier ++ later.filterMap fun visited => visited.visit.accessorName? registry := by
  simp [namesBehind]

theorem mem_namesBehind_of_asked {other : Visited} {name : String} (member : other ∈ earlier)
    (asked : other.visit.accessorName? registry = some name) : name ∈ namesBehind registry earlier :=
  List.mem_cons_of_mem _ (List.mem_filterMap.mpr ⟨other, member, asked⟩)

theorem outcomeBehind_eq_built_iff {accessor : Accessor} :
    visit.outcomeBehind registry earlier = .built accessor ↔
      (Element.compile visit.node visit.scope registry).outcome = .ok accessor ∧
        accessor.name ∉ namesBehind registry earlier := by
  unfold outcomeBehind
  constructor
  · intro h
    split at h
    · cases h
    · rename_i element found
      split at h
      · cases h
      · rename_i free
        split at h
        · cases h
        · rename_i compiled
          cases h
          rw [Element.outcome_compile_of_read found] at compiled
          exact ⟨by rwa [Element.outcome_compile_of_read found], by rwa [Element.name_of_build compiled]⟩
  · intro h
    rcases h with ⟨compiled, free⟩
    rcases Element.read_of_compile compiled visit.path.text with ⟨element, found, built⟩
    rw [Element.name_of_build built] at free
    simp only [found, if_neg free, compiled]

theorem element_of_outcomeBehind {diagnostic : Diagnostic}
    (h : visit.outcomeBehind registry earlier = .skipped diagnostic) :
    diagnostic.element = visit.label := by
  unfold outcomeBehind at h
  split at h
  · cases h
    rfl
  · split at h
    · cases h
      rfl
    · split at h <;> cases h
      rfl

theorem outcomeBehind_of_read {element : Element}
    (found : Element.read visit.node visit.path.text registry = .ok element) :
    visit.outcomeBehind registry earlier =
      if element.accessorName ∈ namesBehind registry earlier then
        .skipped ⟨element.name, .duplicateAccessor element.name element.accessorName⟩
      else
        match ((element.plan visit.scope registry).build registry).outcome with
        | .error fault => .skipped ⟨element.name, fault⟩
        | .ok accessor => .built accessor := by
  have named : visit.label = element.name := Element.label_of_read found _
  simp only [outcomeBehind, found, Element.outcome_compile_of_read found, named]

theorem read_of_outcomeBehind {accessor : Accessor}
    (h : visit.outcomeBehind registry earlier = .built accessor) :
    ∃ element, Element.read visit.node visit.path.text registry = .ok element ∧
      ((element.plan visit.scope registry).build registry).outcome = .ok accessor :=
  Element.read_of_compile (outcomeBehind_eq_built_iff.mp h).1 _

theorem name_of_outcomeBehind {accessor : Accessor}
    (h : visit.outcomeBehind registry earlier = .built accessor) :
    accessor.name ∉ namesBehind registry earlier ∧
      visit.accessorName? registry = some accessor.name := by
  refine ⟨(outcomeBehind_eq_built_iff.mp h).2, ?_⟩
  rcases read_of_outcomeBehind h with ⟨element, found, built⟩
  simp [accessorName?, found, Element.name_of_build built]

end Visit

/-- The visits to the nodes nested in a node. There are none unless it got its accessor. -/
def Visited.inner (visited : Visited) (registry : Registry) : List Visit :=
  match visited.outcome, Element.read visited.visit.node visited.visit.path.text registry with
  | .built accessor, .ok element => Visit.innerVisits element accessor visited.visit.path
  | _, _ => []

theorem Visited.totalSize_inner_lt (visited : Visited) (registry : Registry) :
    Visit.totalSize (visited.inner registry) < sizeOf visited.visit.node := by
  unfold inner
  split
  · rename_i element found
    rw [Visit.innerVisits, Visit.totalSize_ofNested]
    exact Element.totalSize_nested_lt found
  · exact visited.visit.node.sizeOf_pos

theorem Visit.totalSize_cons (visit : Visit) (rest : List Visit) :
    totalSize (visit :: rest) = sizeOf visit.node + totalSize rest := rfl

/-- The nodes that a traversal comes to from given visits: each node, then those below it, then
those of the visits behind. -/
def preorder (registry : Registry) (earlier : List Visited) : List Visit → List Visited
  | [] => []
  | visit :: rest =>
    let here := visit.visitedBehind registry earlier
    let below := preorder registry (earlier ++ [here]) (here.inner registry)
    here :: below ++ preorder registry (earlier ++ here :: below) rest
termination_by visits => Visit.totalSize visits
decreasing_by
  · have := (visit.visitedBehind registry earlier).totalSize_inner_lt registry
    rw [Visit.totalSize_cons]
    simp only [Visit.visitedBehind] at this ⊢
    omega
  · have := (visit.visitedBehind registry earlier).totalSize_inner_lt registry
    rw [Visit.totalSize_cons]
    simp only [Visit.visitedBehind] at this
    omega

def Page.preorder (page : Page) (registry : Registry) : List Visited :=
  PageObject.preorder registry [] page.visits

section Traversal

variable {registry : Registry} {earlier : List Visited}

@[simp] theorem preorder_nil : preorder registry earlier [] = [] := by
  rw [preorder]

theorem preorder_append (visits rest : List Visit) :
    preorder registry earlier (visits ++ rest) =
      preorder registry earlier visits ++
        preorder registry (earlier ++ preorder registry earlier visits) rest := by
  induction visits generalizing earlier with
  | nil => simp
  | cons visit visits ih =>
    rw [List.cons_append, preorder, preorder]
    simp only [ih, List.append_assoc, List.cons_append]

theorem preorder_cons (visit : Visit) (rest : List Visit) :
    preorder registry earlier (visit :: rest) =
      visit.visitedBehind registry earlier ::
        preorder registry (earlier ++ [visit.visitedBehind registry earlier])
          ((visit.visitedBehind registry earlier).inner registry ++ rest) := by
  rw [preorder, preorder_append, List.cons_append, List.append_assoc, List.singleton_append]

end Traversal

namespace Visit

variable {visit : Visit} {registry : Registry} {earlier : List Visited} {taken : List String}

def InUse (registry : Registry) (earlier : List Visited) (taken : List String) : Prop :=
  ∀ name, name ∈ taken ↔ name ∈ namesBehind registry earlier

theorem outcome_run (inUse : InUse registry earlier taken) :
    (visit.run taken registry).value.outcome = visit.outcomeBehind registry earlier := by
  unfold run outcomeBehind
  cases found : Element.read visit.node visit.path.text registry with
  | error fault => rfl
  | ok element =>
    have named : visit.label = element.name := Element.label_of_read found _
    simp only [compile, Element.outcome_compile_of_read found, named]
    by_cases known : element.accessorName ∈ taken
    · rw [if_pos known, if_pos ((inUse _).mp known)]
      rfl
    · rw [if_neg known, if_neg fun h => known ((inUse _).mpr h), Logged.value_bind]
      cases built : ((element.plan visit.scope registry).build registry).run.value <;>
        simp only [Attempt.outcome, built] <;> rfl

theorem inner_run (inUse : InUse registry earlier taken) :
    (visit.run taken registry).value.inner = (visit.visitedBehind registry earlier).inner registry := by
  unfold Visited.inner visitedBehind
  simp only [← outcome_run inUse]
  unfold run
  cases found : Element.read visit.node visit.path.text registry with
  | error fault => rfl
  | ok element =>
    simp only [compile]
    split
    · rfl
    · rw [Logged.value_bind]
      cases ((element.plan visit.scope registry).build registry).run.value <;> rfl

theorem inUse_run (inUse : InUse registry earlier taken) :
    InUse registry (earlier ++ [visit.visitedBehind registry earlier])
      ((visit.run taken registry).value.reserved ++ taken) := by
  intro name
  have behind : name ∈ namesBehind registry (earlier ++ [visit.visitedBehind registry earlier]) ↔
      name ∈ taken ∨ visit.accessorName? registry = some name := by
    rw [inUse name]
    simp [namesBehind, visitedBehind, or_assoc]
  rw [behind, List.mem_append]
  unfold run accessorName?
  cases found : Element.read visit.node visit.path.text registry with
  | error fault => simp [skip]
  | ok element =>
    simp only [compile]
    split
    · rename_i known
      simp only [skip, Logged.value_bind, Logged.value_pure, List.not_mem_nil, false_or, Option.some.injEq]
      exact ⟨.inl, fun h => h.elim id fun same => same ▸ known⟩
    · rw [Logged.value_bind]
      cases ((element.plan visit.scope registry).build registry).run.value <;>
        simp [skip, or_comm, eq_comm]

end Visit

/-- The walk makes the same visits as the traversal, in the same order and with the same outcomes. -/
theorem value_walk {registry : Registry} {earlier : List Visited} {taken : List String}
    (inUse : Visit.InUse registry earlier taken) (visits : List Visit) :
    (walk registry taken visits).value = (preorder registry earlier visits).map Visited.outcome := by
  induction taken, visits using walk.induct registry generalizing earlier with
  | case1 => simp [walk]
  | case2 taken visit rest step =>
    rename_i ih
    have next := ih (Visit.inUse_run inUse)
    rw [Visit.inner_run inUse] at next
    rw [preorder_cons, List.map_cons, walk, Visit.inner_run inUse, next, Visit.outcome_run inUse]
    rfl

end PageObject
