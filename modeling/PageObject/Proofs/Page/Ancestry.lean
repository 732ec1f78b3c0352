import PageObject.Proofs.Page.Preorder

namespace PageObject

theorem Visited.mem_inner {visited : Visited} {registry : Registry} {visit : Visit} :
    visit ∈ visited.inner registry ↔
      ∃ accessor element place node, visited.outcome = .built accessor ∧
        Element.read visited.visit.node visited.visit.path.text registry = .ok element ∧
        visited.visit.node.child? place = some node ∧
        visit = ⟨node, accessor.scope element.name element.isNullable place.inShadow,
          visited.visit.path ++ [place]⟩ := by
  have scopes : ∀ (accessor : Accessor) (element : Element) (inShadow : Bool),
      (if inShadow then accessor.scope element.name element.isNullable true
        else accessor.scope element.name element.isNullable false) =
        accessor.scope element.name element.isNullable inShadow := by
    intro accessor element inShadow
    cases inShadow <;> rfl
  unfold inner
  constructor
  · intro member
    split at member
    · rename_i accessor element built found
      rcases Visit.mem_ofNested.mp member with ⟨place, node, held, rfl⟩
      rw [scopes]
      rw [Element.nodes_of_read found] at held
      exact ⟨accessor, element, place, node, built, found, held, rfl⟩
    · cases member
  · intro h
    rcases h with ⟨accessor, element, place, node, built, found, held, rfl⟩
    simp only [built, found]
    refine Visit.mem_ofNested.mpr ⟨place, node, ?_, by rw [scopes]⟩
    rw [Element.nodes_of_read found]
    exact held

theorem Page.mem_visits {value : Json} {page : Page} (h : (Page.read value).outcome = .ok page)
    {visit : Visit} :
    visit ∈ page.visits ↔
      ∃ place node, value.child? place = some node ∧ visit = ⟨node, Scope.root place.inShadow, [place]⟩ := by
  have scopes : ∀ inShadow : Bool,
      (if inShadow then Scope.root true else Scope.root false) = Scope.root inShadow := by
    intro inShadow
    cases inShadow <;> rfl
  unfold Page.visits
  simp only [Visit.mem_ofNested, scopes, Page.nodes_of_read h, List.nil_append]
  rfl

section Traversal

variable {registry : Registry} {earlier before after visited : List Visited} {visits : List Visit}
  {here : Visited}

theorem exists_of_preorder_eq_cons (h : preorder registry earlier visits = here :: after) :
    ∃ visit rest, visits = visit :: rest ∧ here = visit.visitedBehind registry earlier ∧
      after = preorder registry (earlier ++ [here]) (here.inner registry ++ rest) := by
  cases visits with
  | nil => simp at h
  | cons visit rest =>
    rw [preorder_cons] at h
    cases h
    exact ⟨visit, rest, rfl, rfl, rfl⟩

/-- Behind any part of a traversal the rest is a traversal from pending visits, each of them there
from the beginning or nested in a node of that part. -/
theorem exists_pending (h : preorder registry earlier visits = before ++ after) :
    ∃ pending, after = preorder registry (earlier ++ before) pending ∧
      ∀ visit ∈ pending, visit ∈ visits ∨ ∃ visited ∈ before, visit ∈ visited.inner registry := by
  induction before generalizing earlier visits with
  | nil => exact ⟨visits, by simpa using h.symm, fun visit member => .inl member⟩
  | cons first before ih =>
    rcases exists_of_preorder_eq_cons h with ⟨visit, rest, rfl, hFirst, others⟩
    rcases ih others.symm with ⟨pending, hAfter, origin⟩
    refine ⟨pending, by simpa using hAfter, ?_⟩
    intro next member
    rcases origin next member with member | ⟨visited, member, nested⟩
    · rcases List.mem_append.mp member with member | member
      · exact .inr ⟨first, List.mem_cons_self, member⟩
      · exact .inl (List.mem_cons_of_mem _ member)
    · exact .inr ⟨visited, List.mem_cons_of_mem _ member, nested⟩

theorem visitedBehind_of_split (h : preorder registry earlier visits = before ++ here :: after) :
    here = here.visit.visitedBehind registry (earlier ++ before) := by
  rcases exists_pending h with ⟨pending, hAfter, origin⟩
  rcases exists_of_preorder_eq_cons hAfter.symm with ⟨visit, rest, hPending, hHere, others⟩
  rw [hHere]
  rfl

theorem outcome_of_split (h : preorder registry earlier visits = before ++ here :: after) :
    here.outcome = here.visit.outcomeBehind registry (earlier ++ before) :=
  congrArg Visited.outcome (visitedBehind_of_split h)

theorem read_of_built {accessor : Accessor} (member : here ∈ preorder registry earlier visits)
    (built : here.outcome = .built accessor) :
    ∃ element, Element.read here.visit.node here.visit.path.text registry = .ok element ∧
      ((element.plan here.visit.scope registry).build registry).outcome = .ok accessor := by
  rcases List.append_of_mem member with ⟨before, after, split⟩
  exact Visit.read_of_outcomeBehind ((outcome_of_split split).symm.trans built)

theorem element_of_skipped {diagnostic : Diagnostic} (member : here ∈ preorder registry earlier visits)
    (skipped : here.outcome = .skipped diagnostic) : diagnostic.element = here.visit.label := by
  rcases List.append_of_mem member with ⟨before, after, split⟩
  exact Visit.element_of_outcomeBehind ((outcome_of_split split).symm.trans skipped)

theorem origin_of_split (h : preorder registry earlier visits = before ++ here :: after) :
    here.visit ∈ visits ∨ ∃ parent ∈ before, here.visit ∈ parent.inner registry := by
  rcases exists_pending h with ⟨pending, hAfter, origin⟩
  rcases exists_of_preorder_eq_cons hAfter.symm with ⟨visit, rest, rfl, rfl, others⟩
  exact origin visit List.mem_cons_self

theorem forall_mem_preorder {P : Visit → Prop} (start : ∀ visit ∈ visits, P visit)
    (step : ∀ before here after, preorder registry earlier visits = before ++ here :: after →
      P here.visit → ∀ visit ∈ here.inner registry, P visit) :
    ∀ visited ∈ preorder registry earlier visits, P visited.visit := by
  -- The induction is on the number of nodes that came before.
  have main : ∀ count before here after, before.length ≤ count →
      preorder registry earlier visits = before ++ here :: after → P here.visit := by
    intro count
    induction count with
    | zero =>
      intro before here after bound h
      rcases origin_of_split h with member | ⟨parent, member, nested⟩
      · exact start _ member
      · rw [List.length_eq_zero_iff.mp (Nat.le_zero.mp bound)] at member
        cases member
    | succ count ih =>
      intro before here after bound h
      rcases origin_of_split h with member | ⟨parent, member, nested⟩
      · exact start _ member
      · rcases List.append_of_mem member with ⟨first, second, rfl⟩
        have split : preorder registry earlier visits = first ++ parent :: (second ++ here :: after) := by
          simpa using h
        refine step _ _ _ split (ih _ _ _ ?_ split) _ nested
        simp only [List.length_append, List.length_cons] at bound
        omega
  intro visited member
  rcases List.append_of_mem member with ⟨before, after, split⟩
  exact main _ _ _ _ (Nat.le_refl _) split

theorem exists_mem_preorder :
    (∀ visit ∈ visits, ∃ visited ∈ preorder registry earlier visits, visited.visit = visit) ∧
      ∀ parent ∈ preorder registry earlier visits, ∀ visit ∈ parent.inner registry,
        ∃ visited ∈ preorder registry earlier visits, visited.visit = visit := by
  generalize hAll : preorder registry earlier visits = all
  induction all generalizing earlier visits with
  | nil =>
    cases visits with
    | nil => simp
    | cons visit rest =>
      rw [preorder_cons] at hAll
      cases hAll
  | cons here others ih =>
    rcases exists_of_preorder_eq_cons hAll with ⟨first, rest, rfl, rfl, hOthers⟩
    rcases ih hOthers.symm with ⟨pending, nested⟩
    have later : ∀ visit ∈ (first.visitedBehind registry earlier).inner registry ++ rest,
        ∃ visited ∈ first.visitedBehind registry earlier :: others, visited.visit = visit := by
      intro visit member
      rcases pending visit member with ⟨visited, found, same⟩
      exact ⟨visited, List.mem_cons_of_mem _ found, same⟩
    constructor
    · intro visit member
      rcases List.mem_cons.mp member with rfl | member
      · exact ⟨_, List.mem_cons_self, rfl⟩
      · exact later visit (List.mem_append_right _ member)
    · intro parent member visit inside
      rcases List.mem_cons.mp member with rfl | member
      · exact later visit (List.mem_append_left _ inside)
      · rcases nested parent member visit inside with ⟨visited, found, same⟩
        exact ⟨visited, List.mem_cons_of_mem _ found, same⟩

end Traversal

end PageObject
