import Mathlib.Data.List.Nodup
import PageObject.Proofs.Page.Ancestry

namespace PageObject

namespace Visit

variable {visit : Visit} {registry : Registry} {earlier : List Visited}

theorem visitedBehind_of_free (free : ∀ name, visit.accessorName? registry = some name →
      name ∉ namesBehind registry earlier) :
    visit.visitedBehind registry earlier = visit.visitedBehind registry [] := by
  unfold visitedBehind
  cases found : Element.read visit.node visit.path.text registry with
  | error fault => simp only [outcomeBehind, found]
  | ok element =>
    have fresh : element.accessorName ∉ namesBehind registry earlier := free _ (by simp [accessorName?, found])
    have notRoot : element.accessorName ∉ namesBehind registry [] := by
      intro root
      rw [← List.nil_append earlier, namesBehind_append, List.mem_append, not_or] at fresh
      exact fresh.1 root
    rw [outcomeBehind_of_read found, outcomeBehind_of_read found, if_neg fresh, if_neg notRoot]

end Visit

/-- The nodes that a traversal comes to if each of them is compiled as the first. -/
def preorderApart (registry : Registry) : List Visit → List Visited
  | [] => []
  | visit :: rest =>
    let here := visit.visitedBehind registry []
    here :: preorderApart registry (here.inner registry) ++ preorderApart registry rest
termination_by visits => Visit.totalSize visits
decreasing_by
  · have := (visit.visitedBehind registry []).totalSize_inner_lt registry
    rw [Visit.totalSize_cons]
    simp only [Visit.visitedBehind] at this ⊢
    omega
  · have := visit.node.sizeOf_pos
    rw [Visit.totalSize_cons]
    omega

section

variable {registry : Registry}

@[simp] theorem preorderApart_nil : preorderApart registry [] = [] := by
  rw [preorderApart]

theorem preorderApart_append (visits rest : List Visit) :
    preorderApart registry (visits ++ rest) =
      preorderApart registry visits ++ preorderApart registry rest := by
  induction visits with
  | nil => simp
  | cons visit visits ih =>
    rw [List.cons_append, preorderApart, preorderApart, ih]
    simp only [List.append_assoc]

theorem preorderApart_cons (visit : Visit) (rest : List Visit) :
    preorderApart registry (visit :: rest) =
      visit.visitedBehind registry [] ::
        preorderApart registry ((visit.visitedBehind registry []).inner registry ++ rest) := by
  rw [preorderApart, preorderApart_append, List.cons_append]

theorem preorderApart_of_perm {visits visits' : List Visit} (order : visits.Perm visits') :
    (preorderApart registry visits).Perm (preorderApart registry visits') := by
  induction order with
  | nil => exact .refl _
  | cons visit order ih =>
    rw [preorderApart, preorderApart]
    exact ih.append_left _
  | swap visit other rest =>
    have swapped (first second : Visit) : preorderApart registry (first :: second :: rest) =
        preorderApart registry [first] ++ preorderApart registry [second] ++ preorderApart registry rest := by
      rw [← preorderApart_append, ← preorderApart_append]
      rfl
    rw [swapped, swapped]
    exact List.perm_append_comm.append_right _
  | trans first second ih ih' => exact ih.trans ih'

/-- If no node of either traversal asks for a name that another one has, they come to the same. -/
theorem preorder_eq_preorderApart {earlier all : List Visited} {visits : List Visit}
    (either : all = preorder registry earlier visits ∨ all = preorderApart registry visits)
    (distinct : (Visit.namesBehind registry (earlier ++ all)).Nodup) :
    preorder registry earlier visits = preorderApart registry visits := by
  induction all generalizing earlier visits with
  | nil =>
    cases visits with
    | nil => simp
    | cons visit rest =>
      rw [preorder_cons, preorderApart_cons] at either
      rcases either with same | same <;> cases same
  | cons here others ih =>
    cases visits with
    | nil =>
      rw [preorder_nil, preorderApart_nil] at either
      rcases either with same | same <;> cases same
    | cons visit rest =>
      have isVisit : here.visit = visit := by
        rw [preorder_cons, preorderApart_cons] at either
        rcases either with same | same <;> rw [(List.cons.inj same).1] <;> rfl
      have free : ∀ name, visit.accessorName? registry = some name →
          name ∉ Visit.namesBehind registry earlier := by
        intro name asked known
        rw [Visit.namesBehind_append] at distinct
        refine (List.disjoint_of_nodup_append distinct) known (List.mem_filterMap.mpr ?_)
        exact ⟨here, List.mem_cons_self, by rw [isVisit, asked]⟩
      have alone := Visit.visitedBehind_of_free free
      rw [preorder_cons, preorderApart_cons, alone] at either ⊢
      have first : here = visit.visitedBehind registry [] := by
        rcases either with same | same <;> exact (List.cons.inj same).1
      have rest : others = preorder registry (earlier ++ [here])
            ((visit.visitedBehind registry []).inner registry ++ rest) ∨
          others = preorderApart registry ((visit.visitedBehind registry []).inner registry ++ rest) := by
        rcases either with same | same
        · rw [first]
          exact .inl (List.cons.inj same).2
        · exact .inr (List.cons.inj same).2
      have tail := ih rest (by rw [List.append_assoc]; exact distinct)
      rw [← first] at tail ⊢
      rw [tail]

end

end PageObject
