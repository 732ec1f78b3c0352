import PageObject.Proofs.Page.Ancestry

namespace PageObject

def NodePlace.Before (place other : NodePlace) : Prop :=
  (place.inShadow = false ∧ other.inShadow = true) ∨
    (place.inShadow = other.inShadow ∧ place.index < other.index)

namespace NodePath

/-- Pre-order: lexicographic in the places, and a path before those that go on from it. -/
def Before : NodePath → NodePath → Prop := List.Lex NodePlace.Before

/-- Two paths part at some place, where the first takes the earlier one. -/
def LeftOf (path other : NodePath) : Prop :=
  ∃ stem place place' rest rest', path = stem ++ place :: rest ∧ other = stem ++ place' :: rest' ∧
    place.Before place'

theorem LeftOf.append {path other : NodePath} (h : path.LeftOf other) (rest rest' : NodePath) :
    LeftOf (path ++ rest) (other ++ rest') := by
  rcases h with ⟨stem, place, place', tail, tail', rfl, rfl, before⟩
  exact ⟨stem, place, place', tail ++ rest, tail' ++ rest', by simp, by simp, before⟩

theorem before_append_append (stem : NodePath) {path other : NodePath} (h : path.Before other) :
    Before (stem ++ path) (stem ++ other) := by
  induction stem with
  | nil => exact h
  | cons place stem ih => exact .cons ih

theorem LeftOf.before {path other : NodePath} (h : path.LeftOf other) : path.Before other := by
  rcases h with ⟨stem, place, place', rest, rest', rfl, rfl, before⟩
  exact before_append_append stem (.rel before)

theorem before_append (path : NodePath) (place : NodePlace) (rest : NodePath) :
    Before path (path ++ place :: rest) := by
  have h := before_append_append path (List.Lex.nil : Before [] (place :: rest))
  rwa [List.append_nil] at h

theorem not_before_self (path : NodePath) : ¬ path.Before path := by
  induction path with
  | nil => intro h; cases h
  | cons place path ih =>
    intro h
    cases h with
    | rel before =>
      rcases before with ⟨light, shadow⟩ | ⟨_, less⟩
      · simp [light] at shadow
      · exact Nat.lt_irrefl _ less
    | cons h => exact ih h

end NodePath

theorem Visit.pairwise_ofList (nodes : List Json) (scope : Scope) (path : NodePath) (inShadow : Bool) :
    (Visit.ofList nodes scope path inShadow).Pairwise fun visit other => visit.path.LeftOf other.path := by
  unfold Visit.ofList
  have increasing : nodes.zipIdx.Pairwise fun item other => item.2 < other.2 := by
    rw [← List.pairwise_map (f := Prod.snd) (R := (· < ·)), List.zipIdx_map_snd]
    exact List.pairwise_lt_range'
  refine List.pairwise_map.mpr (increasing.imp ?_)
  intro item other less
  exact ⟨path, ⟨inShadow, item.2⟩, ⟨inShadow, other.2⟩, [], [], rfl, rfl, .inr ⟨rfl, less⟩⟩

theorem Visit.pairwise_ofNested (nested : Nested) (scope shadowScope : Scope) (path : NodePath) :
    (Visit.ofNested nested scope shadowScope path).Pairwise
      fun visit other => visit.path.LeftOf other.path := by
  refine List.pairwise_append.mpr ⟨pairwise_ofList .., pairwise_ofList .., ?_⟩
  intro visit light other shadow
  rcases mem_ofList.mp light with ⟨index, node, found, rfl⟩
  rcases mem_ofList.mp shadow with ⟨index', node', found', rfl⟩
  exact ⟨path, ⟨false, index⟩, ⟨true, index'⟩, [], [], rfl, rfl, .inl ⟨rfl, rfl⟩⟩

theorem Visited.pairwise_inner (visited : Visited) (registry : Registry) :
    (visited.inner registry).Pairwise fun visit other => visit.path.LeftOf other.path := by
  unfold inner
  split
  · exact Visit.pairwise_ofNested ..
  · exact .nil

theorem Visited.path_of_mem_inner {visited : Visited} {registry : Registry} {visit : Visit}
    (member : visit ∈ visited.inner registry) :
    ∃ place, visit.path = visited.visit.path ++ [place] := by
  rcases mem_inner.mp member with ⟨accessor, element, place, node, built, found, held, rfl⟩
  exact ⟨place, rfl⟩

theorem exists_path_of_mem_preorder {registry : Registry} {earlier : List Visited} {visits : List Visit} :
    ∀ visited ∈ preorder registry earlier visits,
      ∃ visit ∈ visits, ∃ rest, visited.visit.path = visit.path ++ rest := by
  refine forall_mem_preorder (P := fun next => ∃ visit ∈ visits, ∃ rest, next.path = visit.path ++ rest) ?_ ?_
  · intro visit member
    exact ⟨visit, member, [], by simp⟩
  · rintro before here after split ⟨visit, member, rest, same⟩ next nested
    rcases Visited.path_of_mem_inner nested with ⟨place, longer⟩
    exact ⟨visit, member, rest ++ [place], by rw [longer, same, List.append_assoc]⟩

theorem pairwise_preorder {registry : Registry} {earlier : List Visited} {visits : List Visit}
    (apart : visits.Pairwise fun visit other => visit.path.LeftOf other.path) :
    (preorder registry earlier visits).Pairwise fun visited other =>
      visited.visit.path.Before other.visit.path := by
  generalize hAll : preorder registry earlier visits = all
  induction all generalizing earlier visits with
  | nil => exact .nil
  | cons here others ih =>
    rcases exists_of_preorder_eq_cons hAll with ⟨first, rest, rfl, rfl, hOthers⟩
    rcases List.pairwise_cons.mp apart with ⟨ahead, restApart⟩
    have pendingApart : ((first.visitedBehind registry earlier).inner registry ++ rest).Pairwise
        fun visit other => visit.path.LeftOf other.path := by
      refine List.pairwise_append.mpr ⟨Visited.pairwise_inner .., restApart, ?_⟩
      intro visit nested other member
      rcases Visited.path_of_mem_inner nested with ⟨place, longer⟩
      have aside := (ahead other member).append [place] []
      rw [List.append_nil] at aside
      rw [longer]
      exact aside
    refine List.pairwise_cons.mpr ⟨?_, ih pendingApart hOthers.symm⟩
    intro visited member
    rw [hOthers] at member
    rcases exists_path_of_mem_preorder visited member with ⟨visit, pending, rest', same⟩
    rw [same]
    rcases List.mem_append.mp pending with nested | behind
    · rcases Visited.path_of_mem_inner nested with ⟨place, longer⟩
      rw [longer, List.append_assoc]
      exact NodePath.before_append ..
    · have aside := (ahead visit behind).append [] rest'
      rw [List.append_nil] at aside
      exact aside.before

theorem Page.pairwise_preorder (page : Page) (registry : Registry) :
    (page.preorder registry).Pairwise fun visited other =>
      visited.visit.path.Before other.visit.path :=
  PageObject.pairwise_preorder (Visit.pairwise_ofNested ..)

theorem Page.nodup_paths (page : Page) (registry : Registry) :
    ((page.preorder registry).map fun visited => visited.visit.path).Nodup := by
  refine List.pairwise_map.mpr ((page.pairwise_preorder registry).imp ?_)
  intro visited other before same
  rw [same] at before
  exact NodePath.not_before_self _ before

end PageObject
