import PageObject.Proofs.Page.Traversal

namespace PageObject

theorem filter_eq_toList_find? {α κ : Type} [DecidableEq κ] {key : α → κ} {items : List α}
    (unique : (items.map key).Nodup) (wanted : κ) :
    items.filter (fun item => key item = wanted) = (items.find? fun item => key item = wanted).toList := by
  induction items with
  | nil => rfl
  | cons first rest ih =>
    rw [List.map_cons, List.nodup_cons] at unique
    by_cases same : key first = wanted
    · have none : rest.filter (fun item => key item = wanted) = [] := by
        apply List.filter_eq_nil_iff.mpr
        intro item member equal
        refine unique.1 (List.mem_map.mpr ⟨item, member, ?_⟩)
        rw [same]
        exact of_decide_eq_true equal
      simp [same, none]
    · simp [same, ih unique.2]

theorem filter_key_eq_singleton {α κ : Type} [DecidableEq κ] {key : α → κ} {items : List α}
    (unique : (items.map key).Nodup) {item : α} (member : item ∈ items) :
    items.filter (fun other => key other = key item) = [item] := by
  have among : item ∈ items.filter (fun other => key other = key item) :=
    List.mem_filter.mpr ⟨member, decide_eq_true rfl⟩
  rw [filter_eq_toList_find? unique] at among ⊢
  rw [Option.mem_toList.mp among]
  rfl

theorem names_of_preorder {registry : Registry} {earlier : List Visited} {visits : List Visit} :
    (((preorder registry earlier visits).filterMap Visited.accessor?).map Accessor.name).Nodup ∧
      ∀ accessor ∈ (preorder registry earlier visits).filterMap Visited.accessor?,
        accessor.name ∉ Visit.namesBehind registry earlier := by
  generalize hAll : preorder registry earlier visits = all
  induction all generalizing earlier visits with
  | nil => exact ⟨.nil, by simp⟩
  | cons here others ih =>
    rcases exists_of_preorder_eq_cons hAll with ⟨visit, rest, rfl, hHere, hOthers⟩
    rcases ih hOthers.symm with ⟨unique, fresh⟩
    have outside : ∀ accessor ∈ others.filterMap Visited.accessor?,
        accessor.name ∉ Visit.namesBehind registry earlier ∧
          here.visit.accessorName? registry ≠ some accessor.name := by
      intro accessor member
      have free := fresh accessor member
      rw [Visit.namesBehind_append, List.mem_append, not_or] at free
      refine ⟨free.1, fun same => free.2 ?_⟩
      simp [same]
    cases built : here.accessor? with
    | none =>
      rw [List.filterMap_cons_none built]
      exact ⟨unique, fun accessor member => (outside accessor member).1⟩
    | some accessor =>
      rw [List.filterMap_cons_some built, List.map_cons, List.nodup_cons]
      have outcome : visit.outcomeBehind registry earlier = .built accessor := by
        rw [← Visited.accessor?_eq_some_iff.mp built, hHere]
        rfl
      rcases Visit.name_of_outcomeBehind outcome with ⟨free, named⟩
      refine ⟨⟨?_, unique⟩, ?_⟩
      · intro member
        rcases List.mem_map.mp member with ⟨other, inside, same⟩
        apply (outside other inside).2
        rw [same, hHere]
        exact named
      · intro other member
        rcases List.mem_cons.mp member with rfl | member
        · exact free
        · exact (outside other member).1

namespace Page

variable {value : Json} {registry : Registry} {compilation : Compilation}

theorem accessors_of_outcome_compile (h : (compile value registry).outcome = .ok compilation) :
    ∃ page, (read value).outcome = .ok page ∧
      compilation.accessors = (page.preorder registry).filterMap Visited.accessor? := by
  rcases compilation_of_outcome_compile h with ⟨page, found, rfl⟩
  exact ⟨page, found, Compilation.accessors_ofOutcomes ..⟩

theorem nodup_names_of_outcome_compile (h : (compile value registry).outcome = .ok compilation) :
    (compilation.accessors.map Accessor.name).Nodup ∧
      ∀ accessor ∈ compilation.accessors, accessor.name ≠ Scope.rootGetter := by
  rcases accessors_of_outcome_compile h with ⟨page, found, same⟩
  rcases @names_of_preorder registry [] page.visits with ⟨unique, fresh⟩
  have same : compilation.accessors =
      (PageObject.preorder registry [] page.visits).filterMap Visited.accessor? := same
  rw [← same] at unique fresh
  refine ⟨unique, fun accessor member root => fresh accessor member ?_⟩
  rw [root]
  exact List.mem_cons_self

end Page

end PageObject
