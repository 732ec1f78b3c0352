import PageObject.Proofs.Page.PathOrder

namespace PageObject

/-- The nodes of a page that a pre-order traversal comes to, each with the outcome it has to have. -/
structure IsPreorder (value : Json) (registry : Registry) (visited : List Visited) : Prop where
  ordered : visited.Pairwise fun here later => here.visit.path.Before later.visit.path
  located : ∀ here ∈ visited, value.nodeAt? here.visit.path = some here.visit.node
  reached : ∀ path node, path ≠ [] → value.nodeAt? path = some node →
    ((∃ here ∈ visited, here.visit.path = path) ↔
      ∀ above, above ≠ [] → above <+: path → above ≠ path →
        ∃ parent ∈ visited, parent.visit.path = above ∧ ∃ accessor, parent.outcome = .built accessor)
  scope : ∀ here ∈ visited,
    (∃ place, here.visit.path = [place] ∧ here.visit.scope = Scope.root place.inShadow) ∨
      ∃ parent ∈ visited, ∃ accessor element place, parent.outcome = .built accessor ∧
        Element.read parent.visit.node parent.visit.path.text registry = .ok element ∧
        here.visit.path = parent.visit.path ++ [place] ∧
        here.visit.scope = accessor.scope element.name element.isNullable place.inShadow
  built : ∀ earlier here later, visited = earlier ++ here :: later → ∀ accessor,
    here.outcome = .built accessor ↔
      (Element.compile here.visit.node here.visit.scope registry).outcome = .ok accessor ∧
        accessor.name ∉ Visit.namesBehind registry earlier
  skipped : ∀ here ∈ visited, ∀ diagnostic, here.outcome = .skipped diagnostic →
    diagnostic.element = Element.label here.visit.node here.visit.path.text

namespace Page

variable {value : Json} {page : Page} {registry : Registry}

theorem nodeAt?_of_mem_preorder (h : (read value).outcome = .ok page) :
    ∀ here ∈ page.preorder registry, value.nodeAt? here.visit.path = some here.visit.node := by
  refine forall_mem_preorder (P := fun visit => value.nodeAt? visit.path = some visit.node) ?_ ?_
  · intro visit member
    rcases (mem_visits h).mp member with ⟨place, node, held, rfl⟩
    simp [Json.nodeAt?, held]
  · intro before parent after split located visit nested
    rcases Visited.mem_inner.mp nested with ⟨accessor, element, place, node, built, found, held, rfl⟩
    rw [Json.nodeAt?_snoc, located]
    exact held

theorem origin_of_preorder_eq (h : (read value).outcome = .ok page) {earlier later : List Visited}
    {here : Visited} (split : page.preorder registry = earlier ++ here :: later) :
    (∃ place, here.visit.path = [place] ∧ here.visit.scope = Scope.root place.inShadow) ∨
      ∃ parent ∈ earlier, ∃ accessor element place, parent.outcome = .built accessor ∧
        Element.read parent.visit.node parent.visit.path.text registry = .ok element ∧
        parent.visit.node.child? place = some here.visit.node ∧
        here.visit.path = parent.visit.path ++ [place] ∧
        here.visit.scope = accessor.scope element.name element.isNullable place.inShadow := by
  rcases origin_of_split split with first | ⟨parent, before, nested⟩
  · rcases (mem_visits h).mp first with ⟨place, node, held, same⟩
    rw [same]
    exact .inl ⟨place, rfl, rfl⟩
  · rcases Visited.mem_inner.mp nested with ⟨accessor, element, place, node, built, found, held, same⟩
    rw [same]
    exact .inr ⟨parent, before, accessor, element, place, built, found, held, rfl, rfl⟩

theorem origin_of_mem_preorder (h : (read value).outcome = .ok page) {here : Visited}
    (member : here ∈ page.preorder registry) :
    (∃ place, here.visit.path = [place] ∧ here.visit.scope = Scope.root place.inShadow) ∨
      ∃ parent ∈ page.preorder registry, ∃ accessor element place, parent.outcome = .built accessor ∧
        Element.read parent.visit.node parent.visit.path.text registry = .ok element ∧
        here.visit.path = parent.visit.path ++ [place] ∧
        here.visit.scope = accessor.scope element.name element.isNullable place.inShadow := by
  rcases List.append_of_mem member with ⟨before, after, split⟩
  rcases origin_of_preorder_eq h split with first |
    ⟨parent, earlier, accessor, element, place, built, found, held, path, scope⟩
  · exact .inl first
  · rw [split]
    exact .inr ⟨parent, List.mem_append_left _ earlier, accessor, element, place, built, found, path, scope⟩

theorem mem_of_split {earlier later : List Visited} {here : Visited}
    (split : page.preorder registry = earlier ++ here :: later) : here ∈ page.preorder registry := by
  rw [split]
  exact List.mem_append_right _ List.mem_cons_self

theorem path_ne_nil_of_mem_preorder (h : (read value).outcome = .ok page) :
    ∀ here ∈ page.preorder registry, here.visit.path ≠ [] := by
  intro here member
  rcases origin_of_mem_preorder h member with ⟨place, path, scope⟩ |
    ⟨parent, above, accessor, element, place, built, readable, path, scope⟩ <;> simp [path]

/-- What holds of the visits of a page's own nodes, and passes from a visit to those of the nodes in its
node, holds of every visit. -/
theorem forall_visit_of_mem_preorder (h : (read value).outcome = .ok page) {P : Visit → Prop}
    (own : ∀ place node, value.child? place = some node → P ⟨node, Scope.root place.inShadow, [place]⟩)
    (inner : ∀ earlier (here : Visited), here.outcome = here.visit.outcomeBehind registry earlier →
      value.nodeAt? here.visit.path = some here.visit.node → here.visit.path ≠ [] → P here.visit →
        ∀ visit ∈ here.inner registry, P visit) :
    ∀ here ∈ page.preorder registry, P here.visit := by
  refine forall_mem_preorder ?_ ?_
  · intro visit member
    rcases (mem_visits h).mp member with ⟨place, node, held, rfl⟩
    exact own place node held
  · intro before here after split holds
    have member := @mem_of_split page registry _ _ _ split
    exact inner before here (outcome_of_split split) (nodeAt?_of_mem_preorder h here member)
      (path_ne_nil_of_mem_preorder h here member) holds

theorem built_above_of_mem_preorder (h : (read value).outcome = .ok page) :
    ∀ here ∈ page.preorder registry, ∀ above, above ≠ [] → above <+: here.visit.path →
      above ≠ here.visit.path → ∃ parent ∈ page.preorder registry, parent.visit.path = above ∧
        ∃ accessor, parent.outcome = .built accessor := by
  refine forall_mem_preorder (P := fun visit => ∀ above, above ≠ [] → above <+: visit.path →
    above ≠ visit.path → ∃ parent ∈ page.preorder registry, parent.visit.path = above ∧
      ∃ accessor, parent.outcome = .built accessor) ?_ ?_
  · intro visit member above nonempty isPrefix proper
    rcases (mem_visits h).mp member with ⟨place, node, held, rfl⟩
    have isPrefix : above <+: [] ++ [place] := isPrefix
    rcases List.prefix_concat_iff.mp isPrefix with same | short
    · exact absurd same proper
    · exact absurd (List.prefix_nil.mp short) nonempty
  · intro before parent after split inherited visit nested above nonempty isPrefix proper
    rcases Visited.mem_inner.mp nested with ⟨accessor, element, place, node, built, found, held, rfl⟩
    rcases List.prefix_concat_iff.mp isPrefix with same | short
    · exact absurd same proper
    · by_cases same : above = parent.visit.path
      · have member : parent ∈ page.preorder registry := by
          unfold Page.preorder
          simp [split]
        exact ⟨parent, member, same.symm, accessor, built⟩
      · exact inherited above nonempty short same

theorem exists_mem_preorder_at (h : (read value).outcome = .ok page) {path : NodePath} {node : Json}
    (nonempty : path ≠ []) (held : value.nodeAt? path = some node)
    (above : ∀ above, above ≠ [] → above <+: path → above ≠ path →
      ∃ parent ∈ page.preorder registry, parent.visit.path = above ∧
        ∃ accessor, parent.outcome = .built accessor) :
    ∃ here ∈ page.preorder registry, here.visit.path = path := by
  rcases @exists_mem_preorder registry [] page.visits with ⟨first, nested⟩
  rcases (List.eq_nil_or_concat path).resolve_left nonempty with ⟨stem, place, rfl⟩
  rw [List.concat_eq_append] at held above ⊢
  rw [Json.nodeAt?_snoc] at held
  by_cases root : stem = []
  · subst root
    obtain ⟨here, member, same⟩ := first ⟨node, Scope.root place.inShadow, [place]⟩
      ((mem_visits h).mpr ⟨place, node, held, rfl⟩)
    exact ⟨here, member, by rw [same]; rfl⟩
  · rcases above stem root (List.prefix_append ..) (by simp) with ⟨parent, member, same, accessor, built⟩
    rcases read_of_built member built with ⟨element, found, compiled⟩
    rw [← same, nodeAt?_of_mem_preorder h parent member] at held
    obtain ⟨here, inside, visited⟩ := nested parent member _
      (Visited.mem_inner.mpr ⟨accessor, element, place, node, built, found, held, rfl⟩)
    exact ⟨here, inside, by rw [visited, same]⟩

theorem isPreorder_preorder (h : (read value).outcome = .ok page) :
    IsPreorder value registry (page.preorder registry) where
  ordered := page.pairwise_preorder registry
  located := nodeAt?_of_mem_preorder h
  reached := by
    intro path node nonempty held
    constructor
    · intro h
      rcases h with ⟨here, member, rfl⟩
      exact built_above_of_mem_preorder h here member
    · exact exists_mem_preorder_at h nonempty held
  scope := fun here member => origin_of_mem_preorder h member
  built := by
    intro earlier here later split accessor
    rw [outcome_of_split split]
    exact Visit.outcomeBehind_eq_built_iff
  skipped := fun _ member _ skipped => element_of_skipped member skipped

theorem inUse_start : Visit.InUse registry [] [Scope.rootGetter] := by
  intro name
  rfl

theorem compilation_of_outcome_compile {compilation : Compilation}
    (h : (compile value registry).outcome = .ok compilation) :
    ∃ page, (read value).outcome = .ok page ∧ compilation =
      .ofOutcomes page.rootLocator ((page.preorder registry).map Visited.outcome) := by
  rcases outcome_compile_eq_ok_iff.mp h with ⟨page, found, rfl⟩
  exact ⟨page, found, by rw [value_walk inUse_start]; rfl⟩

end Page

theorem Compilation.length_ofOutcomes (rootLocator : Option Locator) (outcomes : List Outcome) :
    (ofOutcomes rootLocator outcomes).accessors.length +
      (ofOutcomes rootLocator outcomes).diagnostics.length = outcomes.length := by
  simp only [ofOutcomes]
  induction outcomes with
  | nil => rfl
  | cons outcome rest ih =>
    cases outcome <;>
      simp only [List.filterMap_cons, Outcome.accessor?, Outcome.diagnostic?, List.length_cons] <;> omega

theorem Compilation.accessors_ofOutcomes (rootLocator : Option Locator) (visited : List Visited) :
    (ofOutcomes rootLocator (visited.map Visited.outcome)).accessors =
      visited.filterMap Visited.accessor? := by
  simp only [ofOutcomes, List.filterMap_map]
  rfl

theorem Compilation.diagnostics_ofOutcomes (rootLocator : Option Locator) (visited : List Visited) :
    (ofOutcomes rootLocator (visited.map Visited.outcome)).diagnostics =
      visited.filterMap Visited.diagnostic? := by
  simp only [ofOutcomes, List.filterMap_map]
  rfl

theorem Page.compile_eq_preorder {value : Json} {registry : Registry} {compilation : Compilation}
    (h : (compile value registry).outcome = .ok compilation) :
    ∃ page, (read value).outcome = .ok page ∧ compilation.rootLocator = page.rootLocator ∧
      compilation.accessors =
        (page.preorder registry).filterMap (fun here => here.outcome.accessor?) ∧
      compilation.diagnostics =
        (page.preorder registry).filterMap (fun here => here.outcome.diagnostic?) ∧
      compilation.accessors.length + compilation.diagnostics.length = (page.preorder registry).length ∧
      IsPreorder value registry (page.preorder registry) := by
  rcases compilation_of_outcome_compile h with ⟨page, found, rfl⟩
  refine ⟨page, found, rfl, Compilation.accessors_ofOutcomes .., Compilation.diagnostics_ofOutcomes ..,
    ?_, isPreorder_preorder found⟩
  rw [Compilation.length_ofOutcomes, List.length_map]

theorem Page.exists_of_view {α : Type} {f : Compilation → α} {value : Json} {registry : Registry} {view : α}
    (h : (compile value registry).outcome.toOption.map f = some view) :
    ∃ compilation, (compile value registry).outcome = .ok compilation ∧ f compilation = view := by
  cases compiled : (compile value registry).outcome <;> rw [compiled] at h
  · cases h
  · rename_i compilation
    cases h
    exact ⟨compilation, rfl, rfl⟩

theorem Page.exists_of_accessor {α : Type} {f : Accessor → α} {value : Json} {registry : Registry} {view : α}
    (h : (compile value registry).outcome.toOption.map (fun compilation => compilation.accessors.map f) =
      some [view]) :
    ∃ compilation accessor, (compile value registry).outcome = .ok compilation ∧
      compilation.accessors = [] ++ accessor :: [] ∧ f accessor = view := by
  rcases exists_of_view h with ⟨compilation, compiled, same⟩
  rcases List.map_eq_cons_iff.mp same with ⟨accessor, rest, split, first, nothing⟩
  cases List.map_eq_nil_iff.mp nothing
  exact ⟨compilation, accessor, compiled, split, first⟩

def Page.outline (value : Json) (registry : Registry) : Option (List String × List Nat) :=
  (compile value registry).outcome.toOption.map fun compilation =>
    (compilation.accessors.map Accessor.name, compilation.diagnostics.map fun found => found.fault.code)

theorem Page.exists_of_outline {value : Json} {registry : Registry} {names : List String}
    {codes : List Nat} (h : outline value registry = some (names, codes)) :
    ∃ compilation, (compile value registry).outcome = .ok compilation ∧
      compilation.accessors.map Accessor.name = names ∧
      compilation.diagnostics.map (fun found => found.fault.code) = codes := by
  rcases exists_of_view h with ⟨compilation, compiled, same⟩
  exact ⟨compilation, compiled, congrArg Prod.fst same, congrArg Prod.snd same⟩

def Page.summary {α : Type} (f : Visited → α) (value : Json) (registry : Registry) : Option (List α) :=
  (read value).outcome.toOption.map fun page => (page.preorder registry).map f

theorem Page.exists_of_summary {α : Type} {f : Visited → α} {value : Json} {registry : Registry}
    {items : List α} (h : summary f value registry = some items) :
    ∃ page, (read value).outcome = .ok page ∧ (page.preorder registry).map f = items := by
  unfold summary at h
  cases found : (read value).outcome <;> rw [found] at h
  · cases h
  · rename_i page
    cases h
    exact ⟨page, rfl, rfl⟩

def Page.twoBoxes : Json :=
  let selector : Json := .object [("css", .string "x")]
  .object [("elements", .array [
    .object [("name", .string "box"), ("selector", selector),
      ("elements", .array [.object [("name", .string "row"), ("selector", selector)]]),
      ("shadow", .object [("elements", .array [.null])])],
    .object [("name", .string "box"), ("selector", selector)]])]

theorem Page.compile_eq_preorder_twoBoxes :
    ∃ (compilation : Compilation) (page : Page), (compile twoBoxes .standard).outcome = .ok compilation ∧
      compilation.accessors.map Accessor.name = ["getBoxElement", "getRowElement"] ∧
      compilation.diagnostics.map (fun found => found.fault.code) = [1010, 1011] ∧
      (page.preorder .standard).length = 4 ∧
      IsPreorder twoBoxes .standard (page.preorder .standard) := by
  obtain ⟨compilation, compiled, names, codes⟩ := exists_of_outline
    (show outline twoBoxes .standard = some (["getBoxElement", "getRowElement"], [1010, 1011]) by
      decide +kernel)
  rcases compile_eq_preorder compiled with ⟨page, found, locator, accessors, diagnostics, count, traversal⟩
  refine ⟨compilation, page, compiled, names, codes, ?_, traversal⟩
  have built := congrArg List.length names
  have skipped := congrArg List.length codes
  simp only [List.length_map, List.length_cons, List.length_nil] at built skipped
  omega

end PageObject
