import Mathlib.Data.Multiset.Filter
import Mathlib.Data.Multiset.MapFold
import Mathlib.Logic.Relation
import PageObject.Proofs.Element.Relocation
import PageObject.Proofs.Page.Apart
import PageObject.Proofs.Page.Change
import PageObject.Proofs.Page.Traversal

namespace PageObject

def NodesPermuted (kind : ObjectKind) (fields fields' : Json.Fields) : Prop :=
  ∃ nodes nodes', kind.part? "elements" = some (.many .element) ∧
    fields.get? "elements" = some (.array nodes) ∧ nodes.Perm nodes' ∧
    fields' = fields.put "elements" (.array nodes')

/-- Any lists of element nodes in a value are put in another order, one after the other. -/
def Json.Reordered (kind : ObjectKind) : Json → Json → Prop :=
  Relation.ReflTransGen (ChangedIn NodesPermuted kind)

/-- Two lists have the same nodes in some order, each of them reordered inside. -/
def NodesReordered (nodes nodes' : List Json) : Prop :=
  Multiset.Rel (Json.Reordered .element) (nodes : Multiset Json) (nodes' : Multiset Json)

section Multisets

variable {α β γ δ : Type}

theorem rel_of_forall₂ {R : α → β → Prop} {items : List α} {items' : List β}
    (h : List.Forall₂ R items items') : Multiset.Rel R (items : Multiset α) (items' : Multiset β) := by
  induction h with
  | nil => exact .zero
  | cons first others ih => exact .cons first ih

theorem rel_filterMap {R : α → β → Prop} {Q : γ → δ → Prop} {f : α → Option γ} {g : β → Option δ}
    {items : Multiset α} {items' : Multiset β} (h : Multiset.Rel R items items')
    (each : ∀ a b, R a b → Option.Rel Q (f a) (g b)) :
    Multiset.Rel Q (items.filterMap f) (items'.filterMap g) := by
  induction h with
  | zero => exact .zero
  | @cons a b _ _ first others ih =>
    have here := each a b first
    cases found : f a <;> cases found' : g b <;> rw [found, found'] at here <;> cases here
    · rwa [Multiset.filterMap_cons_none _ _ found, Multiset.filterMap_cons_none _ _ found']
    · rename_i same
      rw [Multiset.filterMap_cons_some _ _ _ found, Multiset.filterMap_cons_some _ _ _ found']
      exact .cons same ih

theorem perm_filterMap_of_rel {R : α → β → Prop} {f : α → Option γ} {g : β → Option γ} {items : List α}
    {items' : List β} (h : Multiset.Rel R (items : Multiset α) (items' : Multiset β))
    (each : ∀ a b, R a b → g b = f a) : (items.filterMap f).Perm (items'.filterMap g) := by
  have related := rel_filterMap (Q := Eq) (f := f) (g := g) h fun a b here => by
    rw [each a b here]
    cases f a with
    | none => exact .none
    | some found => exact .some rfl
  rw [Multiset.rel_eq] at related
  exact Multiset.coe_eq_coe.mp related

end Multisets

namespace NodesReordered

theorem refl (nodes : List Json) : NodesReordered nodes nodes :=
  Multiset.rel_refl_of_refl_on fun _ _ => .refl

theorem trans {nodes nodes' nodes'' : List Json} (h : NodesReordered nodes nodes')
    (next : NodesReordered nodes' nodes'') : NodesReordered nodes nodes'' :=
  have : IsTrans Json (Json.Reordered .element) := ⟨fun _ _ _ => Relation.ReflTransGen.trans⟩
  Multiset.Rel.trans _ h next

end NodesReordered

abbrev NodesSwapped (nodes nodes' : List Json) : Prop :=
  Multiset.Rel (ChangedIn NodesPermuted .element) (nodes : Multiset Json) (nodes' : Multiset Json)

theorem NodesSwapped.reordered {nodes nodes' : List Json} (h : NodesSwapped nodes nodes') :
    NodesReordered nodes nodes' :=
  h.mono fun _ _ _ _ step => .single step

theorem likeness_nodesPermuted : Likeness (ChangedIn NodesPermuted) NodesSwapped := by
  refine ChangedIn.likeness (fun _ => Multiset.rel_refl_of_refl_on fun _ _ => .same _) ?_ rel_of_forall₂ ?_
  · intro nodes nodes' h
    have length := Multiset.card_eq_card_of_rel h
    rw [Multiset.coe_card, Multiset.coe_card] at length
    cases nodes <;> cases nodes' <;> simp_all
  · intro kind fields fields' permuted
    rcases permuted with ⟨nodes, nodes', list, held, order, rfl⟩
    refine ObjectKind.partsChanged_put list held (.nodes ?_)
    unfold NodesSwapped
    rw [Multiset.coe_eq_coe.mpr order]
    exact Multiset.rel_refl_of_refl_on fun _ _ => .same _

namespace Nested.AlikeBy

theorem trans_reordered {nested nested' nested'' : Nested} (h : nested.AlikeBy NodesReordered nested')
    (next : nested'.AlikeBy NodesReordered nested'') : nested.AlikeBy NodesReordered nested'' :=
  ⟨h.elements.trans next.elements, h.shadowElements.trans next.shadowElements⟩

theorem reordered {nested nested' : Nested} (h : nested.AlikeBy NodesSwapped nested') :
    nested.AlikeBy NodesReordered nested' :=
  ⟨h.elements.reordered, h.shadowElements.reordered⟩

end Nested.AlikeBy

namespace Element

def ReorderedTo (element element' : Element) : Prop :=
  ∃ nested, element' = { element with nested } ∧ element.nested.AlikeBy NodesReordered nested

theorem alike_read_of_reordered {node node' : Json} (h : node.Reordered .element node') (path : String)
    (registry : Registry) :
    Alike ReorderedTo (read node path registry) (read node' path registry) := by
  induction h with
  | refl => exact .refl (fun element => ⟨element.nested, rfl, .refl _, .refl _⟩) _
  | tail before step ih =>
    refine ih.trans ?_ ((alike_read likeness_nodesPermuted step path).imp ?_)
    · rintro element _ _ ⟨nested, rfl, same⟩ ⟨nested', rfl, same'⟩
      exact ⟨nested', rfl, same.trans_reordered same'⟩
    · rintro element element' ⟨nested, rfl, same⟩
      exact ⟨nested, rfl, same.reordered⟩

theorem label_of_reordered {node node' : Json} (h : node.Reordered .element node') (path : String) :
    label node' path = label node path := by
  induction h with
  | refl => rfl
  | tail before step ih => rw [label_of_alike likeness_nodesPermuted step, ih]

end Element

/-- A visit to the same node, which is reordered and may have moved within the lists that it stands in. -/
structure Visit.Moved (visit visit' : Visit) : Prop where
  node : visit.node.Reordered .element visit'.node
  scope : visit'.scope = visit.scope
  lists : visit'.path.map NodePlace.inShadow = visit.path.map NodePlace.inShadow

structure Visited.Moved (here here' : Visited) : Prop where
  visit : here.visit.Moved here'.visit
  outcome : here.outcome.SameUpTo here.visit.path.text here'.visit.path.text here'.outcome

def Diagnostic.Moved (diagnostic diagnostic' : Diagnostic) : Prop :=
  ∃ path path' : NodePath, path'.map NodePlace.inShadow = path.map NodePlace.inShadow ∧
    diagnostic.SameUpTo path.text path'.text diagnostic'

/-- The same accessors in some order, and the same diagnostics in some order but for the paths in them. -/
structure Compilation.Reordered (compilation compilation' : Compilation) : Prop where
  rootLocator : compilation'.rootLocator = compilation.rootLocator
  accessors : compilation.accessors.Perm compilation'.accessors
  diagnostics : Multiset.Rel Diagnostic.Moved (compilation.diagnostics : Multiset Diagnostic)
    (compilation'.diagnostics : Multiset Diagnostic)

namespace Visit

theorem moved_ofList {nodes nodes' : List Json} (h : NodesReordered nodes nodes') (scope : Scope)
    {path path' : NodePath} (lists : path'.map NodePlace.inShadow = path.map NodePlace.inShadow)
    (inShadow : Bool) :
    Multiset.Rel Moved (ofList nodes scope path inShadow : Multiset Visit)
      (ofList nodes' scope path' inShadow : Multiset Visit) := by
  have visited : Multiset.Rel (fun visit visit' : Visit => visit.node.Reordered .element visit'.node)
      (ofList nodes scope path inShadow : Multiset Visit)
      (ofList nodes' scope path' inShadow : Multiset Visit) := by
    rw [← Multiset.rel_map, Multiset.map_coe, Multiset.map_coe, map_node_ofList, map_node_ofList]
    exact h
  refine visited.mono fun visit member visit' member' same => ?_
  rcases mem_ofList.mp (Multiset.mem_coe.mp member) with ⟨index, node, held, rfl⟩
  rcases mem_ofList.mp (Multiset.mem_coe.mp member') with ⟨index', node', held', rfl⟩
  exact ⟨same, rfl, by simp [lists]⟩

theorem moved_ofNested {nested nested' : Nested} (h : nested.AlikeBy NodesReordered nested')
    (scope shadowScope : Scope) {path path' : NodePath}
    (lists : path'.map NodePlace.inShadow = path.map NodePlace.inShadow) :
    Multiset.Rel Moved (ofNested nested scope shadowScope path : Multiset Visit)
      (ofNested nested' scope shadowScope path' : Multiset Visit) := by
  unfold ofNested
  rw [← Multiset.coe_add, ← Multiset.coe_add]
  exact (moved_ofList h.elements scope lists false).add (moved_ofList h.shadowElements shadowScope lists true)

namespace Moved

variable {visit visit' : Visit} {registry : Registry} (moved : visit.Moved visit')

include moved

theorem read_of_ok {element : Element}
    (found : Element.read visit.node visit.path.text registry = .ok element) :
    ∃ element', Element.read visit'.node visit'.path.text registry = .ok element' ∧
      element.ReorderedTo element' := by
  have alike := Element.alike_read_of_reordered moved.node visit.path.text registry
  rw [found] at alike
  generalize found' : Element.read visit'.node visit.path.text registry = result at alike
  cases alike with
  | ok same => exact ⟨_, Element.read_eq_ok_at found' _, same⟩

theorem read_of_error {fault : Fault}
    (found : Element.read visit.node visit.path.text registry = .error fault) :
    ∃ fault', Element.read visit'.node visit'.path.text registry = .error fault' ∧
      fault.SameUpTo visit.path.text visit'.path.text fault' := by
  have alike := Element.alike_read_of_reordered moved.node visit.path.text registry
  rw [found] at alike
  generalize found' : Element.read visit'.node visit.path.text registry = result at alike
  cases alike with
  | error fault => exact Element.read_eq_error_at found' _

theorem label : SameUpTo visit.path.text visit'.path.text visit.label visit'.label := by
  unfold Visit.label
  rw [← Element.label_of_reordered moved.node visit.path.text]
  exact Element.label_at ..

theorem accessorName? : visit'.accessorName? registry = visit.accessorName? registry := by
  unfold Visit.accessorName?
  cases found : Element.read visit.node visit.path.text registry with
  | error fault =>
    rcases moved.read_of_error found with ⟨fault', found', same⟩
    rw [found']
  | ok element =>
    rcases moved.read_of_ok found with ⟨element', found', nested, rfl, same⟩
    rw [found']
    rfl

theorem outcomeBehind_of_read {element : Element}
    (found : Element.read visit.node visit.path.text registry = .ok element) :
    visit'.outcomeBehind registry [] = visit.outcomeBehind registry [] := by
  rcases moved.read_of_ok found with ⟨element', found', nested, rfl, same⟩
  rw [Visit.outcomeBehind_of_read found, Visit.outcomeBehind_of_read found', moved.scope]
  rfl

theorem visitedBehind :
    (visit.visitedBehind registry []).Moved (visit'.visitedBehind registry []) ∧
      Multiset.Rel Moved ((visit.visitedBehind registry []).inner registry : Multiset Visit)
        ((visit'.visitedBehind registry []).inner registry : Multiset Visit) := by
  cases found : Element.read visit.node visit.path.text registry with
  | error fault =>
    rcases moved.read_of_error found with ⟨fault', found', same⟩
    have outcome : visit.outcomeBehind registry [] = .skipped ⟨visit.label, fault⟩ := by
      simp only [outcomeBehind, found]
    have outcome' : visit'.outcomeBehind registry [] = .skipped ⟨visit'.label, fault'⟩ := by
      simp only [outcomeBehind, found']
    constructor
    · refine ⟨moved, ?_⟩
      simp only [Visit.visitedBehind, outcome, outcome']
      exact .skipped ⟨moved.label, same⟩
    · simp only [Visited.inner, Visit.visitedBehind, outcome, outcome']
      exact .zero
  | ok element =>
    have outcome := moved.outcomeBehind_of_read found
    rcases moved.read_of_ok found with ⟨element', found', nested, rfl, same⟩
    constructor
    · refine ⟨moved, ?_⟩
      simp only [Visit.visitedBehind, outcome]
      exact .refl _
    · simp only [Visited.inner, Visit.visitedBehind, outcome, found, found']
      cases visit.outcomeBehind registry [] with
      | built accessor => exact moved_ofNested same _ _ moved.lists
      | skipped diagnostic => exact .zero

end Moved

end Visit

theorem moved_preorderApart {registry : Registry} {visits visits' : List Visit}
    (h : Multiset.Rel Visit.Moved (visits : Multiset Visit) (visits' : Multiset Visit)) :
    Multiset.Rel Visited.Moved (preorderApart registry visits : Multiset Visited)
      (preorderApart registry visits' : Multiset Visited) := by
  induction visits using preorderApart.induct registry generalizing visits' with
  | case1 =>
    rw [Multiset.coe_nil, Multiset.rel_zero_left, Multiset.coe_eq_zero] at h
    rw [h, preorderApart_nil]
    exact .zero
  | case2 visit rest here below =>
    rename_i behind
    -- The first node may have moved behind others, where it is visited later; apart from each other, no visit
    -- depends on that order.
    rw [← Multiset.cons_coe] at h
    rcases Multiset.rel_cons_left.mp h with ⟨visit', others, moved, pending, same⟩
    rcases Quotient.exists_rep others with ⟨rest', rfl⟩
    have order : visits'.Perm (visit' :: rest') := Multiset.coe_eq_coe.mp same
    rw [Multiset.coe_eq_coe.mpr (preorderApart_of_perm order), preorderApart, preorderApart]
    rcases @Visit.Moved.visitedBehind visit visit' registry moved with ⟨first, inner⟩
    simp only [List.cons_append, ← Multiset.cons_coe, ← Multiset.coe_add]
    exact .cons first ((below inner).add (behind pending))

namespace Visited.Moved

variable {here here' : Visited} (moved : here.Moved here')

include moved

theorem accessor? : here'.accessor? = here.accessor? := by
  have same := moved.outcome
  unfold Visited.accessor?
  generalize here.outcome = outcome at same ⊢
  generalize here'.outcome = outcome' at same ⊢
  cases same <;> rfl

theorem diagnostic? : Option.Rel Diagnostic.Moved here.diagnostic? here'.diagnostic? := by
  have same := moved.outcome
  unfold Visited.diagnostic?
  generalize here.outcome = outcome at same ⊢
  generalize here'.outcome = outcome' at same ⊢
  cases same with
  | built => exact .none
  | skipped same => exact .some ⟨_, _, moved.visit.lists, same⟩

end Visited.Moved

theorem Compilation.Reordered.ofOutcomes {visited visited' : List Visited} (rootLocator : Option Locator)
    (h : Multiset.Rel Visited.Moved (visited : Multiset Visited) (visited' : Multiset Visited)) :
    (Compilation.ofOutcomes rootLocator (visited.map Visited.outcome)).Reordered
      (Compilation.ofOutcomes rootLocator (visited'.map Visited.outcome)) where
  rootLocator := rfl
  accessors := by
    rw [accessors_ofOutcomes, accessors_ofOutcomes]
    exact perm_filterMap_of_rel h fun _ _ here => here.accessor?
  diagnostics := by
    rw [diagnostics_ofOutcomes, diagnostics_ofOutcomes, ← Multiset.filterMap_coe, ← Multiset.filterMap_coe]
    exact rel_filterMap h fun _ _ here => here.diagnostic?

namespace Page

theorem alike_outcome_read_of_reordered {value value' : Json} (h : value.Reordered .page value') :
    Alike (fun page page' => page'.rootLocator = page.rootLocator ∧
        page.nested.AlikeBy NodesReordered page'.nested)
      (read value).outcome (read value').outcome := by
  induction h with
  | refl => exact .refl (fun page => ⟨rfl, .refl _, .refl _⟩) _
  | tail before step ih =>
    refine ih.trans ?_ ((alike_outcome_read likeness_nodesPermuted step).imp ?_)
    · intro first second third same same'
      exact ⟨same'.1.trans same.1, same.2.trans_reordered same'.2⟩
    · intro page page' same
      exact ⟨same.1, same.2.reordered⟩

theorem moved_preorder {page page' : Page} {registry : Registry}
    (same : page.nested.AlikeBy NodesReordered page'.nested)
    (distinct : (Visit.namesBehind registry (page.preorder registry)).Nodup) :
    Multiset.Rel Visited.Moved (page.preorder registry : Multiset Visited)
      (page'.preorder registry : Multiset Visited) := by
  have apart : page.preorder registry = preorderApart registry page.visits :=
    preorder_eq_preorderApart (.inl rfl) distinct
  rw [apart] at distinct
  have moved : Multiset.Rel Visited.Moved (preorderApart registry page.visits : Multiset Visited)
      (preorderApart registry page'.visits : Multiset Visited) :=
    moved_preorderApart (Visit.moved_ofNested same _ _ rfl)
  have names := perm_filterMap_of_rel moved
    (f := fun visited => visited.visit.accessorName? registry)
    (g := fun visited => visited.visit.accessorName? registry) fun _ _ here => here.visit.accessorName?
  have apart' : page'.preorder registry = preorderApart registry page'.visits :=
    preorder_eq_preorderApart (.inr rfl) ((names.cons Scope.rootGetter).nodup_iff.mp distinct)
  rw [apart, apart']
  exact moved

/-- Where all nodes that can be read ask for names that differ from each other and from the root's getter,
reordering nodes moves accessors and diagnostics about and changes none of them but for the paths in them. -/
theorem compile_reordered {value value' : Json} {registry : Registry} (h : value.Reordered .page value')
    (distinct : ∀ page, (read value).outcome = .ok page →
      (Visit.namesBehind registry (page.preorder registry)).Nodup) :
    Alike Compilation.Reordered (compile value registry).outcome (compile value' registry).outcome ∧
      Alike (fun page page' => Multiset.Rel Visited.Moved (page.preorder registry : Multiset Visited)
          (page'.preorder registry : Multiset Visited))
        (read value).outcome (read value').outcome := by
  have reads := alike_outcome_read_of_reordered h
  rw [outcome_compile, outcome_compile]
  generalize (read value).outcome = first at reads distinct ⊢
  generalize (read value').outcome = second at reads ⊢
  cases reads with
  | error fault => exact ⟨.error fault, .error fault⟩
  | @ok page page' same =>
    have moved := moved_preorder same.2 (distinct page rfl)
    refine ⟨.ok ?_, .ok moved⟩
    beta_reduce
    rw [value_walk inUse_start, value_walk inUse_start, same.1]
    exact .ofOutcomes _ moved

def boxAndText (outer inner : List Json → List Json) : Json :=
  let selector : Json := .object [("css", .string "x")]
  .object [("elements", .array (outer [
    .object [("name", .string "box"), ("selector", selector), ("elements", .array (inner [
      .object [("name", .string "row"), ("selector", selector)],
      .object [("selector", selector)]]))],
    .string "text"]))]

theorem reordered_boxAndText :
    (boxAndText id id).Reordered .page (boxAndText List.reverse List.reverse) := by
  have outer : (boxAndText id id).Reordered .page (boxAndText List.reverse id) :=
    .single (.here ⟨_, _, rfl, rfl, (List.reverse_perm _).symm, rfl⟩)
  exact outer.tail (@ChangedIn.among _ _ .element _ "elements" [_] [] _ _ rfl rfl
    (.here ⟨_, _, rfl, rfl, (List.reverse_perm _).symm, rfl⟩))

theorem compile_reordered_boxAndText :
    ∃ compilation compilation', (compile (boxAndText id id) .standard).outcome = .ok compilation ∧
      compilation.accessors.map Accessor.name = ["getBoxElement", "getRowElement"] ∧
      compilation.diagnostics.map (fun found => found.fault.code) = [1001, 1010] ∧
      (compile (boxAndText List.reverse List.reverse) .standard).outcome = .ok compilation' ∧
      compilation.Reordered compilation' := by
  obtain ⟨compilation, compiled, names, codes⟩ := exists_of_outline
    (show outline (boxAndText id id) .standard = some (["getBoxElement", "getRowElement"], [1001, 1010]) by
      decide +kernel)
  obtain ⟨page, found, asked⟩ := exists_of_summary
    (show summary (fun here => here.visit.accessorName? .standard) (boxAndText id id) .standard =
      some [some "getBoxElement", some "getRowElement", none, none] by decide +kernel)
  have distinct : ∀ page, (read (boxAndText id id)).outcome = .ok page →
      (Visit.namesBehind .standard (page.preorder .standard)).Nodup := by
    intro other again
    cases found.symm.trans again
    have names := congrArg (List.filterMap id) asked
    rw [List.filterMap_map, Function.id_comp] at names
    rw [Visit.namesBehind, names]
    decide
  have related := (compile_reordered reordered_boxAndText distinct).1
  rw [compiled] at related
  generalize compiled' : (compile (boxAndText List.reverse List.reverse) .standard).outcome = result at related
  cases related with
  | ok same => exact ⟨compilation, _, compiled, names, codes, rfl, same⟩

end Page

end PageObject
