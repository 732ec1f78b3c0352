import Mathlib.Data.List.Nodup
import PageObject.Proofs.Page.Lockstep
import PageObject.Proofs.Page.Traversal
import PageObject.Proofs.Signature.Merge

namespace PageObject

def Visited.report? (visited : Visited) : Option (NodePath × Diagnostic) :=
  visited.diagnostic?.map fun diagnostic => (visited.visit.path, diagnostic)

def Visited.code? (visited : Visited) : Option Nat :=
  visited.diagnostic?.map fun diagnostic => diagnostic.fault.code

/-- The accessor name that a node takes: the one it asks for, unless that is in use. -/
def Visit.takenName? (visit : Visit) (registry : Registry) (earlier : List Visited) : Option String :=
  (visit.accessorName? registry).filter fun name => name ∉ namesBehind registry earlier

theorem Visit.takenName?_eq_some_iff {visit : Visit} {registry : Registry} {earlier : List Visited}
    {name : String} :
    visit.takenName? registry earlier = some name ↔
      visit.accessorName? registry = some name ∧ name ∉ namesBehind registry earlier := by
  unfold takenName?
  rw [Option.filter_eq_some_iff]
  simp

/-- A page without one of its nodes compiles to the same accessors, and of the other nodes the same is
reported, but for the paths of those that have moved up. -/
def Page.Isolated (value : Json) (registry : Registry) (compilation : Compilation) (target : NodePath)
    (others : List Visited) : Prop :=
  ∃ rest, (compile (value.eraseNode target) registry).outcome = .ok rest ∧
    rest.rootLocator = compilation.rootLocator ∧ rest.accessors = compilation.accessors ∧
    List.Forall₂ (fun report diagnostic =>
        report.2.SameUpTo report.1.text (report.1.without target).text diagnostic)
      (others.filterMap Visited.report?) rest.diagnostics

section Survivors

variable {target : NodePath} {registry : Registry} {visited visited' : Visited}
  {others others' : List Visited}

theorem Visited.Survives.accessor? (survives : visited.Survives target registry visited') :
    visited'.accessor? = visited.accessor? := by
  have same := survives.outcome
  unfold Visited.accessor?
  cases visited with
  | mk visit outcome =>
    cases visited' with
    | mk visit' outcome' => cases same <;> rfl

theorem Visited.Survives.code? (survives : visited.Survives target registry visited') :
    visited'.code? = visited.code? := by
  have same := survives.outcome
  unfold Visited.code? Visited.diagnostic?
  cases visited with
  | mk visit outcome =>
    cases visited' with
    | mk visit' outcome' =>
      cases same with
      | built accessor => rfl
      | skipped same => exact congrArg some same.fault.code.symm

theorem filterMap_of_survive {β : Type} {f : Visited → Option β}
    (keeps : ∀ visited visited', visited.Survives target registry visited' → f visited' = f visited)
    (survive : List.Forall₂ (Visited.Survives target registry) others others') :
    others'.filterMap f = others.filterMap f := by
  induction survive with
  | nil => rfl
  | cons survives survive ih => rw [List.filterMap_cons, List.filterMap_cons, keeps _ _ survives, ih]

theorem reports_of_survive (survive : List.Forall₂ (Visited.Survives target registry) others others') :
    List.Forall₂ (fun report diagnostic =>
        report.2.SameUpTo report.1.text (report.1.without target).text diagnostic)
      (others.filterMap Visited.report?) (others'.filterMap Visited.diagnostic?) := by
  induction survive with
  | nil => exact .nil
  | @cons visited visited' others others' survives survive ih =>
    have same := survives.outcome
    have path : visited'.visit.path = visited.visit.path.without target :=
      congrArg Visit.path survives.visit
    rcases visited with ⟨visit, outcome⟩
    rcases visited' with ⟨visit', outcome'⟩
    cases same with
    | built accessor => exact ih
    | skipped same =>
      simp only at path
      rw [path] at same
      exact .cons same ih

theorem codes_of_reports {reports : List (NodePath × Diagnostic)} {diagnostics : List Diagnostic}
    (same : List.Forall₂ (fun report diagnostic =>
      report.2.SameUpTo report.1.text (report.1.without target).text diagnostic) reports diagnostics) :
    diagnostics.map (fun diagnostic => diagnostic.fault.code) =
      reports.map fun report => report.2.fault.code := by
  induction same with
  | nil => rfl
  | cons same others ih => rw [List.map_cons, List.map_cons, ih, same.fault.code]

end Survivors

namespace Page

variable {value : Json} {page : Page} {registry : Registry} {target : NodePath}

theorem read_eraseNode (found : (read value).outcome = .ok page) (nonempty : target ≠ []) :
    ∃ rest, (read (value.eraseNode target)).outcome = .ok rest ∧
      rest.rootLocator = page.rootLocator ∧ rest.visits = Visit.eraseFrom target page.visits := by
  rcases List.exists_cons_of_ne_nil nonempty with ⟨place, below, rfl⟩
  rw [Json.eraseNode_cons]
  exact ⟨_, read_mapNodes (Json.eraseIn_nil ..) found, rfl,
    (Visit.eraseFrom_ofNested page.nested (Scope.root false) (Scope.root true) [] place below).symm⟩

theorem compile_eraseNode (found : (read value).outcome = .ok page) (nonempty : target ≠ []) :
    (compile (value.eraseNode target) registry).outcome = .ok (.ofOutcomes page.rootLocator
      ((PageObject.preorder registry [] (Visit.eraseFrom target page.visits)).map Visited.outcome)) := by
  rcases read_eraseNode found nonempty with ⟨rest, readable, locator, visits⟩
  refine outcome_compile_eq_ok_iff.mpr ⟨rest, readable, ?_⟩
  rw [value_walk inUse_start, locator, visits]

section Split

variable {earlier between later : List Visited} {here : Visited} {diagnostic : Diagnostic}

theorem path_ne_of_split (split : page.preorder registry = earlier ++ here :: later) :
    ∀ other ∈ earlier ++ later, other.visit.path ≠ here.visit.path := by
  have unique := page.nodup_paths registry
  rw [split, List.map_append, List.map_cons, List.nodup_append, List.nodup_cons] at unique
  rcases unique with ⟨_, ⟨fresh, _⟩, apart⟩
  intro other member same
  rcases List.mem_append.mp member with member | member
  · exact apart _ (List.mem_map_of_mem member) _ List.mem_cons_self same
  · exact fresh (List.mem_map.mpr ⟨other, member, same⟩)

theorem eq_of_path_eq (split : page.preorder registry = earlier ++ here :: later) {other : Visited}
    (member : other ∈ page.preorder registry) (same : other.visit.path = here.visit.path) :
    other = here :=
  List.inj_on_of_nodup_map (page.nodup_paths registry) member (mem_of_split split) same

theorem inner_of_skipped (skipped : here.outcome = .skipped diagnostic) :
    here.inner registry = [] := by
  unfold Visited.inner
  rw [skipped]

theorem accessors_of_skipped (skipped : here.outcome = .skipped diagnostic) :
    (earlier ++ here :: later).filterMap Visited.accessor? =
      (earlier ++ later).filterMap Visited.accessor? := by
  have none : here.accessor? = none := by rw [Visited.accessor?, skipped]; rfl
  rw [List.filterMap_append, List.filterMap_cons_none none, List.filterMap_append]

theorem diagnostics_of_skipped (skipped : here.outcome = .skipped diagnostic) :
    (earlier ++ here :: later).filterMap Visited.diagnostic? =
      earlier.filterMap Visited.diagnostic? ++ diagnostic :: later.filterMap Visited.diagnostic? := by
  have some : here.diagnostic? = some diagnostic := Visited.diagnostic?_eq_some_iff.mpr skipped
  rw [List.filterMap_append, List.filterMap_cons_some some]

theorem removable_of_split (found : (read value).outcome = .ok page)
    (split : page.preorder registry = earlier ++ here :: (between ++ later))
    (skipped : here.outcome = .skipped diagnostic)
    (free : ∀ name, here.visit.takenName? registry earlier = some name →
      ∀ other ∈ between, other.visit.accessorName? registry ≠ some name) :
    Removable here.visit.path registry (here.visit.takenName? registry earlier) []
      (earlier ++ here :: between) := by
  have visited : ∀ other ∈ earlier ++ here :: between, other ∈ page.preorder registry := by
    intro other member
    rw [split, ← List.cons_append, ← List.append_assoc]
    exact List.mem_append_left _ member
  refine ⟨?_, ?_, ?_, ?_⟩
  · intro other member stays name asked reserved
    rcases List.mem_append.mp member with member | member
    · exact (Visit.takenName?_eq_some_iff.mp reserved).2 (Visit.mem_namesBehind_of_asked member asked)
    · rcases List.mem_cons.mp member with rfl | member
      · exact stays rfl
      · exact free name reserved other member asked
  · intro other member same
    rw [eq_of_path_eq split (visited other member) same]
    exact inner_of_skipped skipped
  · -- There is one node at that path, so what came before it is what came before the skipped one.
    intro first other second again same name asked
    have isHere := eq_of_path_eq split (visited other (by rw [again]; simp)) same
    subst isHere
    have apart := path_ne_of_split split other
    have notBefore : other ∉ earlier := fun member => apart (by simp [member]) rfl
    have notBehind : other ∉ between := fun member => apart (by simp [member]) rfl
    rcases (List.append_cons_inj_of_notMem notBefore notBehind).mp again with ⟨rfl, -, -⟩
    rw [List.nil_append]
    by_cases known : name ∈ Visit.namesBehind registry earlier
    · exact .inr known
    · exact .inl (Visit.takenName?_eq_some_iff.mpr ⟨asked, known⟩)
  · -- A node around the skipped one got its accessor, so it can be read.
    intro other member isPrefix proper
    have inside := visited other member
    have nonempty := path_ne_nil_of_mem_preorder found other inside
    rcases List.append_of_mem inside with ⟨first, second, again⟩
    obtain ⟨parent, above, path, accessor, built⟩ :=
      built_above_of_mem_preorder found here (visited here (by simp)) _ nonempty isPrefix proper
    rw [eq_of_path_eq again above path] at built
    rcases read_of_built inside built with ⟨element, readable, compiled⟩
    exact ⟨element, readable⟩

theorem exists_lockstep_of_split (found : (read value).outcome = .ok page)
    (split : page.preorder registry = earlier ++ here :: (between ++ later))
    (skipped : here.outcome = .skipped diagnostic)
    (free : ∀ name, here.visit.takenName? registry earlier = some name →
      ∀ other ∈ between, other.visit.accessorName? registry ≠ some name) :
    ∃ pending before, later = PageObject.preorder registry (earlier ++ here :: between) pending ∧
      PageObject.preorder registry [] (Visit.eraseFrom here.visit.path page.visits) =
        before ++ PageObject.preorder registry before (Visit.eraseFrom here.visit.path pending) ∧
      List.Forall₂ (Visited.Survives here.visit.path registry) (earlier ++ between) before := by
  have again : PageObject.preorder registry [] page.visits = earlier ++ here :: between ++ later := by
    rw [List.append_assoc]
    exact split
  have agree : Visit.AgreeBut (here.visit.takenName? registry earlier) registry [] [] :=
    fun name outside => .rfl
  obtain ⟨pending, before, behind, elsewhere, survive⟩ :=
    exists_lockstep again agree (removable_of_split found split skipped free)
  have kept : (earlier ++ here :: between).filter (fun other => other.visit.path ≠ here.visit.path) =
      earlier ++ between := by
    rw [List.filter_append, List.filter_cons_of_neg (by simp), ← List.filter_append]
    refine List.filter_eq_self.mpr fun other member => decide_eq_true ?_
    apply path_ne_of_split split other
    rw [← List.append_assoc]
    exact List.mem_append_left _ member
  rw [kept] at survive
  exact ⟨pending, before, behind, elsewhere, survive⟩

theorem isolated_of_split (found : (read value).outcome = .ok page)
    (split : page.preorder registry = earlier ++ here :: later)
    (skipped : here.outcome = .skipped diagnostic)
    (free : ∀ name, here.visit.takenName? registry earlier = some name →
      ∀ other ∈ later, other.visit.accessorName? registry ≠ some name) :
    Isolated value registry
      (.ofOutcomes page.rootLocator ((page.preorder registry).map Visited.outcome))
      here.visit.path (earlier ++ later) := by
  have whole : page.preorder registry = earlier ++ here :: (later ++ []) := by rwa [List.append_nil]
  obtain ⟨pending, before, behind, elsewhere, survive⟩ :=
    exists_lockstep_of_split found whole skipped free
  have done : pending = [] := by
    cases pending with
    | nil => rfl
    | cons visit rest =>
      rw [preorder_cons] at behind
      cases behind
  subst done
  have elsewhere : PageObject.preorder registry [] (Visit.eraseFrom here.visit.path page.visits) =
      before := by
    rw [elsewhere, Visit.eraseFrom, List.filter_nil, List.map_nil, preorder_nil, List.append_nil]
  have nonempty := path_ne_nil_of_mem_preorder found here (mem_of_split split)
  refine ⟨_, compile_eraseNode found nonempty, rfl, ?_, ?_⟩
  · rw [elsewhere, split, Compilation.accessors_ofOutcomes, Compilation.accessors_ofOutcomes,
      accessors_of_skipped skipped]
    exact filterMap_of_survive (fun _ _ survives => survives.accessor?) survive
  · rw [elsewhere, Compilation.diagnostics_ofOutcomes]
    exact reports_of_survive survive

theorem exists_first_namesake {name : String}
    (asked : ∃ other ∈ later, other.visit.accessorName? registry = some name) :
    ∃ between next rest, later = between ++ next :: rest ∧
      next.visit.accessorName? registry = some name ∧
      ∀ other ∈ between, other.visit.accessorName? registry ≠ some name := by
  rcases asked with ⟨other, member, same⟩
  have some : (later.find? fun other => other.visit.accessorName? registry = some name).isSome :=
    List.find?_isSome.mpr ⟨other, member, decide_eq_true same⟩
  rcases Option.isSome_iff_exists.mp some with ⟨next, found⟩
  rcases List.find?_eq_some_iff_append.mp found with ⟨asks, between, rest, split, before⟩
  exact ⟨between, next, rest, split, by simpa using asks, by simpa using before⟩

theorem takenName_ne_of_mem_accessors (split : page.preorder registry = earlier ++ here :: later)
    (skipped : here.outcome = .skipped diagnostic) {name : String}
    (taken : here.visit.takenName? registry earlier = some name) :
    ∀ accessor ∈ (page.preorder registry).filterMap Visited.accessor?, accessor.name ≠ name := by
  intro accessor member same
  rcases Visit.takenName?_eq_some_iff.mp taken with ⟨asked, free⟩
  rcases List.mem_filterMap.mp member with ⟨other, visited, built⟩
  have built := Visited.accessor?_eq_some_iff.mp built
  have named : ∀ before after, page.preorder registry = before ++ other :: after →
      accessor.name ∉ Visit.namesBehind registry before ∧
        other.visit.accessorName? registry = some name := by
    intro before after again
    have h := Visit.name_of_outcomeBehind ((outcome_of_split again).symm.trans built)
    exact ⟨h.1, same ▸ h.2⟩
  rw [split] at visited
  rcases List.mem_append.mp visited with early | behind
  · rcases List.append_of_mem early with ⟨before, after, rfl⟩
    rcases named before (after ++ here :: later) (by simpa using split) with ⟨fresh, asks⟩
    exact free (Visit.mem_namesBehind_of_asked (by simp) asks)
  · rcases List.mem_cons.mp behind with rfl | behind
    · rw [built] at skipped
      cases skipped
    · rcases List.append_of_mem behind with ⟨before, after, rfl⟩
      rcases named (earlier ++ here :: before) after (by simpa using split) with ⟨fresh, asks⟩
      rw [same] at fresh
      exact fresh (Visit.mem_namesBehind_of_asked (by simp) asked)

theorem outcome_of_free {visit : Visit} {name : String}
    (asked : visit.accessorName? registry = some name) (free : name ∉ Visit.namesBehind registry earlier) :
    (∃ accessor, visit.outcomeBehind registry earlier = .built accessor ∧ accessor.name = name) ∨
      ∃ diagnostic, visit.outcomeBehind registry earlier = .skipped diagnostic ∧
        diagnostic.fault.code = 1006 := by
  rcases Visit.accessorName?_eq_some_iff.mp asked with ⟨element, found, rfl⟩
  rw [Visit.outcomeBehind_of_read found, if_neg free, AccessorPlan.outcome_build]
  cases conflict : (element.plan visit.scope registry).merge.conflict with
  | none => exact .inl ⟨_, rfl, rfl⟩
  | some fault => exact .inr ⟨_, rfl, congrArg Prod.fst (Signature.form_of_conflict conflict)⟩

theorem outcome_of_known {visit : Visit} {name : String}
    (asked : visit.accessorName? registry = some name) (known : name ∈ Visit.namesBehind registry earlier) :
    ∃ diagnostic, visit.outcomeBehind registry earlier = .skipped diagnostic ∧
      diagnostic.fault.code = 1011 := by
  rcases Visit.accessorName?_eq_some_iff.mp asked with ⟨element, found, rfl⟩
  rw [Visit.outcomeBehind_of_read found, if_pos known]
  exact ⟨_, rfl, rfl⟩

theorem codes_of_isolated {compilation : Compilation} {others visited : List Visited}
    (isolated : Isolated value registry compilation target others)
    (compiled : (compile (value.eraseNode target) registry).outcome =
      .ok (.ofOutcomes page.rootLocator (visited.map Visited.outcome))) :
    visited.filterMap Visited.code? = others.filterMap Visited.code? := by
  rcases isolated with ⟨rest, again, locator, accessors, reports⟩
  rw [compiled] at again
  cases again
  have codes := codes_of_reports reports
  rw [Compilation.diagnostics_ofOutcomes, List.map_filterMap, List.map_filterMap] at codes
  have report : (fun other : Visited => other.report?.map fun report => report.2.fault.code) =
      Visited.code? := by
    funext other
    unfold Visited.report? Visited.code?
    cases other.diagnostic? <;> rfl
  rw [report] at codes
  exact codes

/-- Up to the first node that asks for the name that a skipped one took, both traversals agree. There
the name is in use in one of them and free in the other. -/
theorem exists_namesake_of_split (found : (read value).outcome = .ok page)
    (split : page.preorder registry = earlier ++ here :: later)
    (skipped : here.outcome = .skipped diagnostic) {name : String}
    (taken : here.visit.takenName? registry earlier = some name)
    (asked : ∃ other ∈ later, other.visit.accessorName? registry = some name) :
    ∃ between next after before next' after', later = between ++ next :: after ∧
      PageObject.preorder registry [] (Visit.eraseFrom here.visit.path page.visits) =
        before ++ next' :: after' ∧
      List.Forall₂ (Visited.Survives here.visit.path registry) (earlier ++ between) before ∧
      next.code? = some 1011 ∧
      ((∃ accessor, next'.accessor? = some accessor ∧ accessor.name = name) ∨ next'.code? = some 1006) := by
  rcases exists_first_namesake asked with ⟨between, next, after, rfl, asks, unasked⟩
  rcases Visit.takenName?_eq_some_iff.mp taken with ⟨asksHere, free⟩
  have stays := path_ne_of_split split next (by simp)
  have unasked' : ∀ other, here.visit.takenName? registry earlier = some other →
      ∀ visited ∈ between, visited.visit.accessorName? registry ≠ some other := by
    intro other same
    rw [taken] at same
    cases same
    exact unasked
  obtain ⟨pending, before, behind, elsewhere, survive⟩ :=
    exists_lockstep_of_split found split skipped unasked'
  rcases exists_of_preorder_eq_cons behind.symm with ⟨visit, others, rfl, rfl, hAfter⟩
  have stays : visit.path ≠ here.visit.path := stays
  have asks : visit.accessorName? registry = some name := asks
  rw [Visit.eraseFrom_cons_of_ne stays, preorder_cons] at elsewhere
  refine ⟨between, _, after, before, _, _, rfl, elsewhere, survive, ?_, ?_⟩
  · have known : name ∈ Visit.namesBehind registry (earlier ++ here :: between) :=
      Visit.mem_namesBehind_of_asked (by simp) asksHere
    rcases outcome_of_known asks known with ⟨diagnostic, outcome, code⟩
    rw [Visited.code?, Visited.diagnostic?_eq_some_iff.mpr outcome, Option.map_some, code]
  · have asks' : (visit.without here.visit.path).accessorName? registry = some name := by
      rw [Visit.accessorName?_without stays, asks]
      intro isPrefix
      rcases Visit.accessorName?_eq_some_iff.mp asks with ⟨element, readable, named⟩
      exact ⟨element, readable⟩
    have free' : name ∉ Visit.namesBehind registry before := by
      intro known
      have names := filterMap_of_survive (fun _ _ survives => survives.name) survive
      unfold Visit.namesBehind at known free
      rw [names, List.filterMap_append, ← List.cons_append, List.mem_append] at known
      rcases known with known | known
      · exact free known
      · rcases List.mem_filterMap.mp known with ⟨other, member, same⟩
        exact unasked other member same
    rcases outcome_of_free asks' free' with ⟨accessor, built, named⟩ | ⟨diagnostic, conflict, code⟩
    · exact .inl ⟨accessor, Visited.accessor?_eq_some_iff.mpr built, named⟩
    · right
      rw [Visited.code?, Visited.diagnostic?_eq_some_iff.mpr conflict, Option.map_some, code]

theorem not_isolated_of_namesake (found : (read value).outcome = .ok page)
    (split : page.preorder registry = earlier ++ here :: later)
    (skipped : here.outcome = .skipped diagnostic) {name : String}
    (taken : here.visit.takenName? registry earlier = some name)
    (asked : ∃ other ∈ later, other.visit.accessorName? registry = some name) :
    ¬ Isolated value registry
      (.ofOutcomes page.rootLocator ((page.preorder registry).map Visited.outcome))
      here.visit.path (earlier ++ later) := by
  intro isolated
  obtain ⟨between, next, after, before, next', after', rfl, elsewhere, survive, duplicate, differs⟩ :=
    exists_namesake_of_split found split skipped taken asked
  have nonempty := path_ne_nil_of_mem_preorder found here (mem_of_split split)
  have compiled := @compile_eraseNode value page registry _ found nonempty
  rw [elsewhere] at compiled
  rcases differs with ⟨accessor, built, named⟩ | conflict
  · rcases isolated with ⟨rest, again, locator, accessors, reports⟩
    rw [compiled] at again
    cases again
    rw [Compilation.accessors_ofOutcomes, Compilation.accessors_ofOutcomes] at accessors
    have member : accessor ∈ (before ++ next' :: after').filterMap Visited.accessor? :=
      List.mem_filterMap.mpr ⟨next', by simp, built⟩
    rw [accessors] at member
    exact takenName_ne_of_mem_accessors split skipped taken accessor member named
  · have codes := codes_of_isolated isolated compiled
    have same := filterMap_of_survive (fun _ _ survives => survives.code?) survive
    have original : (earlier ++ (between ++ next :: after)).filterMap Visited.code? =
        (earlier ++ between).filterMap Visited.code? ++ 1011 :: after.filterMap Visited.code? := by
      rw [← List.append_assoc, List.filterMap_append, List.filterMap_cons_some duplicate]
    rw [original, List.filterMap_append, same, List.filterMap_cons_some conflict] at codes
    cases List.append_cancel_left codes

theorem isolated_iff {compilation : Compilation} (h : (compile value registry).outcome = .ok compilation)
    (found : (read value).outcome = .ok page)
    (split : page.preorder registry = earlier ++ here :: later)
    (skipped : here.outcome = .skipped diagnostic) :
    compilation.diagnostics =
        earlier.filterMap Visited.diagnostic? ++ diagnostic :: later.filterMap Visited.diagnostic? ∧
      (Isolated value registry compilation here.visit.path (earlier ++ later) ↔
        ∀ name, here.visit.takenName? registry earlier = some name →
          ∀ other ∈ later, other.visit.accessorName? registry ≠ some name) := by
  rcases compilation_of_outcome_compile h with ⟨same, again, rfl⟩
  rw [found] at again
  cases again
  constructor
  · rw [Compilation.diagnostics_ofOutcomes, split, diagnostics_of_skipped skipped]
  · constructor
    · intro isolated name taken other member asked
      exact not_isolated_of_namesake found split skipped taken ⟨other, member, asked⟩ isolated
    · exact isolated_of_split found split skipped

end Split

def facts (registry : Registry) (here : Visited) : NodePath × Option String × Option Nat :=
  (here.visit.path, here.visit.accessorName? registry, here.code?)

theorem exists_of_facts {path path' : NodePath} {name name' : Option String} {code : Nat}
    {code' : Option Nat}
    (h : summary (facts registry) value registry = some [(path, name, some code), (path', name', code')]) :
    ∃ page here other diagnostic, (read value).outcome = .ok page ∧
      page.preorder registry = [] ++ here :: [other] ∧ here.visit.path = path ∧
      here.outcome = .skipped diagnostic ∧ diagnostic.fault.code = code ∧
      here.visit.accessorName? registry = name ∧ other.visit.accessorName? registry = name' ∧
      other.code? = code' := by
  rcases exists_of_summary h with ⟨page, found, h⟩
  rcases List.map_eq_cons_iff.mp h with ⟨here, rest, split, first, h⟩
  rcases List.map_eq_cons_iff.mp h with ⟨other, rest, rfl, second, h⟩
  cases List.map_eq_nil_iff.mp h
  cases second
  rcases Prod.mk.inj first |>.imp_right Prod.mk.inj with ⟨hPath, hName, hCode⟩
  rcases Option.map_eq_some_iff.mp hCode with ⟨diagnostic, reported, sameCode⟩
  exact ⟨page, here, other, diagnostic, found, split, hPath,
    Visited.diagnostic?_eq_some_iff.mp reported, sameCode, hName, rfl, rfl⟩

def conflictBefore (name : String) : Json :=
  let parameter (type : String) : Json := .object [("name", .string "x"), ("type", .string type)]
  .object [("elements", .array [
    .object [("name", .string "foo"), ("selector", .object [("css", .string "%s%d"),
      ("args", .array [parameter "string", parameter "number"])])],
    .object [("name", .string name), ("selector", .object [("css", .string "a")])]])]

theorem isolated_iff_conflictBefore :
    ∃ (compilation : Compilation) (page : Page) (here other : Visited) (diagnostic : Diagnostic),
      (compile (conflictBefore "bar") .standard).outcome = .ok compilation ∧
      page.preorder .standard = [] ++ here :: [other] ∧ here.outcome = .skipped diagnostic ∧
      diagnostic.fault.code = 1006 ∧ compilation.diagnostics = [diagnostic] ∧
      Isolated (conflictBefore "bar") .standard compilation here.visit.path [other] := by
  obtain ⟨page, here, other, diagnostic, found, split, path, skipped, code, name, name', code'⟩ :=
    exists_of_facts (show summary (facts .standard) (conflictBefore "bar") .standard =
      some [([⟨false, 0⟩], some "getFooElement", some 1006),
        ([⟨false, 1⟩], some "getBarElement", none)] by decide +kernel)
  obtain ⟨compilation, compiled, names, codes⟩ := exists_of_outline
    (show outline (conflictBefore "bar") .standard = some (["getBarElement"], [1006]) by decide +kernel)
  rcases isolated_iff compiled found split skipped with ⟨reported, isolated⟩
  have silent : other.diagnostic? = none := Option.map_eq_none_iff.mp code'
  refine ⟨compilation, page, here, other, diagnostic, compiled, split, skipped, code, ?_, isolated.mpr ?_⟩
  · rw [reported, List.filterMap_nil, List.filterMap_cons_none silent]
    rfl
  · intro taken same another member
    have asked := (Visit.takenName?_eq_some_iff.mp same).1
    rw [name] at asked
    rw [List.mem_singleton.mp member, name', ← asked]
    decide

/-- A declaration that fails may leave its accessor name in use: without the first `foo` the second
one gets its accessor. -/
theorem not_forall_isolated :
    ¬ ∀ (value : Json) (registry : Registry) (compilation : Compilation) (page : Page)
      (earlier later : List Visited) (here : Visited) (diagnostic : Diagnostic),
      (compile value registry).outcome = .ok compilation → (read value).outcome = .ok page →
      page.preorder registry = earlier ++ here :: later → here.outcome = .skipped diagnostic →
      Isolated value registry compilation here.visit.path (earlier ++ later) := by
  intro all
  obtain ⟨page, here, other, diagnostic, found, split, path, skipped, code, name, name', code'⟩ :=
    exists_of_facts (show summary (facts .standard) (conflictBefore "foo") .standard =
      some [([⟨false, 0⟩], some "getFooElement", some 1006),
        ([⟨false, 1⟩], some "getFooElement", some 1011)] by decide +kernel)
  obtain ⟨compilation, compiled, names, codes⟩ := exists_of_outline
    (show outline (conflictBefore "foo") .standard = some ([], [1006, 1011]) by decide +kernel)
  obtain ⟨rest, again, locator, accessors, reports⟩ :=
    all _ _ _ _ _ _ _ _ compiled found split skipped
  obtain ⟨without, erased, names', codes'⟩ := exists_of_outline
    (show outline ((conflictBefore "foo").eraseNode [⟨false, 0⟩]) .standard =
      some (["getFooElement"], []) by decide +kernel)
  rw [path, erased] at again
  cases again
  rw [accessors, names] at names'
  cases names'

end Page

end PageObject
