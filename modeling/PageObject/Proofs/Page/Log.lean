import Mathlib.Data.List.DropRight
import PageObject.Proofs.Page.Traversal
import PageObject.Proofs.Selector.Root
import PageObject.Proofs.Signature.Merge

namespace PageObject

theorem append_eq_append_cons {α : Type} {first second before after : List α} {item : α}
    (h : first ++ second = before ++ item :: after) :
    (∃ middle, first = before ++ item :: middle) ∨
      ∃ middle, before = first ++ middle ∧ second = middle ++ item :: after := by
  rcases List.append_eq_append_iff.mp h with ⟨middle, split, rest⟩ | ⟨middle, split, rest⟩
  · exact .inr ⟨middle, split, rest⟩
  · cases middle with
    | nil => exact .inr ⟨[], by simpa using split.symm, rest.symm⟩
    | cons other middle =>
      cases rest
      exact .inl ⟨middle, split⟩

namespace Event

def hasMessage (message : String) (event : Event) : Bool := event.message = message

variable {message other : String} {events : List Event}

theorem not_hasMessage_of_other {event : Event} (said : event.hasMessage other) (differ : other ≠ message) :
    event.hasMessage message = false := by
  have same : event.message = other := of_decide_eq_true said
  rw [hasMessage, same]
  exact decide_eq_false differ

theorem filter_hasMessage_of_others (said : ∀ event ∈ events, event.hasMessage other)
    (differ : other ≠ message) :
    events.filter (hasMessage message) = [] := by
  apply List.filter_eq_nil_iff.mpr
  intro event member
  simp [not_hasMessage_of_other (said event member) differ]

/-- Neither the root selectors at the start nor the count at the end is an event of another kind. -/
theorem filter_hasMessage_between {start : List Event}
    (roots : ∀ event ∈ start, event.hasMessage "parsed root selector")
    (notRoot : "parsed root selector" ≠ message) (notLast : "compiled page object" ≠ message)
    (methodCount diagnosticCount : Nat) :
    (start ++ (events ++ [compiledPage methodCount diagnosticCount])).filter (hasMessage message) =
      events.filter (hasMessage message) := by
  have before : start.filter (hasMessage message) = [] := filter_hasMessage_of_others roots notRoot
  have last : (compiledPage methodCount diagnosticCount).hasMessage message = false := decide_eq_false notLast
  rw [List.filter_append, before, List.nil_append, List.filter_append, List.filter_cons_of_neg (by simp [last]),
    List.filter_nil, List.append_nil]

theorem countP_hasMessage_of_others (said : ∀ event ∈ events, event.hasMessage other)
    (differ : other ≠ message) :
    events.countP (hasMessage message) = 0 := by
  rw [List.countP_eq_length_filter, filter_hasMessage_of_others said differ, List.length_nil]

theorem rtakeWhile_hasMessage_of_others (said : ∀ event ∈ events, event.hasMessage other)
    (differ : other ≠ message) :
    events.rtakeWhile (hasMessage message) = [] := by
  apply List.rtakeWhile_eq_nil_iff.mpr
  intro nonempty
  simp [not_hasMessage_of_other (said _ (List.getLast_mem nonempty)) differ]

theorem rtakeWhile_hasMessage_append (start : List Event) (said : ∀ event ∈ events, event.hasMessage message) :
    (start ++ events).rtakeWhile (hasMessage message) = start.rtakeWhile (hasMessage message) ++ events := by
  have reversed : ∀ event ∈ events.reverse, event.hasMessage message :=
    fun event member => said event (List.mem_reverse.mp member)
  simp [List.rtakeWhile, List.takeWhile_append_of_pos reversed]

def isAddition : Event → Bool := hasMessage "added method parameter"

def isBuilt : Event → Bool := hasMessage "built element accessor"

def isSkipped : Event → Bool := hasMessage "skipped element declaration"

end Event

def Accessor.builtEvent (accessor : Accessor) : Event :=
  .builtAccessor accessor.name accessor.parameters.length accessor.returnType

def Accessor.additions (accessor : Accessor) : List Event :=
  accessor.parameters.map fun parameter => .addedParameter ("method '" ++ accessor.name ++ "'") parameter.name

def Diagnostic.skippedEvent (diagnostic : Diagnostic) : Event :=
  .skippedElement diagnostic.element diagnostic.fault.code

def Accessor.builtFields (accessor : Accessor) : List (String × String) :=
  [("method", accessor.name), ("parameters", toString accessor.parameters.length),
    ("return_type", accessor.returnType.displayName)]

def Accessor.additionFields (accessor : Accessor) : List (List (String × String)) :=
  accessor.parameters.map fun parameter =>
    [("owner", "method '" ++ accessor.name ++ "'"), ("parameter", parameter.name)]

def Diagnostic.skippedFields (diagnostic : Diagnostic) : List (String × String) :=
  [("element", diagnostic.element), ("code", toString diagnostic.fault.code)]

/-- A log accounts for a compilation. The event of an accessor stands behind those of the accessors before it,
and what comes right before it, back to the last event of another kind, are the additions of its parameters. -/
structure Compilation.LoggedBy (compilation : Compilation) (log : List Event) : Prop where
  built : log.filter Event.isBuilt = compilation.accessors.map Accessor.builtEvent
  builtFields : (log.filter Event.isBuilt).map Event.details = compilation.accessors.map Accessor.builtFields
  skipped : log.filter Event.isSkipped = compilation.diagnostics.map Diagnostic.skippedEvent
  skippedFields : (log.filter Event.isSkipped).map Event.details =
    compilation.diagnostics.map Diagnostic.skippedFields
  additions : ∀ before event after, log = before ++ event :: after → event.isBuilt →
    ∃ accessor, compilation.accessors[before.countP Event.isBuilt]? = some accessor ∧
      event = accessor.builtEvent ∧ before.rtakeWhile Event.isAddition = accessor.additions ∧
      (before.rtakeWhile Event.isAddition).map Event.details = accessor.additionFields
  last : log.getLast? =
    some (.compiledPage compilation.accessors.length compilation.diagnostics.length)
  lastFields : log.getLast?.map Event.details = some [("methods", toString compilation.accessors.length),
    ("diagnostics", toString compilation.diagnostics.length)]

theorem Accessor.map_details_additions (accessor : Accessor) :
    accessor.additions.map Event.details = accessor.additionFields := by
  rw [additions, additionFields, List.map_map]
  rfl

namespace AccessorPlan

variable {plan : AccessorPlan} {registry : Registry}

theorem events_build_of_ok {accessor : Accessor} (built : (plan.build registry).run.value = .ok accessor) :
    (plan.build registry).run.events = accessor.additions ++ [accessor.builtEvent] := by
  rcases outcome_build_eq_ok_iff.mp built with ⟨noConflict, rfl⟩
  have added : plan.merge.events = (plan.accessor registry plan.merge.signature.parameters).additions := by
    have merged := Signature.signature_merge { owner := "method '" ++ plan.name ++ "'" } plan.required
    rw [← merge, List.nil_append] at merged
    rw [Signature.Merge.events, merged]
    rfl
  unfold build
  simp only [noConflict, added]
  rfl

theorem events_build_of_error {fault : Fault} (failed : (plan.build registry).run.value = .error fault) :
    (plan.build registry).run.events = plan.merge.events := by
  have failed : (plan.build registry).outcome = .error fault := failed
  rw [outcome_build] at failed
  unfold build
  cases conflict : plan.merge.conflict with
  | none =>
    rw [conflict] at failed
    cases failed
  | some fault =>
    simp only [conflict]
    rfl

end AccessorPlan

theorem Signature.Merge.isAddition_of_mem_events {merge : Merge} {event : Event}
    (member : event ∈ merge.events) :
    event.isAddition := by
  rcases List.mem_map.mp member with ⟨parameter, added, rfl⟩
  rfl

namespace Outcome

def event : Outcome → Event
  | .built accessor => accessor.builtEvent
  | .skipped diagnostic => diagnostic.skippedEvent

/-- The additions that may stand right before the event of an outcome: those of an accessor that was built, and
any before an element that was skipped, since its parameters are noted up to a conflict. -/
inductive Follows : Outcome → List Event → Prop where
  | built (accessor : Accessor) : Follows (.built accessor) accessor.additions
  | skipped (diagnostic : Diagnostic) {tried : List Event} (additions : ∀ event ∈ tried, event.isAddition) :
    Follows (.skipped diagnostic) tried

theorem Follows.isAddition {outcome : Outcome} {tried : List Event} (h : outcome.Follows tried) :
    ∀ event ∈ tried, event.isAddition := by
  cases h with
  | built accessor =>
    intro event member
    rcases List.mem_map.mp member with ⟨parameter, inside, rfl⟩
    rfl
  | skipped diagnostic additions => exact additions

theorem not_isAddition_event (outcome : Outcome) : outcome.event.isAddition = false := by
  cases outcome <;> rfl

end Outcome

theorem Visit.exists_events_run (visit : Visit) (taken : List String) (registry : Registry) :
    ∃ tried, (visit.run taken registry).value.outcome.Follows tried ∧
      (visit.run taken registry).events = tried ++ [(visit.run taken registry).value.outcome.event] := by
  unfold run
  split
  · exact ⟨[], .skipped _ (by simp), rfl⟩
  · rename_i element found
    simp only [compile]
    split
    · exact ⟨[], .skipped _ (by simp), rfl⟩
    · rw [Logged.value_bind, Logged.events_bind]
      cases built : ((element.plan visit.scope registry).build registry).run.value with
      | error fault =>
        rw [AccessorPlan.events_build_of_error built]
        exact ⟨_, .skipped _ fun event member => Signature.Merge.isAddition_of_mem_events member, rfl⟩
      | ok accessor =>
        rw [AccessorPlan.events_build_of_ok built]
        exact ⟨_, .built accessor, List.append_nil _⟩

inductive LogOf : List Outcome → List Event → Prop where
  | nil : LogOf [] []
  | cons {outcome : Outcome} {tried : List Event} {outcomes : List Outcome} {log : List Event}
    (first : outcome.Follows tried) (others : LogOf outcomes log) :
    LogOf (outcome :: outcomes) (tried ++ outcome.event :: log)

theorem logOf_walk (registry : Registry) (taken : List String) (visits : List Visit) :
    LogOf (walk registry taken visits).value (walk registry taken visits).events := by
  induction taken, visits using walk.induct registry with
  | case1 =>
    rw [walk]
    exact .nil
  | case2 taken visit rest step ih =>
    rcases visit.exists_events_run taken registry with ⟨tried, follows, events⟩
    rw [walk, events, List.append_assoc]
    exact .cons follows ih

namespace LogOf

variable {outcomes : List Outcome} {log start : List Event}

theorem filter_isBuilt (h : LogOf outcomes log) :
    log.filter Event.isBuilt = (outcomes.filterMap Outcome.accessor?).map Accessor.builtEvent := by
  induction h with
  | nil => rfl
  | @cons outcome tried outcomes log first others ih =>
    have none : tried.filter Event.isBuilt = [] :=
      Event.filter_hasMessage_of_others first.isAddition (by decide)
    rw [List.filter_append, none, List.nil_append]
    cases outcome with
    | built accessor => exact congrArg (accessor.builtEvent :: ·) ih
    | skipped diagnostic => exact ih

theorem filter_isSkipped (h : LogOf outcomes log) :
    log.filter Event.isSkipped = (outcomes.filterMap Outcome.diagnostic?).map Diagnostic.skippedEvent := by
  induction h with
  | nil => rfl
  | @cons outcome tried outcomes log first others ih =>
    have none : tried.filter Event.isSkipped = [] :=
      Event.filter_hasMessage_of_others first.isAddition (by decide)
    rw [List.filter_append, none, List.nil_append]
    cases outcome with
    | built accessor => exact ih
    | skipped diagnostic => exact congrArg (diagnostic.skippedEvent :: ·) ih

theorem additions_of_isBuilt (h : LogOf outcomes log) (ended : start.rtakeWhile Event.isAddition = [])
    {before after : List Event} {event : Event} (split : log = before ++ event :: after)
    (isBuilt : event.isBuilt) :
    ∃ accessor, (outcomes.filterMap Outcome.accessor?)[before.countP Event.isBuilt]? = some accessor ∧
      event = accessor.builtEvent ∧ (start ++ before).rtakeWhile Event.isAddition = accessor.additions := by
  induction h generalizing start before with
  | nil => simp at split
  | @cons outcome tried outcomes log first others ih =>
    have none : tried.countP Event.isBuilt = 0 := Event.countP_hasMessage_of_others first.isAddition (by decide)
    rcases append_eq_append_cons split with ⟨middle, rfl⟩ | ⟨middle, rfl, rest⟩
    · have addition := first.isAddition event (List.mem_append_right _ List.mem_cons_self)
      have other : event.isBuilt = false := Event.not_hasMessage_of_other addition (by decide)
      rw [other] at isBuilt
      cases isBuilt
    · cases middle with
      | nil =>
        cases rest
        cases first with
        | built accessor =>
          have all := (Outcome.Follows.built accessor).isAddition
          refine ⟨accessor, ?_, rfl, ?_⟩
          · rw [List.append_nil, none]
            rfl
          · have run := Event.rtakeWhile_hasMessage_append start all
            rw [List.append_nil]
            exact run.trans (by rw [← Event.isAddition, ended, List.nil_append])
        | skipped diagnostic additions => cases isBuilt
      | cons other middle =>
        cases rest
        have ended : (start ++ (tried ++ [outcome.event])).rtakeWhile Event.isAddition = [] := by
          rw [← List.append_assoc]
          exact List.rtakeWhile_concat_neg _ _ _ (by simp [outcome.not_isAddition_event])
        rcases ih ended rfl with ⟨accessor, held, same, additions⟩
        refine ⟨accessor, ?_, same, ?_⟩
        · rw [List.countP_append, none, Nat.zero_add]
          cases outcome with
          | built built =>
            rw [List.countP_cons_of_pos rfl]
            exact held
          | skipped diagnostic => exact held
        · simpa using additions

theorem additions_of_isBuilt_between (h : LogOf outcomes log)
    (roots : ∀ event ∈ start, event.hasMessage "parsed root selector") {methodCount diagnosticCount : Nat}
    {before after : List Event} {event : Event}
    (split : start ++ (log ++ [.compiledPage methodCount diagnosticCount]) = before ++ event :: after)
    (isBuilt : event.isBuilt) :
    ∃ accessor, (outcomes.filterMap Outcome.accessor?)[before.countP Event.isBuilt]? = some accessor ∧
      event = accessor.builtEvent ∧ before.rtakeWhile Event.isAddition = accessor.additions := by
  rcases append_eq_append_cons split with ⟨middle, rfl⟩ | ⟨middle, rfl, rest⟩
  · have root := roots event (List.mem_append_right _ List.mem_cons_self)
    have other : event.isBuilt = false := Event.not_hasMessage_of_other root (by decide)
    rw [other] at isBuilt
    cases isBuilt
  · rcases append_eq_append_cons rest with ⟨behind, split⟩ | ⟨behind, same, last⟩
    · have ended : start.rtakeWhile Event.isAddition = [] :=
        Event.rtakeWhile_hasMessage_of_others roots (by decide)
      have none : start.countP Event.isBuilt = 0 := Event.countP_hasMessage_of_others roots (by decide)
      rw [List.countP_append, none, Nat.zero_add]
      exact h.additions_of_isBuilt ended split isBuilt
    · cases behind with
      | nil =>
        cases last
        cases isBuilt
      | cons other behind => simp at last

theorem loggedBy (h : LogOf outcomes log) (rootLocator : Option Locator)
    (roots : ∀ event ∈ start, event.hasMessage "parsed root selector") :
    let compilation := Compilation.ofOutcomes rootLocator outcomes
    compilation.LoggedBy (start ++ (log ++
      [.compiledPage compilation.accessors.length compilation.diagnostics.length])) := by
  intro compilation
  have built := (Event.filter_hasMessage_between roots (by decide) (by decide) compilation.accessors.length
    compilation.diagnostics.length).trans h.filter_isBuilt
  have skipped := (Event.filter_hasMessage_between roots (by decide) (by decide) compilation.accessors.length
    compilation.diagnostics.length).trans h.filter_isSkipped
  exact {
    built
    builtFields := by
      rw [Event.isBuilt, built, List.map_map]
      rfl
    skipped
    skippedFields := by
      rw [Event.isSkipped, skipped, List.map_map]
      rfl
    additions := by
      intro before event after split isBuilt
      rcases h.additions_of_isBuilt_between roots split isBuilt with ⟨accessor, held, same, additions⟩
      exact ⟨accessor, held, same, additions, additions ▸ accessor.map_details_additions⟩
    last := by simp
    lastFields := by simp [Event.details] }

end LogOf

namespace Page

variable {value : Json} {registry : Registry} {page : Page} {compilation : Compilation}

theorem events_readRootLocator {fields : Json.Fields} {isRoot : Bool} {rootLocator : Option Locator}
    (found : (readRootLocator fields isRoot).outcome = .ok rootLocator) :
    (readRootLocator fields isRoot).events =
      rootLocator.toList.map fun locator => .readRootSelector locator.strategy := by
  unfold readRootLocator at found ⊢
  split at found
  · rename_i value held
    rw [Attempt.outcome_map] at found
    cases root : (Selector.readRoot value pageContext).outcome with
    | error fault =>
      rw [root] at found
      cases found
    | ok locator =>
      rw [root] at found
      cases found
      rw [Attempt.events_map _ root, Selector.events_readRoot root]
      rfl
  · cases found
  · cases found
  · cases found
    rfl

theorem events_read (found : (read value).outcome = .ok page) :
    (read value).events = page.rootLocator.toList.map fun locator => .readRootSelector locator.strategy := by
  rcases outcome_read_eq_ok_iff.mp found with ⟨fields, isRoot, rfl, hRoot, hLocator, hNested⟩
  unfold read
  rw [Attempt.events_liftM_bind (Property.fields_eq_ok_iff.mpr rfl), Attempt.events_liftM_bind hRoot,
    Attempt.events_bind_of_ok hLocator, Attempt.events_liftM_bind hNested, events_readRootLocator hLocator]
  exact List.append_nil _

theorem events_compile (found : (read value).outcome = .ok page) :
    let walked := walk registry [Scope.rootGetter] page.visits
    let compilation := Compilation.ofOutcomes page.rootLocator walked.value
    (compile value registry).events = (read value).events ++ (walked.events ++
      [.compiledPage compilation.accessors.length compilation.diagnostics.length]) := by
  intro walked compilation
  unfold compile
  rw [Attempt.events_bind_of_ok found, Attempt.events_lift]
  rfl

theorem loggedBy_of_compile (h : (compile value registry).outcome = .ok compilation) :
    compilation.LoggedBy (compile value registry).events := by
  rcases outcome_compile_eq_ok_iff.mp h with ⟨page, found, rfl⟩
  rw [events_compile found, events_read found]
  apply (logOf_walk registry [Scope.rootGetter] page.visits).loggedBy
  intro event member
  rcases List.mem_map.mp member with ⟨locator, inside, rfl⟩
  rfl

def noisyBox : Json :=
  let selector (css type : String) : Json := .object [("css", .string css),
    ("args", .array [.object [("name", .string "x"), ("type", .string type)]])]
  .object [("root", .bool true), ("selector", .object [("css", .string ".app")]), ("elements", .array [
    .object [("name", .string "box"), ("selector", selector "%s" "string"), ("elements", .array [
      .object [("name", .string "row"), ("selector", selector "%d" "number")],
      .object [("name", .string "cell"), ("selector", selector "%s" "string")]])],
    .null])]

theorem loggedBy_of_compile_noisyBox :
    ∃ compilation, (compile noisyBox .standard).outcome = .ok compilation ∧
      compilation.accessors.map Accessor.name = ["getBoxElement", "getCellElement"] ∧
      compilation.diagnostics.map (fun found => found.fault.code) = [1006, 1010] ∧
      (compile noisyBox .standard).events.map Event.message = ["parsed root selector",
        "added method parameter", "built element accessor",
        "added method parameter", "skipped element declaration",
        "added method parameter", "built element accessor",
        "skipped element declaration", "compiled page object"] ∧
      compilation.LoggedBy (compile noisyBox .standard).events := by
  obtain ⟨compilation, compiled, names, codes⟩ := exists_of_outline
    (show outline noisyBox .standard = some (["getBoxElement", "getCellElement"], [1006, 1010]) by
      decide +kernel)
  exact ⟨compilation, compiled, names, codes, by decide +kernel, loggedBy_of_compile compiled⟩

end Page

end PageObject
