import Mathlib.Data.List.Nodup
import PageObject.Proofs.Page.Traversal
import PageObject.Proofs.Text.Numeral
import PageObject.Proofs.Text.Segments

namespace PageObject

/-- A step of a written path: to the field of a key, and on to one of its items if there is an index. -/
structure PathStep where
  key : String
  index? : Option Nat
deriving DecidableEq, Repr

namespace PathStep

def chars (step : PathStep) : List Char :=
  step.key.toList ++ match step.index? with
    | none => []
    | some index => '[' :: (Nat.toDigits 10 index ++ [']'])

def read? (word : List Char) : Option PathStep :=
  let key := String.ofList (word.takeWhile (· ≠ '['))
  match word.dropWhile (· ≠ '[') with
  | [] => some ⟨key, none⟩
  | _ :: bracketed =>
    if bracketed.getLast? = some ']' then
      (Text.readDigits? bracketed.dropLast).map fun index => ⟨key, some index⟩
    else none

def readAll? (text : String) : Option (List PathStep) := (text.toList.splitOn '.').mapM read?

/-- The key cannot be taken for more than one word, or for a key with an index. -/
structure Plain (step : PathStep) : Prop where
  undotted : '.' ∉ step.key.toList
  unbracketed : '[' ∉ step.key.toList

theorem read?_chars {step : PathStep} (plain : step.Plain) : read? step.chars = some step := by
  rcases step with ⟨key, index?⟩
  have outside : ∀ c ∈ key.toList, decide (c ≠ '[') = true :=
    fun c member => decide_eq_true fun same => plain.unbracketed (same ▸ member)
  unfold read? chars
  rw [List.takeWhile_append_of_pos outside, List.dropWhile_append_of_pos outside]
  cases index? with
  | none => simp
  | some index => simp [Text.readDigits?_toDigits]

theorem dot_not_mem_chars {step : PathStep} (plain : step.Plain) : '.' ∉ step.chars := by
  rcases step with ⟨key, index?⟩
  intro member
  rcases List.mem_append.mp member with inKey | behind
  · exact plain.undotted inKey
  · cases index? with
    | none => cases behind
    | some index =>
      have digit : '.' ∈ Nat.toDigits 10 index := by simpa using behind
      have numeral := List.all_eq_true.mp (Text.all_isDigit_toDigits index) '.' digit
      exact absurd numeral (by decide)

theorem mapM_read?_chars {steps : List PathStep} (plain : ∀ step ∈ steps, step.Plain) :
    (steps.map chars).mapM read? = some steps := by
  induction steps with
  | nil => rfl
  | cons step steps ih =>
    have first := read?_chars (plain step List.mem_cons_self)
    have behind := ih fun other member => plain other (List.mem_cons_of_mem _ member)
    simp [first, behind]

end PathStep

namespace Json

def item? (value : Json) (index : Nat) : Option Json :=
  match value with
  | .array items => items[index]?
  | _ => none

def step? (value : Json) (step : PathStep) : Option Json := do
  let held ← value.field? step.key
  match step.index? with
  | none => some held
  | some index => held.item? index

def readPath? (value : Json) (text : String) : Option Json := do
  let steps ← PathStep.readAll? text
  steps.foldlM step? value

end Json

namespace NodePlace

def steps (place : NodePlace) : List PathStep :=
  (if place.inShadow then [⟨"shadow", none⟩] else []) ++ [⟨"elements", some place.index⟩]

theorem plain_of_mem_steps (place : NodePlace) : ∀ step ∈ place.steps, step.Plain := by
  have shadow : PathStep.Plain ⟨"shadow", none⟩ := ⟨by decide, by decide⟩
  have elements (index : Nat) : PathStep.Plain ⟨"elements", some index⟩ :=
    ⟨show '.' ∉ "elements".toList by decide, show '[' ∉ "elements".toList by decide⟩
  rcases place with ⟨inShadow, index⟩
  cases inShadow <;> simp [steps, shadow, elements]

theorem toList_text (place : NodePlace) :
    place.text.toList = ['.'].intercalate (place.steps.map PathStep.chars) := by
  rcases place with ⟨inShadow, index⟩
  cases inShadow <;> simp [text, steps, PathStep.chars, toString, List.intercalate]

theorem splitOn_text (place : NodePlace) :
    place.text.toList.splitOn '.' = place.steps.map PathStep.chars := by
  rw [toList_text]
  refine List.splitOn_intercalate '.' ?_ (by simp [steps])
  intro word member
  rcases List.mem_map.mp member with ⟨step, inside, rfl⟩
  exact PathStep.dot_not_mem_chars (place.plain_of_mem_steps step inside)

/-- The steps of a place do not begin those of another one: only below a shadow root the first step is to the
shadow. -/
theorem steps_append_inj {place place' : NodePlace} {rest rest' : List PathStep}
    (same : place.steps ++ rest = place'.steps ++ rest') : place = place' ∧ rest = rest' := by
  rcases place with ⟨inShadow, index⟩
  rcases place' with ⟨inShadow', index'⟩
  cases inShadow <;> cases inShadow' <;> simp [steps] at same ⊢ <;> exact same

theorem flatMap_steps_injective : Function.Injective fun path : NodePath => path.flatMap steps := by
  intro path other same
  induction path generalizing other with
  | nil =>
    cases other with
    | nil => rfl
    | cons place' other => simp [steps] at same
  | cons place path ih =>
    cases other with
    | nil => simp [steps] at same
    | cons place' other =>
      simp only [List.flatMap_cons] at same
      rcases steps_append_inj same with ⟨rfl, behind⟩
      rw [ih behind]

end NodePlace

namespace Json

theorem step?_key (value : Json) (key : String) : value.step? ⟨key, none⟩ = value.field? key := by
  unfold step?
  cases value.field? key <;> rfl

theorem step?_elements (value : Json) (index : Nat) :
    value.step? ⟨"elements", some index⟩ = value.child? ⟨false, index⟩ := by
  unfold step? child? nodesIn
  cases held : value.field? "elements" with
  | none => simp [held]
  | some found => cases found <;> simp [held, item?]

theorem child?_shadow (value : Json) (index : Nat) :
    value.child? ⟨true, index⟩ = (value.field? "shadow").bind fun shadow => shadow.child? ⟨false, index⟩ := by
  unfold child? nodesIn
  cases value.field? "shadow" <;> simp

theorem foldlM_step?_steps (value : Json) (place : NodePlace) :
    place.steps.foldlM step? value = value.child? place := by
  rcases place with ⟨inShadow, index⟩
  cases inShadow with
  | false => simp [NodePlace.steps, step?_elements]
  | true =>
    rw [child?_shadow]
    simp [NodePlace.steps, step?_key, step?_elements]

theorem foldlM_step?_flatMap (value : Json) (path : NodePath) :
    (path.flatMap NodePlace.steps).foldlM step? value = value.nodeAt? path := by
  induction path generalizing value with
  | nil => rfl
  | cons place path ih =>
    rw [List.flatMap_cons, List.foldlM_append, foldlM_step?_steps, nodeAt?]
    exact congrArg _ (funext ih)

end Json

namespace NodePath

theorem readAll?_text {path : NodePath} (nonempty : path ≠ []) :
    PathStep.readAll? path.text = some (path.flatMap NodePlace.steps) := by
  have cut : path.text.toList.splitOn '.' = (path.flatMap NodePlace.steps).map PathStep.chars := by
    have texts : path.map NodePlace.text ≠ [] := fun empty => nonempty (List.map_eq_nil_iff.mp empty)
    rw [text, Text.splitOn_toList_intercalate texts, List.flatMap_map, List.map_flatMap]
    exact List.flatMap_congr fun place _ => place.splitOn_text
  rw [PathStep.readAll?, cut]
  refine PathStep.mapM_read?_chars fun step member => ?_
  rcases List.mem_flatMap.mp member with ⟨place, _, inside⟩
  exact place.plain_of_mem_steps step inside

theorem text_ne_empty {path : NodePath} (nonempty : path ≠ []) : path.text ≠ "" := by
  intro empty
  have read := readAll?_text nonempty
  have nothing : PathStep.readAll? "" = some [⟨"", none⟩] := by decide
  rw [empty, nothing] at read
  cases path with
  | nil => exact nonempty rfl
  | cons place path =>
    rcases place with ⟨inShadow, index⟩
    cases inShadow <;> simp [NodePlace.steps] at read

theorem text_injective : Function.Injective text := by
  intro path other same
  by_cases root : path = [] <;> by_cases root' : other = []
  · rw [root, root']
  · exact absurd (same.symm.trans (congrArg text root)) (text_ne_empty root')
  · exact absurd (same.trans (congrArg text root')) (text_ne_empty root)
  · have steps := congrArg PathStep.readAll? same
    rw [readAll?_text root, readAll?_text root'] at steps
    exact NodePlace.flatMap_steps_injective (Option.some.inj steps)

end NodePath

theorem Json.readPath?_text (value : Json) {path : NodePath} (nonempty : path ≠ []) :
    value.readPath? path.text = value.nodeAt? path := by
  rw [readPath?, NodePath.readAll?_text nonempty]
  exact foldlM_step?_flatMap value path

/-- A node that gives itself no name, not even one that is refused. -/
def Json.Unnamed (node : Json) : Prop := (node.field? "name").bind string? = none

namespace Element

variable {node : Json} {path : String} {registry : Registry} {element : Element}

theorem label_of_unnamed (unnamed : node.Unnamed) (path : String) : label node path = path := by
  rw [label, unnamed, Option.getD_none]

theorem not_unnamed_of_read (found : read node path registry = .ok element) : ¬ node.Unnamed := by
  intro unnamed
  rcases read_eq_ok_iff.mp found with ⟨fields, rfl, declared⟩
  have named := Json.Fields.get?_of_value? declared.name
  simp [Json.Unnamed, Json.field?, named, Json.string?] at unnamed

end Element

namespace Page

variable {value : Json} {page : Page} {registry : Registry} {compilation : Compilation}

theorem nodup_texts (page : Page) (registry : Registry) :
    ((page.preorder registry).map fun here => here.visit.path.text).Nodup := by
  have unique := List.Nodup.map NodePath.text_injective (page.nodup_paths registry)
  rwa [List.map_map] at unique

theorem readPath?_of_mem_preorder (found : (read value).outcome = .ok page) :
    ∀ here ∈ page.preorder registry, value.readPath? here.visit.path.text = some here.visit.node := by
  intro here member
  rw [Json.readPath?_text value (path_ne_nil_of_mem_preorder found here member)]
  exact nodeAt?_of_mem_preorder found here member

theorem diagnostic?_of_unnamed {here : Visited} (member : here ∈ page.preorder registry)
    (unnamed : here.visit.node.Unnamed) :
    ∃ fault, here.diagnostic? = some ⟨here.visit.path.text, fault⟩ := by
  cases outcome : here.outcome with
  | built accessor =>
    rcases read_of_built member outcome with ⟨element, found, compiled⟩
    exact absurd unnamed (Element.not_unnamed_of_read found)
  | skipped diagnostic =>
    have label := element_of_skipped member outcome
    rw [Visit.label, Element.label_of_unnamed unnamed] at label
    exact ⟨diagnostic.fault, by rw [Visited.diagnostic?_eq_some_iff, outcome, ← label]⟩

/-- The written paths of the nodes that are visited differ, and each of them leads from the page to its node. A
visited node without a name is reported, with a label that leads to it and is not that of another such node. -/
theorem paths_locate_nodes (h : (compile value registry).outcome = .ok compilation) :
    ∃ page, (read value).outcome = .ok page ∧
      compilation.accessors = (page.preorder registry).filterMap Visited.accessor? ∧
      compilation.diagnostics = (page.preorder registry).filterMap Visited.diagnostic? ∧
      ((page.preorder registry).map fun here => here.visit.path.text).Nodup ∧
      (∀ here ∈ page.preorder registry, value.readPath? here.visit.path.text = some here.visit.node) ∧
      (∀ here ∈ page.preorder registry, here.visit.node.Unnamed →
        ∃ diagnostic, here.diagnostic? = some diagnostic ∧
          value.readPath? diagnostic.element = some here.visit.node) ∧
      (page.preorder registry).Pairwise fun here other =>
        here.visit.node.Unnamed → other.visit.node.Unnamed →
          ∀ diagnostic diagnostic', here.diagnostic? = some diagnostic → other.diagnostic? = some diagnostic' →
            diagnostic.element ≠ diagnostic'.element := by
  rcases compilation_of_outcome_compile h with ⟨page, found, rfl⟩
  have texts := page.nodup_texts registry
  have leads := @readPath?_of_mem_preorder value page registry found
  refine ⟨page, found, Compilation.accessors_ofOutcomes .., Compilation.diagnostics_ofOutcomes .., texts, leads,
    ?_, ?_⟩
  · intro here member unnamed
    rcases diagnostic?_of_unnamed member unnamed with ⟨fault, reported⟩
    exact ⟨_, reported, leads here member⟩
  · refine (List.pairwise_map.mp texts).imp_of_mem ?_
    intro here other member member' apart unnamed unnamed' diagnostic diagnostic' reported reported'
    rcases diagnostic?_of_unnamed member unnamed with ⟨fault, label⟩
    rcases diagnostic?_of_unnamed member' unnamed' with ⟨fault', label'⟩
    cases reported.symm.trans label
    cases reported'.symm.trans label'
    exact apart

def nullsAndBox : Json :=
  .object [("elements", .array [.null, .object [("name", .string "box"),
      ("selector", .object [("css", .string "x")]), ("elements", .array [.null]),
      ("shadow", .object [("elements", .array [.null])])]]),
    ("shadow", .object [("elements", .array [.null])])]

theorem paths_locate_nodes_nullsAndBox :
    ∃ (compilation : Compilation) (page : Page), (compile nullsAndBox .standard).outcome = .ok compilation ∧
      compilation.diagnostics.map Diagnostic.element =
        ["elements[0]", "elements[1].elements[0]", "elements[1].shadow.elements[0]", "shadow.elements[0]"] ∧
      (read nullsAndBox).outcome = .ok page ∧
      ((page.preorder .standard).map fun here => here.visit.path.text).Nodup ∧
      (∀ here ∈ page.preorder .standard,
        nullsAndBox.readPath? here.visit.path.text = some here.visit.node) ∧
      ∃ here ∈ page.preorder .standard, here.visit.node.Unnamed ∧
        ∃ diagnostic, here.diagnostic? = some diagnostic ∧
          nullsAndBox.readPath? diagnostic.element = some here.visit.node := by
  obtain ⟨compilation, compiled, labels⟩ := exists_of_view
    (show (compile nullsAndBox .standard).outcome.toOption.map
        (fun compilation => compilation.diagnostics.map Diagnostic.element) =
      some ["elements[0]", "elements[1].elements[0]", "elements[1].shadow.elements[0]", "shadow.elements[0]"] by
      decide +kernel)
  rcases paths_locate_nodes compiled with ⟨page, found, accessors, diagnostics, texts, leads, unnamed, apart⟩
  obtain ⟨here, member, same⟩ := (@exists_mem_preorder .standard [] page.visits).1 _
    ((mem_visits found).mpr ⟨⟨false, 0⟩, .null, rfl, rfl⟩)
  have isNull : here.visit.node.Unnamed := by
    rw [same]
    rfl
  exact ⟨compilation, page, compiled, labels, found, texts, leads, here, member, isNull, unnamed here member isNull⟩

end Page

end PageObject
