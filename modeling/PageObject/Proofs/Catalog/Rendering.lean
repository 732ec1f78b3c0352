import PageObject.Catalog
import PageObject.Proofs.Page.Faults
import PageObject.Proofs.Page.Traversal

namespace PageObject

def TemplatePiece.argumentNumber? : TemplatePiece → Option Nat
  | .text _ => none
  | .slot digits => if digits.all Text.isAsciiDigit then some (Text.digitsValue digits) else none

def TemplatePiece.isSlot : TemplatePiece → Bool
  | .text _ => false
  | .slot _ => true

theorem TemplatePiece.fill_of_argumentNumber? {piece : TemplatePiece} {index : Nat} {args : List String}
    (number : piece.argumentNumber? = some index) (bound : index < args.length) :
    piece.fill args = args[index] := by
  cases piece with
  | text content => cases number
  | slot digits =>
    simp only [argumentNumber?] at number
    simp only [fill]
    by_cases ascii : digits.all Text.isAsciiDigit
    · rw [if_pos ascii] at number ⊢
      cases number
      rw [List.getElem?_eq_getElem bound]
    · rw [if_neg ascii] at number
      cases number

namespace Template

variable {template : Template} {args : List String}

def argumentNumbers (template : Template) : List Nat := template.filterMap TemplatePiece.argumentNumber?

/-- A template is made for so many arguments: one more than the highest number of its slots, each of which
has a number, and every argument has a slot. -/
def Fits (template : Template) (count : Nat) : Prop :=
  template.argumentNumbers.max?.map (· + 1) = some count ∧
    (∀ index < count, index ∈ template.argumentNumbers) ∧
    ∀ piece ∈ template, piece.isSlot → piece.argumentNumber?.isSome

instance (template : Template) (count : Nat) : Decidable (template.Fits count) :=
  inferInstanceAs (Decidable (_ ∧ _ ∧ _))

/-- The text of a template, with its slots as they are written, is a template with the same slots. -/
def ReadsBack (template : Template) : Prop :=
  (ofText (template.fill [])).argumentNumbers = template.argumentNumbers

theorem infix_fill_of_mem {piece : TemplatePiece} (member : piece ∈ template) :
    (piece.fill args).toList <:+: (template.fill args).toList := by
  have filled : (piece.fill args).toList ∈ template.map fun piece => (piece.fill args).toList :=
    List.mem_map_of_mem member
  rw [fill, String.toList_ofList, List.flatMap_def]
  exact List.infix_of_mem_flatten filled

theorem Fits.lt_of_mem {count index : Nat} (fits : template.Fits count)
    (member : index ∈ template.argumentNumbers) : index < count := by
  rcases Option.map_eq_some_iff.mp fits.1 with ⟨highest, found, rfl⟩
  have bound := (List.max?_eq_some_iff.mp found).2 index member
  omega

theorem Fits.fill_slot (fits : template.Fits args.length) {piece : TemplatePiece} (member : piece ∈ template)
    (slot : piece.isSlot) :
    ∃ index, piece.argumentNumber? = some index ∧ args[index]? = some (piece.fill args) := by
  rcases Option.isSome_iff_exists.mp (fits.2.2 piece member slot) with ⟨index, number⟩
  have bound : index < args.length := fits.lt_of_mem (List.mem_filterMap.mpr ⟨_, member, number⟩)
  have shown : piece.fill args = args[index] := TemplatePiece.fill_of_argumentNumber? number bound
  exact ⟨index, number, by rw [shown, List.getElem?_eq_getElem bound]⟩

theorem Fits.infix_fill (fits : template.Fits args.length) {argument : String} (member : argument ∈ args) :
    argument.toList <:+: (template.fill args).toList := by
  rcases List.mem_iff_getElem.mp member with ⟨index, bound, rfl⟩
  rcases List.mem_filterMap.mp (fits.2.1 index bound) with ⟨piece, inside, number⟩
  rw [← TemplatePiece.fill_of_argumentNumber? number bound]
  exact infix_fill_of_mem inside

end Template

/-- A catalog renders a fault through a template for exactly its arguments: every slot shows the
argument of its number, and each argument is shown. -/
structure Catalog.RendersThrough (catalog : Catalog) (fault : Fault) (template : Template) : Prop where
  found : catalog.templates.lookup fault.code = some template
  readsBack : template.ReadsBack
  fits : template.Fits fault.args.length
  text : catalog.render fault = template.fill fault.args
  slots : ∀ piece ∈ template, piece.isSlot →
    ∃ index, piece.argumentNumber? = some index ∧ fault.args[index]? = some (piece.fill fault.args)
  arguments : ∀ argument ∈ fault.args, argument.toList <:+: (catalog.render fault).toList

theorem Catalog.rendersThrough {catalog : Catalog} {fault : Fault} {template : Template}
    (found : catalog.templates.lookup fault.code = some template) (readsBack : template.ReadsBack)
    (fits : template.Fits fault.args.length) : catalog.RendersThrough fault template := by
  have text : catalog.render fault = template.fill fault.args := by
    simp [render, message?, found]
  exact {
    found
    readsBack
    fits
    text
    slots := fun _ member slot => fits.fill_slot member slot
    arguments := fun _ member => text ▸ fits.infix_fill member }

theorem Catalog.readsBack_standard : ∀ entry ∈ standard.templates, entry.2.ReadsBack := by
  simp only [Template.ReadsBack, Template.ofText, Template.fill, String.toList_ofList]
  decide +kernel

theorem Catalog.fits_standard :
    ∀ form ∈ Page.forms ++ Visit.forms,
      (standard.templates.lookup form.1).any fun template => template.Fits form.2 := by
  decide +kernel

namespace Fault

def Rendered (fault : Fault) : Prop := ∃ template, Catalog.standard.RendersThrough fault template

theorem Among.rendered {forms : List (Nat × Nat)} {fault : Fault} (among : fault.Among forms)
    (within : forms ⊆ Page.forms ++ Visit.forms) : fault.Rendered := by
  have known := Catalog.fits_standard fault.form (within among)
  simp only [form, Option.any_eq_true] at known
  rcases known with ⟨template, found, fits⟩
  obtain ⟨before, after, split, -⟩ := List.lookup_eq_some_iff.mp found
  have member : (fault.code, template) ∈ Catalog.standard.templates := by simp [split]
  have readsBack : template.ReadsBack := Catalog.readsBack_standard (fault.code, template) member
  exact ⟨template, Catalog.rendersThrough found readsBack (of_decide_eq_true fits)⟩

example : Catalog.standard.render (wrongShape pageContext "$" .object) =
    "page object: property \"$\" should be an object" := by decide

end Fault

namespace Page

theorem faults_rendered (value node : Json) (scope : Scope) (arguments : List Json) (context : String)
    (registry : Registry) :
    (∀ fault, (compile value registry).outcome = .error fault → fault.Rendered) ∧
    (∀ compilation, (compile value registry).outcome = .ok compilation →
      ∀ diagnostic ∈ compilation.diagnostics, diagnostic.fault.Rendered) ∧
    (∀ fault, (Element.compile node scope registry).outcome = .error fault → fault.Rendered) ∧
    ∀ fault, Argument.readAll arguments context registry = .error fault → fault.Rendered := by
  refine ⟨?_, ?_, ?_, ?_⟩
  · intro fault failed
    exact (compile_reports value registry fault failed).rendered (List.subset_append_left _ _)
  · intro compilation compiled diagnostic member
    exact (diagnostics_among compiled diagnostic member).rendered (List.subset_append_right _ _)
  · intro fault failed
    exact (Element.compile_reports node scope registry fault failed).rendered (by decide)
  · intro fault failed
    exact (Argument.readAll_reports fault failed).rendered (by decide)

theorem faults_rendered_null :
    (compile .null .standard).outcome = .error (.wrongShape pageContext "$" .object) ∧
    (Fault.wrongShape pageContext "$" .object).Rendered ∧
    (∃ compilation diagnostic,
      (compile (.object [("elements", .array [.null])]) .standard).outcome = .ok compilation ∧
      diagnostic ∈ compilation.diagnostics ∧ diagnostic.fault.code = 1010 ∧ diagnostic.fault.Rendered) ∧
    (Fault.wrongShape pageContext "element" .object).Rendered ∧
    (Fault.wrongShape "row" "args[0]" .object).Rendered := by
  have page : (compile .null .standard).outcome = .error (.wrongShape pageContext "$" .object) := rfl
  have node : (Element.compile .null (Scope.root false) .standard).outcome =
    .error (.wrongShape pageContext "element" .object) := rfl
  have list : Argument.readAll [.null] "row" .standard = .error (.wrongShape "row" "args[0]" .object) := rfl
  obtain ⟨compilation, compiled, view⟩ := exists_of_view
    (show (compile (.object [("elements", .array [.null])]) .standard).outcome.toOption.map
        (fun compilation => compilation.diagnostics.map fun found => found.fault.code) = some [1010] by
      decide +kernel)
  rcases List.map_eq_cons_iff.mp view with ⟨diagnostic, rest, split, code, nothing⟩
  have member : diagnostic ∈ compilation.diagnostics := by
    rw [split]
    exact List.mem_cons_self
  rcases faults_rendered .null .null (Scope.root false) [.null] "row" .standard with
    ⟨ofPage, _, ofNode, ofList⟩
  rcases faults_rendered (.object [("elements", .array [.null])]) .null (Scope.root false) [.null] "row"
    .standard with ⟨_, ofElements, _, _⟩
  exact ⟨page, ofPage _ page, ⟨compilation, diagnostic, compiled, member, code,
    ofElements _ compiled _ member⟩, ofNode _ node, ofList _ list⟩

end Page

end PageObject
