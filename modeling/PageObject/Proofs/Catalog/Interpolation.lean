import PageObject.Catalog
import PageObject.Proofs.Text.Segments

namespace PageObject

namespace Template

def IsSlot (digits : List Char) : Prop := digits ≠ [] ∧ ∀ c ∈ digits, Text.isDecimalDigit c

instance (digits : List Char) : Decidable (IsSlot digits) :=
  decidable_of_iff (digits ≠ [] ∧ digits.all Text.isDecimalDigit) (and_congr Iff.rfl List.all_eq_true)

def slotText (digits : List Char) : List Char := '{' :: (digits ++ ['}'])

def BeginsSlot (text : List Char) : Prop := ∃ digits rest, IsSlot digits ∧ text = slotText digits ++ rest

/-- The digits are those of ASCII, and they stand for this number. -/
structure Denotes (digits : List Char) (index : Nat) : Prop where
  ascii : ∀ c ∈ digits, c.isDigit
  value : Nat.ofDigitChars 10 digits 0 = index

/-- A written template, read from left to right, and the message that it comes to: a slot becomes the argument of its
number, a slot without one is copied, and so is any character that begins no slot. What was put into the message is
not read again. -/
inductive Interpolated (args : List String) : List Char → List Char → Prop
  | done : Interpolated args [] []
  | argument {digits rest message : List Char} {index : Nat} {argument : String} (slot : IsSlot digits)
      (number : Denotes digits index) (held : args[index]? = some argument) (behind : Interpolated args rest message) :
      Interpolated args (slotText digits ++ rest) (argument.toList ++ message)
  | unfilled {digits rest message : List Char} (slot : IsSlot digits)
      (unheld : ∀ index, Denotes digits index → args.length ≤ index) (behind : Interpolated args rest message) :
      Interpolated args (slotText digits ++ rest) (slotText digits ++ message)
  | character {c : Char} {rest message : List Char} (plain : ¬ BeginsSlot (c :: rest))
      (behind : Interpolated args rest message) : Interpolated args (c :: rest) (c :: message)

variable {args : List String} {digits others rest behind message other : List Char} {c : Char}

theorem not_mem_digits {brace : Char} (isBrace : Text.isDecimalDigit brace = false)
    (decimal : ∀ c ∈ digits, Text.isDecimalDigit c) : brace ∉ digits := by
  intro member
  have digit := decimal brace member
  rw [isBrace] at digit
  cases digit

theorem closing_not_mem (decimal : ∀ c ∈ digits, Text.isDecimalDigit c) : '}' ∉ digits :=
  not_mem_digits (by decide) decimal

theorem opening_not_mem (decimal : ∀ c ∈ digits, Text.isDecimalDigit c) : '{' ∉ digits :=
  not_mem_digits (by decide) decimal

theorem slotText_append (digits rest : List Char) : slotText digits ++ rest = '{' :: (digits ++ '}' :: rest) := by
  simp [slotText]

theorem slotText_append_inj (decimal : ∀ c ∈ digits, Text.isDecimalDigit c)
    (decimalOthers : ∀ c ∈ others, Text.isDecimalDigit c)
    (same : slotText digits ++ rest = slotText others ++ behind) : digits = others ∧ rest = behind := by
  rw [slotText_append, slotText_append, List.cons.injEq, Text.append_cons_eq_append_cons_iff] at same
  rcases same with ⟨-, same | ⟨middle, split, -⟩ | ⟨middle, split, -⟩⟩
  · exact same
  · exact absurd (by simp [split]) (closing_not_mem decimalOthers)
  · exact absurd (by simp [split]) (closing_not_mem decimal)

theorem not_beginsSlot_of_ne (other : c ≠ '{') (rest : List Char) : ¬ BeginsSlot (c :: rest) := by
  intro begins
  rcases begins with ⟨digits, behind, -, same⟩
  rw [slotText_append, List.cons.injEq] at same
  exact other same.1

theorem not_beginsSlot_opened (decimal : ∀ c ∈ digits, Text.isDecimalDigit c)
    (ended : ∀ c behind, rest = c :: behind → Text.isDecimalDigit c = false ∧ (c = '}' → digits = [])) :
    ¬ BeginsSlot ('{' :: (digits ++ rest)) := by
  intro begins
  rcases begins with ⟨others, behind, slot, same⟩
  rw [slotText_append, List.cons.injEq] at same
  rcases List.append_eq_append_iff.mp same.2 with ⟨more, split, closed⟩ | ⟨more, split, closed⟩
  · cases more with
    | nil => exact slot.1 (by simpa [(ended _ _ closed).2 rfl] using split)
    | cons c more =>
      have digit := slot.2 c (by simp [split])
      rw [(ended _ _ closed).1] at digit
      cases digit
  · cases more with
    | nil =>
      have empty := (ended _ _ closed.symm).2 rfl
      exact slot.1 (by simpa [empty] using split.symm)
    | cons c more =>
      cases closed
      exact absurd (by simp [split]) (closing_not_mem decimal)

theorem not_beginsSlot_append {text : List Char} (plain : ¬ BeginsSlot (c :: text)) (rest : List Char) :
    ¬ BeginsSlot (c :: (text ++ '{' :: rest)) := by
  intro begins
  rcases begins with ⟨digits, behind, slot, same⟩
  rw [← List.cons_append] at same
  rcases List.append_eq_append_iff.mp same with ⟨more, split, opens⟩ | ⟨more, split, -⟩
  · cases more with
    | nil => exact plain ⟨digits, [], slot, by simpa using split.symm⟩
    | cons brace more =>
      cases opens
      rw [slotText, List.cons_append, List.cons.injEq] at split
      have inside : '{' ∈ digits ++ ['}'] := by simp [split.2]
      rcases List.mem_append.mp inside with member | last
      · exact opening_not_mem slot.2 member
      · exact absurd (List.mem_singleton.mp last) (by decide)
  · exact plain ⟨digits, more, slot, split⟩

theorem toList_fill_cons (piece : TemplatePiece) (template : Template) (args : List String) :
    (fill (piece :: template) args).toList = (piece.fill args).toList ++ (fill template args).toList := by
  simp [fill]

theorem fill_slot_of_held {index : Nat} {argument : String} (number : Denotes digits index)
    (held : args[index]? = some argument) : (TemplatePiece.slot digits).fill args = argument := by
  have ascii : digits.all Text.isAsciiDigit := List.all_eq_true.mpr number.ascii
  have value : Text.digitsValue digits = index := number.value
  rw [TemplatePiece.fill, if_pos ascii, value, held]

theorem fill_slot_of_unheld (unheld : ∀ index, Denotes digits index → args.length ≤ index) :
    ((TemplatePiece.slot digits).fill args).toList = slotText digits := by
  have none : (if digits.all Text.isAsciiDigit then args[Text.digitsValue digits]? else none) = none := by
    split
    · rename_i ascii
      exact List.getElem?_eq_none (unheld _ ⟨List.all_eq_true.mp ascii, rfl⟩)
    · rfl
  rw [TemplatePiece.fill, none, String.toList_ofList]
  rfl

namespace Interpolated

theorem plain {text : List Char} (free : '{' ∉ text) (behind : Interpolated args rest message) :
    Interpolated args (text ++ rest) (text ++ message) := by
  induction text with
  | nil => exact behind
  | cons c text ih =>
    rw [List.mem_cons, not_or] at free
    exact .character (not_beginsSlot_of_ne (Ne.symm free.1) _) (ih free.2)

theorem opened (decimal : ∀ c ∈ digits, Text.isDecimalDigit c)
    (ended : ∀ c behind, rest = c :: behind → Text.isDecimalDigit c = false ∧ (c = '}' → digits = []))
    (behind : Interpolated args rest message) :
    Interpolated args ('{' :: (digits ++ rest)) ('{' :: (digits ++ message)) :=
  .character (not_beginsSlot_opened decimal ended) (plain (opening_not_mem decimal) behind)

theorem slot (slot : IsSlot digits) (behind : Interpolated args rest message) :
    Interpolated args (slotText digits ++ rest) (((TemplatePiece.slot digits).fill args).toList ++ message) := by
  by_cases holds : ∃ index argument, Denotes digits index ∧ args[index]? = some argument
  · rcases holds with ⟨index, argument, number, held⟩
    rw [fill_slot_of_held number held]
    exact .argument slot number held behind
  · have unheld : ∀ index, Denotes digits index → args.length ≤ index := by
      intro index number
      refine Nat.le_of_not_lt fun bound => ?_
      exact holds ⟨index, args[index], number, List.getElem?_eq_getElem bound⟩
    rw [fill_slot_of_unheld unheld]
    exact .unfilled slot unheld behind

theorem exists_of_slot (slot : IsSlot digits) (read : Interpolated args (slotText digits ++ rest) message) :
    ∃ behind, message = ((TemplatePiece.slot digits).fill args).toList ++ behind ∧
      Interpolated args rest behind := by
  generalize same : slotText digits ++ rest = text at read
  cases read with
  | done => cases same
  | argument found number held behind =>
    rcases slotText_append_inj slot.2 found.2 same with ⟨rfl, rfl⟩
    exact ⟨_, by rw [fill_slot_of_held number held], behind⟩
  | unfilled found unheld behind =>
    rcases slotText_append_inj slot.2 found.2 same with ⟨rfl, rfl⟩
    exact ⟨_, by rw [fill_slot_of_unheld unheld], behind⟩
  | character plain behind => exact absurd ⟨digits, rest, slot, same.symm⟩ plain

theorem exists_of_character (plain : ¬ BeginsSlot (c :: rest)) (read : Interpolated args (c :: rest) message) :
    ∃ behind, message = c :: behind ∧ Interpolated args rest behind := by
  generalize same : c :: rest = text at read
  cases read with
  | done => cases same
  | argument slot number held behind => exact absurd ⟨_, _, slot, same⟩ plain
  | unfilled slot unheld behind => exact absurd ⟨_, _, slot, same⟩ plain
  | character plain behind =>
    cases same
    exact ⟨_, rfl, behind⟩

theorem append {text : List Char} (first : Interpolated args text message)
    (last : Interpolated args ('{' :: rest) other) : Interpolated args (text ++ '{' :: rest) (message ++ other) := by
  induction first with
  | done => exact last
  | argument slot number held behind ih =>
    rw [List.append_assoc, List.append_assoc]
    exact .argument slot number held ih
  | unfilled slot unheld behind ih =>
    rw [List.append_assoc, List.append_assoc]
    exact .unfilled slot unheld ih
  | character plain behind ih => exact .character (not_beginsSlot_append plain _) ih

theorem unique {text : List Char} (first : Interpolated args text message) (second : Interpolated args text other) :
    message = other := by
  induction first generalizing other with
  | done =>
    cases second
    rfl
  | argument slot number held behind ih =>
    obtain ⟨after, rfl, read⟩ := second.exists_of_slot slot
    rw [fill_slot_of_held number held, ih read]
  | unfilled slot unheld behind ih =>
    obtain ⟨after, rfl, read⟩ := second.exists_of_slot slot
    rw [fill_slot_of_unheld unheld, ih read]
  | character plain behind ih =>
    obtain ⟨after, rfl, read⟩ := second.exists_of_character plain
    rw [ih read]

end Interpolated

/-- The text that has been read while `scan` keeps the digits behind a brace. -/
def openedText : Option (List Char) → List Char
  | none => []
  | some digits => '{' :: digits

/-- What a template is filled to is what its text comes to, with the text in front that is being kept. -/
theorem interpolated_scan (args : List String) (opened : Option (List Char)) (text : List Char)
    (decimal : ∀ digits, opened = some digits → ∀ c ∈ digits, Text.isDecimalDigit c) :
    Interpolated args (openedText opened ++ text) ((scan opened text).fill args).toList := by
  -- By the cases of the scan. What it keeps is a brace and digits, so no other slot begins inside.
  fun_induction scan opened text with
  | case1 => exact .done
  | case2 digits =>
    rw [toList_fill_cons, TemplatePiece.fill, String.toList_ofList]
    exact .opened (decimal digits rfl) nofun .done
  | case3 rest ih => exact ih fun digits same => by cases same; exact nofun
  | case4 c rest other ih =>
    rw [toList_fill_cons, TemplatePiece.fill, String.toList_singleton]
    exact .character (not_beginsSlot_of_ne other rest) (ih nofun)
  | case5 digits c rest digit ih =>
    have longer : openedText (some (digits ++ [c])) ++ rest = openedText (some digits) ++ c :: rest := by
      simp [openedText]
    rw [← longer]
    refine ih fun others same => ?_
    cases same
    exact List.forall_mem_append.mpr ⟨decimal digits rfl, List.forall_mem_singleton.mpr digit⟩
  | case6 digits c rest noDigit closes ih =>
    rcases closes with ⟨rfl, filled⟩
    have closed : openedText (some digits) ++ '}' :: rest = slotText digits ++ rest := by simp [openedText, slotText]
    rw [toList_fill_cons, closed]
    exact .slot ⟨filled, decimal digits rfl⟩ (ih nofun)
  | case7 digits rest noDigit noClose ih =>
    rw [toList_fill_cons, TemplatePiece.fill, String.toList_ofList]
    refine .opened (decimal digits rfl) (fun c behind same => ?_) (ih fun others same => ?_)
    · cases same
      exact ⟨by decide, nofun⟩
    · cases same
      exact nofun
  | case8 digits c rest noDigit noClose noOpen ih =>
    rw [toList_fill_cons, TemplatePiece.fill, String.toList_ofList, List.cons_append, List.append_assoc]
    refine .opened (decimal digits rfl) (fun d behind same => ?_)
      (.character (not_beginsSlot_of_ne noOpen rest) (ih nofun))
    cases same
    exact ⟨by simpa using noDigit, fun closing => Classical.not_not.mp fun filled => noClose ⟨closing, filled⟩⟩

theorem interpolated_ofText (args : List String) (text : String) :
    Interpolated args text.toList ((ofText text).fill args).toList :=
  interpolated_scan args none text.toList nofun

def written (template : Template) : String := template.fill []

theorem Interpolated.eq_of_nil {text : List Char} (read : Interpolated [] text message) : message = text := by
  induction read with
  | done => rfl
  | argument slot number held behind ih => cases held
  | unfilled slot unheld behind ih => rw [ih]
  | character plain behind ih => rw [ih]

theorem written_ofText (text : String) : (ofText text).written = text :=
  String.toList_inj.mp (interpolated_ofText [] text).eq_of_nil

/-- A part of a template that is one in the text, too: no brace opens in the text that it holds, and its digits make
up a slot. -/
def IsRegular : TemplatePiece → Prop
  | .text content => '{' ∉ content.toList
  | .slot digits => IsSlot digits

instance : DecidablePred IsRegular
  | .text content => inferInstanceAs (Decidable ('{' ∉ content.toList))
  | .slot digits => inferInstanceAs (Decidable (IsSlot digits))

theorem interpolated_written {template : Template} (regular : ∀ piece ∈ template, IsRegular piece)
    (args : List String) : Interpolated args template.written.toList (template.fill args).toList := by
  induction template with
  | nil => exact .done
  | cons piece template ih =>
    rw [List.forall_mem_cons] at regular
    rw [written, toList_fill_cons, toList_fill_cons]
    cases piece with
    | text content => exact .plain regular.1 (ih regular.2)
    | slot digits =>
      have unfilled : ((TemplatePiece.slot digits).fill []).toList = slotText digits :=
        fill_slot_of_unheld fun _ _ => Nat.zero_le _
      rw [unfilled]
      exact .slot regular.1 (ih regular.2)

theorem fill_ofText_append_slot {digits : List Char} (slot : IsSlot digits) (before after : String)
    (args : List String) :
    (ofText (before ++ String.ofList (slotText digits) ++ after)).fill args =
      (ofText before).fill args ++ (TemplatePiece.slot digits).fill args ++ (ofText after).fill args := by
  have whole := interpolated_ofText args (before ++ String.ofList (slotText digits) ++ after)
  have behind := Interpolated.slot slot (interpolated_ofText args after)
  rw [slotText_append] at behind
  have parts := (interpolated_ofText args before).append behind
  rw [← String.toList_inj]
  refine whole.unique ?_
  simpa [slotText] using parts

end Template

namespace Catalog

open Template (Interpolated IsSlot slotText)

def withTexts (texts : List (Nat × String)) : Catalog :=
  texts.foldr (fun entry catalog => catalog.withTemplate entry.1 (.ofText entry.2)) standard

def textOf? (texts : List (Nat × String)) (code : Nat) : Option String :=
  (texts.lookup code).or ((standard.templates.lookup code).map Template.written)

theorem lookup_withTexts (texts : List (Nat × String)) (code : Nat) :
    (withTexts texts).templates.lookup code =
      ((texts.lookup code).map Template.ofText).or (standard.templates.lookup code) := by
  induction texts with
  | nil => rfl
  | cons entry texts ih =>
    have first : (withTexts (entry :: texts)).templates =
      (entry.1, Template.ofText entry.2) :: (withTexts texts).templates := rfl
    rw [first, List.lookup_cons, List.lookup_cons, ih]
    split <;> rfl

theorem isRegular_standard :
    ∀ entry ∈ standard.templates, ∀ piece ∈ entry.2, Template.IsRegular piece := by
  decide +kernel

theorem exists_message_of_textOf? {texts : List (Nat × String)} {code : Nat} {text : String}
    (written : textOf? texts code = some text) (args : List String) :
    ∃ message, (withTexts texts).message? code args = some message ∧
      Interpolated args text.toList message.toList := by
  rw [message?, lookup_withTexts]
  unfold textOf? at written
  cases given : texts.lookup code with
  | some own =>
    rw [given] at written
    cases written
    exact ⟨_, rfl, Template.interpolated_ofText args text⟩
  | none =>
    rw [given] at written
    rcases Option.map_eq_some_iff.mp written with ⟨template, found, rfl⟩
    obtain ⟨before, after, split, -⟩ := List.lookup_eq_some_iff.mp found
    have regular := isRegular_standard (code, template) (by rw [split]; simp)
    rw [found]
    exact ⟨_, rfl, Template.interpolated_written regular args⟩

theorem message?_eq_none_iff (texts : List (Nat × String)) (code : Nat) (args : List String) :
    (withTexts texts).message? code args = none ↔ textOf? texts code = none := by
  rw [message?, lookup_withTexts, textOf?]
  cases texts.lookup code <;> simp

/-- A code has a message if it has a text, and the message is the only one that the text comes to when it is read once
from left to right. A slot is filled wherever it stands, and one whose number does not fit 64 bits stays as it is
written. -/
theorem message?_interpolated (texts : List (Nat × String)) (code : Nat) (args : List String) :
    ((withTexts texts).message? code args = none ↔ textOf? texts code = none) ∧
    (∀ text, textOf? texts code = some text → ∃ message, (withTexts texts).message? code args = some message ∧
      ∀ other, Interpolated args text.toList other ↔ other = message.toList) ∧
    (∀ digits, IsSlot digits → ∀ before after : String,
      (Template.ofText (before ++ String.ofList (slotText digits) ++ after)).fill args =
        (Template.ofText before).fill args ++ (TemplatePiece.slot digits).fill args ++
          (Template.ofText after).fill args) ∧
    ∀ digits, args.length ≤ UInt64.size → UInt64.size ≤ Nat.ofDigitChars 10 digits 0 →
      ((TemplatePiece.slot digits).fill args).toList = slotText digits := by
  refine ⟨message?_eq_none_iff texts code args, ?_, ?_, ?_⟩
  · intro text written
    obtain ⟨message, found, read⟩ := exists_message_of_textOf? written args
    refine ⟨message, found, fun other => ⟨fun same => same.unique read, fun same => ?_⟩⟩
    rw [same]
    exact read
  · intro digits slot before after
    exact Template.fill_ofText_append_slot slot before after args
  · intro digits addressable overflow
    refine Template.fill_slot_of_unheld fun index number => ?_
    rw [← number.value]
    exact addressable.trans overflow

def nestedSlots : String := "\x7b\x7b0\x7d\x7d \x7b1\x7b00\x7d \x7b2\x7d \x7b\u0660\x7d"

theorem message?_interpolated_nestedSlots :
    let args := ["\x7b1\x7d $1", "b"]
    let message := "\x7b\x7b1\x7d $1\x7d \x7b1\x7b1\x7d $1 \x7b2\x7d \x7b\u0660\x7d"
    let overlong := "18446744073709551616".toList
    textOf? [(1011, nestedSlots)] 1011 = some nestedSlots ∧
    (withTexts [(1011, nestedSlots)]).message? 1011 args = some message ∧
    Interpolated args nestedSlots.toList message.toList ∧
    IsSlot ['0'] ∧
    (Template.ofText ("\x7b" ++ String.ofList (slotText ['0']) ++ "\x7d")).fill args = "\x7b\x7b1\x7d $1\x7d" ∧
    args.length ≤ UInt64.size ∧ UInt64.size ≤ Nat.ofDigitChars 10 overlong 0 ∧
    ((TemplatePiece.slot overlong).fill args).toList = slotText overlong := by
  intro args message overlong
  obtain ⟨-, shown, slots, overflow⟩ := message?_interpolated [(1011, nestedSlots)] 1011 args
  have text : textOf? [(1011, nestedSlots)] 1011 = some nestedSlots := rfl
  have found : (withTexts [(1011, nestedSlots)]).message? 1011 args = some message := by decide
  obtain ⟨same, alsoFound, only⟩ := shown nestedSlots text
  rw [found, Option.some.injEq] at alsoFound
  have slot : IsSlot ['0'] := by decide
  have long : UInt64.size ≤ Nat.ofDigitChars 10 overlong 0 := by decide
  refine ⟨text, found, (only _).mpr (by rw [alsoFound]), slot, ?_, by decide, long, overflow _ (by decide) long⟩
  rw [slots _ slot]
  decide

end Catalog

end PageObject
