import PageObject.Proofs.Fault
import PageObject.Proofs.Property

namespace PageObject

theorem exists_ok_iff {ε α : Type} {x : Except ε α} : (∃ a, x = .ok a) ↔ ¬ ∃ e, x = .error e := by
  cases x <;> simp

/-- The fault reports the first breach: no requirement before it is broken. -/
def FirstOf : List (Fault → Prop) → Fault → Prop
  | [], _ => False
  | breach :: rest, fault => breach fault ∨ (∀ other, ¬ breach other) ∧ FirstOf rest fault

namespace FirstOf

variable {breach : Fault → Prop} {breaches : List (Fault → Prop)} {α β : Type}

theorem cons_iff_of_forall_not (kept : ∀ fault, ¬ breach fault) (fault : Fault) :
    FirstOf (breach :: breaches) fault ↔ FirstOf breaches fault := by
  constructor
  · intro h
    rcases h with broken | ⟨_, h⟩
    · exact absurd broken (kept fault)
    · exact h
  · intro h
    exact .inr ⟨kept, h⟩

theorem cons_iff_of_broken (broken : ∃ other, breach other) (fault : Fault) :
    FirstOf (breach :: breaches) fault ↔ breach fault := by
  rcases broken with ⟨other, broken⟩
  constructor
  · intro h
    rcases h with here | ⟨kept, _⟩
    · exact here
    · exact absurd broken (kept other)
  · exact .inl

theorem append_iff (others : List (Fault → Prop)) (fault : Fault) :
    FirstOf (breaches ++ others) fault ↔
      FirstOf breaches fault ∨ (∀ other, ¬ FirstOf breaches other) ∧ FirstOf others fault := by
  induction breaches with
  | nil => simp [FirstOf]
  | cons breach rest ih =>
    by_cases broken : ∃ other, breach other
    · simp only [List.cons_append, cons_iff_of_broken broken]
      rcases broken with ⟨other, broken⟩
      exact (or_iff_left fun h => h.1 other broken).symm
    · have kept : ∀ other, ¬ breach other := fun other here => broken ⟨other, here⟩
      simp only [List.cons_append, cons_iff_of_forall_not kept, ih]

theorem exists_iff : (∃ fault, FirstOf breaches fault) ↔ ∃ breach ∈ breaches, ∃ fault, breach fault := by
  induction breaches with
  | nil => simp [FirstOf]
  | cons breach rest ih =>
    by_cases broken : ∃ fault, breach fault
    · rcases broken with ⟨fault, here⟩
      constructor
      · intro _
        exact ⟨breach, List.mem_cons_self, fault, here⟩
      · intro _
        exact ⟨fault, .inl here⟩
    · have kept : ∀ fault, ¬ breach fault := fun fault here => broken ⟨fault, here⟩
      simp only [cons_iff_of_forall_not kept, ih, List.mem_cons, exists_eq_or_imp, broken, false_or]

theorem bind_eq_error_iff {x : Except Fault α} {f : α → Except Fault β}
    (here : ∀ fault, x = .error fault ↔ breach fault)
    (next : ∀ a, x = .ok a → ∀ fault, f a = .error fault ↔ FirstOf breaches fault) (fault : Fault) :
    x >>= f = .error fault ↔ FirstOf (breach :: breaches) fault := by
  cases x with
  | error found =>
    have broken : breach found := (here found).mp rfl
    constructor
    · intro h
      cases h
      exact .inl broken
    · intro h
      rcases h with same | ⟨kept, _⟩
      · cases (here fault).mpr same
        rfl
      · exact absurd broken (kept found)
  | ok a =>
    have kept : ∀ other, ¬ breach other := by
      intro other broken
      cases (here other).mpr broken
    rw [cons_iff_of_forall_not kept]
    exact next a rfl fault

theorem bind_append_eq_error_iff {others : List (Fault → Prop)} {x : Except Fault α} {f : α → Except Fault β}
    (here : ∀ fault, x = .error fault ↔ FirstOf breaches fault)
    (next : ∀ a, x = .ok a → ∀ fault, f a = .error fault ↔ FirstOf others fault) (fault : Fault) :
    x >>= f = .error fault ↔ FirstOf (breaches ++ others) fault := by
  rw [append_iff]
  simp only [← here]
  cases x with
  | error found =>
    constructor
    · intro h
      cases h
      exact .inl rfl
    · intro h
      rcases h with same | ⟨kept, _⟩
      · cases same
        rfl
      · exact absurd rfl (kept found)
  | ok a =>
    constructor
    · intro h
      exact .inr ⟨fun _ => by simp, (next a rfl fault).mp h⟩
    · intro h
      rcases h with same | ⟨_, h⟩
      · cases same
      · exact (next a rfl fault).mpr h

theorem find?_eq_error_iff {result : Except Fault β} {p : α → Bool} {Unfit : α → Prop} {report : α → Fault}
    {items : List α} (decides : ∀ item, p item ↔ Unfit item)
    (unfit : ∀ item, items.find? p = some item → result = .error (report item))
    (fit : items.find? p = none → ∀ fault, result = .error fault ↔ FirstOf breaches fault) (fault : Fault) :
    result = .error fault ↔
      FirstOf ((items.map fun item fault => Unfit item ∧ fault = report item) ++ breaches) fault := by
  induction items with
  | nil => exact fit rfl fault
  | cons item rest ih =>
    by_cases first : p item
    · have broken := (decides item).mp first
      rw [unfit item (List.find?_cons_of_pos first)]
      constructor
      · intro h
        cases h
        exact .inl ⟨broken, rfl⟩
      · intro h
        rcases h with ⟨_, rfl⟩ | ⟨kept, _⟩
        · rfl
        · exact absurd ⟨broken, rfl⟩ (kept (report item))
    · rw [List.find?_cons_of_neg first] at unfit fit
      rw [ih unfit fit, List.map_cons, List.cons_append]
      have kept (fault : Fault) : ¬ (Unfit item ∧ fault = report item) :=
        fun broken => first ((decides item).mpr broken.1)
      exact (cons_iff_of_forall_not kept fault).symm

end FirstOf

def Json.hasShape : Json → Shape → Bool
  | .object _, .object | .string _, .string | .bool _, .boolean | .array _, .array => true
  | value, .literal type => ParameterType.ofLiteral? value = some type
  | _, _ => false

def Json.fields : Json → Json.Fields
  | .object fields => fields
  | _ => []

@[simp] theorem Json.fields_object (fields : Json.Fields) : (object fields).fields = fields := rfl

/-- A property is there, and it is neither `null` nor of the shape that it has to have. -/
def Json.Fields.Misfits (fields : Json.Fields) (key : String) (shape : Shape) : Prop :=
  ∃ value, fields.value? key = some value ∧ value.hasShape shape = false

def Json.Fields.Fits (fields : Json.Fields) (key : String) (shape : Shape) : Prop :=
  ∀ value, fields.value? key = some value → value.hasShape shape

def Json.Fields.items (fields : Json.Fields) (key : String) : List Json :=
  match fields.value? key with
  | some (.array items) => items
  | _ => []

namespace Property

variable {fields : Json.Fields} {key context : String} {fault : Fault}

theorem fields_eq_ite (value : Json) (context property : String) :
    Property.fields value context property =
      if value.hasShape .object then .ok value.fields else .error (.wrongShape context property .object) := by
  cases value <;> rfl

theorem fields_eq_error_iff {value : Json} {property : String} :
    Property.fields value context property = .error fault ↔
      value.hasShape .object = false ∧ fault = .wrongShape context property .object := by
  cases value <;> simp [Property.fields, Json.hasShape, Fault.wrongShape, eq_comm]

theorem misfits_iff {shape : Shape} {value : Json} (present : fields.value? key = some value) :
    fields.Misfits key shape ↔ value.hasShape shape = false := by
  simp [Json.Fields.Misfits, present]

theorem not_misfits {shape : Shape} (absent : fields.value? key = none) : ¬ fields.Misfits key shape := by
  simp [Json.Fields.Misfits, absent]

theorem fits_iff {shape : Shape} : fields.Fits key shape ↔ ¬ fields.Misfits key shape := by
  simp [Json.Fields.Fits, Json.Fields.Misfits]

theorem fits_string_iff :
    fields.Fits key .string ↔ fields.value? key = none ∨ ∃ text, fields.value? key = some (.string text) := by
  unfold Json.Fields.Fits
  cases present : fields.value? key with
  | none => simp
  | some value => cases value <;> simp [Json.hasShape]

theorem string?_eq_error_iff :
    string? fields key context = .error fault ↔
      fields.Misfits key .string ∧ fault = .wrongShape context key .string := by
  unfold string?
  cases present : fields.value? key with
  | none => simp [not_misfits present]
  | some value => cases value <;> simp [misfits_iff present, Json.hasShape, Fault.wrongShape, eq_comm]

def stringBreaches (fields : Json.Fields) (key context : String) : List (Fault → Prop) :=
  [fun fault => fields.Misfits key .string ∧ fault = .wrongShape context key .string,
    fun fault => fields.value? key = none ∧ fault = .missingProperty context key,
    fun fault => fields.value? key = some (.string "") ∧ fault = .emptyString context key]

theorem string_eq_error_iff (fault : Fault) :
    string fields key context = .error fault ↔ FirstOf (stringBreaches fields key context) fault := by
  apply FirstOf.bind_eq_error_iff (fun _ => string?_eq_error_iff)
  intro found read fault
  rw [string?_eq_ok_iff] at read
  cases found with
  | none => simp [FirstOf, read, eq_comm]
  | some text =>
    by_cases empty : text = ""
    · simp [FirstOf, read, empty, eq_comm]
    · simp [FirstOf, read, empty]

theorem flag_eq_error_iff :
    flag fields key context = .error fault ↔
      fields.Misfits key .boolean ∧ fault = .wrongShape context key .boolean := by
  unfold flag
  cases present : fields.value? key with
  | none => simp [not_misfits present]
  | some value => cases value <;> simp [misfits_iff present, Json.hasShape, Fault.wrongShape, eq_comm]

theorem value_eq_error_iff :
    value fields key context = .error fault ↔ fields.get? key = none ∧ fault = .missingProperty context key := by
  unfold value
  cases fields.get? key <;> simp [eq_comm]

theorem items_eq_error_iff :
    items fields key context = .error fault ↔
      fields.Misfits key .array ∧ fault = .wrongShape context key .array := by
  unfold items
  cases present : fields.value? key with
  | none => simp [not_misfits present]
  | some value => cases value <;> simp [misfits_iff present, Json.hasShape, Fault.wrongShape, eq_comm]

theorem items_eq_ok_iff_fits {found : List Json} :
    items fields key context = .ok found ↔ fields.Fits key .array ∧ fields.items key = found := by
  unfold items Json.Fields.items Json.Fields.Fits
  cases present : fields.value? key with
  | none => simp
  | some value => cases value <;> simp [Json.hasShape]

theorem flag_eq_ok_iff_fits {found : Bool} :
    flag fields key context = .ok found ↔
      fields.Fits key .boolean ∧ (found ↔ fields.value? key = some (.bool true)) := by
  unfold flag Json.Fields.Fits
  cases present : fields.value? key with
  | none => cases found <;> simp
  | some value => cases value <;> cases found <;> simp [Json.hasShape]

theorem exists_flag_iff_fits : (∃ found, flag fields key context = .ok found) ↔ fields.Fits key .boolean := by
  rw [exists_ok_iff, fits_iff]
  simp only [flag_eq_error_iff, exists_and_left, exists_eq, and_true]

theorem flag_eq_true_iff : flag fields key context = .ok true ↔ fields.value? key = some (.bool true) := by
  unfold flag
  cases present : fields.value? key with
  | none => simp
  | some value => cases value <;> simp

end Property

end PageObject
