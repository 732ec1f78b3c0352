import Mathlib.Data.List.Forall2
import PageObject.Property

namespace PageObject

inductive Alike {ε α β : Type} (Same : α → β → Prop) : Except ε α → Except ε β → Prop where
  | error (e : ε) : Alike Same (.error e) (.error e)
  | ok {a : α} {b : β} (same : Same a b) : Alike Same (.ok a) (.ok b)

namespace Alike

variable {ε α β γ δ : Type} {Same : α → β → Prop} {Same' : γ → δ → Prop}

theorem bind {x : Except ε α} {y : Except ε β} {f : α → Except ε γ} {g : β → Except ε δ}
    (h : Alike Same x y) (next : ∀ a b, Same a b → Alike Same' (f a) (g b)) :
    Alike Same' (x >>= f) (y >>= g) := by
  cases h with
  | error e => exact .error e
  | ok same => exact next _ _ same

theorem map {x : Except ε α} {y : Except ε β} {f : α → γ} {g : β → δ} (h : Alike Same x y)
    (next : ∀ a b, Same a b → Same' (f a) (g b)) : Alike Same' (x.map f) (y.map g) := by
  cases h with
  | error e => exact .error e
  | ok same => exact .ok (next _ _ same)

theorem imp {Same Same' : α → β → Prop} {x : Except ε α} {y : Except ε β} (h : Alike Same x y)
    (next : ∀ a b, Same a b → Same' a b) : Alike Same' x y := by
  cases h with
  | error e => exact .error e
  | ok same => exact .ok (next _ _ same)

theorem bind_same {x y : Except ε α} {f : α → Except ε γ} {g : α → Except ε δ} (same : y = x)
    (next : ∀ a, Alike Same' (f a) (g a)) : Alike Same' (x >>= f) (y >>= g) := by
  subst same
  cases y with
  | error e => exact .error e
  | ok a => exact next a

theorem eq {x y : Except ε α} (h : Alike Eq x y) : y = x := by
  cases h with
  | error e => rfl
  | ok same => rw [same]

theorem refl {Same : α → α → Prop} (same : ∀ a, Same a a) (x : Except ε α) : Alike Same x x := by
  cases x with
  | error e => exact .error e
  | ok a => exact .ok (same a)

theorem of_eq {x y : Except ε α} (same : y = x) : Alike Eq x y := same ▸ refl (fun _ => rfl) _

theorem trans {Same : α → α → Prop} (joined : ∀ {a b c}, Same a b → Same b c → Same a c) {x y z : Except ε α}
    (h : Alike Same x y) (next : Alike Same y z) : Alike Same x z := by
  cases h with
  | error e => exact next
  | ok same =>
    cases next with
    | ok same' => exact .ok (joined same same')

end Alike

section Pointwise

variable {α β γ : Type} {R : α → β → Prop} {items : List α} {items' : List β}

theorem map_eq_of_forall₂ (h : List.Forall₂ R items items') {f : α → γ} {g : β → γ}
    (same : ∀ a b, R a b → g b = f a) : items'.map g = items.map f := by
  induction h with
  | nil => rfl
  | cons first others ih => rw [List.map_cons, List.map_cons, same _ _ first, ih]

theorem rel_find?_of_forall₂ (h : List.Forall₂ R items items') {p : α → Bool} {q : β → Bool}
    (same : ∀ a b, R a b → q b = p a) : Option.Rel R (items.find? p) (items'.find? q) := by
  induction h with
  | nil => exact .none
  | @cons a b _ _ first others ih =>
    rw [List.find?_cons, List.find?_cons, same a b first]
    cases p a with
    | true => exact .some first
    | false => exact ih

theorem forall₂_zip_left (h : List.Forall₂ R items items') (others : List γ) :
    List.Forall₂ (fun pair pair' => pair'.1 = pair.1 ∧ R pair.2 pair'.2) (others.zip items)
      (others.zip items') := by
  induction h generalizing others with
  | nil => simp
  | cons first rest ih =>
    cases others with
    | nil => exact .nil
    | cons other others => exact .cons ⟨rfl, first⟩ (ih others)

theorem forall₂_among {R : α → α → Prop} (refl : ∀ a, R a a) {a b : α} (same : R a b) (before after : List α) :
    List.Forall₂ R (before ++ a :: after) (before ++ b :: after) := by
  have unchanged (items : List α) : List.Forall₂ R items items := List.forall₂_same.mpr fun a _ => refl a
  exact List.rel_append (unchanged before) (.cons same (unchanged after))

end Pointwise

end PageObject
