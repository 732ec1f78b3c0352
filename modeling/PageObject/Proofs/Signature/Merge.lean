import PageObject.Proofs.Fault
import PageObject.Signature

namespace PageObject

section FirstOccurrences

variable {α β κ : Type} [DecidableEq κ]

/-- The items of a list without those that share their key with an earlier one. -/
def firstOccurrences (key : α → κ) : List α → List α
  | [] => []
  | item :: rest => item :: (firstOccurrences key rest).filter fun other => key other ≠ key item

variable {key : α → κ}

theorem nodup_firstOccurrences (items : List α) : ((firstOccurrences key items).map key).Nodup := by
  induction items with
  | nil => exact .nil
  | cons first rest ih =>
    refine List.nodup_cons.mpr ⟨?_, ih.sublist (List.filter_sublist.map key)⟩
    intro member
    rcases List.mem_map.mp member with ⟨other, inside, same⟩
    exact of_decide_eq_true (List.mem_filter.mp inside).2 same

theorem sublist_firstOccurrences (items : List α) : (firstOccurrences key items).Sublist items := by
  induction items with
  | nil => exact .slnil
  | cons first rest ih => exact (List.filter_sublist.trans ih).cons_cons first

theorem find?_firstOccurrences (items : List α) (wanted : κ) :
    (firstOccurrences key items).find? (fun item => key item = wanted) =
      items.find? fun item => key item = wanted := by
  induction items with
  | nil => rfl
  | cons first rest ih =>
    rw [firstOccurrences, List.find?_cons, List.find?_cons, List.find?_filter]
    by_cases same : key first = wanted
    · simp [same]
    · simp only [same, decide_false, ← ih]
      congr 1
      funext other
      by_cases equal : key other = wanted
      · simp [equal, Ne.symm same]
      · simp [equal]

theorem firstOccurrences_snoc_of_fresh {items : List α} {item : α}
    (fresh : ∀ other ∈ items, key other ≠ key item) :
    firstOccurrences key (items ++ [item]) = firstOccurrences key items ++ [item] := by
  induction items with
  | nil => rfl
  | cons first rest ih =>
    have different : key item ≠ key first := (fresh first List.mem_cons_self).symm
    rw [List.cons_append, firstOccurrences,
      ih fun other member => fresh other (List.mem_cons_of_mem _ member), firstOccurrences,
      List.filter_append]
    simp [different]

theorem firstOccurrences_snoc_of_known {items : List α} {item : α}
    (known : ∃ other ∈ items, key other = key item) :
    firstOccurrences key (items ++ [item]) = firstOccurrences key items := by
  induction items with
  | nil =>
    rcases known with ⟨other, member, same⟩
    cases member
  | cons first rest ih =>
    rw [List.cons_append, firstOccurrences, firstOccurrences]
    by_cases later : ∃ other ∈ rest, key other = key item
    · rw [ih later]
    · have fresh : ∀ other ∈ rest, key other ≠ key item :=
        fun other member same => later ⟨other, member, same⟩
      rcases known with ⟨other, member, same⟩
      rcases List.mem_cons.mp member with rfl | member
      · rw [firstOccurrences_snoc_of_fresh fresh, List.filter_append]
        simp [same]
      · exact absurd same (fresh other member)

theorem firstOccurrences_append (items others : List α) :
    firstOccurrences key (items ++ others) = firstOccurrences key items ++
      (firstOccurrences key others).filter fun other => key other ∉ items.map key := by
  induction items with
  | nil => exact (List.filter_eq_self.mpr (by simp)).symm
  | cons first rest ih =>
    rw [List.cons_append, firstOccurrences, firstOccurrences, ih, List.filter_append, List.filter_filter,
      List.cons_append]
    simp

theorem firstOccurrences_append_of_known {items others : List α}
    (known : ∀ item ∈ others, key item ∈ items.map key) :
    firstOccurrences key (items ++ others) = firstOccurrences key items := by
  rw [firstOccurrences_append, List.filter_eq_nil_iff.mpr, List.append_nil]
  intro item member
  have inside := known item ((sublist_firstOccurrences others).subset member)
  simp [inside]

theorem firstOccurrences_eq_self {items : List α} (unique : (items.map key).Nodup) :
    firstOccurrences key items = items := by
  induction items with
  | nil => rfl
  | cons first rest ih =>
    rw [List.map_cons, List.nodup_cons] at unique
    rw [firstOccurrences, ih unique.2]
    congr 1
    refine List.filter_eq_self.mpr ?_
    intro other member
    refine decide_eq_true fun same => unique.1 ?_
    rw [← same]
    exact List.mem_map_of_mem member

theorem mem_map_firstOccurrences {items : List α} {wanted : κ} :
    wanted ∈ (firstOccurrences key items).map key ↔ wanted ∈ items.map key := by
  constructor
  · exact fun member => ((sublist_firstOccurrences items).map key).subset member
  · intro member
    rcases List.mem_map.mp member with ⟨item, inside, same⟩
    cases found : items.find? fun other => key other = wanted with
    | none => simpa [same] using List.find?_eq_none.mp found item inside
    | some first =>
      rw [← find?_firstOccurrences] at found
      exact List.mem_map.mpr ⟨first, List.mem_of_find?_eq_some found, by simpa using List.find?_some found⟩

theorem firstOccurrences_firstOccurrences_append (items others : List α) :
    firstOccurrences key (firstOccurrences key items ++ others) = firstOccurrences key (items ++ others) := by
  rw [firstOccurrences_append, firstOccurrences_append,
    firstOccurrences_eq_self (nodup_firstOccurrences items)]
  simp only [mem_map_firstOccurrences]

theorem firstOccurrences_map (f : β → α) (items : List β) :
    firstOccurrences key (items.map f) = (firstOccurrences (fun item => key (f item)) items).map f := by
  induction items with
  | nil => rfl
  | cons first rest ih =>
    rw [List.map_cons, firstOccurrences, firstOccurrences, ih, List.map_cons, List.filter_map]
    rfl

end FirstOccurrences

def Parameter.Agrees (parameter other : Parameter) : Prop :=
  parameter.name = other.name → parameter.type.key = other.type.key

theorem Parameter.agrees_of_mem {known : List Parameter} (agree : known.Pairwise Agrees)
    {parameter other : Parameter} (member : parameter ∈ known) (inside : other ∈ known) :
    parameter.Agrees other := by
  have flipped : known.Pairwise fun parameter other => other.Agrees parameter :=
    agree.imp fun same equal => (same equal.symm).symm
  exact List.Pairwise.forall_of_forall_of_flip (fun _ _ _ => rfl) agree flipped member inside

namespace Signature

variable {signature : Signature} {known parameters : List Parameter}

theorem merge_filter_isLiteral (signature : Signature) (parameters : List Parameter) :
    signature.merge (parameters.filter fun parameter => !parameter.isLiteral) =
      signature.merge parameters := by
  induction parameters generalizing signature with
  | nil => rfl
  | cons parameter rest ih =>
    cases literal : parameter.isLiteral with
    | true =>
      rw [List.filter_cons_of_neg (by simp [literal]), merge, if_pos literal, ih]
    | false =>
      rw [List.filter_cons_of_pos (by simp [literal]), merge, merge]
      simp only [ih]

theorem signature_merge (signature : Signature) (parameters : List Parameter) :
    (signature.merge parameters).signature =
      { signature with parameters := signature.parameters ++ (signature.merge parameters).added } := by
  induction parameters generalizing signature with
  | nil => simp [merge]
  | cons parameter rest ih =>
    unfold merge
    split
    · exact ih signature
    · split
      · split
        · exact ih signature
        · simp
      · rw [ih (signature.push parameter)]
        simp [push]

theorem form_of_conflict {fault : Fault} (h : (signature.merge parameters).conflict = some fault) :
    fault.form = (FaultCode.parameterConflict, 4) := by
  induction parameters generalizing signature with
  | nil => cases h
  | cons parameter rest ih =>
    unfold merge at h
    split at h
    · exact ih h
    · split at h
      · split at h
        · exact ih h
        · cases h
          rfl
      · exact ih h

theorem merge_append_of_fresh (unique : ((signature.parameters ++ known).map Parameter.name).Nodup)
    (named : ∀ parameter ∈ known, parameter.isLiteral = false) (rest : List Parameter) :
    (signature.merge (known ++ rest)).signature =
        ({ signature with parameters := signature.parameters ++ known }.merge rest).signature ∧
      (signature.merge (known ++ rest)).conflict =
        ({ signature with parameters := signature.parameters ++ known }.merge rest).conflict := by
  induction known generalizing signature with
  | nil =>
    rw [List.append_nil]
    exact ⟨rfl, rfl⟩
  | cons parameter known ih =>
    have fresh : signature.find? parameter.name = none := by
      refine List.find?_eq_none.mpr ?_
      intro other member same
      rw [List.map_append, List.nodup_append] at unique
      exact unique.2.2 other.name (List.mem_map_of_mem member) parameter.name List.mem_cons_self
        (of_decide_eq_true same)
    have literal := named parameter List.mem_cons_self
    have shifted : signature.parameters ++ parameter :: known =
        (signature.push parameter).parameters ++ known := by simp [push]
    obtain ⟨sameSignature, sameConflict⟩ := @ih (signature.push parameter) (by rwa [← shifted])
      fun other member => named other (List.mem_cons_of_mem _ member)
    rw [shifted, List.cons_append, merge, if_neg (by simp [literal]), fresh]
    exact ⟨sameSignature, sameConflict⟩

/-- What is held is looked up as the first parameter of its name among all that were merged. -/
theorem find?_of_firstOccurrences (start : signature.parameters = firstOccurrences Parameter.name known)
    (name : String) : signature.find? name = known.find? fun parameter => parameter.name = name := by
  rw [find?, start, find?_firstOccurrences]

theorem merge_cons_of_agree (start : signature.parameters = firstOccurrences Parameter.name known)
    (agree : known.Pairwise Parameter.Agrees) {parameter : Parameter}
    (named : parameter.isLiteral = false) (rest : List Parameter) :
    (∃ next : Signature, next.owner = signature.owner ∧
        next.parameters = firstOccurrences Parameter.name (known ++ [parameter]) ∧
        (known ++ [parameter]).Pairwise Parameter.Agrees ∧
        (signature.merge (parameter :: rest)).conflict = (next.merge rest).conflict ∧
        (signature.merge (parameter :: rest)).signature = (next.merge rest).signature) ∨
      ∃ first, known.find? (fun other => other.name = parameter.name) = some first ∧
        first.type.key ≠ parameter.type.key ∧
        (signature.merge (parameter :: rest)).conflict = some (.parameterConflict signature.owner
          parameter.name first.type.displayName parameter.type.displayName) := by
  rw [merge, if_neg (by simp [named]), find?_of_firstOccurrences start]
  cases found : known.find? fun other => other.name = parameter.name with
  | none =>
    have fresh : ∀ other ∈ known, other.name ≠ parameter.name := by
      intro other member same
      exact List.find?_eq_none.mp found other member (decide_eq_true same)
    refine .inl ⟨signature.push parameter, rfl, ?_, ?_, rfl, rfl⟩
    · rw [firstOccurrences_snoc_of_fresh fresh, ← start]
      rfl
    · refine List.pairwise_append.mpr ⟨agree, List.pairwise_singleton .., ?_⟩
      intro other member last inside same
      rw [List.mem_singleton.mp inside] at same
      exact absurd same (fresh other member)
  | some first =>
    have member := List.mem_of_find?_eq_some found
    have sameName : first.name = parameter.name := by simpa using List.find?_some found
    by_cases sameType : first.type.key = parameter.type.key
    · simp only [if_pos sameType]
      refine .inl ⟨signature, rfl, ?_, ?_, rfl, rfl⟩
      · rw [firstOccurrences_snoc_of_known ⟨first, member, sameName⟩, start]
      · refine List.pairwise_append.mpr ⟨agree, List.pairwise_singleton .., ?_⟩
        intro other inside last isLast same
        rw [List.mem_singleton.mp isLast] at same ⊢
        rw [← sameType]
        exact Parameter.agrees_of_mem agree inside member (same.trans sameName.symm)
    · simp only [if_neg sameType]
      exact .inr ⟨first, rfl, sameType, rfl⟩

/-- What merging comes to behind parameters that agree: either all agree, and the first ones of each
name are there, or there is a first parameter that disagrees with an earlier one. -/
theorem merge_of_agree (start : signature.parameters = firstOccurrences Parameter.name known)
    (agree : known.Pairwise Parameter.Agrees)
    (named : ∀ parameter ∈ parameters, parameter.isLiteral = false) :
    ((known ++ parameters).Pairwise Parameter.Agrees ∧ (signature.merge parameters).conflict = none ∧
        (signature.merge parameters).signature.parameters =
          firstOccurrences Parameter.name (known ++ parameters)) ∨
      ∃ before clash after first, parameters = before ++ clash :: after ∧
        (known ++ before).Pairwise Parameter.Agrees ∧
        (known ++ before).find? (fun parameter => parameter.name = clash.name) = some first ∧
        first.type.key ≠ clash.type.key ∧
        (signature.merge parameters).conflict = some (.parameterConflict signature.owner clash.name
          first.type.displayName clash.type.displayName) := by
  induction parameters generalizing signature known with
  | nil =>
    rw [List.append_nil]
    exact .inl ⟨agree, rfl, start⟩
  | cons parameter rest ih =>
    have namedRest : ∀ other ∈ rest, other.isLiteral = false :=
      fun other member => named other (List.mem_cons_of_mem _ member)
    rcases merge_cons_of_agree start agree (named parameter List.mem_cons_self) rest with
      ⟨next, owner, parameters, agreeNext, sameConflict, sameSignature⟩ | ⟨first, found, differ, conflict⟩
    · have assoc : ∀ others, known ++ [parameter] ++ others = known ++ parameter :: others := by simp
      rw [sameConflict, sameSignature, ← owner]
      rcases ih parameters agreeNext namedRest with
        ⟨all, none, merged⟩ | ⟨before, clash, after, first, rfl, agreeBefore, found, differ, conflict⟩
      · rw [assoc] at all merged
        exact .inl ⟨all, none, merged⟩
      · rw [assoc] at agreeBefore found
        exact .inr ⟨parameter :: before, clash, after, first, rfl, agreeBefore, found, differ, conflict⟩
    · refine .inr ⟨[], parameter, rest, first, rfl, ?_, ?_, differ, conflict⟩
      · rwa [List.append_nil]
      · rwa [List.append_nil]

end Signature

end PageObject
