import PageObject.Proofs.Element.Arguments
import PageObject.Proofs.Signature.Merge

namespace PageObject

/-- A parameter that is no literal has the name of one of the earlier parameters, and another type. -/
def Parameter.Clashes (earlier : List Parameter) (parameter : Parameter) : Prop :=
  parameter.isLiteral = false ∧
    ∃ other ∈ earlier, other.name = parameter.name ∧ other.type.key ≠ parameter.type.key

namespace Signature

def mergeTwice (signature : Signature) (batch rest : List Parameter) : Merge :=
  let first := signature.merge batch
  match first.conflict with
  | some _ => first
  | none =>
    let second := first.signature.merge rest
    { second with added := first.added ++ second.added }

/-- The signature behind one call for each batch, whether or not the calls succeed. -/
def mergeAll (signature : Signature) (batches : List (List Parameter)) : Signature :=
  batches.foldl (fun signature batch => (signature.merge batch).signature) signature

def AllMerge : Signature → List (List Parameter) → Prop
  | _, [] => True
  | signature, batch :: batches =>
    (signature.merge batch).conflict = none ∧ AllMerge (signature.merge batch).signature batches

/-- The first parameter of a batch that clashes with an earlier one, what stands in front of it, and the earliest
parameter of its name. The earlier parameters are those that are held and those of the batch. -/
structure FirstConflict (held batch before : List Parameter) (known clash : Parameter) : Prop where
  split : ∃ after, batch = before ++ clash :: after
  named : clash.isLiteral = false
  found : (held ++ Parameter.named before).find? (fun parameter => parameter.name = clash.name) = some known
  differ : known.type.key ≠ clash.type.key
  first : ∀ front other behind, before = front ++ other :: behind →
    ¬ other.Clashes (held ++ Parameter.named front)

variable {signature : Signature} {batch before after known : List Parameter} {parameter clash : Parameter}

theorem merge_append (signature : Signature) (batch rest : List Parameter) :
    signature.merge (batch ++ rest) = signature.mergeTwice batch rest := by
  induction batch generalizing signature with
  | nil => rfl
  | cons parameter batch ih =>
    unfold mergeTwice
    rw [List.cons_append, merge, merge]
    split
    · exact ih signature
    · split
      · split
        · exact ih signature
        · rfl
      · -- What is added for this parameter stands in front of what the rest of the batch adds.
        simp only [ih (signature.push parameter), mergeTwice]
        cases ended : ((signature.push parameter).merge batch).conflict with
        | none => rfl
        | some fault => simp only [ended]

theorem owner_merge (signature : Signature) (batch : List Parameter) :
    (signature.merge batch).signature.owner = signature.owner := by
  rw [signature_merge]

theorem prefix_merge (signature : Signature) (batch : List Parameter) :
    signature.parameters <+: (signature.merge batch).signature.parameters := by
  rw [signature_merge]
  exact List.prefix_append _ _

theorem merge_named (signature : Signature) (batch : List Parameter) :
    signature.merge (Parameter.named batch) = signature.merge batch :=
  merge_filter_isLiteral signature batch

theorem pairwise_agrees_of_nodup (unique : (known.map Parameter.name).Nodup) : known.Pairwise Parameter.Agrees :=
  (List.pairwise_map.mp unique).imp fun apart same => absurd same apart

theorem not_clashes_of_pairwise (agree : (known ++ parameter :: after).Pairwise Parameter.Agrees) :
    ¬ parameter.Clashes known := by
  intro clashes
  rcases clashes with ⟨-, other, member, sameName, differ⟩
  exact differ ((List.pairwise_append.mp agree).2.2 other member parameter List.mem_cons_self sameName)

theorem not_clashes_of_split (agree : (known ++ Parameter.named batch).Pairwise Parameter.Agrees)
    (split : batch = before ++ clash :: after) : ¬ clash.Clashes (known ++ Parameter.named before) := by
  intro clashes
  have behind : Parameter.named (clash :: after) = clash :: Parameter.named after :=
    List.filter_cons_of_pos (by simp [clashes.1])
  rw [split, Parameter.named_append, behind, ← List.append_assoc] at agree
  exact not_clashes_of_pairwise agree clashes

theorem merge_cons_of_clash (named : clash.isLiteral = false) (found : signature.find? clash.name = some parameter)
    (differ : parameter.type.key ≠ clash.type.key) (after : List Parameter) :
    (signature.merge (clash :: after)).signature = signature ∧
      (signature.merge (clash :: after)).conflict = some (.parameterConflict signature.owner clash.name
        parameter.type.displayName clash.type.displayName) := by
  rw [merge, if_neg (by simp [named]), found]
  simp only [if_neg differ, and_self]

theorem FirstConflict.clashes {held : List Parameter} (h : FirstConflict held batch before parameter clash) :
    clash.Clashes (held ++ Parameter.named before) :=
  ⟨h.named, parameter, List.mem_of_find?_eq_some h.found, by simpa using List.find?_some h.found, h.differ⟩

theorem merge_of_pairwise (start : signature.parameters = firstOccurrences Parameter.name known)
    (agree : (known ++ Parameter.named batch).Pairwise Parameter.Agrees) :
    (signature.merge batch).conflict = none ∧
      (signature.merge batch).signature.parameters =
        firstOccurrences Parameter.name (known ++ Parameter.named batch) := by
  have agreeKnown := (List.pairwise_append.mp agree).1
  rw [← merge_named]
  rcases merge_of_agree start agreeKnown fun _ => Parameter.isLiteral_of_mem_named with
    ⟨-, none, merged⟩ | ⟨before, clash, after, first, split, -, found, differ, -⟩
  · exact ⟨none, merged⟩
  · -- The clash would be between two of the parameters that agree.
    rw [split, ← List.append_assoc] at agree
    have inside : clash ∈ Parameter.named batch := by simp [split]
    have named := Parameter.isLiteral_of_mem_named inside
    exact absurd ⟨named, first, List.mem_of_find?_eq_some found, by simpa using List.find?_some found, differ⟩
      (not_clashes_of_pairwise agree)

theorem FirstConflict.merge {held : List Parameter} (h : FirstConflict held batch before parameter clash)
    (start : signature.parameters = firstOccurrences Parameter.name held)
    (agree : (held ++ Parameter.named before).Pairwise Parameter.Agrees) :
    (signature.merge before).conflict = none ∧
      (signature.merge batch).signature = (signature.merge before).signature ∧
      (signature.merge batch).conflict = some (.parameterConflict signature.owner clash.name
        parameter.type.displayName clash.type.displayName) := by
  obtain ⟨succeeds, merged⟩ := merge_of_pairwise start agree
  obtain ⟨after, split⟩ := h.split
  have found : (signature.merge before).signature.find? clash.name = some parameter := by
    rw [find?_of_firstOccurrences merged, h.found]
  obtain ⟨kept, conflict⟩ := merge_cons_of_clash h.named found h.differ after
  rw [owner_merge] at conflict
  refine ⟨succeeds, ?_⟩
  rw [split, merge_append, mergeTwice]
  simp only [succeeds]
  exact ⟨kept, conflict⟩

theorem pairwise_or_firstConflict (start : signature.parameters = firstOccurrences Parameter.name known)
    (agree : known.Pairwise Parameter.Agrees) (batch : List Parameter) :
    (known ++ Parameter.named batch).Pairwise Parameter.Agrees ∨
      ∃ before first clash, FirstConflict known batch before first clash ∧
        (known ++ Parameter.named before).Pairwise Parameter.Agrees := by
  have named : ∀ parameter ∈ Parameter.named batch, parameter.isLiteral = false :=
    fun _ => Parameter.isLiteral_of_mem_named
  rcases merge_of_agree start agree named with
    ⟨all, -, -⟩ | ⟨namedBefore, clash, namedAfter, first, split, agreeBefore, found, differ, -⟩
  · exact .inl all
  · -- The literals are put back between the parameters in front of the clash.
    rcases List.filter_eq_append_iff.mp split with ⟨front, behind, rfl, rfl, splitBehind⟩
    rcases List.filter_eq_cons_iff.mp splitBehind with ⟨literals, after, rfl, areLiterals, named, rfl⟩
    have passed : Parameter.named (front ++ literals) = Parameter.named front := by
      rw [Parameter.named_append, Parameter.named, Parameter.named, List.filter_eq_nil_iff.mpr areLiterals,
        List.append_nil]
    rw [← Parameter.named, ← passed] at agreeBefore found
    refine .inr ⟨front ++ literals, first, clash, ⟨⟨after, by simp⟩, by simpa using named, found, differ, ?_⟩,
      agreeBefore⟩
    intro earlier other later splitFront
    exact not_clashes_of_split agreeBefore splitFront

theorem nodup_names_merge (unique : (signature.parameters.map Parameter.name).Nodup) (batch : List Parameter) :
    ((signature.merge batch).signature.parameters.map Parameter.name).Nodup := by
  have start := (firstOccurrences_eq_self unique).symm
  rcases pairwise_or_firstConflict start (pairwise_agrees_of_nodup unique) batch with
    agree | ⟨before, first, clash, firstConflict, agree⟩
  · rw [(merge_of_pairwise start agree).2]
    exact nodup_firstOccurrences _
  · rw [(firstConflict.merge start agree).2.1, (merge_of_pairwise start agree).2]
    exact nodup_firstOccurrences _

theorem nodup_names_mergeAll (unique : (signature.parameters.map Parameter.name).Nodup)
    (batches : List (List Parameter)) :
    ((signature.mergeAll batches).parameters.map Parameter.name).Nodup := by
  induction batches generalizing signature with
  | nil => exact unique
  | cons batch batches ih => exact ih (nodup_names_merge unique batch)

theorem owner_mergeAll (signature : Signature) (batches : List (List Parameter)) :
    (signature.mergeAll batches).owner = signature.owner := by
  induction batches generalizing signature with
  | nil => rfl
  | cons batch batches ih => exact (ih _).trans (owner_merge signature batch)

theorem parameters_mergeAll (start : signature.parameters = firstOccurrences Parameter.name known)
    (agree : known.Pairwise Parameter.Agrees) {batches : List (List Parameter)}
    (succeed : AllMerge signature batches) :
    (signature.mergeAll batches).parameters =
      firstOccurrences Parameter.name (known ++ Parameter.named batches.flatten) := by
  induction batches generalizing signature known with
  | nil => simpa [mergeAll, Parameter.named] using start
  | cons batch batches ih =>
    obtain ⟨succeeds, succeed⟩ := succeed
    rcases pairwise_or_firstConflict start agree batch with
      agreeBatch | ⟨before, first, clash, firstConflict, agreeBefore⟩
    · have merged := ih (merge_of_pairwise start agreeBatch).2 agreeBatch succeed
      rw [List.append_assoc, ← Parameter.named_append, ← List.flatten_cons] at merged
      exact merged
    · have conflict := (firstConflict.merge start agreeBefore).2.2
      rw [succeeds] at conflict
      cases conflict

theorem isSome_conflict_iff (start : signature.parameters = firstOccurrences Parameter.name known)
    (agree : known.Pairwise Parameter.Agrees) (batch : List Parameter) :
    (signature.merge batch).conflict.isSome ↔ ∃ before clash after, batch = before ++ clash :: after ∧
      clash.Clashes (known ++ Parameter.named before) := by
  rcases pairwise_or_firstConflict start agree batch with
    agreeBatch | ⟨before, first, clash, firstConflict, agreeBefore⟩
  · rw [(merge_of_pairwise start agreeBatch).1]
    refine iff_of_false nofun ?_
    intro h
    rcases h with ⟨before, clash, after, split, clashes⟩
    exact not_clashes_of_split agreeBatch split clashes
  · obtain ⟨after, split⟩ := firstConflict.split
    rw [(firstConflict.merge start agreeBefore).2.2]
    exact iff_of_true rfl ⟨before, clash, after, split, firstConflict.clashes⟩

theorem conflict_eq_some_iff (start : signature.parameters = firstOccurrences Parameter.name known)
    (agree : known.Pairwise Parameter.Agrees) {batch : List Parameter} {fault : Fault} :
    (signature.merge batch).conflict = some fault ↔
      ∃ before first clash, FirstConflict known batch before first clash ∧
        fault = .parameterConflict signature.owner clash.name first.type.displayName clash.type.displayName ∧
        (signature.merge before).conflict = none ∧
        (signature.merge batch).signature = (signature.merge before).signature := by
  constructor
  · intro failed
    rcases pairwise_or_firstConflict start agree batch with
      agreeBatch | ⟨before, first, clash, firstConflict, agreeBefore⟩
    · rw [(merge_of_pairwise start agreeBatch).1] at failed
      cases failed
    · obtain ⟨succeeds, kept, conflict⟩ := firstConflict.merge start agreeBefore
      rw [failed] at conflict
      exact ⟨before, first, clash, firstConflict, Option.some.inj conflict, succeeds, kept⟩
  · intro h
    rcases h with ⟨before, first, clash, firstConflict, rfl, -, -⟩
    rcases pairwise_or_firstConflict start agree before with agreeBefore | ⟨front, _, other, earlier, -⟩
    · exact (firstConflict.merge start agreeBefore).2.2
    · obtain ⟨later, split⟩ := earlier.split
      exact absurd earlier.clashes (firstConflict.first front other later split)

/-- Whatever was merged before, calls that all succeed come to the first parameter of every name; a batch that is cut
in two is merged in two calls; a call fails if and only if a parameter clashes with an earlier one, and then it ends
at the first clash with what stands in front of it merged; and what is held stays where it is. -/
theorem merge_batches (owner : String) (batches : List (List Parameter)) :
    let signature := mergeAll { owner } batches
    (AllMerge { owner } batches →
      signature.parameters = firstOccurrences Parameter.name (Parameter.named batches.flatten)) ∧
    (∀ batch rest, signature.merge (batch ++ rest) = signature.mergeTwice batch rest) ∧
    (∀ batch, (signature.merge batch).conflict.isSome ↔ ∃ before clash after, batch = before ++ clash :: after ∧
      clash.Clashes (signature.parameters ++ Parameter.named before)) ∧
    (∀ batch fault, (signature.merge batch).conflict = some fault ↔
      ∃ before first clash, FirstConflict signature.parameters batch before first clash ∧
        fault = .parameterConflict owner clash.name first.type.displayName clash.type.displayName ∧
        (signature.merge before).conflict = none ∧
        (signature.merge batch).signature = (signature.merge before).signature) ∧
    ∀ batch, signature.parameters <+: (signature.merge batch).signature.parameters := by
  intro signature
  have empty : (({ owner } : Signature).parameters.map Parameter.name).Nodup := .nil
  have unique : (signature.parameters.map Parameter.name).Nodup := nodup_names_mergeAll empty batches
  have start := (firstOccurrences_eq_self unique).symm
  have agree := pairwise_agrees_of_nodup unique
  have owned : signature.owner = owner := owner_mergeAll _ batches
  refine ⟨?_, merge_append signature, isSome_conflict_iff start agree, ?_, prefix_merge signature⟩
  · exact @parameters_mergeAll { owner } [] rfl .nil batches
  · intro batch fault
    rw [conflict_eq_some_iff start agree, owned]

def rowBatches : List (List Parameter) := [
  [{ name := "x", type := { simpleName := "Integer" } },
    { name := "title", type := { simpleName := "String" }, literal := some (.string "Save") }],
  [{ name := "y", type := { simpleName := "String" } }, { name := "x", type := { simpleName := "Integer" } }]]

def clashingBatch : List Parameter := [
  { name := "z", type := { simpleName := "String" } }, { name := "x", type := { simpleName := "String" } }]

theorem merge_batches_row :
    let signature := mergeAll { owner := "method 'getRow'" } rowBatches
    AllMerge { owner := "method 'getRow'" } rowBatches ∧
    signature.parameters.map Parameter.declaration = ["Integer x", "String y"] ∧
    (signature.merge clashingBatch).conflict =
      some (.parameterConflict "method 'getRow'" "x" "Integer" "String") ∧
    ∃ before first clash, FirstConflict signature.parameters clashingBatch before first clash ∧
      (signature.merge clashingBatch).signature = (signature.merge before).signature := by
  intro signature
  obtain ⟨held, -, -, fails, -⟩ := merge_batches "method 'getRow'" rowBatches
  have succeed : AllMerge { owner := "method 'getRow'" } rowBatches := ⟨rfl, rfl, trivial⟩
  have conflict : (signature.merge clashingBatch).conflict =
    some (.parameterConflict "method 'getRow'" "x" "Integer" "String") := rfl
  obtain ⟨before, first, clash, firstConflict, -, -, kept⟩ := (fails _ _).mp conflict
  refine ⟨succeed, ?_, conflict, before, first, clash, firstConflict, kept⟩
  rw [held succeed]
  rfl

end Signature

end PageObject
