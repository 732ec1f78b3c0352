import PageObject.Proofs.Element.Arguments
import PageObject.Proofs.Registry
import PageObject.Proofs.Signature.Merge

namespace PageObject

namespace DeclaredArgument

variable {registry : Registry} {declarations : List DeclaredArgument} {first clash : DeclaredArgument}

/-- The parameters that declarations come to: one for every name, in the order of the names. -/
def parameters (registry : Registry) (declarations : List DeclaredArgument) : List Parameter :=
  (firstOccurrences DeclaredArgument.name declarations).map (parameter registry)

theorem firstOccurrences_map_parameter (registry : Registry) (declarations : List DeclaredArgument) :
    firstOccurrences Parameter.name (declarations.map (parameter registry)) =
      parameters registry declarations :=
  firstOccurrences_map ..

theorem isLiteral_of_mem_map {parameter : Parameter}
    (member : parameter ∈ declarations.map (DeclaredArgument.parameter registry)) :
    parameter.isLiteral = false := by
  rcases List.mem_map.mp member with ⟨declared, inside, rfl⟩
  rfl

theorem pairwise_map_parameter_iff (config : Config) (declarations : List DeclaredArgument) :
    (declarations.map (parameter config.registry)).Pairwise Parameter.Agrees ↔
      declarations.Pairwise Agrees := by
  rw [List.pairwise_map]
  have same : ∀ declared other : DeclaredArgument,
      (declared.parameter config.registry).Agrees (other.parameter config.registry) ↔
        declared.Agrees other :=
    fun declared other => imp_congr .rfl (config.key_typeOf_eq_iff ..)
  simp only [same]

theorem mem_keys_parameters_iff {config : Config} (agree : declarations.Pairwise Agrees)
    {type : ParameterType} :
    (config.registry.typeOf type).key ∈
        (parameters config.registry declarations).map (fun parameter => parameter.type.key) ↔
      ∃ declared ∈ declarations, declared.type = type := by
  constructor
  · intro member
    rcases List.mem_map.mp member with ⟨parameter, inside, same⟩
    rcases List.mem_map.mp inside with ⟨declared, first, rfl⟩
    have sameName := (config.key_typeOf_eq_iff _ _).mp same
    exact ⟨declared, (sublist_firstOccurrences _).subset first, ParameterType.name_injective sameName⟩
  · intro h
    rcases h with ⟨declared, inside, rfl⟩
    have called : declared.name ∈ (firstOccurrences DeclaredArgument.name declarations).map
        DeclaredArgument.name := mem_map_firstOccurrences.mpr (List.mem_map_of_mem inside)
    rcases List.mem_map.mp called with ⟨first, isFirst, same⟩
    have known := (sublist_firstOccurrences _).subset isFirst
    have agrees := Parameter.agrees_of_mem ((pairwise_map_parameter_iff config declarations).mpr agree)
      (List.mem_map_of_mem known) (List.mem_map_of_mem inside)
    exact List.mem_map.mpr ⟨first.parameter config.registry, List.mem_map_of_mem isFirst, agrees same⟩

theorem FirstClash.not_pairwise (h : FirstClash declarations first clash) :
    ¬ declarations.Pairwise Agrees := by
  rcases h with ⟨before, after, rfl, agree, found, differ⟩
  intro all
  have sameName : first.name = clash.name := by simpa using List.find?_some found
  have agrees := (List.pairwise_append.mp all).2.2 first (List.mem_of_find?_eq_some found) clash
    List.mem_cons_self
  exact differ (agrees sameName)

end DeclaredArgument

namespace Signature

open DeclaredArgument (FirstClash)

theorem merge_parameters (registry : Registry) (owner : String) (known : List DeclaredArgument)
    {needed own : List Parameter} (declares : Parameter.named needed = own) :
    let start : Signature := { owner, parameters := DeclaredArgument.parameters registry known }
    (merge { owner } (DeclaredArgument.parameters registry known ++ needed)).signature =
        (start.merge own).signature ∧
      (merge { owner } (DeclaredArgument.parameters registry known ++ needed)).conflict =
        (start.merge own).conflict := by
  intro start
  have named : ∀ parameter ∈ DeclaredArgument.parameters registry known, parameter.isLiteral = false :=
    fun parameter member => DeclaredArgument.isLiteral_of_mem_map member
  have kept : Parameter.named (DeclaredArgument.parameters registry known) =
      DeclaredArgument.parameters registry known := Parameter.named_eq_self named
  have unique : ((DeclaredArgument.parameters registry known).map Parameter.name).Nodup := by
    rw [← DeclaredArgument.firstOccurrences_map_parameter]
    exact nodup_firstOccurrences _
  have cleaned : merge { owner } (DeclaredArgument.parameters registry known ++ needed) =
      merge { owner } (DeclaredArgument.parameters registry known ++ own) := by
    rw [← merge_filter_isLiteral, ← Parameter.named, Parameter.named_append, kept, declares]
  rw [cleaned]
  exact merge_append_of_fresh (by simpa using unique) named own

theorem merge_declared (config : Config) (owner : String) {known own : List DeclaredArgument}
    (agree : known.Pairwise DeclaredArgument.Agrees) {needed : List Parameter}
    (declares : Parameter.named needed = own.map (DeclaredArgument.parameter config.registry)) :
    let merged := merge { owner } (DeclaredArgument.parameters config.registry known ++ needed)
    ((known ++ own).Pairwise DeclaredArgument.Agrees ∧ merged.conflict = none ∧
        merged.signature.parameters = DeclaredArgument.parameters config.registry (known ++ own)) ∨
      ∃ first clash, FirstClash (known ++ own) first clash ∧
        merged.conflict = some (.parameterConflict owner clash.name
          (config.registry.typeOf first.type).displayName
          (config.registry.typeOf clash.type).displayName) := by
  intro merged
  rcases merge_parameters config.registry owner known declares with ⟨sameSignature, sameConflict⟩
  rw [sameSignature, sameConflict]
  have start := (DeclaredArgument.firstOccurrences_map_parameter config.registry known).symm
  have agrees := (DeclaredArgument.pairwise_map_parameter_iff config known).mpr agree
  have named : ∀ parameter ∈ own.map (DeclaredArgument.parameter config.registry),
      parameter.isLiteral = false := fun parameter member => DeclaredArgument.isLiteral_of_mem_map member
  rcases @merge_of_agree { owner, parameters := DeclaredArgument.parameters config.registry known }
    _ _ start agrees named with
    ⟨all, none, parameters⟩ | ⟨before, clash, after, first, split, agreeBefore, found, differ, conflict⟩
  · rw [← List.map_append] at all parameters
    rw [DeclaredArgument.firstOccurrences_map_parameter] at parameters
    exact .inl ⟨(DeclaredArgument.pairwise_map_parameter_iff config _).mp all, none, parameters⟩
  · -- The clash among the parameters is one among the declarations that they come from.
    rcases List.map_eq_append_iff.mp split with ⟨ownBefore, behind, rfl, rfl, splitBehind⟩
    rcases List.map_eq_cons_iff.mp splitBehind with ⟨declared, ownAfter, rfl, rfl, rfl⟩
    rw [← List.map_append] at agreeBefore found
    rw [List.find?_map] at found
    rcases Option.map_eq_some_iff.mp found with ⟨original, foundOriginal, rfl⟩
    refine .inr ⟨original, declared, ⟨known ++ ownBefore, ownAfter, by simp, ?_, foundOriginal, ?_⟩, conflict⟩
    · exact (DeclaredArgument.pairwise_map_parameter_iff config _).mp agreeBefore
    · exact fun same => differ ((config.key_typeOf_eq_iff _ _).mpr same)

end Signature

namespace AccessorPlan

variable {config : Config} {plan : AccessorPlan} {known own : List DeclaredArgument}

open DeclaredArgument (FirstClash)

theorem outcome_build_of_declared
    (inherited : plan.scope.parameters = DeclaredArgument.parameters config.registry known)
    (agree : known.Pairwise DeclaredArgument.Agrees)
    (declares : Parameter.named (plan.locatorParameters ++ plan.cardinality.parameters) =
      own.map (DeclaredArgument.parameter config.registry)) :
    ((known ++ own).Pairwise DeclaredArgument.Agrees ∧
        (plan.build config.registry).outcome = .ok (plan.accessor config.registry
          (DeclaredArgument.parameters config.registry (known ++ own)))) ∨
      ∃ first clash, FirstClash (known ++ own) first clash ∧
        (plan.build config.registry).outcome = .error (.parameterConflict
          ("method '" ++ plan.name ++ "'") clash.name
          (config.registry.typeOf first.type).displayName
          (config.registry.typeOf clash.type).displayName) := by
  have merged : plan.merge = Signature.merge { owner := "method '" ++ plan.name ++ "'" }
      (DeclaredArgument.parameters config.registry known ++
        (plan.locatorParameters ++ plan.cardinality.parameters)) := by
    rw [merge, required, inherited, List.append_assoc]
  rw [outcome_build, merged]
  rcases Signature.merge_declared config ("method '" ++ plan.name ++ "'") agree declares with
    ⟨all, none, parameters⟩ | ⟨first, clash, isFirst, conflict⟩
  · refine .inl ⟨all, ?_⟩
    rw [none, parameters]
  · refine .inr ⟨first, clash, isFirst, ?_⟩
    rw [conflict]

end AccessorPlan

end PageObject
