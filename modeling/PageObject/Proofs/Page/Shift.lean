import PageObject.Proofs.Page.Erasure

namespace PageObject

namespace NodePath

def without : NodePath → NodePath → NodePath
  | place :: rest, [gone] =>
    if place.inShadow = gone.inShadow ∧ gone.index < place.index then
      ⟨place.inShadow, place.index - 1⟩ :: rest
    else place :: rest
  | place :: rest, step :: target =>
    if place = step then place :: without rest target else place :: rest
  | path, _ => path

theorem append_without_append (stem path : NodePath) {target : NodePath} (nonempty : target ≠ []) :
    without (stem ++ path) (stem ++ target) = stem ++ path.without target := by
  induction stem with
  | nil => rfl
  | cons place stem ih =>
    obtain ⟨next, more, same⟩ := List.exists_cons_of_ne_nil
      (show stem ++ target ≠ [] from fun empty => nonempty (List.append_eq_nil_iff.mp empty).2)
    rw [List.cons_append, List.cons_append, same, without, if_pos rfl, ← same, ih, List.cons_append]
    simp

theorem append_without {path target : NodePath} (apart : ¬ path <+: target) (rest : NodePath) :
    without (path ++ rest) target = path.without target ++ rest := by
  induction path generalizing target with
  | nil => exact absurd List.nil_prefix apart
  | cons place path ih =>
    match target with
    | [] => rfl
    | [gone] =>
      simp only [List.cons_append, without]
      split <;> rfl
    | step :: next :: target =>
      simp only [List.cons_append, without]
      split
      · rename_i same
        subst same
        rw [ih fun isPrefix => apart (List.cons_prefix_cons.mpr ⟨rfl, isPrefix⟩), List.cons_append]
      · rfl

theorem without_self_append (path : NodePath) {rest : NodePath} (nonempty : rest ≠ []) :
    path.without (path ++ rest) = path := by
  have h := append_without_append path [] nonempty
  rw [List.append_nil] at h
  rw [h]
  cases rest <;> simp [without]

end NodePath

namespace Visit

def without (visit : Visit) (target : NodePath) : Visit :=
  { visit with
    node :=
      if visit.path <+: target then visit.node.eraseNode (target.drop visit.path.length)
      else visit.node
    path := visit.path.without target }

def eraseFrom (target : NodePath) (visits : List Visit) : List Visit :=
  (visits.filter fun visit => visit.path ≠ target).map fun visit => visit.without target

theorem eraseFrom_append (target : NodePath) (visits others : List Visit) :
    eraseFrom target (visits ++ others) = eraseFrom target visits ++ eraseFrom target others := by
  simp [eraseFrom]

theorem eraseFrom_cons_of_eq {target : NodePath} {visit : Visit} (same : visit.path = target)
    (rest : List Visit) : eraseFrom target (visit :: rest) = eraseFrom target rest := by
  simp [eraseFrom, same]

theorem eraseFrom_cons_of_ne {target : NodePath} {visit : Visit} (other : visit.path ≠ target)
    (rest : List Visit) :
    eraseFrom target (visit :: rest) = visit.without target :: eraseFrom target rest := by
  simp [eraseFrom, other]

theorem eraseFrom_eq_self {target : NodePath} {visits : List Visit}
    (h : ∀ visit ∈ visits, visit.path ≠ target ∧ visit.without target = visit) :
    eraseFrom target visits = visits := by
  induction visits with
  | nil => rfl
  | cons visit visits ih =>
    rcases h visit List.mem_cons_self with ⟨other, same⟩
    rw [eraseFrom_cons_of_ne other, same, ih fun visit member => h visit (List.mem_cons_of_mem _ member)]

section Lists

variable (scope : Scope) (path : NodePath) (inShadow : Bool)

def ofListFrom (start : Nat) (nodes : List Json) : List Visit :=
  (nodes.zipIdx start).map fun (node, index) => ⟨node, scope, path ++ [⟨inShadow, index⟩]⟩

theorem ofListFrom_cons (start : Nat) (node : Json) (nodes : List Json) :
    ofListFrom scope path inShadow start (node :: nodes) =
      ⟨node, scope, path ++ [⟨inShadow, start⟩]⟩ :: ofListFrom scope path inShadow (start + 1) nodes := rfl

variable {scope path inShadow}

theorem without_place (node : Json) (place gone : NodePlace) (rest : NodePath) :
    without ⟨node, scope, path ++ [place]⟩ (path ++ gone :: rest) =
      ⟨if place = gone then node.eraseNode rest else node, scope,
        path ++ NodePath.without [place] (gone :: rest)⟩ := by
  have isPrefix : path ++ [place] <+: path ++ gone :: rest ↔ place = gone := by
    rw [List.prefix_append_right_inj, List.cons_prefix_cons]
    simp
  have below : (path ++ gone :: rest).drop (path ++ [place]).length = rest := by simp
  unfold without
  simp only [isPrefix, below, NodePath.append_without_append path [place] (List.cons_ne_nil gone rest)]

theorem place_ne_target {place gone : NodePlace} {rest : NodePath} (h : place ≠ gone ∨ rest ≠ []) :
    path ++ [place] ≠ path ++ gone :: rest := by
  intro same
  rcases List.cons.inj (List.append_cancel_left same) with ⟨first, others⟩
  rcases h with h | h
  · exact h first
  · exact h others.symm

theorem place_ne_of_index {index other : Nat} (h : index ≠ other) :
    (⟨inShadow, index⟩ : NodePlace) ≠ ⟨inShadow, other⟩ :=
  fun same => h (congrArg NodePlace.index same)

theorem eraseFrom_ofListFrom_other {gone : NodePlace} (other : gone.inShadow ≠ inShadow)
    (start : Nat) (nodes : List Json) (rest : NodePath) :
    eraseFrom (path ++ gone :: rest) (ofListFrom scope path inShadow start nodes) =
      ofListFrom scope path inShadow start nodes := by
  apply eraseFrom_eq_self
  intro visit member
  rcases List.mem_map.mp member with ⟨⟨node, index⟩, inside, rfl⟩
  have different : (⟨inShadow, index⟩ : NodePlace) ≠ gone := by
    rintro rfl
    exact other rfl
  refine ⟨place_ne_target (.inl different), ?_⟩
  rw [without_place, if_neg different]
  have aside : ¬ (inShadow = gone.inShadow ∧ gone.index < index) := fun h => other h.1.symm
  cases rest <;> simp [NodePath.without, aside, different]

theorem eraseFrom_ofListFrom_behind {index start : Nat} (behind : index ≤ start) (nodes : List Json) :
    eraseFrom (path ++ [⟨inShadow, index⟩]) (ofListFrom scope path inShadow (start + 1) nodes) =
      ofListFrom scope path inShadow start nodes := by
  induction nodes generalizing start with
  | nil => rfl
  | cons node nodes ih =>
    have different := @place_ne_of_index inShadow (start + 1) index (by omega)
    rw [ofListFrom_cons, ofListFrom_cons, eraseFrom_cons_of_ne (place_ne_target (.inl different)),
      ih (Nat.le_succ_of_le behind), without_place, if_neg different]
    simp [NodePath.without, Nat.lt_succ_of_le behind]

theorem eraseFrom_ofListFrom_eraseIdx (start index : Nat) (nodes : List Json) :
    eraseFrom (path ++ [⟨inShadow, start + index⟩]) (ofListFrom scope path inShadow start nodes) =
      ofListFrom scope path inShadow start (nodes.eraseIdx index) := by
  induction nodes generalizing start index with
  | nil => rfl
  | cons node nodes ih =>
    cases index with
    | zero =>
      rw [ofListFrom_cons, eraseFrom_cons_of_eq (by rfl), List.eraseIdx_cons_zero]
      exact eraseFrom_ofListFrom_behind (Nat.le_refl start) nodes
    | succ index =>
      have different := @place_ne_of_index inShadow start (start + (index + 1)) (by omega)
      have later := ih (start + 1) index
      rw [show start + 1 + index = start + (index + 1) by omega] at later
      rw [List.eraseIdx_cons_succ, ofListFrom_cons, ofListFrom_cons,
        eraseFrom_cons_of_ne (place_ne_target (.inl different)), later, without_place,
        if_neg different]
      have before : ¬ start + (index + 1) < start := by omega
      simp [NodePath.without, before]

theorem eraseFrom_ofListFrom_modify (start index : Nat) (nodes : List Json) (next : NodePlace)
    (rest : NodePath) :
    eraseFrom (path ++ ⟨inShadow, start + index⟩ :: next :: rest)
        (ofListFrom scope path inShadow start nodes) =
      ofListFrom scope path inShadow start (nodes.modify index (Json.eraseNode (next :: rest))) := by
  have nonempty : next :: rest ≠ [] := List.cons_ne_nil next rest
  induction nodes generalizing start index with
  | nil => cases index <;> rfl
  | cons node nodes ih =>
    rw [ofListFrom_cons, eraseFrom_cons_of_ne (place_ne_target (.inr nonempty)), without_place]
    cases index with
    | zero =>
      have later : eraseFrom (path ++ ⟨inShadow, start⟩ :: next :: rest)
          (ofListFrom scope path inShadow (start + 1) nodes) =
            ofListFrom scope path inShadow (start + 1) nodes := by
        apply eraseFrom_eq_self
        intro visit member
        rcases List.mem_map.mp member with ⟨⟨node, index⟩, inside, rfl⟩
        have least : start + 1 ≤ index := List.le_snd_of_mem_zipIdx inside
        have different := @place_ne_of_index inShadow index start (by omega)
        refine ⟨place_ne_target (.inl different), ?_⟩
        rw [without_place, if_neg different]
        simp [NodePath.without, different]
      rw [Nat.add_zero, if_pos rfl, later, List.modify_zero_cons, ofListFrom_cons]
      simp [NodePath.without]
    | succ index =>
      have different := @place_ne_of_index inShadow start (start + (index + 1)) (by omega)
      have later := ih (start + 1) index
      rw [show start + 1 + index = start + (index + 1) by omega] at later
      rw [if_neg different, later, List.modify_succ_cons, ofListFrom_cons]
      simp [NodePath.without, different]

theorem eraseFrom_ofList (nodes : List Json) (index : Nat) (rest : NodePath) :
    eraseFrom (path ++ ⟨inShadow, index⟩ :: rest) (ofList nodes scope path inShadow) =
      ofList (Json.eraseIn index rest nodes) scope path inShadow := by
  have fromZero : ∀ nodes, ofList nodes scope path inShadow = ofListFrom scope path inShadow 0 nodes :=
    fun nodes => rfl
  rw [fromZero, fromZero]
  cases rest with
  | nil =>
    have h := @eraseFrom_ofListFrom_eraseIdx scope path inShadow 0 index nodes
    rwa [Nat.zero_add] at h
  | cons next rest =>
    have h := @eraseFrom_ofListFrom_modify scope path inShadow 0 index nodes next rest
    rwa [Nat.zero_add] at h

theorem map_without_ofList {target : NodePath} (apart : ¬ path <+: target) (nodes : List Json) :
    (ofList nodes scope path inShadow).map (fun visit => visit.without target) =
      ofList nodes scope (path.without target) inShadow := by
  unfold ofList
  rw [List.map_map]
  apply List.map_congr_left
  rintro ⟨node, index⟩ member
  have below : ¬ path ++ [⟨inShadow, index⟩] <+: target :=
    fun isPrefix => apart ((List.prefix_append ..).trans isPrefix)
  simp only [Function.comp, without, if_neg below, NodePath.append_without apart]

end Lists

theorem eraseFrom_ofNested_apart (nested : Nested) (scope shadowScope : Scope) {path target : NodePath}
    (apart : ¬ path <+: target) :
    eraseFrom target (ofNested nested scope shadowScope path) =
      ofNested nested scope shadowScope (path.without target) := by
  have kept : (ofNested nested scope shadowScope path).filter (fun visit => visit.path ≠ target) =
      ofNested nested scope shadowScope path := by
    apply List.filter_eq_self.mpr
    intro visit member
    rcases mem_ofNested.mp member with ⟨place, node, held, rfl⟩
    apply decide_eq_true
    rintro rfl
    exact apart (List.prefix_append ..)
  unfold eraseFrom
  rw [kept]
  unfold ofNested
  rw [List.map_append, map_without_ofList apart, map_without_ofList apart]

theorem eraseFrom_ofNested (nested : Nested) (scope shadowScope : Scope) (path : NodePath)
    (place : NodePlace) (rest : NodePath) :
    eraseFrom (path ++ place :: rest) (ofNested nested scope shadowScope path) =
      ofNested (nested.map place.inShadow (Json.eraseIn place.index rest)) scope shadowScope path := by
  rcases place with ⟨inShadow, index⟩
  unfold ofNested
  rw [eraseFrom_append]
  cases inShadow with
  | false =>
    rw [eraseFrom_ofList]
    exact congrArg _ (eraseFrom_ofListFrom_other Bool.false_ne_true 0 nested.shadowElements rest)
  | true =>
    rw [eraseFrom_ofList]
    exact congrArg (· ++ _)
      (eraseFrom_ofListFrom_other Bool.false_ne_true.symm 0 nested.elements rest)

end Visit

end PageObject
