import DropletReconciler.Proofs.Conditions

/-!
# Where conditions stand

Putting a condition leaves every type where it is; a new type goes to the end. Only the first
condition of a type can change, so a list of conditions is known from its types, from the first
condition of each of them, and from the others. This is how `merge_merge` compares two lists: putting
the same conditions once more changes nothing.
-/

namespace DropletReconciler.Condition

variable {existing new : List Condition} {c : Condition} {type : String}

/-! ### Types -/

theorem types_put (c : Condition) (conditions : List Condition) :
    (put c conditions).map (·.type) =
      if c.type ∈ conditions.map (·.type) then conditions.map (·.type)
      else conditions.map (·.type) ++ [c.type] := by
  induction conditions with
  | nil => rfl
  | cons current rest ih =>
    by_cases htype : current.type = c.type
    · rw [if_pos (by simp [htype]), put, if_neg (not_not_intro htype)]
      by_cases hsame : current.sameContent c = true
      · rw [if_pos hsame]
      · rw [if_neg hsame, List.map_cons, List.map_cons, htype]
    · have hmem : c.type ∈ (current :: rest).map (·.type) ↔ c.type ∈ rest.map (·.type) := by
        simp [Ne.symm htype]
      rw [put, if_pos htype, List.map_cons, ih]
      simp only [hmem]
      split
      · rfl
      · rfl

theorem types_put_of_mem (h : c.type ∈ existing.map (·.type)) :
    (put c existing).map (·.type) = existing.map (·.type) := by
  rw [types_put, if_pos h]

theorem mem_types_put_iff :
    type ∈ (put c existing).map (·.type) ↔ type ∈ existing.map (·.type) ∨ type = c.type := by
  rw [types_put]
  split
  · next h =>
    constructor
    · exact .inl
    · rintro (hmem | rfl)
      · exact hmem
      · exact h
  · rw [List.mem_append, List.mem_singleton]

theorem mem_types_merge_iff :
    type ∈ (merge existing new).map (·.type) ↔
      type ∈ existing.map (·.type) ∨ type ∈ new.map (·.type) := by
  induction new generalizing existing with
  | nil => simp [merge]
  | cons c rest ih =>
    have hstep := @ih (put c existing)
    rw [mem_types_put_iff] at hstep
    rw [List.map_cons, List.mem_cons, ← or_assoc]
    exact hstep

theorem types_merge_of_subset (h : ∀ c ∈ new, c.type ∈ existing.map (·.type)) :
    (merge existing new).map (·.type) = existing.map (·.type) := by
  induction new generalizing existing with
  | nil => rfl
  | cons c rest ih =>
    have hput := types_put_of_mem (h c List.mem_cons_self)
    have hrest : ∀ d ∈ rest, d.type ∈ (put c existing).map (·.type) := by
      intro d hd
      rw [hput]
      exact h d (List.mem_cons_of_mem _ hd)
    exact (ih hrest).trans hput

/-! ### The same sequence again -/

theorem rtakeWhile_append_of_not_all {p : Condition → Bool} {sequence : List Condition}
    (h : ¬ ∀ c ∈ sequence, p c = true) (before : List Condition) :
    (before ++ sequence).rtakeWhile p = sequence.rtakeWhile p := by
  have hlength : ¬ (sequence.reverse.takeWhile p).length = sequence.reverse.length := by
    intro hall
    apply h
    intro c hc
    have hwhole := (List.takeWhile_prefix p).eq_of_length hall
    exact List.takeWhile_eq_self_iff.mp hwhole c (List.mem_reverse.mpr hc)
  rw [List.rtakeWhile, List.rtakeWhile, List.reverse_append, List.takeWhile_append, if_neg hlength]

/-- A sequence that follows what stands at its own end comes to the same end. -/
theorem standing_replay (first : Option Condition) (sequence : List Condition) :
    standing ((standing (first.toList ++ sequence)).toList ++ sequence) =
      standing (first.toList ++ sequence) := by
  rcases List.eq_nil_or_concat' sequence with rfl | ⟨earlier, last, rfl⟩
  · rw [List.append_nil, List.append_nil, standing_toList, standing_toList]
  · obtain ⟨a, ha⟩ : ∃ a, standing (first.toList ++ (earlier ++ [last])) = some a := by
      rw [← List.append_assoc, standing_concat]
      exact ⟨_, rfl⟩
    rw [ha, Option.toList_some, ← List.append_assoc, standing_concat_eq_head?]
    rw [← List.append_assoc, standing_concat_eq_head?] at ha
    -- Either the last block reaches back to the start, and `a` goes on with it, or what stands
    -- before the sequence does not matter.
    by_cases hall : ∀ c ∈ earlier, c.sameContent last = true
    · have hblock : ([a] ++ earlier).rtakeWhile (·.sameContent last) = a :: earlier := by
        have hsame : a.sameContent last = true := by
          rw [← standing_concat_eq_head?] at ha
          exact sameContent_of_standing_concat ha
        apply List.rtakeWhile_eq_self_iff.mpr
        intro c hc
        rcases List.mem_cons.mp hc with rfl | hc
        · exact hsame
        · exact hall c hc
      rw [hblock, List.cons_append, List.head?_cons]
    · rw [rtakeWhile_append_of_not_all hall] at ha ⊢
      exact ha

/-! ### The other conditions -/

theorem types_take_put {i : Nat} (hi : i ≤ existing.length) (c : Condition) :
    ((put c existing).take i).map (·.type) = (existing.take i).map (·.type) := by
  rw [List.map_take, List.map_take, types_put]
  split
  · rfl
  · exact List.take_append_of_le_length (by rwa [List.length_map])

/-- A condition of another type stays, and so does one that is not the first of its type. -/
theorem getElem?_put_of_settled {i : Nat} {a : Condition} (hget : existing[i]? = some a)
    (hsettled : a.type ≠ c.type ∨ a.type ∈ (existing.take i).map (·.type)) :
    (put c existing)[i]? = some a := by
  induction existing generalizing i with
  | nil => cases hget
  | cons current rest ih =>
    cases i with
    | zero =>
      obtain rfl : current = a := Option.some.inj hget
      have hother : current.type ≠ c.type := by simpa using hsettled
      rw [put, if_pos hother, List.getElem?_cons_zero]
    | succ i =>
      rw [List.getElem?_cons_succ] at hget
      by_cases htype : current.type = c.type
      · rw [put, if_neg (not_not_intro htype)]
        split
        · rw [List.getElem?_cons_succ, hget]
        · rw [List.getElem?_cons_succ, hget]
      · rw [put, if_pos htype, List.getElem?_cons_succ]
        apply ih hget
        rw [List.take_succ_cons, List.map_cons, List.mem_cons] at hsettled
        rcases hsettled with hother | hcurrent | hlater
        · exact .inl hother
        · exact .inl (hcurrent ▸ htype)
        · exact .inr hlater

theorem getElem?_merge_of_settled {i : Nat} {a : Condition} (hget : existing[i]? = some a)
    (hsettled : a.type ∉ new.map (·.type) ∨ a.type ∈ (existing.take i).map (·.type)) :
    (merge existing new)[i]? = some a := by
  induction new generalizing existing with
  | nil => exact hget
  | cons c rest ih =>
    have hi : i ≤ existing.length := by
      have hlt := (List.getElem?_eq_some_iff.mp hget).1
      omega
    rw [List.map_cons, List.mem_cons, not_or] at hsettled
    refine ih (getElem?_put_of_settled hget ?_) ?_
    · exact hsettled.imp_left fun h => h.1
    · rw [types_take_put hi]
      exact hsettled.imp_left fun h => h.2

theorem ofType?_getElem {i : Nat} (hi : i < existing.length)
    (hfirst : existing[i].type ∉ (existing.take i).map (·.type)) :
    ofType? existing[i].type existing = some existing[i] := by
  apply List.find?_eq_some_iff_getElem.mpr
  refine ⟨by simp, i, hi, rfl, ?_⟩
  intro j hj
  have hne : existing[j].type ≠ existing[i].type := by
    intro heq
    apply hfirst
    rw [← heq]
    exact List.mem_map_of_mem (List.mem_take_iff_getElem.mpr ⟨j, by omega, rfl⟩)
  simpa using hne

/-- Two lists with the same types are the same when they agree on the first condition of each type
and on every other one. -/
theorem eq_of_types_eq {others : List Condition}
    (htypes : existing.map (·.type) = others.map (·.type))
    (hfirst : ∀ type, ofType? type existing = ofType? type others)
    (hlater : ∀ (i : Nat) (a : Condition), existing[i]? = some a →
      a.type ∈ (existing.take i).map (·.type) → others[i]? = some a) :
    existing = others := by
  have hlength : existing.length = others.length := by
    simpa using congrArg List.length htypes
  apply List.ext_getElem hlength
  intro i hi hi'
  have htype : existing[i].type = others[i].type := by
    simpa [hi, hi'] using congrArg (·[i]?) htypes
  by_cases hmem : existing[i].type ∈ (existing.take i).map (·.type)
  · have hsame := hlater i existing[i] (List.getElem?_eq_getElem hi) hmem
    rw [List.getElem?_eq_getElem hi'] at hsame
    exact (Option.some.inj hsame).symm
  · have hmem' : others[i].type ∉ (others.take i).map (·.type) := by
      rwa [List.map_take, ← htypes, ← htype, ← List.map_take]
    have hsame := hfirst existing[i].type
    rw [ofType?_getElem hi hmem, htype, ofType?_getElem hi' hmem'] at hsame
    exact Option.some.inj hsame

/-! ### The same conditions again -/

/-- **Putting the same conditions again** changes nothing, however often their types come back. -/
theorem merge_merge (existing new : List Condition) :
    merge (merge existing new) new = merge existing new := by
  have hpresent : ∀ c ∈ new, c.type ∈ (merge existing new).map (·.type) := fun c hc =>
    mem_types_merge_iff.mpr (.inr (List.mem_map_of_mem hc))
  symm
  apply eq_of_types_eq
  · exact (types_merge_of_subset hpresent).symm
  · intro type
    rw [ofType?_merge_filter (merge existing new), ofType?_merge_filter existing, standing_replay]
  · intro i a hget hlater
    exact getElem?_merge_of_settled hget (.inr hlater)

end DropletReconciler.Condition
