import DropletReconciler.Proofs.ConditionOrder

/-!
# What a merge makes of each type, and where

The new conditions of a type go on with the sequence that the first condition of that type begins.
What stands in the end is the first condition of the final block of this sequence, its longest tail
in which the times alone differ. A type that is there keeps its place, and those that are not are
added at the end, each of them once.
-/

namespace DropletReconciler.Condition

variable {existing new sequence : List Condition} {last : Condition}

/-! ### The final block -/

/-- The longest tail of a sequence in which every condition has the content of the last one. -/
structure IsFinalBlock (sequence : List Condition) (last : Condition) (block : List Condition) :
    Prop where
  suffix : block <:+ sequence
  sameContent : ∀ c ∈ block, c.sameContent last = true
  longest : ∀ tail, tail <:+ sequence → (∀ c ∈ tail, c.sameContent last = true) → tail <:+ block

theorem suffix_rtakeWhile {p : Condition → Bool} {tail : List Condition} (htail : tail <:+ sequence)
    (hall : ∀ c ∈ tail, p c = true) : tail <:+ sequence.rtakeWhile p := by
  obtain ⟨before, rfl⟩ := htail
  have hreverse : ∀ c ∈ tail.reverse, p c = true := fun c hc => hall c (List.mem_reverse.mp hc)
  have hwhole : (before ++ tail).rtakeWhile p = before.rtakeWhile p ++ tail := by
    rw [List.rtakeWhile, List.reverse_append, List.takeWhile_append_of_pos hreverse,
      List.reverse_append, List.reverse_reverse, List.rtakeWhile]
  rw [hwhole]
  exact List.suffix_append _ _

theorem isFinalBlock_rtakeWhile (sequence : List Condition) (last : Condition) :
    IsFinalBlock sequence last (sequence.rtakeWhile (·.sameContent last)) where
  suffix := List.rtakeWhile_suffix _ sequence
  sameContent _ := List.mem_rtakeWhile_imp (p := fun c : Condition => c.sameContent last)
  longest _ htail hall := suffix_rtakeWhile htail hall

/-- What stands at the end of a sequence is the first condition of its final block. -/
theorem exists_standing_of_getLast? (hlast : last ∈ sequence.getLast?) :
    ∃ first rest, IsFinalBlock sequence last (first :: rest) ∧ standing sequence = some first := by
  obtain ⟨earlier, rfl⟩ := List.getLast?_eq_some_iff.mp hlast
  have hblock := isFinalBlock_rtakeWhile (earlier ++ [last]) last
  have hstanding : standing (earlier ++ [last]) =
      ((earlier ++ [last]).rtakeWhile (·.sameContent last)).head? := by
    rw [standing, List.getLast?_concat, Option.bind_some]
  cases hfirst : (earlier ++ [last]).rtakeWhile (·.sameContent last) with
  | nil =>
    have hconcat := List.rtakeWhile_concat_pos (·.sameContent last) earlier last
      (sameContent_self last)
    rw [hfirst] at hconcat
    simp at hconcat
  | cons first rest =>
    rw [hfirst] at hblock hstanding
    exact ⟨first, rest, hblock, hstanding⟩

/-! ### One condition more, and conditions in another order -/

/-- A condition gives way to one of other content, and to nothing else. -/
theorem eq_or_not_sameContent_of_merge_concat {type : String} {before after c : Condition}
    (hbefore : ofType? type (merge existing new) = some before)
    (hafter : ofType? type (merge existing (new ++ [c])) = some after) :
    after = before ∨ before.sameContent after = false := by
  rw [merge_concat] at hafter
  by_cases htype : c.type = type
  · subst htype
    rw [ofType?_put, hbefore, successor] at hafter
    by_cases hsame : before.sameContent c = true
    · rw [if_pos hsame] at hafter
      exact .inl (Option.some.inj hafter).symm
    · rw [if_neg hsame] at hafter
      obtain rfl := Option.some.inj hafter
      exact .inr (Bool.eq_false_iff.mpr hsame)
  · rw [ofType?_put_of_ne htype, hbefore] at hafter
    exact .inl (Option.some.inj hafter).symm

/-- Among conditions of distinct types there is one of each at most, wherever it is. -/
theorem filter_type_eq_of_perm {reordered : List Condition}
    (hdistinct : (new.map (·.type)).Nodup) (hperm : reordered.Perm new) (type : String) :
    reordered.filter (·.type = type) = new.filter (·.type = type) := by
  have hpairs : (new.filter (·.type = type)).Pairwise fun a b => a.type ≠ b.type :=
    (List.pairwise_map.mp hdistinct).filter _
  have hpairs' : (reordered.filter (·.type = type)).Pairwise fun a b => a.type ≠ b.type :=
    (List.pairwise_map.mp ((hperm.map _).nodup_iff.mpr hdistinct)).filter _
  -- All that are left have the same type, so there is one at most on either side.
  refine List.Perm.eq_of_pairwise ?_ hpairs' hpairs (hperm.filter _)
  intro a b ha hb hne
  have hatype : a.type = type := by simpa using (List.mem_filter.mp ha).2
  have hbtype : b.type = type := by simpa using (List.mem_filter.mp hb).2
  exact absurd (hatype.trans hbtype.symm) hne

/-- **The condition of each type after a merge** is none when there was none of this type and none
is new. Otherwise it is the first one of the final block of the old one and the new ones, so it has
the content of the last of them. One condition more leaves it as it is, time included, or replaces
it by one of other content. Where the new conditions are of distinct types, their order does not
matter. -/
theorem merge_by_type (existing new : List Condition) (type : String) :
    let sequence := (ofType? type existing).toList ++ new.filter (·.type = type)
    (sequence = [] → ofType? type (merge existing new) = none) ∧
      (∀ last ∈ sequence.getLast?, ∃ first rest,
        ofType? type (merge existing new) = some first ∧
          IsFinalBlock sequence last (first :: rest) ∧ first.sameContent last = true) ∧
      (∀ c before after, ofType? type (merge existing new) = some before →
        ofType? type (merge existing (new ++ [c])) = some after →
          after = before ∨ before.sameContent after = false) ∧
      ∀ reordered : List Condition, (new.map (·.type)).Nodup → reordered.Perm new →
        ofType? type (merge existing reordered) = ofType? type (merge existing new) := by
  intro sequence
  have hstanding : ofType? type (merge existing new) = standing sequence :=
    ofType?_merge_filter existing new type
  refine ⟨?_, ?_, ?_, ?_⟩
  · intro hempty
    rw [hstanding, hempty]
    rfl
  · intro last hlast
    obtain ⟨first, rest, hblock, hfirst⟩ := exists_standing_of_getLast? hlast
    exact ⟨first, rest, hstanding.trans hfirst, hblock, hblock.sameContent first List.mem_cons_self⟩
  · intro c before after hbefore hafter
    exact eq_or_not_sameContent_of_merge_concat hbefore hafter
  · intro reordered hdistinct hperm
    rw [ofType?_merge_filter existing reordered, filter_type_eq_of_perm hdistinct hperm, hstanding]

/-- A condition of a type that no operation sets. -/
def synced (now : String) : Condition := ⟨"Synced", "True", "ReconcileSuccess", now, ""⟩

/-- The old condition had other content, so the time is that of the first new one. -/
theorem merge_by_type_available :
    let existing := [creating "07:00", available "06:00"]
    let new := [available "08:00", synced "08:30", available "09:00"]
    (∃ rest, ofType? "Ready" (merge existing new) = some (available "08:00") ∧
        IsFinalBlock [creating "07:00", available "08:00", available "09:00"] (available "09:00")
          (available "08:00" :: rest)) ∧
      ofType? "Ready" (merge existing [synced "08:30", available "08:00"]) =
        ofType? "Ready" (merge existing [available "08:00", synced "08:30"]) := by
  intro existing new
  obtain ⟨-, hblock, -, -⟩ := merge_by_type existing new "Ready"
  obtain ⟨first, rest, hfirst, hfinal, -⟩ := hblock (available "09:00") rfl
  obtain rfl : available "08:00" = first := Option.some.inj hfirst
  obtain ⟨-, -, -, horder⟩ := merge_by_type existing [available "08:00", synced "08:30"] "Ready"
  exact ⟨⟨rest, hfirst, hfinal⟩, horder _ (by decide) (.swap _ _ _)⟩

/-! ### Places -/

theorem filter_not_mem_concat (seen types : List String) (a : String) :
    types.filter (· ∉ seen ++ [a]) = (types.filter (· ∉ seen)).filter fun b => !b == a := by
  rw [List.filter_filter]
  apply List.filter_congr
  intro b _
  rw [Bool.eq_iff_iff]
  simp only [decide_eq_true_eq, List.mem_append, List.mem_singleton, not_or, Bool.and_eq_true,
    Bool.not_eq_true', beq_eq_false_iff_ne]
  exact and_comm

/-- The types of a merge: those that were there, and the new ones in the order in which they first
come up. -/
theorem types_merge (existing new : List Condition) :
    (merge existing new).map (·.type) =
      existing.map (·.type) ++
        ((new.map (·.type)).filter (· ∉ existing.map (·.type))).eraseDups := by
  induction new generalizing existing with
  | nil => simp [merge]
  | cons c rest ih =>
    have hstep : (merge existing (c :: rest)).map (·.type) =
        (merge (put c existing) rest).map (·.type) := rfl
    rw [hstep, ih, List.map_cons]
    by_cases hmem : c.type ∈ existing.map (·.type)
    · rw [types_put_of_mem hmem, List.filter_cons_of_neg (by simpa using hmem)]
    · -- The type is there for the conditions that follow, so it is not added a second time.
      have hput : (put c existing).map (·.type) = existing.map (·.type) ++ [c.type] := by
        rw [types_put, if_neg hmem]
      calc (put c existing).map (·.type) ++
            ((rest.map (·.type)).filter (· ∉ (put c existing).map (·.type))).eraseDups
          = existing.map (·.type) ++ (c.type ::
              ((rest.map (·.type)).filter (· ∉ existing.map (·.type) ++ [c.type])).eraseDups) := by
            rw [hput, List.append_assoc, List.singleton_append]
        _ = existing.map (·.type) ++
              (c.type :: (rest.map (·.type)).filter (· ∉ existing.map (·.type))).eraseDups := by
            rw [filter_not_mem_concat, List.eraseDups_cons]
        _ = existing.map (·.type) ++
              ((c.type :: rest.map (·.type)).filter (· ∉ existing.map (·.type))).eraseDups := by
            rw [List.filter_cons_of_pos (by simpa using hmem)]

theorem nodup_types_put (c : Condition) (h : (existing.map (·.type)).Nodup) :
    ((put c existing).map (·.type)).Nodup := by
  rw [types_put]
  split
  · exact h
  · next hmem => exact List.nodup_append.mpr ⟨h, by simp, by simpa using hmem⟩

theorem nodup_types_merge (new : List Condition) (h : (existing.map (·.type)).Nodup) :
    ((merge existing new).map (·.type)).Nodup := by
  induction new generalizing existing with
  | nil => exact h
  | cons c rest ih => exact ih (nodup_types_put c h)

/-- **A merge moves nothing.** The types that were there keep their places, and the new ones follow,
each once, in the order in which they first come up. A condition that is not the first of its type,
or whose type does not come up again, stands where it stood. So types that are distinct stay
distinct. -/
theorem merge_keeps_places (existing new : List Condition) :
    (merge existing new).map (·.type) =
        existing.map (·.type) ++
          ((new.map (·.type)).filter (· ∉ existing.map (·.type))).eraseDups ∧
      (∀ i a, existing[i]? = some a →
        a.type ∈ (existing.take i).map (·.type) ∨ a.type ∉ new.map (·.type) →
          (merge existing new)[i]? = some a) ∧
      ((existing.map (·.type)).Nodup → ((merge existing new).map (·.type)).Nodup) := by
  refine ⟨types_merge existing new, ?_, nodup_types_merge new⟩
  intro i a hget hsettled
  exact getElem?_merge_of_settled hget hsettled.symm

theorem merge_keeps_places_repeated :
    let existing := [creating "07:00", available "06:00"]
    let new := [synced "08:00", available "08:00", synced "09:00"]
    (merge existing new).map (·.type) = ["Ready", "Ready", "Synced"] ∧
      (merge existing new)[1]? = some (available "06:00") ∧
      ((merge [creating "07:00"] new).map (·.type)).Nodup := by
  intro existing new
  obtain ⟨htypes, hplaces, -⟩ := merge_keeps_places existing new
  obtain ⟨-, -, hdistinct⟩ := merge_keeps_places [creating "07:00"] new
  exact ⟨htypes, hplaces 1 _ rfl (.inl (by decide)), hdistinct (by decide)⟩

end DropletReconciler.Condition
