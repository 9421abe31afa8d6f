import DropletReconciler.Condition
import Mathlib.Data.List.DropRight

/-!
# Conditions that are put one after another

A condition takes the place of the first one of its type, unless that one has the same content. So
the first condition of a type has the content that was put last, and the time at which that content
was put without another one coming in between. `ofType?_merge_filter` says so for each type,
and `filter_merge` that conditions of other types stay as they are.
-/

namespace DropletReconciler.Condition

variable {a b c : Condition}

/-! ### Equal content -/

theorem sameContent_iff :
    a.sameContent b = true ↔
      a.type = b.type ∧ a.status = b.status ∧ a.reason = b.reason ∧ a.message = b.message := by
  simp only [sameContent, Bool.and_eq_true, beq_iff_eq, and_assoc]

@[simp]
theorem sameContent_self (a : Condition) : a.sameContent a = true :=
  sameContent_iff.mpr ⟨rfl, rfl, rfl, rfl⟩

theorem sameContent_symm (h : a.sameContent b = true) : b.sameContent a = true := by
  obtain ⟨htype, hstatus, hreason, hmessage⟩ := sameContent_iff.mp h
  exact sameContent_iff.mpr ⟨htype.symm, hstatus.symm, hreason.symm, hmessage.symm⟩

theorem sameContent_trans (hab : a.sameContent b = true) (hbc : b.sameContent c = true) :
    a.sameContent c = true := by
  obtain ⟨htype, hstatus, hreason, hmessage⟩ := sameContent_iff.mp hab
  obtain ⟨htype', hstatus', hreason', hmessage'⟩ := sameContent_iff.mp hbc
  exact sameContent_iff.mpr ⟨htype.trans htype', hstatus.trans hstatus', hreason.trans hreason',
    hmessage.trans hmessage'⟩

theorem sameContent_congr (h : a.sameContent b = true) (c : Condition) :
    c.sameContent a = c.sameContent b := by
  rw [Bool.eq_iff_iff]
  exact ⟨fun hca => sameContent_trans hca h, fun hcb => sameContent_trans hcb (sameContent_symm h)⟩

/-! ### One condition -/

/-- What stands after a condition was put where another one stood, if one did. -/
def successor (current : Option Condition) (new : Condition) : Condition :=
  match current with
  | some current => if current.sameContent new then current else new
  | none => new

theorem ofType?_cons_of_ne {type : String} (htype : a.type ≠ type) (conditions : List Condition) :
    ofType? type (a :: conditions) = ofType? type conditions :=
  List.find?_cons_of_neg (by simpa using htype)

theorem ofType?_cons_self (a : Condition) (conditions : List Condition) :
    ofType? a.type (a :: conditions) = some a :=
  List.find?_cons_of_pos (by simp)

theorem ofType?_put (new : Condition) (conditions : List Condition) :
    ofType? new.type (put new conditions) = some (successor (ofType? new.type conditions) new) := by
  induction conditions with
  | nil => exact ofType?_cons_self new []
  | cons current rest ih =>
    by_cases htype : current.type = new.type
    · rw [put, if_neg (not_not_intro htype), ← htype, ofType?_cons_self, successor]
      by_cases hsame : current.sameContent new = true
      · rw [if_pos hsame, if_pos hsame, ofType?_cons_self]
      · rw [if_neg hsame, if_neg hsame, htype, ofType?_cons_self]
    · rw [put, if_pos htype, ofType?_cons_of_ne htype, ih, ofType?_cons_of_ne htype]

theorem ofType?_put_of_ne {type : String} (htype : c.type ≠ type) (conditions : List Condition) :
    ofType? type (put c conditions) = ofType? type conditions := by
  induction conditions with
  | nil => exact ofType?_cons_of_ne htype []
  | cons current rest ih =>
    by_cases hother : current.type = c.type
    · rw [put, if_neg (not_not_intro hother)]
      by_cases hsame : current.sameContent c = true
      · rw [if_pos hsame]
      · rw [if_neg hsame, ofType?_cons_of_ne htype, ofType?_cons_of_ne (hother ▸ htype)]
    · rw [put, if_pos hother]
      by_cases hfirst : current.type = type
      · rw [← hfirst, ofType?_cons_self, ofType?_cons_self]
      · rw [ofType?_cons_of_ne hfirst, ofType?_cons_of_ne hfirst, ih]

/-- Conditions of other types keep their content, their time and their order. -/
theorem filter_put (new : Condition) (conditions : List Condition) :
    (put new conditions).filter (·.type ≠ new.type) =
      conditions.filter (·.type ≠ new.type) := by
  induction conditions with
  | nil => simp [put]
  | cons current rest ih =>
    by_cases htype : current.type = new.type
    · rw [put, if_neg (not_not_intro htype)]
      by_cases hsame : current.sameContent new = true
      · rw [if_pos hsame]
      · rw [if_neg hsame, List.filter_cons_of_neg (by simp), List.filter_cons_of_neg (by simpa)]
    · rw [put, if_pos htype, List.filter_cons_of_pos (by simpa), List.filter_cons_of_pos (by simpa),
        ih]

/-- Content that is there already changes nothing, whatever the time. -/
theorem put_put (h : a.sameContent b = true) (conditions : List Condition) :
    put b (put a conditions) = put a conditions := by
  have htype : a.type = b.type := (sameContent_iff.mp h).1
  have hkeep : ∀ current rest, current.sameContent b = true →
      put b (current :: rest) = current :: rest := by
    intro current rest hsame
    rw [put, if_neg (not_not_intro (sameContent_iff.mp hsame).1), if_pos hsame]
  induction conditions with
  | nil => exact hkeep a [] h
  | cons current rest ih =>
    by_cases hother : current.type = a.type
    · rw [put, if_neg (not_not_intro hother)]
      by_cases hsame : current.sameContent a = true
      · rw [if_pos hsame, hkeep current rest (sameContent_trans hsame h)]
      · rw [if_neg hsame, hkeep a rest h]
    · rw [put, if_pos hother, put, if_pos (htype ▸ hother), ih]

/-! ### Many conditions -/

/-- The condition that stands at the end of a sequence: the first one of the last unbroken block of
conditions with the same content. -/
def standing (sequence : List Condition) : Option Condition :=
  sequence.getLast?.bind fun last => (sequence.rtakeWhile (·.sameContent last)).head?

theorem standing_singleton (a : Condition) : standing [a] = some a := by
  simp [standing, List.rtakeWhile]

theorem standing_toList (current : Option Condition) : standing current.toList = current := by
  cases current with
  | none => rfl
  | some a => exact standing_singleton a

theorem standing_concat_eq_head? (sequence : List Condition) (last : Condition) :
    standing (sequence ++ [last]) =
      (sequence.rtakeWhile (·.sameContent last) ++ [last]).head? := by
  rw [standing, List.getLast?_concat, Option.bind_some,
    List.rtakeWhile_concat_pos (·.sameContent last) sequence last (sameContent_self last)]

theorem sameContent_of_standing_concat {sequence : List Condition} {last first : Condition}
    (h : standing (sequence ++ [last]) = some first) : first.sameContent last = true := by
  rw [standing_concat_eq_head?] at h
  rcases List.mem_append.mp (List.mem_of_head? h) with hmem | hmem
  · have hblock : ∀ condition ∈ sequence.rtakeWhile (·.sameContent last),
        condition.sameContent last = true := fun _ => List.mem_rtakeWhile_imp
    exact hblock first hmem
  · rw [List.mem_singleton.mp hmem]
    exact sameContent_self last

/-- A condition at the end begins a block of its own, or goes on with the one before. -/
theorem standing_concat (sequence : List Condition) (new : Condition) :
    standing (sequence ++ [new]) = some (successor (standing sequence) new) := by
  rcases List.eq_nil_or_concat' sequence with rfl | ⟨earlier, last, rfl⟩
  · exact standing_singleton new
  · obtain ⟨first, hfirst⟩ : ∃ first, standing (earlier ++ [last]) = some first := by
      rw [standing_concat_eq_head?]
      exact Option.isSome_iff_exists.mp (by simp)
    have hcontent := sameContent_of_standing_concat hfirst
    rw [hfirst, successor, standing_concat_eq_head?]
    -- The block at the end goes on when the new condition has its content.
    by_cases hsame : last.sameContent new = true
    · have hblock : (earlier ++ [last]).rtakeWhile (·.sameContent new) =
          earlier.rtakeWhile (·.sameContent last) ++ [last] := by
        rw [List.rtakeWhile_concat_pos (·.sameContent new) earlier last hsame]
        simp only [sameContent_congr hsame]
      rw [standing_concat_eq_head?] at hfirst
      rw [if_pos (sameContent_trans hcontent hsame), hblock, List.head?_append, hfirst,
        Option.some_or]
    · have hother : ¬ first.sameContent new = true := fun h =>
        hsame (sameContent_trans (sameContent_symm hcontent) h)
      rw [if_neg hother, List.rtakeWhile_concat_neg (·.sameContent new) earlier last hsame]
      rfl

theorem merge_concat (existing new : List Condition) (last : Condition) :
    merge existing (new ++ [last]) = put last (merge existing new) := by
  rw [merge, List.foldl_append, List.foldl_cons, List.foldl_nil, merge]

/-- **The first condition of a type** is the one that stands at the end of all of that type that were
put, the one that was there before counting as the first of them. -/
theorem ofType?_merge_filter (existing new : List Condition) (type : String) :
    ofType? type (merge existing new) =
      standing ((ofType? type existing).toList ++ new.filter (·.type = type)) := by
  induction new using List.reverseRecOn with
  | nil =>
    rw [List.filter_nil, List.append_nil, standing_toList]
    rfl
  | append_singleton earlier last ih =>
    rw [merge_concat, List.filter_append]
    by_cases hlast : last.type = type
    · rw [List.filter_cons_of_pos (by simpa), List.filter_nil, ← List.append_assoc,
        standing_concat, ← ih, ← hlast, ofType?_put]
    · rw [List.filter_cons_of_neg (by simpa), List.filter_nil, List.append_nil,
        ofType?_put_of_ne hlast, ih]

theorem ofType?_merge {type : String} (existing new : List Condition)
    (htype : ∀ condition ∈ new, condition.type = type) :
    ofType? type (merge existing new) =
      standing ((ofType? type existing).toList ++ new) := by
  have hall : new.filter (·.type = type) = new :=
    List.filter_eq_self.mpr fun condition hmem => by simpa using htype condition hmem
  rw [ofType?_merge_filter, hall]

theorem filter_merge {type : String} (existing new : List Condition)
    (htype : ∀ condition ∈ new, condition.type = type) :
    (merge existing new).filter (·.type ≠ type) = existing.filter (·.type ≠ type) := by
  induction new using List.reverseRecOn with
  | nil => rfl
  | append_singleton earlier last ih =>
    have hlast : last.type = type := htype last (by simp)
    have hearlier : ∀ condition ∈ earlier, condition.type = type := fun condition hmem =>
      htype condition (List.mem_append_left _ hmem)
    rw [merge_concat, ← hlast, filter_put, hlast, ih hearlier]

end DropletReconciler.Condition
