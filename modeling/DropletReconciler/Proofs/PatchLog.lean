import DropletReconciler.Proofs.ConditionOrder
import DropletReconciler.Proofs.Runs

/-!
# Logs of patches

Of a part of the record that patches replace, the last one that is given counts. Conditions are
merged, and merging all of them at once is the same as merging patch by patch. So the record behind a
log of patches is known in closed form (`applyAll_eq`), and applying the same log once more leaves it
as it is.
-/

namespace DropletReconciler.Patch

variable {α : Type} {patches : List Patch} {patch : Patch} {record : Record}

/-- The part of a record that the last patch with that part gives. -/
def lastGiven (part : Patch → Option α) (patches : List Patch) : Option α :=
  (patches.filterMap part).getLast?

theorem lastGiven_cons_getD (part : Patch → Option α) (patch : Patch) (rest : List Patch)
    (former : α) :
    (lastGiven part (patch :: rest)).getD former =
      (lastGiven part rest).getD ((part patch).getD former) := by
  unfold lastGiven
  cases hpart : part patch with
  | none => rw [List.filterMap_cons_none hpart, Option.getD_none]
  | some a =>
    rw [List.filterMap_cons_some hpart, List.getLast?_cons, Option.getD_some, Option.getD_some]

/-- **The record behind a log of patches.** -/
theorem applyAll_eq (patches : List Patch) (record : Record) :
    applyAll patches record =
      { record with
        externalName := (lastGiven (·.externalName) patches).getD record.externalName
        parameters := (lastGiven (·.parameters) patches).getD record.parameters
        observation := (lastGiven (·.observation) patches).getD record.observation
        conditions := Condition.merge record.conditions (patches.flatMap (·.conditions)) } := by
  induction patches generalizing record with
  | nil => rfl
  | cons patch rest ih =>
    have hconditions : Condition.merge record.conditions ((patch :: rest).flatMap (·.conditions)) =
        Condition.merge (Condition.merge record.conditions patch.conditions)
          (rest.flatMap (·.conditions)) := by
      rw [List.flatMap_cons, Condition.merge, List.foldl_append]
      rfl
    rw [lastGiven_cons_getD, lastGiven_cons_getD, lastGiven_cons_getD, hconditions]
    exact ih (patch.apply record)

theorem applyAll_applyAll (patches : List Patch) (record : Record) :
    applyAll patches (applyAll patches record) = applyAll patches record := by
  have hlast : ∀ {α : Type} (given : Option α) (former : α),
      given.getD (given.getD former) = given.getD former := by
    intro α given former
    cases given <;> rfl
  rw [applyAll_eq patches (applyAll patches record), applyAll_eq patches record]
  simp only [hlast, Condition.merge_merge]

/-! ### The patch that changes nothing -/

theorem isEmpty_iff :
    patch.isEmpty = true ↔
      patch.externalName = none ∧ patch.parameters = none ∧ patch.observation = none ∧
        patch.conditions = [] := by
  simp only [isEmpty, Bool.and_eq_true, Option.isNone_iff_eq_none, List.isEmpty_iff, and_assoc]

/-- A part that agrees with two records that differ in it is not given. -/
theorem eq_none_of_getD_eq {given : Option α} {a b : α} (hne : a ≠ b) (ha : given.getD a = a)
    (hb : given.getD b = b) : given = none := by
  cases given with
  | none => rfl
  | some c => exact absurd (ha.symm.trans hb) hne

theorem eq_nil_of_merge_nil {new : List Condition} (h : Condition.merge [] new = []) :
    new = [] := by
  cases new with
  | nil => rfl
  | cons c rest =>
    have hmem : c.type ∈ (Condition.merge [] (c :: rest)).map (·.type) :=
      Condition.mem_types_merge_iff.mpr (.inr List.mem_cons_self)
    rw [h] at hmem
    cases hmem

theorem isEmpty_iff_forall_apply_eq :
    patch.isEmpty = true ↔ ∀ record, patch.apply record = record := by
  rw [isEmpty_iff]
  constructor
  · rintro ⟨hname, hparameters, hobservation, hconditions⟩ record
    rw [apply, hname, hparameters, hobservation, hconditions]
    rfl
  · intro h
    -- Two records that differ in every part.
    have hbare := h (Record.fresh "" "" "" "")
    have hother := h { Record.fresh "" "i" "" "" with
      externalName := "n", observation := ⟨.null, .null, .null⟩ }
    refine ⟨?_, ?_, ?_, ?_⟩
    · exact eq_none_of_getD_eq (by decide) (congrArg Record.externalName hbare)
        (congrArg Record.externalName hother)
    · exact eq_none_of_getD_eq (by decide) (congrArg Record.parameters hbare)
        (congrArg Record.parameters hother)
    · exact eq_none_of_getD_eq (by decide) (congrArg Record.observation hbare)
        (congrArg Record.observation hother)
    · exact eq_nil_of_merge_nil (congrArg Record.conditions hbare)

/-- **A log of patches can be replayed.** The parts of the record that patches give are those given
last, the conditions are merged in order, and the rest is as before. Applying the log again changes
nothing, not even the time of a condition. A patch counts as empty exactly when it changes no record
at all. -/
theorem replay_applyAll (patches : List Patch) (record : Record) (patch : Patch) :
    applyAll patches (applyAll patches record) = applyAll patches record ∧
      applyAll patches record =
        { record with
          externalName := (lastGiven (·.externalName) patches).getD record.externalName
          parameters := (lastGiven (·.parameters) patches).getD record.parameters
          observation := (lastGiven (·.observation) patches).getD record.observation
          conditions := Condition.merge record.conditions (patches.flatMap (·.conditions)) } ∧
      (patch.isEmpty = true ↔ ∀ record, patch.apply record = record) :=
  ⟨applyAll_applyAll patches record, applyAll_eq patches record, isEmpty_iff_forall_apply_eq⟩

end DropletReconciler.Patch
