import DropletReconciler.Fault

/-!
# Faults on their way through a stage

A stage reports a failure as its own and lets everything else pass. The lemmas say what is left of a
fault behind a stage: its class, and the change to the record that goes with it. Some faults are
worded with a value of the caller's; where that value cannot be written, the fault of the numeral
takes their place.
-/

namespace DropletReconciler

@[simp]
theorem Stage.isA_reconciler (stage : Stage) : stage.errorClass.isA .reconciler = true := by
  cases stage <;> rfl

@[simp]
theorem Stage.isA_failure (stage : Stage) : stage.errorClass.isA .failure = true := by
  cases stage <;> rfl

@[simp]
theorem Value.Misuse.isA_failure (misuse : Value.Misuse) :
    misuse.errorClass.isA .failure = true := by
  cases misuse <;> rfl

@[simp]
theorem Value.Misuse.isA_reconciler (misuse : Value.Misuse) :
    misuse.errorClass.isA .reconciler = false := by
  cases misuse <;> rfl

@[simp]
theorem Config.Fault.isA_failure (fault : Config.Fault) :
    fault.errorClass.isA .failure = true := by
  cases fault with
  | unreadable origin fault => cases fault <;> rfl
  | misuse misuse => exact misuse.isA_failure
  | tooDeep | notFound | noType | unknownType | tooLong | settings => rfl

@[simp]
theorem Account.TokenFault.isA_failure (fault : Account.TokenFault) :
    fault.errorClass.isA .failure = true := by
  cases fault with
  | notFound name => rfl
  | misuse misuse => exact misuse.isA_failure

@[simp]
theorem Template.ReachFault.isA_failure (fault : Template.ReachFault) :
    fault.errorClass.isA .failure = true := by
  cases fault with
  | misuse misuse => exact misuse.isA_failure
  | _ => rfl

@[simp]
theorem Template.Fault.isA_failure (fault : Template.Fault) :
    fault.errorClass.isA .failure = true := by
  cases fault with
  | reach fault => exact fault.isA_failure
  | layout fault => cases fault <;> rfl
  | _ => rfl

/-! ### Faults that are worded with a value -/

/-- A subject whose kind can be written, if it has one. -/
def Subject.Nameable : Subject → Prop
  | .other _ (some kind) => kind.isWritable = true
  | _ => True

theorem Subject.exists_writeKind {subject : Subject} (h : subject.Nameable) :
    ∃ kind, subject.writeKind = .ok kind := by
  cases subject with
  | record r => exact ⟨_, rfl⟩
  | other typeName kind =>
    cases kind with
    | none => exact ⟨_, rfl⟩
    | some kind => exact ⟨_, Value.write_of_isWritable h⟩

theorem Subject.writeKind_of_not_nameable {subject : Subject} (h : ¬ subject.Nameable) :
    subject.writeKind = .error ⟨none⟩ := by
  cases subject with
  | record r => exact absurd trivial h
  | other typeName kind =>
    cases kind with
    | none => exact absurd trivial h
    | some kind => exact Value.write_of_not_isWritable h

namespace Fault

theorem refusing_of_nameable {subject : Subject} (h : subject.Nameable) (expected : String) :
    ∃ kind, subject.writeKind = .ok kind ∧
      refusing expected subject = .wrongKind expected subject kind := by
  obtain ⟨kind, hkind⟩ := subject.exists_writeKind h
  exact ⟨kind, hkind, by rw [refusing, hkind]⟩

theorem refusing_of_not_nameable {subject : Subject} (h : ¬ subject.Nameable)
    (expected : String) : refusing expected subject = .tooLong ⟨none⟩ := by
  rw [refusing, Subject.writeKind_of_not_nameable h]

/-- What is not handled comes from outside, and carries no change to the record. -/
theorem patch?_eq_none_of_not_isFailure {fault : Fault} (h : fault.isFailure = false) :
    fault.patch? = none := by
  cases fault with
  | failed stage patch origin => exact absurd h (by simp [isFailure, errorClass])
  | nothingCreated patch => cases h
  | _ => rfl

theorem patch?_inStage (fault : Fault) (stage : Stage) (patch : Option Patch) :
    (fault.inStage stage patch).patch? = if fault.isFailure then patch else none := by
  unfold inStage
  cases h : fault.isFailure with
  | true => rfl
  | false => simpa using patch?_eq_none_of_not_isFailure h

theorem errorClass_inStage (fault : Fault) (stage : Stage) (patch : Option Patch) :
    (fault.inStage stage patch).errorClass =
      if fault.isFailure then stage.errorClass else fault.errorClass := by
  unfold inStage
  cases fault.isFailure <;> rfl

@[simp]
theorem isFailure_inStage (fault : Fault) (stage : Stage) (patch : Option Patch) :
    (fault.inStage stage patch).isFailure = fault.isFailure := by
  change (fault.inStage stage patch).errorClass.isA .failure = fault.isFailure
  rw [errorClass_inStage]
  cases h : fault.isFailure with
  | true => simp
  | false => exact h

end Fault

end DropletReconciler
