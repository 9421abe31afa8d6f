import DropletReconciler.Proofs.Conditions
import DropletReconciler.Proofs.Passes

/-!
# What the ready condition tells

A turn decides how ready the droplet is when it creates or deletes, with or without success, and when
it observes a status that says so. Every other turn leaves the conditions alone. So after a pass the
ready condition tells the last decision, and since when nothing else was decided.
-/

namespace DropletReconciler

variable {σ : Type} {world : World σ}

inductive Readiness where
  | creating
  | available
  | deleting
  deriving DecidableEq, Repr

namespace Readiness

def condition (now : String) : Readiness → Condition
  | .creating => .creating now
  | .available => .available now
  | .deleting => .deleting now

def ofStatus (status : Value) : Option Readiness :=
  if status = .text "new" then some .creating
  else if status = .text "active" then some .available
  else none

@[simp]
theorem type_condition (now : String) (readiness : Readiness) :
    (readiness.condition now).type = "Ready" := by
  cases readiness <;> rfl

end Readiness

/-- The status of a droplet that the provider showed. -/
def Event.status? : Event → Option Value
  | .sent (.get _) (.ok (.table fields)) => Table.get? "status" fields
  | _ => none

namespace Taken

def status? (taken : Taken) : Option Value := taken.events.findSome? Event.status?

/-- What a turn decides. A creation or a deletion that fails in another way than at the provider
decides nothing. -/
def readiness? (taken : Taken) : Option Readiness :=
  match taken.turn.operation, taken.result with
  | .create, .ok _ => some .creating
  | .create, .error fault => if fault.errorClass = .create then some .creating else none
  | .delete, .ok _ => some .deleting
  | .delete, .error fault => if fault.errorClass = .delete then some .deleting else none
  | .observe, .ok _ => taken.status?.bind Readiness.ofStatus
  | .observe, .error _ => none
  | .update, _ => none

def decision? (taken : Taken) : Option Condition :=
  taken.readiness?.map (·.condition taken.turn.now)

variable {now : String} {record : Record} {fault : Fault} {events : List Event}

theorem decision?_create_error :
    decision? ⟨⟨.create, now⟩, record, .error fault, events⟩ =
      if fault.errorClass = .create then some (.creating now) else none := by
  dsimp only [decision?, readiness?]
  split <;> rfl

theorem decision?_delete_error :
    decision? ⟨⟨.delete, now⟩, record, .error fault, events⟩ =
      if fault.errorClass = .delete then some (.deleting now) else none := by
  dsimp only [decision?, readiness?]
  split <;> rfl

end Taken

/-! ### One turn -/

theorem Fault.errorClass_inStage_eq_iff {fault : Fault} {stage : Stage} {patch : Option Patch} :
    (fault.inStage stage patch).errorClass = stage.errorClass ↔ fault.isFailure = true := by
  rw [errorClass_inStage]
  cases hfailure : fault.isFailure with
  | true => simp only [if_true]
  | false =>
    simp only [Bool.false_eq_true, if_false, iff_false]
    intro hclass
    rw [isFailure, hclass, Stage.isA_failure] at hfailure
    cases hfailure

namespace Reconcile

variable {now : String} {record : Record} {state : σ} {trace : Trace σ (Except Fault Outcome)}

theorem conditionsFor_eq_toList (now : String) (status : Value) :
    conditionsFor now status =
      ((Readiness.ofStatus status).map (·.condition now)).toList := by
  unfold conditionsFor Readiness.ofStatus
  split
  · rfl
  · split <;> rfl

theorem conditions_inStage (fault : Fault) (stage : Stage) (condition : Condition) :
    (patchLeft (.error (fault.inStage stage (some (Patch.ofCondition condition))))).conditions =
      (if (fault.inStage stage (some (Patch.ofCondition condition))).errorClass = stage.errorClass
        then some condition else none).toList := by
  rw [patchLeft_inStage]
  simp only [Fault.errorClass_inStage_eq_iff]
  cases fault.isFailure <;> rfl

/-- The conditions of an observation follow from the status that the provider showed. -/
theorem conditions_observedAs {id : Int} {droplet : Value} {completed : Option Parameters}
    {rest : List Event} (hrest : rest.findSome? Event.status? = none) :
    (patchLeft (observedAs now completed droplet)).conditions =
      (Taken.decision? ⟨⟨.observe, now⟩, record, observedAs now completed droplet,
        .sent (.get (.int id)) (.ok droplet) :: rest⟩).toList := by
  unfold observedAs
  cases hobservation : Observation.ofDroplet droplet with
  | error misuse => rfl
  | ok observation =>
    obtain ⟨-, -, status, hstatus, hobserved⟩ := Observation.ofDroplet_eq_ok_iff.mp hobservation
    change conditionsFor now observation.status = _
    cases droplet with
    | table fields =>
      obtain rfl : Table.get? "status" fields = status := Except.ok.inj hstatus
      rw [hobserved, conditionsFor_eq_toList]
      simp only [Taken.decision?, Taken.readiness?, Taken.status?, List.findSome?_cons,
        Event.status?, hrest]
      cases Table.get? "status" fields <;> rfl
    | _ => cases hstatus

theorem ObserveRun.conditions (hrun : ObserveRun world now (.record record) state trace) :
    (patchLeft trace.result).conditions =
      (Taken.decision? ⟨⟨.observe, now⟩, record, trace.result, trace.events⟩).toList := by
  cases hrun with
  | refused hrecord =>
    obtain rfl := eq_refusing_of_recordOf hrecord
    rfl
  | tooLong | unassigned | pending | missing | unreadable => rfl
  | failed | unstored =>
    rw [patchLeft_inStage, Option.getD_none, ite_self]
    rfl
  | unchanged | stored => exact conditions_observedAs rfl

theorem CreateRun.conditions (hrun : CreateRun world now (.record record) state trace) :
    (patchLeft trace.result).conditions =
      (Taken.decision? ⟨⟨.create, now⟩, record, trace.result, trace.events⟩).toList := by
  cases hrun with
  | refused hrecord =>
    obtain rfl := eq_refusing_of_recordOf hrecord
    rfl
  | tooLong | bound | nothing | created => rfl
  | @failed _ fault =>
    rw [Taken.decision?_create_error]
    exact conditions_inStage fault .create _
  | unnumbered hrecord hunbound hsend hpresent haccept =>
    obtain ⟨written, rfl⟩ | ⟨misuse, rfl⟩ | ⟨tooLong, rfl⟩ := acceptId_eq_error haccept
    · rfl
    · cases misuse <;> rfl
    · rfl

theorem DeleteRun.conditions (hrun : DeleteRun world now (.record record) state trace) :
    (patchLeft trace.result).conditions =
      (Taken.decision? ⟨⟨.delete, now⟩, record, trace.result, trace.events⟩).toList := by
  cases hrun with
  | refused hrecord =>
    obtain rfl := eq_refusing_of_recordOf hrecord
    rfl
  | tooLong | untargeted | deleted | alreadyGone | unwritten => rfl
  | @failed _ _ fault =>
    rw [Taken.decision?_delete_error]
    exact conditions_inStage fault .delete _

end Reconcile

/-- A turn puts the condition that it decides on, if it decides anything. -/
theorem Taken.Genuine.conditions_settled {taken : Taken} (h : taken.Genuine world) :
    taken.settled.conditions =
      Condition.merge taken.record.conditions taken.decision?.toList := by
  obtain ⟨⟨operation, now⟩, record, result, events⟩ := taken
  obtain ⟨state, trace, hrun, rfl, rfl⟩ := h
  change Condition.merge record.conditions (patchLeft trace.result).conditions = _
  congr 1
  cases operation with
  | observe => exact Reconcile.ObserveRun.conditions hrun
  | create => exact Reconcile.CreateRun.conditions hrun
  | update =>
    obtain rfl : trace = _ := hrun
    rfl
  | delete => exact Reconcile.DeleteRun.conditions hrun

/-! ### A whole pass -/

variable {turns : List Turn} {record : Record} {state : σ}

theorem conditions_through_pass :
    (record.through (pass world turns record state).1).conditions =
      Condition.merge record.conditions
        ((pass world turns record state).1.filterMap Taken.decision?) := by
  induction turns generalizing record state with
  | nil => rfl
  | cons turn rest ih =>
    obtain ⟨first, later, hgenuine, rfl, hpass⟩ := pass_cons world turn rest record state
    rw [hpass, Record.through, ih, hgenuine.conditions_settled, List.filterMap_cons]
    cases first.decision? <;> rfl

theorem type_of_mem_decisions {run : List Taken} :
    ∀ condition ∈ run.filterMap Taken.decision?, condition.type = "Ready" := by
  intro condition hcondition
  obtain ⟨taken, -, hdecision⟩ := List.mem_filterMap.mp hcondition
  obtain ⟨readiness, -, rfl⟩ := Option.map_eq_some_iff.mp hdecision
  exact readiness.type_condition taken.turn.now

/-- **The ready condition tells the last decision** of a pass, and since when nothing else was
decided: it is the first of the last unbroken block of equal decisions, and the condition from before
the pass counts as the first decision of all. Conditions of other types keep their content, their
time and their order. -/
theorem pass_ready_condition (world : World σ) (turns : List Turn) (record : Record) (state : σ) :
    Condition.ofType? "Ready" (record.through (pass world turns record state).1).conditions =
        Condition.standing ((Condition.ofType? "Ready" record.conditions).toList ++
          (pass world turns record state).1.filterMap Taken.decision?) ∧
      (record.through (pass world turns record state).1).conditions.filter (·.type ≠ "Ready") =
        record.conditions.filter (·.type ≠ "Ready") := by
  rw [conditions_through_pass]
  exact ⟨Condition.ofType?_merge _ _ type_of_mem_decisions,
    Condition.filter_merge _ _ type_of_mem_decisions⟩

end DropletReconciler
