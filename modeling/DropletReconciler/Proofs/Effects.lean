import DropletReconciler.Proofs.Faults
import DropletReconciler.Proofs.Runs
import DropletReconciler.Proofs.Shown

/-!
# The calls an operation makes and the changes it leaves

Read off the ways an operation can go: which call it can send for which record, and which change to
the record it can leave behind, whether it succeeds or fails. `Left` lists the changes.
-/

namespace DropletReconciler

variable {σ : Type} {world : World σ} {now : String} {state : σ} {record : Record}
  {trace : Trace σ (Except Fault Outcome)}

theorem patchLeft_inStage (fault : Fault) (stage : Stage) (patch : Option Patch) :
    patchLeft (.error (fault.inStage stage patch)) =
      if fault.isFailure then patch.getD Patch.empty else Patch.empty := by
  rw [patchLeft, Fault.patch?_inStage]
  cases fault.isFailure <;> rfl

namespace Reconcile

theorem eq_of_recordOf_record {other : Record} (h : recordOf (.record record) = .ok other) :
    other = record := by
  obtain ⟨hsame, -⟩ := recordOf_eq_ok_iff.mp h
  exact (Subject.record.inj hsame).symm

theorem eq_refusing_of_recordOf {subject : Subject} {fault : Fault}
    (h : recordOf subject = .error fault) : fault = .refusing dropletKind subject := by
  unfold recordOf at h
  split at h
  · cases h
  · exact (Except.error.inj h).symm

theorem forall_recordOf_iff {subject : Subject} {P : Record → Prop}
    (hrecord : recordOf subject = .ok record) :
    (∀ r, recordOf subject = .ok r → P r) ↔ P record := by
  constructor
  · exact fun h => h record hrecord
  · intro h r hr
    obtain rfl := Except.ok.inj (hrecord.symm.trans hr)
    exact h

/-- Every change to a record that an operation can leave behind, and what it follows from. -/
inductive Left (now : String) (record : Record) (events : List Event) : Patch → Prop
  | nothing : Left now record events Patch.empty
  | observed {id : Int} {droplet : Value} {completed : Option Parameters}
      {observation : Observation} (hidentity : record.identity = .ok (.assigned id))
      (hsent : .sent (.get (.int id)) (.ok droplet) ∈ events)
      (hobservation : Observation.ofDroplet droplet = .ok observation)
      (hcompleted : ∀ parameters ∈ completed,
        record.parameters.completeFrom droplet = .ok parameters) :
      Left now record events
        { externalName := none, parameters := completed, observation := some observation
          conditions := conditionsFor now observation.status }
  | creating : Left now record events (Patch.ofCondition (.creating now))
  | created {droplet id : Value} (hsent : .sent (creationCall record) (.ok droplet) ∈ events)
      (haccept : acceptId droplet = .ok id) : Left now record events (creation now id)
  | deleting : Left now record events (Patch.ofCondition (.deleting now))

/-! ### Observations -/

theorem ObserveRun.sent {call : Call} {reply : Except Fault Value}
    (hrun : ObserveRun world now (.record record) state trace)
    (hsent : .sent call reply ∈ trace.events) :
    ∃ id, record.identity = .ok (.assigned id) ∧ call = .get (.int id) := by
  cases hrun with
  | refused | tooLong | unassigned => cases hsent
  | pending => simp only [List.mem_singleton, reduceCtorEq] at hsent
  | missing hrecord hidentity | failed hrecord hidentity | unreadable hrecord hidentity
  | unchanged hrecord hidentity | unstored hrecord hidentity | stored hrecord hidentity =>
    obtain rfl := eq_of_recordOf_record hrecord
    simp only [List.mem_cons, Event.sent.injEq, reduceCtorEq, List.not_mem_nil, or_false] at hsent
    exact ⟨_, hidentity, hsent.1⟩

/-- What is handed to the store is the record with the parameters that the droplet completes. -/
theorem ObserveRun.persisted {stored : Record} {answer : Except Fault Unit}
    (hrun : ObserveRun world now (.record record) state trace)
    (hpersisted : .persisted stored answer ∈ trace.events) :
    ∃ droplet parameters, record.parameters.completeFrom droplet = .ok parameters ∧
      stored = { record with parameters := parameters } := by
  cases hrun with
  | refused | tooLong | unassigned => cases hpersisted
  | pending | missing | failed | unreadable | unchanged =>
    simp only [List.mem_cons, List.not_mem_nil, reduceCtorEq, or_self] at hpersisted
  | unstored hrecord _ _ hcomplete | stored hrecord _ _ hcomplete =>
    obtain rfl := eq_of_recordOf_record hrecord
    simp only [List.mem_cons, Event.persisted.injEq, reduceCtorEq, List.not_mem_nil, false_or,
      or_false] at hpersisted
    exact ⟨_, _, hcomplete, hpersisted.1⟩

theorem left_observedAs {id : Int} {droplet : Value} {completed : Option Parameters}
    {events : List Event} (hidentity : record.identity = .ok (.assigned id))
    (hsent : .sent (.get (.int id)) (.ok droplet) ∈ events)
    (hcompleted : ∀ parameters ∈ completed,
      record.parameters.completeFrom droplet = .ok parameters) :
    Left now record events (patchLeft (observedAs now completed droplet)) := by
  unfold observedAs
  cases hobservation : Observation.ofDroplet droplet with
  | error misuse => exact .nothing
  | ok observation => exact .observed hidentity hsent hobservation hcompleted

theorem ObserveRun.left (hrun : ObserveRun world now (.record record) state trace) :
    Left now record trace.events (patchLeft trace.result) := by
  cases hrun with
  | refused hrecord =>
    obtain rfl := eq_refusing_of_recordOf hrecord
    exact .nothing
  | tooLong | unassigned | pending | missing | unreadable => exact .nothing
  | failed | unstored =>
    rw [patchLeft_inStage, Option.getD_none, ite_self]
    exact .nothing
  | unchanged hrecord hidentity =>
    obtain rfl := eq_of_recordOf_record hrecord
    exact left_observedAs hidentity List.mem_cons_self (by simp)
  | stored hrecord hidentity hsend hcomplete =>
    obtain rfl := eq_of_recordOf_record hrecord
    refine left_observedAs hidentity List.mem_cons_self ?_
    intro parameters hparameters
    cases hparameters
    exact hcomplete

/-- The two ways to observe a droplet. Either it completes nothing and the store is left alone, or
the store takes the record with the completed parameters, once. -/
theorem observe_eq_ok_cases {id : Int} {droplet : Value} {after : σ} {outcome : Outcome}
    (hidentity : record.identity = .ok (.assigned id))
    (hsend : world.send (.get (.int id)) state = (.ok droplet, after))
    (hok : ((observe now (.record record)).run world state).result = .ok outcome) :
    record.kind = dropletKind ∧ ∃ parameters completed observation,
      record.parameters.completeFrom droplet = .ok parameters ∧
        Observation.ofDroplet droplet = .ok observation ∧
        outcome = .observed true true
          { externalName := none, parameters := completed, observation := some observation
            conditions := conditionsFor now observation.status } ∧
        ((parameters = record.parameters ∧ completed = none ∧
            (observe now (.record record)).run world state =
              ⟨.ok outcome, after, [.sent (.get (.int id)) (.ok droplet)]⟩) ∨
          (parameters ≠ record.parameters ∧ completed = some parameters ∧
            ∃ last, world.persist { record with parameters := parameters } after = (.ok (), last) ∧
              (observe now (.record record)).run world state =
                ⟨.ok outcome, last,
                  [.sent (.get (.int id)) (.ok droplet),
                    .persisted { record with parameters := parameters } (.ok ()),
                    .reported (.completed id)]⟩)) := by
  -- Whichever way the run went, it was for this record and its id.
  have hid : ∀ {other : Record} {identity : Identity},
      recordOf (.record record) = .ok other → other.identity = .ok identity →
        other = record ∧ identity = .assigned id := by
    intro other identity hrecord hidentity'
    obtain rfl := eq_of_recordOf_record hrecord
    exact ⟨rfl, Except.ok.inj (hidentity'.symm.trans hidentity)⟩
  have hrun := run_observe world now (.record record) state
  generalize (observe now (.record record)).run world state = trace at hrun hok
  cases hrun with
  | refused | tooLong | failed | unreadable | unstored => cases hok
  | unassigned hrecord hidentity' | pending hrecord hidentity' =>
    cases (hid hrecord hidentity').2
  | missing hrecord hidentity' hsend' =>
    obtain ⟨rfl, hassigned⟩ := hid hrecord hidentity'
    obtain rfl := Identity.assigned.inj hassigned
    cases hsend.symm.trans hsend'
  | unchanged hrecord hidentity' hsend' hcomplete =>
    obtain ⟨rfl, hassigned⟩ := hid hrecord hidentity'
    obtain rfl := Identity.assigned.inj hassigned
    cases hsend.symm.trans hsend'
    have hresult : observedAs now none droplet = .ok outcome := hok
    obtain ⟨observation, hobservation, houtcome⟩ := observedAs_eq_ok_iff.mp hresult
    refine ⟨(recordOf_eq_ok_iff.mp hrecord).2, _, none, observation, hcomplete, hobservation,
      houtcome, .inl ⟨rfl, rfl, ?_⟩⟩
    rw [hresult]
  | stored hrecord hidentity' hsend' hcomplete hchanged hpersist =>
    obtain ⟨rfl, hassigned⟩ := hid hrecord hidentity'
    obtain rfl := Identity.assigned.inj hassigned
    cases hsend.symm.trans hsend'
    have hresult : observedAs now (some _) droplet = .ok outcome := hok
    obtain ⟨observation, hobservation, houtcome⟩ := observedAs_eq_ok_iff.mp hresult
    refine ⟨(recordOf_eq_ok_iff.mp hrecord).2, _, some _, observation, hcomplete, hobservation,
      houtcome, .inr ⟨hchanged, rfl, _, hpersist, ?_⟩⟩
    rw [hresult]

/-! ### Creations -/

theorem CreateRun.sent {call : Call} {reply : Except Fault Value}
    (hrun : CreateRun world now (.record record) state trace)
    (hsent : .sent call reply ∈ trace.events) :
    record.Unbound ∧ call = creationCall record := by
  cases hrun with
  | refused | tooLong | bound => cases hsent
  | failed hrecord hunbound | nothing hrecord hunbound | unnumbered hrecord hunbound
  | created hrecord hunbound =>
    obtain rfl := eq_of_recordOf_record hrecord
    simp only [List.mem_cons, Event.sent.injEq, reduceCtorEq, List.not_mem_nil, or_false] at hsent
    exact ⟨hunbound, hsent.1⟩

theorem CreateRun.not_persisted {stored : Record} {answer : Except Fault Unit}
    (hrun : CreateRun world now (.record record) state trace) :
    .persisted stored answer ∉ trace.events := by
  cases hrun <;>
    simp only [List.mem_cons, List.not_mem_nil, reduceCtorEq, or_self, not_false_eq_true]

/-- A droplet that is answered with an acceptable id makes the creation succeed. -/
theorem CreateRun.created_of_sent {call : Call} {droplet id : Value}
    (hrun : CreateRun world now (.record record) state trace)
    (hsent : .sent call (.ok droplet) ∈ trace.events) (haccept : acceptId droplet = .ok id) :
    trace.result = .ok (.created true (creation now id)) ∧
      trace.events = [.sent (creationCall record) (.ok droplet),
        .reported (.created (nameFor record) id)] := by
  cases hrun with
  | refused | tooLong | bound => cases hsent
  | failed => simp only [List.mem_singleton, Event.sent.injEq, reduceCtorEq, and_false] at hsent
  | nothing hrecord hunbound hsend hpresent =>
    simp only [List.mem_singleton, Event.sent.injEq, Except.ok.injEq] at hsent
    obtain ⟨-, rfl⟩ := hsent
    have hfield := (acceptId_eq_ok_iff.mp haccept).1
    cases hpresent.symm.trans (Value.isPresent_of_field_eq_ok hfield)
  | unnumbered hrecord hunbound hsend hpresent hrefuse =>
    simp only [List.mem_singleton, Event.sent.injEq, Except.ok.injEq] at hsent
    obtain ⟨-, rfl⟩ := hsent
    cases hrefuse.symm.trans haccept
  | created hrecord hunbound hsend hpresent haccept' =>
    obtain rfl := eq_of_recordOf_record hrecord
    simp only [List.mem_cons, Event.sent.injEq, Except.ok.injEq, reduceCtorEq, List.not_mem_nil,
      or_false] at hsent
    obtain ⟨-, rfl⟩ := hsent
    obtain rfl := Except.ok.inj (haccept.symm.trans haccept')
    exact ⟨rfl, rfl⟩

theorem CreateRun.left (hrun : CreateRun world now (.record record) state trace) :
    Left now record trace.events (patchLeft trace.result) := by
  cases hrun with
  | refused hrecord =>
    obtain rfl := eq_refusing_of_recordOf hrecord
    exact .nothing
  | tooLong | bound => exact .nothing
  | @failed _ fault =>
    rw [patchLeft_inStage]
    cases fault.isFailure with
    | true => exact .creating
    | false => exact .nothing
  | nothing => exact .creating
  | unnumbered hrecord hunbound hsend hpresent haccept =>
    rw [patchLeft, patch?_of_acceptId_eq_error haccept]
    exact .nothing
  | created hrecord hunbound hsend hpresent haccept =>
    obtain rfl := eq_of_recordOf_record hrecord
    exact .created List.mem_cons_self haccept

/-! ### Deletions -/

theorem DeleteRun.sent {call : Call} {reply : Except Fault Value}
    (hrun : DeleteRun world now (.record record) state trace)
    (hsent : .sent call reply ∈ trace.events) :
    ∃ id, target? record = .ok (some id) ∧ call = .delete id := by
  cases hrun with
  | refused | tooLong => cases hsent
  | untargeted => simp only [List.mem_singleton, reduceCtorEq] at hsent
  | deleted hrecord htarget | alreadyGone hrecord htarget | unwritten hrecord htarget
  | failed hrecord htarget =>
    obtain rfl := eq_of_recordOf_record hrecord
    simp only [List.mem_cons, Event.sent.injEq, reduceCtorEq, List.not_mem_nil, or_false] at hsent
    exact ⟨_, htarget, hsent.1⟩

theorem DeleteRun.not_persisted {stored : Record} {answer : Except Fault Unit}
    (hrun : DeleteRun world now (.record record) state trace) :
    .persisted stored answer ∉ trace.events := by
  cases hrun <;>
    simp only [List.mem_cons, List.not_mem_nil, reduceCtorEq, or_self, not_false_eq_true]

theorem DeleteRun.left (hrun : DeleteRun world now (.record record) state trace) :
    Left now record trace.events (patchLeft trace.result) := by
  cases hrun with
  | refused hrecord =>
    obtain rfl := eq_refusing_of_recordOf hrecord
    exact .nothing
  | tooLong | unwritten => exact .nothing
  | untargeted | deleted | alreadyGone => exact .deleting
  | @failed _ _ fault =>
    rw [patchLeft_inStage]
    cases fault.isFailure with
    | true => exact .deleting
    | false => exact .nothing

end Reconcile

end DropletReconciler
