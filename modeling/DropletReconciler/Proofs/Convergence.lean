import DropletReconciler.Proofs.Completion
import DropletReconciler.Proofs.Conditions
import DropletReconciler.Proofs.Effects
import DropletReconciler.Session

/-!
# Observing the same droplet again

What is observed of a droplet is a function of the droplet, and a record that takes it up is settled:
the parameters that were completed are complete, the observation is the one that is there, and the
condition goes on with its time. So one observation is enough, as long as the droplet stays the same.
-/

namespace DropletReconciler.Reconcile

variable {σ τ : Type} {world : World σ} {now : String} {record : Record} {id : Int}
  {droplet : Value} {state after : σ} {outcome : Outcome}

/-- A droplet that is observed has completed the parameters, and its data is what the outcome asks
the record to take up. -/
theorem exists_of_observe_eq_ok (hidentity : record.identity = .ok (.assigned id))
    (hsend : world.send (.get (.int id)) state = (.ok droplet, after))
    (hok : ((observe now (.record record)).run world state).result = .ok outcome) :
    record.kind = dropletKind ∧ ∃ parameters completed observation,
      record.parameters.completeFrom droplet = .ok parameters ∧
        completed.getD record.parameters = parameters ∧
        Observation.ofDroplet droplet = .ok observation ∧
        outcome = .observed true true
          { externalName := none, parameters := completed, observation := some observation
            conditions := conditionsFor now observation.status } := by
  obtain ⟨hkind, parameters, completed, observation, hcomplete, hobservation, houtcome, hcases⟩ :=
    observe_eq_ok_cases hidentity hsend hok
  refine ⟨hkind, parameters, completed, observation, hcomplete, ?_, hobservation, houtcome⟩
  rcases hcases with ⟨rfl, rfl, -⟩ | ⟨-, rfl, -⟩
  · rfl
  · rfl

/-- A droplet that completes nothing is observed without a word to the store. -/
theorem run_observe_complete {observation : Observation} (hkind : record.kind = dropletKind)
    (hidentity : record.identity = .ok (.assigned id))
    (hsend : world.send (.get (.int id)) state = (.ok droplet, after))
    (hcomplete : record.parameters.completeFrom droplet = .ok record.parameters)
    (hobservation : Observation.ofDroplet droplet = .ok observation) :
    (observe now (.record record)).run world state =
      ⟨.ok (.observed true true
          { externalName := none, parameters := none, observation := some observation
            conditions := conditionsFor now observation.status }),
        after, [.sent (.get (.int id)) (.ok droplet)]⟩ := by
  have hobserved : observedAs now none droplet = .ok _ :=
    observedAs_eq_ok_iff.mpr ⟨observation, hobservation, rfl⟩
  rw [observe_of_assigned hkind hidentity, observeId, Action.run_send hsend]
  simp only [observeFound, hcomplete, if_true, hobserved]
  rfl

/-- The condition of a status goes on with its time when it is put again. -/
theorem merge_conditionsFor (now now' : String) (status : Value) (conditions : List Condition) :
    Condition.merge (Condition.merge conditions (conditionsFor now status))
        (conditionsFor now' status) =
      Condition.merge conditions (conditionsFor now status) := by
  unfold conditionsFor
  split
  · exact Condition.put_put rfl conditions
  · split
    · exact Condition.put_put rfl conditions
    · rfl

/-- **One observation is enough.** When an observation of a droplet succeeds, observing the same
droplet again succeeds as well, at any time and in any other world. It only looks the droplet up, it
completes no parameters, and it leaves the record exactly as the first one did. -/
theorem observe_converges (world : World σ) (world' : World τ) (now now' : String)
    (record : Record) (id : Int) (droplet : Value) (outcome : Outcome) (state after : σ)
    (state' after' : τ) (hidentity : record.identity = .ok (.assigned id))
    (hsend : world.send (.get (.int id)) state = (.ok droplet, after))
    (hsend' : world'.send (.get (.int id)) state' = (.ok droplet, after'))
    (hok : ((observe now (.record record)).run world state).result = .ok outcome) :
    ∃ again, (observe now' (.record (outcome.patch.apply record))).run world' state' =
        ⟨.ok again, after', [.sent (.get (.int id)) (.ok droplet)]⟩ ∧
      again.patch.parameters = none ∧
      again.patch.apply (outcome.patch.apply record) = outcome.patch.apply record := by
  obtain ⟨hkind, parameters, completed, observation, hcomplete, hcompleted, hobservation, rfl⟩ :=
    exists_of_observe_eq_ok hidentity hsend hok
  refine ⟨_, run_observe_complete hkind hidentity hsend' ?_ hobservation, rfl, ?_⟩
  · change (completed.getD record.parameters).completeFrom droplet =
      .ok (completed.getD record.parameters)
    rw [hcompleted]
    exact Parameters.completeFrom_of_completeFrom hcomplete
  · simp only [Outcome.patch, Patch.apply, Option.getD_none, Option.getD_some,
      merge_conditionsFor]

/-- A record with two conditions of one type, the first of them out of date. -/
def staleRecord : Record :=
  { Record.fresh "web" "ubuntu-20-04" "nyc1" "s-1vcpu-1gb" with
    externalName := "5"
    conditions := [.creating "08:00", .available "07:00"] }

def activeDroplet : Value :=
  .table [("id", .int 5), ("status", .text "active"), ("features", .list [.text "ipv6"]),
    ("tags", .list [.text "web", .int 7])]

def activeOutcome : Outcome :=
  .observed true true
    { externalName := none
      parameters := some
        { staleRecord.parameters with
          backups := some false, ipv6 := some true, monitoring := some false
          privateNetworking := some false, tags := some ["web", "7"] }
      observation := some ⟨.int 5, .text "", .text "active"⟩
      conditions := [.available "09:00"] }

theorem observe_converges_activeDroplet :
    let world := Session.world .direct (.fixed (.ok .null)) [] none
    let cloud : Cloud := ⟨[(5, activeDroplet)], 6, [], none⟩
    let settled := activeOutcome.patch.apply staleRecord
    staleRecord.identity = .ok (.assigned 5) ∧
      ((observe "09:00" (.record staleRecord)).run world cloud).result = .ok activeOutcome ∧
      settled.conditions = [.available "09:00", .available "07:00"] ∧
      ∃ again, (observe "10:00" (.record settled)).run world cloud =
          ⟨.ok again, cloud, [.sent (.get (.int 5)) (.ok activeDroplet)]⟩ ∧
        again.patch.parameters = none ∧ again.patch.apply settled = settled := by
  intro world cloud settled
  have hidentity : staleRecord.identity = .ok (.assigned 5) := rfl
  have hok : ((observe "09:00" (.record staleRecord)).run world cloud).result =
      .ok activeOutcome := by decide +kernel
  exact ⟨hidentity, hok, rfl,
    observe_converges world world "09:00" "10:00" staleRecord 5 activeDroplet activeOutcome cloud
      cloud cloud cloud hidentity rfl rfl hok⟩

end DropletReconciler.Reconcile
