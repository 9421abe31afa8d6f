import DropletReconciler.Proofs.FailedObservation
import DropletReconciler.Proofs.Outbound

/-!
# What an observation stores and what it reports

Parameters that a droplet completes reach the record twice: the store is handed the record with
them, and the patch carries them. An observation that succeeds does both or neither, which of the
two is decided by the parameters alone, and the patch makes the same record of the stored one and of
the one that was there.
-/

namespace DropletReconciler.Reconcile

variable {σ : Type}

/-- **The store and the patch agree.** When an observation of a droplet succeeds, the store has
taken the record with the completed parameters, once, if these differ from those that it had, and
has not been turned to otherwise. The patch carries the completed parameters in the first case and
none in the second. It makes the same record of the stored one as of the one that was there. -/
theorem observe_stores_what_it_reports (world : World σ) (now : String) (record : Record) (id : Int)
    (droplet : Value) (outcome : Outcome) (state after : σ)
    (hidentity : record.identity = .ok (.assigned id))
    (hsend : world.send (.get (.int id)) state = (.ok droplet, after))
    (hok : ((observe now (.record record)).run world state).result = .ok outcome) :
    let trace := (observe now (.record record)).run world state
    ∃ completed patch, record.parameters.completeFrom droplet = .ok completed ∧
      outcome = .observed true true patch ∧
      trace.outbound = .sent (.get (.int id)) (.ok droplet) ::
        (if completed = record.parameters then []
          else [.persisted { record with parameters := completed } (.ok ())]) ∧
      trace.state =
        (if completed = record.parameters then after
          else (world.persist { record with parameters := completed } after).2) ∧
      patch.parameters = (if completed = record.parameters then none else some completed) ∧
      patch.apply { record with parameters := completed } = patch.apply record := by
  intro trace
  obtain ⟨-, parameters, completed, observation, hcomplete, -, houtcome, hcases⟩ :=
    observe_eq_ok_cases hidentity hsend hok
  refine ⟨parameters, _, hcomplete, houtcome, ?_⟩
  rcases hcases with ⟨hsame, hcompleted, hrun⟩ | ⟨hchanged, hcompleted, last, hpersist, hrun⟩
  · have htrace : trace = _ := hrun
    simp only [if_pos hsame]
    refine ⟨?_, ?_, hcompleted, ?_⟩
    · rw [htrace]
      rfl
    · rw [htrace]
    · rw [hsame]
  · have htrace : trace = _ := hrun
    simp only [if_neg hchanged]
    refine ⟨?_, ?_, hcompleted, ?_⟩
    · rw [htrace]
      rfl
    · rw [htrace, hpersist]
    · rw [hcompleted]
      rfl

theorem observe_stores_what_it_reports_shelf :
    let droplet : Value := .table [("id", .int 5), ("status", .text "active"),
      ("features", .list [.text "ipv6"])]
    let trace := (observe "09:00" (.record bareRecord)).run (shelf droplet) []
    bareRecord.identity = .ok (.assigned 5) ∧
      ∃ outcome completed patch, trace.result = .ok outcome ∧
        outcome = .observed true true patch ∧ completed ≠ bareRecord.parameters ∧
        trace.state = [{ bareRecord with parameters := completed }] ∧
        patch.parameters = some completed ∧
        patch.apply { bareRecord with parameters := completed } = patch.apply bareRecord := by
  intro droplet trace
  have hidentity : bareRecord.identity = .ok (.assigned 5) := rfl
  let shown : Parameters :=
    { bareRecord.parameters with
      backups := some false, ipv6 := some true, monitoring := some false
      privateNetworking := some false }
  let outcome : Outcome := .observed true true
    { externalName := none, parameters := some shown
      observation := some ⟨.int 5, .text "", .text "active"⟩
      conditions := [.available "09:00"] }
  have hok : trace.result = .ok outcome := by decide +kernel
  obtain ⟨completed, patch, hcomplete, hpatch, -, hstate, hparameters, happly⟩ :=
    observe_stores_what_it_reports (shelf droplet) "09:00" bareRecord 5 droplet outcome [] []
      hidentity rfl hok
  have hchanged : completed ≠ bareRecord.parameters := by
    obtain rfl := Except.ok.inj hcomplete
    decide
  rw [if_neg hchanged] at hstate hparameters
  exact ⟨hidentity, _, completed, patch, hok, hpatch, hchanged, hstate, hparameters, happly⟩

end DropletReconciler.Reconcile
