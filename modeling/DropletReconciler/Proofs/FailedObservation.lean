import DropletReconciler.Proofs.Effects
import DropletReconciler.Proofs.Paths
import DropletReconciler.Proofs.Readable

/-!
# What a failed observation leaves in the store

The parameters that an observation completes are stored before the observation itself is read from
the droplet. Whatever fails before that leaves the store alone, and so does a store that refuses the
record. What can fail afterwards is the id alone: that a droplet has none is found out too late.
-/

namespace DropletReconciler

variable {σ γ : Type} {world : World σ}

/-- A store in a world. It changes by the records that it takes, and by nothing else. -/
structure World.Stores (world : World σ) (contents : σ → γ) : Prop where
  send : ∀ call state, contents (world.send call state).2 = contents state
  resolve : ∀ reference state, contents (world.resolve reference state).2 = contents state
  refuse : ∀ record state fault, (world.persist record state).1 = .error fault →
    contents (world.persist record state).2 = contents state

theorem World.Path.contents_eq {contents : σ → γ} {state after : σ} {events : List Event}
    (hpath : world.Path state events after) (hstores : world.Stores contents)
    (hnone : events.filterMap Event.stored? = []) : contents after = contents state := by
  refine hpath.invariant (P := fun s => contents s = contents state) ?_ rfl
  intro event hevent s t hstep hs
  rw [← hs]
  cases event with
  | sent call reply =>
    have hkeep := hstores.send call s
    rwa [show world.send call s = (reply, t) from hstep] at hkeep
  | asked reference answer =>
    have hkeep := hstores.resolve reference s
    rwa [show world.resolve reference s = (answer, t) from hstep] at hkeep
  | persisted record answer =>
    have hpersist : world.persist record s = (answer, t) := hstep
    cases answer with
    | ok _ =>
      have hstored := List.filterMap_eq_nil_iff.mp hnone _ hevent
      cases hstored
    | error fault =>
      have hkeep := hstores.refuse record s fault (by rw [hpersist])
      rwa [hpersist] at hkeep
  | adopted token | reported line => exact congrArg contents hstep

/-- The store takes the record with the parameters that were completed from the droplet, and then the
droplet has no id. -/
def Record.CutShort (world : World σ) (record : Record) (state : σ) : Prop :=
  ∃ id fields between parameters, record.identity = .ok (.assigned id) ∧
    world.send (.get (.int id)) state = (.ok (.table fields), between) ∧
    record.parameters.completeFrom (.table fields) = .ok parameters ∧
    parameters ≠ record.parameters ∧
    (world.persist { record with parameters := parameters } between).1 = .ok () ∧
    Table.get? "id" fields = none

theorem Record.cutShort_iff {record : Record} {id : Int} {reply : Except Fault Value}
    {state between : σ} (hidentity : record.identity = .ok (.assigned id))
    (hsend : world.send (.get (.int id)) state = (reply, between)) :
    record.CutShort world state ↔
      ∃ fields parameters, reply = .ok (.table fields) ∧
        record.parameters.completeFrom (.table fields) = .ok parameters ∧
        parameters ≠ record.parameters ∧
        (world.persist { record with parameters := parameters } between).1 = .ok () ∧
        Table.get? "id" fields = none := by
  constructor
  · rintro ⟨id', fields, between', parameters, hidentity', hsend', hcut⟩
    obtain rfl := Identity.assigned.inj (Except.ok.inj (hidentity.symm.trans hidentity'))
    obtain ⟨rfl, rfl⟩ := Prod.mk.inj (hsend.symm.trans hsend')
    exact ⟨fields, parameters, rfl, hcut⟩
  · rintro ⟨fields, parameters, rfl, hcut⟩
    exact ⟨id, fields, between, parameters, hidentity, hsend, hcut⟩

namespace Reconcile

variable {now : String} {subject : Subject} {state : σ}
  {trace : Trace σ (Except Fault Outcome)}

theorem ObserveRun.stored_eq_nil_iff {fault : Fault}
    (hrun : ObserveRun world now subject state trace) (hfailed : trace.result = .error fault) :
    trace.events.filterMap Event.stored? = [] ↔
      ∀ record, recordOf subject = .ok record → ¬ record.CutShort world state := by
  cases hrun with
  | refused hrecord =>
    exact iff_of_true rfl fun record h => absurd (hrecord.symm.trans h) nofun
  | unassigned | pending | missing => cases hfailed
  | tooLong hrecord hidentity =>
    rw [forall_recordOf_iff hrecord]
    refine iff_of_true rfl ?_
    rintro ⟨id, fields, between, parameters, hidentity', -⟩
    exact absurd (hidentity.symm.trans hidentity') nofun
  | failed hrecord hidentity hsend =>
    rw [forall_recordOf_iff hrecord, Record.cutShort_iff hidentity hsend]
    refine iff_of_true rfl ?_
    rintro ⟨fields, parameters, hreply, -⟩
    cases hreply
  | unreadable hrecord hidentity hsend hcomplete =>
    rw [forall_recordOf_iff hrecord, Record.cutShort_iff hidentity hsend]
    refine iff_of_true rfl ?_
    rintro ⟨fields, parameters, hreply, hcomplete', -⟩
    obtain rfl := Except.ok.inj hreply
    exact absurd (hcomplete.symm.trans hcomplete') nofun
  | unchanged hrecord hidentity hsend hcomplete =>
    rw [forall_recordOf_iff hrecord, Record.cutShort_iff hidentity hsend]
    refine iff_of_true rfl ?_
    rintro ⟨fields, parameters, hreply, hcomplete', hchanged, -⟩
    obtain rfl := Except.ok.inj hreply
    exact hchanged (Except.ok.inj (hcomplete'.symm.trans hcomplete))
  | unstored hrecord hidentity hsend hcomplete _ hpersist =>
    rw [forall_recordOf_iff hrecord, Record.cutShort_iff hidentity hsend]
    refine iff_of_true rfl ?_
    rintro ⟨fields, parameters, hreply, hcomplete', -, hstored, -⟩
    obtain rfl := Except.ok.inj hreply
    obtain rfl := Except.ok.inj (hcomplete.symm.trans hcomplete')
    rw [hpersist] at hstored
    cases hstored
  -- Only here was the record stored, and only the id was left to read.
  | stored hrecord hidentity hsend hcomplete hchanged hpersist =>
    rw [forall_recordOf_iff hrecord, Record.cutShort_iff hidentity hsend]
    obtain ⟨fields, rfl, -⟩ := Parameters.exists_completeFrom_iff.mp ⟨_, hcomplete⟩
    refine iff_of_false nofun fun h => h ⟨fields, _, rfl, hcomplete, hchanged, ?_, ?_⟩
    · rw [hpersist]
    · exact (observedAs_table_eq_error_iff.mp hfailed).1

/-- **What a failed observation has stored.** An observation that fails has stored nothing, and the
store is as it was before, unless the observation was cut short by a droplet without an id. Then the
store has taken the record. -/
theorem failed_observe_stores_iff (world : World σ) (now : String) (subject : Subject) (state : σ)
    (fault : Fault) (hfailed : ((observe now subject).run world state).result = .error fault) :
    (((observe now subject).run world state).events.filterMap Event.stored? = [] ↔
        ∀ record, recordOf subject = .ok record → ¬ record.CutShort world state) ∧
      ∀ {γ : Type} (contents : σ → γ), world.Stores contents →
        (∀ record, recordOf subject = .ok record → ¬ record.CutShort world state) →
        contents ((observe now subject).run world state).state = contents state := by
  have hiff := (run_observe world now subject state).stored_eq_nil_iff hfailed
  refine ⟨hiff, fun contents hstores hwhole => ?_⟩
  exact ((observe now subject).path_run world state).contents_eq hstores (hiff.mpr hwhole)

/-- A world that is a store, beside a provider that finds the same droplet everywhere. -/
def shelf (droplet : Value) : World (List Record) where
  send _ records := (.ok droplet, records)
  persist record records := (.ok (), record :: records)
  resolve _ records := (.ok .null, records)

theorem stores_shelf (droplet : Value) : (shelf droplet).Stores id where
  send _ _ := rfl
  resolve _ _ := rfl
  refuse _ _ _ h := nomatch h

/-- A record that no parameters were completed for. -/
def bareRecord : Record :=
  { Record.fresh "web" "ubuntu-20-04" "nyc1" "s-1vcpu-1gb" with externalName := "5" }

theorem failed_observe_null_features :
    let droplet : Value := .table [("id", .int 5), ("features", .null)]
    let trace := (observe "09:00" (.record bareRecord)).run (shelf droplet) []
    trace.result = .error (.misuse (.notIterable .null)) ∧ (shelf droplet).Stores id ∧
      (∀ record, recordOf (.record bareRecord) = .ok record →
        ¬ record.CutShort (shelf droplet) []) ∧
      trace.state = [] := by
  intro droplet trace
  obtain ⟨hstored, hcontents⟩ := failed_observe_stores_iff (shelf droplet) "09:00"
    (.record bareRecord) [] (.misuse (.notIterable .null)) rfl
  have hwhole := hstored.mp rfl
  exact ⟨rfl, stores_shelf droplet, hwhole, hcontents id (stores_shelf droplet) hwhole⟩

/-- A droplet with no features on, and no id. -/
theorem failed_observe_without_id :
    let trace := (observe "09:00" (.record bareRecord)).run
      (shelf (.table [("features", .list [])])) []
    trace.result = .error (.misuse (.missingKey (.text "id"))) ∧ trace.state ≠ [] := by
  decide +kernel

end Reconcile

end DropletReconciler
