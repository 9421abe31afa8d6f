import DropletReconciler.Proofs.Readable
import DropletReconciler.Proofs.Effects
import DropletReconciler.Session

/-!
# Failures that are errors of the library

Whoever handles the errors of the library means to handle every failure of an operation. What the
provider and the store raise comes out as such an error, but not what goes wrong while their data is
read or written: an external name with too many digits, a droplet of another shape, a droplet without
an id, an id or a kind that is too long for a message. `contained_iff` says exactly when a failure gets
past the handler.
-/

namespace DropletReconciler

variable {σ α : Type}

/-- A failure, if there is one, is an error of the library. -/
def Contained (result : Except Fault α) : Prop :=
  ∀ fault, result = .error fault → fault.isFailure = true →
    fault.errorClass.isA .reconciler = true

/-- An external name that is a numeral is short enough to be read. -/
def Record.NameFits (record : Record) : Prop :=
  record.externalName.toList.all Char.isDigit = true →
    record.externalName.toList.length ≤ Numeral.maxDigits

/-- The numbers that can be written. -/
def Value.IsWritableNumber : Value → Prop
  | .bool _ | .float _ => True
  | .int n => n.natAbs < Nat.pow 10 Numeral.maxDigits
  | _ => False

/-- The store refuses the parameters that were completed from a droplet. -/
def Record.Unstored (world : World σ) (record : Record) (droplet : Value) (state : σ) : Prop :=
  ∃ parameters fault, record.parameters.completeFrom droplet = .ok parameters ∧
    parameters ≠ record.parameters ∧
    (world.persist { record with parameters := parameters } state).1 = .error fault

/-- Everything that is read of a droplet is there. The id is read last, and not at all when the
store has failed. -/
def Record.Observable (world : World σ) (record : Record) (droplet : Value) (state : σ) : Prop :=
  ∃ fields, droplet = .table fields ∧ record.parameters.CompletesFrom fields ∧
    ((∃ id, Table.get? "id" fields = some id) ∨ record.Unstored world droplet state)

/-- What it takes for the failures of an operation on a record to be errors of the library. -/
def Record.Contains (world : World σ) (record : Record) (state : σ) : Operation → Prop
  | .observe =>
    record.NameFits ∧ ∀ id droplet after, record.identity = .ok (.assigned id) →
      world.send (.get (.int id)) state = (.ok droplet, after) →
      record.Observable world droplet after
  | .create =>
    record.NameFits ∧ ∀ droplet, record.Unbound →
      (world.send (Reconcile.creationCall record) state).1 = .ok droplet →
      droplet.isPresent = true → ∃ id, droplet.field "id" = .ok id ∧ id.IsWritableNumber
  | .update => True
  | .delete =>
    (record.observation.id = .null → record.NameFits) ∧
      ∀ id, Reconcile.target? record = .ok (some id) →
        Reconcile.Gone (world.send (.delete id) state).1 → id.isWritable = true

/-- What it takes for the failures of an operation on a subject to be errors of the library. Only an
update accepts every subject. -/
def Subject.Contains (world : World σ) (subject : Subject) (state : σ) (operation : Operation) :
    Prop :=
  (operation ≠ .update → subject.Nameable) ∧
    ∀ record, Reconcile.recordOf subject = .ok record → record.Contains world state operation

/-! ### Single faults -/

theorem contained_ok (a : α) : Contained (.ok a) := nofun

theorem contained_error_iff {fault : Fault} :
    Contained (.error fault : Except Fault α) ↔
      (fault.isFailure = true → fault.errorClass.isA .reconciler = true) := by
  constructor
  · exact fun h => h fault rfl
  · rintro h fault' hfault
    obtain rfl := Except.error.inj hfault
    exact h

theorem contained_inStage (fault : Fault) (stage : Stage) (patch : Option Patch) :
    Contained (.error (fault.inStage stage patch) : Except Fault α) := by
  rw [contained_error_iff, Fault.isFailure_inStage, Fault.errorClass_inStage]
  intro hfailure
  rw [if_pos hfailure, Stage.isA_reconciler]

theorem contained_identity (fault : IdentityFault) :
    Contained (.error (.identity fault) : Except Fault α) :=
  contained_error_iff.mpr fun _ => rfl

theorem not_contained_misuse (misuse : Value.Misuse) :
    ¬ Contained (.error (.misuse misuse) : Except Fault α) := by
  intro h
  have hreconciler := contained_error_iff.mp h (Value.Misuse.isA_failure misuse)
  exact absurd ((Value.Misuse.isA_reconciler misuse).symm.trans hreconciler) nofun

theorem not_contained_tooLong (fault : Numeral.TooLong) :
    ¬ Contained (.error (.tooLong fault) : Except Fault α) :=
  fun h => nomatch contained_error_iff.mp h rfl

theorem not_contained_unwritten : ¬ Contained (.error .unwritten : Except Fault α) :=
  fun h => nomatch contained_error_iff.mp h rfl

/-! ### What is read -/

theorem Record.nameFits_iff {record : Record} :
    record.NameFits ↔ ∃ identity, record.identity = .ok identity := by
  have herror : (∃ fault, Identity.parse record.externalName = .error fault) ↔ _ :=
    Identity.parse_eq_error_iff
  unfold NameFits identity
  cases hparse : Identity.parse record.externalName with
  | error fault =>
    obtain ⟨hdigits, hlong⟩ := herror.mp ⟨fault, hparse⟩
    refine iff_of_false ?_ nofun
    exact fun h => absurd (h hdigits) (Nat.not_le.mpr hlong)
  | ok identity =>
    refine iff_of_true (fun hdigits => Nat.le_of_not_lt fun hlong => ?_) ⟨identity, rfl⟩
    obtain ⟨fault, hfault⟩ := herror.mpr ⟨hdigits, hlong⟩
    exact absurd (hparse.symm.trans hfault) nofun

theorem Record.not_nameFits {record : Record} {fault : Numeral.TooLong}
    (h : record.identity = .error fault) : ¬ record.NameFits := by
  rw [nameFits_iff]
  rintro ⟨identity, hidentity⟩
  exact absurd (h.symm.trans hidentity) nofun

/-- A number that can be written is accepted, or refused as an id. -/
theorem contained_acceptId_iff {droplet : Value} :
    Contained (Reconcile.acceptId droplet) ↔
      ∃ id, droplet.field "id" = .ok id ∧ id.IsWritableNumber := by
  unfold Reconcile.acceptId
  cases hfield : droplet.field "id" with
  | error misuse =>
    refine iff_of_false (not_contained_misuse misuse) ?_
    rintro ⟨id, h, -⟩
    cases h
  | ok id =>
    simp only [Except.ok.injEq, exists_eq_left']
    cases id with
    | null | text | moment | list | table => exact iff_of_false (not_contained_misuse _) id
    | bool b =>
      refine iff_of_true ?_ trivial
      cases b with
      | true => exact contained_ok _
      | false => exact contained_identity _
    | float x =>
      refine iff_of_true ?_ trivial
      dsimp only [Value.leInt, Value.writeScalar]
      cases x.leInt 0 with
      | true => exact contained_identity _
      | false => exact contained_ok _
    | int n =>
      dsimp only [Value.leInt, Value.writeScalar, Value.IsWritableNumber]
      by_cases hshort : n.natAbs < Nat.pow 10 Numeral.maxDigits
      · rw [Numeral.write_eq_ok_iff.mpr ⟨hshort, rfl⟩]
        refine iff_of_true ?_ hshort
        by_cases hle : n ≤ 0
        · rw [decide_eq_true hle]
          exact contained_identity _
        · rw [decide_eq_false hle]
          exact contained_ok _
      · refine iff_of_false ?_ hshort
        rw [Numeral.write, if_pos (Nat.le_of_not_lt hshort)]
        exact not_contained_tooLong _

theorem contained_observedAs_iff {now : String} {completed : Option Parameters} {fields : Table} :
    Contained (Reconcile.observedAs now completed (.table fields)) ↔
      ∃ id, Table.get? "id" fields = some id := by
  cases hobserved : Reconcile.observedAs now completed (.table fields) with
  | error fault =>
    obtain ⟨hnone, rfl⟩ := Reconcile.observedAs_table_eq_error_iff.mp hobserved
    refine iff_of_false (not_contained_misuse _) ?_
    rintro ⟨id, hid⟩
    cases hnone.symm.trans hid
  | ok outcome =>
    obtain ⟨observation, hobservation, -⟩ := Reconcile.observedAs_eq_ok_iff.mp hobserved
    have hid := (Observation.ofDroplet_eq_ok_iff.mp hobservation).1
    exact iff_of_true (contained_ok _) ⟨_, Value.field_table_eq_ok_iff.mp hid⟩

/-! ### Whole operations -/

namespace Reconcile

variable {world : World σ} {now : String} {subject : Subject} {state : σ}
  {trace : Trace σ (Except Fault Outcome)}

/-- A refusal is an error of the library, if its words can be found. -/
theorem contained_refused_iff {fault : Fault} {operation : Operation}
    (hchanges : operation ≠ .update) (hrecord : recordOf subject = .error fault) :
    Contained (.error fault : Except Fault α) ↔ subject.Contains world state operation := by
  have hnone : ∀ r, recordOf subject = .ok r → r.Contains world state operation :=
    fun r hr => absurd (hrecord.symm.trans hr) nofun
  rw [eq_refusing_of_recordOf hrecord]
  by_cases hnameable : subject.Nameable
  · obtain ⟨kind, -, hrefusing⟩ := Fault.refusing_of_nameable hnameable dropletKind
    rw [hrefusing]
    exact iff_of_true (contained_error_iff.mpr fun _ => rfl) ⟨fun _ => hnameable, hnone⟩
  · rw [Fault.refusing_of_not_nameable hnameable]
    exact iff_of_false (not_contained_tooLong _) fun h => hnameable (h.1 hchanges)

theorem contains_iff {record : Record} {operation : Operation}
    (hrecord : recordOf subject = .ok record) :
    subject.Contains world state operation ↔ record.Contains world state operation := by
  obtain ⟨rfl, -⟩ := recordOf_eq_ok_iff.mp hrecord
  have hnameable : (Subject.record record).Nameable := trivial
  rw [Subject.Contains, forall_recordOf_iff hrecord]
  exact and_iff_right fun _ => hnameable

theorem contains_observe_iff {record : Record} {id : Int} {reply : Except Fault Value} {after : σ}
    (hidentity : record.identity = .ok (.assigned id))
    (hsend : world.send (.get (.int id)) state = (reply, after)) :
    record.Contains world state .observe ↔
      ∀ droplet, reply = .ok droplet → record.Observable world droplet after := by
  constructor
  · rintro ⟨-, h⟩ droplet rfl
    exact h id droplet after hidentity hsend
  · intro h
    refine ⟨Record.nameFits_iff.mpr ⟨_, hidentity⟩, ?_⟩
    intro id' droplet after' hidentity' hsend'
    obtain rfl := Identity.assigned.inj (Except.ok.inj (hidentity.symm.trans hidentity'))
    obtain ⟨hreply, rfl⟩ := Prod.mk.inj (hsend.symm.trans hsend')
    exact h droplet hreply

/-- Where the parameters can be completed, what is left to read is the id. -/
theorem observable_table_iff {record : Record} {fields : Table} {parameters : Parameters}
    (hcomplete : record.parameters.completeFrom (.table fields) = .ok parameters) :
    record.Observable world (.table fields) state ↔
      (∃ id, Table.get? "id" fields = some id) ∨
        parameters ≠ record.parameters ∧
          ∃ fault, (world.persist { record with parameters := parameters } state).1 =
            .error fault := by
  obtain ⟨fields', hsame, hfields⟩ :=
    Parameters.exists_completeFrom_iff.mp ⟨parameters, hcomplete⟩
  obtain rfl := Value.table.inj hsame
  constructor
  · rintro ⟨fields', hsame, -, hid | ⟨parameters', fault, hcomplete', hchanged, hpersist⟩⟩
    · obtain rfl := Value.table.inj hsame
      exact .inl hid
    · obtain rfl := Except.ok.inj (hcomplete.symm.trans hcomplete')
      exact .inr ⟨hchanged, fault, hpersist⟩
  · rintro (hid | ⟨hchanged, fault, hpersist⟩)
    · exact ⟨fields, rfl, hfields, .inl hid⟩
    · exact ⟨fields, rfl, hfields, .inr ⟨parameters, fault, hcomplete, hchanged, hpersist⟩⟩

theorem ObserveRun.contained_iff (hrun : ObserveRun world now subject state trace) :
    Contained trace.result ↔ subject.Contains world state .observe := by
  cases hrun with
  | refused hrecord => exact contained_refused_iff nofun hrecord
  | tooLong hrecord hidentity =>
    rw [contains_iff hrecord]
    refine iff_of_false (not_contained_tooLong _) ?_
    exact fun h => Record.not_nameFits hidentity h.1
  | unassigned hrecord hidentity | pending hrecord hidentity =>
    rw [contains_iff hrecord]
    refine iff_of_true (contained_ok _) ⟨Record.nameFits_iff.mpr ⟨_, hidentity⟩, ?_⟩
    intro id droplet after hassigned
    exact absurd (hidentity.symm.trans hassigned) nofun
  | missing hrecord hidentity hsend =>
    rw [contains_iff hrecord, contains_observe_iff hidentity hsend]
    exact iff_of_true (contained_ok _) nofun
  | failed hrecord hidentity hsend =>
    rw [contains_iff hrecord, contains_observe_iff hidentity hsend]
    exact iff_of_true (contained_inStage _ _ _) nofun
  | unreadable hrecord hidentity hsend hcomplete =>
    rw [contains_iff hrecord, contains_observe_iff hidentity hsend]
    refine iff_of_false (not_contained_misuse _) ?_
    intro h
    obtain ⟨fields, hdroplet, hfields, -⟩ := h _ rfl
    obtain ⟨parameters, hok⟩ := Parameters.exists_completeFrom_iff.mpr ⟨fields, hdroplet, hfields⟩
    exact absurd (hcomplete.symm.trans hok) nofun
  -- The store is not asked, so the id is all that is left to read.
  | unchanged hrecord hidentity hsend hcomplete =>
    obtain ⟨fields, rfl, -⟩ := Parameters.exists_completeFrom_iff.mp ⟨_, hcomplete⟩
    rw [contains_iff hrecord, contains_observe_iff hidentity hsend, contained_observedAs_iff]
    simp only [Except.ok.injEq, forall_eq', observable_table_iff hcomplete, ne_eq,
      not_true_eq_false, false_and, or_false]
  | unstored hrecord hidentity hsend hcomplete hchanged hpersist =>
    obtain ⟨fields, rfl, -⟩ := Parameters.exists_completeFrom_iff.mp ⟨_, hcomplete⟩
    rw [contains_iff hrecord, contains_observe_iff hidentity hsend]
    refine iff_of_true (contained_inStage _ _ _) ?_
    intro droplet hdroplet
    obtain rfl := Except.ok.inj hdroplet
    exact (observable_table_iff hcomplete).mpr (.inr ⟨hchanged, _, congrArg Prod.fst hpersist⟩)
  | stored hrecord hidentity hsend hcomplete hchanged hpersist =>
    obtain ⟨fields, rfl, -⟩ := Parameters.exists_completeFrom_iff.mp ⟨_, hcomplete⟩
    rw [contains_iff hrecord, contains_observe_iff hidentity hsend, contained_observedAs_iff]
    simp only [Except.ok.injEq, forall_eq', observable_table_iff hcomplete, hpersist,
      reduceCtorEq, exists_false, and_false, or_false]

theorem contains_create_iff {record : Record} {reply : Except Fault Value} {after : σ}
    (hunbound : record.Unbound)
    (hsend : world.send (creationCall record) state = (reply, after)) :
    record.Contains world state .create ↔
      ∀ droplet, reply = .ok droplet → droplet.isPresent = true →
        ∃ id, droplet.field "id" = .ok id ∧ id.IsWritableNumber := by
  have hfits : record.NameFits := Record.nameFits_iff.mpr hunbound.exists_identity
  simp only [Record.Contains, hsend, hunbound, forall_const, hfits, true_and]

theorem CreateRun.contained_iff (hrun : CreateRun world now subject state trace) :
    Contained trace.result ↔ subject.Contains world state .create := by
  cases hrun with
  | refused hrecord => exact contained_refused_iff nofun hrecord
  | tooLong hrecord hidentity =>
    rw [contains_iff hrecord]
    refine iff_of_false (not_contained_tooLong _) ?_
    exact fun h => Record.not_nameFits hidentity h.1
  | bound hrecord hidentity =>
    rw [contains_iff hrecord]
    refine iff_of_true (contained_identity _) ⟨Record.nameFits_iff.mpr ⟨_, hidentity⟩, ?_⟩
    intro droplet hunbound
    exact absurd hunbound (Record.not_unbound_of_assigned hidentity)
  | failed hrecord hunbound hsend =>
    rw [contains_iff hrecord, contains_create_iff hunbound hsend]
    exact iff_of_true (contained_inStage _ _ _) nofun
  | nothing hrecord hunbound hsend hpresent =>
    rw [contains_iff hrecord, contains_create_iff hunbound hsend]
    refine iff_of_true (contained_error_iff.mpr fun _ => rfl) ?_
    intro droplet hdroplet hpresent'
    obtain rfl := Except.ok.inj hdroplet
    exact absurd (hpresent.symm.trans hpresent') nofun
  | unnumbered hrecord hunbound hsend hpresent haccept =>
    rw [contains_iff hrecord, contains_create_iff hunbound hsend]
    simp only [Except.ok.injEq, forall_eq', hpresent, forall_const, ← contained_acceptId_iff,
      haccept, contained_error_iff]
  | created hrecord hunbound hsend hpresent haccept =>
    rw [contains_iff hrecord, contains_create_iff hunbound hsend]
    simp only [Except.ok.injEq, forall_eq', hpresent, forall_const, ← contained_acceptId_iff,
      haccept, contained_ok]

/-- The target of a deletion depends on the name where nothing was observed yet. -/
theorem exists_target_iff {record : Record} :
    (∃ target, target? record = .ok target) ↔
      (record.observation.id = .null → record.NameFits) := by
  rw [Record.nameFits_iff]
  unfold target?
  by_cases hunseen : record.observation.id = .null
  · rw [if_pos hunseen, forall_prop_of_true hunseen]
    cases record.identity with
    | error fault => exact iff_of_false nofun nofun
    | ok identity =>
      refine iff_of_true ?_ ⟨identity, rfl⟩
      cases identity with
      | unassigned | pending => exact ⟨none, rfl⟩
      | assigned id => exact ⟨some (.int id), rfl⟩
  · rw [if_neg hunseen]
    exact iff_of_true ⟨_, rfl⟩ fun h => absurd h hunseen

theorem contains_delete_iff {record : Record} {id : Value} {reply : Except Fault Value} {after : σ}
    (htarget : target? record = .ok (some id))
    (hsend : world.send (.delete id) state = (reply, after)) :
    record.Contains world state .delete ↔ (Gone reply → id.isWritable = true) := by
  constructor
  · rintro ⟨-, h⟩ hgone
    exact h id htarget (by rwa [hsend])
  · refine fun h => ⟨exists_target_iff.mp ⟨_, htarget⟩, fun other hother hgone => ?_⟩
    obtain rfl := Option.some.inj (Except.ok.inj (htarget.symm.trans hother))
    rw [hsend] at hgone
    exact h hgone

theorem DeleteRun.contained_iff (hrun : DeleteRun world now subject state trace) :
    Contained trace.result ↔ subject.Contains world state .delete := by
  cases hrun with
  | refused hrecord => exact contained_refused_iff nofun hrecord
  | tooLong hrecord htarget =>
    rw [contains_iff hrecord]
    refine iff_of_false (not_contained_tooLong _) ?_
    intro h
    obtain ⟨target, hok⟩ := exists_target_iff.mpr h.1
    exact absurd (htarget.symm.trans hok) nofun
  | untargeted hrecord htarget =>
    rw [contains_iff hrecord]
    refine iff_of_true (contained_ok _) ⟨exists_target_iff.mp ⟨_, htarget⟩, fun id hid => ?_⟩
    cases htarget.symm.trans hid
  | deleted hrecord htarget hsend hwritable | alreadyGone hrecord htarget hsend _ hwritable =>
    rw [contains_iff hrecord, contains_delete_iff htarget hsend]
    exact iff_of_true (contained_ok _) fun _ => hwritable
  | unwritten hrecord htarget hsend hgone hlong =>
    rw [contains_iff hrecord, contains_delete_iff htarget hsend]
    exact iff_of_false not_contained_unwritten fun h => nomatch hlong.symm.trans (h hgone)
  | failed hrecord htarget hsend hmissing =>
    rw [contains_iff hrecord, contains_delete_iff htarget hsend]
    exact iff_of_true (contained_inStage _ _ _) fun hgone => nomatch hmissing.symm.trans hgone

end Reconcile

/-- **When one handler is enough.** Every failure of an operation is an error of the library exactly
when the operation can read what it is given and write what it says about it: a subject of another
kind has a kind that can be written; the external name, where it is needed, has not too many digits; a
droplet that is found has features, tags and volumes of the right shape, and an id unless the store
fails before that is read; a droplet that is created has a number that can be written as its id; and
so has one that is deleted, unless the deletion fails. -/
theorem operation_contained_iff (world : World σ) (now : String) (subject : Subject) (state : σ)
    (operation : Operation) :
    Contained ((operation.action now subject).run world state).result ↔
      subject.Contains world state operation := by
  cases operation with
  | observe => exact (Reconcile.run_observe world now subject state).contained_iff
  | create => exact (Reconcile.run_create world now subject state).contained_iff
  | update => exact iff_of_true (contained_ok _) ⟨fun h => absurd rfl h, fun _ _ => trivial⟩
  | delete => exact (Reconcile.run_delete world now subject state).contained_iff

/-- A droplet that is found with features that are null, unlike its tags and volumes. -/
theorem observe_null_features :
    ¬ Contained ((Operation.observe.action "09:00"
      (.record { Record.fresh "web" "ubuntu-20-04" "nyc1" "s-1vcpu-1gb" with
        externalName := "5" })).run
      (Session.world .direct (.fixed (.ok .null)) [] none)
      ⟨[(5, .table [("id", .int 5), ("features", .null), ("tags", .null),
        ("volume_ids", .null)])], 6, [], none⟩).result :=
  not_contained_misuse (.notIterable .null)

end DropletReconciler
