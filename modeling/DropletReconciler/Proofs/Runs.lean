import DropletReconciler.Pass
import DropletReconciler.Proofs.Shown

/-!
# The ways an operation can go

An operation asks the provider at most once and the store at most once, so its runs in a world are
few. Each relation below has a constructor for every way an operation can go, with the answers that
lead there, and `run_observe`, `run_create` and `run_delete` say that it can go no other way. What
holds of every run of an operation is read off these cases.
-/

namespace DropletReconciler

variable {σ : Type}

namespace Action

variable {α : Type} {world : World σ} {state after : σ}

theorem run_send {call : Call} {next : Except Fault Value → Action α} {reply : Except Fault Value}
    (hsend : world.send call state = (reply, after)) :
    (Action.send call next).run world state =
      ((next reply).run world after).after (.sent call reply) := by
  simp only [run, hsend]

theorem run_persist {record : Record} {next : Except Fault Unit → Action α}
    {answer : Except Fault Unit} (hpersist : world.persist record state = (answer, after)) :
    (Action.persist record next).run world state =
      ((next answer).run world after).after (.persisted record answer) := by
  simp only [run, hpersist]

end Action

/-- The record of a droplet that a user asks for and the provider has not seen. -/
def Record.fresh (name image region size : String) : Record where
  name := name
  externalName := ""
  parameters := ⟨image, region, size, none, none, none, none, none, none, none, none, none⟩
  providerConfig := "default"
  deletionPolicy := .delete
  observation := .none
  conditions := []
  kind := dropletKind

/-- A record that has a name at most, and no id. -/
def Record.Unbound (record : Record) : Prop :=
  record.identity = .ok .unassigned ∨ ∃ name, record.identity = .ok (.pending name)

theorem Record.not_unbound_of_assigned {record : Record} {id : Int}
    (h : record.identity = .ok (.assigned id)) : ¬ record.Unbound := by
  rintro (hunbound | ⟨name, hunbound⟩) <;> exact absurd (h.symm.trans hunbound) nofun

/-- The id of a record was read from a name, so it can be written. -/
theorem Record.isWritable_of_assigned {record : Record} {id : Int}
    (h : record.identity = .ok (.assigned id)) : (Value.int id).isWritable = true :=
  Identity.isWritable_of_parse h

theorem Record.Unbound.exists_identity {record : Record} (h : record.Unbound) :
    ∃ identity, record.identity = .ok identity := by
  obtain hunassigned | ⟨name, hpending⟩ := h
  · exact ⟨.unassigned, hunassigned⟩
  · exact ⟨.pending name, hpending⟩

namespace Reconcile

variable (world : World σ) (now : String) (subject : Subject) (state : σ)

theorem recordOf_eq_ok_iff {subject : Subject} {record : Record} :
    recordOf subject = .ok record ↔ subject = .record record ∧ record.kind = dropletKind := by
  cases subject with
  | record r =>
    by_cases hkind : r.kind = dropletKind
    · simp only [recordOf, Subject.droplet?, hkind, if_true, Except.ok.injEq,
        Subject.record.injEq]
      exact ⟨fun h => ⟨h, h ▸ hkind⟩, And.left⟩
    · simp only [recordOf, Subject.droplet?, hkind, if_false, reduceCtorEq, Subject.record.injEq,
        false_iff, not_and]
      exact fun h hr => hkind (h ▸ hr)
  | other typeName kind => simp [recordOf, Subject.droplet?]

theorem recordOf_record {record : Record} (hkind : record.kind = dropletKind) :
    recordOf (.record record) = .ok record :=
  recordOf_eq_ok_iff.mpr ⟨rfl, hkind⟩

/-- Every way to observe. -/
inductive ObserveRun : Trace σ (Except Fault Outcome) → Prop
  | refused {fault : Fault} (hrecord : recordOf subject = .error fault) :
      ObserveRun ⟨.error fault, state, []⟩
  | tooLong {record : Record} {fault : Numeral.TooLong} (hrecord : recordOf subject = .ok record)
      (hidentity : record.identity = .error fault) :
      ObserveRun ⟨.error (.tooLong fault), state, []⟩
  | unassigned {record : Record} (hrecord : recordOf subject = .ok record)
      (hidentity : record.identity = .ok .unassigned) :
      ObserveRun ⟨.ok absent, state, []⟩
  | pending {record : Record} {name : String} (hrecord : recordOf subject = .ok record)
      (hidentity : record.identity = .ok (.pending name)) :
      ObserveRun ⟨.ok absent, state, [.reported (.noId name)]⟩
  | missing {record : Record} {id : Int} {fault : Fault} {after : σ}
      (hrecord : recordOf subject = .ok record) (hidentity : record.identity = .ok (.assigned id))
      (hsend : world.send (.get (.int id)) state = (.error fault, after))
      (hmissing : fault.isMissing = true) :
      ObserveRun ⟨.ok absent, after,
        [.sent (.get (.int id)) (.error fault), .reported (.notFound id)]⟩
  | failed {record : Record} {id : Int} {fault : Fault} {after : σ}
      (hrecord : recordOf subject = .ok record) (hidentity : record.identity = .ok (.assigned id))
      (hsend : world.send (.get (.int id)) state = (.error fault, after))
      (hmissing : fault.isMissing = false) :
      ObserveRun ⟨.error (fault.inStage .observe none), after,
        [.sent (.get (.int id)) (.error fault)]⟩
  | unreadable {record : Record} {id : Int} {droplet : Value} {misuse : Value.Misuse} {after : σ}
      (hrecord : recordOf subject = .ok record) (hidentity : record.identity = .ok (.assigned id))
      (hsend : world.send (.get (.int id)) state = (.ok droplet, after))
      (hcomplete : record.parameters.completeFrom droplet = .error misuse) :
      ObserveRun ⟨.error (.misuse misuse), after, [.sent (.get (.int id)) (.ok droplet)]⟩
  | unchanged {record : Record} {id : Int} {droplet : Value} {after : σ}
      (hrecord : recordOf subject = .ok record) (hidentity : record.identity = .ok (.assigned id))
      (hsend : world.send (.get (.int id)) state = (.ok droplet, after))
      (hcomplete : record.parameters.completeFrom droplet = .ok record.parameters) :
      ObserveRun ⟨observedAs now none droplet, after, [.sent (.get (.int id)) (.ok droplet)]⟩
  | unstored {record : Record} {id : Int} {droplet : Value} {parameters : Parameters}
      {fault : Fault} {between after : σ}
      (hrecord : recordOf subject = .ok record) (hidentity : record.identity = .ok (.assigned id))
      (hsend : world.send (.get (.int id)) state = (.ok droplet, between))
      (hcomplete : record.parameters.completeFrom droplet = .ok parameters)
      (hchanged : parameters ≠ record.parameters)
      (hpersist : world.persist { record with parameters := parameters } between =
        (.error fault, after)) :
      ObserveRun ⟨.error (fault.inStage .update none), after,
        [.sent (.get (.int id)) (.ok droplet),
          .persisted { record with parameters := parameters } (.error fault)]⟩
  | stored {record : Record} {id : Int} {droplet : Value} {parameters : Parameters}
      {between after : σ}
      (hrecord : recordOf subject = .ok record) (hidentity : record.identity = .ok (.assigned id))
      (hsend : world.send (.get (.int id)) state = (.ok droplet, between))
      (hcomplete : record.parameters.completeFrom droplet = .ok parameters)
      (hchanged : parameters ≠ record.parameters)
      (hpersist : world.persist { record with parameters := parameters } between =
        (.ok (), after)) :
      ObserveRun ⟨observedAs now (some parameters) droplet, after,
        [.sent (.get (.int id)) (.ok droplet),
          .persisted { record with parameters := parameters } (.ok ()),
          .reported (.completed id)]⟩

theorem run_observe :
    ObserveRun world now subject state ((observe now subject).run world state) := by
  unfold observe
  cases hrecord : recordOf subject with
  | error fault => exact .refused hrecord
  | ok record =>
    dsimp only
    cases hidentity : record.identity with
    | error fault => exact .tooLong hrecord hidentity
    | ok identity =>
      cases identity with
      | unassigned => exact .unassigned hrecord hidentity
      | pending name =>
        dsimp only
        rw [Action.run_reporting, if_pos (Report.isWritable_noId name)]
        exact .pending hrecord hidentity
      | assigned id =>
        have hwritable := Record.isWritable_of_assigned hidentity
        dsimp only [observeId]
        rcases hsend : world.send (.get (.int id)) state with ⟨reply, after⟩
        rw [Action.run_send hsend]
        cases reply with
        | error fault =>
          dsimp only
          cases hmissing : fault.isMissing with
          | true =>
            rw [if_pos rfl, Action.run_reporting, if_pos (Report.isWritable_notFound.mpr hwritable)]
            exact .missing hrecord hidentity hsend hmissing
          | false => exact .failed hrecord hidentity hsend hmissing
        | ok droplet =>
          dsimp only [observeFound]
          cases hcomplete : record.parameters.completeFrom droplet with
          | error misuse => exact .unreadable hrecord hidentity hsend hcomplete
          | ok parameters =>
            dsimp only
            by_cases hchanged : parameters = record.parameters
            · rw [if_pos hchanged]
              exact .unchanged hrecord hidentity hsend (hchanged ▸ hcomplete)
            · rw [if_neg hchanged]
              rcases hpersist : world.persist { record with parameters := parameters } after
                with ⟨answer, last⟩
              rw [Action.run_persist hpersist]
              cases answer with
              | error fault =>
                exact .unstored hrecord hidentity hsend hcomplete hchanged hpersist
              | ok _ =>
                dsimp only
                rw [Action.run_reporting, if_pos (Report.isWritable_completed.mpr hwritable)]
                exact .stored hrecord hidentity hsend hcomplete hchanged hpersist

/-- The call that asks for the droplet of a record. -/
def creationCall (record : Record) : Call :=
  .create (record.parameters.request (nameFor record))

/-- Every way to create. -/
inductive CreateRun : Trace σ (Except Fault Outcome) → Prop
  | refused {fault : Fault} (hrecord : recordOf subject = .error fault) :
      CreateRun ⟨.error fault, state, []⟩
  | tooLong {record : Record} {fault : Numeral.TooLong} (hrecord : recordOf subject = .ok record)
      (hidentity : record.identity = .error fault) :
      CreateRun ⟨.error (.tooLong fault), state, []⟩
  | bound {record : Record} {id : Int} (hrecord : recordOf subject = .ok record)
      (hidentity : record.identity = .ok (.assigned id)) :
      CreateRun ⟨.error (.identity (.alreadyBound record.name id)), state, []⟩
  | failed {record : Record} {fault : Fault} {after : σ} (hrecord : recordOf subject = .ok record)
      (hunbound : record.Unbound)
      (hsend : world.send (creationCall record) state = (.error fault, after)) :
      CreateRun ⟨.error (fault.inStage .create (some (Patch.ofCondition (.creating now)))), after,
        [.sent (creationCall record) (.error fault)]⟩
  | nothing {record : Record} {droplet : Value} {after : σ}
      (hrecord : recordOf subject = .ok record) (hunbound : record.Unbound)
      (hsend : world.send (creationCall record) state = (.ok droplet, after))
      (hpresent : droplet.isPresent = false) :
      CreateRun ⟨.error (.nothingCreated (Patch.ofCondition (.creating now))), after,
        [.sent (creationCall record) (.ok droplet)]⟩
  | unnumbered {record : Record} {droplet : Value} {fault : Fault} {after : σ}
      (hrecord : recordOf subject = .ok record) (hunbound : record.Unbound)
      (hsend : world.send (creationCall record) state = (.ok droplet, after))
      (hpresent : droplet.isPresent = true) (haccept : acceptId droplet = .error fault) :
      CreateRun ⟨.error fault, after, [.sent (creationCall record) (.ok droplet)]⟩
  | created {record : Record} {droplet id : Value} {after : σ}
      (hrecord : recordOf subject = .ok record) (hunbound : record.Unbound)
      (hsend : world.send (creationCall record) state = (.ok droplet, after))
      (hpresent : droplet.isPresent = true) (haccept : acceptId droplet = .ok id) :
      CreateRun ⟨.ok (.created true (creation now id)), after,
        [.sent (creationCall record) (.ok droplet), .reported (.created (nameFor record) id)]⟩

theorem run_createReplied {record : Record} {reply : Except Fault Value} {after : σ}
    (hrecord : recordOf subject = .ok record) (hunbound : record.Unbound)
    (hsend : world.send (creationCall record) state = (reply, after)) :
    CreateRun world now subject state
      (((createReplied now (nameFor record) reply).run world after).after
        (.sent (creationCall record) reply)) := by
  cases reply with
  | error fault => exact .failed hrecord hunbound hsend
  | ok droplet =>
    dsimp only [createReplied]
    cases hpresent : droplet.isPresent with
    | false => exact .nothing hrecord hunbound hsend hpresent
    | true =>
      rw [if_pos rfl]
      cases haccept : acceptId droplet with
      | error fault => exact .unnumbered hrecord hunbound hsend hpresent haccept
      | ok id =>
        dsimp only
        rw [Action.run_reporting,
          if_pos (Report.isWritable_created.mpr (isWritable_of_acceptId haccept))]
        exact .created hrecord hunbound hsend hpresent haccept

theorem run_create :
    CreateRun world now subject state ((create now subject).run world state) := by
  unfold create
  cases hrecord : recordOf subject with
  | error fault => exact .refused hrecord
  | ok record =>
    dsimp only
    rcases hsend : world.send (creationCall record) state with ⟨reply, after⟩
    cases hidentity : record.identity with
    | error fault => exact .tooLong hrecord hidentity
    | ok identity =>
      cases identity with
      | unassigned =>
        dsimp only
        rw [← creationCall, Action.run_send hsend]
        exact run_createReplied world now subject state hrecord (.inl hidentity) hsend
      | pending name =>
        dsimp only
        rw [← creationCall, Action.run_send hsend]
        exact run_createReplied world now subject state hrecord (.inr ⟨name, hidentity⟩) hsend
      | assigned id => exact .bound hrecord hidentity

/-- The droplet is not there any more, now or already before. -/
def Gone : Except Fault Value → Prop
  | .ok _ => True
  | .error fault => fault.isMissing = true

/-- Every way to delete. -/
inductive DeleteRun : Trace σ (Except Fault Outcome) → Prop
  | refused {fault : Fault} (hrecord : recordOf subject = .error fault) :
      DeleteRun ⟨.error fault, state, []⟩
  | tooLong {record : Record} {fault : Numeral.TooLong} (hrecord : recordOf subject = .ok record)
      (htarget : target? record = .error fault) :
      DeleteRun ⟨.error (.tooLong fault), state, []⟩
  | untargeted {record : Record} (hrecord : recordOf subject = .ok record)
      (htarget : target? record = .ok none) :
      DeleteRun ⟨.ok (.deleted (Patch.ofCondition (.deleting now))), state,
        [.reported (.neverCreated record.name)]⟩
  | deleted {record : Record} {id reply : Value} {after : σ}
      (hrecord : recordOf subject = .ok record) (htarget : target? record = .ok (some id))
      (hsend : world.send (.delete id) state = (.ok reply, after))
      (hwritable : id.isWritable = true) :
      DeleteRun ⟨.ok (.deleted (Patch.ofCondition (.deleting now))), after,
        [.sent (.delete id) (.ok reply), .reported (.deleted id)]⟩
  | alreadyGone {record : Record} {id : Value} {fault : Fault} {after : σ}
      (hrecord : recordOf subject = .ok record) (htarget : target? record = .ok (some id))
      (hsend : world.send (.delete id) state = (.error fault, after))
      (hmissing : fault.isMissing = true) (hwritable : id.isWritable = true) :
      DeleteRun ⟨.ok (.deleted (Patch.ofCondition (.deleting now))), after,
        [.sent (.delete id) (.error fault), .reported (.alreadyGone id)]⟩
  | unwritten {record : Record} {id : Value} {reply : Except Fault Value} {after : σ}
      (hrecord : recordOf subject = .ok record) (htarget : target? record = .ok (some id))
      (hsend : world.send (.delete id) state = (reply, after)) (hgone : Gone reply)
      (hlong : id.isWritable = false) :
      DeleteRun ⟨.error .unwritten, after, [.sent (.delete id) reply]⟩
  | failed {record : Record} {id : Value} {fault : Fault} {after : σ}
      (hrecord : recordOf subject = .ok record) (htarget : target? record = .ok (some id))
      (hsend : world.send (.delete id) state = (.error fault, after))
      (hmissing : fault.isMissing = false) :
      DeleteRun ⟨.error (fault.inStage .delete (some (Patch.ofCondition (.deleting now)))), after,
        [.sent (.delete id) (.error fault)]⟩

theorem run_delete :
    DeleteRun world now subject state ((delete now subject).run world state) := by
  unfold delete
  cases hrecord : recordOf subject with
  | error fault => exact .refused hrecord
  | ok record =>
    dsimp only
    cases htarget : target? record with
    | error fault => exact .tooLong hrecord htarget
    | ok target =>
      cases target with
      | none =>
        dsimp only
        rw [Action.run_reporting, if_pos (Report.isWritable_neverCreated _)]
        exact .untargeted hrecord htarget
      | some id =>
        dsimp only [deleteId]
        rcases hsend : world.send (.delete id) state with ⟨reply, after⟩
        rw [Action.run_send hsend]
        -- Whether the id can be written is found out only after the droplet is gone.
        cases reply with
        | ok reply =>
          dsimp only
          cases hwritable : id.isWritable with
          | true =>
            rw [Action.run_reporting, if_pos (Report.isWritable_deleted.mpr hwritable)]
            exact .deleted hrecord htarget hsend hwritable
          | false =>
            rw [Action.run_reporting, if_neg (by simp [hwritable])]
            exact .unwritten hrecord htarget hsend trivial hwritable
        | error fault =>
          dsimp only
          cases hmissing : fault.isMissing with
          | false => exact .failed hrecord htarget hsend hmissing
          | true =>
            rw [if_pos rfl]
            cases hwritable : id.isWritable with
            | true =>
              rw [Action.run_reporting, if_pos (Report.isWritable_alreadyGone.mpr hwritable)]
              exact .alreadyGone hrecord htarget hsend hmissing hwritable
            | false =>
              rw [Action.run_reporting, if_neg (by simp [hwritable])]
              exact .unwritten hrecord htarget hsend hmissing hwritable

/-! ### Records that lead to a call -/

section

variable {now : String} {record : Record}

theorem observe_of_assigned {id : Int} (hkind : record.kind = dropletKind)
    (hidentity : record.identity = .ok (.assigned id)) :
    observe now (.record record) = observeId now record id := by
  simp only [observe, recordOf_record hkind, hidentity]

theorem create_of_unbound (hkind : record.kind = dropletKind) (hunbound : record.Unbound) :
    create now (.record record) =
      .send (creationCall record) (createReplied now (nameFor record)) := by
  obtain hidentity | ⟨name, hidentity⟩ := hunbound
  · simp only [create, recordOf_record hkind, hidentity, creationCall]
  · simp only [create, recordOf_record hkind, hidentity, creationCall]

theorem delete_of_target {id : Value} (hkind : record.kind = dropletKind)
    (htarget : target? record = .ok (some id)) :
    delete now (.record record) = deleteId now id := by
  simp only [delete, recordOf_record hkind, htarget]

end

end Reconcile

end DropletReconciler
