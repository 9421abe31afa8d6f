import DropletReconciler.Action
import DropletReconciler.Proofs.NameGrammar
import DropletReconciler.Proofs.PlainTemplates

/-!
# Reports that can be written

A report is written with the values it is about, and a numeral among them may be too long for that.
Then the report fails, and with it the action that wanted to make it. A report about the id of a
record never does, because that id was read from a name. An action that only reports leaves the world
alone.
-/

namespace DropletReconciler

variable {σ α β : Type}

theorem Identity.isWritable_of_parse {name : String} {id : Int}
    (h : parse name = .ok (.assigned id)) : (Value.int id).isWritable = true := by
  obtain ⟨hpos, hlength⟩ := canonical_of_parse h
  exact Value.isWritable_int.mpr ((length_toString_le_iff hpos (by decide)).mp hlength)

namespace Report

variable {r : Report}

/-- None of the values of a report is too long to be written. -/
def IsWritable (r : Report) : Prop := ∀ field ∈ r.values, field.2.isWritable = true

instance : Decidable r.IsWritable :=
  inferInstanceAs (Decidable (∀ field ∈ r.values, field.2.isWritable = true))

theorem forall_writableIn_iff :
    (∀ part ∈ r.template, part.WritableIn r.values) ↔ r.IsWritable := by
  cases r <;>
    simp [template, values, Template.Part.WritableIn, Table.get?_cons, IsWritable, and_comm]

theorem text_of_isWritable (h : r.IsWritable) : ∃ text, r.text = .ok text := by
  rw [text, format_template, Template.write_of_writable (forall_writableIn_iff.mpr h)]
  exact ⟨_, rfl⟩

theorem text_of_not_isWritable (h : ¬ r.IsWritable) :
    r.text = .error (Template.Fault.tooLong ⟨none⟩) := by
  rw [text, format_template,
    Template.write_of_not_writable fun hall => h (forall_writableIn_iff.mp hall)]
  rfl

theorem isWritable_noId (name : String) : (noId name).IsWritable := by
  simp [IsWritable, values, Value.isWritable]

theorem isWritable_neverCreated (name : String) : (neverCreated name).IsWritable := by
  simp [IsWritable, values, Value.isWritable]

@[simp]
theorem isWritable_notFound {id : Int} :
    (notFound id).IsWritable ↔ (Value.int id).isWritable = true := by
  simp [IsWritable, values]

@[simp]
theorem isWritable_completed {id : Int} :
    (completed id).IsWritable ↔ (Value.int id).isWritable = true := by
  simp [IsWritable, values]

@[simp]
theorem isWritable_created {name : String} {id : Value} :
    (created name id).IsWritable ↔ id.isWritable = true := by
  simp [IsWritable, values, Value.isWritable]

@[simp]
theorem isWritable_alreadyGone {id : Value} :
    (alreadyGone id).IsWritable ↔ id.isWritable = true := by
  simp [IsWritable, values]

@[simp]
theorem isWritable_deleted {id : Value} : (deleted id).IsWritable ↔ id.isWritable = true := by
  simp [IsWritable, values]

end Report

/-- The fault of a report that cannot be written. -/
def Fault.unwritten : Fault := .unlogged (Template.Fault.tooLong ⟨none⟩)

namespace Action

variable {line : Report}

theorem reporting_eq (line : Report) (next : Action (Except Fault α)) :
    reporting line next =
      if line.IsWritable then .report line next else .done (.error Fault.unwritten) := by
  unfold reporting
  by_cases h : line.IsWritable
  · obtain ⟨text, htext⟩ := Report.text_of_isWritable h
    rw [htext, if_pos h]
  · rw [Report.text_of_not_isWritable h, if_neg h]
    rfl

theorem run_reporting (line : Report) (result : Except Fault α) (world : World σ) (state : σ) :
    (reporting line (.done result)).run world state =
      if line.IsWritable then ⟨result, state, [.reported line]⟩
      else ⟨.error Fault.unwritten, state, []⟩ := by
  rw [reporting_eq]
  split <;> rfl

/-- An action that only reports on its way to a result. -/
inductive Idle : Action α → α → Prop
  | done (result : α) : Idle (.done result) result
  | report {line : Report} {next : Action α} {result : α} (h : Idle next result) :
      Idle (.report line next) result

theorem Idle.run {action : Action α} {result : α} (h : action.Idle result) (world : World σ)
    (state : σ) :
    (action.run world state).result = result ∧ (action.run world state).state = state := by
  induction h with
  | done result => exact ⟨rfl, rfl⟩
  | report _ ih => exact ih

/-- Whatever reports are not, the events of an idle action have none of it. -/
theorem Idle.filterMap_events {action : Action α} {result : α} (h : action.Idle result)
    (world : World σ) (state : σ) {f : Event → Option β} (hf : ∀ line, f (.reported line) = none) :
    (action.run world state).events.filterMap f = [] := by
  induction h with
  | done result => rfl
  | report _ ih => rw [Action.run, Trace.after, List.filterMap_cons_none (hf _), ih]

theorem Idle.reporting {next : Action (Except Fault α)} {result : Except Fault α}
    (h : next.Idle result) (line : Report) :
    (reporting line next).Idle (if line.IsWritable then result else .error Fault.unwritten) := by
  rw [reporting_eq]
  by_cases hwritable : line.IsWritable
  · rw [if_pos hwritable, if_pos hwritable]
    exact .report h
  · rw [if_neg hwritable, if_neg hwritable]
    exact .done _

end Action

end DropletReconciler
