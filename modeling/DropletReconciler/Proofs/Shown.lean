import DropletReconciler.Proofs.Reports
import DropletReconciler.Reconcile

/-!
# What a droplet shows

The provider's data comes untyped, so a droplet may show anything as its id, or nothing. What a
creation accepts is any positive number; what an external name can hold is a whole one. What an
observation keeps is the id as it is, with two fields that may be missing.
-/

namespace DropletReconciler

/-- A droplet with an id that is a whole number. -/
def Value.ShowsId (droplet : Value) (id : Int) : Prop := droplet.field "id" = .ok (.int id)

/-- A droplet with an id that an external name can hold. -/
def Value.Numbered (droplet : Value) : Prop :=
  ∃ id : Int, droplet.ShowsId id ∧ 0 < id ∧ id.natAbs < Nat.pow 10 Numeral.maxDigits

theorem Value.ShowsId.eq_int {droplet id : Value} {shown : Int} (h : droplet.ShowsId shown)
    (hfield : droplet.field "id" = .ok id) : id = .int shown :=
  Except.ok.inj (hfield.symm.trans h)

theorem Value.field_table_eq_ok_iff {fields : Table} {key : String} {value : Value} :
    (Value.table fields).field key = .ok value ↔ Table.get? key fields = some value := by
  simp only [Value.field]
  cases Table.get? key fields with
  | none => simp only [reduceCtorEq]
  | some found => simp only [Except.ok.injEq, Option.some.injEq]

theorem Value.isPresent_of_field_eq_ok {v field : Value} {key : String}
    (h : v.field key = .ok field) : v.isPresent = true := by
  cases v with
  | table fields =>
    cases fields with
    | nil => cases h
    | cons entry rest => rfl
  | _ => cases h

/-- An observation takes a droplet that has an id. -/
theorem Observation.ofDroplet_eq_ok_iff {droplet : Value} {observation : Observation} :
    Observation.ofDroplet droplet = .ok observation ↔
      droplet.field "id" = .ok observation.id ∧
        (∃ created, droplet.get? "created_at" = .ok created ∧
          observation.created = created.getD (.text "")) ∧
        ∃ status, droplet.get? "status" = .ok status ∧
          observation.status = status.getD (.text "") := by
  unfold Observation.ofDroplet
  constructor
  · intro h
    cases hid : droplet.field "id" with
    | error misuse =>
      rw [hid] at h
      cases h
    | ok id =>
      cases hcreated : droplet.get? "created_at" with
      | error misuse =>
        rw [hid, hcreated] at h
        cases h
      | ok created =>
        cases hstatus : droplet.get? "status" with
        | error misuse =>
          rw [hid, hcreated, hstatus] at h
          cases h
        | ok status =>
          rw [hid, hcreated, hstatus] at h
          cases h
          exact ⟨rfl, ⟨created, rfl, rfl⟩, status, rfl, rfl⟩
  · rintro ⟨hid, ⟨created, hcreated, hcreated'⟩, status, hstatus, hstatus'⟩
    rw [hid, hcreated, hstatus]
    obtain ⟨id, c, t⟩ := observation
    cases hcreated'
    cases hstatus'
    rfl

namespace Reconcile

theorem observedAs_eq_ok_iff {now : String} {completed : Option Parameters} {droplet : Value}
    {outcome : Outcome} :
    observedAs now completed droplet = .ok outcome ↔
      ∃ observation, Observation.ofDroplet droplet = .ok observation ∧
        outcome = .observed true true
          { externalName := none, parameters := completed, observation := some observation
            conditions := conditionsFor now observation.status } := by
  unfold observedAs
  cases Observation.ofDroplet droplet with
  | error misuse => simp only [reduceCtorEq, false_and, exists_false]
  | ok observation => simp only [Except.ok.injEq, exists_eq_left', eq_comm]

theorem observedAs_table_eq_error_iff {now : String} {completed : Option Parameters}
    {fields : Table} {fault : Fault} :
    observedAs now completed (.table fields) = .error fault ↔
      Table.get? "id" fields = none ∧ fault = .misuse (.missingKey (.text "id")) := by
  simp only [observedAs, Observation.ofDroplet, Value.field, Value.get?]
  cases Table.get? "id" fields with
  | none => exact ⟨fun h => ⟨rfl, (Except.error.inj h).symm⟩, fun h => congrArg _ h.2.symm⟩
  | some id => exact ⟨nofun, nofun⟩

theorem acceptId_eq_ok_iff {droplet id : Value} :
    acceptId droplet = .ok id ↔
      droplet.field "id" = .ok id ∧ id.leInt 0 = .ok false ∧
        ∃ written, id.writeScalar = .ok written := by
  unfold acceptId
  constructor
  · intro h
    cases hfield : droplet.field "id" with
    | error misuse =>
      rw [hfield] at h
      cases h
    | ok shown =>
      simp only [hfield] at h
      split at h
      · cases h
      · cases h
      · cases h
      · rename_i written hle hwrite
        cases h
        exact ⟨rfl, hle, written, hwrite⟩
  · rintro ⟨hfield, hle, written, hwrite⟩
    simp only [hfield, hle, hwrite]

theorem acceptId_of_showsId {droplet : Value} {id : Int} (hid : droplet.ShowsId id)
    (hpos : 0 < id) (hshort : id.natAbs < Nat.pow 10 Numeral.maxDigits) :
    acceptId droplet = .ok (.int id) := by
  have hle : (Value.int id).leInt 0 = .ok false := by
    simp only [Value.leInt, Except.ok.injEq, decide_eq_false_iff_not]
    omega
  exact acceptId_eq_ok_iff.mpr
    ⟨hid, hle, toString id, Numeral.write_eq_ok_iff.mpr ⟨hshort, rfl⟩⟩

theorem isWritable_of_acceptId {droplet id : Value} (h : acceptId droplet = .ok id) :
    id.isWritable = true := by
  obtain ⟨-, hle, written, hwrite⟩ := acceptId_eq_ok_iff.mp h
  cases id with
  | int n => exact Value.isWritable_int.mpr (Numeral.write_eq_ok_iff.mp hwrite).1
  | bool | float => rfl
  | null | text | moment | list | table => cases hle

/-- An id is refused for its sign, for its sort, or for its length. -/
theorem acceptId_eq_error {droplet : Value} {fault : Fault} (h : acceptId droplet = .error fault) :
    (∃ written, fault = .identity (.notPositive written)) ∨
      (∃ misuse, fault = .misuse misuse) ∨ ∃ tooLong, fault = .tooLong tooLong := by
  unfold acceptId at h
  split at h
  · cases h
    exact .inr (.inl ⟨_, rfl⟩)
  · split at h
    · cases h
      exact .inr (.inl ⟨_, rfl⟩)
    · cases h
      exact .inr (.inr ⟨_, rfl⟩)
    · cases h
      exact .inl ⟨_, rfl⟩
    · cases h

theorem patch?_of_acceptId_eq_error {droplet : Value} {fault : Fault}
    (h : acceptId droplet = .error fault) : fault.patch? = none := by
  obtain ⟨written, rfl⟩ | ⟨misuse, rfl⟩ | ⟨tooLong, rfl⟩ := acceptId_eq_error h <;> rfl

end Reconcile

end DropletReconciler
