import DropletReconciler.Proofs.Passes
import DropletReconciler.Session

/-!
# A record deletes its own droplet

A record learns an id twice: as its external name when it is created, and in what is observed of the
droplet. A deletion goes by what was observed, so the two must not drift apart. They do not: a
creation names the record before anything is observed, and an observation looks up the id that the
record is assigned to.
-/

namespace DropletReconciler

variable {σ : Type} {world : World σ}

/-- What was observed, if anything, is the droplet that the record is assigned to. -/
def Record.Consistent (record : Record) : Prop :=
  record.observation.id = .null ∨
    ∃ id, record.observation.id = .int id ∧ record.identity = .ok (.assigned id)

/-- A droplet that is found under an id shows that id. -/
def Event.Honest : Event → Prop
  | .sent (.get id) (.ok droplet) => droplet.field "id" = .ok id
  | _ => True

instance : DecidablePred Event.Honest
  | .sent (.get id) (.ok droplet) =>
    decidable_of_iff ((droplet.field "id").toOption = some id) <| by
      cases hfield : droplet.field "id" <;> simp [Event.Honest, Except.toOption, hfield]
  | .sent (.get _) (.error _) => isTrue trivial
  | .sent (.create _) _ => isTrue trivial
  | .sent (.delete _) _ => isTrue trivial
  | .sent .close _ => isTrue trivial
  | .persisted _ _ => isTrue trivial
  | .asked _ _ => isTrue trivial
  | .adopted _ => isTrue trivial
  | .reported _ => isTrue trivial

theorem Record.Consistent.id_eq_null {record : Record} (h : record.Consistent)
    (hunbound : record.Unbound) : record.observation.id = .null := by
  obtain hnull | ⟨id, -, hassigned⟩ := h
  · exact hnull
  · exact absurd hunbound (Record.not_unbound_of_assigned hassigned)

/-- The target of a deletion is the id that the record is assigned to. -/
theorem Record.Consistent.target {record : Record} (h : record.Consistent) {target : Value}
    (htarget : Reconcile.target? record = .ok (some target)) :
    ∃ id, record.identity = .ok (.assigned id) ∧ target = .int id := by
  unfold Reconcile.target? at htarget
  obtain hnull | ⟨id, hid, hassigned⟩ := h
  · rw [if_pos hnull] at htarget
    split at htarget
    · cases htarget
    · rename_i id hassigned
      cases htarget
      exact ⟨id, hassigned, rfl⟩
    · cases htarget
  · rw [hid, if_neg nofun] at htarget
    cases htarget
    exact ⟨id, hassigned, rfl⟩

/-- A turn keeps what was observed and the identity together. -/
theorem Taken.Genuine.consistent_settled {taken : Taken} (h : taken.Genuine world)
    (hhonest : ∀ event ∈ taken.events, event.Honest) (hconsistent : taken.record.Consistent) :
    taken.settled.Consistent := by
  obtain ⟨patch, hleft, hsettled⟩ := h.left
  rw [hsettled]
  cases hleft with
  | nothing | creating | deleting => exact hconsistent
  | @observed id droplet completed observation hidentity hsent hobservation =>
    have hshown : droplet.field "id" = .ok (.int id) := hhonest _ hsent
    have hid := (Observation.ofDroplet_eq_ok_iff.mp hobservation).1
    exact .inr ⟨id, Except.ok.inj (hid.symm.trans hshown), hidentity⟩
  | created hsent haccept =>
    obtain ⟨id, -, -, hcall⟩ | ⟨-, hunbound, -⟩ | ⟨id, -, -, hcall⟩ := h.sent hsent
    · cases hcall
    · exact .inl (hconsistent.id_eq_null hunbound)
    · cases hcall

/-- **A record deletes its own droplet.** Where what was observed and the identity of a record agree
at first, they agree through every pass in which a droplet that is found shows the id it was looked
up by. So every deletion is for the id that the record is assigned to at that moment, and a record
without an id deletes nothing. -/
theorem pass_deletes_own_droplet (world : World σ) (turns : List Turn) (record : Record)
    (state : σ) (hstart : record.Consistent)
    (hhonest : ∀ taken ∈ (pass world turns record state).1, ∀ event ∈ taken.events,
      event.Honest) :
    (∀ taken ∈ (pass world turns record state).1,
        taken.record.Consistent ∧ taken.settled.Consistent) ∧
      (∀ taken ∈ (pass world turns record state).1, ∀ target reply,
        .sent (.delete target) reply ∈ taken.events →
          ∃ id, taken.record.identity = .ok (.assigned id) ∧ target = .int id) ∧
      ∀ taken ∈ (pass world turns record state).1, taken.record.Unbound →
        ∀ target reply, .sent (.delete target) reply ∉ taken.events := by
  have hconsistent := pass_invariant (P := Record.Consistent) hstart fun taken htaken =>
    (genuine_of_mem_pass htaken).consistent_settled (hhonest taken htaken)
  have hown : ∀ taken ∈ (pass world turns record state).1, ∀ target reply,
      .sent (.delete target) reply ∈ taken.events →
        ∃ id, taken.record.identity = .ok (.assigned id) ∧ target = .int id := by
    intro taken htaken target reply hsent
    obtain ⟨id, -, -, hcall⟩ | ⟨-, -, hcall⟩ | ⟨id, -, htarget, hcall⟩ :=
      (genuine_of_mem_pass htaken).sent hsent
    · cases hcall
    · cases hcall
    · cases hcall
      exact (hconsistent taken htaken).1.target htarget
  refine ⟨hconsistent, hown, ?_⟩
  intro taken htaken hunbound target reply hsent
  obtain ⟨id, hassigned, -⟩ := hown taken htaken target reply hsent
  exact Record.not_unbound_of_assigned hassigned hunbound

/-- The turns of a droplet that is created beside another one, observed, and deleted twice. -/
def ownedPass : List Taken :=
  (pass (Session.world .direct (.fixed (.ok .null)) [] none)
    [⟨.delete, "09:00"⟩, ⟨.create, "09:01"⟩, ⟨.observe, "09:02"⟩, ⟨.delete, "09:03"⟩,
      ⟨.delete, "09:04"⟩]
    (Record.fresh "web" "ubuntu-20-04" "nyc1" "s-1vcpu-1gb")
    ⟨[(5, Cloud.newDroplet 5 (.text "db"))], 6, [], none⟩).1

theorem honest_ownedPass : ∀ taken ∈ ownedPass, ∀ event ∈ taken.events, event.Honest := by
  decide +kernel

theorem ownedPass_deletes_own_droplet :
    (Record.fresh "web" "ubuntu-20-04" "nyc1" "s-1vcpu-1gb").Consistent ∧
      (∀ taken ∈ ownedPass, ∀ event ∈ taken.events, event.Honest) ∧
      (ownedPass.flatMap fun taken => taken.events.filterMap Event.call?).getLast? =
        some (.delete (.int 6)) ∧
      (∀ taken ∈ ownedPass, ∀ target reply, .sent (.delete target) reply ∈ taken.events →
        ∃ id, taken.record.identity = .ok (.assigned id) ∧ target = .int id) ∧
      ∀ taken ∈ ownedPass, taken.settled.Consistent := by
  have hstart : (Record.fresh "web" "ubuntu-20-04" "nyc1" "s-1vcpu-1gb").Consistent := .inl rfl
  obtain ⟨hconsistent, hown, -⟩ := pass_deletes_own_droplet _ _ _ _ hstart honest_ownedPass
  refine ⟨hstart, honest_ownedPass, by decide +kernel, hown, ?_⟩
  exact fun taken htaken => (hconsistent taken htaken).2

end DropletReconciler
