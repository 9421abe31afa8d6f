import DropletReconciler.Proofs.Effects
import DropletReconciler.Proofs.Passes
import DropletReconciler.Session

/-!
# At most one droplet for a record

However often a record is observed, created, updated and deleted, and whatever the provider answers,
a pass makes at most one droplet. Only a creation that returns writes an external name, only a record
without an id asks for a droplet, and the name that a creation writes is read back as an id.
-/

namespace DropletReconciler

variable {σ : Type} {world : World σ}

/-- The droplet that the provider made for a call. -/
def Event.created? : Event → Option Value
  | .sent (.create _) (.ok droplet) => some droplet
  | _ => none

/-- The droplets that the provider made in a turn. -/
def Taken.created (taken : Taken) : List Value := taken.events.filterMap Event.created?

theorem Taken.mem_created_iff {taken : Taken} {droplet : Value} :
    droplet ∈ taken.created ↔ ∃ request, .sent (.create request) (.ok droplet) ∈ taken.events := by
  rw [created, List.mem_filterMap]
  constructor
  · rintro ⟨event, hevent, hdroplet⟩
    unfold Event.created? at hdroplet
    split at hdroplet
    · cases hdroplet
      exact ⟨_, hevent⟩
    · cases hdroplet
  · rintro ⟨request, hevent⟩
    exact ⟨_, hevent, rfl⟩

/-! ### One turn -/

section Turn

variable {taken : Taken} {droplet : Value}

theorem Record.identity_congr {r s : Record} (h : r.externalName = s.externalName) :
    r.identity = s.identity := by
  rw [Record.identity, h, Record.identity]

theorem Taken.Genuine.unbound_of_sent_create (h : taken.Genuine world) {request : Table}
    {reply : Except Fault Value} (hsent : .sent (.create request) reply ∈ taken.events) :
    taken.turn.operation = .create ∧ taken.record.Unbound := by
  obtain ⟨id, -, -, hcall⟩ | ⟨hoperation, hunbound, -⟩ | ⟨id, -, -, hcall⟩ := h.sent hsent
  · cases hcall
  · exact ⟨hoperation, hunbound⟩
  · cases hcall

theorem Taken.Genuine.externalName_settled (h : taken.Genuine world) (hnone : taken.created = []) :
    taken.settled.externalName = taken.record.externalName := by
  obtain ⟨patch, hleft, hsettled⟩ := h.left
  rw [hsettled]
  cases hleft with
  | nothing | observed | creating | deleting => rfl
  | @created droplet id hsent haccept =>
    have hmem : droplet ∈ taken.created := Taken.mem_created_iff.mpr ⟨_, hsent⟩
    rw [hnone] at hmem
    cases hmem

/-- The droplet that a turn makes is the only one, and the record is named after it. -/
theorem Taken.Genuine.identity_of_created (h : taken.Genuine world)
    (hcreated : droplet ∈ taken.created) (hnumbered : droplet.Numbered) :
    taken.created = [droplet] ∧
      ∃ id, droplet.ShowsId id ∧ taken.settled.identity = .ok (.assigned id) := by
  obtain ⟨request, hsent⟩ := Taken.mem_created_iff.mp hcreated
  have hoperation := (h.unbound_of_sent_create hsent).1
  obtain ⟨state, trace, hrun, hresult, hevents⟩ := h
  rw [TurnRun, hoperation] at hrun
  rw [hevents] at hsent
  obtain ⟨id, hid, hpos, hshort⟩ := hnumbered
  obtain ⟨hcreation, honly⟩ :=
    hrun.created_of_sent hsent (Reconcile.acceptId_of_showsId hid hpos hshort)
  refine ⟨?_, id, hid, ?_⟩
  · rw [created, hevents, honly]
    rfl
  · rw [settled, Record.settle, hresult, hcreation]
    exact Identity.parse_toString hpos hshort

end Turn

/-! ### A whole pass -/

theorem Taken.Genuine.created_eq_nil {taken : Taken} (h : taken.Genuine world) {id : Int}
    (hassigned : taken.record.identity = .ok (.assigned id)) : taken.created = [] := by
  rw [List.eq_nil_iff_forall_not_mem]
  intro droplet hdroplet
  obtain ⟨request, hsent⟩ := Taken.mem_created_iff.mp hdroplet
  exact Record.not_unbound_of_assigned hassigned (h.unbound_of_sent_create hsent).2

variable {turns : List Turn} {record : Record} {state : σ}

/-- A record that has an id keeps it through a whole pass, and nothing is asked for. -/
theorem pass_of_assigned {id : Int} (hassigned : record.identity = .ok (.assigned id)) :
    ∀ taken ∈ (pass world turns record state).1, taken.record.identity = .ok (.assigned id) ∧
      taken.settled.identity = .ok (.assigned id) ∧
      ∀ request reply, .sent (.create request) reply ∉ taken.events := by
  intro taken htaken
  obtain ⟨hbefore, hafter⟩ :=
    pass_invariant (P := fun r => r.identity = .ok (.assigned id)) hassigned
      (fun taken htaken hrecord => by
        have hgenuine := genuine_of_mem_pass htaken
        have hname := hgenuine.externalName_settled (hgenuine.created_eq_nil hrecord)
        rwa [Record.identity_congr hname]) taken htaken
  refine ⟨hbefore, hafter, fun request reply hsent => ?_⟩
  exact Record.not_unbound_of_assigned hbefore
    ((genuine_of_mem_pass htaken).unbound_of_sent_create hsent).2

theorem pass_created_le_one
    (hnumbered : ∀ taken ∈ (pass world turns record state).1, ∀ droplet ∈ taken.created,
      droplet.Numbered) :
    ((pass world turns record state).1.flatMap Taken.created).length ≤ 1 := by
  induction turns generalizing record state with
  | nil => exact Nat.zero_le 1
  | cons turn rest ih =>
    obtain ⟨first, later, hgenuine, -, hpass⟩ := pass_cons world turn rest record state
    rw [hpass] at hnumbered ⊢
    rw [List.flatMap_cons]
    cases hcreated : first.created with
    | nil =>
      rw [List.nil_append]
      exact ih fun taken htaken => hnumbered taken (List.mem_cons_of_mem _ htaken)
    | cons droplet others =>
      have hdroplet : droplet ∈ first.created := by
        rw [hcreated]
        exact List.mem_cons_self
      obtain ⟨hone, id, -, hidentity⟩ :=
        hgenuine.identity_of_created hdroplet (hnumbered first List.mem_cons_self droplet hdroplet)
      -- Every turn behind the creation finds a record with an id.
      have hnone : (pass world rest first.settled later).1.flatMap Taken.created = [] := by
        rw [List.flatMap_eq_nil_iff]
        intro taken htaken
        exact (genuine_of_mem_pass htaken).created_eq_nil (pass_of_assigned hidentity taken htaken).1
      rw [hnone, List.append_nil, ← hcreated, hone]
      exact Nat.le_refl 1

/-- From the turn that makes a droplet on, the record has its id and asks for no other. -/
theorem pass_of_created {before after : List Taken} {taken : Taken} {droplet : Value}
    (hsplit : (pass world turns record state).1 = before ++ taken :: after)
    (hdroplet : droplet ∈ taken.created) (hnumbered : droplet.Numbered) :
    ∃ id, droplet.ShowsId id ∧ taken.settled.identity = .ok (.assigned id) ∧
      ∀ later ∈ after, later.record.identity = .ok (.assigned id) ∧
        later.settled.identity = .ok (.assigned id) ∧
        ∀ request reply, .sent (.create request) reply ∉ later.events := by
  obtain ⟨hgenuine, rest, between, hafter⟩ := pass_split hsplit
  obtain ⟨-, id, hid, hidentity⟩ := hgenuine.identity_of_created hdroplet hnumbered
  refine ⟨id, hid, hidentity, ?_⟩
  rw [hafter]
  exact pass_of_assigned hidentity

/-- **At most one droplet, and never an orphan.** A pass makes at most one droplet, provided that
every droplet it makes shows an id that an external name can hold. From the turn that makes it on,
the record has the id of the droplet and no other droplet is asked for; and so the droplet is the
one that the record names in the end. -/
theorem pass_makes_one_droplet (world : World σ) (turns : List Turn) (record : Record) (state : σ)
    (hnumbered : ∀ taken ∈ (pass world turns record state).1, ∀ droplet ∈ taken.created,
      droplet.Numbered) :
    ((pass world turns record state).1.flatMap Taken.created).length ≤ 1 ∧
      (∀ before taken after, (pass world turns record state).1 = before ++ taken :: after →
        ∀ droplet ∈ taken.created, ∃ id, droplet.ShowsId id ∧
          taken.settled.identity = .ok (.assigned id) ∧
          ∀ later ∈ after, later.record.identity = .ok (.assigned id) ∧
            later.settled.identity = .ok (.assigned id) ∧
            ∀ request reply, .sent (.create request) reply ∉ later.events) ∧
      ∀ droplet ∈ (pass world turns record state).1.flatMap Taken.created, ∃ id,
        droplet.ShowsId id ∧
          (record.through (pass world turns record state).1).identity = .ok (.assigned id) := by
  refine ⟨pass_created_le_one hnumbered, ?_, ?_⟩
  · intro before taken after hsplit droplet hdroplet
    have htaken : taken ∈ (pass world turns record state).1 := by
      rw [hsplit]
      exact List.mem_append_right _ List.mem_cons_self
    exact pass_of_created hsplit hdroplet (hnumbered taken htaken droplet hdroplet)
  · intro droplet hdroplet
    obtain ⟨taken, htaken, hdroplet⟩ := List.mem_flatMap.mp hdroplet
    obtain ⟨before, after, hsplit⟩ := List.append_of_mem htaken
    obtain ⟨id, hid, hidentity, hlater⟩ :=
      pass_of_created hsplit hdroplet (hnumbered taken htaken droplet hdroplet)
    refine ⟨id, hid, ?_⟩
    rw [hsplit, Record.through_append]
    exact Record.through_of_forall (P := fun r => r.identity = .ok (.assigned id)) hidentity
      fun later h => (hlater later h).2.1

/-- The turns of a creation that times out at first and is repeated until after it succeeded. -/
def retriedPass : List Taken :=
  (pass (Session.world .direct (.fixed (.ok .null)) [] none)
    [⟨.observe, "09:00"⟩, ⟨.create, "09:01"⟩, ⟨.create, "09:02"⟩, ⟨.create, "09:03"⟩,
      ⟨.observe, "09:04"⟩, ⟨.delete, "09:05"⟩, ⟨.create, "09:06"⟩]
    (Record.fresh "web" "ubuntu-20-04" "nyc1" "s-1vcpu-1gb")
    ⟨[], 123456, [.raises (.raised .timeout "timed out" none)], none⟩).1

theorem created_retriedPass :
    retriedPass.flatMap Taken.created = [Cloud.newDroplet 123456 (.text "web")] := by
  decide +kernel

theorem numbered_retriedPass :
    ∀ taken ∈ retriedPass, ∀ droplet ∈ taken.created, droplet.Numbered := by
  intro taken htaken droplet hdroplet
  have hmem := List.mem_flatMap.mpr ⟨taken, htaken, hdroplet⟩
  rw [created_retriedPass, List.mem_singleton] at hmem
  rw [hmem]
  exact ⟨123456, rfl, by decide, by decide +kernel⟩

theorem retriedPass_makes_one_droplet :
    (∀ taken ∈ retriedPass, ∀ droplet ∈ taken.created, droplet.Numbered) ∧
      retriedPass.flatMap Taken.created = [Cloud.newDroplet 123456 (.text "web")] ∧
      ((Record.fresh "web" "ubuntu-20-04" "nyc1" "s-1vcpu-1gb").through retriedPass).identity =
        .ok (.assigned 123456) := by
  refine ⟨numbered_retriedPass, created_retriedPass, ?_⟩
  obtain ⟨-, -, hnamed⟩ := pass_makes_one_droplet _ _ _ _ numbered_retriedPass
  have hmade : Cloud.newDroplet 123456 (.text "web") ∈ retriedPass.flatMap Taken.created := by
    rw [created_retriedPass]
    exact List.mem_cons_self
  obtain ⟨id, hid, hidentity⟩ := hnamed _ hmade
  obtain rfl : (123456 : Int) = id := Value.int.inj (hid.eq_int rfl)
  exact hidentity

end DropletReconciler
