import DropletReconciler.Proofs.Completion
import DropletReconciler.Proofs.Passes
import Mathlib.Data.List.Chain

/-!
# What a user asks for is not rewritten

A record says what its user wants, and the provider has its own view. The provider's view fills in
what the user left open; whatever has a value keeps it, through any number of turns. `Record.Keeps`
compares two states of a record in this respect. What is handed to the store keeps what the user wants
in the same way as what the operations leave behind.
-/

namespace DropletReconciler

/-- Parameters that differ from others in what those leave open, and nowhere else. -/
structure Parameters.Keeps (p q : Parameters) : Prop where
  image : q.image = p.image
  region : q.region = p.region
  size : q.size = p.size
  withDropletAgent : q.withDropletAgent = p.withDropletAgent
  sshKeys : q.sshKeys = p.sshKeys
  backups : ∀ flag ∈ p.backups, flag ∈ q.backups
  ipv6 : ∀ flag ∈ p.ipv6, flag ∈ q.ipv6
  monitoring : ∀ flag ∈ p.monitoring, flag ∈ q.monitoring
  privateNetworking : ∀ flag ∈ p.privateNetworking, flag ∈ q.privateNetworking
  tags : ∀ texts ∈ p.tags, texts ∈ q.tags
  volumes : ∀ texts ∈ p.volumes, texts ∈ q.volumes
  vpcUuid : ∀ value ∈ p.vpcUuid, value ∈ q.vpcUuid

/-- A later state of a record in which everything that the user wants is still wanted. -/
structure Record.Keeps (r s : Record) : Prop where
  name : s.name = r.name
  kind : s.kind = r.kind
  providerConfig : s.providerConfig = r.providerConfig
  deletionPolicy : s.deletionPolicy = r.deletionPolicy
  parameters : r.parameters.Keeps s.parameters

/-! ### Parameters -/

namespace Parameters

variable {p q r : Parameters} {observed : Value}

theorem Keeps.refl (p : Parameters) : p.Keeps p :=
  ⟨rfl, rfl, rfl, rfl, rfl, fun _ => id, fun _ => id, fun _ => id, fun _ => id, fun _ => id,
    fun _ => id, fun _ => id⟩

theorem Keeps.trans (hpq : p.Keeps q) (hqr : q.Keeps r) : p.Keeps r where
  image := hqr.image.trans hpq.image
  region := hqr.region.trans hpq.region
  size := hqr.size.trans hpq.size
  withDropletAgent := hqr.withDropletAgent.trans hpq.withDropletAgent
  sshKeys := hqr.sshKeys.trans hpq.sshKeys
  backups flag h := hqr.backups flag (hpq.backups flag h)
  ipv6 flag h := hqr.ipv6 flag (hpq.ipv6 flag h)
  monitoring flag h := hqr.monitoring flag (hpq.monitoring flag h)
  privateNetworking flag h := hqr.privateNetworking flag (hpq.privateNetworking flag h)
  tags texts h := hqr.tags texts (hpq.tags texts h)
  volumes texts h := hqr.volumes texts (hpq.volumes texts h)
  vpcUuid value h := hqr.vpcUuid value (hpq.vpcUuid value h)

theorem mem_flagFrom {current : Option Bool} {flag : Bool} (hflag : flag ∈ current)
    (features : Option (List Value)) (feature : String) :
    flag ∈ flagFrom features feature current := by
  obtain rfl := hflag
  rfl

theorem mem_of_textsFrom {key : String} {current completed : Option (List String)}
    (h : textsFrom observed key current = .ok completed) : ∀ texts ∈ current, texts ∈ completed := by
  rintro texts rfl
  exact Except.ok.inj h.symm

theorem mem_of_valueFrom {key : String} {current completed : Option Value}
    (h : valueFrom observed key current = .ok completed) : ∀ value ∈ current, value ∈ completed := by
  rintro value rfl
  exact Except.ok.inj h.symm

theorem keeps_of_completeFrom (h : p.completeFrom observed = .ok q) : p.Keeps q := by
  obtain ⟨features, tags, volumes, vpcUuid, -, htags, hvolumes, hvpcUuid, rfl⟩ :=
    completeFrom_eq_ok_iff.mp h
  exact
    { image := rfl
      region := rfl
      size := rfl
      withDropletAgent := rfl
      sshKeys := rfl
      backups := fun _ hflag => mem_flagFrom hflag features "backups"
      ipv6 := fun _ hflag => mem_flagFrom hflag features "ipv6"
      monitoring := fun _ hflag => mem_flagFrom hflag features "monitoring"
      privateNetworking := fun _ hflag => mem_flagFrom hflag features "private_networking"
      tags := mem_of_textsFrom htags
      volumes := mem_of_textsFrom hvolumes
      vpcUuid := mem_of_valueFrom hvpcUuid }

end Parameters

/-! ### Records -/

namespace Record

variable {r s t : Record}

theorem Keeps.trans (hrs : r.Keeps s) (hst : s.Keeps t) : r.Keeps t where
  name := hst.name.trans hrs.name
  kind := hst.kind.trans hrs.kind
  providerConfig := hst.providerConfig.trans hrs.providerConfig
  deletionPolicy := hst.deletionPolicy.trans hrs.deletionPolicy
  parameters := hrs.parameters.trans hst.parameters

instance : Trans Keeps Keeps Keeps := ⟨Keeps.trans⟩

theorem keeps_with_parameters {parameters : Parameters} (h : r.parameters.Keeps parameters) :
    r.Keeps { r with parameters := parameters } :=
  ⟨rfl, rfl, rfl, rfl, h⟩

/-- A change to a record keeps what its parameters keep: it has no say in the rest. -/
theorem keeps_apply {patch : Patch}
    (h : ∀ parameters ∈ patch.parameters, r.parameters.Keeps parameters) :
    r.Keeps (patch.apply r) := by
  refine ⟨rfl, rfl, rfl, rfl, ?_⟩
  change r.parameters.Keeps (patch.parameters.getD r.parameters)
  cases hparameters : patch.parameters with
  | none => exact .refl r.parameters
  | some parameters => exact h parameters hparameters

end Record

/-! ### Turns -/

section Turn

variable {σ : Type} {world : World σ} {taken : Taken}

theorem Taken.Genuine.keeps_settled (h : taken.Genuine world) : taken.record.Keeps taken.settled := by
  obtain ⟨patch, hleft, hsettled⟩ := h.left
  rw [hsettled]
  apply Record.keeps_apply
  intro parameters hparameters
  cases hleft with
  | nothing | creating | created | deleting => cases hparameters
  | observed _ _ _ hcompleted =>
    exact Parameters.keeps_of_completeFrom (hcompleted parameters hparameters)

theorem Taken.Genuine.keeps_persisted (h : taken.Genuine world) {stored : Record}
    {answer : Except Fault Unit} (hpersisted : .persisted stored answer ∈ taken.events) :
    taken.record.Keeps stored ∧ stored = { taken.record with parameters := stored.parameters } := by
  obtain ⟨droplet, parameters, hcomplete, rfl⟩ := h.persisted hpersisted
  have hkeeps := Parameters.keeps_of_completeFrom hcomplete
  exact ⟨Record.keeps_with_parameters hkeeps, rfl⟩

/-- Only a creation that returns gives a record another external name. -/
theorem Taken.Genuine.created_of_externalName_ne (h : taken.Genuine world)
    (hne : taken.settled.externalName ≠ taken.record.externalName) :
    taken.turn.operation = .create ∧ ∃ outcome, taken.result = .ok outcome := by
  obtain ⟨patch, hleft, hsettled⟩ := h.left
  rw [hsettled] at hne
  cases hleft with
  | nothing | observed | creating | deleting => exact absurd rfl hne
  | created hsent haccept =>
    obtain ⟨id, -, -, hcall⟩ | ⟨hoperation, -, -⟩ | ⟨id, -, -, hcall⟩ := h.sent hsent
    · cases hcall
    · obtain ⟨state, trace, hrun, hresult, hevents⟩ := h
      rw [TurnRun, hoperation] at hrun
      rw [hevents] at hsent
      have hcreated := (hrun.created_of_sent hsent haccept).1
      exact ⟨hoperation, _, hresult.trans hcreated⟩
    · cases hcall

end Turn

/-! ### Passes -/

/-- The states of a record during a pass: the first one, and the one that each turn left. -/
def Record.states (record : Record) (run : List Taken) : List Record :=
  record :: run.map Taken.settled

variable {σ : Type}

theorem isChain_states (world : World σ) (turns : List Turn) (record : Record) (state : σ) :
    (record.states (pass world turns record state).1).IsChain Record.Keeps := by
  induction turns generalizing record state with
  | nil => exact List.isChain_singleton record
  | cons turn rest ih =>
    obtain ⟨first, later, hgenuine, rfl, hpass⟩ := pass_cons world turn rest record state
    rw [hpass]
    exact List.isChain_cons_cons.mpr ⟨hgenuine.keeps_settled, ih first.settled later⟩

/-- **What a user asks for is not rewritten.** In any two states of a record during a pass, the later
one keeps what was wanted in the earlier one: its name and kind, its account and deletion policy, and
every parameter that has a value. An external name changes only in a creation that returns. A record
that is handed to the store keeps what the turn's own record wants, and differs from it in parameters
that this one leaves open. -/
theorem pass_keeps_desired_state (world : World σ) (turns : List Turn) (record : Record)
    (state : σ) :
    (record.states (pass world turns record state).1).Pairwise Record.Keeps ∧
      ∀ taken ∈ (pass world turns record state).1,
        (taken.settled.externalName ≠ taken.record.externalName →
          taken.turn.operation = .create ∧ ∃ outcome, taken.result = .ok outcome) ∧
        ∀ stored answer, .persisted stored answer ∈ taken.events →
          taken.record.Keeps stored ∧
            stored = { taken.record with parameters := stored.parameters } := by
  refine ⟨List.isChain_iff_pairwise.mp (isChain_states world turns record state), ?_⟩
  intro taken htaken
  have hgenuine := genuine_of_mem_pass htaken
  refine ⟨hgenuine.created_of_externalName_ne, ?_⟩
  intro stored answer hpersisted
  exact hgenuine.keeps_persisted hpersisted

-- A flag that is off and an empty list are values, and outlast what the provider shows.
example :
    let droplet : Value := .table [("id", .int 5),
      ("features", .list [.text "ipv6", .text "backups"]), ("tags", .list [.text "theirs"])]
    let world : World Unit :=
      ⟨fun _ _ => (.ok droplet, ()), fun _ _ => (.ok (), ()), fun _ _ => (.ok .null, ())⟩
    let fresh := Record.fresh "web" "ubuntu-20-04" "nyc1" "s-1vcpu-1gb"
    let record : Record :=
      { fresh with
        externalName := "5"
        parameters := { fresh.parameters with ipv6 := some false, tags := some [] } }
    let run := (pass world [⟨.observe, "09:00"⟩, ⟨.observe, "09:01"⟩] record ()).1
    (record.states run).map (fun r => (r.parameters.ipv6, r.parameters.tags, r.parameters.backups)) =
      [(some false, some [], none), (some false, some [], some true),
        (some false, some [], some true)] := by
  decide +kernel

end DropletReconciler
