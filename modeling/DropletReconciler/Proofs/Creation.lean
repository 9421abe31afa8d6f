import DropletReconciler.Proofs.Effects
import DropletReconciler.Session

/-!
# What becomes of a created droplet

The provider answers a request for a droplet with data of any shape, and the droplet exists by then.
A creation is settled when the record learns the id, or at least that a creation is under way.
`create_settles_iff` says for which replies that is so: the reply must be absent, or show a positive
id that can be written.
-/

namespace DropletReconciler.Reconcile

variable {σ : Type}

/-- The outcome names the droplet that the provider answered with, and says that it is being
created. -/
def NamesDroplet (now : String) (droplet : Value) : Except Fault Outcome → Prop
  | .ok (.created true patch) =>
    patch.conditions = [.creating now] ∧
      ∃ name id, patch.externalName = some name ∧ Identity.parse name = .ok (.assigned id) ∧
        droplet.ShowsId id
  | _ => False

/-- The failure is one to create, and leaves the condition and nothing else. -/
def KeepsCondition (now : String) : Except Fault Outcome → Prop
  | .error fault =>
    fault.errorClass = .create ∧ fault.patch? = some (Patch.ofCondition (.creating now))
  | .ok _ => False

/-- Nothing of a creation is lost: neither the droplet nor the condition. -/
def Settles (now : String) (reply : Except Fault Value) (result : Except Fault Outcome) : Prop :=
  (∃ droplet, reply = .ok droplet ∧ NamesDroplet now droplet result) ∨ KeepsCondition now result

variable {now : String}

theorem keepsCondition_inStage {fault : Fault} (hfailure : fault.isFailure = true) :
    KeepsCondition now
      (.error (fault.inStage .create (some (Patch.ofCondition (.creating now))))) := by
  refine ⟨?_, ?_⟩
  · rw [Fault.errorClass_inStage, hfailure]
    rfl
  · rw [Fault.patch?_inStage, hfailure]
    rfl

/-- The id that was accepted names the droplet when it is a whole number, and only then. -/
theorem namesDroplet_creation_iff {droplet id : Value} (haccept : acceptId droplet = .ok id) :
    NamesDroplet now droplet (.ok (.created true (creation now id))) ↔ droplet.Numbered := by
  obtain ⟨hfield, hle, written, hwrite⟩ := acceptId_eq_ok_iff.mp haccept
  constructor
  · rintro ⟨-, name, shown, hname, hparse, hshown⟩
    obtain rfl := hshown.eq_int hfield
    have hpos : 0 < shown := by simpa [Value.leInt] using hle
    exact ⟨shown, hshown, hpos, (Numeral.write_eq_ok_iff.mp hwrite).1⟩
  · rintro ⟨shown, hshown, hpos, hshort⟩
    obtain rfl := hshown.eq_int hfield
    exact ⟨rfl, toString shown, shown, rfl, Identity.parse_toString hpos hshort, hshown⟩

/-- **The replies that settle a creation.** A reply to the call for a droplet must count as absent
or show a positive id that an external name can hold. Every other reply loses the droplet, the
condition or both. -/
theorem create_settles_iff (world : World σ) (now : String) (record : Record) (state : σ)
    (hkind : record.kind = dropletKind) (hunbound : record.Unbound)
    (hfailure : ∀ fault, (world.send (creationCall record) state).1 = .error fault →
      fault.isFailure = true) :
    Settles now (world.send (creationCall record) state).1
        ((create now (.record record)).run world state).result ↔
      ∀ droplet, (world.send (creationCall record) state).1 = .ok droplet →
        droplet.isPresent = true → droplet.Numbered := by
  have hown : recordOf (.record record) = .ok record := recordOf_record hkind
  have hrun := run_create world now (.record record) state
  generalize (create now (.record record)).run world state = trace at hrun
  cases hrun with
  | refused hrecord => exact absurd (hown.symm.trans hrecord) nofun
  | tooLong hrecord hidentity =>
    cases hown.symm.trans hrecord
    obtain ⟨identity, hidentity'⟩ := hunbound.exists_identity
    exact absurd (hidentity'.symm.trans hidentity) nofun
  | bound hrecord hidentity =>
    cases hown.symm.trans hrecord
    exact absurd hunbound (Record.not_unbound_of_assigned hidentity)
  | failed hrecord _ hsend =>
    cases hown.symm.trans hrecord
    rw [hsend] at hfailure ⊢
    exact ⟨nofun, fun _ => .inr (keepsCondition_inStage (hfailure _ rfl))⟩
  | nothing hrecord _ hsend hpresent =>
    cases hown.symm.trans hrecord
    rw [hsend]
    refine ⟨fun _ droplet hreply hpresent' => ?_, fun _ => .inr ⟨rfl, rfl⟩⟩
    cases hreply
    exact absurd (hpresent.symm.trans hpresent') nofun
  | unnumbered hrecord _ hsend hpresent haccept =>
    -- The droplet exists, but what is read of the reply is not guarded as the call was.
    cases hown.symm.trans hrecord
    rw [hsend]
    constructor
    · rintro (⟨droplet, -, hnames⟩ | ⟨-, hkeeps⟩)
      · exact hnames.elim
      · exact absurd (hkeeps.symm.trans (patch?_of_acceptId_eq_error haccept)) nofun
    · intro hnumbered
      obtain ⟨id, hid, hpos, hshort⟩ := hnumbered _ rfl hpresent
      exact absurd (haccept.symm.trans (acceptId_of_showsId hid hpos hshort)) nofun
  | created hrecord _ hsend hpresent haccept =>
    cases hown.symm.trans hrecord
    rw [hsend]
    constructor
    · rintro (⟨droplet, hreply, hnames⟩ | hkeeps) droplet' hreply' -
      · cases hreply
        cases hreply'
        exact (namesDroplet_creation_iff haccept).mp hnames
      · exact hkeeps.elim
    · exact fun hnumbered =>
        .inl ⟨_, rfl, (namesDroplet_creation_iff haccept).mpr (hnumbered _ rfl hpresent)⟩

theorem create_settles_newDroplet :
    (Record.fresh "web" "ubuntu-20-04" "nyc1" "s-1vcpu-1gb").kind = dropletKind ∧
      (Record.fresh "web" "ubuntu-20-04" "nyc1" "s-1vcpu-1gb").Unbound ∧
      Settles "09:00" (.ok (Cloud.newDroplet 123456 (.text "web")))
        ((create "09:00" (.record (Record.fresh "web" "ubuntu-20-04" "nyc1" "s-1vcpu-1gb"))).run
          (Session.world .direct (.fixed (.ok .null)) [] none) ⟨[], 123456, [], none⟩).result := by
  have hunbound : (Record.fresh "web" "ubuntu-20-04" "nyc1" "s-1vcpu-1gb").Unbound := .inl rfl
  refine ⟨rfl, hunbound, ?_⟩
  apply (create_settles_iff (Session.world .direct (.fixed (.ok .null)) [] none) "09:00" _
    ⟨[], 123456, [], none⟩ rfl hunbound nofun).mpr
  intro droplet hreply _
  obtain rfl := Except.ok.inj hreply
  exact ⟨123456, rfl, by decide, by decide +kernel⟩

/-- A droplet that was created, and is answered without its id. -/
theorem create_without_id :
    ¬ Settles "09:00" (.ok (.table [("name", .text "web")]))
      ((create "09:00" (.record (Record.fresh "web" "ubuntu-20-04" "nyc1" "s-1vcpu-1gb"))).run
        (Session.world .direct (.fixed (.ok .null)) [] none)
        ⟨[], 123456, [.returns (.table [("name", .text "web")])], none⟩).result := by
  rintro (⟨droplet, -, hnames⟩ | ⟨hclass, -⟩)
  · exact hnames
  · cases hclass

end DropletReconciler.Reconcile
