import DropletReconciler.Proofs.Faults
import DropletReconciler.Proofs.Runs
import DropletReconciler.Proofs.ThroughClient

/-!
# A client that is closed

A client is used any number of times, in any order, and whatever the provider's interface answers. It
stays open until a closing succeeds, and from then on it makes no call at all. What one use does is
said for an open and for a closed client; which of them a use met is read off the uses before it.
-/

namespace DropletReconciler

variable {σ : Type}

namespace Client

/-- The uses that are about a droplet. -/
def Use.IsRequest : Use → Prop
  | .create _ | .get _ | .delete _ => True
  | .close | .enter | .leave => False

/-- A request for a droplet is a table. -/
def Use.WellFormed : Use → Prop
  | .create request => ∃ fields, request = .table fields
  | _ => True

/-- The call that a use is for. What spells out no table cannot be requested. -/
def Use.call? : Use → Option Call
  | .create request => request.toTable.toOption.map .create
  | .get id => some (.get id)
  | .delete id => some (.delete id)
  | .close | .leave => some .close
  | .enter => none

/-- A use of a client: what came of it, what it did, and the client that it left. -/
structure Used where
  use : Use
  result : Except Fault Value
  events : List Event
  client : Client

def Used.of (world : World σ) (use : Use) (client : Client) (state : σ) : Used :=
  let trace := (client.use use).run world state
  ⟨use, trace.result.1, trace.events, trace.result.2⟩

/-- Uses a client again and again. -/
def uses (world : World σ) : List Use → Client → σ → List Used
  | [], _, _ => []
  | use :: rest, client, state =>
    let used := Used.of world use client state
    used :: uses world rest used.client ((client.use use).run world state).state

/-- The client that is left after some uses. -/
def after : Client → List Used → Client
  | client, [] => client
  | _, used :: rest => used.client.after rest

namespace Used

def calls (used : Used) : List Call := used.events.filterMap Event.call?

/-- A closing that the provider's interface took. -/
def Ends (used : Used) : Prop :=
  (used.use = .close ∨ used.use = .leave) ∧ ∃ reply, .sent .close (.ok reply) ∈ used.events

/-- An open client makes the call that a use is for. Only a closing that succeeds closes it. -/
structure PassedOn (used : Used) : Prop where
  calls_eq : used.calls = used.use.call?.toList
  one_call : used.use.IsRequest → used.use.WellFormed → ∃ call, used.calls = [call]
  closed_iff : used.client = .closed ↔ used.Ends
  failed : ∀ fault, .sent .close (.error fault) ∈ used.events → used.result = .error fault

/-- A closed client does nothing and stays closed. It refuses what is about a droplet. -/
structure Silent (used : Used) : Prop where
  events_eq : used.events = []
  closed : used.client = .closed
  refused : used.use.IsRequest →
    ∃ fault, used.result = .error fault ∧ fault.errorClass = .runtime
  accepted : ¬ used.use.IsRequest → used.result = .ok .null

end Used

/-! ### One use -/

section

variable (world : World σ) (state : σ)

theorem silent_of_closed (use : Use) : (Used.of world use .closed state).Silent := by
  cases use with
  | create request =>
    have hrun : Used.of world (.create request) .closed state =
        ⟨.create request, .error .clientClosed, [], .closed⟩ := by
      unfold Used.of Client.use requestDroplet
      cases request.toTable <;> rfl
    rw [hrun]
    exact ⟨rfl, rfl, fun _ => ⟨_, rfl, rfl⟩, fun h => absurd trivial h⟩
  | get id | delete id => exact ⟨rfl, rfl, fun _ => ⟨_, rfl, rfl⟩, fun h => absurd trivial h⟩
  | close | enter | leave => exact ⟨rfl, rfl, False.elim, fun _ => rfl⟩

theorem call?_created (reply : Except Fault Value) :
    ((created reply).run world state).events.filterMap Event.call? = [] := by
  obtain ⟨_, hidle⟩ := exists_idle_created reply
  exact hidle.filterMap_events world state fun _ => rfl

theorem Use.exists_call? {use : Use} (hrequest : use.IsRequest) (hwell : use.WellFormed) :
    ∃ call, use.call? = some call := by
  cases use with
  | create request =>
    obtain ⟨fields, rfl⟩ := hwell
    exact ⟨_, rfl⟩
  | get id | delete id => exact ⟨_, rfl⟩
  | close | enter | leave => exact hrequest.elim

/-- It is enough to know the calls, and whether one of them was a closing. -/
theorem Used.PassedOn.of_calls {used : Used} (hcalls : used.calls = used.use.call?.toList)
    (hclosed : used.client = .closed ↔ used.Ends)
    (hfailed : ∀ fault, .sent .close (.error fault) ∈ used.events → used.result = .error fault) :
    used.PassedOn := by
  refine ⟨hcalls, fun hrequest hwell => ?_, hclosed, hfailed⟩
  obtain ⟨call, hcall⟩ := Use.exists_call? hrequest hwell
  exact ⟨call, by rw [hcalls, hcall]; rfl⟩

/-- A use that asks for no closing leaves the client open. -/
theorem passedOn_of_open {used : Used} (hcalls : used.calls = used.use.call?.toList)
    (hclose : used.use.call? ≠ some .close) (hopen : used.client = .opened) : used.PassedOn := by
  have hsent : ∀ reply, .sent .close reply ∉ used.events := by
    intro reply hmem
    have hcall : .close ∈ used.calls := List.mem_filterMap.mpr ⟨_, hmem, rfl⟩
    rw [hcalls, Option.mem_toList] at hcall
    exact hclose hcall
  refine .of_calls hcalls ?_ fun fault hmem => absurd hmem (hsent _)
  rw [hopen]
  exact iff_of_false nofun fun ⟨_, reply, hmem⟩ => hsent _ hmem

theorem passedOn_create (request : Value) :
    (Used.of world (.create request) .opened state).PassedOn := by
  have hclose : (Use.create request).call? ≠ some .close := by
    rw [Use.call?]
    cases request.toTable with
    | error misuse => exact nofun
    | ok body => exact nofun
  cases hbody : request.toTable with
  | error misuse =>
    have hrun : Used.of world (.create request) .opened state =
        ⟨.create request, .error (worded .create (.misuse misuse)), [], .opened⟩ := by
      simp only [Used.of, Client.use, requestDroplet, hbody]
      rfl
    have hcall : (Use.create request).call? = none := by
      rw [Use.call?, hbody]
      rfl
    rw [hrun]
    refine passedOn_of_open ?_ hclose rfl
    rw [hcall]
    rfl
  | ok body =>
    rcases hsend : world.send (.create body) state with ⟨reply, after⟩
    have hrun : Used.of world (.create request) .opened state =
        ⟨.create request, ((created reply).run world after).result,
          .sent (.create body) reply :: ((created reply).run world after).events, .opened⟩ := by
      simp only [Used.of, Client.use, requestDroplet, hbody, perform, Action.run_send hsend,
        Action.run_andThen, Trace.after, Action.run, List.append_nil]
    have hcall : (Use.create request).call? = some (.create body) := by
      rw [Use.call?, hbody]
      rfl
    rw [hrun]
    refine passedOn_of_open ?_ hclose rfl
    rw [hcall]
    exact congrArg (Call.create body :: ·) (call?_created world after reply)

/-- A closing closes the client exactly when the interface took it. -/
theorem passedOn_close {use : Use} (huse : use = .close ∨ use = .leave) :
    (Used.of world use .opened state).PassedOn := by
  have hcall : use.call? = some .close := by
    obtain rfl | rfl := huse
    · rfl
    · rfl
  rcases hsend : world.send .close state with ⟨reply, after⟩
  cases reply with
  | ok value =>
    have hrun : Used.of world use .opened state =
        ⟨use, .ok .null, [.sent .close (.ok value)], .closed⟩ := by
      obtain rfl | rfl := huse
      all_goals
        simp only [Used.of, Client.use, perform, Action.run_send hsend]
        rfl
    rw [hrun]
    refine .of_calls (congrArg Option.toList hcall.symm) ?_ ?_
    · exact iff_of_true rfl ⟨huse, value, List.mem_singleton_self _⟩
    · intro fault hmem
      cases List.mem_singleton.mp hmem
  | error fault =>
    have hrun : Used.of world use .opened state =
        ⟨use, .error fault, [.sent .close (.error fault)], .opened⟩ := by
      obtain rfl | rfl := huse
      all_goals
        simp only [Used.of, Client.use, perform, Action.run_send hsend]
        rfl
    have hopen : Client.opened ≠ .closed := Client.noConfusion
    rw [hrun]
    refine .of_calls (congrArg Option.toList hcall.symm) (iff_of_false hopen ?_) ?_
    · rintro ⟨-, value, hmem⟩
      cases List.mem_singleton.mp hmem
    · intro other hmem
      cases List.mem_singleton.mp hmem
      rfl

theorem passedOn_of_opened (use : Use) : (Used.of world use .opened state).PassedOn := by
  cases use with
  | create request => exact passedOn_create world state request
  | get id | delete id => exact passedOn_of_open rfl nofun rfl
  | enter => exact passedOn_of_open rfl nofun rfl
  | close => exact passedOn_close world state (.inl rfl)
  | leave => exact passedOn_close world state (.inr rfl)

end

/-! ### Use after use -/

section

variable {world : World σ} {sequence : List Use} {client : Client} {state : σ}
  {before later : List Used} {used : Used}

theorem map_use_uses (world : World σ) (sequence : List Use) (client : Client) (state : σ) :
    (uses world sequence client state).map Used.use = sequence := by
  induction sequence generalizing client state with
  | nil => rfl
  | cons use rest ih =>
    rw [uses, List.map_cons, ih]
    rfl

/-- What comes before a use was a sequence of uses itself, and the use was one of the client that it
left. -/
theorem uses_split (hsplit : uses world sequence client state = before ++ used :: later) :
    before = uses world (before.map Used.use) client state ∧
      ∃ between, used = Used.of world used.use (client.after before) between := by
  -- By induction on the earlier uses; each of them was the first of its sequence.
  induction before generalizing sequence client state with
  | nil =>
    cases sequence with
    | nil => cases hsplit
    | cons use rest =>
      obtain ⟨rfl, -⟩ := List.cons.inj hsplit
      exact ⟨rfl, state, rfl⟩
  | cons earlier before ih =>
    cases sequence with
    | nil => cases hsplit
    | cons use rest =>
      obtain ⟨rfl, hrest⟩ := List.cons.inj hsplit
      obtain ⟨hbefore, hused⟩ := ih hrest
      exact ⟨congrArg (_ :: ·) hbefore, hused⟩

theorem after_uses_closed (world : World σ) (sequence : List Use) (state : σ) :
    Client.closed.after (uses world sequence .closed state) = .closed := by
  induction sequence generalizing state with
  | nil => rfl
  | cons use rest ih =>
    rw [uses, after, (silent_of_closed world state use).closed]
    exact ih _

/-- A client that was open is closed after some uses exactly when one of them closed it. -/
theorem after_uses_opened (world : World σ) (sequence : List Use) (state : σ) :
    Client.opened.after (uses world sequence .opened state) = .closed ↔
      ∃ used ∈ uses world sequence .opened state, used.Ends := by
  induction sequence generalizing state with
  | nil => exact iff_of_false nofun nofun
  | cons use rest ih =>
    have hclosed := (passedOn_of_opened world state use).closed_iff
    simp only [uses, after, List.mem_cons, exists_eq_or_imp, ← hclosed]
    -- Once closed it stays closed; while it is open the later uses decide.
    cases hclient : (Used.of world use .opened state).client with
    | closed => exact iff_of_true (after_uses_closed _ _ _) (.inl rfl)
    | opened => exact (ih _).trans (or_iff_right nofun).symm

end

end Client

/-! ### Operations over a closed client -/

/-- An operation that fails in its stage, and without a call. -/
structure FailsIn (stage : Stage) (patch : Option Patch)
    (trace : Trace σ (Except Fault Outcome × Client)) : Prop where
  events_eq : trace.events = []
  closed : trace.result.2 = .closed
  failed : ∃ fault, trace.result.1 = .error fault ∧ fault.errorClass = stage.errorClass ∧
    fault.patch? = patch

namespace Reconcile

variable {record : Record} (world : World σ) (now : String) (state : σ)

theorem failsIn_observe {id : Int} (hkind : record.kind = dropletKind)
    (hidentity : record.identity = .ok (.assigned id)) :
    FailsIn .observe none
      (((observe now (.record record)).through .closed).run world state) := by
  rw [observe_of_assigned hkind hidentity]
  exact ⟨rfl, rfl, _, rfl, rfl, rfl⟩

theorem failsIn_create (hkind : record.kind = dropletKind) (hunbound : record.Unbound) :
    FailsIn .create (some (Patch.ofCondition (.creating now)))
      (((create now (.record record)).through .closed).run world state) := by
  rw [create_of_unbound hkind hunbound]
  exact ⟨rfl, rfl, _, rfl, rfl, rfl⟩

theorem failsIn_delete {id : Value} (hkind : record.kind = dropletKind)
    (htarget : target? record = .ok (some id)) :
    FailsIn .delete (some (Patch.ofCondition (.deleting now)))
      (((delete now (.record record)).through .closed).run world state) := by
  rw [delete_of_target hkind htarget]
  exact ⟨rfl, rfl, _, rfl, rfl, rfl⟩

end Reconcile

/-- **A closed client is silent.** In any sequence of uses, each one up to the first closing that
succeeds is passed on, and each one after it is met with silence. Over the client that is left then,
an operation that would need a droplet's data fails in its own stage. -/
theorem Client.silent_after_closing (world : World σ) (sequence : List Use) (state : σ) :
    let made := uses world sequence .opened state
    made.map Used.use = sequence ∧
      (∀ before used later, made = before ++ used :: later →
        ((∀ earlier ∈ before, ¬ earlier.Ends) → used.PassedOn) ∧
          ((∃ earlier ∈ before, earlier.Ends) → used.Silent)) ∧
      ((∃ used ∈ made, used.Ends) → ∀ (record : Record) (now : String) (state : σ),
        record.kind = dropletKind →
        let trace operation :=
          ((Operation.action now (.record record) operation).through (Client.opened.after made)).run
            world state
        (∀ id, record.identity = .ok (.assigned id) → FailsIn .observe none (trace .observe)) ∧
          (record.Unbound →
            FailsIn .create (some (Patch.ofCondition (.creating now))) (trace .create)) ∧
          (∀ id, Reconcile.target? record = .ok (some id) →
            FailsIn .delete (some (Patch.ofCondition (.deleting now))) (trace .delete))) := by
  intro made
  refine ⟨map_use_uses world sequence .opened state, ?_, ?_⟩
  · intro before used later hsplit
    obtain ⟨hbefore, between, hused⟩ := uses_split hsplit
    have hclosed := after_uses_opened world (before.map Used.use) state
    rw [← hbefore] at hclosed
    constructor
    · intro hnone
      have hopen : Client.opened.after before = .opened := by
        cases hclient : Client.opened.after before with
        | opened => rfl
        | closed =>
          obtain ⟨earlier, hmem, hends⟩ := hclosed.mp hclient
          exact absurd hends (hnone earlier hmem)
      rw [hused, hopen]
      exact passedOn_of_opened world between used.use
    · intro hsome
      rw [hused, hclosed.mpr hsome]
      exact silent_of_closed world between used.use
  · intro hsome record now last hkind trace
    have hclient : Client.opened.after made = .closed :=
      (after_uses_opened world sequence state).mpr hsome
    have htrace : ∀ operation, trace operation =
        ((Operation.action now (.record record) operation).through .closed).run world last := by
      intro operation
      exact congrArg (fun client => (Action.through _ client).run world last) hclient
    refine ⟨fun id hidentity => ?_, fun hunbound => ?_, fun id htarget => ?_⟩
    · rw [htrace]
      exact Reconcile.failsIn_observe world now last hkind hidentity
    · rw [htrace]
      exact Reconcile.failsIn_create world now last hkind hunbound
    · rw [htrace]
      exact Reconcile.failsIn_delete world now last hkind htarget

end DropletReconciler
