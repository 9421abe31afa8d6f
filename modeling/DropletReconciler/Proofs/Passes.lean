import DropletReconciler.Proofs.Effects

/-!
# Passes, turn by turn

A pass is a sequence of turns of any length in a world that answers as it likes. `Taken.Genuine` says
that a turn went one of the ways its operation can go; every turn of a pass did, and
`pass_invariant` carries what each of them keeps through the whole pass.
-/

namespace DropletReconciler

variable {σ : Type} {world : World σ} {turns : List Turn} {record : Record} {state : σ}

/-- Every way to take a turn. -/
def TurnRun (world : World σ) (turn : Turn) (record : Record) (state : σ)
    (trace : Trace σ (Except Fault Outcome)) : Prop :=
  match turn.operation with
  | .observe => Reconcile.ObserveRun world turn.now (.record record) state trace
  | .create => Reconcile.CreateRun world turn.now (.record record) state trace
  | .update => trace = ⟨.ok (.updated Patch.empty), state, []⟩
  | .delete => Reconcile.DeleteRun world turn.now (.record record) state trace

theorem turnRun_run (world : World σ) (turn : Turn) (record : Record) (state : σ) :
    TurnRun world turn record state (turn.run world record state) := by
  obtain ⟨operation, now⟩ := turn
  cases operation with
  | observe => exact Reconcile.run_observe world now (.record record) state
  | create => exact Reconcile.run_create world now (.record record) state
  | update => rfl
  | delete => exact Reconcile.run_delete world now (.record record) state

/-- The turn went one of these ways, from some state of the world. -/
def Taken.Genuine (world : World σ) (taken : Taken) : Prop :=
  ∃ state trace, TurnRun world taken.turn taken.record state trace ∧
    taken.result = trace.result ∧ taken.events = trace.events

/-- What a turn sends is an observation's look-up, a creation's request or a deletion. -/
theorem Taken.Genuine.sent {taken : Taken} (h : taken.Genuine world) {call : Call}
    {reply : Except Fault Value} (hsent : .sent call reply ∈ taken.events) :
    (∃ id, taken.turn.operation = .observe ∧ taken.record.identity = .ok (.assigned id) ∧
        call = .get (.int id)) ∨
      (taken.turn.operation = .create ∧ taken.record.Unbound ∧
        call = Reconcile.creationCall taken.record) ∨
      ∃ id, taken.turn.operation = .delete ∧ Reconcile.target? taken.record = .ok (some id) ∧
        call = .delete id := by
  obtain ⟨⟨operation, now⟩, record, result, events⟩ := taken
  obtain ⟨state, trace, hrun, -, rfl⟩ := h
  cases operation with
  | observe =>
    obtain ⟨id, hidentity, hcall⟩ := Reconcile.ObserveRun.sent hrun hsent
    exact .inl ⟨id, rfl, hidentity, hcall⟩
  | create =>
    obtain ⟨hunbound, hcall⟩ := Reconcile.CreateRun.sent hrun hsent
    exact .inr (.inl ⟨rfl, hunbound, hcall⟩)
  | update =>
    obtain rfl : trace = _ := hrun
    cases hsent
  | delete =>
    obtain ⟨id, htarget, hcall⟩ := Reconcile.DeleteRun.sent hrun hsent
    exact .inr (.inr ⟨id, rfl, htarget, hcall⟩)

/-- What a turn hands to the store is its record with parameters that a droplet completes. -/
theorem Taken.Genuine.persisted {taken : Taken} (h : taken.Genuine world) {stored : Record}
    {answer : Except Fault Unit} (hpersisted : .persisted stored answer ∈ taken.events) :
    ∃ droplet parameters, taken.record.parameters.completeFrom droplet = .ok parameters ∧
      stored = { taken.record with parameters := parameters } := by
  obtain ⟨⟨operation, now⟩, record, result, events⟩ := taken
  obtain ⟨state, trace, hrun, -, rfl⟩ := h
  cases operation with
  | observe => exact Reconcile.ObserveRun.persisted hrun hpersisted
  | create => exact absurd hpersisted (Reconcile.CreateRun.not_persisted hrun)
  | update =>
    obtain rfl : trace = _ := hrun
    cases hpersisted
  | delete => exact absurd hpersisted (Reconcile.DeleteRun.not_persisted hrun)

/-- What a turn leaves is a change that one of the operations leaves. -/
theorem Taken.Genuine.left {taken : Taken} (h : taken.Genuine world) :
    ∃ patch, Reconcile.Left taken.turn.now taken.record taken.events patch ∧
      taken.settled = patch.apply taken.record := by
  obtain ⟨⟨operation, now⟩, record, result, events⟩ := taken
  obtain ⟨state, trace, hrun, rfl, rfl⟩ := h
  refine ⟨patchLeft trace.result, ?_, rfl⟩
  cases operation with
  | observe => exact Reconcile.ObserveRun.left hrun
  | create => exact Reconcile.CreateRun.left hrun
  | update =>
    obtain rfl : trace = _ := hrun
    exact .nothing
  | delete => exact Reconcile.DeleteRun.left hrun

/-- The record that is left behind a list of turns. -/
def Record.through (record : Record) : List Taken → Record
  | [] => record
  | taken :: rest => taken.settled.through rest

theorem Record.through_append (record : Record) (before : List Taken) (taken : Taken)
    (after : List Taken) :
    record.through (before ++ taken :: after) = taken.settled.through after := by
  induction before generalizing record with
  | nil => rfl
  | cons earlier before ih => exact ih earlier.settled

theorem Record.through_of_forall {P : Record → Prop} {record : Record} {run : List Taken}
    (hstart : P record) (hrun : ∀ taken ∈ run, P taken.settled) : P (record.through run) := by
  induction run generalizing record with
  | nil => exact hstart
  | cons taken rest ih =>
    exact ih (hrun taken List.mem_cons_self) fun later h => hrun later (List.mem_cons_of_mem _ h)

theorem pass_cons (world : World σ) (turn : Turn) (rest : List Turn) (record : Record)
    (state : σ) :
    ∃ taken after, taken.Genuine world ∧ taken.record = record ∧
      (pass world (turn :: rest) record state).1 =
        taken :: (pass world rest taken.settled after).1 := by
  refine ⟨⟨turn, record, (turn.run world record state).result,
    (turn.run world record state).events⟩, (turn.run world record state).state, ?_, rfl, rfl⟩
  exact ⟨state, _, turnRun_run world turn record state, rfl, rfl⟩

/-- What comes after a turn of a pass is a pass from the record that the turn left. -/
theorem pass_split {before after : List Taken} {taken : Taken}
    (hsplit : (pass world turns record state).1 = before ++ taken :: after) :
    taken.Genuine world ∧
      ∃ rest later, after = (pass world rest taken.settled later).1 := by
  induction before generalizing turns record state with
  | nil =>
    cases turns with
    | nil => cases hsplit
    | cons turn rest =>
      obtain ⟨first, later, hgenuine, -, hpass⟩ := pass_cons world turn rest record state
      rw [hpass, List.nil_append, List.cons.injEq] at hsplit
      obtain ⟨rfl, hafter⟩ := hsplit
      exact ⟨hgenuine, rest, later, hafter.symm⟩
  | cons earlier before ih =>
    cases turns with
    | nil => cases hsplit
    | cons turn rest =>
      obtain ⟨first, later, -, -, hpass⟩ := pass_cons world turn rest record state
      rw [hpass, List.cons_append, List.cons.injEq] at hsplit
      exact ih hsplit.2

theorem genuine_of_mem_pass {taken : Taken} (htaken : taken ∈ (pass world turns record state).1) :
    taken.Genuine world := by
  obtain ⟨before, after, hsplit⟩ := List.append_of_mem htaken
  exact (pass_split hsplit).1

/-- What every turn of a pass keeps holds throughout the pass. -/
theorem pass_invariant {P : Record → Prop} (hstart : P record)
    (hstep : ∀ taken ∈ (pass world turns record state).1, P taken.record → P taken.settled) :
    ∀ taken ∈ (pass world turns record state).1, P taken.record ∧ P taken.settled := by
  induction turns generalizing record state with
  | nil => exact fun taken htaken => nomatch htaken
  | cons turn rest ih =>
    obtain ⟨first, later, -, hrecord, hpass⟩ := pass_cons world turn rest record state
    rw [hpass] at hstep ⊢
    have hfirst : P first.settled := hstep first List.mem_cons_self (hrecord ▸ hstart)
    intro taken htaken
    rcases List.mem_cons.mp htaken with rfl | hlater
    · exact ⟨hrecord ▸ hstart, hfirst⟩
    · exact ih hfirst (fun taken h => hstep taken (List.mem_cons_of_mem _ h)) taken hlater

end DropletReconciler
