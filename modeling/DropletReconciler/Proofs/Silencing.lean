import DropletReconciler.Proofs.LogRuns

/-!
# Switching the library off

A message is handed to the handlers attached to the library's logger, whichever logger below it the
message came from. Whether it comes that far depends on its own logger alone (`deliveries_eq`). To
switch the library off is to switch off one logger, the library's own, so that its modules go on as
before.
-/

namespace DropletReconciler.Log

/-! ### What a message is handed to -/

/-- The handlers that take an entry, in order. A fault at one of them keeps it from those behind. -/
def Entry.takers (entry : Entry) : List Handler → List Handler
  | [] => []
  | handler :: rest =>
    match entry.reaches handler.level, handler.sink with
    | .error _, _ => []
    | .ok false, _ => takers entry rest
    | .ok true, .console =>
      match entry.checkConsole with
      | .error _ => [handler]
      | .ok () => handler :: takers entry rest
    | .ok true, .file _ _ _ => handler :: takers entry rest

/-- What a handler does to the files when it takes an entry. -/
def Handler.write (handler : Handler) (entry : Entry) (disk : Disk) : Disk :=
  match handler.sink, entry.lines with
  | .file path _ _, .ok text => disk.append path text
  | _, _ => disk

namespace Journal

variable {j k : Journal} {name : String} {command : Command} {m : Message}

/-- The handlers that an entry is handed to. -/
def takersOf (entry : Entry) (j : Journal) : List Handler :=
  match entry.reaches 0 with
  | .error _ => []
  | .ok visible =>
    match if visible then entry.seen.map fun seen => [seen] else .ok [] with
    | .error _ => []
    | .ok _ => entry.takers j.registry.attached

/-- Everything that a message is handed to, each time with the entry that it became. -/
def deliveries (m : Message) (j : Journal) : List (Handler × Entry) :=
  let name := loggerNamed m.logger
  if j.isEnabled name m.severity && isLibrary name then
    match j.entryOf name m.severity m.traced m.template m.positional m.named with
    | .error _ => []
    | .ok entry => (j.takersOf entry).map fun handler => (handler, entry)
  else []

theorem hand_snd (entry : Entry) (handlers : List Handler) (disk : Disk) :
    (hand entry handlers disk).2 =
      (entry.takers handlers).foldl (fun disk handler => handler.write entry disk) disk := by
  -- A fault at one handler ends the handing on, on both sides.
  induction handlers generalizing disk with
  | nil => rfl
  | cons handler rest ih =>
    obtain ⟨id, level, sink⟩ := handler
    unfold hand Entry.takers
    cases entry.reaches level with
    | error fault => rfl
    | ok taken =>
      cases taken with
      | false => exact ih disk
      | true =>
        cases sink with
        | console =>
          dsimp only
          cases entry.checkConsole with
          | error fault => rfl
          | ok done => exact ih disk
        | file path maxBytes backups =>
          dsimp only
          rw [List.foldl_cons, ← ih, Handler.write]
          dsimp only
          cases entry.lines with
          | error fault => rfl
          | ok text => rfl

theorem disk_emit (entry : Entry) (j : Journal) (hlibrary : isLibrary name = true) :
    (j.emit name entry).journal.disk =
      (j.takersOf entry).foldl (fun disk handler => handler.write entry disk) j.disk := by
  unfold emit takersOf
  cases entry.reaches 0 with
  | error fault => rfl
  | ok visible =>
    dsimp only
    rw [if_pos hlibrary]
    cases (if visible then entry.seen.map fun seen => [seen] else .ok []) with
    | error fault => rfl
    | ok seen => exact hand_snd entry j.registry.attached j.disk

/-- What a message leaves in the files is what the handlers write that it is handed to. -/
theorem disk_logMessage (m : Message) (j : Journal)
    (hlibrary : isLibrary (loggerNamed m.logger) = true) :
    (j.logMessage m).journal.disk =
      (j.deliveries m).foldl (fun disk delivery => delivery.1.write delivery.2 disk) j.disk := by
  unfold logMessage log deliveries
  dsimp only
  cases j.isEnabled (loggerNamed m.logger) m.severity with
  | false => rfl
  | true =>
    rw [hlibrary]
    simp only [Bool.and_self, if_true]
    cases j.entryOf (loggerNamed m.logger) m.severity m.traced m.template m.positional m.named with
    | error fault => rfl
    | ok entry =>
      dsimp only
      rw [List.foldl_map]
      exact disk_emit entry j hlibrary

/-! ### A logger that is switched off -/

/-- The same log with all loggers switched on. -/
def allOn (j : Journal) : Journal := { j with disabled := [] }

theorem isEnabled_eq (name : String) (severity : Severity) (j : Journal) :
    j.isEnabled name severity =
      if name ∈ j.disabled then false else j.allOn.isEnabled name severity := by
  unfold isEnabled isDisabled
  by_cases hoff : name ∈ j.disabled
  · simp [hoff]
  · simp [hoff, allOn]

/-- Its own logger holds a message back, and no other one does. -/
theorem deliveries_eq (m : Message) (j : Journal) :
    j.deliveries m =
      if loggerNamed m.logger ∈ j.disabled then [] else j.allOn.deliveries m := by
  unfold deliveries
  dsimp only
  rw [isEnabled_eq]
  by_cases hoff : loggerNamed m.logger ∈ j.disabled
  · simp only [if_pos hoff, Bool.false_and, Bool.false_eq_true, if_false]
  · simp only [if_neg hoff]
    rfl

theorem logMessage_of_disabled (hoff : loggerNamed m.logger ∈ j.disabled) :
    j.logMessage m = ⟨.ok .nothing, j, []⟩ := by
  have henabled : j.isEnabled (loggerNamed m.logger) m.severity = false := by
    rw [isEnabled_eq, if_pos hoff]
  unfold logMessage log
  rw [henabled]
  rfl

theorem mem_disabled_teardown {ids : Value} (hok : (j.teardown ids).result = .ok ()) :
    libraryName ∈ (j.teardown ids).journal.disabled := by
  unfold teardown at hok ⊢
  cases hitems : ids.items with
  | error misuse =>
    rw [hitems] at hok
    cases hok
  | ok items =>
    rw [hitems] at hok
    dsimp only at hok ⊢
    cases hremoved : (j.removeEach items).result with
    | error fault =>
      rw [hremoved] at hok
      cases hremoved.symm.trans hok
    | ok done => exact mem_disabled_disable_iff.mpr (.inl rfl)

end Journal

/-- The steps that switch the library off: by its name, or by a teardown that succeeds. -/
def Command.SwitchesOff (j : Journal) : Command → Prop
  | .disable value => loggerOf value = some libraryName
  | .teardown ids => (j.teardown ids).result = .ok ()
  | _ => False

namespace Journal

variable {m : Message} {off : Command} {quiet : List Command}

theorem mem_disabled_of_switchesOff {j : Journal} (hoff : off.SwitchesOff j) :
    libraryName ∈ (j.step off).journal.disabled := by
  cases off with
  | disable value =>
    change libraryName ∈ (j.changed (j.atLogger value disable)).journal.disabled
    have hvalue : loggerOf value = some libraryName := hoff
    rw [changed_atLogger, hvalue]
    exact mem_disabled_disable_iff.mpr (.inl rfl)
  | teardown ids => exact mem_disabled_teardown hoff
  | _ => exact hoff.elim

theorem mem_disabled_after {j : Journal} {name : String} (hoff : name ∈ j.disabled)
    (hquiet : ∀ command ∈ quiet, ¬ command.Enables name) : name ∈ (j.after quiet).disabled := by
  induction quiet generalizing j with
  | nil => exact hoff
  | cons command rest ih =>
    have hstep := mem_disabled_step hoff (hquiet command List.mem_cons_self)
    exact ih hstep fun later hmem => hquiet later (List.mem_cons_of_mem _ hmem)

theorem not_mem_disabled_after {j : Journal} {name : String} {commands : List Command}
    (hon : name ∉ j.disabled) (hspared : ∀ command ∈ commands, ¬ command.Disables name) :
    name ∉ (j.after commands).disabled := by
  induction commands generalizing j with
  | nil => exact hon
  | cons command rest ih =>
    have hstep := not_mem_disabled_step hon (hspared command List.mem_cons_self)
    exact ih hstep fun later hmem => hspared later (List.mem_cons_of_mem _ hmem)

/-- **Which messages are held back** while the library is switched off. Those of its own logger are,
without a trace. One of a logger below it is held back exactly when that logger was switched off
itself, or nothing would take the message anyway; as long as no step names its logger, it is handed on
as if everything were switched on. What it is handed to writes it to the files. -/
theorem silenced_iff (before quiet : List Command) (off : Command) (m : Message)
    (hlibrary : isLibrary (loggerNamed m.logger) = true)
    (hoff : off.SwitchesOff (start.after before))
    (hquiet : ∀ command ∈ quiet, ¬ command.Enables libraryName) :
    let j := start.after (before ++ off :: quiet)
    (j.deliveries m = [] ↔ loggerNamed m.logger ∈ j.disabled ∨ j.allOn.deliveries m = []) ∧
      (loggerNamed m.logger = libraryName → j.logMessage m = ⟨.ok .nothing, j, []⟩) ∧
      ((∀ command ∈ before ++ off :: quiet, ¬ command.Disables (loggerNamed m.logger)) →
        j.deliveries m = j.allOn.deliveries m) ∧
      (j.logMessage m).journal.disk =
        (j.deliveries m).foldl (fun disk delivery => delivery.1.write delivery.2 disk) j.disk := by
  intro j
  have hdeliveries := deliveries_eq m j
  -- The library's own logger stays off over all the steps that follow.
  have hsilent : libraryName ∈ j.disabled := by
    have hsplit : j = ((start.after before).step off).journal.after quiet := by
      simp only [j, after, List.foldl_append, List.foldl_cons]
    rw [hsplit]
    exact mem_disabled_after (mem_disabled_of_switchesOff hoff) hquiet
  refine ⟨?_, ?_, ?_, disk_logMessage m j hlibrary⟩
  · rw [hdeliveries]
    split
    · next hmem => exact iff_of_true rfl (.inl hmem)
    · next hmem => exact (or_iff_right hmem).symm
  · intro hname
    exact logMessage_of_disabled (hname ▸ hsilent)
  · intro hspared
    have hon : loggerNamed m.logger ∉ j.disabled :=
      not_mem_disabled_after List.not_mem_nil hspared
    rw [hdeliveries, if_neg hon]

def fileAdded : Command := .addFile "a" (.text "DEBUG") (.int 52428800) (.int 10)

def switchedOff : Command := .disable (.text libraryName)

def moduleMessage : Message := ⟨"dropletsync.api.model", .info, false, "hello", [], []⟩

/-- A log with one file, whose library is switched off. -/
def silencedLog : Journal where
  extras := []
  disabled := [libraryName]
  registry :=
    let handler : Handler := ⟨1, 10, .file ["a"] (.int 52428800) (.int 10)⟩
    ⟨1, [handler], [handler]⟩
  disk := ⟨[], [(["a"], "")]⟩

theorem pathOf_fileAdded : pathOf "a" = ["a"] := by
  have hscan : "a".splitOnAux "/" 0 0 0 [] = ["a"] := by
    rw [String.splitOnAux, if_neg (by decide +kernel), if_neg (by decide +kernel),
      String.splitOnAux, if_pos (by decide +kernel)]
    decide +kernel
  have hsplit : "a".splitOn "/" = ["a"] := hscan
  rw [pathOf, hsplit]
  decide +kernel

theorem openFile_fileAdded : Disk.empty.openFile ["a"] = .ok ⟨[], [(["a"], "")]⟩ := by
  have hlocate : Disk.empty.locate ["a"] = .ok ["a"] := by
    rw [Disk.locate, if_neg (by simp)]
    decide +kernel
  have hnormal : normal ["a"] = ["a"] := rfl
  rw [Disk.openFile, hnormal, hlocate]
  decide +kernel

theorem after_switchedOff : start.after [fileAdded, switchedOff] = silencedLog := by
  have hadded : start.addFile ["a"] (.text "DEBUG") (.int 52428800) (.int 10) =
      .ok { silencedLog with disabled := [] } :=
    addFile_eq_ok_iff.mpr ⟨10, _, rfl, rfl, openFile_fileAdded, rfl⟩
  have hstep : (start.step fileAdded).journal = { silencedLog with disabled := [] } := by
    unfold step fileAdded
    dsimp only
    rw [pathOf_fileAdded, hadded]
    rfl
  change ((start.step fileAdded).journal.step switchedOff).journal = _
  rw [hstep]
  rfl

theorem not_disables_module :
    ∀ command ∈ [fileAdded, switchedOff],
      ¬ command.Disables (loggerNamed moduleMessage.logger) := by
  intro command hmem
  simp only [List.mem_cons, List.not_mem_nil, or_false] at hmem
  obtain rfl | rfl := hmem
  · exact id
  · change ¬ loggerOf (.text libraryName) = some (loggerNamed moduleMessage.logger)
    decide +kernel

theorem silenced_iff_module :
    isLibrary (loggerNamed moduleMessage.logger) = true ∧
      switchedOff.SwitchesOff (start.after [fileAdded]) ∧
      (∀ command ∈ [], ¬ Command.Enables libraryName command) ∧
      silencedLog.deliveries moduleMessage = silencedLog.allOn.deliveries moduleMessage := by
  have hlibrary : isLibrary (loggerNamed moduleMessage.logger) = true := by decide +kernel
  have hquiet : ∀ command ∈ [], ¬ Command.Enables libraryName command := nofun
  obtain ⟨-, -, hspared, -⟩ :=
    silenced_iff [fileAdded] [] switchedOff moduleMessage hlibrary rfl hquiet
  refine ⟨hlibrary, rfl, hquiet, ?_⟩
  rw [← after_switchedOff]
  exact hspared not_disables_module

/-- A message from a module of the library reaches a file although the library is switched off. -/
theorem deliveries_silencedLog :
    start.after [fileAdded, switchedOff] = silencedLog ∧
      switchedOff.SwitchesOff (start.after [fileAdded]) ∧
      isLibrary (loggerNamed moduleMessage.logger) = true ∧
      silencedLog.deliveries moduleMessage ≠ [] ∧
      (silencedLog.logMessage moduleMessage).journal.disk.text? ["a"] =
        some "INFO     | dropletsync.api.model - hello\n" := by
  refine ⟨after_switchedOff, rfl, ?_, ?_, ?_⟩
  · decide +kernel
  · decide +kernel
  · decide +kernel

end Journal

end DropletReconciler.Log
