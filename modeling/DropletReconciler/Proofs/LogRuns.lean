import DropletReconciler.Log.Steps
import DropletReconciler.Proofs.Accounts
import DropletReconciler.Proofs.RegistryChanges

/-!
# Runs of a log

Whatever is done to a log, its handlers change one by one, and a logger that is switched off is
switched on again only by what is meant to. Both are said of one step first, and hold of any number
of steps.
-/

namespace DropletReconciler.Log

open Registry (Evolves)

/-- The steps that switch a logger on. -/
def Command.Enables (name : String) : Command → Prop
  | .enable value => loggerOf value = some name
  | .setup _ => name = libraryName
  | _ => False

/-- The steps that switch a logger off. -/
def Command.Disables (name : String) : Command → Prop
  | .disable value => loggerOf value = some name
  | .teardown _ => name = libraryName
  | _ => False

namespace Journal

variable {j k l : Journal} {name other : String} {command : Command}

/-- Between two states of a log nothing happened but changes of its handlers and work on files. -/
structure Rehandled (j k : Journal) : Prop where
  evolves : Evolves j.registry k.registry
  disabled_eq : k.disabled = j.disabled

theorem Rehandled.refl (j : Journal) : Rehandled j j := ⟨.refl, rfl⟩

theorem Rehandled.trans (h : Rehandled j k) (h' : Rehandled k l) : Rehandled j l :=
  ⟨Relation.ReflTransGen.trans h.evolves h'.evolves, h'.disabled_eq.trans h.disabled_eq⟩

/-! ### Handlers that are added -/

theorem addConsole_eq_ok_iff {level : Value} :
    j.addConsole level = .ok k ↔ ∃ n, levelOf level = .ok n ∧ k = j.addSink n .console := by
  simp only [addConsole, bind_eq_ok_iff]
  constructor
  · rintro ⟨n, hlevel, hk⟩
    exact ⟨n, hlevel, (Except.ok.inj hk).symm⟩
  · rintro ⟨n, hlevel, rfl⟩
    exact ⟨n, hlevel, rfl⟩

theorem addFile_eq_ok_iff {path : Path} {level maxBytes backups : Value} :
    j.addFile path level maxBytes backups = .ok k ↔
      ∃ n disk, levelOf level = .ok n ∧ checkLimit maxBytes = .ok () ∧
        j.disk.openFile path = .ok disk ∧
        k = { j with disk := disk }.addSink n (.file (normal path) maxBytes backups) := by
  simp only [addFile, bind_eq_ok_iff, mapError_eq_ok_iff]
  constructor
  · rintro ⟨n, hlevel, ⟨⟩, hlimit, disk, hopen, hk⟩
    exact ⟨n, disk, hlevel, hlimit, hopen, (Except.ok.inj hk).symm⟩
  · rintro ⟨n, disk, hlevel, hlimit, hopen, rfl⟩
    exact ⟨n, hlevel, (), hlimit, disk, hopen, rfl⟩

theorem rehandled_addSink (disk : Disk) (level : Int) (sink : Sink) :
    Rehandled j ({ j with disk := disk }.addSink level sink) :=
  ⟨.single (.add level sink), rfl⟩

theorem rehandled_addConsole {level : Value} (h : j.addConsole level = .ok k) : Rehandled j k := by
  obtain ⟨n, -, rfl⟩ := addConsole_eq_ok_iff.mp h
  exact rehandled_addSink j.disk n .console

theorem rehandled_addFile {path : Path} {level maxBytes backups : Value}
    (h : j.addFile path level maxBytes backups = .ok k) : Rehandled j k := by
  obtain ⟨n, disk, -, -, -, rfl⟩ := addFile_eq_ok_iff.mp h
  exact rehandled_addSink disk n _

theorem rehandled_attempt {changed : Except Fault Journal}
    (h : ∀ k, changed = .ok k → Rehandled j k) : Rehandled j (j.attempt changed).journal := by
  cases changed with
  | error fault => exact .refl j
  | ok k => exact h k rfl

/-! ### Handlers that are removed -/

theorem rehandled_remove {id : Value} (h : j.remove id = .ok k) : Rehandled j k := by
  unfold remove at h
  split at h
  · obtain rfl := Except.ok.inj h
    exact ⟨.single .removeAll, rfl⟩
  · split at h
    · obtain rfl := Except.ok.inj h
      exact .refl j
    · split at h
      · obtain rfl := Except.ok.inj h
        exact ⟨.single (.remove id), rfl⟩
      · cases h

theorem rehandled_removeEach (ids : List Value) (j : Journal) :
    Rehandled j (removeEach ids j).journal := by
  induction ids generalizing j with
  | nil => exact .refl j
  | cons id rest ih =>
    unfold removeEach
    cases hremove : j.remove id with
    | error fault => exact .refl j
    | ok k => exact (rehandled_remove hremove).trans (ih k)

/-! ### Setting up -/

theorem rehandled_setupFile (config : Config) (j : Journal) :
    Rehandled j (setupFile config j).journal := by
  unfold setupFile
  split
  · next file hfile =>
    dsimp only
    split
    · exact ⟨.refl, rfl⟩
    · exact ⟨.refl, rfl⟩
    · -- Directories that were made stay, whether or not the file can be opened.
      have hmade : Rehandled j { j with disk := (j.disk.makeParent (pathOf file)).2 } :=
        ⟨.refl, rfl⟩
      exact hmade.trans (rehandled_attempt fun _ hk => rehandled_addFile hk)
  · exact .refl j

theorem rehandled_whenWanted {step : Journal → Done Nat}
    (h : ∀ j, Rehandled j (step j).journal) (wanted : Value) (j : Journal) :
    Rehandled j (whenWanted wanted step j).journal := by
  unfold whenWanted
  split
  · exact h j
  · exact .refl j

/-- The log without handlers and with the library switched on, from which a setup starts. -/
def cleared (j : Journal) : Journal :=
  { j with registry := j.registry.removeAll }.enable libraryName

/-- The console of a setup. -/
def setupConsole (config : Config) (j : Journal) : Done (List Nat) :=
  whenWanted config.console (fun j => j.attempt (j.addConsole config.level)) j.cleared

theorem setup_eq (config : Config) (j : Journal) :
    j.setup config =
      match (j.setupConsole config).result with
      | .error _ => j.setupConsole config
      | .ok ids =>
        let file := whenWanted config.file (setupFile config) (j.setupConsole config).journal
        ⟨file.result.map fun more => ids ++ more, file.journal⟩ := rfl

theorem rehandled_setupConsole (config : Config) (j : Journal) :
    Rehandled j.cleared (j.setupConsole config).journal :=
  rehandled_whenWanted (fun _ => rehandled_attempt fun _ hk => rehandled_addConsole hk) _ _

theorem rehandled_setup (config : Config) (j : Journal) :
    Rehandled j.cleared (j.setup config).journal := by
  have hconsole := rehandled_setupConsole config j
  rw [setup_eq]
  split
  · exact hconsole
  · exact hconsole.trans (rehandled_whenWanted (rehandled_setupFile config) _ _)

/-! ### One step -/

theorem rehandled_emit (name : String) (entry : Entry) (j : Journal) :
    Rehandled j (j.emit name entry).journal := by
  unfold emit
  repeat' split
  all_goals exact ⟨.refl, rfl⟩

theorem rehandled_log (name : String) (severity : Severity) (traced : Bool) (message : String)
    (positional : List Value) (named : Table) (j : Journal) :
    Rehandled j (j.log name severity traced message positional named).journal := by
  unfold log
  split
  · split
    · exact .refl j
    · exact rehandled_emit name _ j
  · exact .refl j

theorem rehandled_changed {result : Except Fault Journal}
    (h : ∀ k, result = .ok k → Rehandled j k) : Rehandled j (j.changed result).journal := by
  cases result with
  | error fault => exact .refl j
  | ok k => exact h k rfl

theorem rehandled_bind {extras : Table} (h : j.bind extras = .ok k) : Rehandled j k := by
  unfold bind at h
  split at h
  · cases h
  · obtain rfl := Except.ok.inj h
    exact ⟨.refl, rfl⟩

/-- What a step at a logger leaves, if the name is one. -/
theorem changed_atLogger (change : String → Journal → Journal) (name : Value) (j : Journal) :
    (j.changed (j.atLogger name change)).journal =
      match loggerOf name with
      | some logger => change logger j
      | none => j := by
  unfold atLogger
  cases loggerOf name with
  | none => rfl
  | some logger => rfl

theorem disable_registry (name : String) (j : Journal) : (j.disable name).registry = j.registry := by
  unfold disable
  split
  · rfl
  · rfl

theorem Rehandled.disable (h : Rehandled j k) (name : String) :
    Rehandled (j.disable name) (k.disable name) := by
  refine ⟨?_, ?_⟩
  · rw [disable_registry, disable_registry]
    exact h.evolves
  · unfold Journal.disable isDisabled
    rw [h.disabled_eq]
    split
    · exact h.disabled_eq
    · rfl

/-- Every way a step can go: it changes handlers and files, and switches one logger before that at
most. -/
inductive StepRun (command : Command) (j k : Journal) : Prop
  | plain (h : Rehandled j k)
  | on {name : String} (henables : command.Enables name) (h : Rehandled (j.enable name) k)
  | off {name : String} (hdisables : command.Disables name) (h : Rehandled (j.disable name) k)

theorem stepRun_teardown (ids : Value) (j : Journal) :
    StepRun (.teardown ids) j (j.teardown ids).journal := by
  unfold teardown
  cases ids.items with
  | error misuse => exact .plain (.refl j)
  | ok items =>
    have hremoved := rehandled_removeEach items j
    dsimp only
    cases (j.removeEach items).result with
    | error fault => exact .plain hremoved
    | ok done => exact .off rfl (hremoved.disable libraryName)

theorem stepRun_step (command : Command) (j : Journal) :
    StepRun command j (j.step command).journal := by
  cases command with
  | bind extras =>
    refine .plain (rehandled_changed fun k hk => ?_)
    exact rehandled_bind (mapError_eq_ok_iff.mp hk)
  | unbind => exact .plain ⟨.refl, rfl⟩
  | log message => exact .plain (rehandled_log _ _ _ _ _ _ j)
  | addConsole level => exact .plain (rehandled_attempt fun _ hk => rehandled_addConsole hk)
  | addFile path level maxBytes backups =>
    exact .plain (rehandled_attempt fun _ hk => rehandled_addFile hk)
  | remove id => exact .plain (rehandled_changed fun _ hk => rehandled_remove hk)
  | enable name =>
    change StepRun _ j (j.changed (j.atLogger name enable)).journal
    rw [changed_atLogger]
    cases hlogger : loggerOf name with
    | none => exact .plain (.refl j)
    | some logger => exact .on hlogger (.refl _)
  | disable name =>
    change StepRun _ j (j.changed (j.atLogger name disable)).journal
    rw [changed_atLogger]
    cases hlogger : loggerOf name with
    | none => exact .plain (.refl j)
    | some logger => exact .off hlogger (.refl _)
  | setup settings =>
    unfold step
    dsimp only
    cases Config.ofSettings settings with
    | error fault => exact .plain (.refl j)
    | ok config =>
      -- The library is switched on before there are handlers, also by a setup that fails then.
      have hcleared : Rehandled (j.enable libraryName) j.cleared := ⟨.single .removeAll, rfl⟩
      exact .on rfl (hcleared.trans (rehandled_setup config j))
  | teardown ids => exact stepRun_teardown ids j

/-- **One by one.** Whatever a step does to the handlers is a number of elementary changes. -/
theorem evolves_step (command : Command) (j : Journal) :
    Evolves j.registry (j.step command).journal.registry := by
  obtain h | ⟨-, h⟩ | ⟨-, h⟩ := stepRun_step command j
  · exact h.evolves
  · exact h.evolves
  · rw [← disable_registry]
    exact h.evolves

/-! ### Loggers that are switched off -/

theorem mem_disabled_enable_iff :
    other ∈ (j.enable name).disabled ↔ other ∈ j.disabled ∧ other ≠ name := by
  rw [enable, List.mem_filter, decide_eq_true_iff]

theorem mem_disabled_disable_iff :
    other ∈ (j.disable name).disabled ↔ other = name ∨ other ∈ j.disabled := by
  unfold disable
  split
  · next h =>
    have hname : name ∈ j.disabled := List.contains_iff_mem.mp h
    constructor
    · exact .inr
    · rintro (rfl | hother)
      · exact hname
      · exact hother
  · exact List.mem_cons

/-- A logger that is off stays off until a step switches it on. -/
theorem mem_disabled_step (hoff : name ∈ j.disabled) (hstays : ¬ command.Enables name) :
    name ∈ (j.step command).journal.disabled := by
  obtain h | @⟨other, henables, h⟩ | @⟨other, -, h⟩ := stepRun_step command j
  · rwa [h.disabled_eq]
  · have hne : name ≠ other := by
      rintro rfl
      exact hstays henables
    rw [h.disabled_eq, mem_disabled_enable_iff]
    exact ⟨hoff, hne⟩
  · rw [h.disabled_eq, mem_disabled_disable_iff]
    exact .inr hoff

/-- A logger that is on stays on until a step switches it off. -/
theorem not_mem_disabled_step (hon : name ∉ j.disabled) (hstays : ¬ command.Disables name) :
    name ∉ (j.step command).journal.disabled := by
  obtain h | @⟨other, -, h⟩ | @⟨other, hdisables, h⟩ := stepRun_step command j
  · rwa [h.disabled_eq]
  · rw [h.disabled_eq, mem_disabled_enable_iff]
    exact fun hmem => hon hmem.1
  · rw [h.disabled_eq, mem_disabled_disable_iff]
    rintro (rfl | hmem)
    · exact hstays hdisables
    · exact hon hmem

/-! ### Step after step -/

/-- The log after some steps. -/
def after (commands : List Command) (j : Journal) : Journal :=
  commands.foldl (fun j command => (j.step command).journal) j

theorem evolves_after (commands : List Command) (j : Journal) :
    Evolves j.registry (j.after commands).registry := by
  induction commands generalizing j with
  | nil => exact .refl
  | cons command rest ih => exact (evolves_step command j).trans (ih _)

theorem sound_after (h : j.registry.Sound) (commands : List Command) :
    (j.after commands).registry.Sound :=
  Registry.Evolves.sound h (evolves_after commands j)

end Journal

end DropletReconciler.Log
