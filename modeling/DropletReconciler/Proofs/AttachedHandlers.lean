import DropletReconciler.Proofs.LogRuns

/-!
# The handlers of a log

At any time the handlers that are attached are those that are registered, in order of their ids. A
setup that succeeds leaves the handlers that its settings ask for, and gives out their ids; they are
good for these handlers only, however late they are torn down.
-/

namespace DropletReconciler.Log

/-- The console that settings ask for. -/
def Config.IsConsole (config : Config) (handler : Handler) : Prop :=
  handler.sink = .console ∧ Journal.levelOf config.level = .ok handler.level

/-- The file that settings ask for. It takes entries from the lowest usual level on. -/
def Config.IsFile (config : Config) (handler : Handler) : Prop :=
  handler.level = Severity.debug.number ∧
    ∃ file maxBytes, config.file = .text file ∧ Journal.limitOf config.rotation = .ok maxBytes ∧
      handler.sink = .file (normal (pathOf file)) maxBytes config.retention

/-- The ids that a step answers with. -/
def Progress.ids (progress : Progress) : List Nat :=
  match progress.result with
  | .ok (.issued id) => [id]
  | .ok (.issuedAll ids) => ids
  | _ => []

namespace Journal

variable {j k : Journal} {config : Config} {ids : List Nat}

/-! ### What a setup leaves -/

/-- One handler when it is wanted, and none otherwise. -/
def Wanted (wanted : Value) (P : Handler → Prop) (handlers : List Handler) : Prop :=
  if wanted.isPresent then ∃ handler, P handler ∧ handlers = [handler] else handlers = []

/-- When a step succeeds, a handler was attached behind the others, and the id is that of the
handler. -/
def Attaches (P : Handler → Prop) (j : Journal) (done : Done Nat) : Prop :=
  ∀ id, done.result = .ok id → ∃ handler, P handler ∧ handler.id = id ∧
    done.journal.registry.attached = j.registry.attached ++ [handler]

theorem attaches_attempt {P : Handler → Prop} {changed : Except Fault Journal}
    (h : ∀ k, changed = .ok k → ∃ handler, P handler ∧ handler.id = k.registry.issued ∧
      k.registry.attached = j.registry.attached ++ [handler]) :
    Attaches P j (j.attempt changed) := by
  intro id hid
  cases changed with
  | error fault => cases hid
  | ok k =>
    obtain rfl := Except.ok.inj hid
    exact h k rfl

theorem attaches_console (config : Config) (j : Journal) :
    Attaches config.IsConsole j (j.attempt (j.addConsole config.level)) := by
  refine attaches_attempt fun k hk => ?_
  obtain ⟨n, hlevel, rfl⟩ := addConsole_eq_ok_iff.mp hk
  exact ⟨⟨j.registry.issued + 1, n, .console⟩, ⟨rfl, hlevel⟩, rfl, rfl⟩

theorem attaches_file (config : Config) (j : Journal) :
    Attaches config.IsFile j (setupFile config j) := by
  unfold setupFile
  split
  · next file hfile =>
    dsimp only
    split
    · exact nofun
    · exact nofun
    · next maxBytes _ hlimit =>
      refine attaches_attempt (j := { j with disk := (j.disk.makeParent (pathOf file)).2 })
        fun k hk => ?_
      obtain ⟨n, disk, hlevel, -, -, rfl⟩ := addFile_eq_ok_iff.mp hk
      have hdebug : n = Severity.debug.number := (Except.ok.inj hlevel).symm
      exact ⟨⟨j.registry.issued + 1, n, _⟩, ⟨hdebug, file, maxBytes, hfile, hlimit, rfl⟩, rfl, rfl⟩
  · exact nofun

theorem attached_whenWanted {P : Handler → Prop} {step : Journal → Done Nat} {wanted : Value}
    (hstep : Attaches P j (step j)) (hok : (whenWanted wanted step j).result = .ok ids) :
    ∃ handlers, Wanted wanted P handlers ∧ ids = handlers.map Handler.id ∧
      (whenWanted wanted step j).journal.registry.attached = j.registry.attached ++ handlers := by
  unfold whenWanted at hok ⊢
  unfold Wanted
  cases hwanted : wanted.isPresent with
  | false =>
    rw [hwanted] at hok
    obtain rfl : [] = ids := Except.ok.inj hok
    exact ⟨[], rfl, rfl, (List.append_nil _).symm⟩
  | true =>
    rw [hwanted] at hok
    simp only [if_true] at hok ⊢
    cases hresult : (step j).result with
    | error fault =>
      rw [hresult] at hok
      cases hok
    | ok id =>
      rw [hresult] at hok
      obtain rfl : [id] = ids := Except.ok.inj hok
      obtain ⟨handler, hhandler, rfl, hattached⟩ := hstep id hresult
      exact ⟨[handler], ⟨handler, hhandler, rfl⟩, rfl, hattached⟩

theorem cleared_attached (h : j.registry.Sound) : j.cleared.registry.attached = [] := by
  change j.registry.removeAll.attached = []
  rw [h.removeAll_eq]
  exact List.filter_eq_nil_iff.mpr fun _ _ => Bool.false_ne_true

/-- A setup that succeeds leaves its own handlers and no others, and gives out their ids. -/
theorem attached_setup (h : j.registry.Sound) (hok : (j.setup config).result = .ok ids) :
    ∃ consoles files, Wanted config.console config.IsConsole consoles ∧
      Wanted config.file config.IsFile files ∧
      (j.setup config).journal.registry.attached = consoles ++ files ∧
      ids = (consoles ++ files).map Handler.id := by
  rw [setup_eq] at hok ⊢
  cases hresult : (j.setupConsole config).result with
  | error fault =>
    rw [hresult] at hok
    cases hresult.symm.trans hok
  | ok first =>
    rw [hresult] at hok
    obtain ⟨consoles, hconsoles, hfirst, hattached⟩ :=
      attached_whenWanted (attaches_console config j.cleared) hresult
    dsimp only at hok ⊢
    cases hmore : (whenWanted config.file (setupFile config)
        (j.setupConsole config).journal).result with
    | error fault =>
      rw [hmore] at hok
      cases hok
    | ok more =>
      rw [hmore] at hok
      obtain rfl : first ++ more = ids := Except.ok.inj hok
      obtain ⟨files, hfiles, hmore', hattached'⟩ :=
        attached_whenWanted (attaches_file config _) hmore
      refine ⟨consoles, files, hconsoles, hfiles, ?_, ?_⟩
      · rw [hattached']
        rw [setupConsole, hattached, cleared_attached h, List.nil_append]
      · rw [hfirst, hmore', List.map_append]

/-! ### What a teardown takes away -/

theorem remove_int (h : j.registry.Sound) (id : Nat) :
    j.remove (.int id) =
      .ok { j with registry := j.registry.keep fun handler => handler.id != id } := by
  have hremove : j.registry.remove (.int id) =
      j.registry.keep fun handler => handler.id != id := by
    rw [h.remove_eq]
    congr 1
    funext handler
    have hid : (Value.int id).equalsInt handler.id = true ↔ handler.id = id :=
      beq_iff_eq.trans (Int.ofNat_inj.trans eq_comm)
    rw [bne, Bool.not_inj_iff, Bool.eq_iff_iff, hid, beq_iff_eq]
  unfold remove
  rw [if_neg nofun]
  split
  · next hempty =>
    -- Where nothing is registered there is nothing to look up.
    have hnone : j.registry.registered = [] := List.isEmpty_iff.mp hempty
    rw [h.keep_eq_self fun handler hmem => absurd (hnone ▸ hmem) List.not_mem_nil]
  · have hkey : (Value.int id).canBeKey = true := rfl
    rw [if_pos hkey, hremove]

theorem removeEach_cons_of_ok {id : Value} {rest : List Value} (h : j.remove id = .ok k) :
    j.removeEach (id :: rest) = k.removeEach rest := by
  rw [removeEach, h]

/-- Ids as they are handed to a teardown. -/
def idValues (ids : List Nat) : List Value := ids.map fun (id : Nat) => .int id

theorem removeEach_idValues (h : j.registry.Sound) (ids : List Nat) :
    j.removeEach (idValues ids) =
      ⟨.ok (), { j with registry := j.registry.keep fun handler => !ids.contains handler.id }⟩ := by
  induction ids generalizing j with
  | nil =>
    have hsame : (j.registry.keep fun handler => !([] : List Nat).contains handler.id) =
        j.registry := h.keep_eq_self fun _ _ => rfl
    rw [hsame]
    rfl
  | cons id rest ih =>
    have hkept : (fun handler : Handler => handler.id != id && !rest.contains handler.id) =
        fun handler => !(id :: rest).contains handler.id := by
      funext handler
      rw [List.contains_cons, Bool.not_or]
      rfl
    rw [idValues, List.map_cons, ← idValues, removeEach_cons_of_ok (remove_int h id),
      ih (h.keep _), Registry.keep_keep, hkept]

/-- A teardown takes away the handlers with the given ids and no others. -/
theorem teardown_idValues (h : j.registry.Sound) (ids : List Nat) :
    (j.teardown (.list (idValues ids))).result = .ok () ∧
      (j.teardown (.list (idValues ids))).journal.registry =
        j.registry.keep fun handler => !ids.contains handler.id := by
  have hitems : (Value.list (idValues ids)).items = .ok (idValues ids) := rfl
  unfold teardown
  rw [hitems]
  dsimp only
  rw [removeEach_idValues h]
  exact ⟨rfl, disable_registry _ _⟩

/-- Torn down by all the ids that it has, a log is left without handlers. -/
theorem attached_teardown_self (h : j.registry.Sound) :
    (j.teardown (.list (idValues (j.registry.attached.map Handler.id)))).journal.registry.attached =
      [] := by
  rw [(teardown_idValues h _).2]
  refine List.filter_eq_nil_iff.mpr fun handler hmem => ?_
  have hid : handler.id ∈ j.registry.attached.map Handler.id := List.mem_map_of_mem hmem
  simpa using hid

/-! ### Ids given out -/

/-- Ids that were given out between two states of a log. -/
structure NewIds (j k : Journal) (ids : List Nat) : Prop where
  increasing : ids.Pairwise (· < ·)
  lt_id : ∀ id ∈ ids, j.registry.issued < id
  id_le : ∀ id ∈ ids, id ≤ k.registry.issued

theorem NewIds.nil (j k : Journal) : NewIds j k [] := ⟨.nil, nofun, nofun⟩

theorem newIds_attempt {changed : Except Fault Journal}
    (h : ∀ k, changed = .ok k → k.registry.issued = j.registry.issued + 1) :
    NewIds j (j.attempt changed).journal ((j.attempt changed).progress .issued).ids := by
  cases changed with
  | error fault => exact .nil j j
  | ok k =>
    have hissued : j.registry.issued < k.registry.issued := by
      rw [h k rfl]
      exact Nat.lt_succ_self _
    refine ⟨List.pairwise_singleton _ _, fun id hid => ?_, fun id hid => ?_⟩
    · exact List.mem_singleton.mp hid ▸ hissued
    · exact Nat.le_of_eq (List.mem_singleton.mp hid)

/-- A handler that was not there before has an id of its own. -/
theorem lt_id_of_new (h : j.registry.Sound) (hevolves : Registry.Evolves j.registry k.registry)
    {handler : Handler} (hmem : handler ∈ k.registry.attached)
    (hnew : handler ∉ j.registry.attached) : j.registry.issued < handler.id := by
  have hsound := Registry.Evolves.sound h hevolves
  rw [hsound.attached_eq] at hmem
  rw [h.attached_eq] at hnew
  by_contra hle
  exact hnew (Registry.Evolves.mem_of_id_le h hevolves hmem (Nat.not_lt.mp hle))

/-- A teardown by earlier ids spares the handlers made since. -/
theorem mem_teardown_of_new (h : j.registry.Sound)
    (hevolves : Registry.Evolves j.registry k.registry)
    (hearlier : ∀ id ∈ ids, id ≤ j.registry.issued) {handler : Handler}
    (hmem : handler ∈ k.registry.attached) (hnew : handler ∉ j.registry.attached) :
    handler ∈ (k.teardown (.list (idValues ids))).journal.registry.attached := by
  have hlt := lt_id_of_new h hevolves hmem hnew
  have hspared : handler.id ∉ ids := fun hid => Nat.not_le_of_lt hlt (hearlier _ hid)
  rw [(teardown_idValues (Registry.Evolves.sound h hevolves) ids).2]
  exact List.mem_filter.mpr ⟨hmem, by simpa using hspared⟩

theorem newIds_setup (h : j.registry.Sound) (config : Config) :
    NewIds j (j.setup config).journal ((j.setup config).progress .issuedAll).ids := by
  cases hresult : (j.setup config).result with
  | error fault =>
    have hnone : ((j.setup config).progress .issuedAll).ids = [] := by
      simp only [Done.progress, Progress.ids, hresult]
      rfl
    rw [hnone]
    exact .nil _ _
  | ok ids =>
    have hids : ((j.setup config).progress .issuedAll).ids = ids := by
      simp only [Done.progress, Progress.ids, hresult]
      rfl
    obtain ⟨consoles, files, -, -, hattached, hhandlers⟩ := attached_setup h hresult
    have hcleared : j.cleared.registry.Sound := Registry.Evolves.sound h (.single .removeAll)
    have hevolves := (rehandled_setup config j).evolves
    have hsound := Registry.Evolves.sound hcleared hevolves
    rw [hids, hhandlers, ← hattached]
    refine ⟨hsound.attached_increasing, fun id hid => ?_, fun id hid => ?_⟩
    · obtain ⟨handler, hmem, rfl⟩ := List.mem_map.mp hid
      have hnew : handler ∉ j.cleared.registry.attached :=
        cleared_attached h ▸ List.not_mem_nil
      exact lt_id_of_new hcleared hevolves hmem hnew
    · obtain ⟨handler, hmem, rfl⟩ := List.mem_map.mp hid
      exact hsound.id_le_of_mem_attached hmem

theorem ids_changed (j : Journal) (result : Except Fault Journal) :
    (j.changed result).ids = [] := by
  cases result with
  | error fault => rfl
  | ok k => rfl

theorem ids_nothing (result : Except Fault Unit) (journal : Journal) (seen : List Seen) :
    (⟨result.map fun _ => .nothing, journal, seen⟩ : Progress).ids = [] := by
  cases result with
  | error fault => rfl
  | ok done => rfl

theorem newIds_step (h : j.registry.Sound) (command : Command) :
    NewIds j (j.step command).journal (j.step command).ids := by
  cases command with
  | bind | unbind | remove | enable | disable =>
    simp only [step, ids_changed]
    exact .nil _ _
  | log message =>
    have hnone : (j.step (.log message)).ids = [] := ids_nothing _ _ _
    exact hnone ▸ .nil _ _
  | addConsole level =>
    refine newIds_attempt fun k hk => ?_
    obtain ⟨n, -, rfl⟩ := addConsole_eq_ok_iff.mp hk
    rfl
  | addFile path level maxBytes backups =>
    refine newIds_attempt fun k hk => ?_
    obtain ⟨n, disk, -, -, -, rfl⟩ := addFile_eq_ok_iff.mp hk
    rfl
  | setup settings =>
    unfold step
    dsimp only
    cases Config.ofSettings settings with
    | error fault => exact .nil _ _
    | ok config => exact newIds_setup h config
  | teardown ids =>
    have hnone : (j.step (.teardown ids)).ids = [] := ids_nothing _ _ _
    exact hnone ▸ .nil _ _

/-- The ids that the steps of a run answer with, in order. -/
def issuedBy : List Command → Journal → List Nat
  | [], _ => []
  | command :: rest, j => (j.step command).ids ++ issuedBy rest (j.step command).journal

theorem newIds_issuedBy (h : j.registry.Sound) (commands : List Command) :
    NewIds j (j.after commands) (j.issuedBy commands) := by
  induction commands generalizing j with
  | nil => exact .nil j j
  | cons command rest ih =>
    have hfirst := newIds_step h command
    have hevolves := evolves_step command j
    have hlater := ih (Registry.Evolves.sound h hevolves)
    have hissued := Registry.Evolves.issued_le h hevolves
    have hrest := Registry.Evolves.issued_le (Registry.Evolves.sound h hevolves)
      (evolves_after rest (j.step command).journal)
    refine ⟨?_, fun id hid => ?_, fun id hid => ?_⟩
    · refine List.pairwise_append.mpr ⟨hfirst.increasing, hlater.increasing, ?_⟩
      -- What later steps issue is above all that was issued before them.
      intro id hid later hmem
      exact Nat.lt_of_le_of_lt (hfirst.id_le id hid) (hlater.lt_id later hmem)
    · obtain hid | hid := List.mem_append.mp hid
      · exact hfirst.lt_id id hid
      · exact Nat.lt_of_le_of_lt hissued (hlater.lt_id id hid)
    · obtain hid | hid := List.mem_append.mp hid
      · exact Nat.le_trans (hfirst.id_le id hid) hrest
      · exact hlater.id_le id hid

theorem exists_of_setup_step {settings : Table}
    (hok : (j.step (.setup settings)).result = .ok (.issuedAll ids)) :
    ∃ config, Config.ofSettings settings = .ok config ∧ (j.setup config).result = .ok ids ∧
      (j.step (.setup settings)).journal = (j.setup config).journal := by
  unfold step at hok ⊢
  dsimp only at hok ⊢
  cases hconfig : Config.ofSettings settings with
  | error fault =>
    rw [hconfig] at hok
    cases hok
  | ok config =>
    rw [hconfig] at hok
    refine ⟨config, rfl, ?_, rfl⟩
    change (j.setup config).result.map Answer.issuedAll = .ok (.issuedAll ids) at hok
    cases hresult : (j.setup config).result with
    | error fault =>
      rw [hresult] at hok
      cases hok
    | ok given =>
      rw [hresult] at hok
      obtain rfl := Answer.issuedAll.inj (Except.ok.inj hok)
      rfl

/-- **Attached is what is registered.** After any steps, also ones that failed, the attached handlers
are those that are registered, in order of their ids, and no id is given out twice. A setup that
succeeds leaves its own handlers only and answers with their ids. A teardown of these ids right then
leaves none, and one at any later time takes away no handler that was made since. -/
theorem attached_by_id (commands : List Command) :
    let j := start.after commands
    j.registry.attached = j.registry.registered ∧
      (j.registry.attached.map Handler.id).Pairwise (· < ·) ∧
      (start.issuedBy commands).Pairwise (· < ·) ∧
      (∀ more, ∀ handler ∈ (j.after more).registry.attached, handler ∉ j.registry.attached →
        j.registry.issued < handler.id) ∧
      ∀ settings ids, (j.step (.setup settings)).result = .ok (.issuedAll ids) →
        let made := (j.step (.setup settings)).journal
        let teardown := Command.teardown (.list (idValues ids))
        (∃ config consoles files, Config.ofSettings settings = .ok config ∧
          Wanted config.console config.IsConsole consoles ∧
          Wanted config.file config.IsFile files ∧
          made.registry.attached = consoles ++ files ∧
          ids = made.registry.attached.map Handler.id) ∧
        ((made.step teardown).result = .ok .nothing ∧
          (made.step teardown).journal.registry.attached = []) ∧
        ∀ more, ∀ handler ∈ (made.after more).registry.attached,
          handler ∉ made.registry.attached →
            handler ∈ ((made.after more).step teardown).journal.registry.attached := by
  intro j
  have hsound : j.registry.Sound := sound_after Registry.sound_empty commands
  refine ⟨hsound.attached_eq, hsound.attached_increasing,
    (newIds_issuedBy Registry.sound_empty commands).increasing, ?_, ?_⟩
  · intro more handler hmem hnew
    exact lt_id_of_new hsound (evolves_after more j) hmem hnew
  · intro settings ids hok made teardown
    have hmade : made.registry.Sound := Registry.Evolves.sound hsound (evolves_step _ j)
    obtain ⟨config, hconfig, hresult, hjournal⟩ := exists_of_setup_step hok
    obtain ⟨consoles, files, hconsoles, hfiles, hattached, hids⟩ := attached_setup hsound hresult
    have hattached' : made.registry.attached = consoles ++ files :=
      (congrArg (fun j => j.registry.attached) hjournal).trans hattached
    have hids' : ids = made.registry.attached.map Handler.id := by
      rw [hattached', hids]
    refine ⟨⟨config, consoles, files, hconfig, hconsoles, hfiles, hattached', hids'⟩,
      ⟨?_, ?_⟩, ?_⟩
    · have hdone := (teardown_idValues hmade ids).1
      change (made.teardown (.list (idValues ids))).result.map _ = _
      rw [hdone]
      rfl
    · change (made.teardown (.list (idValues ids))).journal.registry.attached = []
      rw [hids']
      exact attached_teardown_self hmade
    · intro more handler hmem hnew
      have hearlier : ∀ id ∈ ids, id ≤ made.registry.issued := by
        intro id hid
        obtain ⟨old, hold, rfl⟩ := List.mem_map.mp (hids' ▸ hid)
        exact hmade.id_le_of_mem_attached hold
      exact mem_teardown_of_new hmade (evolves_after more made) hearlier hmem hnew

end Journal

end DropletReconciler.Log
