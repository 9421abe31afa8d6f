import DropletReconciler.Credentials
import DropletReconciler.Proofs.Accounts

/-!
# Faults of the configuration that are reported as such

Whoever reads the configuration expects one class of errors for everything that can be wrong with it.
Syntax, a missing account, an unknown type and an unknown setting are reported in this way. Bytes that
are no text, numbers that are too long, nesting that is too deep and data of another shape are not:
they come out as the error that the reading ran into. The main result says exactly when this happens
for the files, for the account of a name, and for the token.
-/

namespace DropletReconciler

namespace Config

variable {name : String} {config : Table}

/-! ### The files -/

/-- A file that holds text, in which nothing but the syntax can be at fault. -/
def Decodes (entry : Option FileEntry) : Prop :=
  ∀ bytes, entry = some (.file bytes) → ∃ text, String.fromUTF8? bytes = some text ∧
    ∀ fault, Toml.readChars text.toList = .error fault → fault = .malformed

/-- Files that can be merged once they are read. The project's file is not looked at where the global
one cannot be read. -/
structure Files.Sound (files : Files) : Prop where
  global : Decodes files.global
  project : ∀ lower, readFile .global files.global = .ok lower → Decodes files.project
  levels : ∀ lower upper, readFile .global files.global = .ok lower →
    readFile .project files.project = .ok upper → Table.mergeLevels lower upper ≤ mergeRoom

theorem readFile_text (origin : Origin) (s : String) :
    readFile origin (some (.file s.toUTF8)) =
      (Toml.readChars s.toList).mapError (.unreadable origin) := by
  have hdecoded : String.fromUTF8? s.toUTF8 = some s := by
    unfold String.fromUTF8?
    rw [String.toUTF8_eq_toByteArray, dif_pos s.isValidUTF8]
    rfl
  rw [readFile, Toml.read, hdecoded]

theorem isA_configuration_unreadable_iff {origin : Origin} {fault : Toml.Fault} :
    (Fault.unreadable origin fault).errorClass.isA .configuration = true ↔ fault = .malformed := by
  cases fault with
  | malformed => exact iff_of_true rfl rfl
  | notText | tooLong | tooDeep => exact iff_of_false nofun nofun

theorem failsOnlyAs_readFile_iff (origin : Origin) (entry : Option FileEntry) :
    FailsOnlyAs Fault.errorClass .configuration (readFile origin entry) ↔ Decodes entry := by
  match entry with
  | none => exact iff_of_true (failsOnlyAs_ok _ _ _) nofun
  | some .directory => exact iff_of_true (failsOnlyAs_ok _ _ _) nofun
  | some (.file bytes) =>
    have hdecodes : Decodes (some (.file bytes)) ↔ ∃ text, String.fromUTF8? bytes = some text ∧
        ∀ fault, Toml.readChars text.toList = .error fault → fault = .malformed := by
      simp [Decodes]
    rw [hdecodes, readFile, Toml.read]
    cases String.fromUTF8? bytes with
    | none => exact iff_of_false (fun h => nomatch failsOnlyAs_error_iff.mp h) nofun
    | some text =>
      simp only [Option.some.injEq, exists_eq_left']
      cases Toml.readChars text.toList with
      | ok table => exact iff_of_true (failsOnlyAs_ok _ _ _) nofun
      | error fault =>
        simp only [Except.error.injEq, forall_eq']
        exact failsOnlyAs_error_iff.trans isA_configuration_unreadable_iff

theorem load_of_read {files : Files} {lower upper : Table}
    (hlower : readFile .global files.global = .ok lower)
    (hupper : readFile .project files.project = .ok upper) :
    load files = if mergeRoom < Table.mergeLevels lower upper then .error .tooDeep
      else .ok (ofTables lower upper) := by
  rw [load, hlower, hupper]
  rfl

theorem load_eq_ok_iff {files : Files} :
    load files = .ok config ↔
      ∃ lower upper, readFile .global files.global = .ok lower ∧
        readFile .project files.project = .ok upper ∧
        Table.mergeLevels lower upper ≤ mergeRoom ∧ config = ofTables lower upper := by
  constructor
  · intro h
    obtain ⟨lower, hlower, h⟩ := bind_eq_ok_iff.mp h
    obtain ⟨upper, hupper, h⟩ := bind_eq_ok_iff.mp h
    refine ⟨lower, upper, hlower, hupper, ?_⟩
    split at h
    · cases h
    · next hroom => exact ⟨Nat.le_of_not_lt hroom, (Except.ok.inj h).symm⟩
  · rintro ⟨lower, upper, hlower, hupper, hroom, rfl⟩
    rw [load_of_read hlower hupper, if_neg (Nat.not_lt.mpr hroom)]

theorem failsOnlyAs_load_iff (files : Files) :
    FailsOnlyAs Fault.errorClass .configuration (load files) ↔ files.Sound := by
  have hglobal := failsOnlyAs_readFile_iff .global files.global
  have hproject := failsOnlyAs_readFile_iff .project files.project
  cases hlower : readFile .global files.global with
  | error fault =>
    have hload : load files = .error fault := by
      rw [load, hlower]
      rfl
    rw [hlower] at hglobal
    rw [hload, hglobal]
    refine ⟨fun h => ⟨h, fun _ hread => ?_, fun _ _ hread => ?_⟩, fun h => h.global⟩
    · rw [hlower] at hread
      cases hread
    · rw [hlower] at hread
      cases hread
  | ok lower =>
    have hglobalDecodes : Decodes files.global := hglobal.mp (hlower ▸ failsOnlyAs_ok _ _ _)
    cases hupper : readFile .project files.project with
    | error fault =>
      have hload : load files = .error fault := by
        rw [load, hlower, hupper]
        rfl
      rw [hupper] at hproject
      rw [hload, hproject]
      refine ⟨fun h => ⟨hglobalDecodes, fun _ _ => h, fun _ _ _ hread => ?_⟩,
        fun h => h.project lower hlower⟩
      rw [hupper] at hread
      cases hread
    | ok upper =>
      have hprojectDecodes : Decodes files.project := hproject.mp (hupper ▸ failsOnlyAs_ok _ _ _)
      rw [load_of_read hlower hupper]
      by_cases hdeep : mergeRoom < Table.mergeLevels lower upper
      · rw [if_pos hdeep]
        refine iff_of_false (fun h => nomatch failsOnlyAs_error_iff.mp h) fun h => ?_
        exact absurd (h.levels lower upper hlower hupper) (Nat.not_le_of_lt hdeep)
      · rw [if_neg hdeep]
        refine iff_of_true (failsOnlyAs_ok _ _ _)
          ⟨hglobalDecodes, fun _ _ => hprojectDecodes, fun lower' upper' hlower' hupper' => ?_⟩
        obtain rfl := Except.ok.inj (hlower.symm.trans hlower')
        obtain rfl := Except.ok.inj (hupper.symm.trans hupper')
        exact Nat.le_of_not_lt hdeep

/-! ### The account of a name -/

theorem isPart_iff {part whole : List Char} : isPart part whole = true ↔ part <:+: whole := by
  induction whole with
  | nil => rw [isPart, List.isEmpty_iff, List.infix_nil]
  | cons c rest ih =>
    rw [isPart, Bool.or_eq_true, List.isPrefixOf_iff_prefix, ih, List.infix_cons_iff]

theorem exists_mapM_text_iff {items : List Value} :
    (∃ texts : List String, (items.zipIdx.mapM fun (item, index) =>
      match item with
      | .text s => Except.ok s
      | item => .error (Value.Misuse.itemNotText index item.kind)) = .ok texts) ↔
      ∀ item ∈ items, ∃ s, item = .text s := by
  rw [exists_mapM_iff, ← forall_mem_zipIdx_iff fun item : Value => ∃ s, item = .text s]
  refine forall₂_congr fun pair _ => ?_
  obtain ⟨item, index⟩ := pair
  cases item <;> simp

theorem exists_joinTexts_iff {v : Value} :
    (∃ text, v.joinTexts = .ok text) ↔
      ∃ items, v.items = .ok items ∧ ∀ item ∈ items, ∃ s, item = .text s := by
  unfold Value.joinTexts
  simp only [bind_eq_ok_iff]
  constructor
  · rintro ⟨text, items, hitems, texts, h, -⟩
    exact ⟨items, hitems, exists_mapM_text_iff.mp ⟨texts, h⟩⟩
  · rintro ⟨items, hitems, h⟩
    obtain ⟨texts, htexts⟩ := exists_mapM_text_iff.mpr h
    exact ⟨_, items, hitems, texts, htexts, rfl⟩

/-- What a name can be looked up in. A list or a text has no entry for a name that it holds. -/
def Lists (name : String) : Value → Prop
  | .table fields => ∀ entry, Table.get? name fields = some entry → Describes entry
  | .list items => .text name ∉ items ∧ ∀ item ∈ items, ∃ s, item = .text s
  | .text s => ¬ name.toList <:+: s.toList
  | _ => False

theorem account_table {providers : Value} (name : String)
    (hproviders : (Table.get? "providers" config).getD (.table []) = providers) :
    account (.table config) name =
      match names providers name with
      | .error fault => .error (.misuse fault)
      | .ok true =>
        match providers.field name with
        | .error fault => .error (.misuse fault)
        | .ok entry => accountOf name entry
      | .ok false =>
        match providers.joinTexts with
        | .error fault => .error (.misuse fault)
        | .ok available => .error (.notFound name available) := by
  have hget : (Value.table config).get? "providers" = .ok (Table.get? "providers" config) := rfl
  unfold account
  rw [hget]
  dsimp only [Except.mapError, bind, Except.bind]
  rw [hproviders]
  cases names providers name with
  | error fault => rfl
  | ok known =>
    cases known with
    | true => cases providers.field name <;> rfl
    | false => cases providers.joinTexts <;> rfl

/-- A name that is not there is reported with those that are, which must be texts. -/
theorem failsOnlyAs_unknown_iff (name : String) (providers : Value) :
    FailsOnlyAs Fault.errorClass .configuration
        (match providers.joinTexts with
        | .error fault => .error (.misuse fault)
        | .ok available => .error (.notFound name available) : Except Fault Account) ↔
      ∃ items, providers.items = .ok items ∧ ∀ item ∈ items, ∃ s, item = .text s := by
  rw [← exists_joinTexts_iff]
  cases providers.joinTexts with
  | error fault => exact iff_of_false (not_failsOnlyAs_misuse fault) nofun
  | ok available => exact iff_of_true (failsOnlyAs_error_iff.mpr rfl) ⟨available, rfl⟩

/-- Looking up the account of a name goes wrong only as a fault of the configuration, when the
providers are something that the name can be looked up in. -/
theorem failsOnlyAs_account_iff (config : Table) (name : String) :
    FailsOnlyAs Fault.errorClass .configuration (account (.table config) name) ↔
      Lists name ((Table.get? "providers" config).getD (.table [])) := by
  rw [account_table name rfl]
  generalize (Table.get? "providers" config).getD (.table []) = providers
  cases providers with
  | null | bool | int | float | moment => exact iff_of_false (not_failsOnlyAs_misuse _) id
  | text s =>
    rw [Lists, ← isPart_iff, names]
    cases isPart name.toList s.toList with
    | true => exact iff_of_false (not_failsOnlyAs_misuse _) fun h => h rfl
    | false =>
      refine iff_of_true ((failsOnlyAs_unknown_iff name _).mpr ⟨_, rfl, ?_⟩) Bool.false_ne_true
      intro item hitem
      obtain ⟨c, -, rfl⟩ := List.mem_map.mp hitem
      exact ⟨c.toString, rfl⟩
  | list items =>
    have hitems : (Value.list items).items = .ok items := rfl
    have hcontains : items.contains (.text name) = true ↔ .text name ∈ items :=
      List.contains_iff_mem
    rw [Lists, names, ← hcontains]
    cases items.contains (.text name) with
    | true => exact iff_of_false (not_failsOnlyAs_misuse _) fun h => h.1 rfl
    | false =>
      refine (failsOnlyAs_unknown_iff name _).trans ?_
      simp [hitems]
  | table fields =>
    rw [Lists, names]
    cases hentry : Table.get? name fields with
    | none =>
      refine iff_of_true ((failsOnlyAs_unknown_iff name _).mpr ⟨_, rfl, ?_⟩) ?_
      · intro item hitem
        obtain ⟨field, -, rfl⟩ := List.mem_map.mp hitem
        exact ⟨field.1, rfl⟩
      · intro entry habsent
        cases habsent
    | some entry =>
      have hfield : (Value.table fields).field name = .ok entry := by
        rw [Value.field, hentry]
      dsimp only [Option.isSome]
      rw [hfield]
      simp only [Option.some.injEq, forall_eq', failsOnlyAs_accountOf_iff]

end Config

/-! ### The token -/

theorem isA_credential_config (fault : Config.Fault) :
    (Fault.config fault).errorClass.isA .credential = false := by
  cases fault with
  | unreadable origin fault => cases fault <;> rfl
  | misuse misuse => cases misuse <;> rfl
  | tooDeep | notFound | noType | unknownType | tooLong | settings => rfl

/-- What the configuration reports as its own fault is a fault of the credentials. -/
theorem isA_credential_unresolved_iff {reference : String} {fault : Config.Fault} :
    (Credentials.unresolved reference fault).errorClass.isA .credential = true ↔
      fault.errorClass.isA .configuration = true := by
  unfold Credentials.unresolved
  by_cases h : fault.errorClass.isA .configuration = true
  · rw [if_pos h]
    exact iff_of_true rfl h
  · rw [if_neg h, isA_credential_config]
    exact iff_of_false Bool.false_ne_true h

theorem failsOnlyAs_resolve_iff (config : Table) (name : String) (environment : Environment) :
    FailsOnlyAs Fault.errorClass .credential
        ((Credentials.configured config).resolve environment name) ↔
      FailsOnlyAs Config.Fault.errorClass .configuration (Config.account (.table config) name) ∧
        ∀ account, Config.account (.table config) name = .ok account → account.Usable := by
  have htoken : ∀ account : Account, FailsOnlyAs Fault.errorClass .credential
      ((account.resolveToken environment).mapError Fault.token) ↔ account.Usable := by
    intro account
    rw [← Account.failsOnlyAs_resolveToken_iff environment]
    cases account.resolveToken environment with
    | error fault =>
      rw [Except.mapError, failsOnlyAs_error_iff, failsOnlyAs_error_iff]
      rfl
    | ok token => exact iff_of_true (failsOnlyAs_ok _ _ _) (failsOnlyAs_ok _ _ _)
  dsimp only [Credentials.resolve]
  cases Config.account (.table config) name with
  | error fault =>
    simp only [failsOnlyAs_error_iff, isA_credential_unresolved_iff, reduceCtorEq,
      IsEmpty.forall_iff, implies_true, and_true]
  | ok account =>
    simp only [htoken, failsOnlyAs_ok, Except.ok.injEq, forall_eq', true_and]

/-- **Faults that are reported as such.** Loading goes wrong only as a fault of the configuration when
the files hold text without too long numbers or too deep nesting, and the tables can be merged.
Looking up the account of a name does so when the providers are a table, or something else that does
not hold the name, and the entry spells out settings with a type that can be named. The token then
goes wrong only as a fault of the credentials, unless it is looked for in a variable whose name is no
text. -/
theorem misconfiguration_reported_iff (files : Config.Files) (name : String)
    (environment : Environment) :
    (FailsOnlyAs Config.Fault.errorClass .configuration (Config.load files) ↔ files.Sound) ∧
      ∀ config, Config.load files = .ok config →
        (FailsOnlyAs Config.Fault.errorClass .configuration (Config.account (.table config) name) ↔
          Config.Lists name ((Table.get? "providers" config).getD (.table []))) ∧
        (FailsOnlyAs Fault.errorClass .credential
            ((Credentials.configured config).resolve environment name) ↔
          Config.Lists name ((Table.get? "providers" config).getD (.table [])) ∧
            ∀ account, Config.account (.table config) name = .ok account → account.Usable) := by
  refine ⟨Config.failsOnlyAs_load_iff files, fun config _ => ?_⟩
  rw [failsOnlyAs_resolve_iff, Config.failsOnlyAs_account_iff]
  exact ⟨Iff.rfl, Iff.rfl⟩

/-- Bytes that are no text. -/
theorem load_no_text :
    ¬ FailsOnlyAs Config.Fault.errorClass .configuration
      (Config.load ⟨none, some (.file ⟨#[0xff]⟩)⟩) := by
  rw [Config.failsOnlyAs_load_iff]
  intro h
  obtain ⟨text, htext, -⟩ := h.project [] rfl _ rfl
  have hnone : String.fromUTF8? ⟨#[0xff]⟩ = none := by decide
  exact absurd (hnone.symm.trans htext) nofun

end DropletReconciler
