import DropletReconciler.Proofs.Misconfiguration
import DropletReconciler.Proofs.Nesting
import DropletReconciler.Resolver

/-!
# The token that two files and the environment give

The files are merged, an account is built from what both have under its name, and its token is taken
from there or from the environment. Together these steps read the settings of the two entries of that
name, the upper one before the lower, and nothing else. A resolver goes on with what it has read when
it was opened.
-/

namespace DropletReconciler

namespace Account

theorem resolveToken_eq_ok_iff {account : Account} {environment : Environment} {key : String}
    {token : Value} (hvariable : account.tokenVariable = .text key) :
    account.resolveToken environment = .ok token ↔
      account.token.isPresent = true ∧ token = account.token ∨
        account.token.isPresent = false ∧
          ∃ text, environment.lookup key = some text ∧ text ≠ "" ∧ token = .text text := by
  cases hpresent : account.token.isPresent with
  | true =>
    rw [resolveToken_of_present environment hpresent]
    simp [eq_comm]
  | false =>
    rw [resolveToken_of_absent environment hpresent, hvariable, lookUp]
    cases environment.lookup key with
    | none => simp
    | some text =>
      by_cases hempty : text = ""
      · simp [Option.filter, hempty]
      · have hkept : (!text.isEmpty) = true := by simpa using hempty
        simp [Option.filter, hkept, hempty, eq_comm]

end Account

namespace Config

variable {name : String} {config lower upper : Table}

/-! ### The account of a name -/

/-- The entry of a name; one that is not there counts as empty. -/
def entryOf (name : String) (config : Table) : Table :=
  Table.child name (Table.child "providers" config)

/-- The providers and the entry of a name are tables, and its settings are texts, as far as they are
there. -/
structure WellTyped (name : String) (config : Table) : Prop where
  providers : Table.Nests "providers" config
  entry : Table.Nests name (Table.child "providers" config)
  texts : ∀ key ∈ settingNames, ∀ value, Table.get? key (entryOf name config) = some value →
    ∃ s, value = .text s

theorem keyed_entryOf (h : Table.Keyed config) (name : String) :
    Table.Keyed (entryOf name config) :=
  (h.child "providers").child name

theorem WellTyped.of_texts {fields : Table} (h : ∀ field ∈ fields, ∃ s, field.2 = .text s) :
    WellTyped name [("providers", .table [(name, .table fields)])] := by
  have hentry : Table.get? name [(name, .table fields)] = some (.table fields) := by
    rw [Table.get?_cons, if_pos rfl]
  constructor
  · intro value hvalue
    exact ⟨_, (Option.some.inj hvalue).symm⟩
  · intro value hvalue
    exact ⟨fields, Option.some.inj (hvalue.symm.trans hentry)⟩
  · intro key _ value hvalue
    have hfields : entryOf name [("providers", .table [(name, .table fields)])] = fields :=
      Table.child_of_get? hentry
    rw [hfields] at hvalue
    exact h _ (Table.mem_of_get?_eq_some hvalue)

theorem account_withProviders (config : Table) (name : String) :
    account (.table (withProviders config)) name = account (.table config) name := by
  have hproviders : (Table.get? "providers" (withProviders config)).getD (.table []) =
      (Table.get? "providers" config).getD (.table []) := by
    unfold withProviders
    cases hget : Table.get? "providers" config with
    | some providers => simp [hget]
    | none =>
      have habsent := Table.get?_eq_none_iff.mp hget
      rw [if_neg (by simp), ← Table.put_of_not_mem habsent, Table.get?_put_self]
      rfl
  rw [account_table name hproviders, account_table name rfl]

theorem WellTyped.account_eq_ok_iff {account : Account} (h : WellTyped name config)
    (hnodup : (Table.keys (entryOf name config)).Nodup) :
    Config.account (.table config) name = .ok account ↔
      Table.get? "type" (entryOf name config) = some (.text Account.typeName) ∧
        (∀ key ∈ Table.keys (entryOf name config), key ∈ settingNames) ∧
        account = settled (entryOf name config) := by
  have hnames : names (.table (Table.child "providers" config)) name =
      .ok (Table.get? name (Table.child "providers" config)).isSome := rfl
  rw [account_table name h.providers.getD_get?, hnames]
  -- A name that is not there ends in another fault than an empty entry, but in a fault as well.
  obtain hget | hget := h.entry.cases
  · have hentry : entryOf name config = [] := Table.child_of_absent hget
    rw [hget, hentry]
    refine iff_of_false ?_ fun habsent => nomatch habsent.1
    dsimp only [Option.isSome]
    cases (Value.table (Table.child "providers" config)).joinTexts <;> exact nofun
  · have hfield : (Value.table (Table.child "providers" config)).field name =
        .ok (.table (entryOf name config)) := by
      rw [Value.field, hget]
      rfl
    rw [hget, hfield]
    exact accountOf_table_eq_ok_iff hnodup

theorem WellTyped.failsOnlyAs_account (h : WellTyped name config)
    (hnodup : (Table.keys (entryOf name config)).Nodup) :
    FailsOnlyAs Fault.errorClass .configuration (Config.account (.table config) name) := by
  rw [failsOnlyAs_account_iff, h.providers.getD_get?, Lists]
  intro entry hentry
  obtain ⟨fields, rfl⟩ := h.entry entry hentry
  have hfields : entryOf name config = fields := Table.child_of_get? hentry
  refine ⟨trivial, fun pairs type hpairs htype => ?_⟩
  obtain rfl : Table.settings fields = pairs := Except.ok.inj hpairs
  rw [settingOf_settings (hfields ▸ hnodup)] at htype
  obtain ⟨s, rfl⟩ := h.texts "type" (by decide) type (by rw [hfields]; exact htype)
  trivial

/-! ### Entries of two files -/

/-- The value of a setting: what the upper entry has, else what the lower one has. -/
def setting (key : String) (lower upper : Table) : Option Value :=
  (Table.get? key upper).or (Table.get? key lower)

theorem entryOf_merge (hkeyed : Table.Keyed upper) (hlower : WellTyped name lower)
    (hupper : WellTyped name upper) :
    entryOf name (Table.merge lower upper) =
      Table.merge (entryOf name lower) (entryOf name upper) := by
  unfold entryOf
  rw [Table.child_merge hkeyed hlower.providers hupper.providers,
    Table.child_merge (hkeyed.child _) hlower.entry hupper.entry]

theorem get?_entryOf_merge (hkeyed : Table.Keyed upper) (hlower : WellTyped name lower)
    (hupper : WellTyped name upper) {key : String} (hkey : key ∈ settingNames) :
    Table.get? key (entryOf name (Table.merge lower upper)) =
      setting key (entryOf name lower) (entryOf name upper) := by
  rw [entryOf_merge hkeyed hlower hupper,
    Table.get?_merge (keyed_entryOf hkeyed name).nodup_keys, setting]
  cases hget : Table.get? key (entryOf name upper) with
  | none => rfl
  | some value =>
    obtain ⟨s, rfl⟩ := hupper.texts key hkey value hget
    rfl

theorem WellTyped.setting_eq_text (hlower : WellTyped name lower) (hupper : WellTyped name upper)
    {key : String} (hkey : key ∈ settingNames) {value : Value}
    (h : setting key (entryOf name lower) (entryOf name upper) = some value) :
    ∃ s, value = .text s := by
  obtain hget | ⟨-, hget⟩ := Option.or_eq_some_iff.mp h
  · exact hupper.texts key hkey value hget
  · exact hlower.texts key hkey value hget

theorem WellTyped.merge (hkeyed : Table.Keyed upper) (hlower : WellTyped name lower)
    (hupper : WellTyped name upper) : WellTyped name (Table.merge lower upper) where
  providers := Table.nests_merge hkeyed hlower.providers hupper.providers
  entry := by
    rw [Table.child_merge hkeyed hlower.providers hupper.providers]
    exact Table.nests_merge (hkeyed.child _) hlower.entry hupper.entry
  texts := by
    intro key hkey value hvalue
    rw [get?_entryOf_merge hkeyed hlower hupper hkey] at hvalue
    exact hlower.setting_eq_text hupper hkey hvalue

/-! ### Tokens -/

/-- The token that two entries and the environment give. -/
inductive Gives (lower upper : Table) (environment : Environment) : String → Prop
  | own {token : String} (htoken : setting "token" lower upper = some (.text token))
      (hne : token ≠ "") : Gives lower upper environment token
  | found {key token : String}
      (hempty : ∀ own, setting "token" lower upper = some (.text own) → own = "")
      (hkey : (setting "token_env" lower upper).getD (.text Account.usualVariable) = .text key)
      (hfound : environment.lookup key = some token) (hne : token ≠ "") :
      Gives lower upper environment token

/-- Two entries that make an account, and the token that it gives. -/
structure Grants (lower upper : Table) (environment : Environment) (token : String) : Prop where
  type : setting "type" lower upper = some (.text Account.typeName)
  known : ∀ key, key ∈ Table.keys lower ∨ key ∈ Table.keys upper → key ∈ settingNames
  gives : Gives lower upper environment token

variable {environment : Environment} {token : Value}

theorem WellTyped.exists_variable (hlower : WellTyped name lower) (hupper : WellTyped name upper) :
    ∃ key, (setting "token_env" (entryOf name lower) (entryOf name upper)).getD
      (.text Account.usualVariable) = .text key := by
  cases h : setting "token_env" (entryOf name lower) (entryOf name upper) with
  | none => exact ⟨_, rfl⟩
  | some value => exact hlower.setting_eq_text hupper (by decide) h

theorem settled_entryOf_merge (hkeyed : Table.Keyed upper) (hlower : WellTyped name lower)
    (hupper : WellTyped name upper) :
    settled (entryOf name (Table.merge lower upper)) =
      ⟨(setting "token" (entryOf name lower) (entryOf name upper)).getD .null,
        (setting "token_env" (entryOf name lower) (entryOf name upper)).getD
          (.text Account.usualVariable)⟩ := by
  have hsetting : ∀ key ∈ settingNames,
      Table.get? key (entryOf name (Table.merge lower upper)) =
        setting key (entryOf name lower) (entryOf name upper) :=
    fun _ => get?_entryOf_merge hkeyed hlower hupper
  rw [settled, hsetting "token" (by decide), hsetting "token_env" (by decide)]

theorem resolveToken_settled_iff (hkeyed : Table.Keyed upper) (hlower : WellTyped name lower)
    (hupper : WellTyped name upper) :
    (settled (entryOf name (Table.merge lower upper))).resolveToken environment = .ok token ↔
      ∃ text, token = .text text ∧
        Gives (entryOf name lower) (entryOf name upper) environment text := by
  obtain ⟨key, hkey⟩ := hlower.exists_variable hupper
  rw [settled_entryOf_merge hkeyed hlower hupper, Account.resolveToken_eq_ok_iff hkey]
  constructor
  · rintro (⟨hpresent, rfl⟩ | ⟨habsent, text, hfound, hne, rfl⟩)
    · cases hown : setting "token" (entryOf name lower) (entryOf name upper) with
      | none =>
        rw [hown] at hpresent
        cases hpresent
      | some value =>
        obtain ⟨own, rfl⟩ := hlower.setting_eq_text hupper (by decide) hown
        rw [hown] at hpresent
        exact ⟨own, rfl, .own hown (by simpa [Value.isPresent] using hpresent)⟩
    · refine ⟨text, rfl, .found (fun own hown => ?_) hkey hfound hne⟩
      rw [hown] at habsent
      simpa [Value.isPresent] using habsent
  · rintro ⟨text, rfl, hgives⟩
    cases hgives with
    | own hown hne =>
      rw [hown]
      exact .inl ⟨by simpa [Value.isPresent] using hne, rfl⟩
    | found hempty hkey' hfound hne =>
      obtain rfl : key = _ := Value.text.inj (hkey.symm.trans hkey')
      refine .inr ⟨?_, text, hfound, hne, rfl⟩
      cases hown : setting "token" (entryOf name lower) (entryOf name upper) with
      | none => rfl
      | some value =>
        obtain ⟨own, rfl⟩ := hlower.setting_eq_text hupper (by decide) hown
        rw [hempty own hown]
        rfl

theorem resolve_configured_eq_ok_iff :
    (Credentials.configured config).resolve environment name = .ok token ↔
      ∃ account, Config.account (.table config) name = .ok account ∧
        account.resolveToken environment = .ok token := by
  dsimp only [Credentials.resolve]
  cases Config.account (.table config) name with
  | error fault => exact iff_of_false nofun nofun
  | ok account =>
    simp only [mapError_eq_ok_iff, Except.ok.injEq, exists_eq_left']

section

variable (hlowerKeyed : Table.Keyed lower) (hkeyed : Table.Keyed upper)
  (hlower : WellTyped name lower) (hupper : WellTyped name upper)

include hlowerKeyed hkeyed hlower hupper

theorem nodup_entryOf_merge : (Table.keys (entryOf name (Table.merge lower upper))).Nodup := by
  rw [entryOf_merge hkeyed hlower hupper]
  exact Table.nodup_keys_merge (keyed_entryOf hlowerKeyed name).nodup_keys
    (keyed_entryOf hkeyed name).nodup_keys

theorem resolve_ofTables_eq_ok_iff (environment : Environment) (token : Value) :
    (Credentials.configured (ofTables lower upper)).resolve environment name = .ok token ↔
      ∃ text, token = .text text ∧
        Grants (entryOf name lower) (entryOf name upper) environment text := by
  have hmerge := hlower.merge hkeyed hupper
  have hnodup := nodup_entryOf_merge hlowerKeyed hkeyed hlower hupper
  have hknown : ∀ key, key ∈ Table.keys (entryOf name (Table.merge lower upper)) ↔
      key ∈ Table.keys (entryOf name lower) ∨ key ∈ Table.keys (entryOf name upper) := by
    intro key
    rw [entryOf_merge hkeyed hlower hupper]
    exact Table.mem_keys_merge_iff (keyed_entryOf hkeyed name).nodup_keys
  rw [resolve_configured_eq_ok_iff, ofTables, account_withProviders]
  simp only [hmerge.account_eq_ok_iff hnodup, get?_entryOf_merge hkeyed hlower hupper
    (show "type" ∈ settingNames by decide), hknown]
  constructor
  · rintro ⟨account, ⟨htype, hnames, rfl⟩, htoken⟩
    obtain ⟨text, htext, hgives⟩ := (resolveToken_settled_iff hkeyed hlower hupper).mp htoken
    exact ⟨text, htext, htype, hnames, hgives⟩
  · rintro ⟨text, htext, hgrants⟩
    refine ⟨_, ⟨hgrants.type, hgrants.known, rfl⟩, ?_⟩
    exact (resolveToken_settled_iff hkeyed hlower hupper).mpr ⟨text, htext, hgrants.gives⟩

theorem failsOnlyAs_resolve_ofTables (environment : Environment) :
    FailsOnlyAs DropletReconciler.Fault.errorClass .credential
      ((Credentials.configured (ofTables lower upper)).resolve environment name) := by
  have hmerge := hlower.merge hkeyed hupper
  have hnodup := nodup_entryOf_merge hlowerKeyed hkeyed hlower hupper
  rw [failsOnlyAs_resolve_iff, ofTables, account_withProviders]
  refine ⟨hmerge.failsOnlyAs_account hnodup, fun account haccount => ?_⟩
  obtain ⟨-, -, rfl⟩ := (hmerge.account_eq_ok_iff hnodup).mp haccount
  obtain ⟨key, hkey⟩ := hlower.exists_variable hupper
  rw [settled_entryOf_merge hkeyed hlower hupper]
  exact .inr ⟨key, hkey⟩

end

theorem keyed_of_readFile {origin : Origin} {entry : Option FileEntry} {table : Table}
    (h : readFile origin entry = .ok table) : Table.Keyed table := by
  match entry with
  | none | some .directory =>
    obtain rfl : [] = table := Except.ok.inj h
    exact Table.Keyed.nil
  | some (.file bytes) => exact Toml.keyed_of_read (mapError_eq_ok_iff.mp h)

end Config

namespace Resolver

variable {lower upper : Table} {r : Resolver}

/-- Resolvers that were opened on two files with these tables, whatever happened since then. -/
inductive OpenedOn (lower upper : Table) : Resolver → Prop
  | opened {r : Resolver} (hlower : Config.readFile .global r.files.global = .ok lower)
      (hupper : Config.readFile .project r.files.project = .ok upper)
      (hopened : (r.answer .reopen).1 = .ok .done) : OpenedOn lower upper (r.answer .reopen).2
  | asked {r : Resolver} {request : Request} (hopened : OpenedOn lower upper r)
      (hkept : request ≠ .reopen) : OpenedOn lower upper (r.answer request).2

theorem credentials_answer {request : Request} (h : request ≠ .reopen) (r : Resolver) :
    (r.answer request).2.credentials = r.credentials := by
  cases request with
  | replace | resolve => rfl
  | reopen => exact absurd rfl h

theorem answer_reopen (hlower : Config.readFile .global r.files.global = .ok lower)
    (hupper : Config.readFile .project r.files.project = .ok upper) :
    r.answer .reopen =
      if Config.mergeRoom < Table.mergeLevels lower upper then (.error (.config .tooDeep), r)
      else (.ok .done, { r with credentials := .configured (Config.ofTables lower upper) }) := by
  dsimp only [answer, Credentials.ofFiles]
  rw [Config.load_of_read hlower hupper]
  by_cases hdeep : Config.mergeRoom < Table.mergeLevels lower upper
  · rw [if_pos hdeep, if_pos hdeep]
    rfl
  · rw [if_neg hdeep, if_neg hdeep]
    rfl

theorem OpenedOn.credentials_eq (h : OpenedOn lower upper r) :
    r.credentials = .configured (Config.ofTables lower upper) := by
  induction h with
  | opened hlower hupper hopened =>
    rw [answer_reopen hlower hupper] at hopened ⊢
    split at hopened
    · cases hopened
    · next hshallow => rw [if_neg hshallow]
  | asked _ hkept ih => rw [credentials_answer hkept, ih]

theorem OpenedOn.keyed (h : OpenedOn lower upper r) :
    Table.Keyed lower ∧ Table.Keyed upper := by
  induction h with
  | opened hlower hupper _ =>
    exact ⟨Config.keyed_of_readFile hlower, Config.keyed_of_readFile hupper⟩
  | asked _ _ ih => exact ih

section

variable {name : String} (environment : Environment) (hopened : OpenedOn lower upper r)
  (hlower : Config.WellTyped name lower) (hupper : Config.WellTyped name upper)

include hopened hlower hupper

theorem answer_resolve_eq_ok_iff (response : Response) :
    (r.answer (.resolve name environment)).1 = .ok response ↔
      ∃ text, response = .token (.text text) ∧
        Config.Grants (Config.entryOf name lower) (Config.entryOf name upper) environment text := by
  obtain ⟨hlowerKeyed, hupperKeyed⟩ := hopened.keyed
  have hresolve :=
    Config.resolve_ofTables_eq_ok_iff hlowerKeyed hupperKeyed hlower hupper environment
  rw [answer, hopened.credentials_eq]
  cases hresult :
    (Credentials.configured (Config.ofTables lower upper)).resolve environment name with
  | error fault =>
    refine iff_of_false nofun ?_
    rintro ⟨text, -, hgrants⟩
    exact nomatch hresult.symm.trans ((hresolve (.text text)).mpr ⟨text, rfl, hgrants⟩)
  | ok token =>
    obtain ⟨text, rfl, hgrants⟩ := (hresolve token).mp hresult
    constructor
    · intro h
      exact ⟨text, (Except.ok.inj h).symm, hgrants⟩
    · rintro ⟨other, rfl, hother⟩
      have hsame := hresult.symm.trans ((hresolve (.text other)).mpr ⟨other, rfl, hother⟩)
      rw [Except.ok.inj hsame]
      rfl

theorem failsOnlyAs_answer_resolve :
    FailsOnlyAs Fault.errorClass .credential (r.answer (.resolve name environment)).1 := by
  obtain ⟨hlowerKeyed, hupperKeyed⟩ := hopened.keyed
  have hresolve := Config.failsOnlyAs_resolve_ofTables hlowerKeyed hupperKeyed hlower hupper
    environment
  rw [answer, hopened.credentials_eq]
  cases hresult :
    (Credentials.configured (Config.ofTables lower upper)).resolve environment name with
  | error fault =>
    rw [hresult] at hresolve
    exact failsOnlyAs_error_iff.mpr (failsOnlyAs_error_iff.mp hresolve)
  | ok token => exact failsOnlyAs_ok _ _ _

end

/-- **Tokens from two files.** A resolver that was opened on two files gives the token that the two
entries of a name and the environment grant, and fails as credentials do where they grant none. Two
resolvers whose files agree on the entries of the name give the same token, or none. -/
theorem resolves_granted_token (name : String) (environment : Environment)
    (hopened : OpenedOn lower upper r) (hlower : Config.WellTyped name lower)
    (hupper : Config.WellTyped name upper) :
    (∀ text, (r.answer (.resolve name environment)).1 = .ok (.token (.text text)) ↔
      Config.Grants (Config.entryOf name lower) (Config.entryOf name upper) environment text) ∧
    ((∀ text, ¬ Config.Grants (Config.entryOf name lower) (Config.entryOf name upper)
        environment text) →
      ∃ fault, (r.answer (.resolve name environment)).1 = .error fault ∧
        fault.errorClass.isA .credential = true) ∧
    ∀ (lower' upper' : Table) (r' : Resolver), OpenedOn lower' upper' r' →
      Config.WellTyped name lower' → Config.WellTyped name upper' →
      Config.entryOf name lower' = Config.entryOf name lower →
      Config.entryOf name upper' = Config.entryOf name upper →
      (r'.answer (.resolve name environment)).1.toOption =
        (r.answer (.resolve name environment)).1.toOption := by
  have hanswer := answer_resolve_eq_ok_iff environment hopened hlower hupper
  refine ⟨fun text => ?_, fun hnone => ?_, ?_⟩
  · rw [hanswer]
    simp
  · cases hresult : (r.answer (.resolve name environment)).1 with
    | ok response =>
      obtain ⟨text, -, hgrants⟩ := (hanswer response).mp hresult
      exact absurd hgrants (hnone text)
    | error fault =>
      exact ⟨fault, rfl, failsOnlyAs_answer_resolve environment hopened hlower hupper fault hresult⟩
  · intro lower' upper' r' hopened' hlower' hupper' hsameLower hsameUpper
    have hanswer' := answer_resolve_eq_ok_iff environment hopened' hlower' hupper'
    rw [hsameLower, hsameUpper] at hanswer'
    refine Option.ext fun response => ?_
    rw [toOption_eq_some_iff, toOption_eq_some_iff, hanswer', hanswer]

def teamDefaults : String :=
  "[providers.web]\ntype = \"digitalocean\"\ntoken_env = \"TEAM_TOKEN\"\n"

def teamProject : String := "[providers.web]\ntoken = \"\"\n"

def teamStart : Resolver where
  files := ⟨some (.file teamDefaults.toUTF8), some (.file teamProject.toUTF8)⟩
  credentials := .fromEnvironment .null

/-- The files that were read are gone by now. -/
def teamResolver : Resolver :=
  ((teamStart.answer .reopen).2.answer (.replace (some none) (some none))).2

theorem resolves_granted_token_team :
    (teamResolver.answer (.resolve "web" [("TEAM_TOKEN", "dop_v1_team")])).1 =
      .ok (.token (.text "dop_v1_team")) := by
  have hlower : Config.readFile .global teamStart.files.global =
      .ok [("providers", .table [("web", .table
        [("type", .text "digitalocean"), ("token_env", .text "TEAM_TOKEN")])])] := by
    rw [teamStart, Config.readFile_text]
    decide +kernel
  have hupper : Config.readFile .project teamStart.files.project =
      .ok [("providers", .table [("web", .table [("token", .text "")])])] := by
    rw [teamStart, Config.readFile_text]
    decide +kernel
  have hdone : (teamStart.answer .reopen).1 = .ok .done := by
    rw [answer_reopen hlower hupper, if_neg (by decide)]
  have hopened : OpenedOn _ _ teamResolver := .asked (.opened hlower hupper hdone) nofun
  have hknown : ∀ key ∈ ["type", "token_env"] ++ ["token"], key ∈ Config.settingNames := by decide
  refine ((resolves_granted_token "web" _ hopened (.of_texts ?_) (.of_texts ?_)).1 _).mpr
    ⟨rfl, fun key hkey => hknown key (List.mem_append.mpr hkey), ?_⟩
  · simp
  · simp
  · refine .found ?_ rfl rfl (by decide)
    intro own hown
    exact (Value.text.inj (Option.some.inj hown)).symm

end Resolver

end DropletReconciler
