import DropletReconciler.Fault
import DropletReconciler.Proofs.ExternalName
import DropletReconciler.Proofs.Pairs

/-!
# Accounts that an entry describes

An entry of the configuration describes an account when it spells out settings, among them the type
of the provider and at most a token and the name of a variable.
-/

namespace DropletReconciler

/-- Whatever goes wrong is an error of a class. -/
def FailsOnlyAs {ε α : Type} (classOf : ε → ErrorClass) (cls : ErrorClass) (result : Except ε α) :
    Prop :=
  ∀ fault, result = .error fault → (classOf fault).isA cls = true

theorem failsOnlyAs_ok {ε α : Type} (classOf : ε → ErrorClass) (cls : ErrorClass) (a : α) :
    FailsOnlyAs classOf cls (.ok a) := nofun

theorem failsOnlyAs_error_iff {ε α : Type} {classOf : ε → ErrorClass} {cls : ErrorClass}
    {fault : ε} :
    FailsOnlyAs classOf cls (.error fault : Except ε α) ↔ (classOf fault).isA cls = true := by
  constructor
  · exact fun h => h fault rfl
  · rintro h fault' hfault
    obtain rfl := Except.error.inj hfault
    exact h

theorem mapError_eq_ok_iff {ε δ α : Type} {f : ε → δ} {result : Except ε α} {a : α} :
    result.mapError f = .ok a ↔ result = .ok a := by
  cases result with
  | error fault => exact iff_of_false nofun nofun
  | ok b => simp only [Except.mapError, Except.ok.injEq]

theorem toOption_eq_some_iff {ε α : Type} {result : Except ε α} {a : α} :
    result.toOption = some a ↔ result = .ok a := by
  cases result with
  | error fault => exact iff_of_false nofun nofun
  | ok b => simp [Except.toOption]

/-- The values that can be looked up and put into a message. -/
def Value.Nameable : Value → Prop
  | .list _ | .table _ => False
  | .int n => n.natAbs < Nat.pow 10 Numeral.maxDigits
  | _ => True

/-! ### Settings of a table -/

/-- The settings that a table spells out. -/
def Table.settings (fields : Table) : List (Value × Value) :=
  fields.map fun field => (.text field.1, field.2)

theorem settingOf_cons (key : String) (pair : Value × Value) (pairs : List (Value × Value)) :
    settingOf key (pair :: pairs) =
      (settingOf key pairs).or (if pair.1 = .text key then some pair.2 else none) := by
  unfold settingOf
  by_cases hpair : pair.1 = .text key
  · rw [List.filter_cons_of_pos (by simpa), List.getLast?_cons, if_pos hpair]
    cases (pairs.filter fun pair => pair.1 = .text key).getLast? <;> rfl
  · rw [List.filter_cons_of_neg (by simpa), if_neg hpair, Option.or_none]

theorem settingOf_settings {fields : Table} (hnodup : (Table.keys fields).Nodup) (key : String) :
    settingOf key fields.settings = Table.get? key fields := by
  induction fields with
  | nil => rfl
  | cons field rest ih =>
    obtain ⟨hnew, hrest⟩ : field.1 ∉ Table.keys rest ∧ (Table.keys rest).Nodup :=
      List.nodup_cons.mp hnodup
    have hcons : Table.settings (field :: rest) =
        (.text field.1, field.2) :: Table.settings rest := rfl
    rw [hcons, settingOf_cons, ih hrest, Table.get?_cons]
    by_cases hkey : key = field.1
    · subst hkey
      rw [Table.get?_eq_none_iff.mpr hnew, if_pos rfl, if_pos rfl, Option.none_or]
    · rw [if_neg (by simpa using Ne.symm hkey), if_neg hkey, Option.or_none]

theorem Value.putPair_of_new {key value : Value} {kept : List (Value × Value)}
    (hnew : ∀ pair ∈ kept, pair.1.alike key = false) :
    putPair key value kept = kept ++ [(key, value)] := by
  induction kept with
  | nil => rfl
  | cons pair rest ih =>
    obtain ⟨hpair, hrest⟩ := List.forall_mem_cons.mp hnew
    rw [putPair, hpair, if_neg Bool.false_ne_true, ih hrest]
    rfl

theorem distinct_settings {fields : Table} (hnodup : (Table.keys fields).Nodup) :
    fields.settings.foldl (fun kept (name, value) => Value.putPair name value kept) [] =
      fields.settings := by
  induction fields using List.reverseRecOn with
  | nil => rfl
  | append_singleton earlier last ih =>
    have hsettings : Table.settings (earlier ++ [last]) =
        Table.settings earlier ++ [(.text last.1, last.2)] := List.map_append
    have hkeys : Table.keys (earlier ++ [last]) = Table.keys earlier ++ [last.1] := List.map_append
    rw [hkeys, List.nodup_append] at hnodup
    obtain ⟨hearlier, -, hapart⟩ := hnodup
    rw [hsettings, List.foldl_append, ih hearlier]
    apply Value.putPair_of_new
    intro pair hpair
    obtain ⟨field, hfield, rfl⟩ := List.mem_map.mp hpair
    have hne : field.1 ≠ last.1 :=
      hapart field.1 (List.mem_map_of_mem hfield) last.1 (List.mem_singleton.mpr rfl)
    rw [Bool.eq_false_iff]
    intro halike
    exact hne (Value.text.inj (Value.alike_text_iff.mp halike))

/-! ### Accounts with given settings -/

namespace Account

/-- Settings of a table are set one after another. -/
theorem mapM_settings (fields : Table) :
    (fields.settings.mapM fun (name, value) =>
      match name with
      | .text name => Except.ok (name, value)
      | _ => .error SettingsFault.notNamed) = .ok fields := by
  induction fields with
  | nil => rfl
  | cons field rest ih =>
    have hcons : Table.settings (field :: rest) =
        (.text field.1, field.2) :: Table.settings rest := rfl
    rw [hcons, List.mapM_cons, ih]
    rfl

theorem ofSettings_settings (fields : Table) :
    ofSettings fields.settings =
      fields.foldlM (fun account field => account.set field.1 field.2) usual :=
  congrArg (fun named : Except SettingsFault (List (String × Value)) => named >>= fun fields =>
    fields.foldlM (fun (account : Account) (field : String × Value) =>
      account.set field.1 field.2) usual) (mapM_settings fields)

theorem foldlM_set_eq_ok_iff {fields : Table} {start account : Account}
    (hnodup : (Table.keys fields).Nodup) :
    fields.foldlM (fun account field => account.set field.1 field.2) start = .ok account ↔
      (∀ key ∈ Table.keys fields, key = "token" ∨ key = "token_env") ∧
        account = ⟨(Table.get? "token" fields).getD start.token,
          (Table.get? "token_env" fields).getD start.tokenVariable⟩ := by
  induction fields generalizing start with
  | nil =>
    rw [List.foldlM_nil]
    exact ⟨fun h => ⟨nofun, (Except.ok.inj h).symm⟩, fun h => congrArg Except.ok h.2.symm⟩
  | cons field rest ih =>
    obtain ⟨key, value⟩ := field
    obtain ⟨hnew, hrest⟩ : key ∉ Table.keys rest ∧ (Table.keys rest).Nodup :=
      List.nodup_cons.mp hnodup
    have hkeys : Table.keys ((key, value) :: rest) = key :: Table.keys rest := rfl
    have habsent := Table.get?_eq_none_iff.mpr hnew
    rw [List.foldlM_cons, bind_eq_ok_iff, hkeys, List.forall_mem_cons, Table.get?_cons,
      Table.get?_cons]
    by_cases htoken : key = "token"
    · subst htoken
      have hset : start.set "token" value = .ok { start with token := value } := if_pos rfl
      simp only [hset, Except.ok.injEq, exists_eq_left', ih hrest, habsent, true_or, true_and,
        if_true, Option.getD_none, Option.getD_some, String.reduceEq, if_false]
    · by_cases hvariable : key = "token_env"
      · subst hvariable
        have hset : start.set "token_env" value = .ok { start with tokenVariable := value } := by
          rw [set, if_neg htoken, if_pos rfl]
        simp only [hset, Except.ok.injEq, exists_eq_left', ih hrest, habsent, or_true, true_and,
          if_true, Option.getD_none, Option.getD_some, String.reduceEq, if_false]
      · have hset : start.set key value = .error (.refuse owner key) := by
          rw [set, if_neg htoken, if_neg hvariable]
        simp only [hset, htoken, hvariable, reduceCtorEq, false_and, exists_false, or_self]

/-! ### The token of an account -/

variable {account : Account}

/-- An account with a token, or with the name of a variable to look for one in. -/
def Usable (account : Account) : Prop :=
  account.token.isPresent = true ∨ ∃ key, account.tokenVariable = .text key

theorem resolveToken_of_present (environment : Environment) (h : account.token.isPresent = true) :
    account.resolveToken environment = .ok account.token := by
  rw [resolveToken, if_pos h]
  rfl

theorem resolveToken_of_absent (environment : Environment)
    (h : account.token.isPresent = false) :
    account.resolveToken environment =
      match lookUp environment account.tokenVariable with
      | .error fault => .error fault
      | .ok found =>
        match found.filter fun token => !token.isEmpty with
        | some token => .ok (.text token)
        | none => .error (.notFound account.tokenVariable) := by
  rw [resolveToken, h, if_neg Bool.false_ne_true]
  cases lookUp environment account.tokenVariable with
  | error fault => rfl
  | ok found =>
    cases found with
    | none => rfl
    | some token =>
      dsimp only [bind, Except.bind]
      by_cases hempty : token.isEmpty = true
      · simp [Option.filter, hempty]
        rfl
      · simp [Option.filter, hempty]
        rfl

theorem failsOnlyAs_resolveToken_iff (environment : Environment) :
    FailsOnlyAs TokenFault.errorClass .credential (account.resolveToken environment) ↔
      account.Usable := by
  unfold Usable
  cases hpresent : account.token.isPresent with
  | true =>
    rw [resolveToken_of_present environment hpresent]
    exact iff_of_true (failsOnlyAs_ok _ _ _) (.inl rfl)
  | false =>
    rw [resolveToken_of_absent environment hpresent]
    cases hvariable : account.tokenVariable with
    | text key =>
      rw [lookUp]
      refine iff_of_true ?_ (.inr ⟨key, rfl⟩)
      dsimp only
      split
      · exact failsOnlyAs_ok _ _ _
      · exact failsOnlyAs_error_iff.mpr rfl
    | null | bool | int | float | moment | list | table =>
      refine iff_of_false (fun h => nomatch failsOnlyAs_error_iff.mp h) ?_
      rintro (h | ⟨key, h⟩)
      · cases h
      · cases h

end Account

namespace Config

variable {name : String} {entry : Value} {pairs : List (Value × Value)}

theorem not_failsOnlyAs_misuse (fault : Value.Misuse) :
    ¬ FailsOnlyAs Fault.errorClass .configuration
      (.error (.misuse fault) : Except Fault Account) := by
  intro h
  have hclass := failsOnlyAs_error_iff.mp h
  cases fault <;> cases hclass

/-- The settings of an entry without the type of the provider, each once. -/
def otherSettings (pairs : List (Value × Value)) : List (Value × Value) :=
  (pairs.foldl (fun kept (name, value) => Value.putPair name value kept) []).filter
    fun (name, _) => !isType name

/-- What becomes of an entry, by the type that it gives. -/
theorem accountOf_of_pairs {type : Value} (name : String) (hpairs : entry.pairs = .ok pairs)
    (htype : (settingOf "type" pairs).getD .null = type) :
    accountOf name entry =
      if type = .null then .error (.noType name)
      else if type.canBeKey = false then .error (.misuse (.notKey type.kind))
      else if type = .text Account.typeName then
        (Account.ofSettings (otherSettings pairs)).mapError (.settings name)
      else (type.writeScalar.mapError .tooLong) >>= fun written =>
        .error (.unknownType written) := by
  have hfind : (Option.map Prod.snd (List.find? (fun pair => isType pair.1)
      (pairs.foldl (fun kept pair => pair.1.putPair pair.2 kept) []))).getD .null = type := by
    rw [← htype, ← find?_distinct]
    rfl
  unfold accountOf Value.distinctPairs
  rw [hpairs]
  simp only [Except.mapError, bind, Except.bind, pure, Except.pure, throw, throwThe,
    MonadExceptOf.throw, hfind, Bool.not_eq_true', ne_eq, ite_not]
  rfl

theorem otherSettings_settings {fields : Table} (hnodup : (Table.keys fields).Nodup) :
    otherSettings fields.settings = Table.settings (Table.erase "type" fields) := by
  have hother : ∀ field : String × Value,
      (!isType (.text field.1)) = decide (field.1 ≠ "type") := by
    intro field
    rw [isType, Bool.eq_iff_iff]
    simp
  rw [otherSettings, distinct_settings hnodup, Table.settings, Table.settings, Table.erase,
    List.filter_map]
  exact congrArg (List.map _) (List.filter_congr fun field _ => hother field)

/-- An entry that spells out settings gives an account or a fault of the configuration, unless its
type cannot be named. -/
theorem failsOnlyAs_accountOf_of_pairs (name : String) (hpairs : entry.pairs = .ok pairs) :
    FailsOnlyAs Fault.errorClass .configuration (accountOf name entry) ↔
      ∀ type, settingOf "type" pairs = some type → type.Nameable := by
  have hforall : (∀ type, settingOf "type" pairs = some type → type.Nameable) ↔
      ((settingOf "type" pairs).getD .null).Nameable := by
    cases settingOf "type" pairs with
    | none => exact iff_of_true nofun trivial
    | some type => simp
  rw [hforall, accountOf_of_pairs name hpairs rfl]
  generalize (settingOf "type" pairs).getD .null = type
  by_cases hnull : type = .null
  · rw [if_pos hnull, hnull]
    exact iff_of_true (failsOnlyAs_error_iff.mpr rfl) trivial
  rw [if_neg hnull]
  by_cases hkey : type.canBeKey = false
  · rw [if_pos hkey]
    refine iff_of_false (fun h => nomatch failsOnlyAs_error_iff.mp h) ?_
    cases type with
    | list | table => exact id
    | null | bool | int | float | text | moment => cases hkey
  rw [if_neg hkey]
  by_cases hname : type = .text Account.typeName
  · rw [if_pos hname, hname]
    refine iff_of_true ?_ trivial
    cases Account.ofSettings (otherSettings pairs) with
    | error fault => exact failsOnlyAs_error_iff.mpr rfl
    | ok account => exact failsOnlyAs_ok _ _ account
  rw [if_neg hname]
  cases type with
  | list | table => exact absurd rfl hkey
  | null | bool | float | text | moment =>
    exact iff_of_true (failsOnlyAs_error_iff.mpr rfl) trivial
  | int n =>
    by_cases hshort : n.natAbs < Nat.pow 10 Numeral.maxDigits
    · rw [Value.writeScalar, Numeral.write_eq_ok_iff.mpr ⟨hshort, rfl⟩]
      exact iff_of_true (failsOnlyAs_error_iff.mpr rfl) hshort
    · rw [Value.writeScalar, Numeral.write, if_pos (Nat.le_of_not_lt hshort)]
      exact iff_of_false (fun h => nomatch failsOnlyAs_error_iff.mp h) hshort

/-- An entry that spells out settings and has a type that can be named. -/
def Describes (entry : Value) : Prop :=
  entry.SpellsPairs ∧ ∀ pairs type, entry.pairs = .ok pairs →
    settingOf "type" pairs = some type → type.Nameable

theorem failsOnlyAs_accountOf_iff (name : String) (entry : Value) :
    FailsOnlyAs Fault.errorClass .configuration (accountOf name entry) ↔ Describes entry := by
  rw [Describes, ← Value.exists_pairs_iff]
  cases hpairs : entry.pairs with
  | error misuse =>
    have herror : accountOf name entry = .error (.misuse misuse) := by
      unfold accountOf Value.distinctPairs
      rw [hpairs]
      rfl
    rw [herror]
    exact iff_of_false (not_failsOnlyAs_misuse misuse) nofun
  | ok pairs =>
    rw [failsOnlyAs_accountOf_of_pairs name hpairs]
    constructor
    · intro h
      refine ⟨⟨pairs, rfl⟩, fun pairs' type hpairs' => ?_⟩
      obtain rfl := Except.ok.inj hpairs'
      exact h type
    · exact fun h type => h.2 pairs type rfl

/-! ### Tables that describe an account -/

/-- The settings that an account has. -/
def settingNames : List String := ["type", "token", "token_env"]

/-- The account with the settings of a table, and the usual ones for the rest. -/
def settled (fields : Table) : Account :=
  ⟨(Table.get? "token" fields).getD .null,
    (Table.get? "token_env" fields).getD (.text Account.usualVariable)⟩

theorem accountOf_table_eq_ok_iff {fields : Table} {account : Account}
    (hnodup : (Table.keys fields).Nodup) :
    accountOf name (.table fields) = .ok account ↔
      Table.get? "type" fields = some (.text Account.typeName) ∧
        (∀ key ∈ Table.keys fields, key ∈ settingNames) ∧ account = settled fields := by
  have hpairs : (Value.table fields).pairs = .ok fields.settings := rfl
  rw [accountOf_of_pairs name hpairs rfl, settingOf_settings hnodup, otherSettings_settings hnodup,
    Account.ofSettings_settings]
  have hsettled : ∀ account, ((Table.erase "type" fields).foldlM
      (fun account field => account.set field.1 field.2) Account.usual = .ok account ↔
        (∀ key ∈ Table.keys fields, key ∈ settingNames) ∧ account = settled fields) := by
    intro account
    have herase : (Table.keys (Table.erase "type" fields)).Nodup := by
      rw [Table.keys_erase]
      exact hnodup.filter _
    rw [Account.foldlM_set_eq_ok_iff herase, Table.get?_erase_of_ne (by decide),
      Table.get?_erase_of_ne (by decide), Table.keys_erase]
    refine and_congr ?_ Iff.rfl
    simp only [List.mem_filter, decide_eq_true_eq, settingNames, List.mem_cons, List.not_mem_nil,
      or_false, and_imp]
    exact forall₂_congr fun key _ => by tauto
  by_cases htype : Table.get? "type" fields = some (.text Account.typeName)
  · rw [htype, Option.getD_some, if_neg nofun, if_neg nofun, if_pos rfl, mapError_eq_ok_iff,
      hsettled, eq_self_iff_true, true_and]
  · have hother : (Table.get? "type" fields).getD .null ≠ .text Account.typeName := by
      intro h
      apply htype
      cases hget : Table.get? "type" fields with
      | none =>
        rw [hget] at h
        cases h
      | some type =>
        rw [hget] at h
        exact congrArg some h
    refine iff_of_false ?_ fun h => htype h.1
    rw [if_neg hother]
    split
    · exact nofun
    · split
      · exact nofun
      · cases ((Table.get? "type" fields).getD .null).writeScalar <;> exact nofun

end Config

end DropletReconciler
