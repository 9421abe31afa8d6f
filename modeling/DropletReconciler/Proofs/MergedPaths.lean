import DropletReconciler.Proofs.TokenResolution
import Mathlib.Data.List.Infix

/-!
# Merging, path by path

A path of keys leads from a table down into the tables inside of it. What the upper table has at the
end of a path is laid over what the lower one has there. Where the upper table has nothing, the lower
one is seen, unless something that is no table stands in the way.
-/

namespace DropletReconciler

namespace Value

variable {v inner : Value} {before path : List String} {fields : Table}

/-! ### Paths -/

/-- What a path of keys leads to. There is no way into a value that is no table. -/
def atPath : List String → Value → Option Value
  | [], v => some v
  | key :: path, .table fields => (Table.get? key fields).bind (atPath path)
  | _ :: _, _ => none

theorem atPath_append (before path : List String) (v : Value) :
    v.atPath (before ++ path) = (v.atPath before).bind (atPath path) := by
  induction before generalizing v with
  | nil => rfl
  | cons key before ih =>
    cases v with
    | table fields =>
      change (Table.get? key fields).bind (atPath (before ++ path)) =
        ((Table.get? key fields).bind (atPath before)).bind (atPath path)
      cases Table.get? key fields with
      | none => rfl
      | some value => exact ih value
    | null | bool | int | float | text | moment | list => rfl

theorem exists_table_of_kind (h : v.kind = .table) : ∃ fields, v = .table fields := by
  cases v with
  | table fields => exact ⟨fields, rfl⟩
  | moment m => cases m <;> cases h
  | null | bool | int | float | text | list => cases h

theorem atPath_cons_of_kind_ne (h : v.kind ≠ .table) (key : String) (path : List String) :
    v.atPath (key :: path) = none := by
  cases v with
  | table fields => exact absurd rfl h
  | null | bool | int | float | text | moment | list => rfl

/-- A path that goes on from something that is no table leads nowhere. -/
theorem atPath_eq_none_of_prefix (hbefore : before <+: path) (hne : before ≠ path)
    (hinner : v.atPath before = some inner) (hkind : inner.kind ≠ .table) :
    v.atPath path = none := by
  obtain ⟨rest, rfl⟩ := hbefore
  cases rest with
  | nil => exact absurd (List.append_nil before).symm hne
  | cons key rest => rw [atPath_append, hinner, Option.bind_some, atPath_cons_of_kind_ne hkind]

theorem Keyed.of_atPath (h : v.Keyed) (hinner : v.atPath path = some inner) : inner.Keyed := by
  induction path generalizing v with
  | nil =>
    obtain rfl := Option.some.inj hinner
    exact h
  | cons key path ih =>
    cases v with
    | table fields =>
      obtain ⟨value, hget, hvalue⟩ := Option.bind_eq_some_iff.mp hinner
      exact ih (Table.Keyed.of_get? h hget) hvalue
    | null | bool | int | float | text | moment | list => cases hinner

/-! ### One value over another -/

theorem over_of_kind_ne (h : v.kind ≠ .table) (lower : Option Value) : v.over lower = v := by
  cases v with
  | table fields => exact absurd rfl h
  | null | bool | int | float | text | moment | list => rfl

theorem bind_atPath_cons (lower : Option Value) (key : String) (path : List String) :
    lower.bind (atPath (key :: path)) =
      (Table.get? key (Table.orEmpty lower)).bind (atPath path) := by
  cases lower with
  | none => rfl
  | some v => cases v <;> rfl

/-- What a path leads to in a table that is laid over a value, by the first key of the path. -/
theorem atPath_table_over (hnodup : (Table.keys fields).Nodup) (lower : Option Value)
    (key : String) (path : List String) :
    ((Value.table fields).over lower).atPath (key :: path) =
      match Table.get? key fields with
      | some value => (value.over (Table.get? key (Table.orEmpty lower))).atPath path
      | none => lower.bind (atPath (key :: path)) := by
  rw [Table.table_over hnodup]
  change (Table.get? key (Table.merge (Table.orEmpty lower) fields)).bind (atPath path) = _
  rw [Table.get?_merge hnodup]
  cases Table.get? key fields with
  | none => exact (bind_atPath_cons lower key path).symm
  | some value => rfl

/-- What the upper value has at the end of a path is laid over what the lower one has there. -/
theorem atPath_over_of_some (h : v.Keyed) (lower : Option Value)
    (hinner : v.atPath path = some inner) :
    (v.over lower).atPath path = some (inner.over (lower.bind (atPath path))) := by
  induction path generalizing v lower with
  | nil =>
    obtain rfl := Option.some.inj hinner
    change some (v.over lower) = some (v.over (lower.bind some))
    rw [Option.bind_fun_some]
  | cons key path ih =>
    cases v with
    | table fields =>
      obtain ⟨value, hget, hvalue⟩ := Option.bind_eq_some_iff.mp hinner
      rw [atPath_table_over (Table.Keyed.nodup_keys h), hget, bind_atPath_cons]
      exact ih (Table.Keyed.of_get? h hget) _ hvalue
    | null | bool | int | float | text | moment | list => cases hinner

/-- Something that is no table stands on a path, before its end. -/
def Blocks (path : List String) (fields : Table) : Prop :=
  ∃ before inner, before ≠ [] ∧ before <+: path ∧ before ≠ path ∧
    (Value.table fields).atPath before = some inner ∧ inner.kind ≠ .table

instance (path : List String) (fields : Table) : Decidable (Blocks path fields) :=
  decidable_of_iff
    (∃ before ∈ path.inits, before ≠ [] ∧ before ≠ path ∧
      ∃ inner ∈ (Value.table fields).atPath before, inner.kind ≠ .table)
    (by
      constructor
      · rintro ⟨before, hbefore, hnil, hne, inner, hinner, hkind⟩
        exact ⟨before, inner, hnil, (List.mem_inits before path).mp hbefore, hne, hinner, hkind⟩
      · rintro ⟨before, inner, hnil, hbefore, hne, hinner, hkind⟩
        exact ⟨before, (List.mem_inits before path).mpr hbefore, hnil, hne, inner, hinner, hkind⟩)

/-- Where the upper table has nothing and nothing stands in the way, the lower value is seen. -/
theorem atPath_table_over_of_none (h : Table.Keyed fields) (lower : Option Value)
    (habsent : (Value.table fields).atPath path = none) (hopen : ¬ Blocks path fields) :
    ((Value.table fields).over lower).atPath path = lower.bind (atPath path) := by
  induction path generalizing fields lower with
  | nil => cases habsent
  | cons key path ih =>
    rw [atPath_table_over h.nodup_keys]
    cases hget : Table.get? key fields with
    | none => rfl
    | some value =>
      have hstep : ∀ path, (Value.table fields).atPath (key :: path) = value.atPath path := by
        intro path
        change (Table.get? key fields).bind (atPath path) = _
        rw [hget, Option.bind_some]
      by_cases hkind : value.kind = .table
      · obtain ⟨inner, rfl⟩ := exists_table_of_kind hkind
        have hbelow : ¬ Blocks path inner := by
          rintro ⟨before, found, -, hbefore, hne, hfound, hkind⟩
          refine hopen ⟨key :: before, found, List.cons_ne_nil _ _,
            (List.prefix_cons_inj key).mpr hbefore, ?_, ?_, hkind⟩
          · exact fun heq => hne (List.cons.inj heq).2
          · rw [hstep, hfound]
        rw [bind_atPath_cons]
        exact ih (h.of_get? hget) _ (hstep path ▸ habsent) hbelow
      · cases path with
        | nil =>
          rw [hstep] at habsent
          cases habsent
        | cons next path =>
          refine absurd ⟨[key], value, List.cons_ne_nil _ _, ?_, nofun, hstep [], hkind⟩ hopen
          exact (List.prefix_cons_inj key).mpr List.nil_prefix

end Value

/-! ### Tables -/

theorem Config.withProviders_eq (config : Table) :
    Config.withProviders config =
      if "providers" ∈ Table.keys config then config
      else config ++ [("providers", .table [])] := by
  have hiff : (Table.get? "providers" config).isSome = true ↔ "providers" ∈ Table.keys config := by
    rw [Option.isSome_iff_ne_none, ne_eq, Table.get?_eq_none_iff, not_not]
  unfold Config.withProviders
  exact if_congr hiff rfl rfl

namespace Table

variable {base override : Table} {path : List String}

theorem atPath_merge_of_some {inner : Value} (base : Table) (h : Table.Keyed override)
    (hinner : (Value.table override).atPath path = some inner) :
    (Value.table (merge base override)).atPath path =
      some (inner.over ((Value.table base).atPath path)) :=
  Value.atPath_over_of_some h (some (.table base)) hinner

/-- A table on both sides is merged: the keys of the lower one come first, then the new ones. -/
theorem exists_atPath_merge_of_table {upper : Table} (h : Table.Keyed override)
    (hupper : (Value.table override).atPath path = some (.table upper)) :
    ∃ merged, (Value.table (merge base override)).atPath path = some (.table merged) ∧
      (∀ lower, (Value.table base).atPath path = some (.table lower) →
        keys merged = keys lower ++ (keys upper).filter (· ∉ keys lower)) ∧
      ((∀ lower, (Value.table base).atPath path ≠ some (.table lower)) →
        keys merged = keys upper) := by
  have hnodup : (keys upper).Nodup := Table.Keyed.nodup_keys (Value.Keyed.of_atPath h hupper)
  have hmerged := atPath_merge_of_some base h hupper
  rw [table_over hnodup] at hmerged
  refine ⟨_, hmerged, ?_, ?_⟩
  · intro lower hlower
    rw [hlower]
    exact keys_merge hnodup lower
  · intro hnone
    have hempty : orEmpty ((Value.table base).atPath path) = [] := by
      cases hlower : (Value.table base).atPath path with
      | none => rfl
      | some v =>
        cases v with
        | table lower => exact absurd hlower (hnone lower)
        | null | bool | int | float | text | moment | list => rfl
    rw [hempty, nil_merge hnodup]

/-- **A merge, path by path.** Where the upper table has something that is no table, so has the
merged one. Where it has a table, the merged one has a table with the keys of the lower one, if there
is one, and then the new ones. Where it has nothing, the merged table has what the lower one has, but
nothing behind a value of the upper one that is no table. The empty path is the whole table. A
configuration is loaded when both files can be read and are not nested too deeply, and then it is
the merge of their tables, to which the providers are added if they are missing. -/
theorem merge_by_paths (base : Table) (hoverride : Table.Keyed override) :
    (∀ path : List String,
      let below := (Value.table base).atPath path
      let above := (Value.table override).atPath path
      let merged := (Value.table (merge base override)).atPath path
      (∀ value, above = some value → value.kind ≠ .table → merged = some value) ∧
        (∀ upper, above = some (.table upper) → ∃ fields, merged = some (.table fields) ∧
          (∀ lower, below = some (.table lower) →
            keys fields = keys lower ++ (keys upper).filter (· ∉ keys lower)) ∧
          ((∀ lower, below ≠ some (.table lower)) → keys fields = keys upper)) ∧
        (above = none → Value.Blocks path override → merged = none) ∧
        (above = none → ¬ Value.Blocks path override → merged = below)) ∧
      ∀ files config, Config.load files = .ok config ↔
        ∃ lower upper, Config.readFile .global files.global = .ok lower ∧
          Config.readFile .project files.project = .ok upper ∧
          Table.Keyed lower ∧ Table.Keyed upper ∧ mergeLevels lower upper ≤ Config.mergeRoom ∧
          config = if "providers" ∈ keys (merge lower upper) then merge lower upper
            else merge lower upper ++ [("providers", .table [])] := by
  constructor
  · intro path below above merged
    refine ⟨?_, ?_, ?_, ?_⟩
    · intro value habove hkind
      exact (atPath_merge_of_some base hoverride habove).trans
        (congrArg some (Value.over_of_kind_ne hkind _))
    · intro upper habove
      exact exists_atPath_merge_of_table hoverride habove
    · rintro - ⟨before, inner, -, hbefore, hne, hinner, hkind⟩
      have hstands := atPath_merge_of_some base hoverride hinner
      rw [Value.over_of_kind_ne hkind] at hstands
      exact Value.atPath_eq_none_of_prefix hbefore hne hstands hkind
    · intro habove hopen
      exact Value.atPath_table_over_of_none hoverride (some (.table base)) habove hopen
  · intro files config
    rw [Config.load_eq_ok_iff]
    constructor
    · rintro ⟨lower, upper, hlower, hupper, hroom, rfl⟩
      exact ⟨lower, upper, hlower, hupper, Config.keyed_of_readFile hlower,
        Config.keyed_of_readFile hupper, hroom, Config.withProviders_eq _⟩
    · rintro ⟨lower, upper, hlower, hupper, -, -, hroom, rfl⟩
      exact ⟨lower, upper, hlower, hupper, hroom, (Config.withProviders_eq _).symm⟩

/-- The project has a word where this has a table. -/
def defaultTables : Table :=
  [("log", .table [("level", .text "info")]),
    ("providers", .table [("team", .table [("type", .text "digitalocean"), ("token", .text "a")])])]

def projectTables : Table :=
  [("providers", .table [("team", .table [("token_env", .text "TEAM"), ("token", .text "b")]),
      ("spare", .table [])]),
    ("log", .text "off")]

theorem merge_by_paths_project :
    let merged := Value.table (merge defaultTables projectTables)
    Table.Keyed projectTables ∧
      merged.atPath ["providers", "team", "token"] = some (.text "b") ∧
      merged.atPath ["providers", "team", "type"] = some (.text "digitalocean") ∧
      merged.atPath ["log", "level"] = none ∧
      ∃ team, merged.atPath ["providers", "team"] = some (.table team) ∧
        keys team = ["type", "token", "token_env"] := by
  have hteam : Table.Keyed [("token_env", .text "TEAM"), ("token", .text "b")] :=
    .cons (by decide) (.scalar rfl) (.cons (by decide) (.scalar rfl) .nil)
  have hproviders : Table.Keyed [("team", .table [("token_env", .text "TEAM"),
      ("token", .text "b")]), ("spare", .table [])] :=
    .cons (by decide) hteam (.cons (by decide) Table.Keyed.nil .nil)
  have hkeyed : Table.Keyed projectTables :=
    .cons (by decide) hproviders (.cons (by decide) (.scalar rfl) .nil)
  obtain ⟨hpaths, -⟩ := merge_by_paths defaultTables hkeyed
  obtain ⟨htoken, -, -, -⟩ := hpaths ["providers", "team", "token"]
  obtain ⟨-, -, -, htype⟩ := hpaths ["providers", "team", "type"]
  obtain ⟨-, -, hlevel, -⟩ := hpaths ["log", "level"]
  obtain ⟨-, hteam, -, -⟩ := hpaths ["providers", "team"]
  obtain ⟨team, hmerged, hkeys, -⟩ := hteam _ rfl
  exact ⟨hkeyed, htoken _ rfl nofun, htype rfl (by decide), hlevel rfl (by decide), team, hmerged,
    hkeys _ rfl⟩

end Table

end DropletReconciler
