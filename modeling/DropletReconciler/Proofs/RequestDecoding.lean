import DropletReconciler.Parameters.Request
import DropletReconciler.Proofs.Tables

/-!
# Reading a request back

A request for a droplet is made of settings, of which those that have no value are left out. The keys
are all different, so each setting can be looked up, and with the settings the name and the parameters
are known again: `ofRequest?` reads them off.
-/

namespace DropletReconciler

/-! ### Settings -/

/-- The settings that have a value, as the fields of a table. -/
def Table.ofSettings (settings : List (String × Option Value)) : Table :=
  settings.flatMap fun setting => optionalField setting.1 setting.2

namespace Table

variable {key : String} {value : Option Value} {settings : List (String × Option Value)}

theorem keys_ofSettings (settings : List (String × Option Value)) :
    keys (ofSettings settings) =
      (settings.filter fun setting => setting.2.isSome).map Prod.fst := by
  induction settings with
  | nil => rfl
  | cons setting rest ih =>
    obtain ⟨key, value⟩ := setting
    have hrest : keys (ofSettings ((key, value) :: rest)) =
        keys (optionalField key value) ++ keys (ofSettings rest) := List.map_append
    rw [hrest, ih]
    cases value with
    | none => rfl
    | some value => rfl

theorem sublist_keys_ofSettings (settings : List (String × Option Value)) :
    (keys (ofSettings settings)).Sublist (settings.map Prod.fst) := by
  rw [keys_ofSettings]
  exact (List.filter_sublist).map Prod.fst

/-- A key is missing from the table exactly when its setting has no value. -/
theorem get?_ofSettings (hnodup : (settings.map Prod.fst).Nodup) (hmem : (key, value) ∈ settings) :
    get? key (ofSettings settings) = value := by
  induction settings with
  | nil => cases hmem
  | cons setting rest ih =>
    obtain ⟨first, firstValue⟩ := setting
    obtain ⟨hnew, hrest⟩ := List.nodup_cons.mp hnodup
    have hsplit : ofSettings ((first, firstValue) :: rest) =
        optionalField first firstValue ++ ofSettings rest := rfl
    rw [hsplit]
    obtain heq | hlater := List.mem_cons.mp hmem
    · obtain ⟨rfl, rfl⟩ := Prod.mk.inj heq
      cases value with
      | some value => exact (get?_cons _ _).trans (if_pos rfl)
      | none =>
        -- No later setting has this key.
        apply get?_eq_none_iff.mpr
        intro hkey
        exact hnew ((sublist_keys_ofSettings rest).subset hkey)
    · have hne : key ≠ first := by
        rintro rfl
        exact hnew (List.mem_map.mpr ⟨(key, value), hlater, rfl⟩)
      cases firstValue with
      | none => exact ih hrest hlater
      | some firstValue =>
        have hskip : get? key ((first, firstValue) :: ofSettings rest) =
            get? key (ofSettings rest) := by
          rw [get?_cons, if_neg hne]
        exact hskip.trans (ih hrest hlater)

end Table

namespace Parameters

/-- The parameters that a user may leave to the provider, by their keys in a request. -/
def optional (p : Parameters) : List (String × Option Value) :=
  [("backups", p.backups.map .bool), ("ipv6", p.ipv6.map .bool),
    ("monitoring", p.monitoring.map .bool),
    ("private_networking", p.privateNetworking.map .bool),
    ("with_droplet_agent", p.withDropletAgent.map .bool), ("ssh_keys", p.sshKeys.map textList),
    ("volumes", p.volumes.map textList), ("tags", p.tags.map textList), ("vpc_uuid", p.vpcUuid)]

/-- All settings of a request. -/
def settings (name : String) (p : Parameters) : List (String × Option Value) :=
  [("name", some (.text name)), ("region", some (.text p.region)), ("size", some (.text p.size)),
    ("image", some (.text p.image))] ++ p.optional

variable {name : String} {p : Parameters}

theorem request_eq_ofSettings (name : String) (p : Parameters) :
    p.request name = Table.ofSettings (p.settings name) := by
  simp only [request, Table.ofSettings, settings, optional, List.cons_append, List.nil_append,
    List.flatMap_cons, List.flatMap_nil, List.append_nil, List.append_assoc]
  rfl

theorem nodup_keys_settings (name : String) (p : Parameters) :
    ((p.settings name).map Prod.fst).Nodup := by
  have hkeys : (p.settings name).map Prod.fst =
      ["name", "region", "size", "image", "backups", "ipv6", "monitoring", "private_networking",
        "with_droplet_agent", "ssh_keys", "volumes", "tags", "vpc_uuid"] := rfl
  rw [hkeys]
  decide

theorem get?_request {key : String} {value : Option Value}
    (hmem : (key, value) ∈ p.settings name) : Table.get? key (p.request name) = value := by
  rw [request_eq_ofSettings]
  exact Table.get?_ofSettings (nodup_keys_settings name p) hmem

/-! ### Reading -/

def textOf? : Value → Option String
  | .text s => some s
  | _ => none

def flagOf? : Value → Option Bool
  | .bool b => some b
  | _ => none

def textsOf? : Value → Option (List String)
  | .list items => items.mapM textOf?
  | _ => none

variable {α : Type}

/-- What must stand under a key. -/
def readAt (read : Value → Option α) (key : String) (sent : Table) : Option α :=
  (Table.get? key sent).bind read

/-- What may stand under a key; a key that is missing leaves it unset. -/
def readIfSet (read : Value → Option α) (key : String) (sent : Table) : Option (Option α) :=
  match Table.get? key sent with
  | none => some none
  | some value => (read value).map some

/-- The name and the parameters that a request was made from. -/
def ofRequest? (sent : Table) : Option (String × Parameters) := do
  let name ← readAt textOf? "name" sent
  let region ← readAt textOf? "region" sent
  let size ← readAt textOf? "size" sent
  let image ← readAt textOf? "image" sent
  let backups ← readIfSet flagOf? "backups" sent
  let ipv6 ← readIfSet flagOf? "ipv6" sent
  let monitoring ← readIfSet flagOf? "monitoring" sent
  let privateNetworking ← readIfSet flagOf? "private_networking" sent
  let withDropletAgent ← readIfSet flagOf? "with_droplet_agent" sent
  let sshKeys ← readIfSet textsOf? "ssh_keys" sent
  let volumes ← readIfSet textsOf? "volumes" sent
  let tags ← readIfSet textsOf? "tags" sent
  let vpcUuid ← readIfSet some "vpc_uuid" sent
  pure (name,
    { image, region, size, backups, ipv6, monitoring, privateNetworking, withDropletAgent, sshKeys
      tags, volumes, vpcUuid })

theorem textsOf?_textList (texts : List String) : textsOf? (textList texts) = some texts := by
  change (texts.map Value.text).mapM textOf? = some texts
  induction texts with
  | nil => rfl
  | cons text rest ih =>
    rw [List.map_cons, List.mapM_cons, ih]
    rfl

theorem readAt_of_get? {read : Value → Option α} {write : α → Value} {key : String} {a : α}
    {sent : Table} (hread : ∀ a, read (write a) = some a)
    (hget : Table.get? key sent = some (write a)) : readAt read key sent = some a := by
  rw [readAt, hget, Option.bind_some, hread]

theorem readIfSet_of_get? {read : Value → Option α} {write : α → Value} {key : String}
    {setting : Option α} {sent : Table} (hread : ∀ a, read (write a) = some a)
    (hget : Table.get? key sent = setting.map write) :
    readIfSet read key sent = some setting := by
  rw [readIfSet, hget]
  cases setting with
  | none => rfl
  | some a => exact congrArg (Option.map some) (hread a)

/-- A table with the fields of a request, in whatever order, is read as the request was meant. -/
theorem ofRequest?_of_same {sent : Table}
    (hsame : ∀ key, Table.get? key sent = Table.get? key (p.request name)) :
    ofRequest? sent = some (name, p) := by
  have hsetting : ∀ {key value}, (key, value) ∈ p.settings name →
      Table.get? key sent = value := fun hmem => (hsame _).trans (get?_request hmem)
  -- Which kind of value stands under a key depends on the setting only.
  have htext : ∀ {key s}, (key, some (.text s)) ∈ p.settings name →
      readAt textOf? key sent = some s :=
    fun hmem => readAt_of_get? (fun _ => rfl) (hsetting hmem)
  have hflag : ∀ {key setting}, (key, Option.map Value.bool setting) ∈ p.settings name →
      readIfSet flagOf? key sent = some setting :=
    fun hmem => readIfSet_of_get? (fun _ => rfl) (hsetting hmem)
  have htexts : ∀ {key setting}, (key, Option.map textList setting) ∈ p.settings name →
      readIfSet textsOf? key sent = some setting :=
    fun hmem => readIfSet_of_get? textsOf?_textList (hsetting hmem)
  have hname : readAt textOf? "name" sent = some name := htext (by simp [settings])
  have hregion : readAt textOf? "region" sent = some p.region := htext (by simp [settings])
  have hsize : readAt textOf? "size" sent = some p.size := htext (by simp [settings])
  have himage : readAt textOf? "image" sent = some p.image := htext (by simp [settings])
  have hbackups : readIfSet flagOf? "backups" sent = some p.backups :=
    hflag (by simp [settings, optional])
  have hipv6 : readIfSet flagOf? "ipv6" sent = some p.ipv6 := hflag (by simp [settings, optional])
  have hmonitoring : readIfSet flagOf? "monitoring" sent = some p.monitoring :=
    hflag (by simp [settings, optional])
  have hnetworking : readIfSet flagOf? "private_networking" sent = some p.privateNetworking :=
    hflag (by simp [settings, optional])
  have hagent : readIfSet flagOf? "with_droplet_agent" sent = some p.withDropletAgent :=
    hflag (by simp [settings, optional])
  have hkeys : readIfSet textsOf? "ssh_keys" sent = some p.sshKeys :=
    htexts (by simp [settings, optional])
  have hvolumes : readIfSet textsOf? "volumes" sent = some p.volumes :=
    htexts (by simp [settings, optional])
  have htags : readIfSet textsOf? "tags" sent = some p.tags :=
    htexts (by simp [settings, optional])
  have hvpc : readIfSet some "vpc_uuid" sent = some p.vpcUuid := by
    have hget : Table.get? "vpc_uuid" sent = p.vpcUuid :=
      hsetting (by simp [settings, optional])
    exact readIfSet_of_get? (fun _ => rfl) (hget.trans Option.map_id_apply.symm)
  unfold ofRequest?
  rw [hname, hregion, hsize, himage, hbackups, hipv6, hmonitoring, hnetworking, hagent, hkeys,
    hvolumes, htags, hvpc]
  rfl

/-- **A request loses nothing.** Every table with the fields of a request is read as the name and the
parameters it was made from, so that different ones make different requests, and that not only in the
order of the fields. A parameter that is not set has no field, and one that is set has a field with
its value, also when that is false or empty. The keys are those of the name, the region, the size, the
image and the parameters that are set, each once and in this order. -/
theorem request_loses_nothing (name : String) (p : Parameters) :
    (∀ sent : Table, (∀ key, Table.get? key sent = Table.get? key (p.request name)) →
        ofRequest? sent = some (name, p)) ∧
      (∀ other q, (∀ key, Table.get? key (p.request name) = Table.get? key (q.request other)) →
        name = other ∧ p = q) ∧
      (∀ setting ∈ p.optional, Table.get? setting.1 (p.request name) = setting.2) ∧
      Table.keys (p.request name) =
        ["name", "region", "size", "image"] ++
          (p.optional.filter fun setting => setting.2.isSome).map Prod.fst ∧
      (Table.keys (p.request name)).Nodup := by
  refine ⟨fun sent => ofRequest?_of_same, ?_, ?_, ?_, ?_⟩
  · intro other q hsame
    have hp : ofRequest? (p.request name) = some (name, p) := ofRequest?_of_same fun _ => rfl
    have hq : ofRequest? (p.request name) = some (other, q) := ofRequest?_of_same hsame
    exact Prod.mk.inj (Option.some.inj (hp.symm.trans hq))
  · intro setting hmem
    exact get?_request (List.mem_append_right _ hmem)
  · rw [request_eq_ofSettings, Table.keys_ofSettings]
    rfl
  · have hsub := Table.sublist_keys_ofSettings (p.settings name)
    rw [request_eq_ofSettings]
    exact (nodup_keys_settings name p).sublist hsub

end Parameters

end DropletReconciler
