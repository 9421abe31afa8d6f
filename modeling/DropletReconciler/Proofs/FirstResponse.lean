import DropletReconciler.Parameters.Request
import DropletReconciler.Proofs.Completion
import DropletReconciler.Proofs.Runs
import Mathlib.Data.List.Forall2

/-!
# Parameters that are completed from one response after another

A parameter that is set stays as it is, so of all the responses that decide a parameter the first
one counts. Which responses decide it depends on the parameter: a flag is decided by any list of
features, a list by one that is not empty, and an id by one that is not empty. `completeAll_eq` says
so for all parameters at once. Lists are taken over as texts, which fails when the list that counts
has a numeral too long to be written.
-/

namespace DropletReconciler.Parameters

/-- What a response shows of the parameters. Features that are missing are none; of the other parts,
those that are missing or null. -/
structure Shown where
  features : Option (List String)
  tags : Option (List Value)
  volumes : Option (List Value)
  vpcUuid : Option String

/-- The entry under a key; null counts as missing. -/
def given? (key : String) (fields : Table) : Option Value :=
  (Table.get? key fields).filter (· ≠ .null)

/-- A response whose parts have the types that the provider promises. -/
structure Shows (fields : Table) (shown : Shown) : Prop where
  features : Table.get? "features" fields = shown.features.map textList
  tags : given? "tags" fields = shown.tags.map .list
  volumes : given? "volume_ids" fields = shown.volumes.map .list
  vpcUuid : given? "vpc_uuid" fields = shown.vpcUuid.map .text

namespace Shown

/-- The flag of a feature: whether it is among those that are shown, if any list of them is. -/
def flag (feature : String) (shown : Shown) : Option Bool :=
  shown.features.map fun names => decide (feature ∈ names)

/-- A list that is not empty. -/
def listed (values : Option (List Value)) : Option (List Value) :=
  values.filter fun items => !items.isEmpty

/-- The texts of a list that is not empty. -/
def texts (values : Option (List Value)) : Option (List String) :=
  (listed values).map fun items => items.map Value.written

def uuid (shown : Shown) : Option Value := (shown.vpcUuid.filter fun s => !s.isEmpty).map .text

/-- Responses that differ in the order and the repetition of their features, and in nothing else. -/
structure SameFeatures (s t : Shown) : Prop where
  features : Option.Rel (fun names others => ∀ name, name ∈ names ↔ name ∈ others)
    s.features t.features
  rest : t = { s with features := t.features }

end Shown

/-- Completes parameters from one response after another. -/
def completeAll (p : Parameters) (responses : List Table) : Except Value.Misuse Parameters :=
  responses.foldlM (fun p fields => p.completeFrom (.table fields)) p

/-- Parameters with each one that is not set taken from the first response that decides it. -/
def fillFrom (p : Parameters) (responses : List Shown) : Parameters :=
  { p with
    backups := p.backups.or (responses.findSome? (·.flag "backups"))
    ipv6 := p.ipv6.or (responses.findSome? (·.flag "ipv6"))
    monitoring := p.monitoring.or (responses.findSome? (·.flag "monitoring"))
    privateNetworking := p.privateNetworking.or (responses.findSome? (·.flag "private_networking"))
    tags := p.tags.or (responses.findSome? fun shown => Shown.texts shown.tags)
    volumes := p.volumes.or (responses.findSome? fun shown => Shown.texts shown.volumes)
    vpcUuid := p.vpcUuid.or (responses.findSome? Shown.uuid) }

/-- The first list that is not empty can be written, where it is needed. -/
def ListWritable (current : Option (List String)) (lists : List (Option (List Value))) : Prop :=
  current = none → ∀ items ∈ lists.findSome? Shown.listed, ∀ item ∈ items, item.isWritable = true

/-- The lists that parameters are filled from can be written. -/
structure FillsFrom (p : Parameters) (responses : List Shown) : Prop where
  tags : ListWritable p.tags (responses.map Shown.tags)
  volumes : ListWritable p.volumes (responses.map Shown.volumes)

variable {p : Parameters} {fields : Table} {shown : Shown}

/-! ### One response -/

theorem members_textList (names : List String) :
    (textList names).members = .ok (names.map .text) := by
  have hkeys : (names.map Value.text).find? (fun item => !item.canBeKey) = none := by
    apply List.find?_eq_none.mpr
    intro item hitem
    obtain ⟨name, -, rfl⟩ := List.mem_map.mp hitem
    simp [Value.canBeKey]
  simp only [Value.members, textList, Value.items, bind, Except.bind, hkeys]
  rfl

theorem featuresOf_of_shows (h : Shows fields shown) :
    featuresOf (.table fields) = .ok (shown.features.map (·.map .text)) := by
  have hfeatures := h.features
  cases hshown : shown.features with
  | none =>
    rw [hshown, Option.map_none] at hfeatures
    simp only [featuresOf, Value.get?, hfeatures]
    rfl
  | some names =>
    rw [hshown, Option.map_some] at hfeatures
    simp only [featuresOf, Value.get?, hfeatures, bind, Except.bind, members_textList]
    rfl

theorem flagFrom_of_shows (feature : String) (current : Option Bool) :
    flagFrom (shown.features.map (·.map .text)) feature current =
      current.or (shown.flag feature) := by
  cases current with
  | some flag => rfl
  | none =>
    cases hshown : shown.features with
    | none => simp [flagFrom, Shown.flag, hshown]
    | some names =>
      have hcontains : (names.map Value.text).contains (.text feature) =
          decide (feature ∈ names) := by
        rw [Bool.eq_iff_iff]
        simp
      simp only [flagFrom, Shown.flag, hshown, Option.map_some, hcontains, Option.none_or]

/-- Null is not read, as it does not count as present. -/
theorem filter_isPresent_get? (key : String) (fields : Table) :
    (Table.get? key fields).filter Value.isPresent =
      (given? key fields).filter Value.isPresent := by
  rw [given?]
  cases Table.get? key fields with
  | none => rfl
  | some value =>
    cases value with
    | null => rfl
    | _ => rfl

theorem textsFrom_none (key : String) (fields : Table) :
    textsFrom (.table fields) key none =
      match (Table.get? key fields).filter Value.isPresent with
      | none => .ok none
      | some values => values.texts.map some := by
  simp only [textsFrom, Value.get?]
  cases Table.get? key fields with
  | none => rfl
  | some values =>
    cases hpresent : values.isPresent with
    | false =>
      simp only [bind, Except.bind, Option.filter_some, hpresent]
      rfl
    | true =>
      simp only [bind, Except.bind, Option.filter_some, hpresent, if_true]
      cases values.texts with
      | error fault => rfl
      | ok texts => rfl

theorem texts_list (items : List Value) :
    (Value.list items).texts =
      if ∀ item ∈ items, item.isWritable = true then .ok (items.map Value.written)
      else .error (.unwritable ⟨none⟩) :=
  Value.mapM_write items

section

variable {key : String} {values : Option (List Value)} {current : Option (List String)}

theorem textsFrom_none_of_given? (h : given? key fields = values.map .list) :
    textsFrom (.table fields) key none =
      match Shown.listed values with
      | none => .ok none
      | some items => (Value.list items).texts.map some := by
  rw [textsFrom_none, filter_isPresent_get?, h]
  cases values with
  | none => rfl
  | some items => cases items <;> rfl

/-- An empty list leaves a parameter unset, just as null does and an entry that is missing. -/
theorem textsFrom_of_listWritable (h : given? key fields = values.map .list)
    (hwritable : ListWritable current [values]) :
    textsFrom (.table fields) key current = .ok (current.or (Shown.texts values)) := by
  cases current with
  | some texts => rfl
  | none =>
    rw [textsFrom_none_of_given? h, Shown.texts]
    cases hlisted : Shown.listed values with
    | none => rfl
    | some items =>
      have hitems := hwritable rfl items (by simp [hlisted])
      dsimp only
      rw [texts_list, if_pos hitems]
      rfl

theorem textsFrom_of_not_listWritable (h : given? key fields = values.map .list)
    (hlong : ¬ ListWritable current [values]) :
    textsFrom (.table fields) key current = .error (.unwritable ⟨none⟩) := by
  cases current with
  | some texts => exact absurd nofun hlong
  | none =>
    rw [textsFrom_none_of_given? h]
    cases hlisted : Shown.listed values with
    | none => exact absurd (fun _ => by simp [hlisted]) hlong
    | some items =>
      dsimp only
      rw [texts_list, if_neg fun hitems => hlong fun _ => by simpa [hlisted] using hitems]
      rfl

/-- The first response that shows a list counts, and those behind it do not matter any more. -/
theorem listWritable_cons (current : Option (List String)) (values : Option (List Value))
    (rest : List (Option (List Value))) :
    ListWritable current (values :: rest) ↔
      ListWritable current [values] ∧ ListWritable (current.or (Shown.texts values)) rest := by
  unfold ListWritable Shown.texts
  cases current with
  | some texts => simp
  | none => cases hlisted : Shown.listed values <;> simp [hlisted]

/-- What is filled in is not asked for again. -/
theorem ListWritable.of_filled {lists : List (Option (List Value))}
    (h : ListWritable current lists) (filled : Option (List String)) :
    ListWritable (current.or filled) lists :=
  fun hnone => h (Option.or_eq_none_iff.mp hnone).1

end

theorem valueFrom_of_shows (h : Shows fields shown) (current : Option Value) :
    valueFrom (.table fields) "vpc_uuid" current = .ok (current.or shown.uuid) := by
  cases current with
  | some value => rfl
  | none =>
    have hread : valueFrom (.table fields) "vpc_uuid" none =
        .ok ((Table.get? "vpc_uuid" fields).filter Value.isPresent) := rfl
    rw [hread, filter_isPresent_get?, h.vpcUuid, Option.filter_map]
    rfl

/-- A response fills in what it decides, and nothing that is set. -/
theorem completeFrom_of_shows (h : Shows fields shown) (hfills : p.FillsFrom [shown]) :
    p.completeFrom (.table fields) = .ok (p.fillFrom [shown]) := by
  apply completeFrom_eq_ok_iff.mpr
  refine ⟨_, _, _, _, featuresOf_of_shows h, textsFrom_of_listWritable h.tags hfills.tags,
    textsFrom_of_listWritable h.volumes hfills.volumes, valueFrom_of_shows h p.vpcUuid, ?_⟩
  simp only [fillFrom, flagFrom_of_shows, List.findSome?_singleton]

theorem completeFrom_of_not_fillsFrom (h : Shows fields shown) (hlong : ¬ p.FillsFrom [shown]) :
    p.completeFrom (.table fields) = .error (.unwritable ⟨none⟩) := by
  rw [completeFrom, featuresOf_of_shows h]
  by_cases htags : ListWritable p.tags [shown.tags]
  · have hvolumes : ¬ ListWritable p.volumes [shown.volumes] := fun hvolumes =>
      hlong ⟨htags, hvolumes⟩
    rw [textsFrom_of_listWritable h.tags htags, textsFrom_of_not_listWritable h.volumes hvolumes]
    rfl
  · rw [textsFrom_of_not_listWritable h.tags htags]
    rfl

/-! ### Many responses -/

theorem fillsFrom_cons (p : Parameters) (shown : Shown) (rest : List Shown) :
    p.FillsFrom (shown :: rest) ↔ p.FillsFrom [shown] ∧ (p.fillFrom [shown]).FillsFrom rest := by
  have htags := listWritable_cons p.tags shown.tags (rest.map Shown.tags)
  have hvolumes := listWritable_cons p.volumes shown.volumes (rest.map Shown.volumes)
  constructor
  · rintro ⟨hfirst, hsecond⟩
    obtain ⟨htag, htags⟩ := htags.mp hfirst
    obtain ⟨hvolume, hvolumes⟩ := hvolumes.mp hsecond
    exact ⟨⟨htag, hvolume⟩, ⟨by simpa [fillFrom] using htags, by simpa [fillFrom] using hvolumes⟩⟩
  · rintro ⟨⟨htag, hvolume⟩, hrest, hrest'⟩
    exact ⟨htags.mpr ⟨htag, by simpa [fillFrom] using hrest⟩,
      hvolumes.mpr ⟨hvolume, by simpa [fillFrom] using hrest'⟩⟩

theorem FillsFrom.again {responses : List Shown} (h : p.FillsFrom responses) :
    (p.fillFrom responses).FillsFrom responses :=
  ⟨h.tags.of_filled _, h.volumes.of_filled _⟩

theorem fillFrom_append (p : Parameters) (earlier later : List Shown) :
    (p.fillFrom earlier).fillFrom later = p.fillFrom (earlier ++ later) := by
  simp only [fillFrom, List.findSome?_append, Option.or_assoc]

theorem fillFrom_fillFrom (p : Parameters) (responses : List Shown) :
    (p.fillFrom responses).fillFrom responses = p.fillFrom responses := by
  have hagain : ∀ {α : Type} (a b : Option α), (a.or b).or b = a.or b := by
    intro α a b
    rw [Option.or_assoc, Option.or_self]
  simp only [fillFrom, hagain]

theorem completeAll_cons (p : Parameters) (fields : Table) (responses : List Table) :
    p.completeAll (fields :: responses) =
      p.completeFrom (.table fields) >>= fun q => q.completeAll responses :=
  rfl

/-- **The first response that decides a parameter counts.** -/
theorem completeAll_eq {responses : List Table} {seen : List Shown}
    (h : List.Forall₂ Shows responses seen) (hfills : p.FillsFrom seen) :
    p.completeAll responses = .ok (p.fillFrom seen) := by
  induction h generalizing p with
  | nil =>
    simp only [completeAll, fillFrom, List.findSome?_nil, Option.or_none]
    rfl
  | @cons fields shown responses seen hshows _ ih =>
    -- The later responses complete what the first one has filled in, so `p` is not fixed.
    obtain ⟨hfirst, hrest⟩ := (fillsFrom_cons p shown seen).mp hfills
    calc p.completeAll (fields :: responses)
        = (p.fillFrom [shown]).completeAll responses := by
          rw [completeAll_cons, completeFrom_of_shows hshows hfirst]
          rfl
      _ = .ok ((p.fillFrom [shown]).fillFrom seen) := ih hrest
      _ = .ok (p.fillFrom (shown :: seen)) := by rw [fillFrom_append, List.singleton_append]

theorem completeAll_eq_error {responses : List Table} {seen : List Shown}
    (h : List.Forall₂ Shows responses seen) (hlong : ¬ p.FillsFrom seen) :
    p.completeAll responses = .error (.unwritable ⟨none⟩) := by
  induction h generalizing p with
  | nil => exact absurd ⟨fun _ => nofun, fun _ => nofun⟩ hlong
  | @cons fields shown responses seen hshows _ ih =>
    rw [completeAll_cons]
    by_cases hfirst : p.FillsFrom [shown]
    · rw [completeFrom_of_shows hshows hfirst]
      exact ih fun hrest => hlong ((fillsFrom_cons p shown seen).mpr ⟨hfirst, hrest⟩)
    · rw [completeFrom_of_not_fillsFrom hshows hfirst]
      rfl

/-! ### Features in another order -/

theorem Shown.SameFeatures.flag_eq {s t : Shown} (h : s.SameFeatures t) (feature : String) :
    s.flag feature = t.flag feature := by
  have hfeatures := h.features
  unfold flag
  generalize s.features = names, t.features = others at hfeatures
  cases hfeatures with
  | none => rfl
  | some hsame => simp only [Option.map_some, hsame]

theorem findSome?_congr_of_forall₂ {α β : Type} {R : α → α → Prop} {f : α → Option β}
    (hf : ∀ a b, R a b → f a = f b) {xs ys : List α} (h : List.Forall₂ R xs ys) :
    xs.findSome? f = ys.findSome? f := by
  induction h with
  | nil => rfl
  | cons hab _ ih => rw [List.findSome?_cons, List.findSome?_cons, hf _ _ hab, ih]

theorem fillFrom_congr {seen others : List Shown}
    (h : List.Forall₂ Shown.SameFeatures seen others) (p : Parameters) :
    p.fillFrom seen = p.fillFrom others := by
  have hflag : ∀ feature, seen.findSome? (·.flag feature) = others.findSome? (·.flag feature) :=
    fun feature => findSome?_congr_of_forall₂ (fun _ _ hsame => hsame.flag_eq feature) h
  have hrest : ∀ {β : Type} {f : Shown → Option β},
      (∀ (s : Shown) features, f { s with features := features } = f s) →
        seen.findSome? f = others.findSome? f := by
    intro β f hf
    refine findSome?_congr_of_forall₂ (fun s t hsame => ?_) h
    exact ((congrArg f hsame.rest).trans (hf s t.features)).symm
  have htags := hrest (f := fun shown => Shown.texts shown.tags) fun _ _ => rfl
  have hvolumes := hrest (f := fun shown => Shown.texts shown.volumes) fun _ _ => rfl
  have huuid := hrest (f := Shown.uuid) fun _ _ => rfl
  simp only [fillFrom, hflag, htags, hvolumes, huuid]

theorem fillsFrom_congr {seen others : List Shown}
    (h : List.Forall₂ Shown.SameFeatures seen others) (p : Parameters) :
    p.FillsFrom seen ↔ p.FillsFrom others := by
  have hlists : seen.map Shown.tags = others.map Shown.tags ∧
      seen.map Shown.volumes = others.map Shown.volumes := by
    induction h with
    | nil => exact ⟨rfl, rfl⟩
    | cons hsame _ ih =>
      have htags := congrArg Shown.tags hsame.rest
      have hvolumes := congrArg Shown.volumes hsame.rest
      exact ⟨congrArg₂ List.cons htags.symm ih.1, congrArg₂ List.cons hvolumes.symm ih.2⟩
  exact ⟨fun h => ⟨hlists.1 ▸ h.tags, hlists.2 ▸ h.volumes⟩,
    fun h => ⟨hlists.1 ▸ h.tags, hlists.2 ▸ h.volumes⟩⟩

/-- **The first response that decides a parameter counts.** A parameter that is set stays, and so do
those that no response shows. A flag is that of the first response with features, a list is the
first one that is not empty, as texts, and so is the id. The same responses once more change
nothing, and neither do features in another order or named more than once. Completing parameters
from one response after another fails in one case only: a list that counts holds a numeral that is
too long to be written. -/
theorem first_response_counts (p : Parameters) (responses : List Table) (seen : List Shown)
    (hshows : List.Forall₂ Shows responses seen) :
    let q := { p with
      backups := p.backups.or (seen.findSome? (·.flag "backups"))
      ipv6 := p.ipv6.or (seen.findSome? (·.flag "ipv6"))
      monitoring := p.monitoring.or (seen.findSome? (·.flag "monitoring"))
      privateNetworking := p.privateNetworking.or (seen.findSome? (·.flag "private_networking"))
      tags := p.tags.or (seen.findSome? fun shown => Shown.texts shown.tags)
      volumes := p.volumes.or (seen.findSome? fun shown => Shown.texts shown.volumes)
      vpcUuid := p.vpcUuid.or (seen.findSome? Shown.uuid) }
    (p.FillsFrom seen → p.completeAll responses = .ok q ∧ q.completeAll responses = .ok q) ∧
      (¬ p.FillsFrom seen → p.completeAll responses = .error (.unwritable ⟨none⟩)) ∧
      ∀ others reordered, List.Forall₂ Shows others reordered →
        List.Forall₂ Shown.SameFeatures seen reordered →
        p.completeAll others = p.completeAll responses := by
  intro q
  refine ⟨fun hfills => ⟨completeAll_eq hshows hfills, ?_⟩, completeAll_eq_error hshows, ?_⟩
  · change (p.fillFrom seen).completeAll responses = .ok (p.fillFrom seen)
    rw [completeAll_eq hshows hfills.again, fillFrom_fillFrom]
  · intro others reordered hothers hsame
    by_cases hfills : p.FillsFrom seen
    · rw [completeAll_eq hshows hfills,
        completeAll_eq hothers ((fillsFrom_congr hsame p).mp hfills), fillFrom_congr hsame]
    · rw [completeAll_eq_error hshows hfills,
        completeAll_eq_error hothers fun h => hfills ((fillsFrom_congr hsame p).mpr h)]

/-- Three responses. The first one decides nothing, and the last one comes too late. -/
def unevenResponses (features : List String) : List Table :=
  [[("id", .int 5), ("tags", .null), ("volume_ids", .list []), ("vpc_uuid", .text "")],
    [("features", textList features), ("tags", .list [.text "web"]),
      ("volume_ids", .list [.int 3, .text "data"]), ("vpc_uuid", .text "home")],
    [("features", textList ["monitoring"]), ("volume_ids", .list [.text "late"])]]

def unevenShown (features : List String) : List Shown :=
  [⟨none, none, some [], some ""⟩,
    ⟨some features, some [.text "web"], some [.int 3, .text "data"], some "home"⟩,
    ⟨some ["monitoring"], none, some [.text "late"], none⟩]

theorem shows_uneven (features : List String) :
    List.Forall₂ Shows (unevenResponses features) (unevenShown features) :=
  .cons ⟨rfl, rfl, rfl, rfl⟩ (.cons ⟨rfl, rfl, rfl, rfl⟩ (.cons ⟨rfl, rfl, rfl, rfl⟩ .nil))

theorem first_response_counts_uneven :
    let p : Parameters :=
      { (Record.fresh "web" "ubuntu-20-04" "nyc1" "s-1vcpu-1gb").parameters with
        ipv6 := some false, tags := some [] }
    let q := { p with
      backups := some true, monitoring := some false, privateNetworking := some false
      volumes := some ["3", "data"], vpcUuid := some (.text "home") }
    List.Forall₂ Shows (unevenResponses ["ipv6", "backups"]) (unevenShown ["ipv6", "backups"]) ∧
      p.FillsFrom (unevenShown ["ipv6", "backups"]) ∧
      p.completeAll (unevenResponses ["ipv6", "backups"]) = .ok q ∧
      q.completeAll (unevenResponses ["ipv6", "backups"]) = .ok q ∧
      p.completeAll (unevenResponses ["backups", "ipv6", "backups"]) = .ok q := by
  intro p q
  have hshows := shows_uneven ["ipv6", "backups"]
  have hsame : List.Forall₂ Shown.SameFeatures (unevenShown ["ipv6", "backups"])
      (unevenShown ["backups", "ipv6", "backups"]) := by
    refine .cons ⟨.none, rfl⟩ (.cons ⟨.some ?_, rfl⟩ (.cons ⟨.some fun _ => .rfl, rfl⟩ .nil))
    intro name
    simp only [List.mem_cons, List.not_mem_nil, or_false]
    tauto
  have hfills : p.FillsFrom (unevenShown ["ipv6", "backups"]) := by
    refine ⟨nofun, ?_⟩
    rintro - items ⟨⟩
    decide +kernel
  obtain ⟨hfilled, -, hreordered⟩ := first_response_counts p _ _ hshows
  obtain ⟨hall, hagain⟩ := hfilled hfills
  exact ⟨hshows, hfills, hall, hagain,
    (hreordered _ _ (shows_uneven ["backups", "ipv6", "backups"]) hsame).trans hall⟩

end DropletReconciler.Parameters
