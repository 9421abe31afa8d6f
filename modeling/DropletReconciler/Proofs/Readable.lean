import DropletReconciler.Parameters.Completion

/-!
# The droplets that parameters can be completed from

A droplet must be a table. Its features must make a set, whether or not a flag is still to be
completed. The tags and volumes of a droplet matter where the parameters have none: then they must
have items, and all of these must be short enough to be written, unless they count as absent.
-/

namespace DropletReconciler

theorem bind_eq_ok_iff {ε α β : Type} {x : Except ε α} {f : α → Except ε β} {b : β} :
    x >>= f = .ok b ↔ ∃ a, x = .ok a ∧ f a = .ok b := by
  cases x with
  | error fault =>
    constructor
    · intro h
      cases h
    · rintro ⟨a, h, -⟩
      cases h
  | ok a =>
    constructor
    · exact fun h => ⟨a, rfl, h⟩
    · rintro ⟨a', ha, h⟩
      obtain rfl := Except.ok.inj ha
      exact h

namespace Value

/-- The values that are made of others which can be written. -/
def HasTexts : Value → Prop
  | .list items => ∀ item ∈ items, item.isWritable = true
  | .text _ | .table _ => True
  | _ => False

/-- The values that make a set, since all their items can be looked up. -/
def HasMembers : Value → Prop
  | .list items => ∀ item ∈ items, item.canBeKey = true
  | .text _ | .table _ => True
  | _ => False

/-- Items are written as they are, unless a numeral in one of them is too long. -/
theorem mapM_write (items : List Value) :
    (items.mapM fun item => item.write.mapError Misuse.unwritable) =
      if ∀ item ∈ items, item.isWritable = true then .ok (items.map written)
      else .error (.unwritable ⟨none⟩) := by
  induction items with
  | nil => rfl
  | cons item rest ih =>
    rw [List.mapM_cons, ih]
    simp only [List.forall_mem_cons]
    by_cases hitem : item.isWritable = true
    · rw [write_of_isWritable hitem]
      by_cases hrest : ∀ item ∈ rest, item.isWritable = true
      · rw [if_pos hrest, if_pos ⟨hitem, hrest⟩]
        rfl
      · rw [if_neg hrest, if_neg (not_and_of_not_right _ hrest)]
        rfl
    · rw [write_of_not_isWritable hitem, if_neg (not_and_of_not_left _ hitem)]
      rfl

theorem exists_texts_of_items {v : Value} {items : List Value} (hitems : v.items = .ok items) :
    (∃ texts, v.texts = .ok texts) ↔ ∀ item ∈ items, item.isWritable = true := by
  simp only [texts, bind_eq_ok_iff, hitems, Except.ok.injEq, exists_eq_left', mapM_write]
  by_cases hwritable : ∀ item ∈ items, item.isWritable = true
  · rw [if_pos hwritable]
    exact iff_of_true ⟨_, rfl⟩ hwritable
  · rw [if_neg hwritable]
    exact iff_of_false nofun hwritable

theorem exists_texts_iff {v : Value} : (∃ texts, v.texts = .ok texts) ↔ v.HasTexts := by
  cases v with
  | list items => exact exists_texts_of_items rfl
  | text s =>
    rw [exists_texts_of_items rfl]
    refine iff_of_true ?_ trivial
    intro item hitem
    obtain ⟨c, -, rfl⟩ := List.mem_map.mp hitem
    rfl
  | table fields =>
    rw [exists_texts_of_items rfl]
    refine iff_of_true ?_ trivial
    intro item hitem
    obtain ⟨field, -, rfl⟩ := List.mem_map.mp hitem
    rfl
  | null | bool | int | float | moment =>
    refine ⟨?_, False.elim⟩
    rintro ⟨texts, h⟩
    cases h

theorem exists_members_of_items {v : Value} {items : List Value} (hitems : v.items = .ok items) :
    (∃ members, v.members = .ok members) ↔ ∀ item ∈ items, item.canBeKey = true := by
  simp only [members, bind_eq_ok_iff, hitems, Except.ok.injEq, exists_eq_left']
  cases hfind : items.find? fun item => !item.canBeKey with
  | none =>
    refine ⟨fun _ item hitem => ?_, fun _ => ⟨items, rfl⟩⟩
    simpa using List.find?_eq_none.mp hfind item hitem
  | some item =>
    constructor
    · rintro ⟨members, h⟩
      cases h
    · intro hkeys
      have hkey := hkeys item (List.mem_of_find?_eq_some hfind)
      have hnoKey := List.find?_some hfind
      rw [hkey] at hnoKey
      cases hnoKey

theorem exists_members_iff {v : Value} : (∃ members, v.members = .ok members) ↔ v.HasMembers := by
  cases v with
  | list items => exact exists_members_of_items rfl
  | text s =>
    rw [exists_members_of_items rfl]
    refine iff_of_true ?_ trivial
    intro item hitem
    obtain ⟨c, -, rfl⟩ := List.mem_map.mp hitem
    rfl
  | table fields =>
    rw [exists_members_of_items rfl]
    refine iff_of_true ?_ trivial
    intro item hitem
    obtain ⟨field, -, rfl⟩ := List.mem_map.mp hitem
    rfl
  | null | bool | int | float | moment =>
    refine ⟨?_, False.elim⟩
    rintro ⟨members, h⟩
    cases h

end Value

namespace Parameters

/-- The tables that parameters can be completed from. -/
structure CompletesFrom (p : Parameters) (fields : Table) : Prop where
  features : ∀ features, Table.get? "features" fields = some features → features.HasMembers
  tags : p.tags = none → ∀ tags, Table.get? "tags" fields = some tags →
    tags.isPresent = true → tags.HasTexts
  volumes : p.volumes = none → ∀ volumes, Table.get? "volume_ids" fields = some volumes →
    volumes.isPresent = true → volumes.HasTexts

theorem exists_featuresOf_iff {fields : Table} :
    (∃ features, featuresOf (.table fields) = .ok features) ↔
      ∀ features, Table.get? "features" fields = some features → features.HasMembers := by
  simp only [featuresOf, Value.get?, bind_eq_ok_iff, Except.ok.injEq, exists_eq_left']
  cases hfeatures : Table.get? "features" fields with
  | none => exact ⟨nofun, fun _ => ⟨none, rfl⟩⟩
  | some features =>
    simp only [bind_eq_ok_iff, Option.some.injEq, forall_eq', ← Value.exists_members_iff]
    constructor
    · rintro ⟨_, members, h, -⟩
      exact ⟨members, h⟩
    · rintro ⟨members, h⟩
      exact ⟨some members, members, h, rfl⟩

theorem exists_textsFrom_iff {fields : Table} {key : String} {current : Option (List String)} :
    (∃ texts, textsFrom (.table fields) key current = .ok texts) ↔
      (current = none → ∀ values, Table.get? key fields = some values →
        values.isPresent = true → values.HasTexts) := by
  cases current with
  | some texts => exact ⟨fun _ => nofun, fun _ => ⟨some texts, rfl⟩⟩
  | none =>
    simp only [textsFrom, Value.get?, bind_eq_ok_iff, Except.ok.injEq, exists_eq_left',
      forall_const]
    cases hvalues : Table.get? key fields with
    | none => exact ⟨nofun, fun _ => ⟨none, rfl⟩⟩
    | some values =>
      simp only [Option.some.injEq, forall_eq']
      by_cases hpresent : values.isPresent = true
      · simp only [hpresent, if_true, bind_eq_ok_iff, forall_const, ← Value.exists_texts_iff]
        constructor
        · rintro ⟨_, texts, h, -⟩
          exact ⟨texts, h⟩
        · rintro ⟨texts, h⟩
          exact ⟨some texts, texts, h, rfl⟩
      · simp only [if_neg hpresent]
        exact ⟨fun _ h => absurd h hpresent, fun _ => ⟨none, rfl⟩⟩

theorem exists_valueFrom (fields : Table) (key : String) (current : Option Value) :
    ∃ value, valueFrom (.table fields) key current = .ok value := by
  cases current with
  | some value => exact ⟨some value, rfl⟩
  | none => exact ⟨(Table.get? key fields).filter Value.isPresent, rfl⟩

theorem eq_table_of_featuresOf {observed : Value} {features : Option (List Value)}
    (h : featuresOf observed = .ok features) : ∃ fields, observed = .table fields := by
  cases observed with
  | table fields => exact ⟨fields, rfl⟩
  | _ => cases h

/-- **The droplets that parameters can be completed from.** -/
theorem exists_completeFrom_iff {p : Parameters} {observed : Value} :
    (∃ q, p.completeFrom observed = .ok q) ↔
      ∃ fields, observed = .table fields ∧ p.CompletesFrom fields := by
  simp only [completeFrom, bind_eq_ok_iff]
  constructor
  · rintro ⟨q, features, hfeatures, tags, htags, volumes, hvolumes, -⟩
    obtain ⟨fields, rfl⟩ := eq_table_of_featuresOf hfeatures
    exact ⟨fields, rfl, exists_featuresOf_iff.mp ⟨features, hfeatures⟩,
      exists_textsFrom_iff.mp ⟨tags, htags⟩, exists_textsFrom_iff.mp ⟨volumes, hvolumes⟩⟩
  · rintro ⟨fields, rfl, hcompletes⟩
    obtain ⟨features, hfeatures⟩ := exists_featuresOf_iff.mpr hcompletes.features
    obtain ⟨tags, htags⟩ := exists_textsFrom_iff.mpr hcompletes.tags
    obtain ⟨volumes, hvolumes⟩ := exists_textsFrom_iff.mpr hcompletes.volumes
    obtain ⟨vpcUuid, hvpcUuid⟩ := exists_valueFrom fields "vpc_uuid" p.vpcUuid
    exact ⟨_, features, hfeatures, tags, htags, volumes, hvolumes, vpcUuid, hvpcUuid, rfl⟩

end Parameters

end DropletReconciler
