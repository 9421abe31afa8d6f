import DropletReconciler.Value.Merge
import Mathlib.Data.List.Nodup

/-!
# Tables, key by key

A table in which each key stands once is known from its keys and from what it has under them.
`get?_merge` and `keys_merge` say this of one table laid over another.
-/

namespace DropletReconciler

theorem Value.over_none (v : Value) : v.over none = v := by
  cases v <;> rfl

namespace Table

variable {key other : String} {value : Value} {fields base override : Table}

/-! ### Looking up -/

theorem get?_cons (field : String × Value) (fields : Table) :
    get? key (field :: fields) = if key = field.1 then some field.2 else get? key fields := by
  rw [get?, List.lookup_cons]
  by_cases h : key = field.1
  · rw [if_pos h, beq_iff_eq.mpr h]
  · rw [if_neg h, beq_false_of_ne h, get?]

theorem get?_eq_none_iff : get? key fields = none ↔ key ∉ keys fields := by
  induction fields with
  | nil => exact iff_of_true rfl List.not_mem_nil
  | cons field rest ih =>
    rw [get?_cons, keys, List.map_cons, List.mem_cons, not_or]
    by_cases h : key = field.1
    · simp [h]
    · rw [if_neg h, ih]
      simp [h, keys]

theorem mem_of_get?_eq_some (h : get? key fields = some value) : (key, value) ∈ fields := by
  induction fields with
  | nil => cases h
  | cons field rest ih =>
    rw [get?_cons] at h
    split at h
    · next hkey =>
      obtain rfl := Option.some.inj h
      rw [hkey]
      exact List.mem_cons_self
    · exact List.mem_cons_of_mem _ (ih h)

/-! ### One entry put -/

theorem get?_put_self (key : String) (value : Value) (fields : Table) :
    get? key (put key value fields) = some value := by
  induction fields with
  | nil => rw [put, get?_cons, if_pos rfl]
  | cons field rest ih =>
    rw [put]
    split
    · next h => rw [get?_cons, if_pos h.symm]
    · next h => rw [get?_cons, if_neg (Ne.symm h), ih]

theorem get?_put_of_ne (h : other ≠ key) (value : Value) (fields : Table) :
    get? other (put key value fields) = get? other fields := by
  induction fields with
  | nil => rw [put, get?_cons, if_neg h]
  | cons field rest ih =>
    rw [put]
    split
    · next hkey =>
      have hother : other ≠ field.1 := hkey ▸ h
      rw [get?_cons, if_neg hother, get?_cons, if_neg hother]
    · rw [get?_cons, get?_cons, ih]

theorem keys_put (key : String) (value : Value) (fields : Table) :
    keys (put key value fields) =
      if key ∈ keys fields then keys fields else keys fields ++ [key] := by
  induction fields with
  | nil => rfl
  | cons field rest ih =>
    rw [put]
    split
    · next h => rw [if_pos (by simp [keys, h])]; rfl
    · next h =>
      have hmem : key ∈ keys (field :: rest) ↔ key ∈ keys rest := by simp [keys, Ne.symm h]
      simp only [hmem]
      rw [keys, List.map_cons, ← keys, ih]
      split
      · rfl
      · rfl

/-! ### One key taken away -/

theorem keys_erase (key : String) (fields : Table) :
    keys (erase key fields) = (keys fields).filter (· ≠ key) := by
  rw [keys, erase, keys, List.filter_map]
  rfl

theorem get?_erase_of_ne (h : other ≠ key) (fields : Table) :
    get? other (erase key fields) = get? other fields := by
  induction fields with
  | nil => rfl
  | cons field rest ih =>
    rw [erase] at ih ⊢
    by_cases hkey : field.1 = key
    · rw [List.filter_cons_of_neg (by simpa), ih, get?_cons, if_neg (hkey ▸ h)]
    · rw [List.filter_cons_of_pos (by simpa), get?_cons, get?_cons, ih]

/-! ### One table over another -/

theorem get?_merge (hnodup : (keys override).Nodup) (key : String) (base : Table) :
    get? key (merge base override) =
      match get? key override with
      | some value => some (value.over (get? key base))
      | none => get? key base := by
  induction override generalizing base with
  | nil => rfl
  | cons field rest ih =>
    obtain ⟨hnew, hrest⟩ : field.1 ∉ keys rest ∧ (keys rest).Nodup := List.nodup_cons.mp hnodup
    rw [merge, ih hrest, get?_cons]
    by_cases hkey : key = field.1
    · subst hkey
      rw [if_pos rfl, get?_eq_none_iff.mpr hnew]
      exact get?_put_self _ _ base
    · rw [if_neg hkey, get?_put_of_ne hkey]

/-- The keys of the lower table come first, then the new ones. -/
theorem keys_merge (hnodup : (keys override).Nodup) (base : Table) :
    keys (merge base override) = keys base ++ (keys override).filter (· ∉ keys base) := by
  induction override generalizing base with
  | nil => exact (List.append_nil _).symm
  | cons field rest ih =>
    obtain ⟨hnew, hrest⟩ : field.1 ∉ keys rest ∧ (keys rest).Nodup := List.nodup_cons.mp hnodup
    have hkeys : keys (field :: rest) = field.1 :: keys rest := rfl
    rw [merge, ih hrest, keys_put, hkeys]
    by_cases hmem : field.1 ∈ keys base
    · rw [if_pos hmem, List.filter_cons_of_neg (by simpa)]
    · have hfilter : (keys rest).filter (· ∉ keys base ++ [field.1]) =
          (keys rest).filter (· ∉ keys base) := by
        apply List.filter_congr
        intro key hkey
        have hne : key ≠ field.1 := fun h => hnew (h ▸ hkey)
        simp [hne]
      rw [if_neg hmem, hfilter, List.filter_cons_of_pos (by simpa), List.append_assoc]
      rfl

theorem put_of_not_mem (h : key ∉ keys fields) :
    put key value fields = fields ++ [(key, value)] := by
  induction fields with
  | nil => rfl
  | cons field rest ih =>
    obtain ⟨hfield, hrest⟩ : key ≠ field.1 ∧ key ∉ keys rest :=
      not_or.mp fun hmem => h (List.mem_cons.mpr hmem)
    rw [put, if_neg (Ne.symm hfield), ih hrest]
    rfl

theorem merge_of_disjoint (hnodup : (keys override).Nodup)
    (hnew : ∀ key ∈ keys override, key ∉ keys base) : merge base override = base ++ override := by
  induction override generalizing base with
  | nil => exact (List.append_nil base).symm
  | cons field rest ih =>
    obtain ⟨hfield, hrest⟩ : field.1 ∉ keys rest ∧ (keys rest).Nodup := List.nodup_cons.mp hnodup
    have habsent : field.1 ∉ keys base := hnew field.1 List.mem_cons_self
    have hlater : ∀ key ∈ keys rest, key ∉ keys (base ++ [field]) := by
      intro key hkey hmem
      rw [keys, List.map_append] at hmem
      obtain hmem | hmem := List.mem_append.mp hmem
      · exact hnew key (List.mem_cons_of_mem _ hkey) hmem
      · obtain rfl := List.mem_singleton.mp hmem
        exact hfield hkey
    rw [merge, get?_eq_none_iff.mpr habsent, Value.over_none, put_of_not_mem habsent,
      ih hrest hlater, List.append_assoc]
    rfl

theorem nil_merge (h : (keys fields).Nodup) : merge [] fields = fields :=
  merge_of_disjoint h fun _ _ => List.not_mem_nil

/-- The table that stands somewhere. Anything else counts as empty. -/
def orEmpty : Option Value → Table
  | some (.table base) => base
  | _ => []

/-- A table is always merged, with an empty one where there is none below. -/
theorem table_over (hnodup : (keys fields).Nodup) (lower : Option Value) :
    (Value.table fields).over lower = .table (merge (orEmpty lower) fields) := by
  have hempty : Value.table fields = .table (merge [] fields) := by
    rw [nil_merge hnodup]
  cases lower with
  | none => exact hempty
  | some v =>
    cases v with
    | table base => rfl
    | null | bool | int | float | text | moment | list => exact hempty

theorem mem_keys_merge_iff (hnodup : (keys override).Nodup) :
    key ∈ keys (merge base override) ↔ key ∈ keys base ∨ key ∈ keys override := by
  rw [keys_merge hnodup, List.mem_append, List.mem_filter, decide_eq_true_iff]
  tauto

theorem nodup_keys_merge (hbase : (keys base).Nodup) (hnodup : (keys override).Nodup) :
    (keys (merge base override)).Nodup := by
  rw [keys_merge hnodup]
  refine List.Nodup.append hbase (hnodup.filter _) ?_
  intro key hkey hfilter
  exact (decide_eq_true_iff.mp (List.mem_filter.mp hfilter).2) hkey

end Table

end DropletReconciler
