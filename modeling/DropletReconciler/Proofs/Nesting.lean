import DropletReconciler.Proofs.ReadTables

/-!
# Tables inside of tables

Where two tables hold nothing but tables under a key, merging them merges what they hold there
(`child_merge`).
-/

namespace DropletReconciler

namespace Table

variable {key : String} {fields base override : Table}

/-- The table under a key; one that is not there counts as empty. -/
def child (key : String) (fields : Table) : Table :=
  match get? key fields with
  | some (.table inner) => inner
  | _ => []

/-- What stands under a key, if anything, is a table. -/
def Nests (key : String) (fields : Table) : Prop :=
  ∀ value, get? key fields = some value → ∃ inner, value = .table inner

theorem child_of_get? {inner : Table} (h : get? key fields = some (.table inner)) :
    child key fields = inner := by
  rw [child, h]

theorem child_of_absent (h : get? key fields = none) : child key fields = [] := by
  rw [child, h]

theorem Nests.cases (h : Nests key fields) :
    get? key fields = none ∨ get? key fields = some (.table (child key fields)) := by
  cases hget : get? key fields with
  | none => exact .inl rfl
  | some value =>
    obtain ⟨inner, rfl⟩ := h value hget
    exact .inr (congrArg (some ∘ Value.table) (child_of_get? hget).symm)

theorem Nests.getD_get? (h : Nests key fields) :
    (get? key fields).getD (.table []) = .table (child key fields) := by
  obtain hget | hget := h.cases
  · rw [hget, child_of_absent hget]
    rfl
  · rw [hget]
    rfl

theorem Keyed.child (h : Table.Keyed fields) (key : String) : Table.Keyed (child key fields) := by
  unfold Table.child
  split
  · next hget => exact h.of_get? hget
  · exact Keyed.nil

theorem get?_merge_of_nests (hoverride : Table.Keyed override) (hbelow : Nests key base)
    (habove : Nests key override) :
    get? key (merge base override) = none ∧ get? key base = none ∧ get? key override = none ∨
      get? key (merge base override) =
        some (.table (merge (child key base) (child key override))) := by
  rw [get?_merge hoverride.nodup_keys]
  obtain hupper | hupper := habove.cases
  · rw [hupper, child_of_absent hupper]
    obtain hlower | hlower := hbelow.cases
    · exact .inl ⟨hlower, hlower, rfl⟩
    · exact .inr hlower
  · rw [hupper]
    exact .inr (congrArg some (table_over (hoverride.child key).nodup_keys _))

theorem child_merge (hoverride : Table.Keyed override) (hbelow : Nests key base)
    (habove : Nests key override) :
    child key (merge base override) = merge (child key base) (child key override) := by
  obtain ⟨hmerge, hlower, hupper⟩ | hmerge := get?_merge_of_nests hoverride hbelow habove
  · rw [child_of_absent hmerge, child_of_absent hlower, child_of_absent hupper]
    rfl
  · exact child_of_get? hmerge

theorem nests_merge (hoverride : Table.Keyed override) (hbelow : Nests key base)
    (habove : Nests key override) : Nests key (merge base override) := by
  intro value hvalue
  obtain ⟨hmerge, -⟩ | hmerge := get?_merge_of_nests hoverride hbelow habove
  · rw [hmerge] at hvalue
    cases hvalue
  · rw [hmerge] at hvalue
    obtain rfl := Option.some.inj hvalue
    exact ⟨_, rfl⟩

end Table

end DropletReconciler
