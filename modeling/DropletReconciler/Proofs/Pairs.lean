import DropletReconciler.Config
import DropletReconciler.Proofs.Readable
import DropletReconciler.Proofs.Tables
import Mathlib.Data.List.Induction

/-!
# Settings that a value spells out

Besides a table, a list of pairs spells out settings, and so does nothing at all. A setting that comes
twice counts as it comes last; `find?_distinct` says so for the settings whose key is a text.
-/

namespace DropletReconciler

theorem exists_mapM_iff {ε α β : Type} {f : α → Except ε β} {xs : List α} :
    (∃ ys, xs.mapM f = .ok ys) ↔ ∀ x ∈ xs, ∃ y, f x = .ok y := by
  induction xs with
  | nil => exact iff_of_true ⟨[], rfl⟩ nofun
  | cons x xs ih =>
    rw [List.forall_mem_cons, ← ih, List.mapM_cons]
    simp only [bind_eq_ok_iff]
    constructor
    · rintro ⟨_, y, hy, ys, hys, -⟩
      exact ⟨⟨y, hy⟩, ys, hys⟩
    · rintro ⟨⟨y, hy⟩, ys, hys⟩
      exact ⟨y :: ys, y, hy, ys, hys, rfl⟩

theorem forall_mem_zipIdx_iff {α : Type} {xs : List α} (P : α → Prop) :
    (∀ x ∈ xs.zipIdx, P x.1) ↔ ∀ x ∈ xs, P x := by
  rw [← List.forall_mem_map, List.zipIdx_map_fst]

namespace Value

/-! ### Texts as keys -/

theorem alike_text_iff {v : Value} {s : String} : v.alike (.text s) = true ↔ v = .text s := by
  cases v <;> simp [alike, scalarAlike, whole?, equalsInt]

theorem text_alike_iff {v : Value} {s : String} : (Value.text s).alike v = true ↔ v = .text s := by
  cases v with
  | text other =>
    simp only [alike, scalarAlike, whole?, beq_iff_eq, Value.text.injEq]
    exact eq_comm
  | _ => simp [alike, scalarAlike, whole?, equalsInt]

/-! ### Pairs -/

/-- The values that stand for a key and its value. -/
def IsPair (v : Value) : Prop :=
  ∃ key value, v.items = .ok [key, value] ∧ key.canBeKey = true

/-- The values that spell out settings. -/
def SpellsPairs : Value → Prop
  | .table _ => True
  | .list items => ∀ item ∈ items, item.IsPair
  | .text s => s = ""
  | _ => False

theorem exists_asPair_iff {index : Nat} {item : Value} :
    (∃ pair, asPair index item = .ok pair) ↔ item.IsPair := by
  unfold asPair IsPair
  constructor
  · rintro ⟨pair, h⟩
    split at h
    · cases h
    · next key value hitems =>
      split at h
      · next hkey => exact ⟨key, value, hitems, hkey⟩
      · cases h
    · cases h
  · rintro ⟨key, value, hitems, hkey⟩
    rw [hitems]
    dsimp only
    rw [if_pos hkey]
    exact ⟨(key, value), rfl⟩

theorem exists_pairs_of_items {items : List Value} :
    (∃ pairs, (items.zipIdx.mapM fun x => asPair x.2 x.1) = .ok pairs) ↔
      ∀ item ∈ items, item.IsPair := by
  rw [exists_mapM_iff]
  simp only [exists_asPair_iff]
  exact forall_mem_zipIdx_iff IsPair

theorem exists_pairs_iff {v : Value} : (∃ pairs, v.pairs = .ok pairs) ↔ v.SpellsPairs := by
  cases v with
  | table fields => exact iff_of_true ⟨_, rfl⟩ trivial
  | list items => exact exists_pairs_of_items
  | text s =>
    -- A character is a text of length one, which is no pair.
    have hchars : (∀ item ∈ s.toList.map ofChar, item.IsPair) ↔ s = "" := by
      constructor
      · intro h
        by_contra hne
        obtain ⟨c, rest, hs⟩ := List.exists_cons_of_ne_nil (mt String.toList_eq_nil_iff.mp hne)
        obtain ⟨key, value, hitems, -⟩ := h (ofChar c) (by rw [hs]; exact List.mem_cons_self)
        have hlength := congrArg List.length (Except.ok.inj hitems)
        simp at hlength
      · rintro rfl
        exact nofun
    exact exists_pairs_of_items.trans hchars
  | null | bool | int | float | moment => exact iff_of_false nofun id

end Value

/-! ### Settings that come more than once -/

/-- The value that was given last under a key. -/
def settingOf (key : String) (pairs : List (Value × Value)) : Option Value :=
  ((pairs.filter fun pair => pair.1 = .text key).getLast?).map Prod.snd

theorem settingOf_concat (key : String) (pairs : List (Value × Value)) (pair : Value × Value) :
    settingOf key (pairs ++ [pair]) =
      if pair.1 = .text key then some pair.2 else settingOf key pairs := by
  unfold settingOf
  rw [List.filter_append]
  split
  · next h => rw [List.filter_cons_of_pos (by simpa), List.filter_nil, List.getLast?_concat]; rfl
  · next h => rw [List.filter_cons_of_neg (by simpa), List.filter_nil, List.append_nil]

theorem find?_putPair (key : String) (name value : Value) (kept : List (Value × Value)) :
    ((Value.putPair name value kept).find? fun pair => pair.1 = .text key).map Prod.snd =
      if name = .text key then some value
      else (kept.find? fun pair => pair.1 = .text key).map Prod.snd := by
  induction kept with
  | nil =>
    by_cases hname : name = .text key
    · simp [Value.putPair, hname]
    · simp [Value.putPair, hname]
  | cons first rest ih =>
    rw [Value.putPair]
    by_cases hfirst : first.1 = .text key
    · have halike : first.1.alike name = true ↔ name = .text key := by
        rw [hfirst, Value.text_alike_iff]
      simp only [halike]
      split
      · next hname => simp [hfirst]
      · simp [hfirst]
    · have hrest : ∀ v later, List.find? (fun pair : Value × Value => pair.1 = .text key)
          ((first.1, v) :: later) = later.find? fun pair => pair.1 = .text key := fun v later =>
        List.find?_cons_of_neg (by simpa using hfirst)
      have hskip := hrest first.2 rest
      split
      · next halike =>
        have hname : name ≠ .text key := by
          rintro rfl
          exact hfirst (Value.alike_text_iff.mp halike)
        rw [hrest, if_neg hname, hskip]
      · rw [hrest, ih, hskip]

/-- **A setting that comes twice** counts as it comes last. -/
theorem find?_distinct (key : String) (pairs : List (Value × Value)) :
    ((pairs.foldl (fun kept (name, value) => Value.putPair name value kept) []).find?
      fun pair => pair.1 = .text key).map Prod.snd = settingOf key pairs := by
  induction pairs using List.reverseRecOn with
  | nil => rfl
  | append_singleton earlier last ih =>
    rw [List.foldl_append, List.foldl_cons, List.foldl_nil, find?_putPair, ih, settingOf_concat]

end DropletReconciler
