import DropletReconciler.Proofs.Readable

/-!
# Parameters that are completed twice

What a completion sets is set, and what it leaves unset the same droplet leaves unset again. So
parameters that were completed from a droplet are not changed by completing them from it once more.
-/

namespace DropletReconciler.Parameters

variable {p q : Parameters} {observed : Value}

/-- A completion reads the droplet part by part, in this order. -/
theorem completeFrom_eq_ok_iff :
    p.completeFrom observed = .ok q ↔
      ∃ features tags volumes vpcUuid, featuresOf observed = .ok features ∧
        textsFrom observed "tags" p.tags = .ok tags ∧
        textsFrom observed "volume_ids" p.volumes = .ok volumes ∧
        valueFrom observed "vpc_uuid" p.vpcUuid = .ok vpcUuid ∧
        q = { p with
          backups := flagFrom features "backups" p.backups
          ipv6 := flagFrom features "ipv6" p.ipv6
          monitoring := flagFrom features "monitoring" p.monitoring
          privateNetworking := flagFrom features "private_networking" p.privateNetworking
          tags := tags
          volumes := volumes
          vpcUuid := vpcUuid } := by
  simp only [completeFrom, bind_eq_ok_iff]
  constructor
  · rintro ⟨features, hfeatures, tags, htags, volumes, hvolumes, vpcUuid, hvpcUuid, hq⟩
    exact ⟨features, tags, volumes, vpcUuid, hfeatures, htags, hvolumes, hvpcUuid,
      (Except.ok.inj hq).symm⟩
  · rintro ⟨features, tags, volumes, vpcUuid, hfeatures, htags, hvolumes, hvpcUuid, rfl⟩
    exact ⟨features, hfeatures, tags, htags, volumes, hvolumes, vpcUuid, hvpcUuid, rfl⟩

theorem flagFrom_flagFrom (features : Option (List Value)) (feature : String)
    (current : Option Bool) :
    flagFrom features feature (flagFrom features feature current) =
      flagFrom features feature current := by
  cases current with
  | some flag => rfl
  | none => cases features <;> rfl

theorem textsFrom_of_textsFrom {key : String} {current texts : Option (List String)}
    (h : textsFrom observed key current = .ok texts) :
    textsFrom observed key texts = .ok texts := by
  cases texts with
  | some texts => rfl
  | none =>
    cases current with
    | some texts => cases h
    | none => exact h

theorem valueFrom_of_valueFrom {key : String} {current value : Option Value}
    (h : valueFrom observed key current = .ok value) :
    valueFrom observed key value = .ok value := by
  cases value with
  | some value => rfl
  | none =>
    cases current with
    | some value => cases h
    | none => exact h

/-- **One completion is enough.** -/
theorem completeFrom_of_completeFrom (h : p.completeFrom observed = .ok q) :
    q.completeFrom observed = .ok q := by
  obtain ⟨features, tags, volumes, vpcUuid, hfeatures, htags, hvolumes, hvpcUuid, rfl⟩ :=
    completeFrom_eq_ok_iff.mp h
  refine completeFrom_eq_ok_iff.mpr ⟨features, tags, volumes, vpcUuid, hfeatures,
    textsFrom_of_textsFrom htags, textsFrom_of_textsFrom hvolumes,
    valueFrom_of_valueFrom hvpcUuid, ?_⟩
  simp only [flagFrom_flagFrom]

end DropletReconciler.Parameters
