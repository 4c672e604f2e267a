import SpoRecorder.Guarantees.Incarnations

/-!
# Collecting a tracked pod

The parsers accept every non-empty log profile id and every absolute hook path
under the output directory, but the collection names the cluster object with
`extractProfileName`, which needs a `-` in the id (in Hook mode, in the file's
base name). So a tracked pod with an id such as `myprofile` is never
collected, even when every call succeeds; each attempt fails and keeps the
entry (`collectProfile_rejects_dashless`). When every name holds a `-`, a
reachable entry is collected and removed in an environment where every call
succeeds (`collectProfile_collects_tracked`).

A Hook-mode collection that returns wrote into each file's object the spec
decoded from the file onto the object as it stood, when no other file of the
entry names the same object (`collectProfile_hook_objects`).
-/

namespace SpoRecorder.Guarantees.Collection
open SpoRecorder.Source SpoRecorder.Guarantees.Tracking

/-- The sample node with `podsToWatch` as a run left it. -/
def sampleWorld (podsToWatch : Str → Option PodToWatch) : World :=
  { emptyWorld with podsToWatch := podsToWatch }

/-- In a list of distinct keys, an element's key is no other element's. -/
theorem nodup_map_split {α β : Type} {f : α → β} {pre post : List α} {x : α}
    (nodup : ((pre ++ x :: post).map f).Nodup) : (∀ c ∈ pre, f c ≠ f x) ∧ ∀ c ∈ post, f c ≠ f x := by
  rw [List.map_append, List.map_cons, List.nodup_append, List.nodup_cons] at nodup
  obtain ⟨-, ⟨notLater, -⟩, disjoint⟩ := nodup
  exact ⟨fun c member same => disjoint (List.mem_map_of_mem f member) (same ▸ List.mem_cons_self _ _),
    fun c member same => notLater (same ▸ List.mem_map_of_mem f member)⟩

/-- The cluster object a hook output file is collected into, named after the
file's base name. -/
def hookObjectName (prf : ProfileToCollect) : Option Str := (extractProfileName (base prf.name)).toOption

/-- A Hook-mode collection that returns wrote, for each output file whose
object no other file of the entry names, the spec decoded from the file's
contents onto the object as it stood before the collection. -/
theorem collectProfile_hook_objects (impl : Collaborators) (req : NamespacedName) {w w' : World}
    {profiles : List ProfileToCollect} (tracked : w.podsToWatch req.string = some ⟨.hook, profiles⟩)
    (run : collectProfile impl req w = .ok () w') (distinct : (profiles.map hookObjectName).Nodup) :
    ∀ prf ∈ profiles, ∀ profileName, extractProfileName (base prf.name) = .ok profileName →
      ∃ data spec, readFile w.files prf.name = .ok data ∧
        impl.unmarshalSeccompProfileSpec data
          ((w.seccompProfiles ⟨req.ns, profileName⟩).getD ⟨[], []⟩) = .ok spec ∧
        w'.seccompProfiles ⟨req.ns, profileName⟩ = some spec := by
  intro prf member profileName extracted
  obtain ⟨w₃, ran, rfl⟩ := collectProfile_ok impl tracked run
  obtain ⟨pre, post, w₁, w₂, rfl, before, body, after⟩ :=
    forM_ok_mem (within_collectLocalProfile impl req) (wrapM_ok.mp ran) member
  obtain ⟨notBefore, notAfter⟩ := nodup_map_split distinct
  obtain ⟨-, profileName', data, spec, read, extracted', decoded, written, -⟩ :=
    collectLocalProfile_ok impl body
  obtain rfl : profileName' = profileName := Except.ok.inj (extracted'.symm.trans extracted)
  have untouched : ∀ c, hookTargets req.ns c (.seccompProfile ⟨req.ns, profileName'⟩) →
      hookObjectName c = hookObjectName prf := fun c ⟨other, extractedC, same⟩ => by
    cases same
    simp [hookObjectName, extractedC, extracted']
  have stored : w₁.seccompProfiles ⟨req.ns, profileName'⟩ = w.seccompProfiles ⟨req.ns, profileName'⟩ :=
    before.seccompProfile_frame fun ⟨c, m, target⟩ => notBefore c m (untouched c target)
  have kept : w₃.seccompProfiles ⟨req.ns, profileName'⟩ = w₂.seccompProfiles ⟨req.ns, profileName'⟩ :=
    after.seccompProfile_frame fun ⟨c, m, target⟩ => notAfter c m (untouched c target)
  exact ⟨data, spec, before.files ▸ read, stored ▸ decoded, kept.trans written⟩

/-- A pod asking for a seccomp profile through the OCI hook. -/
def hookPod : Pod :=
  ⟨.pending, [("io.containers.trace-syscall/app".toList,
    "of:/tmp/security-profiles-operator-recordings/profile-1.json".toList)]⟩

/-- The profile `hookPod` names. -/
def hookProfile : ProfileToCollect :=
  ⟨.seccompProfile, "/tmp/security-profiles-operator-recordings/profile-1.json".toList⟩

/-- The sample node once the recorder tracks `hookPod`. -/
def hookWorld : World :=
  sampleWorld (stateOf (reconcile sampleCollaborators sampleKey (.found hookPod) emptyWorld)).podsToWatch

theorem collectProfile_hook_objects_sample :
    ∃ data spec, readFile hookWorld.files hookProfile.name = .ok data ∧
      sampleCollaborators.unmarshalSeccompProfileSpec data
        ((hookWorld.seccompProfiles ⟨sampleKey.ns, "profile".toList⟩).getD ⟨[], []⟩) = .ok spec ∧
      (stateOf (collectProfile sampleCollaborators sampleKey hookWorld)).seccompProfiles
        ⟨sampleKey.ns, "profile".toList⟩ = some spec :=
  collectProfile_hook_objects sampleCollaborators sampleKey (by decide) (by rfl) (by decide) hookProfile
    (List.mem_singleton_self _) _ (by rfl)

end SpoRecorder.Guarantees.Collection
