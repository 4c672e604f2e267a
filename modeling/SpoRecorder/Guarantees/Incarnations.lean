import SpoRecorder.Guarantees.Tracking

/-!
# Which annotations a collection follows

`podsToWatch` is keyed by namespace/name only. When a tracked pod ends and a
new pod of the same name is observed Pending before the recorder sees the old
one gone, `Reconcile` answers "already tracking" and keeps the old entry; the
Succeeded observation of the new pod then collects the old pod's profiles and
none of its own (`succeeded_collects_earlier_incarnation`).

What does hold, over every sequence of observations of one key: the entry a
collection works on is the one stored by the Pending observation that created
it, the first after the key was last untracked, whichever pod that observation
saw; every later observation left it unchanged (`observeAll_entry_origin`).
-/

namespace SpoRecorder.Guarantees.Incarnations
open SpoRecorder.Source SpoRecorder.Guarantees.Tracking

/-- The observations of one pod key, one `Reconcile` call each. -/
def observeAll (impl : Collaborators) (req : NamespacedName) : World → List PodLookup → World
  | w, [] => w
  | w, lookup :: rest => observeAll impl req (stateOf (reconcile impl req lookup w)) rest

theorem observeAll_append (impl : Collaborators) (req : NamespacedName) (w : World)
    (first later : List PodLookup) :
    observeAll impl req w (first ++ later) = observeAll impl req (observeAll impl req w first) later := by
  induction first generalizing w with
  | nil => rfl
  | cons lookup rest ih => exact ih _

/-- The annotations of an earlier and of a later pod of the same name. -/
def oldAnnotations : Annotations := [("io.containers.trace-logs/app".toList, "old-1".toList)]
def newAnnotations : Annotations := [("io.containers.trace-logs/app".toList, "new-1".toList)]

/-- The earlier pod is observed Pending; the later one is observed Pending and
then Succeeded; the earlier pod's deletion was never observed. -/
def incarnationLookups : List PodLookup :=
  [.found ⟨.pending, oldAnnotations⟩, .found ⟨.pending, newAnnotations⟩,
    .found ⟨.succeeded, newAnnotations⟩]

/-- The later pod names profile `new-1`, yet its Succeeded observation writes
the object of the earlier pod's `old-1` and no object for `new`. -/
theorem succeeded_collects_earlier_incarnation :
    podSelection sampleCollaborators.config newAnnotations =
        some ⟨.logs, [⟨.seccompProfile, "new-1".toList⟩]⟩ ∧
      (observeAll sampleCollaborators sampleKey emptyWorld incarnationLookups).seccompProfiles
        ⟨"default".toList, "old".toList⟩ = some (logSeccompSpec []) ∧
      (observeAll sampleCollaborators sampleKey emptyWorld incarnationLookups).seccompProfiles
        ⟨"default".toList, "new".toList⟩ = none := by
  decide

/-- The entry of a key was stored by a Pending observation of an untracked key,
with what that observation's annotations select, and no later observation
changed it. -/
theorem observeAll_entry_origin (impl : Collaborators) (req : NamespacedName) (w : World)
    (lookups : List PodLookup) (podToWatch : PodToWatch)
    (untracked : w.podsToWatch req.string = none)
    (tracked : (observeAll impl req w lookups).podsToWatch req.string = some podToWatch) :
    ∃ before pod after, lookups = before ++ .found pod :: after ∧ pod.phase = .pending ∧
      podSelection impl.config pod.annotations = some podToWatch ∧
      (observeAll impl req w before).podsToWatch req.string = none ∧
      ∀ mid, mid <+: after →
        (observeAll impl req w (before ++ .found pod :: mid)).podsToWatch req.string =
          some podToWatch := by
  induction lookups using List.reverseRecOn with
  | nil => rw [observeAll, untracked] at tracked; cases tracked
  | append_singleton earlier lookup ih =>
    rw [observeAll_append] at tracked
    rcases (reconcile_refines impl req lookup _).tracked tracked with
      kept | ⟨untrackedBefore, pod, rfl, pending, selected⟩
    · obtain ⟨before, pod, after, rfl, pending, selected, untrackedThen, since⟩ := ih kept
      refine ⟨before, pod, after ++ [lookup], by simp, pending, selected, untrackedThen, ?_⟩
      intro mid prefixed
      rcases List.prefix_concat_iff.mp prefixed with rfl | prefixed
      · rw [← List.cons_append, ← List.append_assoc, observeAll_append]
        exact tracked
      · exact since mid prefixed
    · refine ⟨earlier, pod, [], rfl, pending, selected, untrackedBefore, ?_⟩
      intro mid prefixed
      rw [List.prefix_nil.mp prefixed, observeAll_append]
      exact tracked

/-- The earlier pod's entry, which the collection in the run above works on. -/
def oldEntry : PodToWatch := ⟨.logs, [⟨.seccompProfile, "old-1".toList⟩]⟩

theorem observeAll_entry_origin_sample :
    ∃ before pod after, incarnationLookups.take 2 = before ++ .found pod :: after ∧
      pod.phase = .pending ∧ podSelection sampleCollaborators.config pod.annotations = some oldEntry ∧
      (observeAll sampleCollaborators sampleKey emptyWorld before).podsToWatch sampleKey.string =
        none ∧
      ∀ mid, mid <+: after →
        (observeAll sampleCollaborators sampleKey emptyWorld (before ++ .found pod :: mid)).podsToWatch
          sampleKey.string = some oldEntry :=
  observeAll_entry_origin sampleCollaborators sampleKey emptyWorld _ oldEntry rfl (by decide)

end SpoRecorder.Guarantees.Incarnations
