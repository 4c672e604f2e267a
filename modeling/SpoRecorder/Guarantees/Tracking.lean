import SpoRecorder.Source.ReconcileSteps
import SpoRecorder.Guarantees.HookPaths

/-!
# `podsToWatch` over whole runs

A run is any sequence of `Reconcile` calls (any requests, any observations,
any replies to the calls they make) with the rest of the node changing in
between: the enricher records audit lines, profile objects, hook files and the
SPOD change, the reply script is replaced. Only `Reconcile` writes
`podsToWatch`.

Over every run:

* every entry is well formed (`reachable_wellFormed`): Hook mode with seccomp
  profiles at absolute paths under the recording output directory, or Logs
  mode with seccomp or SELinux profiles of non-empty names, never empty; so
  the collection's "only seccomp profiles supported via a hook" and
  "unrecognized kind" branches are never taken;
* a call changes at most the entry of its request's key (`reconcile_frame`);
* an entry is created only by a Pending observation of an untracked pod, and
  an entry is never replaced (`PodTransition.tracked`, `PodTransition.of_tracked`);
* an entry is removed only by a collection that returned after, for every
  profile of the entry, a call of its loop wrote the profile's object from
  what that call read (the hook file, or the aggregator's set) and, in Logs
  mode, reset that set (`reconcile_removes`, `Collected`).

Besides its key's entry, a call writes only the objects and resets only the
aggregator sets of the profiles that entry lists (`reconcile_changes`); over a
run, only those of entries tracked for the calls' keys
(`reconcileAll_touches_tracked_entries`).
-/

namespace SpoRecorder.Guarantees.Tracking
open SpoRecorder.Source

/-- The worlds a run reaches from a recorder that tracks nothing. -/
inductive Reachable (impl : Collaborators) : World → Prop
  | init {w : World} : (∀ key, w.podsToWatch key = none) → Reachable impl w
  | reconcile {w : World} (req : NamespacedName) (lookup : PodLookup) :
      Reachable impl w → Reachable impl (stateOf (reconcile impl req lookup w))
  /-- Between calls the rest of the node moves freely. -/
  | environment {w w' : World} :
      Reachable impl w → w'.podsToWatch = w.podsToWatch → Reachable impl w'

section Run

variable {impl : Collaborators}

theorem reachable_wellFormed {w : World} (reachable : Reachable impl w) {key : Str}
    {podToWatch : PodToWatch} (tracked : w.podsToWatch key = some podToWatch) :
    WellFormedEntry impl.config podToWatch := by
  induction reachable generalizing key with
  | init empty => rw [empty] at tracked; cases tracked
  | reconcile req lookup _ ih =>
    by_cases same : key = req.string
    · subst same
      rcases (reconcile_refines impl req lookup _).tracked tracked with before | ⟨-, _, -, -, selected⟩
      · exact ih before
      · exact podSelection_wellFormed selected
    · exact ih ((reconcile_frame impl req lookup _ same).symm.trans tracked)
  | environment _ same ih => exact ih (same ▸ tracked)

end Run

/-- The recorder's `podsToWatch` follows the spec's per-pod state machine on
every run: entries are well formed, a call touches only its own key, an entry
is created only by a Pending observation of an untracked pod and never
replaced, and it is removed only by a collection that returned after a call
for every profile it lists wrote the profile's object from what that call read
(and in Logs mode reset the set it read). -/
theorem reconcile_tracking_machine (impl : Collaborators) :
    (∀ w, Reachable impl w → ∀ key podToWatch, w.podsToWatch key = some podToWatch →
      WellFormedEntry impl.config podToWatch) ∧
    (∀ w req lookup key, key ≠ NamespacedName.string req →
      (stateOf (reconcile impl req lookup w)).podsToWatch key = w.podsToWatch key) ∧
    (∀ w req lookup key podToWatch, w.podsToWatch key = none →
      (stateOf (reconcile impl req lookup w)).podsToWatch key = some podToWatch →
      key = req.string ∧ ∃ pod, lookup = .found pod ∧ pod.phase = .pending ∧
        podSelection impl.config pod.annotations = some podToWatch) ∧
    (∀ w req lookup key podToWatch, w.podsToWatch key = some podToWatch →
      (stateOf (reconcile impl req lookup w)).podsToWatch key = some podToWatch ∨
        (stateOf (reconcile impl req lookup w)).podsToWatch key = none) ∧
    (∀ w req lookup key podToWatch, Reachable impl w → w.podsToWatch key = some podToWatch →
      (stateOf (reconcile impl req lookup w)).podsToWatch key = none →
      key = req.string ∧ Collects lookup ∧ ∃ wEnd, reconcile impl req lookup w = .ok () (wEnd.untrack key) ∧
        ∀ prf ∈ podToWatch.profiles, Collected impl req podToWatch w wEnd prf) := by
  refine ⟨fun w reachable key podToWatch tracked => reachable_wellFormed reachable tracked,
    fun w req lookup key other => reconcile_frame impl req lookup w other, ?_, ?_,
    fun w req lookup key podToWatch reachable tracked removed =>
      reconcile_removes impl tracked (reachable_wellFormed reachable tracked).known removed⟩
  · intro w req lookup key podToWatch untracked tracked
    by_cases same : key = req.string
    · subst same
      rcases (reconcile_refines impl req lookup w).tracked tracked with before | ⟨-, selected⟩
      · rw [untracked] at before; cases before
      · exact ⟨rfl, selected⟩
    · rw [reconcile_frame impl req lookup w same, untracked] at tracked
      cases tracked
  · intro w req lookup key podToWatch tracked
    by_cases same : key = req.string
    · subst same
      exact ((reconcile_refines impl req lookup w).of_tracked tracked).imp_right And.left
    · exact .inl ((reconcile_frame impl req lookup w same).trans tracked)

/-- Apart from `podsToWatch`, a `Reconcile` call for `req` writes only the
profile objects and resets only the aggregator sets of the profiles of the
entry tracked for `req` when the call began; it appends events and consumes
replies, and changes no file, SPOD, metric, other object or other set. -/
theorem reconcile_changes (impl : Collaborators) (req : NamespacedName)
    (lookup : PodLookup) (w : World) :
    Changes (fun t => ∃ podToWatch, w.podsToWatch req.string = some podToWatch ∧
        entryTargets req.ns podToWatch t) w
      { (stateOf (reconcile impl req lookup w)) with podsToWatch := w.podsToWatch } := by
  rcases reconcile_cases impl req lookup w with ⟨pod, -, -, run⟩ | ⟨-, msg, run⟩ | ⟨-, -, same⟩
  · rw [run]
    exact (trackPod_changes impl req pod w).mono fun _ => False.elim
  · rw [run, state_wrapM]
    cases tracked : w.podsToWatch req.string with
    | none =>
      rw [collectProfile_untracked impl tracked]
      exact Changes.refl _ w
    | some podToWatch =>
      have widen : ∀ t, entryTargets req.ns podToWatch t →
          ∃ entry, some podToWatch = some entry ∧ entryTargets req.ns entry t :=
        fun _ target => ⟨podToWatch, rfl, target⟩
      cases ran : collectProfile impl req w with
      | ok u w' =>
        obtain ⟨w₁, collected, rfl⟩ := collectProfile_ok impl tracked ran
        have frame := within_collectEntry impl req podToWatch w
        rw [collected] at frame
        exact { frame.mono widen with podsToWatch := rfl }
      | error err w' =>
        exact { (collectProfile_error impl tracked ran).mono widen with podsToWatch := rfl }
  · rw [same]
    exact Changes.refl _ w

/-- A run of `Reconcile` calls with nothing else in between. -/
def reconcileAll (impl : Collaborators) : World → List (NamespacedName × PodLookup) → World
  | w, [] => w
  | w, (req, lookup) :: rest => reconcileAll impl (stateOf (reconcile impl req lookup w)) rest

/-- What a run may write or reset: the objects and sets of an entry tracked for
a call's key when that call began. -/
def RunTargets (impl : Collaborators) : World → List (NamespacedName × PodLookup) → Target → Prop
  | _, [], _ => False
  | w, (req, lookup) :: rest, t =>
    (∃ podToWatch, w.podsToWatch req.string = some podToWatch ∧ entryTargets req.ns podToWatch t) ∨
      RunTargets impl (stateOf (reconcile impl req lookup w)) rest t

/-- Apart from `podsToWatch`, a run of `Reconcile` calls writes only profile
objects and resets only aggregator sets of profiles listed by an entry tracked
for some call's key when that call began; it changes no file, SPOD, metric,
other object or other set, whatever the observations and the calls' results. -/
theorem reconcileAll_touches_tracked_entries (impl : Collaborators) (w : World)
    (calls : List (NamespacedName × PodLookup)) :
    Changes (RunTargets impl w calls) w { reconcileAll impl w calls with podsToWatch := w.podsToWatch } := by
  induction calls generalizing w with
  | nil => exact Changes.refl _ w
  | cons call rest ih =>
    obtain ⟨req, lookup⟩ := call
    exact ((reconcile_changes impl req lookup w).mono fun _ => .inl).trans
      (((ih _).retrack w.podsToWatch).mono fun _ => .inr)

/-! ## A sample node -/

/-- The AVC of the sample runs. -/
def sampleAvc : SelinuxAvc :=
  ⟨"read".toList, "system_u:system_r:selinuxrecording.process:s0".toList,
    "system_u:object_r:bin_t:s0".toList, "file".toList⟩

/-- The serialization of `sampleAvc`. -/
def sampleAvcJson : Str := "perm=read tclass=file tcontext=bin_t".toList

/-- A codec that serializes `sampleAvc` and fails on every other record, as
`protojson.Marshal` fails on a record that is not valid UTF-8. -/
def sampleCodec : AvcCodec where
  marshal avc := if avc = sampleAvc then .ok sampleAvcJson else .error "proto: invalid UTF-8"
  unmarshal json := if json = sampleAvcJson then some sampleAvc else none
  unmarshal_marshal avc json marshalled := by
    by_cases same : avc = sampleAvc
    · simp only [same, if_true, Except.ok.injEq] at marshalled
      simp [← marshalled, same]
    · simp [same] at marshalled
  unmarshal_empty := by decide

/-- Collaborators of the operator's shape: its annotation keys and directories,
a hook file decoder that keeps the stored spec, and a usage context named
after the profile. -/
def sampleCollaborators : Collaborators where
  config := HookPaths.sampleConfig
  codec := sampleCodec
  unmarshalSeccompProfileSpec _ spec := .ok spec
  getPolicyUsage profile := profile.name ++ "_".toList ++ profile.ns ++ ".process".toList

/-- A node on which the recorder tracks nothing and every call succeeds. -/
def emptyWorld : World where
  podsToWatch _ := none
  enricher := Enricher.empty
  seccompProfiles _ := none
  selinuxProfiles _ := none
  spod := some ⟨true⟩
  files _ := some "\x7b\x7d".toList
  events := []
  replies := []

def sampleKey : NamespacedName := ⟨"default".toList, "recorded".toList⟩

/-- A Pending pod asking for one seccomp profile through the log enricher. -/
def samplePod : Pod := ⟨.pending, [("io.containers.trace-logs/app".toList, "profile-1".toList)]⟩

/-- The entry the sample pod's observation stores. -/
def sampleEntry : PodToWatch := ⟨.logs, [⟨.seccompProfile, "profile-1".toList⟩]⟩

theorem reconcile_tracking_machine_sample :
    Reachable sampleCollaborators
        (stateOf (reconcile sampleCollaborators sampleKey (.found samplePod) emptyWorld)) ∧
      (stateOf (reconcile sampleCollaborators sampleKey (.found samplePod) emptyWorld)).podsToWatch
        sampleKey.string = some sampleEntry ∧
      WellFormedEntry sampleCollaborators.config sampleEntry :=
  have reachable := Reachable.reconcile sampleKey (.found samplePod) (.init fun _ => rfl)
  have tracked : (stateOf (reconcile sampleCollaborators sampleKey (.found samplePod) emptyWorld)).podsToWatch
      sampleKey.string = some sampleEntry := by decide
  ⟨reachable, tracked, (reconcile_tracking_machine sampleCollaborators).1 _ reachable _ _ tracked⟩

end SpoRecorder.Guarantees.Tracking
