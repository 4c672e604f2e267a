import SpoRecorder.Source.RecorderOutcomes

/-!
# `Reconcile`, one observation at a time

What one `Reconcile` call does to `podsToWatch`. A Pending observation of an
untracked pod stores the entry its annotations select (`podSelection`), which
is well formed; a NotFound or Succeeded observation removes the entry exactly
when the collection returns; every other observation, and every other key, is
left alone. `PodTransition` is the spec's per-pod state machine, and
`reconcile_refines` shows that each call moves the requested key's entry along
one of its transitions.
-/

namespace SpoRecorder.Source

/-! ## The entry a Pending observation stores -/

/-- The entry `Reconcile` stores for a Pending pod with these annotations: none
when a parser fails or neither finds a profile. -/
def podSelection (cfg : Config) (annotations : Annotations) : Option PodToWatch :=
  match parseHookAnnotations cfg annotations, parseLogAnnotations cfg annotations with
  | .ok hookProfiles, .ok logProfiles => selectRecorder hookProfiles logProfiles
  | _, _ => none

/-- An entry of `podsToWatch` as the parsers can produce it: Hook mode with
seccomp profiles at absolute paths under the recording output directory, or
Logs mode with seccomp or SELinux profiles of non-empty names; never empty. -/
def WellFormedEntry (cfg : Config) (podToWatch : PodToWatch) : Prop :=
  podToWatch.profiles ≠ [] ∧
  match podToWatch.recorder with
  | .hook => ∀ prf ∈ podToWatch.profiles, prf.kind = .seccompProfile ∧ isAbs prf.name ∧
      hasPrefix prf.name cfg.profileRecordingOutputPath
  | .logs => ∀ prf ∈ podToWatch.profiles,
      (prf.kind = .seccompProfile ∨ prf.kind = .selinuxProfile) ∧ prf.name ≠ []
  | .other _ => False

/-- A well-formed entry's collection handles every profile: a Hook entry holds
only seccomp profiles, a Logs entry only seccomp and SELinux ones. -/
theorem WellFormedEntry.known {cfg : Config} {podToWatch : PodToWatch}
    (wf : WellFormedEntry cfg podToWatch) :
    podToWatch.recorder = .hook ∨ podToWatch.recorder = .logs := by
  obtain ⟨recorder, profiles⟩ := podToWatch
  cases recorder with
  | hook => exact .inl rfl
  | logs => exact .inr rfl
  | other => exact wf.2.elim

theorem hookAnnotationEntry_some {cfg : Config} {key value : Str} {prf : ProfileToCollect}
    (kept : hookAnnotationEntry cfg key value = .ok (some prf)) :
    prf.kind = .seccompProfile ∧ isAbs prf.name ∧ hasPrefix prf.name cfg.profileRecordingOutputPath := by
  simp only [hookAnnotationEntry] at kept
  split_ifs at kept <;> cases kept
  simp_all

theorem logAnnotationEntry_some {cfg : Config} {key value : Str} {prf : ProfileToCollect}
    (kept : logAnnotationEntry cfg key value = .ok (some prf)) :
    (prf.kind = .seccompProfile ∨ prf.kind = .selinuxProfile) ∧ prf.name ≠ [] := by
  unfold logAnnotationEntry logAnnotationKind at kept
  split_ifs at kept <;> cases kept <;> simp_all

theorem podSelection_wellFormed {cfg : Config} {annotations : Annotations} {podToWatch : PodToWatch}
    (selected : podSelection cfg annotations = some podToWatch) : WellFormedEntry cfg podToWatch := by
  unfold podSelection at selected
  split at selected
  · rename_i hookProfiles logProfiles hooks logs
    unfold selectRecorder at selected
    split_ifs at selected with someHook someLog <;> cases selected
    · exact ⟨someHook, fun prf member =>
        let ⟨_, _, kept⟩ := mem_parseAnnotationsWith _ hooks member
        hookAnnotationEntry_some kept⟩
    · exact ⟨someLog, fun prf member =>
        let ⟨_, _, kept⟩ := mem_parseAnnotationsWith _ logs member
        logAnnotationEntry_some kept⟩
  · cases selected

/-- `trackPod` changes no entry of a tracked pod, and stores the selection of
an untracked one. -/
theorem trackPod_podsToWatch (impl : Collaborators) (req : NamespacedName) (pod : Pod) (w : World) :
    (stateOf (trackPod impl req pod w)).podsToWatch =
      if (w.podsToWatch req.string).isSome then w.podsToWatch
      else Function.update w.podsToWatch req.string (podSelection impl.config pod.annotations) := by
  show (stateOf (((get : RecorderM World) >>= _) w)).podsToWatch = _
  rw [bind_of_ok (get_run w)]
  dsimp only
  split_ifs with tracked
  · rfl
  · have untracked : w.podsToWatch req.string = none := Option.not_isSome_iff_eq_none.mp tracked
    show (stateOf (((pure PUnit.unit : RecorderM PUnit) >>= _) w)).podsToWatch = _
    rw [bind_of_ok (pure_run _ _)]
    have unchanged : Function.update w.podsToWatch req.string none = w.podsToWatch :=
      Function.update_eq_self_iff.mpr untracked.symm
    unfold podSelection
    cases hooks : parseHookAnnotations impl.config pod.annotations with
    | error err => simp only [recordEvent_run, unchanged]; rfl
    | ok hookProfiles =>
      cases logs : parseLogAnnotations impl.config pod.annotations with
      | error err => simp only [recordEvent_run, unchanged]; rfl
      | ok logProfiles =>
        dsimp only
        cases selectRecorder hookProfiles logProfiles with
        | none => exact unchanged.symm
        | some podToWatch => rfl

/-- Apart from `podsToWatch`, `trackPod` only records events. -/
theorem trackPod_changes (impl : Collaborators) (req : NamespacedName) (pod : Pod) (w : World) :
    Changes (fun _ => False) w { (stateOf (trackPod impl req pod w)) with podsToWatch := w.podsToWatch } := by
  show Changes _ w { (stateOf (((get : RecorderM World) >>= _) w)) with podsToWatch := w.podsToWatch }
  rw [bind_of_ok (get_run w)]
  dsimp only
  split_ifs
  · exact Changes.refl _ w
  · show Changes _ w
      { (stateOf (((pure PUnit.unit : RecorderM PUnit) >>= _) w)) with podsToWatch := w.podsToWatch }
    rw [bind_of_ok (pure_run _ _)]
    cases parseHookAnnotations impl.config pod.annotations with
    | error err => exact changes_recordEvent w _
    | ok hookProfiles =>
      cases parseLogAnnotations impl.config pod.annotations with
      | error err => exact changes_recordEvent w _
      | ok logProfiles =>
        dsimp only
        cases selectRecorder hookProfiles logProfiles with
        | none => exact Changes.refl _ w
        | some podToWatch => exact changes_recordEvent w _

/-! ## One `Reconcile` call -/

/-- An observation of the pod in phase Pending. -/
def Pending (lookup : PodLookup) : Prop := ∃ pod, lookup = .found pod ∧ pod.phase = .pending

/-- An observation on which `Reconcile` collects: the pod is gone, or Succeeded. -/
def Collects (lookup : PodLookup) : Prop :=
  lookup = .notFound ∨ ∃ pod, lookup = .found pod ∧ pod.phase = .succeeded

theorem not_pending_of_collects {lookup : PodLookup} (collects : Collects lookup) :
    ¬ Pending lookup := by
  rintro ⟨pod, rfl, pending⟩
  rcases collects with found | ⟨pod', same, succeeded⟩
  · cases found
  · cases same; rw [pending] at succeeded; cases succeeded

/-- The spec's per-pod state machine, over the entry of one key: the pod is
Unknown (`none`) or Tracking (`some`). -/
inductive PodTransition (cfg : Config) : PodLookup → Option PodToWatch → Option PodToWatch → Prop
  /-- An unknown pod observed Pending is tracked with what its annotations
  select, and stays unknown when they select nothing. -/
  | observe {pod : Pod} : pod.phase = .pending →
      PodTransition cfg (.found pod) none (podSelection cfg pod.annotations)
  /-- Any other observation leaves an unknown pod unknown. -/
  | ignore {lookup : PodLookup} : ¬ Pending lookup → PodTransition cfg lookup none none
  /-- A tracked pod stays tracked with the same entry. -/
  | keep {lookup : PodLookup} {podToWatch : PodToWatch} :
      PodTransition cfg lookup (some podToWatch) (some podToWatch)
  /-- A tracked pod observed gone or Succeeded is collected and forgotten. -/
  | collect {lookup : PodLookup} {podToWatch : PodToWatch} : Collects lookup →
      PodTransition cfg lookup (some podToWatch) none

theorem PodTransition.stay {cfg : Config} {lookup : PodLookup} (notPending : ¬ Pending lookup)
    (state : Option PodToWatch) : PodTransition cfg lookup state state := by
  cases state
  · exact .ignore notPending
  · exact .keep

section Transition

variable {cfg : Config} {lookup : PodLookup} {before after : Option PodToWatch}
  {podToWatch : PodToWatch}

/-- An entry after a transition was there before, or was just selected by a
Pending observation of an unknown pod. -/
theorem PodTransition.tracked (step : PodTransition cfg lookup before after)
    (tracked : after = some podToWatch) :
    before = some podToWatch ∨ before = none ∧ ∃ pod, lookup = .found pod ∧
      pod.phase = .pending ∧ podSelection cfg pod.annotations = some podToWatch := by
  cases step with
  | observe pending => exact .inr ⟨rfl, _, rfl, pending, tracked⟩
  | ignore _ => cases tracked
  | keep => exact .inl tracked
  | collect _ => cases tracked

/-- A tracked entry is kept as it is, or forgotten on a collecting observation. -/
theorem PodTransition.of_tracked (step : PodTransition cfg lookup before after)
    (tracked : before = some podToWatch) :
    after = some podToWatch ∨ after = none ∧ Collects lookup := by
  cases step with
  | observe _ => cases tracked
  | ignore _ => cases tracked
  | keep => exact .inl tracked
  | collect collects => exact .inr ⟨rfl, collects⟩

end Transition

section Reconcile

variable (impl : Collaborators)

/-- `Reconcile` tracks on a Pending observation, collects on a NotFound or
Succeeded one, and otherwise changes nothing. -/
theorem reconcile_cases (req : NamespacedName) (lookup : PodLookup) (w : World) :
    (∃ pod, lookup = .found pod ∧ pod.phase = .pending ∧
      reconcile impl req lookup w = trackPod impl req pod w) ∨
    (Collects lookup ∧ ∃ msg, reconcile impl req lookup w = wrapM msg (collectProfile impl req) w) ∨
    (¬ Pending lookup ∧ ¬ Collects lookup ∧ stateOf (reconcile impl req lookup w) = w) := by
  have other : ∀ pod : Pod, pod.phase ≠ .pending → pod.phase ≠ .succeeded →
      ¬ Pending (.found pod) ∧ ¬ Collects (.found pod) := fun pod notPending notSucceeded =>
    ⟨fun ⟨_, same, pending⟩ => notPending (PodLookup.found.inj same ▸ pending),
      fun collects => collects.elim (nomatch ·)
        fun ⟨_, same, succeeded⟩ => notSucceeded (PodLookup.found.inj same ▸ succeeded)⟩
  cases lookup with
  | failed err =>
    refine .inr (.inr ⟨fun ⟨_, same, _⟩ => (nomatch same), ?_, rfl⟩)
    rintro (same | ⟨_, same, _⟩) <;> cases same
  | notFound => exact .inr (.inl ⟨.inl rfl, _, rfl⟩)
  | found pod =>
    cases phase : pod.phase with
    | pending => exact .inl ⟨pod, rfl, phase, by simp [reconcile, phase]⟩
    | succeeded =>
      exact .inr (.inl ⟨.inr ⟨pod, rfl, phase⟩, "collect profile for succeeded pod",
        by simp [reconcile, phase]⟩)
    | running | failed | unknown =>
      refine .inr (.inr ⟨(other pod (by simp [phase]) (by simp [phase])).1,
        (other pod (by simp [phase]) (by simp [phase])).2, ?_⟩)
      simp [reconcile, phase, stateOf, pure_run]

/-- `collectProfile` leaves `podsToWatch` alone, or it collected a tracked
entry, returned, and deleted the entry. -/
theorem collectProfile_cases (name : NamespacedName) (w : World) :
    (stateOf (collectProfile impl name w)).podsToWatch = w.podsToWatch ∨
    ∃ podToWatch w₁, w.podsToWatch name.string = some podToWatch ∧
      collectEntry impl name podToWatch w = .ok () w₁ ∧
      collectProfile impl name w = .ok () (w₁.untrack name.string) ∧
      w₁.podsToWatch = w.podsToWatch := by
  cases tracked : w.podsToWatch name.string with
  | none => exact .inl (by rw [collectProfile_untracked impl tracked]; rfl)
  | some podToWatch =>
    have frame := within_collectEntry impl name podToWatch w
    rw [collectProfile_tracked impl tracked]
    cases ran : collectEntry impl name podToWatch w with
    | ok u w₁ =>
      rw [ran] at frame
      exact .inr ⟨podToWatch, w₁, rfl, ran, (bind_of_ok ran).trans rfl, frame.podsToWatch⟩
    | error err w₁ =>
      rw [ran] at frame
      exact .inl (by rw [bind_of_error ran]; exact frame.podsToWatch)

/-- A call changes no entry but the one of its request's key. -/
theorem reconcile_frame (req : NamespacedName) (lookup : PodLookup) (w : World) {key : Str}
    (other : key ≠ req.string) :
    (stateOf (reconcile impl req lookup w)).podsToWatch key = w.podsToWatch key := by
  rcases reconcile_cases impl req lookup w with ⟨pod, -, -, run⟩ | ⟨-, msg, run⟩ | ⟨-, -, same⟩
  · rw [run, trackPod_podsToWatch]
    split_ifs
    · rfl
    · exact Function.update_noteq other _ _
  · rw [run, state_wrapM]
    rcases collectProfile_cases impl req w with same | ⟨_, w₁, -, -, ran, frame⟩
    · rw [same]
    · rw [ran]
      show Function.update w₁.podsToWatch req.string none key = _
      rw [Function.update_noteq other, frame]
  · rw [same]

/-- Each call moves its key's entry along a transition of the per-pod machine. -/
theorem reconcile_refines (req : NamespacedName) (lookup : PodLookup) (w : World) :
    PodTransition impl.config lookup (w.podsToWatch req.string)
      ((stateOf (reconcile impl req lookup w)).podsToWatch req.string) := by
  rcases reconcile_cases impl req lookup w with
    ⟨pod, rfl, pending, run⟩ | ⟨collects, msg, run⟩ | ⟨notPending, -, same⟩
  · rw [run, trackPod_podsToWatch]
    cases tracked : w.podsToWatch req.string with
    | none =>
      simp only [Option.isSome_none, Bool.false_eq_true, if_false, Function.update_same]
      exact .observe pending
    | some podToWatch =>
      simp only [Option.isSome_some, if_true, tracked]
      exact .keep
  · rw [run, state_wrapM]
    rcases collectProfile_cases impl req w with same | ⟨podToWatch, w₁, tracked, -, ran, -⟩
    · rw [same]
      exact .stay (not_pending_of_collects collects) _
    · rw [ran, tracked]
      show PodTransition _ _ _ (Function.update w₁.podsToWatch req.string none req.string)
      rw [Function.update_same]
      exact .collect collects
  · rw [same]
    exact .stay notPending _

/-- A call removes an entry only by a collection that returned after its loop
wrote every profile of the entry; the call ends in the world the collection
ended in, less the entry. -/
theorem reconcile_removes {req : NamespacedName} {lookup : PodLookup} {w : World} {key : Str}
    {podToWatch : PodToWatch} (tracked : w.podsToWatch key = some podToWatch)
    (known : podToWatch.recorder = .hook ∨ podToWatch.recorder = .logs)
    (removed : (stateOf (reconcile impl req lookup w)).podsToWatch key = none) :
    key = req.string ∧ Collects lookup ∧ ∃ wEnd, reconcile impl req lookup w = .ok () (wEnd.untrack key) ∧
      ∀ prf ∈ podToWatch.profiles, Collected impl req podToWatch w wEnd prf := by
  by_cases same : key = req.string
  swap
  · rw [reconcile_frame impl req lookup w same, tracked] at removed
    cases removed
  subst same
  rcases reconcile_cases impl req lookup w with ⟨pod, -, -, run⟩ | ⟨collects, msg, run⟩ | ⟨-, -, same⟩
  · rw [run, trackPod_podsToWatch] at removed
    simp [tracked] at removed
  · rw [run, state_wrapM] at removed
    rcases collectProfile_cases impl req w with unchanged | ⟨entry, w₁, tracked', ran, result, -⟩
    · rw [unchanged, tracked] at removed
      cases removed
    · obtain rfl := Option.some.inj (tracked'.symm.trans tracked)
      exact ⟨rfl, collects, w₁, run.trans (wrapM_ok.mpr result), collectEntry_collected impl known ran⟩
  · rw [same, tracked] at removed
    cases removed

/-- A failed collection keeps the entry and changes only what collecting it may. -/
theorem collectProfile_error {name : NamespacedName} {w w₁ : World} {err : String}
    {podToWatch : PodToWatch} (tracked : w.podsToWatch name.string = some podToWatch)
    (run : collectProfile impl name w = .error err w₁) :
    Changes (entryTargets name.ns podToWatch) w w₁ := by
  have frame := within_collectEntry impl name podToWatch w
  rw [collectProfile_tracked impl tracked] at run
  cases ran : collectEntry impl name podToWatch w with
  | ok u w₂ => rw [bind_of_ok ran] at run; cases run
  | error e w₂ =>
    rw [bind_of_error ran] at run
    cases run
    rwa [ran] at frame

/-- A collection that returned collected the entry, then deleted it. -/
theorem collectProfile_ok {name : NamespacedName} {w w' : World} {podToWatch : PodToWatch}
    (tracked : w.podsToWatch name.string = some podToWatch)
    (run : collectProfile impl name w = .ok () w') :
    ∃ w₁, collectEntry impl name podToWatch w = .ok () w₁ ∧ w' = w₁.untrack name.string := by
  rw [collectProfile_tracked impl tracked] at run
  obtain ⟨_, w₁, ran, run⟩ := bind_ok run
  exact ⟨w₁, ran, (EStateM.Result.ok.inj run).2.symm⟩

end Reconcile

end SpoRecorder.Source
