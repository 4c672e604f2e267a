import SpoRecorder.Guarantees.Tracking

/-!
# What a Pending observation of an untracked pod stores

The spec describes both parsers by the entries of the annotation map: the hook
parser fails on a hook-prefixed key whose value lacks `of:` or names a
relative path, the log parser on a log-prefixed key with an empty value; a hook
profile is kept when its trimmed path lies under the recording output
directory, and a log profile takes the kind its key's prefix selects. Those
descriptions are stated here independently of the parsers' loop
(`BadHookEntry`, `hookProfilesOf`, `logProfilesOf`, ...), and `Reconcile` is
shown to store exactly the entry the spec selects from them, the hook profiles
when there are any and otherwise the log profiles, for every map and every
order in which Go visits it: the lists are the entries' own contributions in visiting order, so
another order stores a permutation of them (`reconcile_pending_perm`).
-/

namespace SpoRecorder.Guarantees.PendingPods
open SpoRecorder.Source SpoRecorder.Guarantees.Tracking

/-- The output file a hook annotation value names. -/
def hookPath (value : Str) : Str := trimSpace (trimPrefix value hookFilePrefix)

/-- A hook annotation the parser rejects: its value lacks `of:`, or names a
path that is not absolute. -/
def BadHookEntry (cfg : Config) (entry : Str × Str) : Prop :=
  hasPrefix entry.1 cfg.seccompProfileRecordHookAnnotationKey ∧
    (¬ hasPrefix entry.2 hookFilePrefix ∨ ¬ isAbs (hookPath entry.2))

/-- A log annotation the parser rejects: its value is empty. -/
def BadLogEntry (cfg : Config) (entry : Str × Str) : Prop :=
  (hasPrefix entry.1 cfg.seccompProfileRecordLogsAnnotationKey ∨
    hasPrefix entry.1 cfg.selinuxProfileRecordLogsAnnotationKey) ∧ entry.2 = []

instance (cfg : Config) (entry : Str × Str) : Decidable (BadHookEntry cfg entry) :=
  inferInstanceAs (Decidable (_ ∧ _))

instance (cfg : Config) (entry : Str × Str) : Decidable (BadLogEntry cfg entry) :=
  inferInstanceAs (Decidable (_ ∧ _))

/-- The seccomp profiles of the hook annotations whose path lies under the
recording output directory. -/
def hookProfilesOf (cfg : Config) (annotations : Annotations) : List ProfileToCollect :=
  annotations.filterMap fun entry =>
    if hasPrefix entry.1 cfg.seccompProfileRecordHookAnnotationKey ∧
        hasPrefix (hookPath entry.2) cfg.profileRecordingOutputPath
    then some ⟨.seccompProfile, hookPath entry.2⟩ else none

/-- The profiles of the log annotations, of the kind the key's prefix selects:
a seccomp profile under the seccomp-log prefix, an SELinux profile under the
selinux-log prefix (the seccomp-log prefix first, should a key have both). -/
def logProfilesOf (cfg : Config) (annotations : Annotations) : List ProfileToCollect :=
  annotations.filterMap fun entry =>
    if hasPrefix entry.1 cfg.seccompProfileRecordLogsAnnotationKey then some ⟨.seccompProfile, entry.2⟩
    else if hasPrefix entry.1 cfg.selinuxProfileRecordLogsAnnotationKey then
      some ⟨.selinuxProfile, entry.2⟩
    else none

/-! ## The loop bodies against the descriptions -/

section Entries

variable {cfg : Config} {entry : Str × Str}

theorem isAbs_ne_nil {path : Str} (absolute : isAbs path) : path ≠ [] := by
  rintro rfl
  cases absolute

theorem hookEntry_fails_iff :
    EntryFails (hookAnnotationEntry cfg) entry ↔ BadHookEntry cfg entry := by
  obtain ⟨key, value⟩ := entry
  simp only [EntryFails, BadHookEntry, hookAnnotationEntry, hookPath]
  by_cases hook : hasPrefix key cfg.seccompProfileRecordHookAnnotationKey
  · by_cases tagged : hasPrefix value hookFilePrefix
    · by_cases absolute : isAbs (trimSpace (trimPrefix value hookFilePrefix))
      · simp only [hook, tagged, absolute, isAbs_ne_nil absolute]
        split_ifs <;> simp_all
      · simp [hook, tagged, absolute]
    · simp [hook, tagged]
  · simp [hook]

theorem logEntry_fails_iff :
    EntryFails (logAnnotationEntry cfg) entry ↔ BadLogEntry cfg entry := by
  obtain ⟨key, value⟩ := entry
  simp only [EntryFails, BadLogEntry, logAnnotationEntry, logAnnotationKind]
  by_cases seccomp : hasPrefix key cfg.seccompProfileRecordLogsAnnotationKey <;>
    by_cases selinux : hasPrefix key cfg.selinuxProfileRecordLogsAnnotationKey <;>
    by_cases empty : value = [] <;> simp [seccomp, selinux, empty]

theorem hookEntry_profile (valid : ¬ BadHookEntry cfg entry) :
    entryProfile (hookAnnotationEntry cfg) entry =
      if hasPrefix entry.1 cfg.seccompProfileRecordHookAnnotationKey ∧
          hasPrefix (hookPath entry.2) cfg.profileRecordingOutputPath
      then some ⟨.seccompProfile, hookPath entry.2⟩ else none := by
  obtain ⟨key, value⟩ := entry
  simp only [BadHookEntry, hookPath, not_and, not_or, not_not] at valid
  simp only [entryProfile, hookAnnotationEntry, hookPath]
  by_cases hook : hasPrefix key cfg.seccompProfileRecordHookAnnotationKey
  · obtain ⟨tagged, absolute⟩ := valid hook
    by_cases inside :
        hasPrefix (trimSpace (trimPrefix value hookFilePrefix)) cfg.profileRecordingOutputPath <;>
      simp [hook, tagged, absolute, isAbs_ne_nil absolute, inside]
  · simp [hook]

theorem logEntry_profile (valid : ¬ BadLogEntry cfg entry) :
    entryProfile (logAnnotationEntry cfg) entry =
      if hasPrefix entry.1 cfg.seccompProfileRecordLogsAnnotationKey then some ⟨.seccompProfile, entry.2⟩
      else if hasPrefix entry.1 cfg.selinuxProfileRecordLogsAnnotationKey then
        some ⟨.selinuxProfile, entry.2⟩
      else none := by
  obtain ⟨key, value⟩ := entry
  simp only [BadLogEntry, not_and] at valid
  simp only [entryProfile, logAnnotationEntry, logAnnotationKind]
  by_cases seccomp : hasPrefix key cfg.seccompProfileRecordLogsAnnotationKey <;>
    by_cases selinux : hasPrefix key cfg.selinuxProfileRecordLogsAnnotationKey <;>
    simp_all

end Entries

/-! ## The parsers and `Reconcile` against the descriptions -/

section Parsers

variable (cfg : Config) (annotations : Annotations)

theorem parseHookAnnotations_fails_iff :
    (∃ err, parseHookAnnotations cfg annotations = .error err) ↔
      ∃ entry ∈ annotations, BadHookEntry cfg entry := by
  simp only [parseHookAnnotations, parseAnnotationsWith_fails, hookEntry_fails_iff]

theorem parseLogAnnotations_fails_iff :
    (∃ err, parseLogAnnotations cfg annotations = .error err) ↔
      ∃ entry ∈ annotations, BadLogEntry cfg entry := by
  simp only [parseLogAnnotations, parseAnnotationsWith_fails, logEntry_fails_iff]

theorem parseHookAnnotations_of_valid
    (valid : ∀ entry ∈ annotations, ¬ BadHookEntry cfg entry) :
    parseHookAnnotations cfg annotations = .ok (hookProfilesOf cfg annotations) := by
  rw [parseHookAnnotations, parseAnnotationsWith_of_forall _
    fun entry member => hookEntry_fails_iff.not.mpr (valid entry member)]
  exact congrArg _ (List.filterMap_congr fun entry member =>
    hookEntry_profile (valid entry member))

theorem parseLogAnnotations_of_valid
    (valid : ∀ entry ∈ annotations, ¬ BadLogEntry cfg entry) :
    parseLogAnnotations cfg annotations = .ok (logProfilesOf cfg annotations) := by
  rw [parseLogAnnotations, parseAnnotationsWith_of_forall _
    fun entry member => logEntry_fails_iff.not.mpr (valid entry member)]
  exact congrArg _ (List.filterMap_congr fun entry member =>
    logEntry_profile (valid entry member))

end Parsers

/-- An untracked pod observed Pending stores what its annotations select. -/
theorem reconcile_pending_stores (impl : Collaborators) (req : NamespacedName)
    (annotations : Annotations) {w : World} (untracked : w.podsToWatch req.string = none) :
    (stateOf (reconcile impl req (.found ⟨.pending, annotations⟩) w)).podsToWatch req.string =
      podSelection impl.config annotations := by
  show (stateOf (trackPod impl req ⟨.pending, annotations⟩ w)).podsToWatch req.string = _
  rw [trackPod_podsToWatch, untracked]
  exact Function.update_same _ _ _

/-- Annotation parsing and mode selection depend on the annotation map only.
Each parser fails exactly when the spec's bad annotation is present; then
nothing is stored. Otherwise `Reconcile` stores `(Hook, H)` if the hook
profiles `H` are not empty, else `(Logs, L)` if the log profiles `L` are not
empty, else nothing, each list being the annotations' own contributions in the
order Go visits the map. -/
theorem reconcile_pending_selection (impl : Collaborators) (req : NamespacedName)
    (annotations : Annotations) (w : World) (untracked : w.podsToWatch req.string = none) :
    ((∃ err, parseHookAnnotations impl.config annotations = .error err) ↔
      ∃ entry ∈ annotations, BadHookEntry impl.config entry) ∧
    ((∃ err, parseLogAnnotations impl.config annotations = .error err) ↔
      ∃ entry ∈ annotations, BadLogEntry impl.config entry) ∧
    ((∃ entry ∈ annotations, BadHookEntry impl.config entry) ∨
        (∃ entry ∈ annotations, BadLogEntry impl.config entry) →
      (stateOf (reconcile impl req (.found ⟨.pending, annotations⟩) w)).podsToWatch req.string =
        none) ∧
    ((∀ entry ∈ annotations, ¬ BadHookEntry impl.config entry) →
      (∀ entry ∈ annotations, ¬ BadLogEntry impl.config entry) →
      (stateOf (reconcile impl req (.found ⟨.pending, annotations⟩) w)).podsToWatch req.string =
        if hookProfilesOf impl.config annotations ≠ [] then
          some ⟨.hook, hookProfilesOf impl.config annotations⟩
        else if logProfilesOf impl.config annotations ≠ [] then
          some ⟨.logs, logProfilesOf impl.config annotations⟩
        else none) := by
  refine ⟨parseHookAnnotations_fails_iff _ _, parseLogAnnotations_fails_iff _ _, ?_, ?_⟩
  · intro bad
    rw [reconcile_pending_stores impl req annotations untracked, podSelection]
    rcases bad with hook | log
    · obtain ⟨err, failed⟩ := (parseHookAnnotations_fails_iff _ _).mpr hook
      rw [failed]
    · obtain ⟨err, failed⟩ := (parseLogAnnotations_fails_iff _ _).mpr log
      rw [failed]
      cases parseHookAnnotations impl.config annotations <;> rfl
  · intro hooks logs
    rw [reconcile_pending_stores impl req annotations untracked, podSelection,
      parseHookAnnotations_of_valid _ _ hooks, parseLogAnnotations_of_valid _ _ logs]
    rfl

/-- A pod with one log annotation, observed Pending on an empty node, is
tracked in Logs mode with its one seccomp profile. -/
theorem reconcile_pending_selection_sample :
    (stateOf (reconcile sampleCollaborators sampleKey (.found ⟨.pending, samplePod.annotations⟩)
        emptyWorld)).podsToWatch sampleKey.string =
      some ⟨.logs, [⟨.seccompProfile, "profile-1".toList⟩]⟩ := by
  rw [(reconcile_pending_selection sampleCollaborators sampleKey samplePod.annotations emptyWorld
    rfl).2.2.2 (by decide) (by decide)]
  decide

/-! ## The order in which Go visits the map -/

/-- Two entries that differ only in the order of their profiles. -/
def SameUpToOrder (e₁ e₂ : PodToWatch) : Prop :=
  e₁.recorder = e₂.recorder ∧ e₁.profiles.Perm e₂.profiles

theorem perm_eq_nil_iff {l₁ l₂ : List ProfileToCollect} (h : l₁.Perm l₂) : l₁ = [] ↔ l₂ = [] :=
  ⟨fun empty => List.nil_perm.mp (empty ▸ h), fun empty => List.perm_nil.mp (empty ▸ h)⟩

theorem selectRecorder_perm {h₁ h₂ l₁ l₂ : List ProfileToCollect} (hooks : h₁.Perm h₂)
    (logs : l₁.Perm l₂) :
    Option.Rel SameUpToOrder (selectRecorder h₁ l₁) (selectRecorder h₂ l₂) := by
  unfold selectRecorder
  by_cases someHook : h₁ ≠ []
  · rw [if_pos someHook, if_pos ((perm_eq_nil_iff hooks).not.mp someHook)]
    exact .some ⟨rfl, hooks⟩
  · rw [if_neg someHook, if_neg (mt (perm_eq_nil_iff hooks).not.mpr someHook)]
    by_cases someLog : l₁ ≠ []
    · rw [if_pos someLog, if_pos ((perm_eq_nil_iff logs).not.mp someLog)]
      exact .some ⟨rfl, logs⟩
    · rw [if_neg someLog, if_neg (mt (perm_eq_nil_iff logs).not.mpr someLog)]
      exact .none

theorem podSelection_perm (cfg : Config) {a₁ a₂ : Annotations} (reordered : a₁.Perm a₂) :
    Option.Rel SameUpToOrder (podSelection cfg a₁) (podSelection cfg a₂) := by
  unfold podSelection parseHookAnnotations parseLogAnnotations
  rcases parseAnnotationsWith_perm (hookAnnotationEntry cfg) reordered with
    ⟨_, _, first, second⟩ | ⟨h₁, h₂, first, second, hooks⟩
  · rw [first, second]; exact .none
  rcases parseAnnotationsWith_perm (logAnnotationEntry cfg) reordered with
    ⟨_, _, third, fourth⟩ | ⟨l₁, l₂, third, fourth, logs⟩
  · rw [first, second, third, fourth]; exact .none
  rw [first, second, third, fourth]
  exact selectRecorder_perm hooks logs

/-- The entry `Reconcile` stores for an untracked pod observed Pending does not
depend on the order in which Go visits the annotation map: two orders store
no entry, or entries of one mode whose profiles differ only in order. -/
theorem reconcile_pending_perm (impl : Collaborators) (req : NamespacedName)
    {annotations₁ annotations₂ : Annotations} (reordered : annotations₁.Perm annotations₂) (w : World)
    (untracked : w.podsToWatch req.string = none) :
    Option.Rel SameUpToOrder
      ((stateOf (reconcile impl req (.found ⟨.pending, annotations₁⟩) w)).podsToWatch req.string)
      ((stateOf (reconcile impl req (.found ⟨.pending, annotations₂⟩) w)).podsToWatch req.string) := by
  rw [reconcile_pending_stores impl req _ untracked, reconcile_pending_stores impl req _ untracked]
  exact podSelection_perm impl.config reordered

/-- Two log annotations of one pod, in the two orders Go may visit them. -/
def twoLogAnnotations : Annotations :=
  [("io.containers.trace-logs/app".toList, "profile-1".toList),
    ("io.containers.trace-avcs/app".toList, "profile-2".toList)]

theorem reconcile_pending_perm_sample :
    Option.Rel SameUpToOrder
      ((stateOf (reconcile sampleCollaborators sampleKey (.found ⟨.pending, twoLogAnnotations⟩)
        emptyWorld)).podsToWatch sampleKey.string)
      ((stateOf (reconcile sampleCollaborators sampleKey (.found ⟨.pending, twoLogAnnotations.reverse⟩)
        emptyWorld)).podsToWatch sampleKey.string) :=
  reconcile_pending_perm sampleCollaborators sampleKey (List.reverse_perm _).symm emptyWorld rfl

end SpoRecorder.Guarantees.PendingPods
