import SpoRecorder.Guarantees.AggregatorHistory
import SpoRecorder.Guarantees.Retries

/-!
# A log collection beside the ingest loop

The recorder collects a Logs-mode profile with two calls to the enricher: a
snapshot (`Syscalls` or `Avcs`) and, after the cluster write and its event, a
reset (`ResetSyscalls` or `ResetAvcs`) (profilerecorder.go:385-554). The
enricher's ingest loop runs in its own process meanwhile. The cluster write,
the events and the formatting touch no aggregator set, so the pause points of
`collectLogProfileWith` (`Pause`) are where the ingest can act.
`collectLogProfileBeside` is that definition with the ingest's dispatches at
the pause points (`ingestAt`); the recorder's own `collectLogProfile` is the
same definition with nothing there, and with nothing dispatched the two agree
(`collectLogProfileBeside_idle`).

Each gRPC call and each dispatch is taken as one atomic step. In the code a
dispatch is `LoadOrStore` followed by an unsynchronized `sets.String.Insert`
on the stored set (enricher.go:289-290, 340-341), and the gRPC handlers read
and delete entries of the same `sync.Map`, so a real handler can race with an
insert. What is proved here holds for the runs in which each insert completes
before or after each call, not for the racing ones.

When it returns (`collectLogProfileBeside_ok`), the object holds the profile's
set as the snapshot found it, and the reset leaves nothing under the profile
id: a value the ingest filed for the profile between the two calls and the
snapshot lacked is in neither, so it is lost. Every other set gains all the
ingest dispatched.

The reset comes after the cluster write so that a collection that fails
replays rather than loses: when it fails, it has reset nothing, unless the
reset's reply was lost after it took effect (`collectLogProfileBeside_error`).
Both follow from one walk through each kind's collection
(`collectLogSeccompProfileBeside_run`, `collectLogSelinuxProfileBeside_run`).
-/

namespace SpoRecorder.Guarantees.Interleaving
open SpoRecorder.Source SpoRecorder.Guarantees.Aggregator SpoRecorder.Guarantees.Retries
  SpoRecorder.Guarantees.Tracking

section Beside

variable (syscallName : Int → Option Str) (nodeName : Str)

theorem dispatchAll_append (codec : AvcCodec) (e : Enricher) (l₁ l₂ : List (AuditLine × ContainerInfo)) :
    e.dispatchAll syscallName codec nodeName (l₁ ++ l₂) =
      (e.dispatchAll syscallName codec nodeName l₁).dispatchAll syscallName codec nodeName l₂ := by
  induction l₁ generalizing e with
  | nil => rfl
  | cons entry rest ih => rw [List.cons_append, dispatchAll_cons, dispatchAll_cons, ih]

/-- The ingest loop dispatching `lines` while the recorder waits between two calls. -/
def ingest (codec : AvcCodec) (lines : List (AuditLine × ContainerInfo)) : RecorderM Unit :=
  modify fun w => { w with enricher := w.enricher.dispatchAll syscallName codec nodeName lines }

theorem ingest_run (codec : AvcCodec) (lines : List (AuditLine × ContainerInfo)) (w : World) :
    ingest syscallName nodeName codec lines w =
      .ok () { w with enricher := w.enricher.dispatchAll syscallName codec nodeName lines } :=
  rfl

/-- The ingest loop at the pause points of a Logs-mode collection: it
dispatches `first` once the snapshot call has answered, `second` once the
object is written and `third` once its event is recorded. -/
def ingestAt (codec : AvcCodec) (first second third : List (AuditLine × ContainerInfo)) :
    Pause → RecorderM Unit → RecorderM Unit
  | .snapshot, k => do ingest syscallName nodeName codec first; k
  | .written, k => do ingest syscallName nodeName codec second; k
  | .announced, k => do ingest syscallName nodeName codec third; k

/-- The loop body of `collectLogProfiles` beside the ingest loop. -/
def collectLogProfileBeside (impl : Collaborators) (first second third : List (AuditLine × ContainerInfo))
    (name : NamespacedName) (prf : ProfileToCollect) : RecorderM Unit :=
  collectLogProfileWith impl (ingestAt syscallName nodeName impl.codec first second third) name prf

/-- With the ingest idle, the collection is the recorder's own. -/
theorem collectLogProfileBeside_idle (impl : Collaborators) (name : NamespacedName) (prf : ProfileToCollect) :
    collectLogProfileBeside syscallName nodeName impl [] [] [] name prf = collectLogProfile impl name prf :=
  rfl

variable {w w' : World}

/-- The footprint of the recorder's steps between its two enricher calls:
profile objects, and no aggregator set. -/
def objectTargets : Target → Prop
  | .seccompProfile _ | .selinuxProfile _ => True
  | .syscalls _ | .avcs _ => False

/-- A step between the two enricher calls that fails leaves the enricher as it
found it. -/
theorem enricher_of_error {α : Type} {x : RecorderM α} (hx : Within objectTargets x) {e : String}
    (failed : x w = .error e w') : w'.enricher = w.enricher := by
  have frame := hx w
  rw [failed] at frame
  exact frame.enricher_frame fun _ => ⟨id, id⟩

/-- Every run of `collectLogSeccompProfile` beside the ingest fails short of a reset that
took effect, with the aggregator as the ingest left it, or gets past the reset
with the object written from the snapshot. -/
theorem collectLogSeccompProfileBeside_run {codec : AvcCodec}
    {first second third : List (AuditLine × ContainerInfo)} {profileName ns profileID : Str}
    {r : EStateM.Result String World Unit}
    (run : collectLogSeccompProfileWith (ingestAt syscallName nodeName codec first second third) profileName
      ns profileID w = r) :
    (∃ err w', r = .error err w' ∧ ∃ dispatched, dispatched <+: first ++ second ++ third ∧
        w'.enricher = w.enricher.dispatchAll syscallName codec nodeName dispatched) ∨
      (stateOf r).seccompProfiles ⟨ns, profileName⟩ = some (logSeccompSpec (w.enricher.syscallsRpc profileID)) ∧
      (stateOf r).enricher = (w.enricher.dispatchAll syscallName codec nodeName (first ++ second ++ third)).resetSyscalls
        profileID := by
  rcases bind_cases run with ⟨err, w₁, failed, rfl⟩ | ⟨_, w₁, retrieved, run⟩
  · exact .inl ⟨err, w₁, rfl, [], List.nil_prefix, enricher_of_error (within_wrapM _ within_callWith_id) failed⟩
  obtain ⟨-, rfl⟩ := callWith_ok (wrapM_ok.mp retrieved)
  have early : first <+: first ++ second ++ third := (List.prefix_append _ _).trans (List.prefix_append _ _)
  have run := (bind_of_ok (ingest_run syscallName nodeName codec first _)).symm.trans
    ((bind_of_ok (get_run _)).symm.trans run)
  rcases bind_cases run with ⟨err, w₄, failed, rfl⟩ | ⟨_, w₄, created, run⟩
  · refine .inl ⟨err, w₄, rfl, first, early, enricher_of_error ?_ failed⟩
    exact within_wrapM _ (within_tryCatch
      (within_createOrUpdate fun spec w => changes_setSeccompProfile w spec trivial)
      fun err => within_bind (within_recordEvent _) fun _ => within_throw err)
  obtain ⟨-, spec, mutated, rfl⟩ := createOrUpdate_ok (tryCatch_rethrow_ok (wrapM_ok.mp created))
  cases mutated
  have run := (bind_of_ok (ingest_run syscallName nodeName codec third _)).symm.trans
    ((bind_of_ok (recordEvent_run _ _)).symm.trans
      ((bind_of_ok (ingest_run syscallName nodeName codec second _)).symm.trans run))
  subst run
  rw [wrapM_callWith_run]
  split
  case h_2 => exact .inl ⟨_, _, rfl, _, List.prefix_refl _, by simp [World.setSeccompProfile, dispatchAll_append]⟩
  -- the reset's reply was `ok`, or lost after the reset took effect
  all_goals exact .inr ⟨by simp [World.resetSyscalls, World.setSeccompProfile, stateOf, logSeccompSpec],
    by simp [World.resetSyscalls, World.setSeccompProfile, stateOf, dispatchAll_append]⟩

theorem collectLogSeccompProfileBeside_ok {codec : AvcCodec} {first second third : List (AuditLine × ContainerInfo)}
    {profileName ns profileID : Str}
    (run : collectLogSeccompProfileWith (ingestAt syscallName nodeName codec first second third) profileName
      ns profileID w = .ok () w') :
    w'.seccompProfiles ⟨ns, profileName⟩ = some (logSeccompSpec (w.enricher.syscallsRpc profileID)) ∧
      w'.enricher = (w.enricher.dispatchAll syscallName codec nodeName (first ++ second ++ third)).resetSyscalls
        profileID :=
  (collectLogSeccompProfileBeside_run syscallName nodeName run).resolve_left fun ⟨_, _, failed, _⟩ =>
    nomatch failed

/-- Every run of `collectLogSelinuxProfile` beside the ingest fails short of a reset that
took effect, with the aggregator as the ingest left it, or gets past the reset
with the object written from the snapshot. -/
theorem collectLogSelinuxProfileBeside_run {impl : Collaborators}
    {first second third : List (AuditLine × ContainerInfo)} {profileName ns profileID : Str}
    {r : EStateM.Result String World Unit}
    (run : collectLogSelinuxProfileWith impl (ingestAt syscallName nodeName impl.codec first second third)
      profileName ns profileID w = r) :
    (∃ err w', r = .error err w' ∧ ∃ dispatched, dispatched <+: first ++ second ++ third ∧
        w'.enricher = w.enricher.dispatchAll syscallName impl.codec nodeName dispatched) ∨
      (∃ avcs policy, w.enricher.avcsRpc impl.codec profileID = .ok avcs ∧
        formatSelinuxProfile impl.config (impl.getPolicyUsage ⟨ns, profileName⟩) avcs = .ok policy ∧
        (stateOf r).selinuxProfiles ⟨ns, profileName⟩ = some ⟨policy⟩) ∧
      (stateOf r).enricher = (w.enricher.dispatchAll syscallName impl.codec nodeName (first ++ second ++ third)).resetAvcs
        profileID := by
  rcases bind_cases run with ⟨err, w₁, failed, rfl⟩ | ⟨avcs, w₁, retrieved, run⟩
  · refine .inl ⟨err, w₁, rfl, [], List.nil_prefix, enricher_of_error ?_ failed⟩
    exact within_wrapM _ (within_bind within_callWith_id fun _ => within_bind within_get fun _ =>
      within_liftExcept _)
  obtain ⟨_, w₂, connected, retrieved⟩ := bind_ok (wrapM_ok.mp retrieved)
  obtain ⟨-, rfl⟩ := callWith_ok connected
  obtain ⟨_, w₃, got, retrieved⟩ := bind_ok retrieved
  obtain ⟨rfl, rfl⟩ := EStateM.Result.ok.inj got
  obtain ⟨decoded, rfl⟩ := liftExcept_ok retrieved
  have early : first <+: first ++ second ++ third := (List.prefix_append _ _).trans (List.prefix_append _ _)
  have run := (bind_of_ok (ingest_run syscallName nodeName impl.codec first _)).symm.trans run
  rcases bind_cases run with ⟨err, w₅, failed, rfl⟩ | ⟨policy, w₅, formatting, run⟩
  · refine .inl ⟨err, w₅, rfl, first, early, enricher_of_error ?_ failed⟩
    exact within_tryCatch (within_liftExcept _) fun _ => within_bind (within_recordEvent _) fun _ =>
      within_throw _
  obtain ⟨formatted, rfl⟩ := liftExcept_ok (tryCatch_rethrow_ok formatting)
  rcases bind_cases run with ⟨err, w₆, failed, rfl⟩ | ⟨_, w₆, created, run⟩
  · refine .inl ⟨err, w₆, rfl, first, early, enricher_of_error ?_ failed⟩
    exact within_wrapM _ (within_tryCatch
      (within_createOrUpdate fun spec w => changes_setSelinuxProfile w spec trivial)
      fun err => within_bind (within_recordEvent _) fun _ => within_throw err)
  obtain ⟨-, spec, mutated, rfl⟩ := createOrUpdate_ok (tryCatch_rethrow_ok (wrapM_ok.mp created))
  cases mutated
  have run := (bind_of_ok (ingest_run syscallName nodeName impl.codec third _)).symm.trans
    ((bind_of_ok (recordEvent_run _ _)).symm.trans
      ((bind_of_ok (ingest_run syscallName nodeName impl.codec second _)).symm.trans run))
  subst run
  rw [wrapM_callWith_run]
  split
  case h_2 => exact .inl ⟨_, _, rfl, _, List.prefix_refl _, by simp [World.setSelinuxProfile, dispatchAll_append]⟩
  -- the reset's reply was `ok`, or lost after the reset took effect
  all_goals exact .inr ⟨⟨avcs, policy, decoded, formatted,
    by simp [World.resetAvcs, World.setSelinuxProfile, stateOf]⟩,
    by simp [World.resetAvcs, World.setSelinuxProfile, stateOf, dispatchAll_append]⟩

theorem collectLogSelinuxProfileBeside_ok {impl : Collaborators} {first second third : List (AuditLine × ContainerInfo)}
    {profileName ns profileID : Str}
    (run : collectLogSelinuxProfileWith impl (ingestAt syscallName nodeName impl.codec first second third)
      profileName ns profileID w = .ok () w') :
    ∃ avcs policy, w.enricher.avcsRpc impl.codec profileID = .ok avcs ∧
      formatSelinuxProfile impl.config (impl.getPolicyUsage ⟨ns, profileName⟩) avcs = .ok policy ∧
      w'.selinuxProfiles ⟨ns, profileName⟩ = some ⟨policy⟩ ∧
      w'.enricher = (w.enricher.dispatchAll syscallName impl.codec nodeName (first ++ second ++ third)).resetAvcs
        profileID := by
  obtain ⟨⟨avcs, policy, decoded, formatted, written⟩, aggregated⟩ :=
    (collectLogSelinuxProfileBeside_run syscallName nodeName run).resolve_left fun ⟨_, _, failed, _⟩ =>
      nomatch failed
  exact ⟨avcs, policy, decoded, formatted, written, aggregated⟩

/-- A Logs-mode profile collected beside the ingest loop: when the collection
returns, its object holds what the aggregator held for the profile when the
snapshot call answered, the profile's set of the collected kind is gone, and
every other set holds what it held and all the ingest filed into it. So a value
the ingest filed for the profile between the snapshot and the reset, and the
snapshot lacked, is neither in the object nor in the aggregator. -/
theorem collectLogProfileBeside_ok (impl : Collaborators) {first second third : List (AuditLine × ContainerInfo)}
    {name : NamespacedName} {prf : ProfileToCollect}
    (run : collectLogProfileBeside syscallName nodeName impl first second third name prf w = .ok () w') :
    ∃ profileName, extractProfileName prf.name = .ok profileName ∧
      LogObjectWritten impl name.ns w w' prf profileName ∧
      (∀ p, w'.enricher.syscalls p = if prf.kind = .seccompProfile ∧ p = prf.name then none
        else filedAll (w.enricher.syscalls p)
          ((first ++ second ++ third).filterMap (syscallOf syscallName p))) ∧
      ∀ p, w'.enricher.avcs p = if prf.kind = .selinuxProfile ∧ p = prf.name then none
        else filedAll (w.enricher.avcs p) ((first ++ second ++ third).filterMap (avcOf impl.codec p)) := by
  obtain ⟨profileName, w₁, extracting, run⟩ := bind_ok run
  obtain ⟨extracted, rfl⟩ := liftExcept_ok extracting
  refine ⟨profileName, wrap_eq_ok.mp extracted, ?_⟩
  have syscalls := dispatchAll_files syscallName impl.codec _ _ (dispatchStep_syscalls syscallName impl.codec)
  have avcs := dispatchAll_files syscallName impl.codec _ _ (dispatchStep_avcs syscallName impl.codec)
  obtain ⟨kind, profileID⟩ := prf
  cases kind with
  | seccompProfile =>
    obtain ⟨written, aggregated⟩ := collectLogSeccompProfileBeside_ok syscallName nodeName run
    exact ⟨written, fun p => by simp [aggregated, syscalls], fun p => by simp [aggregated, avcs]⟩
  | selinuxProfile =>
    obtain ⟨decoded, policy, read, formatted, written, aggregated⟩ :=
      collectLogSelinuxProfileBeside_ok syscallName nodeName run
    exact ⟨⟨decoded, policy, read, formatted, written⟩, fun p => by simp [aggregated, syscalls],
      fun p => by simp [aggregated, avcs]⟩
  | other => cases run

/-- A Logs-mode profile collection beside the ingest loop that fails has reset
nothing: the aggregator is as the ingest left it, every set holding what it held
and all that was filed since, and a retry collects it again. The exception is a
reset whose reply was lost after it took effect: then the object had been
written from the snapshot, and the profile's set of the collected kind is gone. -/
theorem collectLogProfileBeside_error (impl : Collaborators) {first second third : List (AuditLine × ContainerInfo)}
    {name : NamespacedName} {prf : ProfileToCollect} {err : String}
    (run : collectLogProfileBeside syscallName nodeName impl first second third name prf w = .error err w') :
    (∃ dispatched, dispatched <+: first ++ second ++ third ∧
      w'.enricher = w.enricher.dispatchAll syscallName impl.codec nodeName dispatched) ∨
    ∃ profileName, extractProfileName prf.name = .ok profileName ∧
      LogObjectWritten impl name.ns w w' prf profileName ∧
      (prf.kind = .seccompProfile → w'.enricher =
        (w.enricher.dispatchAll syscallName impl.codec nodeName (first ++ second ++ third)).resetSyscalls prf.name) ∧
      (prf.kind = .selinuxProfile → w'.enricher =
        (w.enricher.dispatchAll syscallName impl.codec nodeName (first ++ second ++ third)).resetAvcs prf.name) := by
  rcases bind_cases run with ⟨_, _, failed, ended⟩ | ⟨profileName, w₁, extracting, run⟩
  · cases ended
    exact .inl ⟨[], List.nil_prefix, enricher_of_error (within_liftExcept _) failed⟩
  obtain ⟨extracted, rfl⟩ := liftExcept_ok extracting
  obtain ⟨kind, profileID⟩ := prf
  cases kind with
  | seccompProfile =>
    rcases collectLogSeccompProfileBeside_run syscallName nodeName run with ⟨_, _, ended, kept⟩ | ⟨written, reset⟩
    · cases ended; exact .inl kept
    · exact .inr ⟨profileName, wrap_eq_ok.mp extracted, written, fun _ => reset, nofun⟩
  | selinuxProfile =>
    rcases collectLogSelinuxProfileBeside_run syscallName nodeName run with ⟨_, _, ended, kept⟩ | ⟨written, reset⟩
    · cases ended; exact .inl kept
    · exact .inr ⟨profileName, wrap_eq_ok.mp extracted, written, nofun, fun _ => reset⟩
  | other => cases run; exact .inl ⟨[], List.nil_prefix, rfl⟩

end Beside

/-! ## A value lost in the window -/

/-- A syscall table that resolves id 1 to `write`. -/
def sampleSyscallName (id : Int) : Option Str := if id = 1 then some "write".toList else none

/-- A seccomp line of the sample container making syscall 1. -/
def writeLine : AuditLine := ⟨.seccomp, "/bin/app".toList, 1, [], [], [], []⟩

/-- The sample pod's Logs-mode seccomp profile. -/
def windowProfile : ProfileToCollect := ⟨.seccompProfile, "profile-1".toList⟩

/-- The node when the collection starts: the aggregator holds `read` for the profile. -/
def windowWorld : World :=
  { emptyWorld with
    enricher := { Enricher.empty with
      syscalls := fun p => if p = "profile-1".toList then some {"read".toList} else none } }

/-- The node once the collection returned, the ingest having filed `write`
for the profile after the `Syscalls` call answered. -/
def windowedWorld : World :=
  stateOf (collectLogProfileBeside sampleSyscallName [] sampleCollaborators [(writeLine, recordingContainer)] [] []
    sampleKey windowProfile windowWorld)

theorem collectLogProfileBeside_ok_sample :
    collectLogProfileBeside sampleSyscallName [] sampleCollaborators [(writeLine, recordingContainer)] [] []
        sampleKey windowProfile windowWorld = .ok () windowedWorld ∧
      windowedWorld.seccompProfiles ⟨"default".toList, "profile".toList⟩ =
        some (logSeccompSpec ["read".toList]) ∧
      windowedWorld.enricher.syscalls "profile-1".toList = none := by
  have run : collectLogProfileBeside sampleSyscallName [] sampleCollaborators [(writeLine, recordingContainer)]
      [] [] sampleKey windowProfile windowWorld = .ok () windowedWorld := by rfl
  obtain ⟨profileName, extracted, written, syscalls, -⟩ :=
    collectLogProfileBeside_ok sampleSyscallName [] sampleCollaborators run
  obtain rfl : profileName = "profile".toList := (Except.ok.inj extracted).symm
  exact ⟨run, written, by simpa [windowProfile] using syscalls "profile-1".toList⟩

/-- The node as the collection starts, the reply to its `ResetSyscalls` call lost. -/
def lostResetWorld : World :=
  { windowWorld with replies := [.ok, .ok, .lost "context deadline exceeded"] }

/-- The node once that collection failed. -/
def lostResetEnd : World :=
  stateOf (collectLogProfileBeside sampleSyscallName [] sampleCollaborators [(writeLine, recordingContainer)] [] []
    sampleKey windowProfile lostResetWorld)

theorem collectLogProfileBeside_error_sample :
    collectLogProfileBeside sampleSyscallName [] sampleCollaborators [(writeLine, recordingContainer)] [] []
        sampleKey windowProfile lostResetWorld =
      .error "reset syscalls for profile profile-1: context deadline exceeded" lostResetEnd ∧
      lostResetEnd.seccompProfiles ⟨"default".toList, "profile".toList⟩ =
        some (logSeccompSpec ["read".toList]) ∧
      lostResetEnd.enricher.syscalls "profile-1".toList = none := by
  have run : collectLogProfileBeside sampleSyscallName [] sampleCollaborators [(writeLine, recordingContainer)]
      [] [] sampleKey windowProfile lostResetWorld =
      .error "reset syscalls for profile profile-1: context deadline exceeded" lostResetEnd := by rfl
  have gone : lostResetEnd.enricher.syscalls "profile-1".toList = none := by rfl
  rcases collectLogProfileBeside_error sampleSyscallName [] sampleCollaborators run with
    ⟨dispatched, -, kept⟩ | ⟨profileName, extracted, written, -⟩
  · -- every set the ingest left holds the profile's `read`
    rw [kept, dispatchAll_files sampleSyscallName _ _ _ (dispatchStep_syscalls sampleSyscallName _)] at gone
    unfold filedAll at gone
    split at gone <;> simp [lostResetWorld, windowWorld] at gone
  · obtain rfl : profileName = "profile".toList := (Except.ok.inj extracted).symm
    exact ⟨run, written, gone⟩

end SpoRecorder.Guarantees.Interleaving
