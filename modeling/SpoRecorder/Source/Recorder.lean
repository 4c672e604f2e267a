import SpoRecorder.Source.Annotations
import SpoRecorder.Source.Enricher

/-!
# Recorder: `Reconcile`, `collectProfile` and the node they act on

`RecorderReconciler.Reconcile` and the collection functions
(profilerecorder.go:219-580). A `World` holds what these calls read and
change: the recorder's `podsToWatch`, the enricher's sets behind its gRPC
server, the profile objects of the cluster, the SPOD, the hook output files and
the events the recorder emits.

Every fallible call of the cluster API, of the SPOD lookup and of the enricher
takes the next reply of `World.replies`: it succeeds, fails before taking
effect, or takes effect and still reports an error (a lost reply). Once the
script is used up every call succeeds. A run chooses the script, so it chooses
where each attempt fails.

Left out: the logger, the timeouts and the `podToWatch` type assertion, which
holds for every value the recorder stores.
-/

namespace SpoRecorder.Source

/-- The state a run of an `EStateM` ends in, whether it returned or failed. -/
def stateOf {ε σ α : Type} : EStateM.Result ε σ α → σ
  | .ok _ s => s
  | .error _ s => s

inductive PodPhase
  | pending
  | running
  | succeeded
  | failed
  | unknown
  deriving DecidableEq, Repr

/-- `corev1.Pod`, the fields `Reconcile` reads. -/
structure Pod where
  phase : PodPhase
  annotations : Annotations
  deriving DecidableEq, Repr

/-- What `r.client.Get` returns for the requested pod. -/
inductive PodLookup
  | found (pod : Pod)
  | notFound
  | failed (err : String)
  deriving DecidableEq, Repr

/-- The answer to one fallible call. -/
inductive Reply
  | ok
  | failed (err : String)
  | lost (err : String)
  deriving DecidableEq, Repr

structure SeccompSyscall where
  action : Str
  names : List Str
  deriving DecidableEq, Repr

/-- `SeccompProfileSpec`. -/
structure SeccompProfileSpec where
  defaultAction : Str
  syscalls : List SeccompSyscall
  deriving DecidableEq, Repr

/-- `SelinuxProfileSpec`. -/
structure SelinuxProfileSpec where
  policy : Str
  deriving DecidableEq, Repr

/-- The SPOD spec field the recorder reads. -/
structure Spod where
  enableLogEnricher : Bool
  deriving DecidableEq, Repr

inductive EventType
  | normal
  | warning
  deriving DecidableEq, Repr

/-- The object an event is recorded against. -/
inductive EventObject
  | pod (name : NamespacedName)
  | seccompProfile (name : NamespacedName)
  | selinuxProfile (name : NamespacedName)
  deriving DecidableEq, Repr

structure Event where
  object : EventObject
  type : EventType
  reason : String
  message : String
  deriving DecidableEq, Repr

def reasonProfileRecording : String := "SeccompProfileRecording"
def reasonProfileCreated : String := "SeccompProfileCreated"
def reasonProfileCreationFailed : String := "CannotCreateSeccompProfile"
def reasonAnnotationParsing : String := "SeccompAnnotationParsing"

/-- `seccomp.ActErrno` and `seccomp.ActAllow`. -/
def actErrno : Str := "SCMP_ACT_ERRNO".toList
def actAllow : Str := "SCMP_ACT_ALLOW".toList

structure World where
  podsToWatch : Str → Option PodToWatch
  enricher : Enricher
  seccompProfiles : NamespacedName → Option SeccompProfileSpec
  selinuxProfiles : NamespacedName → Option SelinuxProfileSpec
  spod : Option Spod
  files : Str → Option Str
  events : List Event
  replies : List Reply

/-- The recorder's collaborators outside the modelled sources: the `config`
constants, `protojson` for AVCs, `json.Unmarshal` of a hook file into a spec
(decoding into the spec already there), and `SelinuxProfile.GetPolicyUsage`. -/
structure Collaborators where
  config : Config
  codec : AvcCodec
  unmarshalSeccompProfileSpec : Str → SeccompProfileSpec → Except String SeccompProfileSpec
  getPolicyUsage : NamespacedName → Str

abbrev RecorderM := EStateM String World

/-! ## Calls -/

/-- The reply to the next fallible call. -/
def nextReply : RecorderM Reply := fun w =>
  match w.replies with
  | [] => .ok .ok w
  | reply :: rest => .ok reply { w with replies := rest }

/-- A fallible call whose effect on success is `effect`. -/
def callWith (effect : World → World) : RecorderM Unit := do
  match ← nextReply with
  | .ok => modify effect
  | .failed err => throw err
  | .lost err => modify effect; throw err

def recordEvent (ev : Event) : RecorderM Unit :=
  modify fun w => { w with events := w.events ++ [ev] }

def liftExcept {α : Type} : Except String α → RecorderM α
  | .ok a => pure a
  | .error e => throw e

/-- `errors.Wrap` on a call's error; what the call did stays done. -/
def wrapM {α : Type} (msg : String) (x : RecorderM α) : RecorderM α := fun w =>
  match x w with
  | .ok a w' => .ok a w'
  | .error e w' => .error (msg ++ ": " ++ e) w'

/-- `controllerutil.CreateOrUpdate` on one store of profile objects: one call
reads the object, `mutate` turns the stored spec (or `initial`) into the new
one, and the write lands unless the reply failed before it. -/
def createOrUpdate {S : Type} (read : World → Option S) (write : S → World → World) (initial : S)
    (mutate : S → Except String S) : RecorderM Unit := do
  let reply ← nextReply
  match reply with
  | .failed err => throw err
  | _ =>
    let spec ← liftExcept (mutate ((read (← get)).getD initial))
    modify (write spec)
    match reply with
    | .lost err => throw err
    | _ => pure ()

def World.setSeccompProfile (key : NamespacedName) (spec : SeccompProfileSpec) (w : World) : World :=
  { w with seccompProfiles := Function.update w.seccompProfiles key (some spec) }

def World.setSelinuxProfile (key : NamespacedName) (spec : SelinuxProfileSpec) (w : World) : World :=
  { w with selinuxProfiles := Function.update w.selinuxProfiles key (some spec) }

def World.resetSyscalls (profileID : Str) (w : World) : World :=
  { w with enricher := w.enricher.resetSyscalls profileID }

def World.resetAvcs (profileID : Str) (w : World) : World :=
  { w with enricher := w.enricher.resetAvcs profileID }

/-- The object a successful `Get` finds, or its NotFound error. -/
def found {α : Type} : Option α → Except String α
  | some a => .ok a
  | none => .error "not found"

/-- `getSPOD`. -/
def getSPOD : RecorderM Spod := do
  callWith id
  liftExcept (found (← get).spod)

/-- `ioutil.ReadFile` of a hook output file. -/
def readFile (files : Str → Option Str) (path : Str) : Except String Str :=
  match files path with
  | some data => .ok data
  | none => .error ("open " ++ String.mk path ++ ": no such file or directory")

/-! ## Collection -/

def extractProfileName (s : Str) : Except String Str :=
  match lastIndex s '-' with
  | none => .error ("malformed profile path: " ++ String.mk s)
  | some i => .ok (s.take i)

section Collect

variable (impl : Collaborators)

/-- The loop body of `collectLocalProfiles`, for one hook output file. -/
def collectLocalProfile (name : NamespacedName) (prf : ProfileToCollect) : RecorderM Unit := do
  let profilePath := prf.name
  if prf.kind ≠ .seccompProfile then throw "only seccomp profiles supported via a hook"
  let data ← liftExcept (wrap "read profile" (readFile (← get).files profilePath))
  -- Remove the file extension and timestamp
  let profileName ← liftExcept (wrap "extract profile name" (extractProfileName (base profilePath)))
  let profile : NamespacedName := ⟨name.ns, profileName⟩
  wrapM "create seccompProfile resource" (tryCatch
    (createOrUpdate (·.seccompProfiles profile) (World.setSeccompProfile profile) ⟨[], []⟩
      fun spec => wrap "unmarshal profile spec JSON" (impl.unmarshalSeccompProfileSpec data spec))
    fun err => do
      recordEvent ⟨.seccompProfile profile, .warning, reasonProfileCreationFailed, err⟩
      throw err)
  recordEvent ⟨.seccompProfile profile, .normal, reasonProfileCreated, "seccomp profile created"⟩

def collectLocalProfiles (name : NamespacedName) (profiles : List ProfileToCollect) :
    RecorderM Unit :=
  profiles.forM (collectLocalProfile impl name)

/-- The points of a Logs-mode collection at which the recorder waits between
two calls: the snapshot call has answered, the object is written, its created
event is recorded. Another thread of the node may act there. -/
inductive Pause
  | snapshot
  | written
  | announced
  deriving DecidableEq, Repr

/-- `collectLogSeccompProfile`, with `pause p k` running `k` once the
collection reaches the point `p`. -/
def collectLogSeccompProfileWith (pause : Pause → RecorderM Unit → RecorderM Unit)
    (profileName ns profileID : Str) : RecorderM Unit := do
  -- Retrieve the syscalls for the recording
  wrapM ("retrieve syscalls for profile " ++ String.mk profileID) (callWith id)
  let names := (← get).enricher.syscallsRpc profileID
  pause .snapshot do
    let profileSpec : SeccompProfileSpec := ⟨actErrno, [⟨actAllow, names⟩]⟩
    let profile : NamespacedName := ⟨ns, profileName⟩
    wrapM "create seccompProfile resource" (tryCatch
      (createOrUpdate (·.seccompProfiles profile) (World.setSeccompProfile profile) profileSpec
        fun _ => .ok profileSpec)
      fun err => do
        recordEvent ⟨.seccompProfile profile, .warning, reasonProfileCreationFailed, err⟩
        throw err)
    pause .written do
      recordEvent ⟨.seccompProfile profile, .normal, reasonProfileCreated, "seccomp profile created"⟩
      pause .announced do
        -- Reset the syscalls for further recordings
        wrapM ("reset syscalls for profile " ++ String.mk profileID)
          (callWith (World.resetSyscalls profileID))

/-- `collectLogSeccompProfile`: nothing runs at the pause points. -/
def collectLogSeccompProfile (profileName ns profileID : Str) : RecorderM Unit :=
  collectLogSeccompProfileWith (fun _ k => k) profileName ns profileID

/-- `collectLogSelinuxProfile`, with `pause p k` running `k` once the
collection reaches the point `p`. -/
def collectLogSelinuxProfileWith (pause : Pause → RecorderM Unit → RecorderM Unit)
    (profileName ns profileID : Str) : RecorderM Unit := do
  let avcs ← wrapM ("retrieve avcs for profile " ++ String.mk profileID) (do
    callWith id
    liftExcept ((← get).enricher.avcsRpc impl.codec profileID))
  pause .snapshot do
    let profile : NamespacedName := ⟨ns, profileName⟩
    let policy ← tryCatch (liftExcept (formatSelinuxProfile impl.config (impl.getPolicyUsage profile) avcs))
      fun err => do
        recordEvent ⟨.selinuxProfile profile, .warning, reasonProfileCreationFailed, err⟩
        throw ("format selinuxprofile resource: " ++ err)
    wrapM "create selinuxprofile resource" (tryCatch
      (createOrUpdate (·.selinuxProfiles profile) (World.setSelinuxProfile profile) ⟨policy⟩
        fun _ => .ok ⟨policy⟩)
      fun err => do
        recordEvent ⟨.selinuxProfile profile, .warning, reasonProfileCreationFailed, err⟩
        throw err)
    pause .written do
      recordEvent ⟨.selinuxProfile profile, .normal, reasonProfileCreated, "selinuxprofile profile created"⟩
      pause .announced do
        -- Reset the selinuxprofile for further recordings
        wrapM ("reset selinuxprofile for profile " ++ String.mk profileName)
          (callWith (World.resetAvcs profileID))

/-- `collectLogSelinuxProfile`: nothing runs at the pause points. -/
def collectLogSelinuxProfile (profileName ns profileID : Str) : RecorderM Unit :=
  collectLogSelinuxProfileWith impl (fun _ k => k) profileName ns profileID

/-- The loop body of `collectLogProfiles`, for one profile id, with `pause`
at the pause points of the collection it calls. -/
def collectLogProfileWith (pause : Pause → RecorderM Unit → RecorderM Unit) (name : NamespacedName)
    (prf : ProfileToCollect) : RecorderM Unit := do
  -- Remove the timestamp
  let profileName ← liftExcept (wrap "extract profile name" (extractProfileName prf.name))
  match prf.kind with
  | .seccompProfile => collectLogSeccompProfileWith pause profileName name.ns prf.name
  | .selinuxProfile => collectLogSelinuxProfileWith impl pause profileName name.ns prf.name
  | .other kind => throw ("unrecognized kind " ++ String.mk kind)

/-- The loop body of `collectLogProfiles`, for one profile id. -/
def collectLogProfile (name : NamespacedName) (prf : ProfileToCollect) : RecorderM Unit :=
  collectLogProfileWith impl (fun _ k => k) name prf

def collectLogProfiles (name : NamespacedName) (profiles : List ProfileToCollect) :
    RecorderM Unit := do
  let spod ← wrapM "getting SPOD config" getSPOD
  if !spod.enableLogEnricher then throw "log enricher not enabled"
  wrapM "connecting to local GRPC server" (callWith id)
  profiles.forM (collectLogProfile impl name)

def collectProfile (name : NamespacedName) : RecorderM Unit := do
  let n := name.string
  match (← get).podsToWatch n with
  | none => pure ()
  | some podToWatch =>
    if podToWatch.recorder = .hook then
      wrapM "collect local profile" (collectLocalProfiles impl name podToWatch.profiles)
    if podToWatch.recorder = .logs then
      wrapM "collect log profile" (collectLogProfiles impl name podToWatch.profiles)
    modify fun w => { w with podsToWatch := Function.update w.podsToWatch n none }

end Collect

/-! ## Reconcile -/

/-- The mode and profiles `Reconcile` stores: hook profiles if there are any,
else log profiles if there are any, else nothing. -/
def selectRecorder (hookProfiles logProfiles : List ProfileToCollect) : Option PodToWatch :=
  if hookProfiles ≠ [] then some ⟨.hook, hookProfiles⟩
  else if logProfiles ≠ [] then some ⟨.logs, logProfiles⟩
  else none

section Reconcile

variable (impl : Collaborators)

/-- The `corev1.PodPending` branch of `Reconcile`. -/
def trackPod (req : NamespacedName) (pod : Pod) : RecorderM Unit := do
  -- We're tracking this pod already
  if ((← get).podsToWatch req.string).isSome then return
  match parseHookAnnotations impl.config pod.annotations with
  | .error err =>
    recordEvent ⟨.pod req, .warning, reasonAnnotationParsing, err.message⟩
  | .ok hookProfiles =>
    match parseLogAnnotations impl.config pod.annotations with
    | .error err =>
      recordEvent ⟨.pod req, .warning, reasonAnnotationParsing, err.message⟩
    | .ok logProfiles =>
      match selectRecorder hookProfiles logProfiles with
      | none => pure ()
      | some podToWatch =>
        modify fun w => { w with podsToWatch := Function.update w.podsToWatch req.string (some podToWatch) }
        recordEvent ⟨.pod req, .normal, reasonProfileRecording, "Recording profiles"⟩

def errGetPod : String := "cannot get pod"

/-- `Reconcile`. Its two phase tests exclude each other, and after a NotFound
the zero pod it goes on with has neither phase. -/
def reconcile (req : NamespacedName) (lookup : PodLookup) : RecorderM Unit :=
  match lookup with
  | .failed err => throw (errGetPod ++ ": " ++ err)
  | .notFound => wrapM "collect profile for removed pod" (collectProfile impl req)
  | .found pod =>
    match pod.phase with
    | .pending => trackPod impl req pod
    | .succeeded => wrapM "collect profile for succeeded pod" (collectProfile impl req)
    | _ => pure ()

end Reconcile

end SpoRecorder.Source
