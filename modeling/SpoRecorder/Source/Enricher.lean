import SpoRecorder.Source.SelinuxPolicy

/-!
# Enricher: audit line dispatch and the aggregator

`dispatchAuditLine`, `dispatchSelinuxLine` and `dispatchSeccompLine`
(enricher.go:239-343) file an attributed audit line into the per-profile sets
`syscalls` and `avcs` and send one metric per seccomp line. The tailer, the
line parser and the attribution caches only decide which (line, container)
pairs reach the dispatch; a run is any sequence of them.

The gRPC handlers that read and reset the sets are not among the modelled
sources and are modelled from the spec. `syscallName` (the per-architecture
table) and `protojson` are collaborators, given as parameters.
-/

namespace SpoRecorder.Source

/-- `auditType`. -/
inductive AuditType
  | seccomp
  | selinux
  | other (value : Str)
  deriving DecidableEq, Repr

/-- `auditLine`, the fields the dispatch reads besides the ones it only logs. -/
structure AuditLine where
  type_ : AuditType
  executable : Str
  systemCallID : Int
  perm : Str
  scontext : Str
  tcontext : Str
  tclass : Str
  deriving DecidableEq, Repr

/-- `containerInfo`. -/
structure ContainerInfo where
  podName : Str
  containerName : Str
  ns : Str
  recordProfile : Str
  deriving DecidableEq, Repr

/-- `AuditRequest` of the metrics API; the dispatch only sends `SECCOMP` ones. -/
structure AuditRequest where
  node : Str
  ns : Str
  pod : Str
  container : Str
  executable : Str
  syscall : Str
  deriving DecidableEq, Repr

/-- `protojson` on `AvcResponse_SelinuxAvc`: `Marshal` may fail, and what it
produces `Unmarshal` reads back; the empty input is no JSON object. -/
structure AvcCodec where
  marshal : SelinuxAvc → Except String Str
  unmarshal : Str → Option SelinuxAvc
  unmarshal_marshal : ∀ avc json, marshal avc = .ok json → unmarshal json = some avc
  unmarshal_empty : unmarshal [] = none

/-- The enricher's `syscalls` and `avcs` maps, and the metrics it sent. -/
@[ext]
structure Enricher where
  syscalls : Str → Option (Finset Str)
  avcs : Str → Option (Finset Str)
  metrics : List AuditRequest

/-- `LoadOrStore(profile, sets.NewString())` followed by `Insert`, taken as one
atomic step. In the code the `Insert` on the stored set is not synchronized
with the gRPC handlers' reads of the same map (enricher.go:289-290, 340-341). -/
def loadOrStoreInsert (m : Str → Option (Finset Str)) (profile value : Str) :
    Str → Option (Finset Str) :=
  Function.update m profile (some (insert value ((m profile).getD ∅)))

theorem loadOrStoreInsert_apply (m : Str → Option (Finset Str)) (profile value p : Str) :
    loadOrStoreInsert m profile value p =
      if profile = p then some (insert value ((m p).getD ∅)) else m p := by
  by_cases same : profile = p
  · subst same; simp [loadOrStoreInsert]
  · simp [loadOrStoreInsert, same, Function.update_noteq (Ne.symm same)]

section Dispatch

variable (syscallName : Int → Option Str) (codec : AvcCodec)

def Enricher.dispatchSelinuxLine (e : Enricher) (line : AuditLine) (info : ContainerInfo) :
    Enricher :=
  if info.recordProfile ≠ [] then
    let avc : SelinuxAvc := ⟨line.perm, line.scontext, line.tcontext, line.tclass⟩
    -- a failed `protojson.Marshal` is only logged; `jsonBytes` is then nil
    let jsonBytes := match codec.marshal avc with
      | .ok json => json
      | .error _ => []
    { e with avcs := loadOrStoreInsert e.avcs info.recordProfile jsonBytes }
  else e

def Enricher.dispatchSeccompLine (e : Enricher) (nodeName : Str) (line : AuditLine)
    (info : ContainerInfo) : Enricher :=
  match syscallName line.systemCallID with
  | none => e
  | some name =>
    -- a failed `SendMetric` is only logged
    let e := { e with metrics := e.metrics ++
      [⟨nodeName, info.ns, info.podName, info.containerName, line.executable, name⟩] }
    if info.recordProfile ≠ [] then { e with syscalls := loadOrStoreInsert e.syscalls info.recordProfile name }
    else e

def Enricher.dispatchAuditLine (e : Enricher) (nodeName : Str) (line : AuditLine)
    (info : ContainerInfo) : Except String Enricher :=
  match line.type_ with
  | .selinux => .ok (e.dispatchSelinuxLine codec line info)
  | .seccomp => .ok (e.dispatchSeccompLine syscallName nodeName line info)
  | .other t => .error ("unknown audit line type " ++ String.mk t)

/-- The loop of `Run` past attribution: a dispatch error is logged and skipped. -/
def Enricher.dispatchAll (e : Enricher) (nodeName : Str) :
    List (AuditLine × ContainerInfo) → Enricher
  | [] => e
  | (line, info) :: rest =>
    match e.dispatchAuditLine syscallName codec nodeName line info with
    | .ok e' => e'.dispatchAll nodeName rest
    | .error _ => e.dispatchAll nodeName rest

end Dispatch

/-- The enricher as `New` creates it. -/
def Enricher.empty : Enricher := ⟨fun _ => none, fun _ => none, []⟩

/-! ## The gRPC handlers -/

/-- Modelled from the spec: `Syscalls` returns the profile's set sorted, and an
empty list for a profile without one. -/
def Enricher.syscallsRpc (e : Enricher) (profile : Str) : List Str :=
  setList ((e.syscalls profile).getD ∅)

/-- Modelled from the spec: `ResetSyscalls` removes the profile's set and no other. -/
def Enricher.resetSyscalls (e : Enricher) (profile : Str) : Enricher :=
  { e with syscalls := Function.update e.syscalls profile none }

@[simp] theorem Enricher.resetSyscalls_syscalls (e : Enricher) (profile p : Str) :
    (e.resetSyscalls profile).syscalls p = if p = profile then none else e.syscalls p := by
  by_cases same : p = profile
  · subst same; simp [Enricher.resetSyscalls]
  · simp [Enricher.resetSyscalls, same]

@[simp] theorem Enricher.resetSyscalls_avcs (e : Enricher) (profile : Str) :
    (e.resetSyscalls profile).avcs = e.avcs := rfl

/-- Modelled from the spec: `Avcs` returns the profile's AVCs as records, decoded
from their serialization; an element that does not decode fails the call. -/
def Enricher.avcsRpc (codec : AvcCodec) (e : Enricher) (profile : Str) :
    Except String (List SelinuxAvc) :=
  (setList ((e.avcs profile).getD ∅)).mapM fun json =>
    match codec.unmarshal json with
    | some avc => .ok avc
    | none => .error "unmarshal AVC"

/-- Modelled from the spec: `ResetAvcs` removes the profile's set and no other. -/
def Enricher.resetAvcs (e : Enricher) (profile : Str) : Enricher :=
  { e with avcs := Function.update e.avcs profile none }

@[simp] theorem Enricher.resetAvcs_avcs (e : Enricher) (profile p : Str) :
    (e.resetAvcs profile).avcs p = if p = profile then none else e.avcs p := by
  by_cases same : p = profile
  · subst same; simp [Enricher.resetAvcs]
  · simp [Enricher.resetAvcs, same]

@[simp] theorem Enricher.resetAvcs_syscalls (e : Enricher) (profile : Str) :
    (e.resetAvcs profile).syscalls = e.syscalls := rfl

end SpoRecorder.Source
