import SpoRecorder.Source.Annotations

/-!
# `Setup` and the pod event filter

`Setup` (profilerecorder.go:117-163) reads the node the recorder runs on, keeps
its first internal IP and registers the controller behind two predicates on
pod events (profilerecorder.go:185-217): `isPodWithTraceAnnotation`, some
annotation key under one of the three recording prefixes, and
`isPodOnLocalNode`, a host IP among the kept addresses.

A Go `error` is an `Option String`, `none` standing for `nil`, and
`errors.Wrap` of `nil` is `nil`. The client, the node lookup and the
controller registration enter as their results; the logger and the event
recorder are left out.
-/

namespace SpoRecorder.Source

/-- `corev1.NodeAddressType`; `Setup` tells only `NodeInternalIP` apart. -/
inductive NodeAddressType
  | internalIP
  | other (value : Str)
  deriving DecidableEq, Repr

/-- `corev1.NodeAddress`. -/
structure NodeAddress where
  type : NodeAddressType
  address : Str
  deriving DecidableEq, Repr

/-- A Go `error`; `none` is `nil`. -/
abbrev GoError := Option String

/-- `errors.Wrap(err, msg)`, which is `nil` when `err` is. -/
def wrapError (err : GoError) (msg : String) : GoError := err.map fun e => msg ++ ": " ++ e

def errGetClient : String := "cannot get client connection"
def errGetNode : String := "cannot get node object"

/-- The loop over `node.Status.Addresses`: the first internal IP, then `break`. -/
def internalAddresses : List NodeAddress → List Str
  | [] => []
  | addr :: rest => if addr.type = .internalIP then [addr.address] else internalAddresses rest

/-- What `Setup` returns, and the node addresses of the controller it
registered, `none` when it registered none. -/
structure SetupResult where
  err : GoError
  registered : Option (List Str)
  deriving DecidableEq, Repr

/-- `Setup`: `newClient` is the error of `client.New`, `getNode` what `c.Get`
reads for the node, `complete` the error of registering the controller. -/
def setup (newClient : GoError) (getNode : Except String (List NodeAddress)) (complete : GoError) :
    SetupResult :=
  if newClient.isSome then ⟨wrapError newClient errGetClient, none⟩
  else
    match getNode with
    -- `err` here is still the `nil` of `client.New`
    | .error _ => ⟨wrapError newClient errGetNode, none⟩
    | .ok addresses =>
      let nodeAddresses := internalAddresses addresses
      if nodeAddresses = [] then ⟨some "Unable to get node's internal Address", none⟩
      else ⟨complete, if complete.isNone then some nodeAddresses else none⟩

/-- `Setup` returns `nil` and registers no controller when the client is made
and the node cannot be read: `err` is still the `nil` of `client.New`, and
`errors.Wrap(nil, errGetNode)` is `nil`. -/
theorem setup_getNode_error (e : String) (complete : GoError) :
    setup none (.error e) complete = ⟨none, none⟩ :=
  rfl

/-- `isPodWithTraceAnnotation`. -/
def isPodWithTraceAnnotation (cfg : Config) (annotations : Annotations) : Bool :=
  annotations.any fun (key, _) =>
    hasPrefix key cfg.seccompProfileRecordHookAnnotationKey ||
      hasPrefix key cfg.selinuxProfileRecordLogsAnnotationKey ||
      hasPrefix key cfg.seccompProfileRecordLogsAnnotationKey

end SpoRecorder.Source
