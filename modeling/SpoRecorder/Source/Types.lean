import SpoRecorder.Source.GoStrings

/-!
# Recorder data model and the constants it reads

`profileToCollect` and `podToWatch` are the recorder's own types
(profilerecorder.go:91-99). The kinds and recorders are string types of the
`profilerecording/v1alpha1` API, and the annotation keys, the output
directory and the permissive sentinel are constants of the `config` package;
neither package is part of the modelled sources, so the API types keep an
`other` value for strings the recorder never builds, and the constants are the
fields of `Config`.
-/

namespace SpoRecorder.Source

/-- `ProfileRecordingKind`; the recorder builds only the first two. -/
inductive ProfileRecordingKind
  | seccompProfile
  | selinuxProfile
  | other (value : Str)
  deriving DecidableEq, Repr

/-- `ProfileRecorder`; the recorder stores only the first two. -/
inductive ProfileRecorder
  | hook
  | logs
  | other (value : Str)
  deriving DecidableEq, Repr

structure ProfileToCollect where
  kind : ProfileRecordingKind
  name : Str
  deriving DecidableEq, Repr

structure PodToWatch where
  recorder : ProfileRecorder
  profiles : List ProfileToCollect
  deriving DecidableEq, Repr

/-- The `config` constants read by the recorder and the policy builder. -/
structure Config where
  seccompProfileRecordHookAnnotationKey : Str
  seccompProfileRecordLogsAnnotationKey : Str
  selinuxProfileRecordLogsAnnotationKey : Str
  profileRecordingOutputPath : Str
  selinuxPermissiveProfile : Str
  deriving DecidableEq, Repr

/-- `types.NamespacedName`; `ns` is its `Namespace`. -/
structure NamespacedName where
  ns : Str
  name : Str
  deriving DecidableEq, Repr

/-- `NamespacedName.String()`, the key of `podsToWatch`. -/
def NamespacedName.string (n : NamespacedName) : Str := n.ns ++ ['/'] ++ n.name

end SpoRecorder.Source
