import SpoRecorder.Source.Annotations

/-!
# Hook output paths and the recording output directory

`parseHookAnnotations` keeps a hook output file when its path starts with
`ProfileRecordingOutputPath` as a string, and `collectLocalProfiles` later
reads that path. A string prefix is not directory containment: `..` elements
and sibling directories sharing the prefix pass the test, and the lexically
resolved path (`filepath.Clean`) lies outside the directory.
-/

namespace SpoRecorder.Guarantees.HookPaths
open SpoRecorder.Source

/-- One step of `filepath.Clean` over the elements of a path, kept reversed:
empty and `.` elements vanish, `..` removes the element before it (at the root
it vanishes, elsewhere it stays when nothing is left to remove). -/
def cleanStep (rooted : Bool) (acc : List Str) (elem : Str) : List Str :=
  if elem = [] ∨ elem = ['.'] then acc
  else if elem = ['.', '.'] then
    match acc with
    | last :: rest => if last = ['.', '.'] then elem :: acc else rest
    | [] => if rooted then [] else [elem]
  else elem :: acc

/-- `filepath.Clean` on Unix: the shortest lexically equivalent path. -/
def clean (path : Str) : Str :=
  let rooted := hasPrefix path ['/']
  let body := join ((split path '/').foldl (cleanStep rooted) []).reverse ['/']
  let out := if rooted then '/' :: body else body
  if out = [] then ['.'] else out

/-- A path inside a directory, lexically: the directory itself or below it. -/
def InsideDir (dir path : Str) : Prop := path = dir ∨ hasPrefix path (dir ++ ['/'])

instance (dir path : Str) : Decidable (InsideDir dir path) :=
  inferInstanceAs (Decidable (_ ∨ _))

/-- Annotation keys, output directory and sentinel of the shape the operator uses. -/
def sampleConfig : Config where
  seccompProfileRecordHookAnnotationKey := "io.containers.trace-syscall/".toList
  seccompProfileRecordLogsAnnotationKey := "io.containers.trace-logs/".toList
  selinuxProfileRecordLogsAnnotationKey := "io.containers.trace-avcs/".toList
  profileRecordingOutputPath := "/tmp/security-profiles-operator-recordings".toList
  selinuxPermissiveProfile := "selinuxrecording.process".toList

/-- A hook output file that climbs out of the output directory. -/
def escapePath : Str := "/tmp/security-profiles-operator-recordings/../../etc/passwd".toList

/-- A hook output file in a sibling directory that shares the output directory's prefix. -/
def siblingPath : Str := "/tmp/security-profiles-operator-recordings-other/profile-1.json".toList

/-- Two hook annotations a pod creator can write. Both paths are kept, and
neither lies inside the output directory once resolved. -/
theorem parseHookAnnotations_outside_dir :
    parseHookAnnotations sampleConfig
        [("io.containers.trace-syscall/escape".toList, hookFilePrefix ++ escapePath),
         ("io.containers.trace-syscall/sibling".toList, hookFilePrefix ++ siblingPath)] =
      .ok [⟨.seccompProfile, escapePath⟩, ⟨.seccompProfile, siblingPath⟩] ∧
    clean escapePath = "/etc/passwd".toList ∧
    ¬ InsideDir sampleConfig.profileRecordingOutputPath (clean escapePath) ∧
    ¬ InsideDir sampleConfig.profileRecordingOutputPath (clean siblingPath) :=
  ⟨rfl, by decide, by decide, by decide⟩

end SpoRecorder.Guarantees.HookPaths
