import SpoRecorder.Guarantees.Tracking

/-!
# What the enricher's aggregator records

Over any run of dispatched audit lines, starting from any state
(`dispatchAll_records`): the syscall set of a profile gains exactly the names
of the seccomp lines attributed to it whose id resolves, its AVC set gains
exactly the serializations of the SELinux lines attributed to it, the empty
profile id and other line types add nothing, and one metric is sent per
seccomp line with a resolvable id, in order.

A serialization is what `protojson.Marshal` returned, and when it fails the
dispatch still files the empty string (`dispatchSelinuxLine`). That string is
no serialized AVC: from then on the profile's `Avcs` call fails, until the set
is reset (`dispatchAll_unmarshallable_avc`). When every filed line serializes,
the call returns exactly the dispatched records (`dispatchAll_avcsRpc`).
-/

namespace SpoRecorder.Guarantees.Aggregator
open SpoRecorder.Source SpoRecorder.Guarantees.Tracking

section Run

variable (syscallName : Int → Option Str) (codec : AvcCodec)

/-- The AVC record of an SELinux audit line. -/
def avcOfLine (line : AuditLine) : SelinuxAvc := ⟨line.perm, line.scontext, line.tcontext, line.tclass⟩

/-- What `dispatchSelinuxLine` files for a line: the serialization, or the
empty string when `protojson.Marshal` fails. -/
def serialization (line : AuditLine) : Str :=
  match codec.marshal (avcOfLine line) with
  | .ok json => json
  | .error _ => []

/-- The syscall name an attributed line adds to profile `p`'s set. -/
def syscallOf (p : Str) (entry : AuditLine × ContainerInfo) : Option Str :=
  if entry.1.type_ = .seccomp ∧ entry.2.recordProfile = p ∧ p ≠ [] then
    syscallName entry.1.systemCallID
  else none

/-- An SELinux line attributed to the non-empty profile `p`. -/
def AvcFiledUnder (p : Str) (entry : AuditLine × ContainerInfo) : Prop :=
  entry.1.type_ = .selinux ∧ entry.2.recordProfile = p ∧ p ≠ []

instance (p : Str) (entry : AuditLine × ContainerInfo) : Decidable (AvcFiledUnder p entry) :=
  inferInstanceAs (Decidable (_ ∧ _ ∧ _))

/-- The serialization an attributed line adds to profile `p`'s AVC set. -/
def avcOf (p : Str) (entry : AuditLine × ContainerInfo) : Option Str :=
  if AvcFiledUnder p entry then some (serialization codec entry.1) else none

/-- The metric an attributed line sends. -/
def metricOf (nodeName : Str) (entry : AuditLine × ContainerInfo) : Option AuditRequest :=
  if entry.1.type_ = .seccomp then
    (syscallName entry.1.systemCallID).map fun name =>
      ⟨nodeName, entry.2.ns, entry.2.podName, entry.2.containerName, entry.1.executable, name⟩
  else none

theorem dispatchSelinuxLine_eq (e : Enricher) (line : AuditLine) (info : ContainerInfo) :
    e.dispatchSelinuxLine codec line info =
      if info.recordProfile ≠ [] then
        { e with avcs := loadOrStoreInsert e.avcs info.recordProfile (serialization codec line) }
      else e :=
  rfl

/-- One iteration of the dispatch loop. -/
def dispatchStep (nodeName : Str) (e : Enricher) (entry : AuditLine × ContainerInfo) :
    Enricher :=
  match e.dispatchAuditLine syscallName codec nodeName entry.1 entry.2 with
  | .ok e' => e'
  | .error _ => e

theorem dispatchAll_cons (e : Enricher) (nodeName : Str) (entry : AuditLine × ContainerInfo)
    (rest : List (AuditLine × ContainerInfo)) :
    e.dispatchAll syscallName codec nodeName (entry :: rest) =
      (dispatchStep syscallName codec nodeName e entry).dispatchAll syscallName codec
        nodeName rest := by
  obtain ⟨line, info⟩ := entry
  simp only [Enricher.dispatchAll, dispatchStep]
  cases e.dispatchAuditLine syscallName codec nodeName line info <;> rfl

/-- Adding what one line files to a set held under a profile. -/
def fileUnder (old : Option (Finset Str)) : Option Str → Option (Finset Str)
  | none => old
  | some value => some (insert value (old.getD ∅))

/-- A set held under a profile once `values` were filed into it. -/
def filedAll (old : Option (Finset Str)) (values : List Str) : Option (Finset Str) :=
  if values = [] then old else some (old.getD ∅ ∪ values.toFinset)

theorem filedAll_fileUnder (old : Option (Finset Str)) (value : Option Str) (values : List Str) :
    filedAll (fileUnder old value) values = filedAll old (value.toList ++ values) := by
  cases value with
  | none => rfl
  | some value =>
    by_cases empty : values = []
    · simp [filedAll, fileUnder, empty, Finset.insert_eq, Finset.union_comm]
    · simp [filedAll, fileUnder, empty, Finset.insert_union, Finset.union_insert]

@[simp] theorem mem_filedAll {old : Option (Finset Str)} {values : List Str} {value : Str} :
    value ∈ (filedAll old values).getD ∅ ↔ value ∈ old.getD ∅ ∨ value ∈ values := by
  by_cases empty : values = [] <;> simp [filedAll, empty]

theorem dispatchStep_syscalls (nodeName : Str) (e : Enricher) (entry : AuditLine × ContainerInfo)
    (p : Str) : (dispatchStep syscallName codec nodeName e entry).syscalls p =
      fileUnder (e.syscalls p) (syscallOf syscallName p entry) := by
  obtain ⟨line, info⟩ := entry
  simp only [dispatchStep, Enricher.dispatchAuditLine, syscallOf]
  cases kind : line.type_ with
  | selinux =>
    by_cases recorded : info.recordProfile = [] <;> simp [dispatchSelinuxLine_eq, recorded, fileUnder]
  | seccomp =>
    simp only [Enricher.dispatchSeccompLine]
    cases syscallName line.systemCallID with
    | none => simp [fileUnder]
    | some name =>
      by_cases recorded : info.recordProfile = [] <;>
        by_cases same : info.recordProfile = p <;> simp_all [loadOrStoreInsert_apply, fileUnder]
  | other t => simp [fileUnder]

theorem dispatchStep_avcs (nodeName : Str) (e : Enricher) (entry : AuditLine × ContainerInfo)
    (p : Str) : (dispatchStep syscallName codec nodeName e entry).avcs p =
      fileUnder (e.avcs p) (avcOf codec p entry) := by
  obtain ⟨line, info⟩ := entry
  simp only [dispatchStep, Enricher.dispatchAuditLine, avcOf, AvcFiledUnder]
  cases kind : line.type_ with
  | selinux =>
    rw [dispatchSelinuxLine_eq]
    by_cases recorded : info.recordProfile = [] <;>
      by_cases same : info.recordProfile = p <;> simp_all [loadOrStoreInsert_apply, fileUnder]
  | seccomp =>
    simp only [Enricher.dispatchSeccompLine]
    cases syscallName line.systemCallID with
    | none => simp [fileUnder]
    | some name =>
      by_cases recorded : info.recordProfile = [] <;> simp [recorded, fileUnder]
  | other t => simp [fileUnder]

theorem dispatchStep_metrics (nodeName : Str) (e : Enricher) (entry : AuditLine × ContainerInfo) :
    (dispatchStep syscallName codec nodeName e entry).metrics =
      e.metrics ++ (metricOf syscallName nodeName entry).toList := by
  obtain ⟨line, info⟩ := entry
  simp only [dispatchStep, Enricher.dispatchAuditLine, metricOf]
  cases kind : line.type_ with
  | selinux =>
    by_cases recorded : info.recordProfile = [] <;> simp [Enricher.dispatchSelinuxLine, recorded]
  | seccomp =>
    simp only [Enricher.dispatchSeccompLine]
    cases syscallName line.systemCallID with
    | none => simp
    | some name => by_cases recorded : info.recordProfile = [] <;> simp [recorded]
  | other t => simp

/-- A set the dispatch keeps per profile, when one step files what
`contribution` says: a run files every line's contribution. -/
theorem dispatchAll_files (get : Enricher → Str → Option (Finset Str))
    (contribution : Str → AuditLine × ContainerInfo → Option Str)
    (step : ∀ nodeName e entry p,
      get (dispatchStep syscallName codec nodeName e entry) p = fileUnder (get e p) (contribution p entry))
    (nodeName : Str) (e : Enricher) (entries : List (AuditLine × ContainerInfo)) (p : Str) :
    get (e.dispatchAll syscallName codec nodeName entries) p =
      filedAll (get e p) (entries.filterMap (contribution p)) := by
  induction entries generalizing e with
  | nil => simp [Enricher.dispatchAll, filedAll]
  | cons entry rest ih =>
    rw [dispatchAll_cons, ih, step, filedAll_fileUnder, List.filterMap_cons]
    cases contribution p entry <;> rfl

theorem dispatchAll_metrics (nodeName : Str) (e : Enricher)
    (entries : List (AuditLine × ContainerInfo)) :
    (e.dispatchAll syscallName codec nodeName entries).metrics =
      e.metrics ++ entries.filterMap (metricOf syscallName nodeName) := by
  induction entries generalizing e with
  | nil => simp [Enricher.dispatchAll]
  | cons entry rest ih =>
    rw [dispatchAll_cons, ih, dispatchStep_metrics, List.filterMap_cons]
    cases metricOf syscallName nodeName entry <;> simp

/-- Over any run from any state, each profile's syscall set gains exactly the
names of the seccomp lines attributed to it whose id resolves, its AVC set
exactly the serializations of the SELinux lines attributed to it, and one
metric is sent per seccomp line whose id resolves, in order. The empty profile
id and other line types contribute nothing (`syscallOf`, `avcOf`). -/
theorem dispatchAll_records (nodeName : Str) (e : Enricher)
    (entries : List (AuditLine × ContainerInfo)) (p : Str) :
    (e.dispatchAll syscallName codec nodeName entries).syscalls p =
        filedAll (e.syscalls p) (entries.filterMap (syscallOf syscallName p)) ∧
      (e.dispatchAll syscallName codec nodeName entries).avcs p =
        filedAll (e.avcs p) (entries.filterMap (avcOf codec p)) ∧
      (e.dispatchAll syscallName codec nodeName entries).metrics =
        e.metrics ++ entries.filterMap (metricOf syscallName nodeName) :=
  ⟨dispatchAll_files syscallName codec _ _ (dispatchStep_syscalls syscallName codec) nodeName e entries p,
    dispatchAll_files syscallName codec _ _ (dispatchStep_avcs syscallName codec) nodeName e entries p,
    dispatchAll_metrics syscallName codec nodeName e entries⟩

end Run

/-! ## The failed serialization -/

/-- The decoding step of the `Avcs` call. -/
theorem avcDecode_ok {codec : AvcCodec} {json : Str} {avc : SelinuxAvc} :
    (match codec.unmarshal json with
      | some avc => (.ok avc : Except String SelinuxAvc)
      | none => .error "unmarshal AVC") = .ok avc ↔ codec.unmarshal json = some avc := by
  cases codec.unmarshal json <;> simp

/-- When every stored element decodes and every SELinux line filed under `p`
serializes, the profile's `Avcs` call after any run succeeds and returns the
stored records and the records of exactly those lines. -/
theorem dispatchAll_avcsRpc (syscallName : Int → Option Str) (codec : AvcCodec) (nodeName : Str)
    (e : Enricher) (entries : List (AuditLine × ContainerInfo)) (p : Str)
    (stored : ∀ json ∈ (e.avcs p).getD ∅, codec.unmarshal json ≠ none)
    (serializable : ∀ entry ∈ entries, AvcFiledUnder p entry →
      ∃ json, codec.marshal (avcOfLine entry.1) = .ok json) :
    ∃ avcs, (e.dispatchAll syscallName codec nodeName entries).avcsRpc codec p = .ok avcs ∧
      ∀ avc, avc ∈ avcs ↔ (∃ json ∈ (e.avcs p).getD ∅, codec.unmarshal json = some avc) ∨
        ∃ entry ∈ entries, AvcFiledUnder p entry ∧ avcOfLine entry.1 = avc := by
  have filed : ∀ json, json ∈ entries.filterMap (avcOf codec p) ↔
      ∃ entry ∈ entries, AvcFiledUnder p entry ∧ serialization codec entry.1 = json := by
    simp [avcOf]
  have written : ∀ entry ∈ entries, AvcFiledUnder p entry →
      codec.unmarshal (serialization codec entry.1) = some (avcOfLine entry.1) := by
    intro entry member attributed
    obtain ⟨json, marshalled⟩ := serializable entry member attributed
    rw [serialization, marshalled]
    exact codec.unmarshal_marshal _ _ marshalled
  rw [Enricher.avcsRpc, dispatchAll_files syscallName codec _ _ (dispatchStep_avcs syscallName codec)]
  obtain ⟨avcs, decoded, members⟩ := @mapM_ok_of_forall _ _ _ _ (setList _) fun json member => by
    rcases mem_filedAll.mp (mem_setList.mp member) with old | new
    · obtain ⟨avc, some⟩ := Option.ne_none_iff_exists'.mp (stored json old)
      exact ⟨avc, avcDecode_ok.mpr some⟩
    · obtain ⟨entry, listed, attributed, rfl⟩ := (filed json).mp new
      exact ⟨_, avcDecode_ok.mpr (written entry listed attributed)⟩
  refine ⟨avcs, decoded, fun avc => ?_⟩
  simp only [members, mem_setList, mem_filedAll, avcDecode_ok, filed, or_and_right, exists_or]
  refine or_congr Iff.rfl ⟨?_, ?_⟩
  · rintro ⟨_, ⟨entry, member, attributed, rfl⟩, some⟩
    rw [written entry member attributed, Option.some_inj] at some
    exact ⟨entry, member, attributed, some⟩
  · rintro ⟨entry, member, attributed, rfl⟩
    exact ⟨_, ⟨entry, member, attributed, rfl⟩, written entry member attributed⟩

/-- A container recording profile `profile-1`. -/
def recordingContainer : ContainerInfo :=
  ⟨"recorded".toList, "app".toList, "default".toList, "profile-1".toList⟩

/-- An SELinux line recording `sampleAvc`, which the sample codec serializes. -/
def validLine : AuditLine :=
  ⟨.selinux, "/bin/cat".toList, 0, sampleAvc.perm, sampleAvc.scontext, sampleAvc.tcontext,
    sampleAvc.tclass⟩

theorem dispatchAll_avcsRpc_sample :
    ∃ avcs, (Enricher.empty.dispatchAll (fun _ => none) sampleCodec [] [(validLine, recordingContainer)]).avcsRpc
        sampleCodec recordingContainer.recordProfile = .ok avcs ∧
      ∀ avc, avc ∈ avcs ↔
        (∃ json ∈ (Enricher.empty.avcs recordingContainer.recordProfile).getD ∅,
          sampleCodec.unmarshal json = some avc) ∨
        ∃ entry ∈ [(validLine, recordingContainer)], AvcFiledUnder recordingContainer.recordProfile entry ∧
          avcOfLine entry.1 = avc :=
  dispatchAll_avcsRpc (fun _ => none) sampleCodec [] Enricher.empty [(validLine, recordingContainer)]
    recordingContainer.recordProfile (fun json member => by cases member)
    fun entry member _ => ⟨sampleAvcJson, by rw [List.mem_singleton.mp member]; rfl⟩

/-- An SELinux line attributed to a recorded profile whose record
`protojson.Marshal` rejects files the empty string; from then on, whatever is
dispatched after it, the profile's `Avcs` call fails. -/
theorem dispatchAll_unmarshallable_avc (syscallName : Int → Option Str) (codec : AvcCodec)
    (nodeName : Str) (e : Enricher) (before after : List (AuditLine × ContainerInfo))
    (line : AuditLine) (info : ContainerInfo) (err : String) (selinux : line.type_ = .selinux)
    (recorded : info.recordProfile ≠ []) (rejected : codec.marshal (avcOfLine line) = .error err) :
    [] ∈ ((e.dispatchAll syscallName codec nodeName (before ++ (line, info) :: after)).avcs
        info.recordProfile).getD ∅ ∧
      (e.dispatchAll syscallName codec nodeName (before ++ (line, info) :: after)).avcsRpc codec
        info.recordProfile = .error "unmarshal AVC" := by
  have filed : [] ∈ ((e.dispatchAll syscallName codec nodeName (before ++ (line, info) :: after)).avcs
      info.recordProfile).getD ∅ := by
    rw [dispatchAll_files syscallName codec _ _ (dispatchStep_avcs syscallName codec)]
    refine mem_filedAll.mpr (.inr (List.mem_filterMap.mpr ⟨(line, info), by simp, ?_⟩))
    simp [avcOf, AvcFiledUnder, selinux, recorded, serialization, rejected]
  refine ⟨filed, mapM_error_of_mem ?_ (mem_setList.mpr filed) ?_⟩
  · intro json m decoded
    split at decoded <;> cases decoded
    rfl
  · simp [codec.unmarshal_empty]

/-- An SELinux line whose record is not `sampleAvc`, standing for one with a
field that is not valid UTF-8, which the sample codec does not serialize. -/
def invalidLine : AuditLine :=
  ⟨.selinux, "/bin/cat".toList, 0, "write".toList,
    "system_u:system_r:selinuxrecording.process:s0".toList, "system_u:object_r:bin_t:s0".toList,
    "file".toList⟩

theorem dispatchAll_unmarshallable_avc_sample :
    [] ∈ ((Enricher.empty.dispatchAll (fun _ => none) sampleCodec [] ([] ++ (invalidLine, recordingContainer) :: [])).avcs
        recordingContainer.recordProfile).getD ∅ ∧
      (Enricher.empty.dispatchAll (fun _ => none) sampleCodec [] ([] ++ (invalidLine, recordingContainer) :: [])).avcsRpc
        sampleCodec recordingContainer.recordProfile = .error "unmarshal AVC" :=
  dispatchAll_unmarshallable_avc (fun _ => none) sampleCodec [] Enricher.empty [] []
    invalidLine recordingContainer "proto: invalid UTF-8" rfl (by decide) rfl

end SpoRecorder.Guarantees.Aggregator
