import SpoRecorder.Guarantees.Aggregator

/-!
# The aggregator over any interleaving of ingest and calls

Two threads share the enricher's aggregator: the ingest loop files attributed
audit lines (`dispatchAuditLine`, enricher.go:239-343) and the gRPC server
answers `Syscalls`, `Avcs`, `ResetSyscalls` and `ResetAvcs`. A history of the
aggregator is a list of operations in one serial order, each operation one
atomic step, and a theorem over every history holds over every interleaving
of the two threads at that granularity.

The code does not make a dispatch atomic: it is `LoadOrStore` followed by an
unsynchronized `sets.String.Insert` on the stored set (enricher.go:289-290,
340-341), while the handlers read and delete entries of the same `sync.Map`.
A handler that reads a set during an insert races with it, and such runs are
outside what is stated here.

Over every history, from any state:

* a `Syscalls(p)` call answers, in strictly ascending order, exactly the names
  of the seccomp lines attributed to `p` since the most recent
  `ResetSyscalls(p)`, and those held before the history if it never reset `p`
  (`syscallsRpc_since_reset`); resets of other profiles change nothing for `p`;
* from process start, an `Avcs(p)` call fails exactly when an SELinux line
  attributed to `p` since the most recent `ResetAvcs(p)` could not be
  serialized, and otherwise answers exactly the records of those lines
  (`avcsRpc_since_reset`).

The ingest itself need not keep the order of its lines: dispatching them in
another order leaves every set as it is (`dispatchAll_perm`).
-/

namespace SpoRecorder.Guarantees.AggregatorHistory
open SpoRecorder.Source SpoRecorder.Guarantees.Aggregator

/-- One linearized operation on the aggregator. -/
inductive AggregatorOp
  /-- The ingest loop dispatches one attributed line. -/
  | dispatch (entry : AuditLine × ContainerInfo)
  | syscalls (profile : Str)
  | resetSyscalls (profile : Str)
  | avcs (profile : Str)
  | resetAvcs (profile : Str)
  deriving DecidableEq, Repr

/-- The value an operation files into one of a profile's sets: a dispatch's
contribution, nothing for a call. -/
def filedBy (contribution : AuditLine × ContainerInfo → Option Str) : AggregatorOp → Option Str
  | .dispatch entry => contribution entry
  | _ => none

theorem filedBy_eq_some {contribution : AuditLine × ContainerInfo → Option Str} {op : AggregatorOp}
    {value : Str} : filedBy contribution op = some value ↔
      ∃ entry, op = .dispatch entry ∧ contribution entry = some value := by
  cases op <;> simp [filedBy]

/-- A value the dispatches of a history file after its last `reset`: the
spec's "inserted since the most recent reset (or process start)". -/
def SinceReset (reset : AggregatorOp) (contribution : AuditLine × ContainerInfo → Option Str)
    (h : List AggregatorOp) (value : Str) : Prop :=
  ∃ pre entry post, h = pre ++ .dispatch entry :: post ∧ contribution entry = some value ∧
    reset ∉ post

theorem sinceReset_cons {reset : AggregatorOp} {contribution : AuditLine × ContainerInfo → Option Str}
    {op : AggregatorOp} {rest : List AggregatorOp} {value : Str} :
    SinceReset reset contribution (op :: rest) value ↔
      SinceReset reset contribution rest value ∨ (filedBy contribution op = some value ∧ reset ∉ rest) := by
  rw [filedBy_eq_some]
  constructor
  · rintro ⟨pre, entry, post, split, filed, after⟩
    cases pre with
    | nil =>
      obtain ⟨rfl, rfl⟩ := List.cons.inj split
      exact .inr ⟨⟨entry, rfl, filed⟩, after⟩
    | cons x pre =>
      obtain ⟨-, rfl⟩ := List.cons.inj split
      exact .inl ⟨pre, entry, post, rfl, filed, after⟩
  · rintro (⟨pre, entry, post, rfl, filed, after⟩ | ⟨⟨entry, rfl, filed⟩, after⟩)
    · exact ⟨op :: pre, entry, post, rfl, filed, after⟩
    · exact ⟨[], entry, rest, rfl, filed, after⟩

@[simp] theorem mem_fileUnder {old : Option (Finset Str)} {filed : Option Str} {value : Str} :
    value ∈ (fileUnder old filed).getD ∅ ↔ value ∈ old.getD ∅ ∨ filed = some value := by
  cases filed <;> simp [fileUnder, eq_comm, or_comm]

section History

variable (syscallName : Int → Option Str) (codec : AvcCodec) (nodeName : Str)

/-- The aggregator after one operation; the two reads change nothing. -/
def applyOp (e : Enricher) : AggregatorOp → Enricher
  | .dispatch entry => dispatchStep syscallName codec nodeName e entry
  | .syscalls _ => e
  | .resetSyscalls p => e.resetSyscalls p
  | .avcs _ => e
  | .resetAvcs p => e.resetAvcs p

/-- The aggregator after a history. -/
def applyOps (e : Enricher) (h : List AggregatorOp) : Enricher :=
  h.foldl (applyOp syscallName codec nodeName) e

theorem applyOp_syscalls (e : Enricher) (op : AggregatorOp) (p : Str) :
    (applyOp syscallName codec nodeName e op).syscalls p =
      if op = .resetSyscalls p then none
      else fileUnder (e.syscalls p) (filedBy (syscallOf syscallName p) op) := by
  cases op with
  | dispatch entry => simp [applyOp, filedBy, dispatchStep_syscalls]
  | resetSyscalls q => simp [applyOp, filedBy, fileUnder, eq_comm]
  | _ => simp [applyOp, filedBy, fileUnder]

theorem applyOp_avcs (e : Enricher) (op : AggregatorOp) (p : Str) :
    (applyOp syscallName codec nodeName e op).avcs p =
      if op = .resetAvcs p then none else fileUnder (e.avcs p) (filedBy (avcOf codec p) op) := by
  cases op with
  | dispatch entry => simp [applyOp, filedBy, dispatchStep_avcs]
  | resetAvcs q => simp [applyOp, filedBy, fileUnder, eq_comm]
  | _ => simp [applyOp, filedBy, fileUnder]

/-- A set of the aggregator whose every operation either resets it or files
into it what `contribution` says holds, after any history, what it held
unless the history reset it, and every value filed since the last reset. -/
theorem applyOps_mem (get : Enricher → Str → Option (Finset Str)) (reset : Str → AggregatorOp)
    (contribution : Str → AuditLine × ContainerInfo → Option Str)
    (step : ∀ e op p, get (applyOp syscallName codec nodeName e op) p =
      if op = reset p then none else fileUnder (get e p) (filedBy (contribution p) op))
    (resets_only : ∀ p, filedBy (contribution p) (reset p) = none)
    (e : Enricher) (h : List AggregatorOp) (p value : Str) :
    value ∈ (get (applyOps syscallName codec nodeName e h) p).getD ∅ ↔
      (reset p ∉ h ∧ value ∈ (get e p).getD ∅) ∨ SinceReset (reset p) (contribution p) h value := by
  induction h generalizing e with
  | nil => simp [applyOps, SinceReset]
  | cons op rest ih =>
    rw [applyOps, List.foldl_cons, ← applyOps, ih, step, sinceReset_cons, List.mem_cons]
    by_cases resetting : op = reset p
    · subst resetting
      simp [resets_only]
    · rw [if_neg resetting, mem_fileUnder]
      simp only [Ne.symm resetting, false_or, and_or_left, or_assoc, or_comm, or_left_comm, and_comm]

/-- The spec's first law: over any interleaving of ingest and calls, a
`Syscalls(p)` call answers, deduplicated and in ascending order, exactly the
names of the seccomp lines attributed to `p` since the most recent
`ResetSyscalls(p)`, with those held before the history if it never reset `p`. -/
theorem syscallsRpc_since_reset (e : Enricher) (h : List AggregatorOp) (p : Str) :
    ((applyOps syscallName codec nodeName e h).syscallsRpc p).Sorted (· < ·) ∧
      ∀ name, name ∈ (applyOps syscallName codec nodeName e h).syscallsRpc p ↔
        (.resetSyscalls p ∉ h ∧ name ∈ (e.syscalls p).getD ∅) ∨
          SinceReset (.resetSyscalls p) (syscallOf syscallName p) h name :=
  ⟨(setList_sorted _).lt_of_le (setList_nodup _), fun name => by
    rw [Enricher.syscallsRpc, mem_setList]
    exact applyOps_mem syscallName codec nodeName (·.syscalls) _ _
      (applyOp_syscalls syscallName codec nodeName) (fun _ => rfl) e h p name⟩

/-- An SELinux line attributed to `p` that a history dispatches after its last
`ResetAvcs(p)`. -/
def AvcSinceReset (p : Str) (h : List AggregatorOp) (entry : AuditLine × ContainerInfo) : Prop :=
  ∃ pre post, h = pre ++ .dispatch entry :: post ∧ AvcFiledUnder p entry ∧ .resetAvcs p ∉ post

/-- From process start, `p`'s AVC set holds the serializations of the lines
attributed to `p` since its last reset. -/
theorem mem_avcs_applyOps (h : List AggregatorOp) (p json : Str) :
    json ∈ ((applyOps syscallName codec nodeName Enricher.empty h).avcs p).getD ∅ ↔
      ∃ entry, AvcSinceReset p h entry ∧ serialization codec entry.1 = json := by
  rw [applyOps_mem syscallName codec nodeName (·.avcs) _ _ (applyOp_avcs syscallName codec nodeName)
    (fun _ => rfl)]
  simp only [Enricher.empty, Option.getD_none, Finset.not_mem_empty, and_false, false_or,
    SinceReset, AvcSinceReset, avcOf]
  constructor
  · rintro ⟨pre, entry, post, rfl, filed, after⟩
    split_ifs at filed with attributed
    exact ⟨entry, ⟨pre, post, rfl, attributed, after⟩, Option.some.inj filed⟩
  · rintro ⟨entry, ⟨pre, post, rfl, attributed, after⟩, rfl⟩
    exact ⟨pre, entry, post, rfl, by rw [if_pos attributed], after⟩

end History

theorem unmarshal_serialization {codec : AvcCodec} {line : AuditLine} {json : Str}
    (marshalled : codec.marshal (avcOfLine line) = .ok json) :
    codec.unmarshal (serialization codec line) = some (avcOfLine line) := by
  rw [serialization, marshalled]
  exact codec.unmarshal_marshal _ _ marshalled

theorem unmarshal_serialization_error {codec : AvcCodec} {line : AuditLine} {err : String}
    (failed : codec.marshal (avcOfLine line) = .error err) :
    codec.unmarshal (serialization codec line) = none := by
  rw [serialization, failed]
  exact codec.unmarshal_empty

section Avcs

variable (syscallName : Int → Option Str) (codec : AvcCodec) (nodeName : Str)

/-- From process start, an `Avcs(p)` call fails exactly when a line attributed
to `p` since its last reset could not be serialized. -/
theorem avcsRpc_applyOps_error (h : List AggregatorOp) (p : Str) :
    (∃ err, (applyOps syscallName codec nodeName Enricher.empty h).avcsRpc codec p = .error err) ↔
      ∃ entry, AvcSinceReset p h entry ∧ ∃ err, codec.marshal (avcOfLine entry.1) = .error err := by
  have stored := mem_avcs_applyOps syscallName codec nodeName h p
  constructor
  · rintro ⟨err, failed⟩
    obtain ⟨json, member, undecoded⟩ := mapM_error_mem failed
    obtain ⟨entry, since, rfl⟩ := (stored _).mp (mem_setList.mp member)
    refine ⟨entry, since, ?_⟩
    cases marshalled : codec.marshal (avcOfLine entry.1) with
    | error err => exact ⟨err, rfl⟩
    | ok json => simp [unmarshal_serialization marshalled] at undecoded
  · rintro ⟨entry, since, err, marshalled⟩
    refine ⟨"unmarshal AVC", mapM_error_of_mem ?_
      (mem_setList.mpr ((stored _).mpr ⟨entry, since, rfl⟩)) ?_⟩
    · intro json m decoded
      split at decoded <;> cases decoded
      rfl
    · simp [unmarshal_serialization_error marshalled]

/-- From process start, an `Avcs(p)` call that answers gives back the records
of exactly the lines attributed to `p` since its last reset. -/
theorem mem_avcsRpc_applyOps (h : List AggregatorOp) (p : Str) {avcs : List SelinuxAvc}
    (answered : (applyOps syscallName codec nodeName Enricher.empty h).avcsRpc codec p = .ok avcs)
    (avc : SelinuxAvc) : avc ∈ avcs ↔ ∃ entry, AvcSinceReset p h entry ∧ avcOfLine entry.1 = avc := by
  have stored := mem_avcs_applyOps syscallName codec nodeName h p
  -- no line since the reset failed to serialize, or the call would have failed
  have decodes : ∀ entry, AvcSinceReset p h entry →
      codec.unmarshal (serialization codec entry.1) = some (avcOfLine entry.1) := by
    intro entry since
    cases marshalled : codec.marshal (avcOfLine entry.1) with
    | ok json => exact unmarshal_serialization marshalled
    | error err => cases answered.symm.trans ((avcsRpc_applyOps_error syscallName codec nodeName h p).mpr
        ⟨entry, since, err, marshalled⟩).choose_spec
  obtain ⟨decodedAll, decoded, members⟩ := @mapM_ok_of_forall _ _ _ _ (setList _) fun json member => by
    obtain ⟨entry, since, serialized⟩ := (stored json).mp (mem_setList.mp member)
    exact ⟨_, avcDecode_ok.mpr (serialized ▸ decodes entry since)⟩
  obtain rfl : avcs = decodedAll := Except.ok.inj (answered.symm.trans decoded)
  simp only [members, mem_setList, stored, avcDecode_ok]
  constructor
  · rintro ⟨_, ⟨entry, since, rfl⟩, unmarshalled⟩
    exact ⟨entry, since, Option.some.inj ((decodes entry since).symm.trans unmarshalled)⟩
  · rintro ⟨entry, since, rfl⟩
    exact ⟨_, ⟨entry, since, rfl⟩, decodes entry since⟩

/-- From process start, over any interleaving of ingest and calls, an
`Avcs(p)` call fails exactly when an SELinux line attributed to `p` since the
most recent `ResetAvcs(p)` could not be serialized, and otherwise answers
exactly the records of the lines attributed to `p` since then. -/
theorem avcsRpc_since_reset (h : List AggregatorOp) (p : Str) :
    ((∃ err, (applyOps syscallName codec nodeName Enricher.empty h).avcsRpc codec p = .error err) ↔
      ∃ entry, AvcSinceReset p h entry ∧ ∃ err, codec.marshal (avcOfLine entry.1) = .error err) ∧
    ∀ avcs, (applyOps syscallName codec nodeName Enricher.empty h).avcsRpc codec p = .ok avcs →
      ∀ avc, avc ∈ avcs ↔ ∃ entry, AvcSinceReset p h entry ∧ avcOfLine entry.1 = avc :=
  ⟨avcsRpc_applyOps_error syscallName codec nodeName h p, fun _ answered =>
    mem_avcsRpc_applyOps syscallName codec nodeName h p answered⟩

end Avcs

/-! ## Reordered ingest -/

theorem filedAll_perm {old : Option (Finset Str)} {l₁ l₂ : List Str} (reordered : l₁.Perm l₂) :
    filedAll old l₁ = filedAll old l₂ := by
  simp only [filedAll, ← List.length_eq_zero, reordered.length_eq, List.toFinset_eq_of_perm _ _ reordered]

section Reordered

variable (syscallName : Int → Option Str) (codec : AvcCodec) (nodeName : Str)

/-- An ingest that dispatches the same lines in another order, across profiles
or within one, leaves every set of the aggregator as it is and sends the same
metrics in another order: a resolver that hands lines over out of order records
the same profiles. -/
theorem dispatchAll_perm (e : Enricher) {l₁ l₂ : List (AuditLine × ContainerInfo)} (reordered : l₁.Perm l₂) :
    (e.dispatchAll syscallName codec nodeName l₁).syscalls = (e.dispatchAll syscallName codec nodeName l₂).syscalls ∧
      (e.dispatchAll syscallName codec nodeName l₁).avcs = (e.dispatchAll syscallName codec nodeName l₂).avcs ∧
      (e.dispatchAll syscallName codec nodeName l₁).metrics.Perm
        (e.dispatchAll syscallName codec nodeName l₂).metrics := by
  have syscalls := dispatchAll_files syscallName codec _ _ (dispatchStep_syscalls syscallName codec) nodeName e
  have avcs := dispatchAll_files syscallName codec _ _ (dispatchStep_avcs syscallName codec) nodeName e
  refine ⟨funext fun p => ?_, funext fun p => ?_, ?_⟩
  · rw [syscalls, syscalls, filedAll_perm (reordered.filterMap _)]
  · rw [avcs, avcs, filedAll_perm (reordered.filterMap _)]
  · rw [dispatchAll_metrics, dispatchAll_metrics]
    exact (reordered.filterMap _).append_left _

end Reordered

theorem dispatchAll_perm_sample :
    [(validLine, recordingContainer), (invalidLine, recordingContainer)].Perm
        [(invalidLine, recordingContainer), (validLine, recordingContainer)] ∧
      (Enricher.empty.dispatchAll (fun _ => none) Tracking.sampleCodec []
          [(validLine, recordingContainer), (invalidLine, recordingContainer)]).avcs =
        (Enricher.empty.dispatchAll (fun _ => none) Tracking.sampleCodec []
          [(invalidLine, recordingContainer), (validLine, recordingContainer)]).avcs :=
  have reordered : [(validLine, recordingContainer), (invalidLine, recordingContainer)].Perm
      [(invalidLine, recordingContainer), (validLine, recordingContainer)] := .swap _ _ _
  ⟨reordered, (dispatchAll_perm (fun _ => none) Tracking.sampleCodec [] Enricher.empty reordered).2.1⟩

end SpoRecorder.Guarantees.AggregatorHistory
