import SpoRecorder.Source.SelinuxPolicy

/-!
# The representation invariant of `seProfileBuilder`

Every key in `keys` is filed in `permMap` with a non-empty set, and every key
filed in `permMap` is in `keys` (`BuilderInvariant`). `newSeProfileBuilder`
establishes it; `addAvc` keeps it when it files an AVC and, failing before it
touches the builder, when it rejects one; so `AddAvcList` keeps it for every
list, also when it stops at a malformed context halfway (profilerecorder.go:
657-698). `Format` looks up only keys of `keys`, so on such a builder
`policyLine` always receives a non-empty set: its "nil permissions set or no
permissions" error is dead, and the only error `Format` can return is the
empty class or context one (`seProfileBuilder_invariant`).
-/

namespace SpoRecorder.Guarantees.PolicyBuilder
open SpoRecorder.Source

/-- `keys` and the keys of `permMap` agree, and no filed set is empty. -/
structure BuilderInvariant (sb : SeProfileBuilder) : Prop where
  keys_filed : ∀ key ∈ sb.keys, ∃ perms, sb.permMap key = some perms ∧ perms ≠ ∅
  filed_keys : ∀ key perms, sb.permMap key = some perms → key ∈ sb.keys

namespace BuilderInvariant

variable {sb : SeProfileBuilder}

theorem new (usageCtx : Str) : BuilderInvariant (newSeProfileBuilder usageCtx) where
  keys_filed _ member := nomatch member
  filed_keys _ _ filed := nomatch filed

theorem record (inv : BuilderInvariant sb) (avc : SelinuxAvc) : BuilderInvariant (sb.record avc) where
  keys_filed key member := by
    by_cases same : key = avcKey avc
    · subst same
      exact ⟨insert avc.perm ((sb.permMap (avcKey avc)).getD ∅), by simp [SeProfileBuilder.record],
        Finset.insert_ne_empty _ _⟩
    · have old : key ∈ sb.keys := by simpa [SeProfileBuilder.record, same] using member
      simpa [SeProfileBuilder.record, Function.update_noteq same] using inv.keys_filed key old
  filed_keys key perms filed := by
    by_cases same : key = avcKey avc
    · simp [SeProfileBuilder.record, same]
    · have old : sb.permMap key = some perms := by
        simpa [SeProfileBuilder.record, Function.update_noteq same] using filed
      exact List.mem_append_left _ (inv.filed_keys key perms old)

theorem afterAddAvc (inv : BuilderInvariant sb) (avc : SelinuxAvc) :
    BuilderInvariant (sb.afterAddAvc avc) := by
  rw [SeProfileBuilder.afterAddAvc, addAvc_eq]
  split_ifs
  exacts [inv.record avc, inv]

theorem afterAddAvcList (inv : BuilderInvariant sb) (avcs : List SelinuxAvc) :
    BuilderInvariant (sb.afterAddAvcList avcs) := by
  induction avcs generalizing sb with
  | nil => exact inv
  | cons avc rest ih =>
    rw [SeProfileBuilder.afterAddAvcList, addAvc_eq]
    split_ifs
    exacts [ih (inv.record avc), inv]

end BuilderInvariant

/-! ## What `Format` can fail with -/

/-- Given a non-empty set, a line fails only on an empty class or context. -/
theorem writeLine_error {cfg : Config} {sb : SeProfileBuilder} {key : Str} {perms : Finset Str}
    {e : String} (nonempty : perms ≠ ∅)
    (failed : sb.writeLineFromKeyVal cfg key (some perms) = .error e) : e = "empty context or class" := by
  simp only [SeProfileBuilder.writeLineFromKeyVal] at failed
  split_ifs at failed
  · exact (Except.error.inj failed).symm
  · simp [policyLine, nonempty] at failed

theorem BuilderInvariant.format_error {sb : SeProfileBuilder} (inv : BuilderInvariant sb)
    {cfg : Config} {err : String} (failed : sb.format cfg = .error err) :
    err = "writing policy line from key-value pair: empty context or class" := by
  unfold SeProfileBuilder.format at failed
  cases lines : (sortStrings sb.keys).mapM fun key =>
      wrap "writing policy line from key-value pair" (sb.writeLineFromKeyVal cfg key (sb.permMap key)) with
  | ok written => rw [lines] at failed; cases failed
  | error e =>
    rw [lines] at failed
    obtain rfl : e = err := Except.error.inj failed
    obtain ⟨key, member, wrote⟩ := mapM_error_mem lines
    obtain ⟨perms, filed, nonempty⟩ := inv.keys_filed key (mem_sortStrings.mp member)
    rw [filed] at wrote
    cases line : sb.writeLineFromKeyVal cfg key (some perms) with
    | ok text => rw [line] at wrote; cases wrote
    | error e' =>
      rw [line, wrap_error] at wrote
      rw [← Except.error.inj wrote, writeLine_error nonempty line]
      rfl

/-- `formatSelinuxProfile` fails only on a malformed context or on an empty
class or context, never on a missing or empty permission set. -/
theorem formatSelinuxProfile_error {cfg : Config} {usageCtx : Str} {avcs : List SelinuxAvc}
    {err : String} (failed : formatSelinuxProfile cfg usageCtx avcs = .error err) :
    err = "consuming AVCs: " ++ addAvcListError ∨
      err = "building policy: writing policy line from key-value pair: empty context or class" := by
  unfold formatSelinuxProfile at failed
  cases built : (newSeProfileBuilder usageCtx).addAvcList avcs with
  | error e =>
    rw [built, wrap_error] at failed
    cases failed
    rw [addAvcList_eq] at built
    split_ifs at built
    cases built
    exact .inl rfl
  | ok sb =>
    have inv := (BuilderInvariant.new usageCtx).afterAddAvcList avcs
    rw [afterAddAvcList_of_ok built] at inv
    rw [built, wrap_ok] at failed
    change wrap "building policy" (sb.format cfg) = .error err at failed
    cases formatted : sb.format cfg with
    | ok policy => rw [formatted] at failed; cases failed
    | error e =>
      rw [formatted, wrap_error] at failed
      cases failed
      rw [inv.format_error formatted]
      exact .inr rfl

/-- The builder invariant holds of a new builder and after every `addAvc` and
`AddAvcList` call, returned or failed; `Format` on such a builder fails only on
an empty class or context, so `formatSelinuxProfile` fails only on a malformed
context or an empty class or context, never on a missing or empty permission
set. -/
theorem seProfileBuilder_invariant :
    (∀ usageCtx, BuilderInvariant (newSeProfileBuilder usageCtx)) ∧
    (∀ sb avc, BuilderInvariant sb → BuilderInvariant (sb.afterAddAvc avc)) ∧
    (∀ sb avcs, BuilderInvariant sb → BuilderInvariant (sb.afterAddAvcList avcs)) ∧
    (∀ cfg sb err, BuilderInvariant sb → sb.format cfg = .error err →
      err = "writing policy line from key-value pair: empty context or class") ∧
    (∀ cfg usageCtx avcs err, formatSelinuxProfile cfg usageCtx avcs = .error err →
      err = "consuming AVCs: " ++ addAvcListError ∨
        err = "building policy: writing policy line from key-value pair: empty context or class") :=
  ⟨BuilderInvariant.new, fun _ avc inv => inv.afterAddAvc avc,
    fun _ avcs inv => inv.afterAddAvcList avcs, fun _ _ _ inv failed => inv.format_error failed,
    fun _ _ _ _ failed => formatSelinuxProfile_error failed⟩

/-- An AVC whose target context has a single field. -/
def malformedAvc : SelinuxAvc :=
  ⟨"open".toList, "system_u:system_r:container_t:s0".toList, "bin_t".toList, "file".toList⟩

/-- An AVC the builder files under `file bin_t`. -/
def readAvc : SelinuxAvc :=
  ⟨"read".toList, "system_u:system_r:container_t:s0".toList, "system_u:object_r:bin_t:s0".toList,
    "file".toList⟩

/-- `AddAvcList` stops at the malformed AVC, and the builder it leaves, which
filed the AVC before it only, keeps the invariant. -/
theorem seProfileBuilder_invariant_sample :
    ((newSeProfileBuilder "my_usage_t".toList).afterAddAvcList [readAvc, malformedAvc, readAvc]).keys =
        ["file bin_t".toList] ∧
      BuilderInvariant
        ((newSeProfileBuilder "my_usage_t".toList).afterAddAvcList [readAvc, malformedAvc, readAvc]) :=
  ⟨by decide, seProfileBuilder_invariant.2.2.1 _ _ (seProfileBuilder_invariant.1 _)⟩

end SpoRecorder.Guarantees.PolicyBuilder
