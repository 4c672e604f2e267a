import SpoRecorder.Source.Recorder

/-!
# Object names from profile ids

The recording webhook names a profile id `<name>-<suffix>`, and both modes of
the collection recover the object name with `extractProfileName`
(profilerecorder.go:574-580), the prefix before the last `-`. It inverts the
naming for every name, dashes inside the name included, as long as the suffix
holds no `-`; it fails exactly on strings without a `-`.

Go's `strings.LastIndex` counts bytes; `-` is one byte that occurs in no
multi-byte sequence, so the byte and the character positions cut the same prefix.
-/

namespace SpoRecorder.Guarantees.ProfileNames
open SpoRecorder.Source

theorem extractProfileName_append (name : Str) {suffix : Str} (absent : '-' ∉ suffix) :
    extractProfileName (name ++ ['-'] ++ suffix) = .ok name := by
  rw [extractProfileName, List.append_assoc, List.singleton_append, lastIndex_append_cons name absent]
  simp

/-- `extractProfileName` fails exactly on the strings without a `-`; on the
others it returns the one prefix followed by a `-` and a dash-free rest, and it
recovers `name` from `name-suffix` for every name and dash-free suffix. -/
theorem extractProfileName_inverts (s : Str) :
    ((∃ err, extractProfileName s = .error err) ↔ '-' ∉ s) ∧
    ('-' ∈ s → ∃ name, extractProfileName s = .ok name ∧
      (∃ suffix, s = name ++ ['-'] ++ suffix ∧ '-' ∉ suffix) ∧
      ∀ name' suffix', s = name' ++ ['-'] ++ suffix' → '-' ∉ suffix' → name' = name) ∧
    ∀ name suffix, '-' ∉ suffix → extractProfileName (name ++ ['-'] ++ suffix) = .ok name := by
  refine ⟨?_, fun dash => ?_, fun name suffix absent => extractProfileName_append name absent⟩
  · rw [← lastIndex_isSome, extractProfileName]
    cases lastIndex s '-' <;> simp
  · obtain ⟨i, found⟩ := Option.isSome_iff_exists.mp (lastIndex_isSome.mpr dash)
    obtain ⟨name, suffix, rfl, absent, -⟩ := lastIndex_some found
    have split : name ++ '-' :: suffix = name ++ ['-'] ++ suffix := by simp
    rw [split]
    refine ⟨name, extractProfileName_append name absent, ⟨suffix, rfl, absent⟩, ?_⟩
    intro name' suffix' same absent'
    have recovered := extractProfileName_append name' absent'
    rw [← same, extractProfileName_append name absent] at recovered
    exact (Except.ok.inj recovered).symm

/-- A profile id the webhook derives from a name with dashes of its own. -/
def webhookId : Str := "my-nginx-profile".toList ++ ['-'] ++ "1702394847".toList

theorem extractProfileName_inverts_sample :
    '-' ∈ webhookId ∧ extractProfileName webhookId = .ok "my-nginx-profile".toList :=
  ⟨by decide,
    (extractProfileName_inverts webhookId).2.2 "my-nginx-profile".toList "1702394847".toList
      (by decide)⟩

end SpoRecorder.Guarantees.ProfileNames
