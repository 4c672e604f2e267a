import SpoRecorder.Source.SelinuxPolicy
import Mathlib.Data.List.Dedup
import Mathlib.Data.Finset.Dedup

/-!
# What `formatSelinuxProfile` writes

On AVCs as the key=value audit parser produces them (contexts of at least
three fields, non-empty class and type, no space in either), the builder's key
`tclass + " " + type` decodes back to the pair, so the policy is the header
followed by one rendered rule per entry of the sorted key list
(`formatSelinuxProfile_parsed`). From it: the rules grant exactly the observed
(target, class, permission) triples, and the lines follow the ascending order
of the pairs' keys. Which pairs get a repeated line is left open here: `keys`
holds one entry per AVC, not per pair.

Independently of any precondition, the result does not depend on the order
of the AVC list (`formatSelinuxProfile_perm`).
-/

namespace SpoRecorder.Guarantees.PolicyFormat
open SpoRecorder.Source

/-! ## The policy in the spec's terms (its Policy Builder, steps 1-5) -/

/-- The third `:`-separated field of an AVC's target context. -/
def typeField (avc : SelinuxAvc) : Str := (split avc.tcontext ':').getD 2 []

/-- `T(t)`: the usage context for the permissive sentinel, the type otherwise. -/
def allowTarget (cfg : Config) (usageCtx t : Str) : Str :=
  if t = cfg.selinuxPermissiveProfile then usageCtx else t

/-- The key `"C t"` of a (class, type) pair. -/
def pairKey (pair : Str × Str) : Str := pair.1 ++ [' '] ++ pair.2

/-- The distinct permissions of the AVCs with a given (class, type) pair, ascending. -/
def pairPerms (avcs : List SelinuxAvc) (pair : Str × Str) : List Str :=
  sortStrings ((avcs.filter fun avc => (avc.tclass, typeField avc) = pair).map SelinuxAvc.perm).dedup

/-- One allow rule, `(allow process target ( tclass ( perms )))`. -/
structure AllowRule where
  target : Str
  tclass : Str
  perms : List Str
  deriving DecidableEq, Repr

def AllowRule.render (r : AllowRule) : Str :=
  "(allow process ".toList ++ r.target ++ " ( ".toList ++ r.tclass ++ " ( ".toList ++
    join r.perms [' '] ++ " )))\n".toList

/-- The line the spec's Policy Builder emits for a pair: the target, the class
and the pair's distinct permissions in ascending order (step 4). -/
def expectedLine (cfg : Config) (usageCtx : Str) (avcs : List SelinuxAvc) (pair : Str × Str) : Str :=
  AllowRule.render ⟨allowTarget cfg usageCtx pair.2, pair.1, pairPerms avcs pair⟩

/-- An AVC as the audit parser produces it. -/
structure ParsedAvc (avc : SelinuxAvc) : Prop where
  context : WellFormedContext avc.tcontext
  tclass_ne_nil : avc.tclass ≠ []
  type_ne_nil : typeField avc ≠ []
  tclass_no_space : ' ' ∉ avc.tclass
  type_no_space : ' ' ∉ typeField avc

instance (avc : SelinuxAvc) : Decidable (ParsedAvc avc) :=
  decidable_of_iff (WellFormedContext avc.tcontext ∧ avc.tclass ≠ [] ∧ typeField avc ≠ [] ∧
      ' ' ∉ avc.tclass ∧ ' ' ∉ typeField avc)
    ⟨fun ⟨a, b, c, d, e⟩ => ⟨a, b, c, d, e⟩, fun ⟨a, b, c, d, e⟩ => ⟨a, b, c, d, e⟩⟩

/-- The spec's SELinux scenario: `read` and `execute` on `file`/`bin_t`, and
`write` on a context whose type is the permissive sentinel. -/
def scenarioAvcs : List SelinuxAvc :=
  let source := "system_u:system_r:container_t:s0".toList
  [⟨"read".toList, source, "system_u:object_r:bin_t:s0".toList, "file".toList⟩,
   ⟨"execute".toList, source, "system_u:object_r:bin_t:s0".toList, "file".toList⟩,
   ⟨"write".toList, source, "system_u:system_r:selinuxrecording.process:s0".toList, "file".toList⟩]

def scenarioConfig : Config := ⟨[], [], [], [], "selinuxrecording.process".toList⟩

/-! ## Decoding the builder's keys -/

theorem split_pairKey {c t : Str} (first : ' ' ∉ c) (second : ' ' ∉ t) :
    split (pairKey (c, t)) ' ' = [c, t] := by
  have decoded : ([' '].intercalate [c, t]).splitOn ' ' = [c, t] :=
    List.splitOn_intercalate [c, t] ' ' (by simp [first, second]) (by simp)
  simpa [split, pairKey, List.intercalate] using decoded

theorem avcKey_eq_pairKey (avc : SelinuxAvc) : avcKey avc = pairKey (avc.tclass, typeField avc) :=
  rfl

/-- The pair a key decodes to under `targetClassCtx`'s split. -/
def keyPair (key : Str) : Str × Str := ((split key ' ').getD 0 [], (split key ' ').getD 1 [])

theorem keyPair_avcKey {avc : SelinuxAvc} (parsed : ParsedAvc avc) :
    keyPair (avcKey avc) = (avc.tclass, typeField avc) := by
  simp [keyPair, avcKey_eq_pairKey, split_pairKey parsed.tclass_no_space parsed.type_no_space]

/-- The key encoding is injective on parsed AVCs. -/
theorem avcKey_inj {a b : SelinuxAvc} (pa : ParsedAvc a) (pb : ParsedAvc b) :
    avcKey a = avcKey b ↔ (a.tclass, typeField a) = (b.tclass, typeField b) := by
  constructor
  · intro same
    rw [← keyPair_avcKey pa, ← keyPair_avcKey pb, same]
  · intro same
    rw [avcKey_eq_pairKey, avcKey_eq_pairKey, same]

/-! ## The rendered policy -/

/-- The rule `Format` writes for a key of the builder built from `avcs`. -/
def keyRule (cfg : Config) (usageCtx : Str) (avcs : List SelinuxAvc) (key : Str) : AllowRule :=
  ⟨allowTarget cfg usageCtx (keyPair key).2, (keyPair key).1, setList (permsOf avcs key)⟩

theorem writeLine_parsed (cfg : Config) (sb : SeProfileBuilder) (avc : SelinuxAvc)
    (parsed : ParsedAvc avc) (usage : sb.usageCtx ≠ []) {perms : Finset Str} (nonempty : perms ≠ ∅) :
    sb.writeLineFromKeyVal cfg (avcKey avc) (some perms) =
      .ok (AllowRule.render ⟨allowTarget cfg sb.usageCtx (typeField avc), avc.tclass, setList perms⟩) := by
  have target : allowTarget cfg sb.usageCtx (typeField avc) ≠ [] := by
    unfold allowTarget; split_ifs
    · exact usage
    · exact parsed.type_ne_nil
  have decode : sb.targetClassCtx cfg (avcKey avc) =
      (avc.tclass, allowTarget cfg sb.usageCtx (typeField avc)) := by
    simp only [SeProfileBuilder.targetClassCtx, avcKey_eq_pairKey,
      split_pairKey parsed.tclass_no_space parsed.type_no_space]
    rfl
  simp only [SeProfileBuilder.writeLineFromKeyVal, decode, parsed.tclass_ne_nil, target, or_self,
    if_false, policyLine, nonempty, sortStrings_of_sorted (setList_sorted _), wrap_ok]
  rfl

/-- On parsed AVCs the policy is the header and one rule per sorted key. -/
theorem formatSelinuxProfile_parsed (cfg : Config) {usageCtx : Str} (usage : usageCtx ≠ [])
    {avcs : List SelinuxAvc} (parsed : ∀ avc ∈ avcs, ParsedAvc avc) :
    formatSelinuxProfile cfg usageCtx avcs = .ok (policyHeader ++
      ((sortStrings (avcs.map avcKey)).map (AllowRule.render ∘ keyRule cfg usageCtx avcs)).flatten) := by
  have accepted : ∀ avc ∈ avcs, WellFormedContext avc.tcontext := fun avc m => (parsed avc m).context
  have lines : ∀ key ∈ sortStrings (avcs.map avcKey),
      ((avcs.foldl SeProfileBuilder.record (newSeProfileBuilder usageCtx)).writeLineFromKeyVal cfg key
        ((avcs.foldl SeProfileBuilder.record (newSeProfileBuilder usageCtx)).permMap key)) =
      .ok ((AllowRule.render ∘ keyRule cfg usageCtx avcs) key) := by
    intro key member
    obtain ⟨avc, m, rfl⟩ := List.mem_map.mp (mem_sortStrings.mp member)
    have filed : permsOf avcs (avcKey avc) ≠ ∅ := permsOf_eq_empty.not.mpr (by simp; exact ⟨avc, m, rfl⟩)
    rw [permMap_recordAll, if_pos ⟨avc, m, rfl⟩]
    simp only [newSeProfileBuilder, Option.getD_none, Finset.empty_union]
    rw [writeLine_parsed cfg _ avc (parsed avc m) (by rwa [usageCtx_recordAll]) filed,
      usageCtx_recordAll]
    simp [keyRule, keyPair_avcKey (parsed avc m)]
  simp only [formatSelinuxProfile, addAvcList_eq, if_pos accepted, wrap_ok, bind, Except.bind,
    SeProfileBuilder.format, keys_recordAll, newSeProfileBuilder, List.nil_append]
  rw [mapM_of_forall (AllowRule.render ∘ keyRule cfg usageCtx avcs)]
  · rfl
  · intro key member
    simpa only [wrap_ok] using congrArg (wrap _) (lines key member)

/-! ## Granted access vectors -/

/-- A rule grants its target, its class and each of its permissions. -/
def AllowRule.Grants (r : AllowRule) (target tclass perm : Str) : Prop :=
  r.target = target ∧ r.tclass = tclass ∧ perm ∈ r.perms

theorem keyRule_avcKey (cfg : Config) (usageCtx : Str) (avcs : List SelinuxAvc) {avc : SelinuxAvc}
    (parsed : ParsedAvc avc) :
    keyRule cfg usageCtx avcs (avcKey avc) =
      ⟨allowTarget cfg usageCtx (typeField avc), avc.tclass, setList (permsOf avcs (avcKey avc))⟩ := by
  simp [keyRule, keyPair_avcKey parsed]

/-- The formatted policy allows exactly the observed (target, class, permission)
triples: nothing unobserved, nothing observed dropped. -/
theorem formatSelinuxProfile_grants (cfg : Config) {usageCtx : Str} (usage : usageCtx ≠ [])
    {avcs : List SelinuxAvc} (parsed : ∀ avc ∈ avcs, ParsedAvc avc) :
    ∃ rules : List AllowRule,
      formatSelinuxProfile cfg usageCtx avcs =
        .ok (policyHeader ++ (rules.map AllowRule.render).flatten) ∧
      ∀ target tclass perm, (∃ r ∈ rules, r.Grants target tclass perm) ↔
        ∃ avc ∈ avcs, allowTarget cfg usageCtx (typeField avc) = target ∧ avc.tclass = tclass ∧
          avc.perm = perm := by
  refine ⟨(sortStrings (avcs.map avcKey)).map (keyRule cfg usageCtx avcs), ?_, ?_⟩
  · rw [formatSelinuxProfile_parsed cfg usage parsed, List.map_map]
  intro target tclass perm
  simp only [List.mem_map, mem_sortStrings, exists_exists_and_eq_and]
  constructor
  · rintro ⟨avc, m, granted⟩
    obtain ⟨rfl, rfl, held⟩ := keyRule_avcKey cfg usageCtx avcs (parsed avc m) ▸ granted
    obtain ⟨other, m', same, rfl⟩ := mem_permsOf.mp (mem_setList.mp held)
    obtain ⟨sameClass, sameType⟩ := Prod.mk.inj ((avcKey_inj (parsed other m') (parsed avc m)).mp same)
    exact ⟨other, m', by rw [sameType], sameClass, rfl⟩
  · rintro ⟨avc, m, rfl, rfl, rfl⟩
    refine ⟨avc, m, ?_⟩
    rw [keyRule_avcKey cfg usageCtx avcs (parsed avc m)]
    exact ⟨rfl, rfl, mem_setList.mpr (mem_permsOf.mpr ⟨avc, m, rfl, rfl⟩)⟩

theorem formatSelinuxProfile_grants_scenario :
    "my_usage_t".toList ≠ [] ∧ (∀ avc ∈ scenarioAvcs, ParsedAvc avc) ∧
    ∃ rules : List AllowRule,
      formatSelinuxProfile scenarioConfig "my_usage_t".toList scenarioAvcs =
        .ok (policyHeader ++ (rules.map AllowRule.render).flatten) ∧
      ∀ target tclass perm, (∃ r ∈ rules, r.Grants target tclass perm) ↔
        ∃ avc ∈ scenarioAvcs, allowTarget scenarioConfig "my_usage_t".toList (typeField avc) = target ∧
          avc.tclass = tclass ∧ avc.perm = perm :=
  ⟨by decide, by decide, formatSelinuxProfile_grants scenarioConfig (by decide) (by decide)⟩

/-! ## Line order and content -/

theorem setList_permsOf {avcs : List SelinuxAvc} (parsed : ∀ avc ∈ avcs, ParsedAvc avc)
    {avc : SelinuxAvc} (m : avc ∈ avcs) :
    setList (permsOf avcs (avcKey avc)) = pairPerms avcs (avc.tclass, typeField avc) := by
  refine List.eq_of_perm_of_sorted ?_ (setList_sorted _) (sortStrings_sorted _)
  refine (List.perm_ext_iff_of_nodup (setList_nodup _)
    ((sortStrings_perm _).nodup_iff.mpr (List.nodup_dedup _))).mpr fun perm => ?_
  simp only [mem_setList, mem_permsOf, pairPerms, mem_sortStrings, List.mem_dedup, List.mem_map,
    List.mem_filter, decide_eq_true_eq]
  constructor
  · rintro ⟨other, m', same, rfl⟩
    exact ⟨other, ⟨m', (avcKey_inj (parsed other m') (parsed avc m)).mp same⟩, rfl⟩
  · rintro ⟨other, ⟨m', same⟩, rfl⟩
    exact ⟨other, m', (avcKey_inj (parsed other m') (parsed avc m)).mpr same, rfl⟩

theorem pairKey_keyPair {avc : SelinuxAvc} (parsed : ParsedAvc avc) :
    pairKey (keyPair (avcKey avc)) = avcKey avc := by
  rw [keyPair_avcKey parsed, avcKey_eq_pairKey]

/-- On parsed AVCs the policy is the header and the expected line of a pair for
each entry of a list of the observed pairs in ascending order of their keys,
every observed pair among them. -/
theorem formatSelinuxProfile_lines (cfg : Config) {usageCtx : Str} (usage : usageCtx ≠ [])
    {avcs : List SelinuxAvc} (parsed : ∀ avc ∈ avcs, ParsedAvc avc) :
    ∃ pairs : List (Str × Str), pairs.Sorted (fun x y => pairKey x ≤ pairKey y) ∧
      (∀ pair, pair ∈ pairs ↔ ∃ avc ∈ avcs, (avc.tclass, typeField avc) = pair) ∧
      formatSelinuxProfile cfg usageCtx avcs =
        .ok (policyHeader ++ (pairs.map (expectedLine cfg usageCtx avcs)).flatten) := by
  have keyed : ∀ key ∈ sortStrings (avcs.map avcKey), ∃ avc ∈ avcs, avcKey avc = key := by
    simp
  have rendered : ∀ key ∈ sortStrings (avcs.map avcKey),
      (AllowRule.render ∘ keyRule cfg usageCtx avcs) key = (expectedLine cfg usageCtx avcs ∘ keyPair) key := by
    intro key member
    obtain ⟨avc, m, rfl⟩ := keyed key member
    simp only [Function.comp, keyRule_avcKey cfg usageCtx avcs (parsed avc m), expectedLine,
      keyPair_avcKey (parsed avc m), setList_permsOf parsed m]
  refine ⟨(sortStrings (avcs.map avcKey)).map keyPair, ?_, ?_, ?_⟩
  · refine List.pairwise_map.mpr ((sortStrings_sorted _).imp_of_mem ?_)
    intro k₁ k₂ m₁ m₂ le
    obtain ⟨a₁, n₁, rfl⟩ := keyed k₁ m₁
    obtain ⟨a₂, n₂, rfl⟩ := keyed k₂ m₂
    rwa [pairKey_keyPair (parsed a₁ n₁), pairKey_keyPair (parsed a₂ n₂)]
  · intro pair
    simp only [List.mem_map, mem_sortStrings, exists_exists_and_eq_and]
    exact exists_congr fun avc => and_congr_right fun m => by rw [keyPair_avcKey (parsed avc m)]
  · rw [formatSelinuxProfile_parsed cfg usage parsed, List.map_map, List.map_congr_left rendered]

theorem formatSelinuxProfile_lines_scenario :
    "my_usage_t".toList ≠ [] ∧ (∀ avc ∈ scenarioAvcs, ParsedAvc avc) ∧
    ∃ pairs : List (Str × Str), pairs.Sorted (fun x y => pairKey x ≤ pairKey y) ∧
      (∀ pair, pair ∈ pairs ↔ ∃ avc ∈ scenarioAvcs, (avc.tclass, typeField avc) = pair) ∧
      formatSelinuxProfile scenarioConfig "my_usage_t".toList scenarioAvcs =
        .ok (policyHeader ++ (pairs.map (expectedLine scenarioConfig "my_usage_t".toList scenarioAvcs)).flatten) :=
  ⟨by decide, by decide, formatSelinuxProfile_lines scenarioConfig (by decide) (by decide)⟩

/-- An AVC whose class holds a space. -/
def spacedAvc : SelinuxAvc :=
  ⟨"search".toList, "system_u:system_r:container_t:s0".toList, "system_u:object_r:var_t:s0".toList,
    "dir entry".toList⟩

/-- The pairs of the scenario and `spacedAvc`, in strictly ascending order of their keys. -/
def scenarioPairs : List (Str × Str) :=
  [("dir entry".toList, "var_t".toList), ("file".toList, "bin_t".toList),
   ("file".toList, "selinuxrecording.process".toList)]

/-- On the scenario and `spacedAvc` the pair (`file`, `bin_t`), observed twice,
gets its line twice, and the spaced class is cut at its space, so no strictly
ascending list of the pairs renders the result. -/
theorem formatSelinuxProfile_repeats_line :
    ∃ (cfg : Config) (usageCtx : Str) (avcs : List SelinuxAvc) (pairs : List (Str × Str)),
      usageCtx ≠ [] ∧
      (∀ avc ∈ avcs, WellFormedContext avc.tcontext ∧ avc.tclass ≠ [] ∧ typeField avc ≠ []) ∧
      pairs.Sorted (fun x y => pairKey x < pairKey y) ∧
      (∀ pair, pair ∈ pairs ↔ ∃ avc ∈ avcs, (avc.tclass, typeField avc) = pair) ∧
      formatSelinuxProfile cfg usageCtx avcs ≠
        .ok (policyHeader ++ (pairs.map (expectedLine cfg usageCtx avcs)).flatten) := by
  have written : formatSelinuxProfile scenarioConfig "my_usage_t".toList (spacedAvc :: scenarioAvcs) =
      .ok ("(blockinherit container)\n(allow process entry ( dir ( search )))\n" ++
        "(allow process bin_t ( file ( execute read )))\n" ++
        "(allow process bin_t ( file ( execute read )))\n" ++
        "(allow process my_usage_t ( file ( write )))\n").toList :=
    rfl
  have covered : scenarioPairs.toFinset =
      ((spacedAvc :: scenarioAvcs).map fun avc => (avc.tclass, typeField avc)).toFinset := by
    decide
  refine ⟨scenarioConfig, "my_usage_t".toList, spacedAvc :: scenarioAvcs, scenarioPairs, by decide, by decide,
    by decide, fun pair => by simpa [eq_comm] using Finset.ext_iff.mp covered pair, ?_⟩
  rw [written]
  exact fun same => absurd (Except.ok.inj same) (by decide)

/-! ## The order of the AVC list does not matter -/

/-- `Format` reads a builder only through its sorted keys, its map and its usage context. -/
theorem format_congr (cfg : Config) {sb₁ sb₂ : SeProfileBuilder}
    (keys : sortStrings sb₁.keys = sortStrings sb₂.keys) (perms : sb₁.permMap = sb₂.permMap)
    (usage : sb₁.usageCtx = sb₂.usageCtx) : sb₁.format cfg = sb₂.format cfg := by
  simp only [SeProfileBuilder.format, SeProfileBuilder.writeLineFromKeyVal,
    SeProfileBuilder.targetClassCtx, keys, perms, usage]

/-- Two orders of the same AVCs give the same result, byte for byte, errors included. -/
theorem formatSelinuxProfile_perm (cfg : Config) (usageCtx : Str) {l₁ l₂ : List SelinuxAvc}
    (h : l₁.Perm l₂) :
    formatSelinuxProfile cfg usageCtx l₁ = formatSelinuxProfile cfg usageCtx l₂ := by
  have accepted : (∀ avc ∈ l₁, WellFormedContext avc.tcontext) ↔
      ∀ avc ∈ l₂, WellFormedContext avc.tcontext := by
    simp only [h.mem_iff]
  have built : (l₁.foldl SeProfileBuilder.record (newSeProfileBuilder usageCtx)).format cfg =
      (l₂.foldl SeProfileBuilder.record (newSeProfileBuilder usageCtx)).format cfg := format_congr cfg
    (by simpa only [keys_recordAll] using sortStrings_eq_of_perm ((h.map avcKey).append_left []))
    (funext fun key => by simp only [permMap_recordAll, h.mem_iff, permsOf_perm h])
    (by rw [usageCtx_recordAll, usageCtx_recordAll])
  simp only [formatSelinuxProfile, addAvcList_eq, accepted]
  split_ifs <;> simp only [wrap_ok, bind, Except.bind, built]

theorem formatSelinuxProfile_perm_reverse :
    scenarioAvcs.Perm scenarioAvcs.reverse ∧
    formatSelinuxProfile scenarioConfig "my_usage_t".toList scenarioAvcs =
      formatSelinuxProfile scenarioConfig "my_usage_t".toList scenarioAvcs.reverse :=
  ⟨(List.reverse_perm _).symm, formatSelinuxProfile_perm _ _ (List.reverse_perm _).symm⟩

end SpoRecorder.Guarantees.PolicyFormat
