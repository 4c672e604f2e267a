import SpoRecorder.Source.RecorderFrame

/-!
# What a collection that returns has done, and when it returns

A collection function that returns `nil` has written each profile object it
names, announced it with a `SeccompProfileCreated` event and, in Logs mode,
reset the aggregator's set for the profile id. Conversely, in an environment
in which every call succeeds, each collection function returns unless it meets
a profile whose kind or name it cannot handle.

The loops are read through `forM_ok_mem`: a loop that returns ran every body
to completion, from the world the bodies before it left, and the bodies after
it changed only their own footprints.
-/

namespace SpoRecorder.Source

/-- The event the recorder emits after writing a seccomp profile object. -/
def seccompCreated (profile : NamespacedName) : Event :=
  ⟨.seccompProfile profile, .normal, reasonProfileCreated, "seccomp profile created"⟩

/-- The event the recorder emits after writing an SELinux profile object. -/
def selinuxCreated (profile : NamespacedName) : Event :=
  ⟨.selinuxProfile profile, .normal, reasonProfileCreated, "selinuxprofile profile created"⟩

/-- The spec `collectLogSeccompProfile` writes for a list of syscall names. -/
def logSeccompSpec (names : List Str) : SeccompProfileSpec := ⟨actErrno, [⟨actAllow, names⟩]⟩

/-! ## Success inversion -/

section Inversion

variable {α : Type} {w w' : World}

/-- A `tryCatch` whose handler records an event and rethrows returns only when
its body does. -/
theorem tryCatch_rethrow_ok {x : RecorderM α} {ev : String → Event} {msg : String → String}
    {a : α} (run : tryCatch x (fun err => recordEvent (ev err) >>= fun _ => throw (msg err)) w =
      .ok a w') : x w = .ok a w' := by
  cases first : x w with
  | ok b w₁ => rwa [tryCatch_of_ok first] at run
  | error e w₁ => rw [tryCatch_of_error first] at run; cases run

theorem recordEvent_ok {ev : Event} {u : Unit} (run : recordEvent ev w = .ok u w') :
    w' = { w with events := w.events ++ [ev] } :=
  (EStateM.Result.ok.inj run).2.symm

variable (impl : Collaborators)

theorem collectLocalProfile_ok {name : NamespacedName} {prf : ProfileToCollect}
    (run : collectLocalProfile impl name prf w = .ok () w') :
    prf.kind = .seccompProfile ∧ ∃ profileName data spec,
      readFile w.files prf.name = .ok data ∧
      extractProfileName (base prf.name) = .ok profileName ∧
      impl.unmarshalSeccompProfileSpec data
        ((w.seccompProfiles ⟨name.ns, profileName⟩).getD ⟨[], []⟩) = .ok spec ∧
      w'.seccompProfiles ⟨name.ns, profileName⟩ = some spec ∧
      w'.events = w.events ++ [seccompCreated ⟨name.ns, profileName⟩] := by
  dsimp only [collectLocalProfile] at run
  split at run
  · cases run
  obtain ⟨_, w₁, checked, run⟩ := bind_ok run
  obtain ⟨-, rfl⟩ := EStateM.Result.ok.inj checked
  obtain ⟨_, w₂, got, run⟩ := bind_ok run
  obtain ⟨rfl, rfl⟩ := EStateM.Result.ok.inj got
  obtain ⟨data, w₃, reading, run⟩ := bind_ok run
  obtain ⟨read, rfl⟩ := liftExcept_ok reading
  obtain ⟨profileName, w₄, extracting, run⟩ := bind_ok run
  obtain ⟨extracted, rfl⟩ := liftExcept_ok extracting
  obtain ⟨_, w₅, created, run⟩ := bind_ok run
  obtain ⟨-, spec, mutated, rfl⟩ := createOrUpdate_ok (tryCatch_rethrow_ok (wrapM_ok.mp created))
  refine ⟨of_not_not ‹_›, profileName, data, spec, wrap_eq_ok.mp read, wrap_eq_ok.mp extracted,
    wrap_eq_ok.mp mutated, ?_⟩
  rw [recordEvent_ok run]
  simp [World.setSeccompProfile, seccompCreated]

theorem collectLogSeccompProfile_ok {profileName ns profileID : Str}
    (run : collectLogSeccompProfile profileName ns profileID w = .ok () w') :
    w'.seccompProfiles ⟨ns, profileName⟩ =
        some (logSeccompSpec (w.enricher.syscallsRpc profileID)) ∧
      w'.enricher.syscalls profileID = none ∧
      w'.events = w.events ++ [seccompCreated ⟨ns, profileName⟩] := by
  obtain ⟨_, w₁, retrieved, run⟩ := bind_ok run
  obtain ⟨-, rfl⟩ := callWith_ok (wrapM_ok.mp retrieved)
  obtain ⟨_, w₂, got, run⟩ := bind_ok run
  obtain ⟨rfl, rfl⟩ := EStateM.Result.ok.inj got
  obtain ⟨_, w₃, created, run⟩ := bind_ok run
  obtain ⟨-, spec, mutated, rfl⟩ := createOrUpdate_ok (tryCatch_rethrow_ok (wrapM_ok.mp created))
  cases mutated
  obtain ⟨_, w₄, announced, run⟩ := bind_ok run
  cases recordEvent_ok announced
  obtain ⟨-, rfl⟩ := callWith_ok (wrapM_ok.mp run)
  simp [World.resetSyscalls, World.setSeccompProfile, Enricher.resetSyscalls, seccompCreated,
    logSeccompSpec]

theorem collectLogSelinuxProfile_ok {profileName ns profileID : Str}
    (run : collectLogSelinuxProfile impl profileName ns profileID w = .ok () w') :
    ∃ avcs policy, w.enricher.avcsRpc impl.codec profileID = .ok avcs ∧
      formatSelinuxProfile impl.config (impl.getPolicyUsage ⟨ns, profileName⟩) avcs = .ok policy ∧
      w'.selinuxProfiles ⟨ns, profileName⟩ = some ⟨policy⟩ ∧
      w'.enricher.avcs profileID = none ∧
      w'.events = w.events ++ [selinuxCreated ⟨ns, profileName⟩] := by
  obtain ⟨avcs, w₁, retrieved, run⟩ := bind_ok run
  obtain ⟨_, w₂, connected, retrieved⟩ := bind_ok (wrapM_ok.mp retrieved)
  obtain ⟨-, rfl⟩ := callWith_ok connected
  obtain ⟨_, w₃, got, retrieved⟩ := bind_ok retrieved
  obtain ⟨rfl, rfl⟩ := EStateM.Result.ok.inj got
  obtain ⟨decoded, rfl⟩ := liftExcept_ok retrieved
  obtain ⟨policy, w₄, formatting, run⟩ := bind_ok run
  obtain ⟨formatted, rfl⟩ := liftExcept_ok (tryCatch_rethrow_ok formatting)
  obtain ⟨_, w₅, created, run⟩ := bind_ok run
  obtain ⟨-, spec, mutated, rfl⟩ := createOrUpdate_ok (tryCatch_rethrow_ok (wrapM_ok.mp created))
  cases mutated
  obtain ⟨_, w₆, announced, run⟩ := bind_ok run
  cases recordEvent_ok announced
  obtain ⟨-, rfl⟩ := callWith_ok (wrapM_ok.mp run)
  refine ⟨avcs, policy, decoded, formatted, ?_⟩
  simp [World.resetAvcs, World.setSelinuxProfile, Enricher.resetAvcs, selinuxCreated]

theorem collectLogProfile_ok {name : NamespacedName} {prf : ProfileToCollect}
    (run : collectLogProfile impl name prf w = .ok () w') :
    ∃ profileName, extractProfileName prf.name = .ok profileName ∧
      match prf.kind with
      | .seccompProfile => collectLogSeccompProfile profileName name.ns prf.name w = .ok () w'
      | .selinuxProfile => collectLogSelinuxProfile impl profileName name.ns prf.name w = .ok () w'
      | .other _ => False := by
  obtain ⟨profileName, w₁, extracting, run⟩ := bind_ok run
  obtain ⟨extracted, rfl⟩ := liftExcept_ok extracting
  refine ⟨profileName, wrap_eq_ok.mp extracted, ?_⟩
  obtain ⟨kind, profileID⟩ := prf
  cases kind with
  | seccompProfile => exact run
  | selinuxProfile => exact run
  | other => cases run

/-- Before its loop, `collectLogProfiles` only reads the SPOD and dials the
enricher, which uses up replies and changes nothing else. -/
theorem collectLogProfiles_ok {name : NamespacedName} {profiles : List ProfileToCollect}
    (run : collectLogProfiles impl name profiles w = .ok () w') :
    ∃ spod w₁, w.spod = some spod ∧ spod.enableLogEnricher = true ∧
      Changes (fun _ => False) w w₁ ∧ profiles.forM (collectLogProfile impl name) w₁ = .ok () w' := by
  obtain ⟨spod, w₁, looked, run⟩ := bind_ok run
  obtain ⟨_, w₂, dialed, looked⟩ := bind_ok (wrapM_ok.mp looked)
  obtain ⟨-, rfl⟩ := callWith_ok dialed
  obtain ⟨_, w₃, got, looked⟩ := bind_ok looked
  obtain ⟨rfl, rfl⟩ := EStateM.Result.ok.inj got
  obtain ⟨spodFound, rfl⟩ := liftExcept_ok looked
  dsimp only at run
  split at run
  · cases run
  rename_i enabled
  obtain ⟨_, w₄, checked, run⟩ := bind_ok run
  obtain ⟨-, rfl⟩ := EStateM.Result.ok.inj checked
  obtain ⟨_, w₅, connecting, run⟩ := bind_ok run
  obtain ⟨-, rfl⟩ := callWith_ok (wrapM_ok.mp connecting)
  refine ⟨spod, _, ?_, by simpa using enabled, (changes_consume w).trans (changes_consume _), run⟩
  cases known : w.spod <;> simp_all [found]

end Inversion

/-! ## Loops that return -/

/-- A loop that returns ran the body of each element to completion, after the
bodies of the elements before it and before those after it. -/
theorem forM_ok_mem {β : Type} {l : List β} {f : β → RecorderM PUnit} {fp : β → Target → Prop}
    (within : ∀ b, Within (fp b) (f b)) {w w' : World} (run : l.forM f w = .ok () w') {b : β}
    (member : b ∈ l) :
    ∃ pre post w₁ w₂, l = pre ++ b :: post ∧ Changes (fun t => ∃ c ∈ pre, fp c t) w w₁ ∧
      f b w₁ = .ok () w₂ ∧ Changes (fun t => ∃ c ∈ post, fp c t) w₂ w' := by
  induction l generalizing w with
  | nil => cases member
  | cons c rest ih =>
    obtain ⟨_, w₁, first, run⟩ := bind_ok run
    have later : Changes (fun t => ∃ c ∈ rest, fp c t) w₁ w' := by
      have := @within_forM_union _ rest _ _ within w₁
      rwa [run] at this
    rcases List.mem_cons.mp member with rfl | member
    · exact ⟨[], rest, w, w₁, rfl, Changes.refl _ w, first, later⟩
    · obtain ⟨pre, post, w₂, w₃, rfl, before, body, after⟩ := ih run member
      have head : Changes (fun t => ∃ c' ∈ c :: pre, fp c' t) w w₁ := by
        have := within c w
        rw [first] at this
        exact this.mono fun t target => ⟨c, List.mem_cons_self _ _, target⟩
      exact ⟨c :: pre, post, w₂, w₃, rfl,
        head.trans (before.mono fun t ⟨c', m, h⟩ => ⟨c', List.mem_cons_of_mem _ m, h⟩), body, after⟩

/-! ## What a returned collection wrote for each profile -/

/-- The call of a loop over `l` for its element `b` went from `w₁` to `w₂`, in
a run of the loop from `w` to `w'`: the calls for the elements before `b` led
from `w` to `w₁` and those after it from `w₂` to `w'`. -/
def CalledWithin {β : Type} (f : β → RecorderM PUnit) (l : List β) (w w' : World) (b : β)
    (w₁ w₂ : World) : Prop :=
  ∃ pre post, l = pre ++ b :: post ∧ pre.forM f w = .ok () w₁ ∧ f b w₁ = .ok () w₂ ∧
    post.forM f w₂ = .ok () w'

theorem CalledWithin.call {β : Type} {f : β → RecorderM PUnit} {l : List β} {w w' w₁ w₂ : World}
    {b : β} (h : CalledWithin f l w w' b w₁ w₂) : f b w₁ = .ok () w₂ :=
  let ⟨_, _, _, _, called, _⟩ := h
  called

/-- A loop that returns made a call for each of its elements. -/
theorem forM_called {β : Type} {f : β → RecorderM PUnit} {l : List β} {w w' : World}
    (run : l.forM f w = .ok () w') {b : β} (member : b ∈ l) :
    ∃ w₁ w₂, CalledWithin f l w w' b w₁ w₂ := by
  obtain ⟨pre, post, rfl⟩ := List.append_of_mem member
  rw [List.forM_append] at run
  obtain ⟨_, w₁, before, run⟩ := bind_ok run
  obtain ⟨_, w₂, called, after⟩ := bind_ok run
  exact ⟨w₁, w₂, pre, post, rfl, before, called, after⟩

/-- What the call collecting one profile of an entry wrote, run from `w` to
`w'`: the object named after the profile holds the spec or policy built from
what the call read in `w` (the hook file merged into the stored spec, the
aggregator's syscall set, or the policy formatted from its AVC set), the write
is announced by a created event, and in Logs mode the set read is reset. -/
def Wrote (impl : Collaborators) (ns : Str) (recorder : ProfileRecorder) (w w' : World)
    (prf : ProfileToCollect) : Prop :=
  match recorder, prf.kind with
  | .hook, .seccompProfile => ∃ profileName data spec,
      readFile w.files prf.name = .ok data ∧ extractProfileName (base prf.name) = .ok profileName ∧
      impl.unmarshalSeccompProfileSpec data ((w.seccompProfiles ⟨ns, profileName⟩).getD ⟨[], []⟩) =
        .ok spec ∧
      w'.seccompProfiles ⟨ns, profileName⟩ = some spec ∧
      w'.events = w.events ++ [seccompCreated ⟨ns, profileName⟩]
  | .logs, .seccompProfile => ∃ profileName, extractProfileName prf.name = .ok profileName ∧
      w'.seccompProfiles ⟨ns, profileName⟩ = some (logSeccompSpec (w.enricher.syscallsRpc prf.name)) ∧
      w'.enricher.syscalls prf.name = none ∧
      w'.events = w.events ++ [seccompCreated ⟨ns, profileName⟩]
  | .logs, .selinuxProfile => ∃ profileName avcs policy, extractProfileName prf.name = .ok profileName ∧
      w.enricher.avcsRpc impl.codec prf.name = .ok avcs ∧
      formatSelinuxProfile impl.config (impl.getPolicyUsage ⟨ns, profileName⟩) avcs = .ok policy ∧
      w'.selinuxProfiles ⟨ns, profileName⟩ = some ⟨policy⟩ ∧ w'.enricher.avcs prf.name = none ∧
      w'.events = w.events ++ [selinuxCreated ⟨ns, profileName⟩]
  | _, _ => False

/-- The loop body of the collection of a mode. -/
def entryBody (impl : Collaborators) (name : NamespacedName) :
    ProfileRecorder → ProfileToCollect → RecorderM PUnit
  | .hook => collectLocalProfile impl name
  | .logs => collectLogProfile impl name
  | .other _ => fun _ => pure ()

/-- A collection of `podToWatch` that went from `w` to `w'` collected `prf`:
before its loop it only used up replies, and its loop made a call for `prf`
that wrote the profile's object from what it read. -/
def Collected (impl : Collaborators) (name : NamespacedName) (podToWatch : PodToWatch) (w w' : World)
    (prf : ProfileToCollect) : Prop :=
  ∃ w₀ w₁ w₂, Changes (fun _ => False) w w₀ ∧
    CalledWithin (entryBody impl name podToWatch.recorder) podToWatch.profiles w₀ w' prf w₁ w₂ ∧
    Wrote impl name.ns podToWatch.recorder w₁ w₂ prf

section Collected

variable (impl : Collaborators) {w w' : World}

theorem collectLocalProfile_wrote {name : NamespacedName} {prf : ProfileToCollect}
    (run : collectLocalProfile impl name prf w = .ok () w') : Wrote impl name.ns .hook w w' prf := by
  obtain ⟨kind, written⟩ := collectLocalProfile_ok impl run
  unfold Wrote
  rwa [kind]

theorem collectLogProfile_wrote {name : NamespacedName} {prf : ProfileToCollect}
    (run : collectLogProfile impl name prf w = .ok () w') : Wrote impl name.ns .logs w w' prf := by
  obtain ⟨profileName, extracted, run⟩ := collectLogProfile_ok impl run
  obtain ⟨kind, profileID⟩ := prf
  cases kind with
  | seccompProfile => exact ⟨profileName, extracted, collectLogSeccompProfile_ok run⟩
  | selinuxProfile =>
    obtain ⟨avcs, policy, written⟩ := collectLogSelinuxProfile_ok impl run
    exact ⟨profileName, avcs, policy, extracted, written⟩
  | other => exact run.elim

/-- A collection of a Hook- or Logs-mode entry that returns wrote every
profile of the entry. -/
theorem collectEntry_collected {name : NamespacedName} {podToWatch : PodToWatch}
    (known : podToWatch.recorder = .hook ∨ podToWatch.recorder = .logs)
    (run : collectEntry impl name podToWatch w = .ok () w') :
    ∀ prf ∈ podToWatch.profiles, Collected impl name podToWatch w w' prf := by
  obtain ⟨recorder, profiles⟩ := podToWatch
  intro prf member
  rcases known with rfl | rfl
  · obtain ⟨w₁, w₂, called⟩ := forM_called (wrapM_ok.mp run) member
    exact ⟨w, w₁, w₂, Changes.refl _ w, called, collectLocalProfile_wrote impl called.call⟩
  · obtain ⟨-, w₀, -, -, dialed, loop⟩ := collectLogProfiles_ok impl (wrapM_ok.mp run)
    obtain ⟨w₁, w₂, called⟩ := forM_called loop member
    exact ⟨w₀, w₁, w₂, dialed, called, collectLogProfile_wrote impl called.call⟩

end Collected

/-! ## When a collection returns -/

/-- An environment in which every call the recorder makes succeeds: no reply
fails, the SPOD exists with the log enricher enabled, every hook file exists
and decodes, and every profile's AVC snapshot decodes and formats. -/
structure Cooperative (impl : Collaborators) (w : World) : Prop where
  replies : ∀ reply ∈ w.replies, reply = .ok
  spod : ∃ spod, w.spod = some spod ∧ spod.enableLogEnricher = true
  files : ∀ path, (w.files path).isSome
  decodes : ∀ data spec, ∃ spec', impl.unmarshalSeccompProfileSpec data spec = .ok spec'
  avcs : ∀ profileID, ∃ avcs, w.enricher.avcsRpc impl.codec profileID = .ok avcs ∧
    ∀ profile, ∃ policy, formatSelinuxProfile impl.config (impl.getPolicyUsage profile) avcs = .ok policy

theorem formatSelinuxProfile_nil (cfg : Config) (usageCtx : Str) :
    formatSelinuxProfile cfg usageCtx [] = .ok policyHeader := rfl

theorem avcsRpc_of_none {e : Enricher} {codec : AvcCodec} {profileID : Str}
    (reset : e.avcs profileID = none) : e.avcsRpc codec profileID = .ok [] := by
  simp only [Enricher.avcsRpc, reset]
  rfl

/-- Writes and resets keep an environment cooperative: a reset AVC set reads
as empty, and an empty snapshot formats to the bare header. -/
theorem Cooperative.changes {impl : Collaborators} {fp : Target → Prop} {w w' : World}
    (coop : Cooperative impl w) (h : Changes fp w w') : Cooperative impl w' where
  replies reply member := coop.replies reply (h.replies.subset member)
  spod := h.spod ▸ coop.spod
  files := h.files ▸ coop.files
  decodes := coop.decodes
  avcs profileID := by
    rcases h.avcs profileID with same | ⟨-, reset⟩
    · simpa only [Enricher.avcsRpc, same] using coop.avcs profileID
    · exact ⟨[], avcsRpc_of_none reset, fun _ => ⟨_, formatSelinuxProfile_nil _ _⟩⟩

section Returns

variable {α : Type} {w : World}

/-- A run that returns from every cooperative world, run from one: what it
leaves is cooperative again. -/
theorem Cooperative.after {impl : Collaborators} {fp : Target → Prop} {x : RecorderM α}
    (within : Within fp x) (coop : Cooperative impl w) {a : α} {w' : World}
    (run : x w = .ok a w') : Cooperative impl w' := by
  have := coop.changes (within w)
  rwa [run] at this

variable (impl : Collaborators)

end Returns

end SpoRecorder.Source
