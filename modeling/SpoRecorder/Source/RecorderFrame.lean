import SpoRecorder.Source.Recorder

/-!
# What a recorder call changes

The run lemmas of the `RecorderM` combinators the recorder uses, and a frame
for collection: `Changes fp w w'` says that `w'` is `w` after writes to the
profile objects and resets of the aggregator sets that the footprint `fp`
names, with events appended and replies consumed. `Within fp x` says that
every run of `x` changes only that, whether it returns or fails. Each
collection function gets its footprint here, derived from the combinators'
closure lemmas and never from unfolding a caller.
-/

namespace SpoRecorder.Source

/-- `w` with its next reply used up. -/
def World.consume (w : World) : World := { w with replies := w.replies.tail }

/-! ## Running the combinators -/

section Run

variable {α β : Type} {w w' : World}

theorem bind_of_ok {x : RecorderM α} {f : α → RecorderM β} {a : α} {w₁ : World}
    (first : x w = .ok a w₁) : (x >>= f) w = f a w₁ := by
  show EStateM.bind x f w = _
  simp only [EStateM.bind, first]

theorem bind_of_error {x : RecorderM α} {f : α → RecorderM β} {e : String} {w₁ : World}
    (first : x w = .error e w₁) : (x >>= f) w = .error e w₁ := by
  show EStateM.bind x f w = _
  simp only [EStateM.bind, first]

theorem bind_ok {x : RecorderM α} {f : α → RecorderM β} {b : β}
    (run : (x >>= f) w = .ok b w') : ∃ a w₁, x w = .ok a w₁ ∧ f a w₁ = .ok b w' := by
  cases first : x w with
  | ok a w₁ => exact ⟨a, w₁, rfl, by rwa [bind_of_ok first] at run⟩
  | error e w₁ => rw [bind_of_error first] at run; cases run

/-- A bind ends where its first step failed, or where its continuation ends. -/
theorem bind_cases {x : RecorderM α} {f : α → RecorderM β} {r : EStateM.Result String World β}
    (run : (x >>= f) w = r) :
    (∃ e w₁, x w = .error e w₁ ∧ r = .error e w₁) ∨ ∃ a w₁, x w = .ok a w₁ ∧ f a w₁ = r := by
  cases first : x w with
  | ok a w₁ => exact .inr ⟨a, w₁, rfl, (bind_of_ok first).symm.trans run⟩
  | error e w₁ => exact .inl ⟨e, w₁, rfl, run.symm.trans (bind_of_error first)⟩

theorem tryCatch_of_ok {x : RecorderM α} {handle : String → RecorderM α} {a : α} {w₁ : World}
    (first : x w = .ok a w₁) : tryCatch x handle w = .ok a w₁ := by
  show EStateM.tryCatch x handle w = _
  simp only [EStateM.tryCatch, first]

theorem tryCatch_of_error {x : RecorderM α} {handle : String → RecorderM α} {e : String}
    {w₁ : World} (first : x w = .error e w₁) : tryCatch x handle w = handle e w₁ := by
  show EStateM.tryCatch x handle w = _
  simp only [EStateM.tryCatch, first]
  rfl

theorem pure_run (a : α) (w : World) : (pure a : RecorderM α) w = .ok a w := rfl

theorem get_run (w : World) : (get : RecorderM World) w = .ok w w := rfl

theorem recordEvent_run (ev : Event) (w : World) :
    recordEvent ev w = .ok () { w with events := w.events ++ [ev] } := rfl

theorem wrapM_run (msg : String) (x : RecorderM α) (w : World) :
    wrapM msg x w = match x w with
      | .ok a w' => .ok a w'
      | .error e w' => .error (msg ++ ": " ++ e) w' := rfl

@[simp] theorem state_wrapM (msg : String) (x : RecorderM α) (w : World) :
    stateOf (wrapM msg x w) = (stateOf (x w)) := by
  rw [wrapM_run]; cases x w <;> rfl

theorem wrapM_ok {msg : String} {x : RecorderM α} {a : α} :
    wrapM msg x w = .ok a w' ↔ x w = .ok a w' := by
  rw [wrapM_run]; cases x w <;> simp

theorem nextReply_run (w : World) : nextReply w = .ok (w.replies.headD .ok) w.consume := by
  obtain ⟨_, _, _, _, _, _, _, _ | ⟨_, _⟩⟩ := w <;> rfl

theorem callWith_run (effect : World → World) (w : World) :
    callWith effect w = match w.replies.headD .ok with
      | .ok => .ok () (effect w.consume)
      | .failed err => .error err w.consume
      | .lost err => .error err (effect w.consume) := by
  show (nextReply >>= _) w = _
  rw [bind_of_ok (nextReply_run w)]
  cases w.replies.headD .ok <;> rfl

theorem wrapM_callWith_run (msg : String) (effect : World → World) (w : World) :
    wrapM msg (callWith effect) w = match w.replies.headD .ok with
      | .ok => .ok () (effect w.consume)
      | .failed err => .error (msg ++ ": " ++ err) w.consume
      | .lost err => .error (msg ++ ": " ++ err) (effect w.consume) := by
  rw [wrapM_run, callWith_run]
  cases w.replies.headD .ok <;> rfl

theorem callWith_ok {effect : World → World} (run : callWith effect w = .ok () w') :
    w.replies.headD .ok = .ok ∧ w' = effect w.consume := by
  rw [callWith_run] at run
  split at run <;> first | exact ⟨‹_›, (EStateM.Result.ok.inj run).2.symm⟩ | cases run

theorem liftExcept_ok {r : Except String α} {a : α} (run : liftExcept r w = .ok a w') :
    r = .ok a ∧ w = w' := by
  cases r <;> cases run
  exact ⟨rfl, rfl⟩

/-- A `CreateOrUpdate` that returns: its reply was `ok`, `mutate` accepted the
stored spec (or the initial one), and the write landed. -/
theorem createOrUpdate_ok {S : Type} {read : World → Option S} {write : S → World → World}
    {initial : S} {mutate : S → Except String S}
    (run : createOrUpdate read write initial mutate w = .ok () w') :
    w.replies.headD .ok = .ok ∧
      ∃ spec, mutate ((read w.consume).getD initial) = .ok spec ∧ w' = write spec w.consume := by
  unfold createOrUpdate at run
  obtain ⟨reply, w₁, next, run⟩ := bind_ok run
  obtain ⟨rfl, rfl⟩ := EStateM.Result.ok.inj ((nextReply_run w).symm.trans next)
  cases answer : w.replies.headD .ok with
  | failed err => rw [answer] at run; cases run
  | ok | lost err =>
    rw [answer] at run
    obtain ⟨w₂, w₃, got, run⟩ := bind_ok run
    obtain ⟨rfl, rfl⟩ := EStateM.Result.ok.inj got
    obtain ⟨spec, w₄, lifted, run⟩ := bind_ok run
    obtain ⟨mutated, rfl⟩ := liftExcept_ok lifted
    obtain ⟨_, w₅, written, run⟩ := bind_ok run
    obtain ⟨-, rfl⟩ := EStateM.Result.ok.inj written
    first | exact ⟨rfl, spec, mutated, (EStateM.Result.ok.inj run).2.symm⟩ | cases run

end Run

@[simp] theorem consume_podsToWatch (w : World) : w.consume.podsToWatch = w.podsToWatch := rfl
@[simp] theorem consume_enricher (w : World) : w.consume.enricher = w.enricher := rfl
@[simp] theorem consume_seccompProfiles (w : World) :
    w.consume.seccompProfiles = w.seccompProfiles := rfl
@[simp] theorem consume_selinuxProfiles (w : World) :
    w.consume.selinuxProfiles = w.selinuxProfiles := rfl
@[simp] theorem consume_spod (w : World) : w.consume.spod = w.spod := rfl
@[simp] theorem consume_files (w : World) : w.consume.files = w.files := rfl
@[simp] theorem consume_events (w : World) : w.consume.events = w.events := rfl
@[simp] theorem consume_replies (w : World) : w.consume.replies = w.replies.tail := rfl

/-! ## Footprints -/

/-- What a collection call may change: a profile object of one kind, or one of
the aggregator's per-profile sets, which the recorder can only reset. -/
inductive Target
  | seccompProfile (key : NamespacedName)
  | selinuxProfile (key : NamespacedName)
  | syscalls (profileID : Str)
  | avcs (profileID : Str)

/-- `w'` is `w` after writes to the objects and resets of the sets that `fp`
names: a written object stays, a reset set is gone, events are only appended,
replies only consumed, and nothing else moves. -/
structure Changes (fp : Target → Prop) (w w' : World) : Prop where
  podsToWatch : w'.podsToWatch = w.podsToWatch
  files : w'.files = w.files
  spod : w'.spod = w.spod
  metrics : w'.enricher.metrics = w.enricher.metrics
  seccompProfiles : ∀ key, w'.seccompProfiles key = w.seccompProfiles key ∨
    fp (.seccompProfile key) ∧ (w'.seccompProfiles key).isSome
  selinuxProfiles : ∀ key, w'.selinuxProfiles key = w.selinuxProfiles key ∨
    fp (.selinuxProfile key) ∧ (w'.selinuxProfiles key).isSome
  syscalls : ∀ p, w'.enricher.syscalls p = w.enricher.syscalls p ∨
    fp (.syscalls p) ∧ w'.enricher.syscalls p = none
  avcs : ∀ p, w'.enricher.avcs p = w.enricher.avcs p ∨
    fp (.avcs p) ∧ w'.enricher.avcs p = none
  events : w.events <+: w'.events
  replies : w'.replies <:+ w.replies

namespace Changes

variable {fp fp' : Target → Prop} {w w₁ w₂ : World}

theorem refl (fp : Target → Prop) (w : World) : Changes fp w w :=
  ⟨rfl, rfl, rfl, rfl, fun _ => .inl rfl, fun _ => .inl rfl, fun _ => .inl rfl, fun _ => .inl rfl,
    List.prefix_refl _, List.suffix_refl _⟩

/-- One field's law composes: unchanged, or targeted and in its final form. -/
private theorem field_trans {κ β : Type} {f₀ f₁ f₂ : κ → β} {allowed : κ → Prop}
    (final : β → Prop) (h₁ : ∀ k, f₁ k = f₀ k ∨ allowed k ∧ final (f₁ k))
    (h₂ : ∀ k, f₂ k = f₁ k ∨ allowed k ∧ final (f₂ k)) :
    ∀ k, f₂ k = f₀ k ∨ allowed k ∧ final (f₂ k) := fun k => by
  rcases h₂ k with same | moved
  · rw [same]; exact h₁ k
  · exact .inr moved

theorem trans (h₁ : Changes fp w w₁) (h₂ : Changes fp w₁ w₂) : Changes fp w w₂ where
  podsToWatch := h₂.podsToWatch.trans h₁.podsToWatch
  files := h₂.files.trans h₁.files
  spod := h₂.spod.trans h₁.spod
  metrics := h₂.metrics.trans h₁.metrics
  seccompProfiles := field_trans (fun s : Option SeccompProfileSpec => s.isSome) h₁.seccompProfiles h₂.seccompProfiles
  selinuxProfiles := field_trans (fun s : Option SelinuxProfileSpec => s.isSome) h₁.selinuxProfiles h₂.selinuxProfiles
  syscalls := field_trans (· = none) h₁.syscalls h₂.syscalls
  avcs := field_trans (· = none) h₁.avcs h₂.avcs
  events := h₁.events.trans h₂.events
  replies := h₂.replies.trans h₁.replies

theorem mono (h : Changes fp w w₁) (le : ∀ t, fp t → fp' t) : Changes fp' w w₁ where
  __ := h
  seccompProfiles key := (h.seccompProfiles key).imp_right (And.imp_left (le _))
  selinuxProfiles key := (h.selinuxProfiles key).imp_right (And.imp_left (le _))
  syscalls p := (h.syscalls p).imp_right (And.imp_left (le _))
  avcs p := (h.avcs p).imp_right (And.imp_left (le _))

/-- The law does not read `podsToWatch` beyond its equality. -/
theorem retrack (h : Changes fp w w₁) (tracking : Str → Option PodToWatch) :
    Changes fp { w with podsToWatch := tracking } { w₁ with podsToWatch := tracking } :=
  { h with podsToWatch := rfl }

theorem seccompProfile_isSome (h : Changes fp w w₁) {key : NamespacedName}
    (before : (w.seccompProfiles key).isSome) : (w₁.seccompProfiles key).isSome := by
  rcases h.seccompProfiles key with same | ⟨-, written⟩
  · rwa [same]
  · exact written

theorem selinuxProfile_isSome (h : Changes fp w w₁) {key : NamespacedName}
    (before : (w.selinuxProfiles key).isSome) : (w₁.selinuxProfiles key).isSome := by
  rcases h.selinuxProfiles key with same | ⟨-, written⟩
  · rwa [same]
  · exact written

theorem syscalls_none (h : Changes fp w w₁) {p : Str} (before : w.enricher.syscalls p = none) :
    w₁.enricher.syscalls p = none :=
  (h.syscalls p).elim (·.trans before) And.right

theorem avcs_none (h : Changes fp w w₁) {p : Str} (before : w.enricher.avcs p = none) :
    w₁.enricher.avcs p = none :=
  (h.avcs p).elim (·.trans before) And.right

theorem seccompProfile_frame (h : Changes fp w w₁) {key : NamespacedName}
    (out : ¬ fp (.seccompProfile key)) : w₁.seccompProfiles key = w.seccompProfiles key :=
  (h.seccompProfiles key).resolve_right (out ·.1)

theorem syscalls_frame (h : Changes fp w w₁) {p : Str} (out : ¬ fp (.syscalls p)) :
    w₁.enricher.syscalls p = w.enricher.syscalls p :=
  (h.syscalls p).resolve_right (out ·.1)

theorem avcs_frame (h : Changes fp w w₁) {p : Str} (out : ¬ fp (.avcs p)) :
    w₁.enricher.avcs p = w.enricher.avcs p :=
  (h.avcs p).resolve_right (out ·.1)

/-- A footprint that names no aggregator set leaves the enricher as it was. -/
theorem enricher_frame (h : Changes fp w w₁) (out : ∀ p, ¬ fp (.syscalls p) ∧ ¬ fp (.avcs p)) :
    w₁.enricher = w.enricher :=
  Enricher.ext (funext fun _ => h.syscalls_frame (out _).1) (funext fun _ => h.avcs_frame (out _).2) h.metrics

end Changes

section Effects

variable {fp : Target → Prop} (w : World)

theorem changes_consume : Changes fp w w.consume :=
  { Changes.refl fp w with replies := List.tail_suffix _ }

theorem changes_setSeccompProfile {key : NamespacedName} (spec : SeccompProfileSpec)
    (allowed : fp (.seccompProfile key)) : Changes fp w (w.setSeccompProfile key spec) :=
  { Changes.refl fp w with
    seccompProfiles := fun k => by
      by_cases same : k = key
      · subst same; exact .inr ⟨allowed, by simp [World.setSeccompProfile]⟩
      · exact .inl (Function.update_noteq same _ _) }

theorem changes_setSelinuxProfile {key : NamespacedName} (spec : SelinuxProfileSpec)
    (allowed : fp (.selinuxProfile key)) : Changes fp w (w.setSelinuxProfile key spec) :=
  { Changes.refl fp w with
    selinuxProfiles := fun k => by
      by_cases same : k = key
      · subst same; exact .inr ⟨allowed, by simp [World.setSelinuxProfile]⟩
      · exact .inl (Function.update_noteq same _ _) }

theorem changes_resetSyscalls {p : Str} (allowed : fp (.syscalls p)) :
    Changes fp w (w.resetSyscalls p) :=
  { Changes.refl fp w with
    syscalls := fun q => by
      by_cases same : q = p
      · subst same
        exact .inr ⟨allowed, by simp [World.resetSyscalls, Enricher.resetSyscalls]⟩
      · exact .inl (Function.update_noteq same _ _) }

theorem changes_resetAvcs {p : Str} (allowed : fp (.avcs p)) : Changes fp w (w.resetAvcs p) :=
  { Changes.refl fp w with
    avcs := fun q => by
      by_cases same : q = p
      · subst same
        exact .inr ⟨allowed, by simp [World.resetAvcs, Enricher.resetAvcs]⟩
      · exact .inl (Function.update_noteq same _ _) }

theorem changes_recordEvent (ev : Event) : Changes fp w { w with events := w.events ++ [ev] } :=
  { Changes.refl fp w with events := List.prefix_append _ _ }

end Effects

/-! ## Calls that stay within a footprint -/

/-- Every run of `x`, returning or failing, changes only what `fp` names. -/
def Within (fp : Target → Prop) {α : Type} (x : RecorderM α) : Prop :=
  ∀ w, Changes fp w (stateOf (x w))

section Within

variable {fp : Target → Prop} {α β : Type}

theorem within_pure (a : α) : Within fp (pure a) := Changes.refl fp

theorem within_throw (e : String) : Within fp (throw e : RecorderM α) := Changes.refl fp

theorem within_get : Within fp get := Changes.refl fp

theorem within_liftExcept (r : Except String α) : Within fp (liftExcept r) := fun w => by
  cases r <;> exact Changes.refl fp w

theorem within_recordEvent (ev : Event) : Within fp (recordEvent ev) := fun w =>
  changes_recordEvent w ev

theorem within_bind {x : RecorderM α} {f : α → RecorderM β} (hx : Within fp x)
    (hf : ∀ a, Within fp (f a)) : Within fp (x >>= f) := fun w => by
  have first := hx w
  cases run : x w with
  | ok a w₁ =>
    rw [run] at first
    rw [bind_of_ok run]
    exact first.trans (hf a w₁)
  | error e w₁ =>
    rw [run] at first
    rwa [bind_of_error run]

/-- A bind on a lifted result only continues with the value it holds. -/
theorem within_liftExcept_bind {r : Except String α} {f : α → RecorderM β}
    (hf : ∀ a, r = .ok a → Within fp (f a)) : Within fp (liftExcept r >>= f) := by
  cases r with
  | error e => exact Changes.refl fp
  | ok a => exact hf a rfl

/-- A bind on a thrown error never runs its continuation. -/
theorem within_throw_bind (e : String) (f : α → RecorderM β) : Within fp (throw e >>= f) :=
  Changes.refl fp

theorem within_wrapM (msg : String) {x : RecorderM α} (hx : Within fp x) :
    Within fp (wrapM msg x) := fun w => by
  rw [state_wrapM]; exact hx w

theorem within_tryCatch {x : RecorderM α} {handle : String → RecorderM α} (hx : Within fp x)
    (hh : ∀ e, Within fp (handle e)) : Within fp (tryCatch x handle) := fun w => by
  have first := hx w
  cases run : x w with
  | ok a w₁ =>
    rw [run] at first
    rwa [tryCatch_of_ok run]
  | error e w₁ =>
    rw [run] at first
    rw [tryCatch_of_error run]
    exact first.trans (hh e w₁)

theorem within_nextReply : Within fp nextReply := fun w => by
  rw [nextReply_run]; exact changes_consume w

theorem within_callWith {effect : World → World} (h : ∀ w, Changes fp w (effect w)) :
    Within fp (callWith effect) := fun w => by
  rw [callWith_run]
  split
  · exact (changes_consume w).trans (h _)
  · exact changes_consume w
  · exact (changes_consume w).trans (h _)

theorem within_createOrUpdate {S : Type} {read : World → Option S} {write : S → World → World}
    {initial : S} {mutate : S → Except String S} (h : ∀ spec w, Changes fp w (write spec w)) :
    Within fp (createOrUpdate read write initial mutate) := by
  refine within_bind within_nextReply fun reply => ?_
  split
  · exact within_throw _
  · refine within_bind within_get fun _ => within_bind (within_liftExcept _) fun spec =>
      within_bind (h spec) fun _ => ?_
    split
    · exact within_throw _
    · exact within_pure _

theorem within_forM {l : List β} {f : β → RecorderM PUnit} (h : ∀ b ∈ l, Within fp (f b)) :
    Within fp (l.forM f) := by
  induction l with
  | nil => exact within_pure _
  | cons b rest ih =>
    exact within_bind (h b (List.mem_cons_self _ _)) fun _ =>
      ih fun c member => h c (List.mem_cons_of_mem _ member)

theorem Within.mono {fp' : Target → Prop} {x : RecorderM α} (hx : Within fp x)
    (le : ∀ t, fp t → fp' t) : Within fp' x := fun w =>
  (hx w).mono le

end Within

/-! ## The collection functions' footprints -/

/-- What collecting a hook profile may write: the seccomp object named after
the file's base name. -/
def hookTargets (ns : Str) (prf : ProfileToCollect) (t : Target) : Prop :=
  ∃ profileName, extractProfileName (base prf.name) = .ok profileName ∧
    t = .seccompProfile ⟨ns, profileName⟩

/-- What collecting a log profile may change: the object of the profile's kind
named after its id, and the aggregator's set for the id. -/
def logTargets (ns : Str) (prf : ProfileToCollect) (t : Target) : Prop :=
  ∃ profileName, extractProfileName prf.name = .ok profileName ∧
    match prf.kind with
    | .seccompProfile => t = .seccompProfile ⟨ns, profileName⟩ ∨ t = .syscalls prf.name
    | .selinuxProfile => t = .selinuxProfile ⟨ns, profileName⟩ ∨ t = .avcs prf.name
    | .other _ => False

section Collect

variable (impl : Collaborators)

/-- The calls that change nothing but the reply script. -/
theorem within_callWith_id {fp : Target → Prop} : Within fp (callWith id) :=
  within_callWith (Changes.refl fp)

theorem within_getSPOD {fp : Target → Prop} : Within fp getSPOD :=
  within_bind within_callWith_id fun _ => within_bind within_get fun _ => within_liftExcept _

theorem within_collectLocalProfile (name : NamespacedName) (prf : ProfileToCollect) :
    Within (hookTargets name.ns prf) (collectLocalProfile impl name prf) := by
  dsimp only [collectLocalProfile]
  split
  · exact within_throw_bind _ _
  · refine within_bind (within_pure _) fun _ => within_bind within_get fun _ =>
      within_bind (within_liftExcept _) fun _ => within_liftExcept_bind fun profileName named => ?_
    have target : hookTargets name.ns prf (.seccompProfile ⟨name.ns, profileName⟩) :=
      ⟨profileName, wrap_eq_ok.mp named, rfl⟩
    exact within_bind (within_wrapM _ (within_tryCatch
      (within_createOrUpdate fun spec w => changes_setSeccompProfile w spec target)
      fun err => within_bind (within_recordEvent _) fun _ => within_throw err)) fun _ =>
      within_recordEvent _

theorem within_collectLogSeccompProfile (profileName ns profileID : Str) :
    Within (fun t => t = .seccompProfile ⟨ns, profileName⟩ ∨ t = .syscalls profileID)
      (collectLogSeccompProfile profileName ns profileID) :=
  within_bind (within_wrapM _ within_callWith_id) fun _ =>
  within_bind within_get fun _ =>
  within_bind (within_wrapM _ (within_tryCatch
    (within_createOrUpdate fun spec w => changes_setSeccompProfile w spec (.inl rfl))
    fun err => within_bind (within_recordEvent _) fun _ => within_throw err)) fun _ =>
  within_bind (within_recordEvent _) fun _ =>
  within_wrapM _ (within_callWith fun w => changes_resetSyscalls w (.inr rfl))

theorem within_collectLogSelinuxProfile (profileName ns profileID : Str) :
    Within (fun t => t = .selinuxProfile ⟨ns, profileName⟩ ∨ t = .avcs profileID)
      (collectLogSelinuxProfile impl profileName ns profileID) :=
  within_bind (within_wrapM _ (within_bind within_callWith_id fun _ =>
    within_bind within_get fun _ => within_liftExcept _)) fun _ =>
  within_bind (within_tryCatch (within_liftExcept _) fun _ =>
    within_bind (within_recordEvent _) fun _ => within_throw _) fun _ =>
  within_bind (within_wrapM _ (within_tryCatch
    (within_createOrUpdate fun spec w => changes_setSelinuxProfile w spec (.inl rfl))
    fun err => within_bind (within_recordEvent _) fun _ => within_throw err)) fun _ =>
  within_bind (within_recordEvent _) fun _ =>
  within_wrapM _ (within_callWith fun w => changes_resetAvcs w (.inr rfl))

theorem within_collectLogProfile (name : NamespacedName) (prf : ProfileToCollect) :
    Within (logTargets name.ns prf) (collectLogProfile impl name prf) := by
  refine within_liftExcept_bind fun profileName named => ?_
  have extracted := wrap_eq_ok.mp named
  split
  · exact (within_collectLogSeccompProfile _ _ _).mono fun t h =>
      ⟨profileName, extracted, by simpa [‹prf.kind = _›] using h⟩
  · exact (within_collectLogSelinuxProfile impl _ _ _).mono fun t h =>
      ⟨profileName, extracted, by simpa [‹prf.kind = _›] using h⟩
  · exact within_throw _

/-- The footprint of a loop: what some iteration's body may change. -/
theorem within_forM_union {β : Type} {l : List β} {f : β → RecorderM PUnit}
    {fp : β → Target → Prop} (h : ∀ b, Within (fp b) (f b)) :
    Within (fun t => ∃ b ∈ l, fp b t) (l.forM f) :=
  within_forM fun b member => (h b).mono fun _ target => ⟨b, member, target⟩

theorem within_collectLogProfiles (name : NamespacedName) (profiles : List ProfileToCollect) :
    Within (fun t => ∃ prf ∈ profiles, logTargets name.ns prf t)
      (collectLogProfiles impl name profiles) := by
  refine within_bind (within_wrapM _ within_getSPOD) fun spod => ?_
  dsimp only
  split
  · exact within_throw_bind _ _
  · exact within_bind (within_pure _) fun _ => within_bind (within_wrapM _ within_callWith_id)
      fun _ => within_forM_union (within_collectLogProfile impl name)

theorem within_collectLocalProfiles (name : NamespacedName) (profiles : List ProfileToCollect) :
    Within (fun t => ∃ prf ∈ profiles, hookTargets name.ns prf t)
      (collectLocalProfiles impl name profiles) :=
  within_forM_union (within_collectLocalProfile impl name)

/-- What `collectProfile` runs for a tracked entry before deleting it: its two
mode tests exclude each other, and an entry of another mode collects nothing. -/
def collectEntry (name : NamespacedName) (podToWatch : PodToWatch) : RecorderM Unit :=
  match podToWatch.recorder with
  | .hook => wrapM "collect local profile" (collectLocalProfiles impl name podToWatch.profiles)
  | .logs => wrapM "collect log profile" (collectLogProfiles impl name podToWatch.profiles)
  | .other _ => pure ()

/-- What collecting an entry may change. -/
def entryTargets (ns : Str) (podToWatch : PodToWatch) (t : Target) : Prop :=
  ∃ prf ∈ podToWatch.profiles, match podToWatch.recorder with
    | .hook => hookTargets ns prf t
    | .logs => logTargets ns prf t
    | .other _ => False

theorem within_collectEntry (name : NamespacedName) (podToWatch : PodToWatch) :
    Within (entryTargets name.ns podToWatch) (collectEntry impl name podToWatch) := by
  obtain ⟨recorder, profiles⟩ := podToWatch
  cases recorder with
  | hook => exact within_wrapM _ (within_collectLocalProfiles impl name profiles)
  | logs => exact within_wrapM _ (within_collectLogProfiles impl name profiles)
  | other => exact within_pure _

/-- `w` without the entry of `key`. -/
def World.untrack (key : Str) (w : World) : World :=
  { w with podsToWatch := Function.update w.podsToWatch key none }

theorem collectProfile_untracked {name : NamespacedName} {w : World}
    (untracked : w.podsToWatch name.string = none) : collectProfile impl name w = .ok () w := by
  show ((get : RecorderM World) >>= _) w = _
  rw [bind_of_ok (get_run w)]
  dsimp only
  rw [untracked]
  rfl

theorem collectProfile_tracked {name : NamespacedName} {w : World} {podToWatch : PodToWatch}
    (tracked : w.podsToWatch name.string = some podToWatch) :
    collectProfile impl name w =
      (collectEntry impl name podToWatch >>= fun _ => modify (World.untrack name.string)) w := by
  show ((get : RecorderM World) >>= _) w = _
  rw [bind_of_ok (get_run w)]
  dsimp only
  rw [tracked]
  obtain ⟨recorder, profiles⟩ := podToWatch
  cases recorder <;> rfl

end Collect

end SpoRecorder.Source
