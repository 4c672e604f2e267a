import SpoRecorder.Source.Types

/-!
# Annotation parsing

`parseHookAnnotations` and `parseLogAnnotations` (profilerecorder.go:582-647)
run the same loop over a pod's annotation map: each entry is skipped, appended,
or ends the loop with an error. Go visits a map in no fixed order, so a map is
given here as its entries in the order one loop visits them; the loop is
`parseAnnotationsWith`, and the two parsers differ only in its body.
-/

namespace SpoRecorder.Source

/-- A pod's `map[string]string` annotations, in the order one `range` visits them. -/
abbrev Annotations := List (Str × Str)

/-- The parse failures; each wraps `errInvalidAnnotation`. -/
inductive AnnotationError
  | missingPrefix
  | notAbsolute (outputFile : Str)
  | emptyOutputFile
  | emptyProfile
  deriving DecidableEq, Repr

def errInvalidAnnotation : String := "invalid Annotation"

/-- The text of the wrapped error, as `errors.Wrap` renders it. -/
def AnnotationError.message : AnnotationError → String
  | .missingPrefix => "must start with \"of:\" prefix: " ++ errInvalidAnnotation
  | .notAbsolute outputFile =>
    "output file path must be absolute: \"" ++ String.mk outputFile ++ "\": " ++
      errInvalidAnnotation
  | .emptyOutputFile => "providing output file is mandatory: " ++ errInvalidAnnotation
  | .emptyProfile => "providing output profile is mandatory: " ++ errInvalidAnnotation

/-- The `range` loop of both parsers: an entry is skipped (`none`), appended
(`some`), or returns its error at once. -/
def parseAnnotationsWith (entry : Str → Str → Except AnnotationError (Option ProfileToCollect)) :
    Annotations → Except AnnotationError (List ProfileToCollect)
  | [] => .ok []
  | (key, value) :: rest => do
    let found ← entry key value
    let res ← parseAnnotationsWith entry rest
    return found.toList ++ res

/-- `const prefix = "of:"` of `parseHookAnnotations`. -/
def hookFilePrefix : Str := "of:".toList

/-- The loop body of `parseHookAnnotations`. -/
def hookAnnotationEntry (cfg : Config) (key value : Str) :
    Except AnnotationError (Option ProfileToCollect) :=
  if !hasPrefix key cfg.seccompProfileRecordHookAnnotationKey then .ok none
  else if !hasPrefix value hookFilePrefix then .error .missingPrefix
  else
    let outputFile := trimSpace (trimPrefix value hookFilePrefix)
    if !isAbs outputFile then .error (.notAbsolute outputFile)
    else if outputFile = [] then .error .emptyOutputFile
    -- Ignoring profile outside standard output path, it may be user-defined
    else if !hasPrefix outputFile cfg.profileRecordingOutputPath then .ok none
    else .ok (some ⟨.seccompProfile, outputFile⟩)

def parseHookAnnotations (cfg : Config) : Annotations → Except AnnotationError (List ProfileToCollect) :=
  parseAnnotationsWith (hookAnnotationEntry cfg)

/-- The kind a log annotation key selects; the seccomp prefix is tested first. -/
def logAnnotationKind (cfg : Config) (key : Str) : Option ProfileRecordingKind :=
  if hasPrefix key cfg.seccompProfileRecordLogsAnnotationKey then some .seccompProfile
  else if hasPrefix key cfg.selinuxProfileRecordLogsAnnotationKey then some .selinuxProfile
  else none

/-- The loop body of `parseLogAnnotations`. -/
def logAnnotationEntry (cfg : Config) (key profile : Str) :
    Except AnnotationError (Option ProfileToCollect) :=
  match logAnnotationKind cfg key with
  | none => .ok none
  | some kind => if profile = [] then .error .emptyProfile else .ok (some ⟨kind, profile⟩)

def parseLogAnnotations (cfg : Config) : Annotations → Except AnnotationError (List ProfileToCollect) :=
  parseAnnotationsWith (logAnnotationEntry cfg)

/-! ## The loop, for every body and every visiting order -/

section Loop

variable (entry : Str → Str → Except AnnotationError (Option ProfileToCollect))

/-- What one entry contributes when it does not fail. -/
def entryProfile (e : Str × Str) : Option ProfileToCollect :=
  match entry e.1 e.2 with
  | .ok found => found
  | .error _ => none

/-- An entry on which the loop body returns an error. -/
def EntryFails (e : Str × Str) : Prop := ∃ err, entry e.1 e.2 = .error err

theorem parseAnnotationsWith_of_forall {l : Annotations} (valid : ∀ e ∈ l, ¬ EntryFails entry e) :
    parseAnnotationsWith entry l = .ok (l.filterMap (entryProfile entry)) := by
  induction l with
  | nil => rfl
  | cons e rest ih =>
    obtain ⟨key, value⟩ := e
    have rest_valid := ih fun e member => valid e (List.mem_cons_of_mem _ member)
    cases found : entry key value with
    | error err => exact absurd ⟨err, found⟩ (valid _ (List.mem_cons_self _ _))
    | ok x =>
      cases x <;>
        simp [parseAnnotationsWith, found, rest_valid, entryProfile, List.filterMap_cons,
          bind, Except.bind, pure, Except.pure]

theorem parseAnnotationsWith_fails {l : Annotations} :
    (∃ err, parseAnnotationsWith entry l = .error err) ↔ ∃ e ∈ l, EntryFails entry e := by
  induction l with
  | nil => simp [parseAnnotationsWith, EntryFails]
  | cons e rest ih =>
    obtain ⟨key, value⟩ := e
    cases found : entry key value with
    | error err =>
      simp only [parseAnnotationsWith, found, bind, Except.bind]
      exact ⟨fun _ => ⟨_, List.mem_cons_self _ _, err, found⟩, fun _ => ⟨err, rfl⟩⟩
    | ok x =>
      have here : ¬ EntryFails entry (key, value) := by simp [EntryFails, found]
      cases next : parseAnnotationsWith entry rest with
      | error err =>
        simp only [parseAnnotationsWith, found, next, bind, Except.bind]
        exact ⟨fun _ => (ih.mp ⟨err, next⟩).imp fun e ⟨m, h⟩ => ⟨List.mem_cons_of_mem _ m, h⟩,
          fun _ => ⟨err, rfl⟩⟩
      | ok res =>
        simp only [parseAnnotationsWith, found, next, bind, Except.bind, pure, Except.pure]
        refine ⟨fun ⟨_, h⟩ => (nomatch h), fun ⟨e, m, h⟩ => ?_⟩
        rcases List.mem_cons.mp m with rfl | m
        · exact absurd h here
        · obtain ⟨err, h⟩ := ih.mpr ⟨e, m, h⟩
          exact nomatch next.symm.trans h

/-- Every profile the loop returns is one that the body returned for an entry. -/
theorem mem_parseAnnotationsWith {l : Annotations} {res : List ProfileToCollect}
    (parsed : parseAnnotationsWith entry l = .ok res) {prf : ProfileToCollect} (member : prf ∈ res) :
    ∃ e ∈ l, entry e.1 e.2 = .ok (some prf) := by
  induction l generalizing res with
  | nil => cases parsed; cases member
  | cons e rest ih =>
    obtain ⟨key, value⟩ := e
    simp only [parseAnnotationsWith, bind, Except.bind] at parsed
    split at parsed
    · cases parsed
    rename_i found first
    split at parsed
    · cases parsed
    rename_i later next
    cases parsed
    rcases List.mem_append.mp member with here | there
    · cases found with
      | none => cases here
      | some p =>
        obtain rfl := List.mem_singleton.mp here
        exact ⟨(key, value), List.mem_cons_self _ _, first⟩
    · obtain ⟨e, m, h⟩ := ih next there
      exact ⟨e, List.mem_cons_of_mem _ m, h⟩

/-- Whether the loop fails, and what it returns up to order, depends on the
map only. -/
theorem parseAnnotationsWith_perm {l₁ l₂ : Annotations} (reordered : l₁.Perm l₂) :
    (∃ e₁ e₂, parseAnnotationsWith entry l₁ = .error e₁ ∧ parseAnnotationsWith entry l₂ = .error e₂) ∨
    ∃ r₁ r₂, parseAnnotationsWith entry l₁ = .ok r₁ ∧ parseAnnotationsWith entry l₂ = .ok r₂ ∧
      r₁.Perm r₂ := by
  by_cases bad : ∃ e ∈ l₁, EntryFails entry e
  · obtain ⟨e₁, first⟩ := (parseAnnotationsWith_fails entry).mpr bad
    obtain ⟨e₂, second⟩ := (parseAnnotationsWith_fails entry).mpr
      (bad.imp fun e ⟨m, h⟩ => ⟨reordered.subset m, h⟩)
    exact .inl ⟨e₁, e₂, first, second⟩
  · push_neg at bad
    exact .inr ⟨_, _, parseAnnotationsWith_of_forall entry bad,
      parseAnnotationsWith_of_forall entry fun e m => bad e (reordered.symm.subset m),
      reordered.filterMap _⟩

end Loop

end SpoRecorder.Source
