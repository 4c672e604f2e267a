import SpoRecorder.Source.Types
import Mathlib.Logic.Function.Basic
import Mathlib.Data.Finset.Dedup

/-!
# SELinux policy builder

`seProfileBuilder` and `formatSelinuxProfile` (profilerecorder.go:556-572,
649-759). The builder files every AVC's permission under the key
`tclass + " " + type`, appending the key to `keys` once per AVC; `Format`
sorts `keys` and writes one allow line per entry of it. The `strings.Builder`
is the accumulated output of `Format`, and the logger is left out.

The closed forms below (`addAvcList_eq`, `permMap_recordAll`) are what every
later statement about a formatted policy is derived from.
-/

namespace SpoRecorder.Source

/-- `AvcResponse_SelinuxAvc`. -/
structure SelinuxAvc where
  perm : Str
  scontext : Str
  tcontext : Str
  tclass : Str
  deriving DecidableEq, Repr

def seContextRequiredParts : Nat := 3

/-- `ctxt2type`: the third `:`-separated field of a context. -/
def ctxt2type (ctx : Str) : Except String Str :=
  let elems := split ctx ':'
  if elems.length < seContextRequiredParts then .error "Malformed SELinux context"
  else .ok (elems.getD 2 [])

structure SeProfileBuilder where
  permMap : Str → Option (Finset Str)
  keys : List Str
  usageCtx : Str

def newSeProfileBuilder (usageCtx : Str) : SeProfileBuilder := ⟨fun _ => none, [], usageCtx⟩

def SeProfileBuilder.addAvc (sb : SeProfileBuilder) (avc : SelinuxAvc) :
    Except String SeProfileBuilder := do
  let ctxType ← wrap "converting context to type" (ctxt2type avc.tcontext)
  let key := avc.tclass ++ [' '] ++ ctxType
  let perms := match sb.permMap key with
    | some perms => insert avc.perm perms
    | none => {avc.perm}
  return { sb with keys := sb.keys ++ [key], permMap := Function.update sb.permMap key (some perms) }

def SeProfileBuilder.addAvcList (sb : SeProfileBuilder) (avcs : List SelinuxAvc) :
    Except String SeProfileBuilder :=
  avcs.foldlM (fun sb avc => wrap "adding AVC" (sb.addAvc avc)) sb

/-- The builder `sb` points to once `addAvc` returns: Go returns the error
before it touches the builder, so a failed call leaves it as it was. -/
def SeProfileBuilder.afterAddAvc (sb : SeProfileBuilder) (avc : SelinuxAvc) : SeProfileBuilder :=
  match sb.addAvc avc with
  | .ok sb' => sb'
  | .error _ => sb

/-- The builder `sb` points to once `AddAvcList` returns: the loop stops at the
first AVC `addAvc` rejects, keeping what the AVCs before it filed. -/
def SeProfileBuilder.afterAddAvcList (sb : SeProfileBuilder) : List SelinuxAvc → SeProfileBuilder
  | [] => sb
  | avc :: rest =>
    match sb.addAvc avc with
    | .ok sb' => sb'.afterAddAvcList rest
    | .error _ => sb

/-- `targetClassCtx`. Every key `addAvc` files holds a space, so index 1 of the
split exists; `getD` stands for Go's indexing. -/
def SeProfileBuilder.targetClassCtx (cfg : Config) (sb : SeProfileBuilder) (key : Str) :
    Str × Str :=
  let splitkey := split key ' '
  let tclass := splitkey.getD 0 []
  let tcontext := splitkey.getD 1 []
  -- rewrite the context to what the usage of the policy would have been
  (tclass, if tcontext = cfg.selinuxPermissiveProfile then sb.usageCtx else tcontext)

/-- `policyLine`; a missing map entry is Go's `nil` set. -/
def policyLine (tclass tcontext : Str) (perms : Option (Finset Str)) : Except String Str :=
  match perms with
  | none => .error "nil permissions set or no permissions"
  | some perms =>
    if perms = ∅ then .error "nil permissions set or no permissions"
    else
      let permsList := sortStrings (setList perms)
      .ok ("(allow process ".toList ++ tcontext ++ " ( ".toList ++ tclass ++ " ( ".toList ++
        join permsList [' '] ++ " )))\n".toList)

/-- `writeLineFromKeyVal`, returning the line it writes. -/
def SeProfileBuilder.writeLineFromKeyVal (cfg : Config) (sb : SeProfileBuilder) (key : Str)
    (val : Option (Finset Str)) : Except String Str :=
  let (tclass, tcontext) := sb.targetClassCtx cfg key
  if tclass = [] ∨ tcontext = [] then .error "empty context or class"
  else wrap "writing policy line" (policyLine tclass tcontext val)

def policyHeader : Str := "(blockinherit container)\n".toList

/-- `Format`: the header, then one line per entry of the sorted `keys`. -/
def SeProfileBuilder.format (cfg : Config) (sb : SeProfileBuilder) : Except String Str := do
  let lines ← (sortStrings sb.keys).mapM fun key =>
    wrap "writing policy line from key-value pair" (sb.writeLineFromKeyVal cfg key (sb.permMap key))
  return policyHeader ++ lines.flatten

/-- `formatSelinuxProfile`; the profile object enters only through its
`GetPolicyUsage()`, passed as `usageCtx`. -/
def formatSelinuxProfile (cfg : Config) (usageCtx : Str) (avcs : List SelinuxAvc) :
    Except String Str := do
  let seBuilder ← wrap "consuming AVCs" ((newSeProfileBuilder usageCtx).addAvcList avcs)
  wrap "building policy" (seBuilder.format cfg)

/-! ## Closed forms -/

/-- A context `ctxt2type` accepts. -/
def WellFormedContext (ctx : Str) : Prop := seContextRequiredParts ≤ (split ctx ':').length

instance (ctx : Str) : Decidable (WellFormedContext ctx) :=
  inferInstanceAs (Decidable (_ ≤ _))

/-- The key `addAvc` files an AVC under, once its context is accepted. -/
def avcKey (avc : SelinuxAvc) : Str := avc.tclass ++ [' '] ++ (split avc.tcontext ':').getD 2 []

/-- The builder after `addAvc` has filed `perm` under `key`. -/
def SeProfileBuilder.record (sb : SeProfileBuilder) (avc : SelinuxAvc) : SeProfileBuilder :=
  { sb with
    keys := sb.keys ++ [avcKey avc]
    permMap := Function.update sb.permMap (avcKey avc)
      (some (insert avc.perm ((sb.permMap (avcKey avc)).getD ∅))) }

/-- The error every rejected AVC list ends with. -/
def addAvcListError : String := "adding AVC: converting context to type: Malformed SELinux context"

theorem ctxt2type_eq (ctx : Str) :
    ctxt2type ctx = if WellFormedContext ctx then .ok ((split ctx ':').getD 2 [])
      else .error "Malformed SELinux context" := by
  by_cases wf : WellFormedContext ctx
  · simp [ctxt2type, wf, Nat.not_lt.mpr wf]
  · simp [ctxt2type, wf, Nat.lt_of_not_le wf]

theorem addAvc_eq (sb : SeProfileBuilder) (avc : SelinuxAvc) :
    sb.addAvc avc = if WellFormedContext avc.tcontext then .ok (sb.record avc)
      else .error "converting context to type: Malformed SELinux context" := by
  rw [SeProfileBuilder.addAvc, ctxt2type_eq]
  split_ifs
  · simp only [bind, Except.bind, wrap_ok, pure, Except.pure, SeProfileBuilder.record, avcKey]
    split <;> simp_all
  · rfl

theorem addAvcList_eq (sb : SeProfileBuilder) (avcs : List SelinuxAvc) :
    sb.addAvcList avcs = if ∀ avc ∈ avcs, WellFormedContext avc.tcontext
      then .ok (avcs.foldl SeProfileBuilder.record sb) else .error addAvcListError := by
  induction avcs generalizing sb with
  | nil => rfl
  | cons avc rest ih =>
    simp only [SeProfileBuilder.addAvcList, List.foldlM_cons, addAvc_eq] at ih ⊢
    by_cases wf : WellFormedContext avc.tcontext
    · simp only [wf, if_true, wrap_ok, bind, Except.bind, ih, List.forall_mem_cons, true_and,
        List.foldl_cons]
    · simp [wf, bind, Except.bind, addAvcListError]

/-- A list `AddAvcList` accepts leaves the builder it returns. -/
theorem afterAddAvcList_of_ok {sb sb' : SeProfileBuilder} {avcs : List SelinuxAvc}
    (accepted : sb.addAvcList avcs = .ok sb') : sb.afterAddAvcList avcs = sb' := by
  induction avcs generalizing sb with
  | nil => exact Except.ok.inj accepted
  | cons avc rest ih =>
    rw [addAvcList_eq] at accepted
    split_ifs at accepted with wf
    rw [SeProfileBuilder.afterAddAvcList, addAvc_eq, if_pos (wf avc (List.mem_cons_self _ _))]
    refine ih ?_
    rw [addAvcList_eq, if_pos fun other m => wf other (List.mem_cons_of_mem _ m)]
    exact accepted

@[simp] theorem record_usageCtx (sb : SeProfileBuilder) (avc : SelinuxAvc) :
    (sb.record avc).usageCtx = sb.usageCtx := rfl

theorem keys_recordAll (sb : SeProfileBuilder) (avcs : List SelinuxAvc) :
    (avcs.foldl SeProfileBuilder.record sb).keys = sb.keys ++ avcs.map avcKey := by
  induction avcs generalizing sb with
  | nil => simp
  | cons avc rest ih => simp [ih, SeProfileBuilder.record]

theorem usageCtx_recordAll (sb : SeProfileBuilder) (avcs : List SelinuxAvc) :
    (avcs.foldl SeProfileBuilder.record sb).usageCtx = sb.usageCtx := by
  induction avcs generalizing sb with
  | nil => rfl
  | cons avc rest ih => simp [ih]

/-- The permissions filed under `key` by the AVCs of a list. -/
def permsOf (avcs : List SelinuxAvc) (key : Str) : Finset Str :=
  ((avcs.filter (avcKey · = key)).map SelinuxAvc.perm).toFinset

@[simp] theorem permsOf_nil (key : Str) : permsOf [] key = ∅ := rfl

@[simp] theorem permsOf_cons (avc : SelinuxAvc) (rest : List SelinuxAvc) (key : Str) :
    permsOf (avc :: rest) key =
      if avcKey avc = key then insert avc.perm (permsOf rest key) else permsOf rest key := by
  by_cases same : avcKey avc = key <;> simp [permsOf, List.filter_cons, same]

@[simp] theorem mem_permsOf {avcs : List SelinuxAvc} {key perm : Str} :
    perm ∈ permsOf avcs key ↔ ∃ avc ∈ avcs, avcKey avc = key ∧ avc.perm = perm := by
  simp [permsOf, and_assoc]

theorem permsOf_perm {l₁ l₂ : List SelinuxAvc} (h : l₁.Perm l₂) (key : Str) :
    permsOf l₁ key = permsOf l₂ key :=
  List.toFinset_eq_of_perm _ _ ((h.filter _).map _)

theorem permsOf_eq_empty {avcs : List SelinuxAvc} {key : Str} :
    permsOf avcs key = ∅ ↔ ¬ ∃ avc ∈ avcs, avcKey avc = key := by
  simp [permsOf, List.filter_eq_nil_iff]

theorem permMap_recordAll (sb : SeProfileBuilder) (avcs : List SelinuxAvc) (key : Str) :
    (avcs.foldl SeProfileBuilder.record sb).permMap key =
      if ∃ avc ∈ avcs, avcKey avc = key then some ((sb.permMap key).getD ∅ ∪ permsOf avcs key)
      else sb.permMap key := by
  induction avcs generalizing sb with
  | nil => simp
  | cons avc rest ih =>
    rw [List.foldl_cons, ih]
    by_cases same : avcKey avc = key
    · subst same
      by_cases later : ∃ other ∈ rest, avcKey other = avcKey avc
      · simp [later, SeProfileBuilder.record, Finset.insert_union, Finset.union_insert]
      · simp [later, SeProfileBuilder.record, permsOf_eq_empty.mpr later, Finset.insert_eq,
          Finset.union_comm]
    · simp [SeProfileBuilder.record, Function.update_noteq (Ne.symm same), same]

end SpoRecorder.Source
