import Mathlib.Data.List.Sort
import Mathlib.Data.List.Lex
import Mathlib.Data.Char
import Mathlib.Data.Finset.Basic

/-!
# Go strings and the `strings`, `path/filepath` and `sort` helpers

The recorder and the enricher only ever cut strings at ASCII separators
(`-`, `/`, `:`, ` `) and compare them, so Go strings are modelled as lists of
Unicode scalar values. `sort.Strings` orders byte-wise, which on valid UTF-8 is
the code-point order of `List Char`. Byte strings that are not valid UTF-8 are
outside this model; where the code reacts to them (`protojson.Marshal`), the
reaction is a parameter.

`sets.String` is a `Finset`; its `List()` is sorted, here by insertion sort so
that concrete values evaluate under `decide`.
-/

namespace SpoRecorder.Source

abbrev Str := List Char

/-- `strings.HasPrefix(s, prefix)`. -/
def hasPrefix (s pre : Str) : Bool := pre.isPrefixOf s

/-- `strings.TrimPrefix(s, prefix)`. -/
def trimPrefix (s pre : Str) : Str := if hasPrefix s pre then s.drop pre.length else s

/-- `unicode.IsSpace`: the Latin-1 spaces and the other `White_Space` code points. -/
def isSpace (c : Char) : Bool :=
  let r := c.toNat
  if r ≤ 0xFF then [0x09, 0x0A, 0x0B, 0x0C, 0x0D, 0x20, 0x85, 0xA0].contains r
  else r == 0x1680 || (0x2000 ≤ r && r ≤ 0x200A) || r == 0x2028 || r == 0x2029 ||
    r == 0x202F || r == 0x205F || r == 0x3000

/-- `strings.TrimSpace`. -/
def trimSpace (s : Str) : Str := ((s.dropWhile isSpace).reverse.dropWhile isSpace).reverse

/-- `filepath.IsAbs` on Unix. -/
def isAbs (path : Str) : Bool := hasPrefix path ['/']

/-- `strings.Split(s, sep)` for a one-character separator. -/
def split (s : Str) (sep : Char) : List Str := s.splitOn sep

/-- `strings.Join(elems, sep)`. -/
def join (elems : List Str) (sep : Str) : Str := sep.intercalate elems

/-- `strings.LastIndex(s, sep)` for a one-character separator; `none` is Go's `-1`. -/
def lastIndex : Str → Char → Option Nat
  | [], _ => none
  | x :: xs, c =>
    match lastIndex xs c with
    | some i => some (i + 1)
    | none => if x = c then some 0 else none

theorem lastIndex_isSome {s : Str} {c : Char} : (lastIndex s c).isSome ↔ c ∈ s := by
  induction s with
  | nil => simp [lastIndex]
  | cons x xs ih =>
    simp only [lastIndex, List.mem_cons]
    split
    · simp_all
    · rename_i later
      have : c ∉ xs := by simpa [later] using ih
      by_cases here : x = c
      · simp [here]
      · simp [here, this, Ne.symm here]

/-- A character that no later character repeats is the last one. -/
theorem lastIndex_append_cons (n : Str) {t : Str} {c : Char} (absent : c ∉ t) :
    lastIndex (n ++ c :: t) c = some n.length := by
  induction n with
  | nil =>
    have later : lastIndex t c = none := by simpa [← lastIndex_isSome] using absent
    simp [lastIndex, later]
  | cons x n ih => simp [lastIndex, ih]

/-- The index found splits the string at a last occurrence. -/
theorem lastIndex_some {s : Str} {c : Char} {i : Nat} (found : lastIndex s c = some i) :
    ∃ n t, s = n ++ c :: t ∧ c ∉ t ∧ n.length = i := by
  induction s generalizing i with
  | nil => cases found
  | cons x xs ih =>
    simp only [lastIndex] at found
    split at found
    · rename_i j later
      cases found
      obtain ⟨n, t, rfl, absent, rfl⟩ := ih later
      exact ⟨x :: n, t, rfl, absent, rfl⟩
    · rename_i later
      split_ifs at found with here
      cases found
      subst here
      exact ⟨[], xs, rfl, by simpa [← lastIndex_isSome] using later, rfl⟩

/-- `filepath.Base` on Unix: the last element once trailing slashes are gone. -/
def base (path : Str) : Str :=
  if path = [] then ['.'] else
    let stripped := (path.reverse.dropWhile (· = '/')).reverse
    let last := (stripped.reverse.takeWhile (· ≠ '/')).reverse
    if last = [] then ['/'] else last

/-- `errors.Wrap(err, msg)`: the message, a colon, then the wrapped error. -/
def wrap {α : Type} (msg : String) : Except String α → Except String α
  | .ok a => .ok a
  | .error e => .error (msg ++ ": " ++ e)

@[simp] theorem wrap_ok {α : Type} (msg : String) (a : α) : wrap msg (.ok a) = .ok a := rfl

@[simp] theorem wrap_error {α : Type} (msg e : String) :
    wrap msg (.error e : Except String α) = .error (msg ++ ": " ++ e) := rfl

@[simp] theorem wrap_eq_ok {α : Type} {msg : String} {r : Except String α} {a : α} :
    wrap msg r = .ok a ↔ r = .ok a := by
  cases r <;> simp

/-! ## Loops over fallible calls

A Go loop that returns the first error of its body is `List.mapM` over `Except`. -/

section Loops

variable {ε α β : Type} {f : α → Except ε β}

theorem mapM_of_forall (g : α → β) {l : List α} (h : ∀ x ∈ l, f x = .ok (g x)) :
    l.mapM f = .ok (l.map g) := by
  induction l with
  | nil => rfl
  | cons x rest ih =>
    simp only [List.mapM_cons, h x (List.mem_cons_self _ _),
      ih fun y m => h y (List.mem_cons_of_mem _ m)]
    rfl

/-- A loop whose every body succeeds returns the bodies' results. -/
theorem mapM_ok_of_forall {l : List α} (succeeds : ∀ x ∈ l, ∃ b, f x = .ok b) :
    ∃ bs, l.mapM f = .ok bs ∧ ∀ b, b ∈ bs ↔ ∃ x ∈ l, f x = .ok b := by
  induction l with
  | nil => exact ⟨[], rfl, by simp⟩
  | cons a rest ih =>
    obtain ⟨b, first⟩ := succeeds a (List.mem_cons_self _ _)
    obtain ⟨bs, later, members⟩ := ih fun x member => succeeds x (List.mem_cons_of_mem _ member)
    refine ⟨b :: bs, by rw [List.mapM_cons, first, later]; rfl, fun c => ?_⟩
    rw [List.mem_cons, members, List.exists_mem_cons_iff, first, Except.ok.injEq]
    exact or_congr_left eq_comm

/-- A loop that fails failed in the body of one of its elements, with its error. -/
theorem mapM_error_mem {l : List α} {err : ε} (failed : l.mapM f = .error err) :
    ∃ x ∈ l, f x = .error err := by
  induction l with
  | nil => cases failed
  | cons a rest ih =>
    rw [List.mapM_cons] at failed
    cases first : f a with
    | error e => rw [first] at failed; cases failed; exact ⟨a, .head _, first⟩
    | ok b =>
      rw [first] at failed
      cases later : rest.mapM f <;> rw [later] at failed <;> cases failed
      obtain ⟨x, member, h⟩ := ih later
      exact ⟨x, .tail _ member, h⟩

/-- A loop whose bodies all fail with one error fails with it as soon as one
body fails. -/
theorem mapM_error_of_mem {msg : ε} (uniform : ∀ x m, f x = .error m → m = msg) {l : List α}
    {x : α} (member : x ∈ l) (fails : f x = .error msg) : l.mapM f = .error msg := by
  induction l with
  | nil => cases member
  | cons a rest ih =>
    rw [List.mapM_cons]
    cases first : f a with
    | error m => rw [uniform a m first]; rfl
    | ok b =>
      have later : x ∈ rest := by
        rcases List.mem_cons.mp member with rfl | later
        · rw [fails] at first; cases first
        · exact later
      rw [ih later]; rfl

end Loops

/-- `sort.Strings`. Go's sort is not stable, but equal strings are identical,
so every correct sort returns this list. -/
def sortStrings (l : List Str) : List Str := l.insertionSort (· ≤ ·)

theorem sortStrings_sorted (l : List Str) : (sortStrings l).Sorted (· ≤ ·) :=
  List.sorted_insertionSort _ _

theorem sortStrings_perm (l : List Str) : (sortStrings l).Perm l :=
  List.perm_insertionSort _ _

@[simp] theorem mem_sortStrings {l : List Str} {s : Str} : s ∈ sortStrings l ↔ s ∈ l :=
  (sortStrings_perm l).mem_iff

/-- Sorting forgets the order it was given. -/
theorem sortStrings_eq_of_perm {l₁ l₂ : List Str} (h : l₁.Perm l₂) :
    sortStrings l₁ = sortStrings l₂ :=
  List.eq_of_perm_of_sorted (((sortStrings_perm l₁).trans h).trans (sortStrings_perm l₂).symm)
    (sortStrings_sorted l₁) (sortStrings_sorted l₂)

/-- `sets.String.List()`: the members in ascending order. -/
def setList (s : Finset Str) : List Str :=
  Quot.liftOn s.val sortStrings fun _ _ h => sortStrings_eq_of_perm h

@[simp] theorem mem_setList {s : Finset Str} {x : Str} : x ∈ setList s ↔ x ∈ s := by
  rcases s with ⟨⟨l⟩, _⟩
  exact mem_sortStrings

theorem setList_sorted (s : Finset Str) : (setList s).Sorted (· ≤ ·) := by
  rcases s with ⟨⟨l⟩, _⟩
  exact sortStrings_sorted l

theorem setList_nodup (s : Finset Str) : (setList s).Nodup := by
  rcases s with ⟨⟨l⟩, nodup⟩
  exact (sortStrings_perm l).nodup_iff.mpr nodup

@[simp] theorem setList_eq_nil {s : Finset Str} : setList s = [] ↔ s = ∅ := by
  rw [List.eq_nil_iff_forall_not_mem, Finset.eq_empty_iff_forall_not_mem]
  simp

/-- Sorting a sorted list changes nothing. -/
theorem sortStrings_of_sorted {l : List Str} (h : l.Sorted (· ≤ ·)) : sortStrings l = l :=
  List.eq_of_perm_of_sorted (sortStrings_perm l) (sortStrings_sorted l) h

end SpoRecorder.Source
