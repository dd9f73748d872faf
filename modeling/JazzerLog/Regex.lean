/-
The fragment of Python's `re` the six patterns of `jazzer_postprocessing.py`
are written in, with `sre`'s backtracking semantics: literal runs, one
character of a class (`.`, `\d`, `\s`, `[a-z0-9]`), the greedy repetitions
`c*` and `c+` of a class, capturing groups and concatenation. Every pattern is
used through `pattern.match(line)`, anchored at the start of the line and not
at its end.

# Semantics

`Re.go r s k` matches `r` at the start of `s` and hands what is left to the
continuation `k`, which either fails or returns the groups captured after `r`;
a group of `r` puts its text in front of them. The greedy repetitions take as
many characters as they can and give one back at a time while the rest of the
pattern fails (`starGo`), which is the order `sre` tries. So `Re.reMatch` is
the first match `re.match` finds, groups in the order of their opening
parenthesis (none of the patterns nests a group).

# What this file proves

- `starGo_append`, `starGo_of_isSome`: the two ways a greedy repetition ends:
  it skips a run the rest of the pattern cannot start in, and it stops at the
  end of its run when the rest always succeeds.
- `stamped_go`: the timestamp prefix `(\d+)\s` consumes exactly the leading
  digit run and one whitespace character after it (`splitStamp`).
-/
import JazzerLog.Text
import Mathlib.Data.Option.Basic
import Mathlib.Data.List.Forall2

namespace JazzerLog

/-- The character classes of the patterns. -/
inductive CharClass where
  /-- `.`: any character but a newline. -/
  | any
  /-- `\d` -/
  | digit
  /-- `\s` -/
  | space
  /-- `[...]`: a union of inclusive ranges, as `[a-z0-9]`. -/
  | ranges (rs : List (Char × Char))
  deriving DecidableEq, Repr

/-- Whether a character belongs to the class. -/
def CharClass.test : CharClass → Char → Bool
  | .any, c => c != '\n'
  | .digit, c => isDecimal c
  | .space, c => isSpace c
  | .ranges rs, c => rs.any fun r => r.1 ≤ c && c ≤ r.2

/-- `.` matches every character but a newline. -/
@[simp] theorem test_any (c : Char) : CharClass.any.test c = (c != '\n') := rfl
/-- `\d` is `isDecimal`. -/
@[simp] theorem test_digit (c : Char) : CharClass.digit.test c = isDecimal c := rfl
/-- `\s` is `isSpace`. -/
@[simp] theorem test_space (c : Char) : CharClass.space.test c = isSpace c := rfl

/-- A pattern of the fragment. -/
inductive Re where
  /-- A run of ordinary characters. -/
  | lit (s : Text)
  /-- One character of a class. -/
  | one (c : CharClass)
  /-- Greedy `c*`. -/
  | star (c : CharClass)
  /-- Greedy `c+`. -/
  | plus (c : CharClass)
  /-- A capturing group. -/
  | group (r : Re)
  /-- `r₁` then `r₂`. -/
  | seq (r₁ r₂ : Re)
  deriving DecidableEq, Repr

/-- The groups a match captures, in order. -/
abbrev Groups := List Text

/-- The rest of a match, run on what is left of the text. -/
abbrev Cont := Text → Option Groups

-- ========================================================== semantics

/-- Greedy `c*` before `k`: take the longest run of the class first and give
back one character at a time while `k` fails. -/
def starGo (c : CharClass) (k : Cont) : Text → Option Groups
  | [] => k []
  | x :: s => if c.test x then (starGo c k s <|> k (x :: s)) else k (x :: s)

/-- Match `r` at the start of `s`, then run `k` on what is left. -/
def Re.go : Re → Text → Cont → Option Groups
  | .lit l, s, k => if l.isPrefixOf s then k (s.drop l.length) else none
  | .one _, [], _ => none
  | .one c, x :: s, k => if c.test x then k s else none
  | .star c, s, k => starGo c k s
  | .plus _, [], _ => none
  | .plus c, x :: s, k => if c.test x then starGo c k s else none
  | .group r, s, k =>
      r.go s fun rest => (k rest).map (s.take (s.length - rest.length) :: ·)
  | .seq r₁ r₂, s, k => r₁.go s fun rest => r₂.go rest k

/-- `pattern.match(s)`: the groups of the first match at the start of `s`. -/
def Re.reMatch (r : Re) (s : Text) : Option Groups := r.go s fun _ => some []

/-- A repetition at the end of the text hands on the empty rest. -/
@[simp] theorem starGo_nil (c : CharClass) (k : Cont) : starGo c k [] = k [] := rfl

/-- A repetition tries the longer run first, then the continuation. -/
theorem starGo_cons (c : CharClass) (k : Cont) (x : Char) (s : Text) :
    starGo c k (x :: s)
      = if c.test x then (starGo c k s <|> k (x :: s)) else k (x :: s) := rfl

/-- A run of ordinary characters matches as a prefix. -/
@[simp] theorem go_lit (l s : Text) (k : Cont) :
    (Re.lit l).go s k = if l <+: s then k (s.drop l.length) else none := by
  simp [Re.go]

/-- A character class fails on the empty text. -/
@[simp] theorem go_one_nil (c : CharClass) (k : Cont) : (Re.one c).go [] k = none := rfl

/-- A character class consumes one character it accepts. -/
@[simp] theorem go_one_cons (c : CharClass) (x : Char) (s : Text) (k : Cont) :
    (Re.one c).go (x :: s) k = if c.test x then k s else none := rfl

/-- `c*` is the greedy repetition. -/
@[simp] theorem go_star (c : CharClass) (s : Text) (k : Cont) :
    (Re.star c).go s k = starGo c k s := rfl

/-- `c+` fails on the empty text. -/
@[simp] theorem go_plus_nil (c : CharClass) (k : Cont) : (Re.plus c).go [] k = none := rfl

/-- `c+` consumes one character it accepts, then repeats greedily. -/
@[simp] theorem go_plus_cons (c : CharClass) (x : Char) (s : Text) (k : Cont) :
    (Re.plus c).go (x :: s) k = if c.test x then starGo c k s else none := rfl

/-- A group records the text its pattern consumed. -/
@[simp] theorem go_group (r : Re) (s : Text) (k : Cont) :
    (Re.group r).go s k
      = r.go s fun rest => (k rest).map (s.take (s.length - rest.length) :: ·) := rfl

/-- A sequence threads the continuation through both patterns. -/
@[simp] theorem go_seq (r₁ r₂ : Re) (s : Text) (k : Cont) :
    (Re.seq r₁ r₂).go s k = r₁.go s fun rest => r₂.go rest k := rfl

-- ================================================ greedy repetition

/-- A run the continuation cannot start in is skipped: every shorter take of
the repetition hands `k` a text that begins with a class character. -/
theorem starGo_append {c : CharClass} {k : Cont} {ds : Text} (t : Text)
    (hds : ∀ x ∈ ds, c.test x = true) (hk : ∀ y u, c.test y = true → k (y :: u) = none) :
    starGo c k (ds ++ t) = starGo c k t := by
  induction ds with
  | nil => rfl
  | cons x ds ih =>
      rw [List.cons_append, starGo_cons, if_pos (hds x (by simp)),
        ih fun y hy => hds y (by simp [hy]), hk x _ (hds x (by simp))]
      cases starGo c k t <;> rfl

/-- A repetition before a continuation that always succeeds stops at the end
of its run. -/
theorem starGo_of_isSome {c : CharClass} {k : Cont} (hk : ∀ t, (k t).isSome) (s : Text) :
    starGo c k s = k (s.dropWhile c.test) := by
  induction s with
  | nil => rfl
  | cons x s ih =>
      rw [starGo_cons]
      by_cases hx : c.test x = true
      · obtain ⟨v, hv⟩ := Option.isSome_iff_exists.mp (hk (s.dropWhile c.test))
        rw [if_pos hx, ih, List.dropWhile_cons_of_pos hx, hv]
        rfl
      · rw [if_neg hx, List.dropWhile_cons_of_neg hx]

/-- What a successful repetition consumed: a run of class characters, after
which the continuation succeeded. -/
theorem starGo_eq_some {c : CharClass} {k : Cont} {g : Groups} :
    ∀ {s : Text}, starGo c k s = some g →
      ∃ n, (∀ x ∈ s.take n, c.test x = true) ∧ k (s.drop n) = some g
  | [], h => ⟨0, by simp, h⟩
  | x :: s, h => by
      rw [starGo_cons] at h
      split at h
      · next hx =>
          rcases (Option.orElse_eq_some _ _ _).mp h with h | ⟨-, h⟩
          · obtain ⟨n, hn, hk⟩ := starGo_eq_some h
            exact ⟨n + 1, by simpa [hx] using hn, hk⟩
          · exact ⟨0, by simp, h⟩
      · exact ⟨0, by simp, h⟩

/-- `(\d+)\s` followed by `r`: the shape of every current-format pattern. -/
def stamped (r : Re) : Re := .seq (.group (.plus .digit)) (.seq (.one .space) r)

/-- What `(\d+)\s` consumes when it matches: the leading digit run, and the
text after the whitespace character that follows it. -/
def splitStamp (s : Text) : Option (Text × Text) :=
  match s.takeWhile isDecimal, s.dropWhile isDecimal with
  | [], _ => none
  | _, [] => none
  | ds, w :: rest => if isSpace w then some (ds, rest) else none

/-- A nonempty digit run and a whitespace character are what `(\d+)\s`
takes from the front of a line. -/
theorem splitStamp_append {ds : Text} {w : Char} (L : Text) (hne : ds ≠ [])
    (hds : ∀ x ∈ ds, isDecimal x = true) (hw : isSpace w = true) :
    splitStamp (ds ++ w :: L) = some (ds, L) := by
  have hw' : isDecimal w = false := by
    cases hd : isDecimal w
    · rfl
    · simp [isSpace_eq_false_of_isDecimal hd] at hw
  have htake : (ds ++ w :: L).takeWhile isDecimal = ds := by
    rw [List.takeWhile_append_of_pos hds, List.takeWhile_cons_of_neg (by simp [hw']),
      List.append_nil]
  have hdrop : (ds ++ w :: L).dropWhile isDecimal = w :: L := by
    rw [List.dropWhile_append_of_pos hds, List.dropWhile_cons_of_neg (by simp [hw'])]
  obtain ⟨d, ds, rfl⟩ := List.exists_cons_of_ne_nil hne
  simp only [splitStamp, htake, hdrop, hw, if_true]

/-- A line that does not begin with a digit has no timestamp prefix. -/
theorem splitStamp_eq_none {s : Text} (h : ∀ d, s.head? = some d → isDecimal d = false) :
    splitStamp s = none := by
  cases s with
  | nil => rfl
  | cons d t => simp [splitStamp, h d rfl]

/-- The timestamp prefix consumes exactly the leading digit run and one
whitespace character, and puts the run in front of the groups of `r`. -/
theorem stamped_go (r : Re) (s : Text) (k : Cont) :
    (stamped r).go s k
      = (splitStamp s).bind fun p => (r.go p.2 k).map (p.1 :: ·) := by
  obtain ⟨ds, t, rfl, hds, ht⟩ : ∃ ds t, s = ds ++ t ∧ (∀ x ∈ ds, isDecimal x = true) ∧
      ∀ y u, t = y :: u → isDecimal y = false :=
    ⟨_, _, (List.takeWhile_append_dropWhile isDecimal s).symm,
      fun x hx => List.mem_takeWhile_imp hx,
      fun y u h => by simpa [h] using List.head_dropWhile_not isDecimal s (by simp [h])⟩
  have htake : (ds ++ t).takeWhile isDecimal = ds := by
    rw [List.takeWhile_append_of_pos hds]
    cases t with
    | nil => simp
    | cons y u => simp [ht y u rfl]
  have hdrop : (ds ++ t).dropWhile isDecimal = t := by
    rw [List.dropWhile_append_of_pos hds]
    cases t with
    | nil => rfl
    | cons y u => simp [ht y u rfl]
  simp only [stamped, go_seq, go_group, splitStamp, htake, hdrop]
  cases ds with
  | nil =>
      cases t with
      | nil => rfl
      | cons y u => simp [ht y u rfl]
  | cons d ds =>
      rw [List.cons_append, go_plus_cons, test_digit, if_pos (hds d (by simp)),
        @starGo_append .digit _ _ t (fun x hx => hds x (by simp [hx]))
          (fun y u hy => by simp [isSpace_eq_false_of_isDecimal hy])]
      cases t with
      | nil => simp
      | cons w rest =>
          rw [starGo_cons, if_neg (by simp [ht w rest rfl])]
          by_cases hw : isSpace w = true
          · have hn : ds.length + (rest.length + 1) - rest.length = ds.length + 1 := by omega
            simp [hw, hn, List.take_left]
          · simp [hw]

end JazzerLog
