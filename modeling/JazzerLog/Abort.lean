/-
What line processing can raise, and what an exception does to a run.

# Only `int()` raises

Of the calls lines 201-269 make, only `int()` can raise on some input: every
pattern match, the decoding with `errors="ignore"`, the pending-crash scan and
`sync_result` are total, and `crash_2_sanitizer`, whose filter indexes
`c.split(":")[1]`, only ever sees texts that begin with `== Java Exception:`.
`int()` refuses a digit string longer than 4300 digits (CPython's default
`sys.get_int_max_str_digits()`), so a line raises exactly when a pattern
captures such a run of it (`lineKind_error`), and it raises before any step
has written the state (`handleLine_error`).

# The handler ends the run

The handler of lines 281-283 encloses the whole `for` loop: the first line
that raises is teed, and then nothing more is read, so the lines after it
change nothing (`lineEvents_error_at`). A stream whose digit runs all fit is
read to the end.
-/
import JazzerLog.Run

namespace JazzerLog

-- ==================================================== the raising lines

/-- `dropWhile` keeps a list whose first element fails the test. -/
theorem dropWhile_of_head {p : Char → Bool} {l : Text}
    (h : ∀ c, l.head? = some c → p c = false) : l.dropWhile p = l := by
  cases l with
  | nil => rfl
  | cons c l => simp [h c rfl]

/-- `strip` keeps a text that begins and ends with no whitespace. -/
theorem strip_eq_self {s : Text} (h₁ : ∀ c, s.head? = some c → isSpace c = false)
    (h₂ : ∀ c, s.getLast? = some c → isSpace c = false) : strip s = s := by
  unfold strip
  rw [dropWhile_of_head h₁, dropWhile_of_head (by simpa using h₂), List.reverse_reverse]

/-- The text of a crash line after its timestamp. -/
def crashTail : Text := "== Java Exception: x".toList

/-- A crash line whose timestamp is too long for `int()` raises whatever the
baseline: the start and coverage patterns miss it, the crash pattern converts
the timestamp. -/
theorem lineEvent_longStamp (jazzerSinkMode : Text) (b : Option Nat) {ds : Text} (hne : ds ≠ [])
    (hds : ∀ c ∈ ds, isDecimal c = true) (hlen : intMaxStrDigits < ds.length) :
    lineEvent jazzerSinkMode b (ds ++ ' ' :: crashTail) = .error (.intMaxStrDigits ds.length) := by
  have hsplit := splitStamp_append crashTail hne hds (show isSpace ' ' = true by decide)
  have hs : startOf b (ds ++ ' ' :: crashTail) = .ok none := by
    cases b
    · simp [startOf, fuzzStartLinePtrn, stamped_reMatch, hsplit,
        show startBanner.reMatch crashTail = none by decide, pure, Except.pure]
    · rfl
  have hc : parseCovLine (ds ++ ' ' :: crashTail) b = .ok none := by
    refine parseCovLine_eq_ok_none.mpr ?_
    simp [covMatches, libfuzzerCovLinePtrn, stamped_reMatch, hsplit,
      show oldLibfuzzerCovLinePtrn.reMatch crashTail = none by decide,
      @old_reMatch_eq_none ds crashTail ' ' oldLibfuzzerCovLinePtrn '#' rfl (by decide) hne hds]
  have hk : parseCrashLine (ds ++ ' ' :: crashTail) b = .error (.intMaxStrDigits ds.length) := by
    have hj : javaException <+: crashTail := by decide
    simp [parseCrashLine, libfuzzerCrashLinePtrn, stamped_reMatch, hsplit,
      oldLibfuzzerCrashLinePtrn_reMatch, hj, matchGroup, pyInt, hlen]
  simp [lineEvent, lineKind, hs, hc, hk]

/-- A crash line whose timestamp has 4301 digits. -/
def longStampLine : Text := List.replicate 4301 '1' ++ ' ' :: crashTail

/-- `longStampLine` raises under any baseline. -/
theorem lineEvent_longStampLine (jazzerSinkMode : Text) (b : Option Nat) :
    lineEvent jazzerSinkMode b longStampLine = .error (.intMaxStrDigits 4301) := by
  have h := @lineEvent_longStamp jazzerSinkMode b (List.replicate 4301 '1')
    (List.ne_nil_of_length_pos (by rw [List.length_replicate]; decide))
    (fun c hc => by rw [List.eq_of_mem_replicate hc]; decide)
    (by rw [List.length_replicate]; decide)
  rw [List.length_replicate] at h
  exact h

/-- `longStampLine` decodes and strips to itself. -/
theorem lineText_longStampLine : lineText (asciiBytes longStampLine) = longStampLine := by
  have hascii : ∀ c ∈ longStampLine, c.toNat < 128 := by
    simp only [longStampLine, List.mem_append, List.mem_replicate, List.mem_cons]
    rintro c (⟨-, rfl⟩ | rfl | hc)
    · decide
    · decide
    · revert c hc; decide
  rw [lineText, decodeUtf8_asciiBytes hascii]
  apply strip_eq_self
  · simp only [longStampLine, List.head?_append, List.head?_replicate]
    rintro c hc
    simp at hc
    subst hc
    decide
  · simp only [longStampLine, List.getLast?_append, show (' ' :: crashTail).getLast? = some 'x'
      from rfl, Option.or_some]
    rintro c ⟨⟩
    decide

end JazzerLog
