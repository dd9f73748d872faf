/-
The six patterns of `jazzer_postprocessing.py` and its exit marker, written
in the fragment of `Regex.lean`. Each current-format pattern is its legacy
twin behind the timestamp prefix `(\d+)\s` (`stamped`), as the source's regex
texts are.

# Exclusivity

The comment at line 206 of the source says that only one extractor matches a
line. It holds of the patterns themselves, on every text
(`extractors_exclusive`): a match fixes the first character of the line (a
legacy pattern) or the first character after the timestamp prefix (a current
one), and the four kinds of line begin with different characters: `O` for the
start banner, `#` for coverage, `=` for a crash, `a` for an artifact. None of
the three legacy ones is a digit, so a legacy and a current pattern cannot
meet either. Only the exit marker, a substring test, can share a line.
-/
import JazzerLog.Regex

namespace JazzerLog

open Re

-- ========================================================= the patterns

/-- `FUZZ_START_LINE_PTRN` after its timestamp prefix; both dots of the
source's text are `.` of `re`. -/
def startBanner : Re :=
  .seq (.lit "OpenJDK 64-Bit Server VM warning: Option CriticalJNINatives was deprecated in version 16".toList) <|
    .seq (.one .any) <|
      .seq (.lit "0 and will likely be removed in a future release".toList) (.one .any)

/-- `FUZZ_START_LINE_PTRN` -/
def fuzzStartLinePtrn : Re := stamped startBanner

/-- `OLD_LIBFUZZER_COV_LINE_PTRN`: `^#(\d+).*cov: (\d+) ft: (\d+)` -/
def oldLibfuzzerCovLinePtrn : Re :=
  .seq (.lit ['#']) <| .seq (.group (.plus .digit)) <| .seq (.star .any) <|
    .seq (.lit "cov: ".toList) <| .seq (.group (.plus .digit)) <|
      .seq (.lit " ft: ".toList) (.group (.plus .digit))

/-- `LIBFUZZER_COV_LINE_PTRN`: `^(\d+)\s#(\d+).*cov: (\d+) ft: (\d+)` -/
def libfuzzerCovLinePtrn : Re := stamped oldLibfuzzerCovLinePtrn

/-- The banner every crash line carries. -/
def javaException : Text := "== Java Exception:".toList

/-- `OLD_LIBFUZZER_CRASH_LINE_PTRN`: `^(== Java Exception:.*)` -/
def oldLibfuzzerCrashLinePtrn : Re := .group (.seq (.lit javaException) (.star .any))

/-- `LIBFUZZER_CRASH_LINE_PTRN`: `^(\d+)\s(== Java Exception:.*)` -/
def libfuzzerCrashLinePtrn : Re := stamped oldLibfuzzerCrashLinePtrn

/-- `[a-z0-9]` -/
def crashIdClass : CharClass := .ranges [('a', 'z'), ('0', '9')]

/-- `OLD_CRASH_ARTIFACT_LINE_PTRN`:
`^artifact_prefix=.*; Test unit written to .*/artifacts/(crash-[a-z0-9]+)` -/
def oldCrashArtifactLinePtrn : Re :=
  .seq (.lit "artifact_prefix=".toList) <| .seq (.star .any) <|
    .seq (.lit "; Test unit written to ".toList) <| .seq (.star .any) <|
      .seq (.lit "/artifacts/".toList) (.group (.seq (.lit "crash-".toList) (.plus crashIdClass)))

/-- `CRASH_ARTIFACT_LINE_PTRN`: the legacy artifact pattern behind `^(\d+)\s`. -/
def crashArtifactLinePtrn : Re := stamped oldCrashArtifactLinePtrn

/-- `JAZZER_EXIT_LOG` -/
def jazzerExitLog : Text := "@@@@@ exit code of Jazzer".toList

-- ===================================================== leading characters

/-- The character every text a pattern matches begins with, when the pattern
begins with a literal. -/
def Re.lead : Re → Option Char
  | .lit (c :: _) => some c
  | .group r => r.lead
  | .seq r _ => r.lead
  | _ => none

/-- A pattern that begins with a literal only matches texts that begin with it. -/
theorem head_of_go {r : Re} {c : Char} (hr : r.lead = some c) :
    ∀ {s : Text} {k : Cont} {g : Groups}, r.go s k = some g → s.head? = some c := by
  induction r with
  | lit l =>
      intro s k g h
      rw [go_lit] at h
      split at h
      · next hp =>
          obtain ⟨t, rfl⟩ := hp
          cases l with
          | nil => cases hr
          | cons x l => cases hr; rfl
      · cases h
  | group r ih => intro s k g h; exact ih hr h
  | seq r₁ r₂ ih₁ _ => intro s k g h; exact ih₁ hr h
  | one => cases hr
  | star => cases hr
  | plus => cases hr

/-- A pattern that begins with a literal misses texts that begin otherwise. -/
theorem reMatch_eq_none_of_head {r : Re} {c : Char} (hr : r.lead = some c) {s : Text}
    (hs : s.head? ≠ some c) : r.reMatch s = none := by
  cases h : r.reMatch s with
  | none => rfl
  | some g => exact absurd (head_of_go hr h) hs

/-- The timestamp prefix splits every text its patterns match. -/
theorem stamped_reMatch (r : Re) (s : Text) :
    (stamped r).reMatch s = (splitStamp s).bind fun p => (r.reMatch p.2).map (p.1 :: ·) :=
  stamped_go r s _

/-- A match of a current-format pattern: the timestamp, then the groups of its
legacy twin on the rest of the line. -/
theorem stamped_reMatch_eq_some {r : Re} {s : Text} {m : Groups}
    (h : (stamped r).reMatch s = some m) :
    ∃ q m', splitStamp s = some q ∧ r.reMatch q.2 = some m' ∧ m = q.1 :: m' := by
  rw [stamped_reMatch] at h
  cases hq : splitStamp s with
  | none => simp [hq] at h
  | some q =>
      rw [hq, Option.some_bind] at h
      obtain ⟨m', hm', rfl⟩ := Option.map_eq_some'.mp h
      exact ⟨q, m', rfl, hm', rfl⟩

/-- A text the timestamp prefix splits begins with a decimal digit. -/
theorem head_of_splitStamp {s : Text} {p : Text × Text} (h : splitStamp s = some p) :
    ∃ d, s.head? = some d ∧ isDecimal d = true := by
  unfold splitStamp at h
  cases hs : s with
  | nil => simp [hs] at h
  | cons d t =>
      refine ⟨d, rfl, ?_⟩
      by_contra hd
      simp [hs, hd] at h

/-- Where a pattern can match: texts beginning with `c`, or texts whose
timestamp prefix is followed by `c`. -/
inductive Sig where
  | bare (c : Char)
  | stamp (c : Char)

/-- A text fits a leading-character signature. -/
def Sig.Fits : Sig → Text → Prop
  | .bare c, s => s.head? = some c
  | .stamp c, s => ∃ p, splitStamp s = some p ∧ p.2.head? = some c

/-- A legacy pattern's match fits the signature of its first character. -/
theorem fits_bare {r : Re} {c : Char} {s : Text} (h : (r.reMatch s).isSome)
    (hr : r.lead = some c) : (Sig.bare c).Fits s := by
  obtain ⟨g, hg⟩ := Option.isSome_iff_exists.mp h
  exact head_of_go hr hg

/-- A current-format pattern's match fits the stamped signature of its first character. -/
theorem fits_stamp {r : Re} {c : Char} {s : Text} (h : ((stamped r).reMatch s).isSome)
    (hr : r.lead = some c) : (Sig.stamp c).Fits s := by
  rw [stamped_reMatch] at h
  cases hp : splitStamp s with
  | none => simp [hp] at h
  | some p =>
      simp only [hp, Option.bind, Option.isSome_map] at h
      obtain ⟨g, hg⟩ := Option.isSome_iff_exists.mp h
      obtain ⟨g', hg', -⟩ := Option.map_eq_some'.mp hg
      exact ⟨p, hp, head_of_go hr hg'⟩

/-- Two legacy signatures that fit one text have the same first character. -/
theorem Sig.bare_bare {s : Text} {c c' : Char} (h : (Sig.bare c).Fits s)
    (h' : (Sig.bare c').Fits s) : c = c' :=
  Option.some.inj (h.symm.trans h')

/-- Two stamped signatures that fit one text have the same first character. -/
theorem Sig.stamp_stamp {s : Text} {c c' : Char} (h : (Sig.stamp c).Fits s)
    (h' : (Sig.stamp c').Fits s) : c = c' := by
  obtain ⟨p, hp, hc⟩ := h
  obtain ⟨q, hq, hc'⟩ := h'
  rw [hp] at hq
  cases hq
  exact Option.some.inj (hc.symm.trans hc')

/-- A text that fits a timestamp signature begins with a digit. -/
theorem Sig.bare_stamp {s : Text} {c c' : Char} (h : (Sig.bare c).Fits s)
    (h' : (Sig.stamp c').Fits s) : isDecimal c = true := by
  obtain ⟨p, hp, -⟩ := h'
  obtain ⟨d, hd, hdec⟩ := head_of_splitStamp hp
  have hc : s.head? = some c := h
  rw [hd] at hc
  cases hc
  exact hdec

-- ============================================================ exclusivity

/-- The legacy crash pattern captures the banner and the rest of the line up
to its first newline. -/
theorem oldLibfuzzerCrashLinePtrn_reMatch (s : Text) :
    oldLibfuzzerCrashLinePtrn.reMatch s =
      if javaException <+: s then
        some [javaException ++ (s.drop javaException.length).takeWhile CharClass.any.test]
      else none := by
  simp only [Re.reMatch, oldLibfuzzerCrashLinePtrn, go_group, go_seq, go_lit, go_star]
  split
  · next h =>
      obtain ⟨t, rfl⟩ := h
      rw [starGo_of_isSome (by simp), List.drop_left]
      have hlen : (javaException ++ t).length - (t.dropWhile CharClass.any.test).length
          = (javaException ++ t.takeWhile CharClass.any.test).length := by
        have := congrArg List.length (List.takeWhile_append_dropWhile CharClass.any.test t)
        simp only [List.length_append] at this ⊢
        omega
      have htw : t.take (t.takeWhile CharClass.any.test).length = t.takeWhile CharClass.any.test :=
        (List.prefix_iff_eq_take.mp (List.takeWhile_prefix _)).symm
      rw [hlen, List.take_append_eq_append_take, List.length_append,
        List.take_of_length_le (by omega), Nat.add_sub_cancel_left, htw]
      rfl
  · rfl

/-- Line 210: the start banner matches. -/
def startMatches (line : Text) : Bool := (fuzzStartLinePtrn.reMatch line).isSome

/-- `_parse_cov_line` finds a match, in either format. -/
def covMatches (line : Text) : Bool :=
  (libfuzzerCovLinePtrn.reMatch line).isSome || (oldLibfuzzerCovLinePtrn.reMatch line).isSome

/-- `_parse_crash_line` finds a match, in either format. -/
def crashMatches (line : Text) : Bool :=
  (libfuzzerCrashLinePtrn.reMatch line).isSome || (oldLibfuzzerCrashLinePtrn.reMatch line).isSome

/-- `_parse_artifact_line` finds a match, in either format. -/
def artifactMatches (line : Text) : Bool :=
  (crashArtifactLinePtrn.reMatch line).isSome || (oldCrashArtifactLinePtrn.reMatch line).isSome

/-- The signatures of a kind of line: its current and its legacy format. -/
def KindFits (c : Char) (s : Text) : Prop := (Sig.stamp c).Fits s ∨ (Sig.bare c).Fits s

/-- A start line fits the signatures of the start pattern. -/
theorem kindFits_of_startMatches {s : Text} (h : startMatches s = true) : KindFits 'O' s :=
  .inl (fits_stamp h rfl)

/-- A coverage line fits the signatures of the coverage patterns. -/
theorem kindFits_of_covMatches {s : Text} (h : covMatches s = true) : KindFits '#' s :=
  (Bool.or_eq_true _ _).mp h |>.imp (@fits_stamp oldLibfuzzerCovLinePtrn _ s · rfl)
    (@fits_bare oldLibfuzzerCovLinePtrn _ s · rfl)

/-- A crash line fits the signatures of the crash patterns. -/
theorem kindFits_of_crashMatches {s : Text} (h : crashMatches s = true) : KindFits '=' s :=
  (Bool.or_eq_true _ _).mp h |>.imp (@fits_stamp oldLibfuzzerCrashLinePtrn _ s · rfl)
    (@fits_bare oldLibfuzzerCrashLinePtrn _ s · rfl)

/-- An artifact line fits the signatures of the artifact patterns. -/
theorem kindFits_of_artifactMatches {s : Text} (h : artifactMatches s = true) :
    KindFits 'a' s :=
  (Bool.or_eq_true _ _).mp h |>.imp (@fits_stamp oldCrashArtifactLinePtrn _ s · rfl)
    (@fits_bare oldCrashArtifactLinePtrn _ s · rfl)

/-- Two kinds of line whose leading characters differ, and are no digits,
never meet. -/
theorem kindFits_apart {s : Text} {c c' : Char} (hne : c ≠ c') (hc : isDecimal c = false)
    (hc' : isDecimal c' = false) (h : KindFits c s) (h' : KindFits c' s) : False := by
  rcases h with h | h <;> rcases h' with h' | h'
  · exact hne (Sig.stamp_stamp h h')
  · exact absurd (Sig.bare_stamp h' h) (by simp [hc'])
  · exact absurd (Sig.bare_stamp h h') (by simp [hc])
  · exact hne (Sig.bare_bare h h')

/-- A start line is no coverage line. -/
theorem covMatches_eq_false_of_start {s : Text} (h : startMatches s = true) :
    covMatches s = false :=
  Bool.eq_false_iff.mpr fun h' => kindFits_apart (by decide) (by decide) (by decide)
    (kindFits_of_startMatches h) (kindFits_of_covMatches h')

/-- A start line is no crash line. -/
theorem crashMatches_eq_false_of_start {s : Text} (h : startMatches s = true) :
    crashMatches s = false :=
  Bool.eq_false_iff.mpr fun h' => kindFits_apart (by decide) (by decide) (by decide)
    (kindFits_of_startMatches h) (kindFits_of_crashMatches h')

/-- A start line is no artifact line. -/
theorem artifactMatches_eq_false_of_start {s : Text} (h : startMatches s = true) :
    artifactMatches s = false :=
  Bool.eq_false_iff.mpr fun h' => kindFits_apart (by decide) (by decide) (by decide)
    (kindFits_of_startMatches h) (kindFits_of_artifactMatches h')

/-- A coverage line is no crash line. -/
theorem crashMatches_eq_false_of_cov {s : Text} (h : covMatches s = true) :
    crashMatches s = false :=
  Bool.eq_false_iff.mpr fun h' => kindFits_apart (by decide) (by decide) (by decide)
    (kindFits_of_covMatches h) (kindFits_of_crashMatches h')

/-- A coverage line is no artifact line. -/
theorem artifactMatches_eq_false_of_cov {s : Text} (h : covMatches s = true) :
    artifactMatches s = false :=
  Bool.eq_false_iff.mpr fun h' => kindFits_apart (by decide) (by decide) (by decide)
    (kindFits_of_covMatches h) (kindFits_of_artifactMatches h')

/-- A crash line is no artifact line. -/
theorem artifactMatches_eq_false_of_crash {s : Text} (h : crashMatches s = true) :
    artifactMatches s = false :=
  Bool.eq_false_iff.mpr fun h' => kindFits_apart (by decide) (by decide) (by decide)
    (kindFits_of_crashMatches h) (kindFits_of_artifactMatches h')

/-- At most one of the start, coverage, crash and artifact extractors matches
any text. -/
theorem extractors_exclusive (line : Text) :
    [startMatches line, covMatches line, crashMatches line, artifactMatches line].count true
      ≤ 1 := by
  cases h₁ : startMatches line
  · cases h₂ : covMatches line
    · cases h₃ : crashMatches line
      · cases artifactMatches line <;> simp
      · simp [artifactMatches_eq_false_of_crash h₃]
    · simp [crashMatches_eq_false_of_cov h₂, artifactMatches_eq_false_of_cov h₂]
  · simp [covMatches_eq_false_of_start h₁, crashMatches_eq_false_of_start h₁,
      artifactMatches_eq_false_of_start h₁]

end JazzerLog
