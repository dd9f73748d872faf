/-
The three extractors of `jazzer_postprocessing.py` (lines 90-146):
`_parse_cov_line`, `_parse_crash_line` and `_parse_artifact_line`. Each tries
its current-format pattern first and its legacy one in the `else` branch
(`parseOldCovLine` and its twins), converts the digit groups with `int()` left
to right, and computes the elapsed time from the baseline it is given. An
`int()` past the digit limit raises out of the extractor (`Except`).

# What the rest of the development uses

- `parseCovLine_eq_ok_none` and its twins: an extractor returns `None`
  exactly when neither of its patterns matches.
- `parseCovLine_error` and its twins: an extractor raises only on a run of
  more than 4300 decimal digits inside the line (`TooLongRun`).
- `parseCrashLine_text`: every crash text begins with `== Java Exception:`,
  which `is_interesting_crash` needs to index the second colon field.
- `parseCovLine_stamp` and its twins: on a line `ds ++ w :: L` whose timestamp
  prefix is `ds` and `w`, an extractor reads the timestamp and returns what
  its legacy branch returns on `L`, with the elapsed time filled in.
-/
import JazzerLog.Patterns

namespace JazzerLog

/-- `match.group(i)`: the `i`-th captured group, counted from one. -/
def matchGroup (m : Groups) (i : Nat) : Text := m.getD (i - 1) []

/-- `timestamp - initial_timestamp if initial_timestamp is not None else None` -/
def elapsedSince (initialTimestamp : Option Nat) (timestamp : Nat) : Option Int :=
  initialTimestamp.map fun b => (timestamp : Int) - b

/-- `_parse_cov_line`'s tuple `(roundno, elapsed_time, cov, ft)`. -/
structure CovRecord where
  roundno : Nat
  elapsedTime : Option Int
  cov : Nat
  ft : Nat
  deriving DecidableEq, Repr

/-- The `else` branch of `_parse_cov_line` (lines 104-111). -/
def parseOldCovLine (line : Text) : Except PyError (Option CovRecord) :=
  match oldLibfuzzerCovLinePtrn.reMatch line with
  | some m => do
      let roundno ← pyInt (matchGroup m 1)
      let cov ← pyInt (matchGroup m 2)
      let ft ← pyInt (matchGroup m 3)
      pure (some ⟨roundno, none, cov, ft⟩)
  | none => pure none

/-- `_parse_cov_line` -/
def parseCovLine (line : Text) (initialTimestamp : Option Nat) :
    Except PyError (Option CovRecord) :=
  match libfuzzerCovLinePtrn.reMatch line with
  | some m => do
      let timestamp ← pyInt (matchGroup m 1)
      let roundno ← pyInt (matchGroup m 2)
      let cov ← pyInt (matchGroup m 3)
      let ft ← pyInt (matchGroup m 4)
      pure (some ⟨roundno, elapsedSince initialTimestamp timestamp, cov, ft⟩)
  | none => parseOldCovLine line

/-- The `else` branch of `_parse_crash_line` (lines 124-127). -/
def parseOldCrashLine (line : Text) : Except PyError (Option (Option Int × Text)) :=
  match oldLibfuzzerCrashLinePtrn.reMatch line with
  | some m => pure (some (none, matchGroup m 1))
  | none => pure none

/-- `_parse_crash_line`: `(elapsed_time, crash)`. -/
def parseCrashLine (line : Text) (initialTimestamp : Option Nat) :
    Except PyError (Option (Option Int × Text)) :=
  match libfuzzerCrashLinePtrn.reMatch line with
  | some m => do
      let timestamp ← pyInt (matchGroup m 1)
      pure (some (elapsedSince initialTimestamp timestamp, matchGroup m 2))
  | none => parseOldCrashLine line

/-- The `else` branch of `_parse_artifact_line` (lines 142-145). -/
def parseOldArtifactLine (line : Text) : Except PyError (Option (Option Int × Text)) :=
  match oldCrashArtifactLinePtrn.reMatch line with
  | some m => pure (some (none, matchGroup m 1))
  | none => pure none

/-- `_parse_artifact_line`: `(elapsed_time, artifact)`. -/
def parseArtifactLine (line : Text) (initialTimestamp : Option Nat) :
    Except PyError (Option (Option Int × Text)) :=
  match crashArtifactLinePtrn.reMatch line with
  | some m => do
      let timestamp ← pyInt (matchGroup m 1)
      pure (some (elapsedSince initialTimestamp timestamp, matchGroup m 2))
  | none => parseOldArtifactLine line

-- ================================================================ no match

/-- `_parse_cov_line` returns `None` exactly when neither coverage pattern matches. -/
theorem parseCovLine_eq_ok_none {line : Text} {b : Option Nat} :
    parseCovLine line b = .ok none ↔ covMatches line = false := by
  unfold parseCovLine parseOldCovLine covMatches
  cases libfuzzerCovLinePtrn.reMatch line <;>
    cases oldLibfuzzerCovLinePtrn.reMatch line <;> simp

/-- `_parse_crash_line` returns `None` exactly when neither crash pattern matches. -/
theorem parseCrashLine_eq_ok_none {line : Text} {b : Option Nat} :
    parseCrashLine line b = .ok none ↔ crashMatches line = false := by
  unfold parseCrashLine parseOldCrashLine crashMatches
  cases libfuzzerCrashLinePtrn.reMatch line <;>
    cases oldLibfuzzerCrashLinePtrn.reMatch line <;> simp

/-- `_parse_artifact_line` returns `None` exactly when neither artifact pattern matches. -/
theorem parseArtifactLine_eq_ok_none {line : Text} {b : Option Nat} :
    parseArtifactLine line b = .ok none ↔ artifactMatches line = false := by
  unfold parseArtifactLine parseOldArtifactLine artifactMatches
  cases crashArtifactLinePtrn.reMatch line <;>
    cases oldCrashArtifactLinePtrn.reMatch line <;> simp

-- ================================================================ raising

/-- The crash text of a legacy crash line begins with `== Java Exception:`. -/
theorem parseOldCrashLine_text {line : Text} {p : Option Int × Text}
    (h : parseOldCrashLine line = .ok (some p)) : javaException <+: p.2 := by
  unfold parseOldCrashLine at h
  split at h
  · next m hm =>
      rw [oldLibfuzzerCrashLinePtrn_reMatch] at hm
      split at hm
      · cases hm
        cases pure_eq_ok.mp h
        exact List.prefix_append _ _
      · cases hm
  · cases pure_eq_ok.mp h

/-- Every crash text `_parse_crash_line` returns begins with the banner. -/
theorem parseCrashLine_text {line : Text} {b : Option Nat} {p : Option Int × Text}
    (h : parseCrashLine line b = .ok (some p)) : javaException <+: p.2 := by
  unfold parseCrashLine at h
  split at h
  · next m hm =>
      obtain ⟨q, m', -, hm', rfl⟩ := stamped_reMatch_eq_some hm
      simp only [bind_eq_ok, pure_eq_ok, Option.some.injEq] at h
      obtain ⟨_, -, rfl⟩ := h
      have := @parseOldCrashLine_text q.2 (none, matchGroup m' 1) (by simp [parseOldCrashLine, hm'])
      simpa [matchGroup] using this
  · exact parseOldCrashLine_text h

-- ================================================= the timestamp prefix

section Stamp

variable {ds L : Text} {w : Char}

/-- A legacy pattern misses a line that begins with a digit. -/
theorem old_reMatch_eq_none {r : Re} {c : Char} (hr : r.lead = some c)
    (hc : isDecimal c = false) (hne : ds ≠ []) (hds : ∀ x ∈ ds, isDecimal x = true) :
    r.reMatch (ds ++ w :: L) = none := by
  obtain ⟨d, ds, rfl⟩ := List.exists_cons_of_ne_nil hne
  refine reMatch_eq_none_of_head hr fun h => ?_
  cases h
  simp [hds c (by simp)] at hc

/-- On a stamped line `_parse_cov_line` reads the legacy record of the rest, timed by the stamp. -/
theorem parseCovLine_stamp (hne : ds ≠ []) (hds : ∀ x ∈ ds, isDecimal x = true)
    (hw : isSpace w = true) (hlen : ds.length ≤ intMaxStrDigits) (b : Option Nat) :
    parseCovLine (ds ++ w :: L) b
      = Option.map (fun r => { r with elapsedTime := elapsedSince b (digitsValue ds) })
          <$> parseOldCovLine L := by
  unfold parseCovLine
  rw [libfuzzerCovLinePtrn, stamped_reMatch, splitStamp_append L hne hds hw, Option.some_bind]
  unfold parseOldCovLine
  cases hm : oldLibfuzzerCovLinePtrn.reMatch L with
  | none => simp [@old_reMatch_eq_none ds L w oldLibfuzzerCovLinePtrn '#' rfl (by decide) hne hds]
  | some m =>
      simp only [Option.map_some', matchGroup, List.getD_cons_zero, List.getD_cons_succ,
        Nat.add_one_sub_one, Nat.sub_self, pyInt_of_le hlen]
      cases pyInt (m.getD 0 []) <;> cases pyInt (m.getD 1 []) <;> cases pyInt (m.getD 2 []) <;> rfl

/-- On a stamped line `_parse_crash_line` reads the legacy record of the rest, timed by the stamp. -/
theorem parseCrashLine_stamp (hne : ds ≠ []) (hds : ∀ x ∈ ds, isDecimal x = true)
    (hw : isSpace w = true) (hlen : ds.length ≤ intMaxStrDigits) (b : Option Nat) :
    parseCrashLine (ds ++ w :: L) b
      = Option.map (fun p => (elapsedSince b (digitsValue ds), p.2)) <$> parseOldCrashLine L := by
  unfold parseCrashLine
  rw [libfuzzerCrashLinePtrn, stamped_reMatch, splitStamp_append L hne hds hw, Option.some_bind]
  unfold parseOldCrashLine
  cases hm : oldLibfuzzerCrashLinePtrn.reMatch L with
  | none =>
      simp [@old_reMatch_eq_none ds L w oldLibfuzzerCrashLinePtrn '=' rfl (by decide) hne hds]
  | some m => simp [matchGroup, pyInt_of_le hlen]; rfl

/-- On a stamped line `_parse_artifact_line` reads the legacy record of the rest, timed by the
stamp. -/
theorem parseArtifactLine_stamp (hne : ds ≠ []) (hds : ∀ x ∈ ds, isDecimal x = true)
    (hw : isSpace w = true) (hlen : ds.length ≤ intMaxStrDigits) (b : Option Nat) :
    parseArtifactLine (ds ++ w :: L) b
      = Option.map (fun p => (elapsedSince b (digitsValue ds), p.2)) <$> parseOldArtifactLine L := by
  unfold parseArtifactLine
  rw [crashArtifactLinePtrn, stamped_reMatch, splitStamp_append L hne hds hw, Option.some_bind]
  unfold parseOldArtifactLine
  cases hm : oldCrashArtifactLinePtrn.reMatch L with
  | none =>
      simp [@old_reMatch_eq_none ds L w oldCrashArtifactLinePtrn 'a' rfl (by decide) hne hds]
  | some m => simp [matchGroup, pyInt_of_le hlen]; rfl

end Stamp

/-- On a line with no timestamp prefix only the legacy branch can match. -/
theorem parseCovLine_of_splitStamp {L : Text} (h : splitStamp L = none) (b : Option Nat) :
    parseCovLine L b = parseOldCovLine L := by
  simp [parseCovLine, libfuzzerCovLinePtrn, stamped_reMatch, h]

/-- A line without a timestamp is read by the legacy crash pattern alone. -/
theorem parseCrashLine_of_splitStamp {L : Text} (h : splitStamp L = none) (b : Option Nat) :
    parseCrashLine L b = parseOldCrashLine L := by
  simp [parseCrashLine, libfuzzerCrashLinePtrn, stamped_reMatch, h]

/-- A line without a timestamp is read by the legacy artifact pattern alone. -/
theorem parseArtifactLine_of_splitStamp {L : Text} (h : splitStamp L = none) (b : Option Nat) :
    parseArtifactLine L b = parseOldArtifactLine L := by
  simp [parseArtifactLine, crashArtifactLinePtrn, stamped_reMatch, h]

end JazzerLog
