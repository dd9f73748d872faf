/-
The abstract reading of a line: what kind of line the extractors find in it
under the baseline in force, and whether it carries the exit marker
(`lineEvent`), and the state change that causes (`ParserState.observe`).
`handleLine_eq` connects the two to the faithful chain of `Stream.lean`: a line
either yields its event, and the chain applies it, or raises, and the chain
raises the same exception with the state it was given.

# One kind per line

The chain tries every extractor on every line; `lineKind` stops at the first
that matches. The two agree because the patterns exclude each other
(`covMatches_eq_false_of_start` and its twins): a line is a start line, a
coverage line, a crash line, an artifact line or none of these, and only the
exit marker, a substring test, can come on top.

# Why the state survives an exception

An extractor raises only after its own pattern matched, so by exclusivity no
earlier step of the chain has touched the state when a later one raises; the
classifier of a crash never raises (`crash2Sanitizer_ne_error`). This is what
makes `fuzz_data`, whose lists alias the live ones, agree with the last sync
after the handler has caught the exception.
-/
import JazzerLog.Stream

namespace JazzerLog

/-- What the extractors find in a line. -/
inductive LineKind where
  /-- A start line read while no baseline is set, with its timestamp. -/
  | start (timestamp : Nat)
  /-- A coverage line. -/
  | cov (r : CovRecord)
  /-- A crash line: its elapsed time, its text and its class. -/
  | crash (elapsedTime : Option Int) (crash : Text) (sanitizer : Option Text)
  /-- An artifact line: its elapsed time and the artifact's id. -/
  | artifact (elapsedTime : Option Int) (artifact : Text)
  /-- Any other line. -/
  | other
  deriving DecidableEq, Repr

/-- The record of a coverage line. -/
def LineKind.covRecord? : LineKind → Option CovRecord
  | .cov r => some r
  | _ => none

/-- The record of a crash line. -/
def LineKind.crashRecord? : LineKind → Option (Option Int × Text × Option Text)
  | .crash e c k => some (e, c, k)
  | _ => none

/-- The record of an artifact line. -/
def LineKind.artifactRecord? : LineKind → Option (Option Int × Text)
  | .artifact e a => some (e, a)
  | _ => none

/-- What one line is, as the chain reads it. -/
structure LineEvent where
  kind : LineKind
  /-- The exit marker occurs in the line. -/
  exit : Bool
  deriving DecidableEq, Repr

/-- Lines 209-212 as a value: the timestamp of a start line read while no
baseline is set. -/
def startOf (b : Option Nat) (line : Text) : Except PyError (Option Nat) :=
  match b with
  | some _ => pure none
  | none =>
      match fuzzStartLinePtrn.reMatch line with
      | some m => some <$> pyInt (matchGroup m 1)
      | none => pure none

/-- The first extractor of the chain that matches the line under baseline
`b`, with the class `crash_2_sanitizer` gives a crash. -/
def lineKind (jazzerSinkMode : Text) (b : Option Nat) (line : Text) :
    Except PyError LineKind :=
  startOf b line >>= fun
    | some t => pure (.start t)
    | none => parseCovLine line b >>= fun
      | some r => pure (.cov r)
      | none => parseCrashLine line b >>= fun
        | some (e, c) => LineKind.crash e c <$> crash2Sanitizer jazzerSinkMode c
        | none => parseArtifactLine line b >>= fun
          | some (e, a) => pure (.artifact e a)
          | none => pure .other

/-- The event of a line under baseline `b`. -/
def lineEvent (jazzerSinkMode : Text) (b : Option Nat) (line : Text) :
    Except PyError LineEvent :=
  (⟨·, decide (jazzerExitLog <:+: line)⟩) <$> lineKind jazzerSinkMode b line

/-- The baseline after a line of kind `k`. -/
def LineKind.baseline (k : LineKind) (b : Option Nat) : Option Nat :=
  match k with
  | .start t => some t
  | _ => b

/-- The state change of a line of kind `k`. -/
def ParserState.apply (s : ParserState) : LineKind → ParserState
  | .start t => s.setBaseline t
  | .cov r => s.recordCov r
  | .crash e c k => s.recordCrash e c k
  | .artifact e a => s.recordArtifact e a
  | .other => s

/-- The state change an event causes: its kind's, then the exit line's. -/
def ParserState.observe (s : ParserState) (ev : LineEvent) : ParserState :=
  if ev.exit then (s.apply ev.kind).closeSegment else s.apply ev.kind

-- ==================================================== the step lemma

/-- The result of a step as a function of what its extractor returned. -/
def stepBy {α : Type} (s : ParserState) (x : Except PyError (Option α))
    (f : α → ParserState) : StepResult :=
  match x with
  | .ok (some a) => .ok (f a)
  | .ok none => .ok s
  | .error e => .error (e, s)

/-- The start step runs the start extractor under the baseline. -/
theorem startStep_eq (s : ParserState) (line : Text) :
    startStep s line = stepBy s (startOf s.initialTimestamp line) s.setBaseline := by
  unfold startStep startOf
  cases s.initialTimestamp with
  | some => rfl
  | none =>
      cases fuzzStartLinePtrn.reMatch line with
      | none => rfl
      | some m =>
          cases h : pyInt (matchGroup m 1) <;>
            simp [h, raisesIn, stepBy, bind, Except.bind, Except.mapError, Functor.map,
              Except.map, pure, Except.pure]

/-- The coverage step runs `_parse_cov_line` under the baseline. -/
theorem covStep_eq (s : ParserState) (line : Text) :
    covStep s line = stepBy s (parseCovLine line s.initialTimestamp) s.recordCov := by
  unfold covStep raisesIn
  rcases parseCovLine line s.initialTimestamp with _ | _ | _ <;> rfl

/-- The artifact step runs `_parse_artifact_line` under the baseline. -/
theorem artifactStep_eq (s : ParserState) (line : Text) :
    artifactStep s line =
      stepBy s (parseArtifactLine line s.initialTimestamp) fun a => s.recordArtifact a.1 a.2 := by
  unfold artifactStep raisesIn
  rcases parseArtifactLine line s.initialTimestamp with _ | _ | _ <;> rfl

/-- The crash step: the classifier of a crash text never raises. -/
theorem crashStep_eq (jazzerSinkMode : Text) (s : ParserState) (line : Text) :
    crashStep jazzerSinkMode s line =
      match parseCrashLine line s.initialTimestamp with
      | .ok (some (e, c)) =>
          (fun k => s.recordCrash e c k) <$> (crash2Sanitizer jazzerSinkMode c).mapError (·, s)
      | .ok none => .ok s
      | .error e => .error (e, s) := by
  unfold crashStep raisesIn
  cases h : parseCrashLine line s.initialTimestamp with
  | error e => rfl
  | ok c =>
      rcases c with _ | ⟨t, crash⟩
      · rfl
      · have hne := crash2Sanitizer_ne_error (parseCrashLine_text h) jazzerSinkMode
        cases hc : crash2Sanitizer jazzerSinkMode crash with
        | error e => exact absurd hc (hne e)
        | ok k => simp [hc, Except.mapError, bind, Except.bind, Functor.map, Except.map, pure,
            Except.pure]

/-- A line the start pattern misses starts nothing. -/
theorem startOf_of_not {line : Text} (h : startMatches line = false) (b : Option Nat) :
    startOf b line = .ok none := by
  cases b with
  | some => rfl
  | none =>
      have hm : fuzzStartLinePtrn.reMatch line = none := by
        simpa [startMatches] using h
      simp [startOf, hm, pure, Except.pure]

/-- A line the start pattern misses leaves the state to the next step. -/
theorem startStep_of_not {line : Text} (h : startMatches line = false) (s : ParserState) :
    startStep s line = .ok s := by
  rw [startStep_eq, startOf_of_not h]; rfl

/-- A line the coverage patterns miss leaves the state to the next step. -/
theorem covStep_of_not {line : Text} (h : covMatches line = false) (s : ParserState) :
    covStep s line = .ok s := by
  rw [covStep_eq, parseCovLine_eq_ok_none.mpr h]; rfl

/-- A line the crash patterns miss leaves the state to the next step. -/
theorem crashStep_of_not (jazzerSinkMode : Text) {line : Text} (h : crashMatches line = false)
    (s : ParserState) : crashStep jazzerSinkMode s line = .ok s := by
  rw [crashStep_eq, parseCrashLine_eq_ok_none.mpr h]

/-- A line the artifact patterns miss leaves the state to the next step. -/
theorem artifactStep_of_not {line : Text} (h : artifactMatches line = false) (s : ParserState) :
    artifactStep s line = .ok s := by
  rw [artifactStep_eq, parseArtifactLine_eq_ok_none.mpr h]; rfl

/-- The chain of one line is its event applied, or the event's exception
raised with the state untouched. -/
theorem handleLine_eq (jazzerSinkMode : Text) (s : ParserState) (line : Text) :
    handleLine jazzerSinkMode s line =
      match lineEvent jazzerSinkMode s.initialTimestamp line with
      | .ok ev => .ok (s.observe ev)
      | .error e => .error (e, s) := by
  have hexit : ∀ t : ParserState, exitStep t line =
      if decide (jazzerExitLog <:+: line) then t.closeSegment else t := fun t => by
    simp [exitStep]
  by_cases hs : startMatches line = true
  · have hc := covMatches_eq_false_of_start hs
    have hk := crashMatches_eq_false_of_start hs
    have ha := artifactMatches_eq_false_of_start hs
    simp only [handleLine, lineEvent, lineKind, covStep_of_not hc, crashStep_of_not _ hk,
      artifactStep_of_not ha, parseCovLine_eq_ok_none.mpr hc, parseCrashLine_eq_ok_none.mpr hk,
      parseArtifactLine_eq_ok_none.mpr ha, ok_bind, startStep_eq]
    rcases startOf s.initialTimestamp line with _ | _ | t <;>
      simp [stepBy, ParserState.observe, ParserState.apply, hexit, pure, Except.pure]
  have h0 := Bool.eq_false_iff.mpr hs
  by_cases hc : covMatches line = true
  · have hk := crashMatches_eq_false_of_cov hc
    have ha := artifactMatches_eq_false_of_cov hc
    simp only [handleLine, lineEvent, lineKind, startStep_of_not h0, crashStep_of_not _ hk,
      artifactStep_of_not ha, startOf_of_not h0, parseCrashLine_eq_ok_none.mpr hk,
      parseArtifactLine_eq_ok_none.mpr ha, ok_bind, covStep_eq]
    rcases parseCovLine line s.initialTimestamp with _ | _ | r <;>
      simp [stepBy, ParserState.observe, ParserState.apply, hexit, pure, Except.pure]
  have hc' := Bool.eq_false_iff.mpr hc
  by_cases hk : crashMatches line = true
  · have ha := artifactMatches_eq_false_of_crash hk
    simp only [handleLine, lineEvent, lineKind, startStep_of_not h0, covStep_of_not hc',
      artifactStep_of_not ha, startOf_of_not h0, parseCovLine_eq_ok_none.mpr hc',
      parseArtifactLine_eq_ok_none.mpr ha, ok_bind, crashStep_eq]
    rcases parseCrashLine line s.initialTimestamp with _ | _ | ⟨e, c⟩
    · rfl
    · simp [ParserState.observe, ParserState.apply, hexit, pure, Except.pure]
    · cases h : crash2Sanitizer jazzerSinkMode c <;>
        simp [h, ParserState.observe, ParserState.apply, hexit, Except.mapError]
  have hk' := Bool.eq_false_iff.mpr hk
  simp only [handleLine, lineEvent, lineKind, startStep_of_not h0, covStep_of_not hc',
    crashStep_of_not _ hk', startOf_of_not h0, parseCovLine_eq_ok_none.mpr hc',
    parseCrashLine_eq_ok_none.mpr hk', ok_bind, artifactStep_eq]
  rcases parseArtifactLine line s.initialTimestamp with _ | _ | ⟨e, a⟩ <;>
    simp [stepBy, ParserState.observe, ParserState.apply, hexit, pure, Except.pure]

-- ============================================== what a line's kind says

/-- What the extractors returned for a line of kind `k`: the inversion of
`lineKind`. -/
def KindFound (jazzerSinkMode : Text) (b : Option Nat) (line : Text) : LineKind → Prop
  | .start t => startOf b line = .ok (some t)
  | .cov r => startOf b line = .ok none ∧ parseCovLine line b = .ok (some r)
  | .crash e c cls => startOf b line = .ok none ∧ parseCovLine line b = .ok none ∧
      parseCrashLine line b = .ok (some (e, c)) ∧ crash2Sanitizer jazzerSinkMode c = .ok cls
  | .artifact e a => startOf b line = .ok none ∧ parseCovLine line b = .ok none ∧
      parseCrashLine line b = .ok none ∧ parseArtifactLine line b = .ok (some (e, a))
  | .other => startOf b line = .ok none ∧ parseCovLine line b = .ok none ∧
      parseCrashLine line b = .ok none ∧ parseArtifactLine line b = .ok none

/-- The kind of a line says what each extractor returned on it. -/
theorem kindFound_of_lineKind {jazzerSinkMode : Text} {b : Option Nat} {line : Text}
    {k : LineKind} (h : lineKind jazzerSinkMode b line = .ok k) :
    KindFound jazzerSinkMode b line k := by
  unfold lineKind at h
  rcases h0 : startOf b line with _ | _ | t <;> simp only [h0, error_bind, ok_bind] at h
  · cases h
  · rcases h1 : parseCovLine line b with _ | _ | r <;> simp only [h1, error_bind, ok_bind] at h
    · cases h
    · rcases h2 : parseCrashLine line b with _ | _ | ⟨e, c⟩ <;>
        simp only [h2, error_bind, ok_bind] at h
      · cases h
      · rcases h3 : parseArtifactLine line b with _ | _ | ⟨e, a⟩ <;>
          simp only [h3, error_bind, ok_bind] at h
        · cases h
        · cases h; exact ⟨h0, h1, h2, h3⟩
        · cases h; exact ⟨h0, h1, h2, h3⟩
      · rcases h4 : crash2Sanitizer jazzerSinkMode c with _ | cls <;>
          simp only [h4, map_error] at h
        · cases h
        · cases h; exact ⟨h0, h1, h2, h4⟩
    · cases h; exact ⟨h0, h1⟩
  · cases h; exact h0

/-- A start is found only while the baseline is unset, on a start line. -/
theorem startOf_ok_some {b : Option Nat} {line : Text} {t : Nat}
    (h : startOf b line = .ok (some t)) : b = none ∧ startMatches line = true := by
  unfold startOf at h
  cases b with
  | some => cases h
  | none =>
      cases hm : fuzzStartLinePtrn.reMatch line with
      | none => simp [hm, pure, Except.pure] at h
      | some m => exact ⟨rfl, by simp [startMatches, hm]⟩

/-- With the baseline unset, finding no start means the start pattern missed. -/
theorem startOf_ok_none {b : Option Nat} {line : Text} (h : startOf b line = .ok none) :
    b = none → startMatches line = false := by
  rintro rfl
  unfold startOf at h
  cases hm : fuzzStartLinePtrn.reMatch line with
  | none => simp [startMatches, hm]
  | some m => simp [hm, Functor.map, Except.map] at h; split at h <;> cases h

/-- A line is a start line exactly when it is the first to match the start
pattern: no baseline is set yet and the pattern matches. -/
theorem lineKind_isStart {jazzerSinkMode : Text} {b : Option Nat} {line : Text} {k : LineKind}
    (h : lineKind jazzerSinkMode b line = .ok k) :
    (∃ t, k = .start t) ↔ b = none ∧ startMatches line = true := by
  have hf := kindFound_of_lineKind h
  constructor
  · rintro ⟨t, rfl⟩; exact startOf_ok_some hf
  · rintro ⟨rfl, hs⟩
    cases k with
    | start t => exact ⟨t, rfl⟩
    | cov => simp [startOf_ok_none hf.1 rfl] at hs
    | crash => simp [startOf_ok_none hf.1 rfl] at hs
    | artifact => simp [startOf_ok_none hf.1 rfl] at hs
    | other => simp [startOf_ok_none hf.1 rfl] at hs

/-- A line yields a coverage record exactly when `_parse_cov_line` matches it. -/
theorem lineKind_covRecord? {jazzerSinkMode : Text} {b : Option Nat} {line : Text}
    {k : LineKind} (h : lineKind jazzerSinkMode b line = .ok k) :
    k.covRecord?.isSome = covMatches line := by
  have hf := kindFound_of_lineKind h
  cases k with
  | start t => simp [LineKind.covRecord?, covMatches_eq_false_of_start (startOf_ok_some hf).2]
  | cov r =>
      have : covMatches line = true := by
        by_contra hc
        have h1 := hf.2
        rw [parseCovLine_eq_ok_none.mpr (Bool.eq_false_iff.mpr hc)] at h1
        cases h1
      simp [LineKind.covRecord?, this]
  | crash => simp [LineKind.covRecord?, parseCovLine_eq_ok_none.mp hf.2.1]
  | artifact => simp [LineKind.covRecord?, parseCovLine_eq_ok_none.mp hf.2.1]
  | other => simp [LineKind.covRecord?, parseCovLine_eq_ok_none.mp hf.2.1]

/-- A line's event carries its kind and whether it holds the exit marker. -/
theorem lineEvent_ok {jazzerSinkMode : Text} {b : Option Nat} {line : Text} {ev : LineEvent}
    (h : lineEvent jazzerSinkMode b line = .ok ev) :
    lineKind jazzerSinkMode b line = .ok ev.kind ∧ ev.exit = decide (jazzerExitLog <:+: line) := by
  unfold lineEvent at h
  rcases hk : lineKind jazzerSinkMode b line with _ | k <;> simp only [hk, map_error] at h
  · cases h
  · cases h; exact ⟨rfl, rfl⟩

end JazzerLog
