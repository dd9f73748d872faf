/-
`parse_log_in_stream` (lines 149-283) as a state machine over raw lines.

# The state

`ParserState` holds the locals of the function: the five series, the pending
queue and the seen set, the scalar summary, the dump flag, the baseline and the
round base. `fuzz_statuses` and `all_fuzz_statuses` are left out: they are
written and never read. `FuzzData` is what `sync_result` writes into the
caller's dict.

# One line

`handleLine` is the extractor chain of lines 206-269, one step per numbered
comment of the source. A step that raises returns the exception with the state
as it stood when it was raised: the live lists, which `fuzz_data` aliases.
`processLine` tees the raw line, decodes and strips it, runs the chain, syncs
and dumps; an exception ends the whole run at the handler of lines 281-283,
which encloses the `for` loop, and the run reads no line after it.

# A dump that records

Here `dump_fuzz_data` records a copy of `fuzz_data` (`Run.settle`), and every
result about the loop is stated for such a dump. In the script the call can
raise: `json.dump` refuses an int of more than 4300 digits with a
`ValueError`, which the same handler of lines 281-283 catches, ending the
loop. `JazzerLog.Script` runs the loop with that failure (`processLineScript`)
and relates it to this one: it is this loop cut at its first dump that cannot
be written.
-/
import JazzerLog.Triage
import JazzerLog.Decode

namespace JazzerLog

/-- The keys `sync_result` writes into `fuzz_data`. -/
structure FuzzData where
  covOverTime : List (Option Int × Nat)
  ftOverTime : List (Option Int × Nat)
  logCrashOverTime : List (Option Int × Text)
  artifactOverTime : List (Option Int × Text)
  logTriageCrashOverTime : List TriageEntry
  ttlRound : Nat
  lastCov : Nat
  lastFt : Nat
  maxCov : Nat
  maxFt : Nat
  deriving DecidableEq, Repr

/-- The locals of `parse_log_in_stream`, with their initial values. -/
structure ParserState where
  covOverTime : List (Option Int × Nat) := []
  ftOverTime : List (Option Int × Nat) := []
  logCrashOverTime : List (Option Int × Text) := []
  artifactOverTime : List (Option Int × Text) := []
  logTriageCrashOverTime : List TriageEntry := []
  pendingCrashes : List PendingCrash := []
  seenSanitizers : List Text := []
  ttlRound : Nat := 0
  lastCov : Nat := 0
  lastFt : Nat := 0
  maxCov : Nat := 0
  maxFt : Nat := 0
  needDump : Bool := false
  initialTimestamp : Option Nat := none
  ttlRoundnoBase : Nat := 0
  deriving DecidableEq, Repr

/-- `sync_result` -/
def syncResult (s : ParserState) : FuzzData :=
  ⟨s.covOverTime, s.ftOverTime, s.logCrashOverTime, s.artifactOverTime,
    s.logTriageCrashOverTime, s.ttlRound, s.lastCov, s.lastFt, s.maxCov, s.maxFt⟩

/-- The locals the pending-crash scan works on. -/
def ParserState.scan (s : ParserState) : Scan :=
  ⟨s.pendingCrashes, s.seenSanitizers, s.logTriageCrashOverTime, s.needDump⟩

/-- The state after the scan has worked on its locals. -/
def ParserState.withScan (s : ParserState) (c : Scan) : ParserState :=
  { s with
    pendingCrashes := c.pendingCrashes
    seenSanitizers := c.seenSanitizers
    logTriageCrashOverTime := c.logTriageCrashOverTime
    needDump := c.needDump }

/-- Lines 212-213: the first start line sets the baseline. -/
def ParserState.setBaseline (s : ParserState) (t : Nat) : ParserState :=
  { s with initialTimestamp := some t, needDump := true }

/-- Lines 218-223: the update block of a coverage line. -/
def ParserState.recordCov (s : ParserState) (r : CovRecord) : ParserState :=
  { s with
    lastCov := r.cov
    maxCov := max s.maxCov r.cov
    lastFt := r.ft
    maxFt := max s.maxFt r.ft
    covOverTime := s.covOverTime ++ [(r.elapsedTime, r.cov)]
    ftOverTime := s.ftOverTime ++ [(r.elapsedTime, r.ft)]
    ttlRound := s.ttlRoundnoBase + r.roundno }

/-- Lines 235-236: a classified crash of a fresh class joins the queue. -/
def ParserState.enqueue (s : ParserState) (elapsedTime : Option Int) (crash : Text) :
    Option Text → ParserState
  | some sanitizer =>
      if isFresh s.seenSanitizers sanitizer then
        { s with pendingCrashes := s.pendingCrashes ++ [⟨elapsedTime, crash, sanitizer⟩] }
      else s
  | none => s

/-- `enqueue` as a record update: the queue grows by the crash when its class is
fresh. -/
theorem enqueue_eq (s : ParserState) (elapsedTime : Option Int) (crash : Text)
    (sanitizer : Option Text) :
    s.enqueue elapsedTime crash sanitizer =
      { s with
        pendingCrashes := s.pendingCrashes ++
          ((sanitizer.filter (isFresh s.seenSanitizers)).map (⟨elapsedTime, crash, ·⟩)).toList } := by
  cases sanitizer with
  | none => simp [ParserState.enqueue]
  | some c =>
      by_cases h : isFresh s.seenSanitizers c = true <;> simp [ParserState.enqueue, h, Option.filter]

/-- Lines 231-236: a crash line is logged, then queued by its class. -/
def ParserState.recordCrash (s : ParserState) (elapsedTime : Option Int) (crash : Text)
    (sanitizer : Option Text) : ParserState :=
  { s with logCrashOverTime := s.logCrashOverTime ++ [(elapsedTime, crash)] }.enqueue
    elapsedTime crash sanitizer

/-- Lines 242-261: an artifact line is logged and scans the queue. -/
def ParserState.recordArtifact (s : ParserState) (elapsedTime : Option Int) (artifact : Text) :
    ParserState :=
  let s := { s with artifactOverTime := s.artifactOverTime ++ [(elapsedTime, artifact)] }
  s.withScan (scanPendingCrashes elapsedTime artifact s.scan 0)

/-- Line 265: an exit line closes the run segment. -/
def ParserState.closeSegment (s : ParserState) : ParserState :=
  { s with ttlRoundnoBase := s.ttlRound }

-- ================================================================ one line

/-- What a step of the chain returns: the next state, or the exception with the
state it was raised in. -/
abbrev StepResult := Except (PyError × ParserState) ParserState

/-- Run a computation that may raise, tagging its exception with the state. -/
def raisesIn {α : Type} (s : ParserState) (x : Except PyError α) :
    Except (PyError × ParserState) α :=
  x.mapError (·, s)

/-- Lines 209-213 -/
def startStep (s : ParserState) (line : Text) : StepResult :=
  match s.initialTimestamp with
  | some _ => pure s
  | none =>
      match fuzzStartLinePtrn.reMatch line with
      | some m => do
          let t ← raisesIn s (pyInt (matchGroup m 1))
          pure (s.setBaseline t)
      | none => pure s

/-- Lines 216-225 -/
def covStep (s : ParserState) (line : Text) : StepResult := do
  match ← raisesIn s (parseCovLine line s.initialTimestamp) with
  | some r => pure (s.recordCov r)
  | none => pure s

/-- Lines 228-236: the crash is logged before it is classified. -/
def crashStep (jazzerSinkMode : Text) (s : ParserState) (line : Text) : StepResult := do
  match ← raisesIn s (parseCrashLine line s.initialTimestamp) with
  | some (elapsedTime, crash) =>
      let logged := { s with logCrashOverTime := s.logCrashOverTime ++ [(elapsedTime, crash)] }
      let sanitizer ← raisesIn logged (crash2Sanitizer jazzerSinkMode crash)
      pure (s.recordCrash elapsedTime crash sanitizer)
  | none => pure s

/-- Lines 239-261 -/
def artifactStep (s : ParserState) (line : Text) : StepResult := do
  match ← raisesIn s (parseArtifactLine line s.initialTimestamp) with
  | some (elapsedTime, artifact) => pure (s.recordArtifact elapsedTime artifact)
  | none => pure s

/-- Lines 264-265 -/
def exitStep (s : ParserState) (line : Text) : ParserState :=
  if jazzerExitLog <:+: line then s.closeSegment else s

/-- Lines 206-269: the extractor chain on one decoded line. -/
def handleLine (jazzerSinkMode : Text) (s : ParserState) (line : Text) : StepResult := do
  let s ← startStep s line
  let s ← covStep s line
  let s ← crashStep jazzerSinkMode s line
  let s ← artifactStep s line
  pure (exitStep s line)

-- ================================================================ the run

/-- How the tool was started: `os.environ.get("JAZZER_SINK_MODE", '')` and
`--no-tee`. -/
structure Config where
  jazzerSinkMode : Text
  noTee : Bool
  deriving DecidableEq, Repr

/-- What a run has done so far. -/
structure Run where
  /-- The locals. -/
  state : ParserState := {}
  /-- The raw lines written to `sys.stdout.buffer`, in order. -/
  tee : List ByteLine := []
  /-- `fuzz_data` as last synced; `none` before the first sync. -/
  fuzzData : Option FuzzData := none
  /-- The copies `dump_fuzz_data` recorded, oldest first. -/
  dumps : List FuzzData := []
  /-- The exception the handler of lines 281-283 caught, which ends the run. -/
  caught : Option PyError := none
  deriving DecidableEq, Repr

/-- `str(e)` of the exceptions line processing raises. -/
def PyError.message : PyError → String
  | .intMaxStrDigits n =>
      "Exceeds the limit (4300 digits) for integer string conversion: value has " ++
        toString n ++ " digits; use sys.set_int_max_str_digits() to increase the limit"
  | .indexError => "list index out of range"

/-- The line the handler prints. -/
def PyError.report (e : PyError) : String :=
  "[JAZZER_LOG_PARSER] Error parsing libFuzzer logs: " ++ e.message

/-- Lines 272-276: sync, and dump when a milestone asked for it. The dump
records the synced dict; in the script a dump that cannot be written raises
and ends the loop instead (`processLineScript`). -/
def Run.settle (r : Run) (s : ParserState) : Run :=
  if s.needDump then
    { r with
      state := { s with needDump := false }
      fuzzData := some (syncResult s)
      dumps := r.dumps ++ [syncResult s] }
  else { r with state := s, fuzzData := some (syncResult s) }

/-- One iteration of the `for line in file_obj` loop; a run that has caught an
exception reads nothing more. -/
def processLine (cfg : Config) (r : Run) (raw : ByteLine) : Run :=
  match r.caught with
  | some _ => r
  | none =>
      let r := if cfg.noTee then r else { r with tee := r.tee ++ [raw] }
      match handleLine cfg.jazzerSinkMode r.state (strip (decodeUtf8 raw)) with
      | .ok s => r.settle s
      | .error (e, s) => { r with state := s, caught := some e }

/-- `parse_log_in_stream` over a stream of raw lines. -/
def parseLogInStream (cfg : Config) (lines : List ByteLine) : Run :=
  lines.foldl (processLine cfg) {}

end JazzerLog
