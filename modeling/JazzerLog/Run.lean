/-
`parse_log_in_stream` as a fold of line events. `parseLogInStream_eq` says
that the loop of `Stream.lean` is the run that applies, line after line, the
event `lineEvent` reads off the line, with the tee holding every line the loop
read and the exception of the line that raised.

# The lines a run reads

`lineEvents` threads the baseline through the stream: a start line read while
no baseline is set sets it for every later line. It stops at the first line
whose event raises and returns that line's exception: the handler of lines
281-283 encloses the whole loop, so nothing after that line is read. The
raising line itself has been teed.

# The state after a line

`ParserState.next` is the chain's state change followed by the dump of lines
272-276, which clears `need_dump`; the run's state is the fold of `next` over
the events (`parseLogInStream_state`).
-/
import JazzerLog.Events

namespace JazzerLog

-- ============================================================ the events

/-- Line 205: the text the extractors read of a raw line. -/
def lineText (raw : ByteLine) : Text := strip (decodeUtf8 raw)

/-- The events of a stream's lines up to the first that raises, each read
under the baseline the lines before it set, and that line's exception. -/
def lineEvents (jazzerSinkMode : Text) : Option Nat → List Text → List LineEvent × Option PyError
  | _, [] => ([], none)
  | b, line :: rest =>
      match lineEvent jazzerSinkMode b line with
      | .ok ev =>
          let r := lineEvents jazzerSinkMode (ev.kind.baseline b) rest
          (ev :: r.1, r.2)
      | .error e => ([], some e)

/-- A line that is processed adds its event and hands on its baseline. -/
theorem lineEvents_cons_ok {jazzerSinkMode : Text} {b : Option Nat} {line : Text} {ev : LineEvent}
    (h : lineEvent jazzerSinkMode b line = .ok ev) (rest : List Text) :
    lineEvents jazzerSinkMode b (line :: rest) =
      (ev :: (lineEvents jazzerSinkMode (ev.kind.baseline b) rest).1,
        (lineEvents jazzerSinkMode (ev.kind.baseline b) rest).2) := by
  simp [lineEvents, h]

/-- A line that raises ends the events. -/
theorem lineEvents_cons_error {jazzerSinkMode : Text} {b : Option Nat} {line : Text}
    {e : PyError} (h : lineEvent jazzerSinkMode b line = .error e) (rest : List Text) :
    lineEvents jazzerSinkMode b (line :: rest) = ([], some e) := by
  simp [lineEvents, h]

/-- The events of the lines a run reads, and the exception that ends it. -/
def runEvents (cfg : Config) (lines : List ByteLine) : List LineEvent × Option PyError :=
  lineEvents cfg.jazzerSinkMode none (lines.map lineText)

/-- The baseline in force after the events `evs`, from `b`. -/
def baselineOf (b : Option Nat) (evs : List LineEvent) : Option Nat :=
  evs.foldl (fun b ev => ev.kind.baseline b) b

section Events

variable {jazzerSinkMode : Text}

/-- A run has at most one event per line. -/
theorem lineEvents_length_le (b : Option Nat) (texts : List Text) :
    (lineEvents jazzerSinkMode b texts).1.length ≤ texts.length := by
  induction texts generalizing b with
  | nil => simp [lineEvents]
  | cons line rest ih =>
      simp only [lineEvents]
      split <;> simp [ih]

/-- Each event is its line's, read under the baseline of the events before it. -/
theorem lineEvent_of_lineEvents {b : Option Nat} {texts : List Text} {pre post : List LineEvent}
    {ev : LineEvent} (h : (lineEvents jazzerSinkMode b texts).1 = pre ++ ev :: post) :
    lineEvent jazzerSinkMode (baselineOf b pre) (texts.getD pre.length []) = .ok ev := by
  induction texts generalizing b pre with
  | nil => cases pre <;> simp [lineEvents] at h
  | cons line rest ih =>
      simp only [lineEvents] at h
      split at h
      · next ev' hev =>
          cases pre with
          | nil => cases h; exact hev
          | cons p pre =>
              simp only [List.cons_append, List.cons.injEq] at h
              obtain ⟨rfl, h⟩ := h
              simpa [baselineOf] using ih h
      · cases pre <;> simp at h

/-- The events of a prefix of the lines are a prefix of the events. -/
theorem lineEvents_take (b : Option Nat) (texts : List Text) (k : Nat) :
    (lineEvents jazzerSinkMode b (texts.take k)).1 = (lineEvents jazzerSinkMode b texts).1.take k := by
  induction texts generalizing b k with
  | nil => simp [lineEvents]
  | cons line rest ih =>
      cases k with
      | zero => simp [lineEvents]
      | succ k =>
          simp only [List.take_succ_cons, lineEvents]
          split <;> simp [ih]

/-- Counting the events of a kind counts the lines read that match its
pattern. -/
theorem lineEvents_countP (P : LineEvent → Bool) (Q : Text → Bool)
    (hPQ : ∀ b line ev, lineEvent jazzerSinkMode b line = .ok ev → P ev = Q line)
    (b : Option Nat) (texts : List Text) :
    (lineEvents jazzerSinkMode b texts).1.countP P =
      (texts.take (lineEvents jazzerSinkMode b texts).1.length).countP Q := by
  induction texts generalizing b with
  | nil => simp [lineEvents]
  | cons line rest ih =>
      simp only [lineEvents]
      split
      · next ev hev => simp [List.countP_cons, ih, hPQ _ _ _ hev]
      · simp

end Events

-- ========================================================= the event run

/-- Lines 206-276 on a line whose event is `ev`. -/
def Run.observe (r : Run) (ev : LineEvent) : Run := r.settle (r.state.observe ev)

/-- The state after a line: its event applied and `need_dump` cleared. -/
def ParserState.next (s : ParserState) (ev : LineEvent) : ParserState :=
  { s.observe ev with needDump := false }

/-- A line changes the baseline as its kind says. -/
theorem apply_initialTimestamp (s : ParserState) (k : LineKind) :
    (s.apply k).initialTimestamp = k.baseline s.initialTimestamp := by
  cases k <;> simp [ParserState.apply, LineKind.baseline, ParserState.setBaseline,
    ParserState.recordCrash, enqueue_eq, ParserState.recordArtifact, ParserState.withScan,
    ParserState.recordCov]

/-- A line changes the baseline as its kind says, the dump flag aside. -/
theorem observe_initialTimestamp (s : ParserState) (ev : LineEvent) :
    (s.observe ev).initialTimestamp = ev.kind.baseline s.initialTimestamp := by
  unfold ParserState.observe
  split <;> exact apply_initialTimestamp s ev.kind

/-- Observing an event steps the locals. -/
theorem Run.observe_state (r : Run) (ev : LineEvent) :
    (r.observe ev).state = r.state.next ev := by
  unfold Run.observe Run.settle ParserState.next
  split
  · rfl
  · next h =>
      generalize r.state.observe ev = s at h ⊢
      cases s
      simp_all

/-- Observing an event catches nothing. -/
@[simp] theorem Run.observe_caught (r : Run) (ev : LineEvent) : (r.observe ev).caught = r.caught := by
  unfold Run.observe Run.settle; split <;> rfl

/-- Observing an event leaves the tee alone. -/
theorem Run.observe_tee (r : Run) (ev : LineEvent) (t : List ByteLine) :
    Run.observe { r with tee := t } ev = { r.observe ev with tee := t } := by
  unfold Run.observe Run.settle; split <;> rfl

/-- Observing events leaves the tee alone. -/
theorem foldl_observe_tee (evs : List LineEvent) (r : Run) (t : List ByteLine) :
    evs.foldl Run.observe { r with tee := t } = { evs.foldl Run.observe r with tee := t } := by
  induction evs generalizing r with
  | nil => rfl
  | cons ev evs ih => simp only [List.foldl_cons, Run.observe_tee, ih]

/-- The locals after observing events are the fold of the steps. -/
theorem foldl_observe_state (evs : List LineEvent) (r : Run) :
    (evs.foldl Run.observe r).state = evs.foldl ParserState.next r.state := by
  induction evs generalizing r with
  | nil => rfl
  | cons ev evs ih => simp only [List.foldl_cons, ih, Run.observe_state]

-- ===================================================== what a line writes

/-- `next` is `apply` on every field but the dump flag and the round base. -/
theorem next_frame {β : Type} (g : ParserState → β) (hc : ∀ s, g s.closeSegment = g s)
    (hd : ∀ s, g { s with needDump := false } = g s) (s : ParserState) (ev : LineEvent) :
    g (s.next ev) = g (s.apply ev.kind) := by
  unfold ParserState.next ParserState.observe
  split <;> simp only [hd, hc]

/-- A line appends the pair of its coverage record, if any, to `cov_over_time`. -/
@[simp] theorem next_covOverTime (s : ParserState) (ev : LineEvent) :
    (s.next ev).covOverTime =
      s.covOverTime ++ (ev.kind.covRecord?.map fun r => (r.elapsedTime, r.cov)).toList := by
  rw [next_frame ParserState.covOverTime (fun _ => rfl) (fun _ => rfl)]
  cases ev.kind <;> simp [ParserState.apply, LineKind.covRecord?, ParserState.setBaseline,
    ParserState.recordCov, ParserState.recordCrash, enqueue_eq, ParserState.recordArtifact,
    ParserState.withScan]

/-- A line appends the pair of its coverage record, if any, to `ft_over_time`. -/
@[simp] theorem next_ftOverTime (s : ParserState) (ev : LineEvent) :
    (s.next ev).ftOverTime =
      s.ftOverTime ++ (ev.kind.covRecord?.map fun r => (r.elapsedTime, r.ft)).toList := by
  rw [next_frame ParserState.ftOverTime (fun _ => rfl) (fun _ => rfl)]
  cases ev.kind <;> simp [ParserState.apply, LineKind.covRecord?, ParserState.setBaseline,
    ParserState.recordCov, ParserState.recordCrash, enqueue_eq, ParserState.recordArtifact,
    ParserState.withScan]


/-- `last_cov` becomes the coverage of the line's record, if any. -/
@[simp] theorem next_lastCov (s : ParserState) (ev : LineEvent) :
    (s.next ev).lastCov = (ev.kind.covRecord?.map CovRecord.cov).getD s.lastCov := by
  rw [next_frame ParserState.lastCov (fun _ => rfl) (fun _ => rfl)]
  cases ev.kind <;> simp [ParserState.apply, LineKind.covRecord?, ParserState.setBaseline,
    ParserState.recordCov, ParserState.recordCrash, enqueue_eq, ParserState.recordArtifact,
    ParserState.withScan]

/-- `last_ft` becomes the feature count of the line's record, if any. -/
@[simp] theorem next_lastFt (s : ParserState) (ev : LineEvent) :
    (s.next ev).lastFt = (ev.kind.covRecord?.map CovRecord.ft).getD s.lastFt := by
  rw [next_frame ParserState.lastFt (fun _ => rfl) (fun _ => rfl)]
  cases ev.kind <;> simp [ParserState.apply, LineKind.covRecord?, ParserState.setBaseline,
    ParserState.recordCov, ParserState.recordCrash, enqueue_eq, ParserState.recordArtifact,
    ParserState.withScan]

/-- `max_cov` rises to the coverage of the line's record, if any. -/
@[simp] theorem next_maxCov (s : ParserState) (ev : LineEvent) :
    (s.next ev).maxCov = (ev.kind.covRecord?.map fun r => max s.maxCov r.cov).getD s.maxCov := by
  rw [next_frame ParserState.maxCov (fun _ => rfl) (fun _ => rfl)]
  cases ev.kind <;> simp [ParserState.apply, LineKind.covRecord?, ParserState.setBaseline,
    ParserState.recordCov, ParserState.recordCrash, enqueue_eq, ParserState.recordArtifact,
    ParserState.withScan]

/-- `max_ft` rises to the feature count of the line's record, if any. -/
@[simp] theorem next_maxFt (s : ParserState) (ev : LineEvent) :
    (s.next ev).maxFt = (ev.kind.covRecord?.map fun r => max s.maxFt r.ft).getD s.maxFt := by
  rw [next_frame ParserState.maxFt (fun _ => rfl) (fun _ => rfl)]
  cases ev.kind <;> simp [ParserState.apply, LineKind.covRecord?, ParserState.setBaseline,
    ParserState.recordCov, ParserState.recordCrash, enqueue_eq, ParserState.recordArtifact,
    ParserState.withScan]

/-- A coverage record sets `ttl_round` to the round base plus its round. -/
@[simp] theorem next_ttlRound (s : ParserState) (ev : LineEvent) :
    (s.next ev).ttlRound =
      (ev.kind.covRecord?.map fun r => s.ttlRoundnoBase + r.roundno).getD s.ttlRound := by
  rw [next_frame ParserState.ttlRound (fun _ => rfl) (fun _ => rfl)]
  cases ev.kind <;> simp [ParserState.apply, LineKind.covRecord?, ParserState.setBaseline,
    ParserState.recordCov, ParserState.recordCrash, enqueue_eq, ParserState.recordArtifact,
    ParserState.withScan]

/-- An exit line makes the round count the base of the next segment. -/
@[simp] theorem next_ttlRoundnoBase (s : ParserState) (ev : LineEvent) :
    (s.next ev).ttlRoundnoBase = if ev.exit then (s.next ev).ttlRound else s.ttlRoundnoBase := by
  unfold ParserState.next ParserState.observe
  split
  · rfl
  · cases ev.kind <;> simp [ParserState.apply, LineKind.covRecord?, ParserState.setBaseline,
    ParserState.recordCov, ParserState.recordCrash, enqueue_eq, ParserState.recordArtifact,
    ParserState.withScan]

/-- A line appends its crash record, if any, to `log_crash_over_time`. -/
@[simp] theorem next_logCrashOverTime (s : ParserState) (ev : LineEvent) :
    (s.next ev).logCrashOverTime =
      s.logCrashOverTime ++ (ev.kind.crashRecord?.map fun c => (c.1, c.2.1)).toList := by
  rw [next_frame ParserState.logCrashOverTime (fun _ => rfl) (fun _ => rfl)]
  cases ev.kind <;> simp [LineKind.crashRecord?, ParserState.apply, ParserState.setBaseline,
    ParserState.recordCov, ParserState.recordCrash, enqueue_eq, ParserState.recordArtifact,
    ParserState.withScan]

/-- A line appends its artifact record, if any, to `artifact_over_time`. -/
@[simp] theorem next_artifactOverTime (s : ParserState) (ev : LineEvent) :
    (s.next ev).artifactOverTime = s.artifactOverTime ++ ev.kind.artifactRecord?.toList := by
  rw [next_frame ParserState.artifactOverTime (fun _ => rfl) (fun _ => rfl)]
  cases ev.kind <;> simp [LineKind.artifactRecord?, ParserState.apply, ParserState.setBaseline,
    ParserState.recordCov, ParserState.recordCrash, enqueue_eq, ParserState.recordArtifact,
    ParserState.withScan]

-- ================================================= accumulating over a run

section Fold

variable {β : Type}

/-- A field every line extends by at most one entry accumulates the entries
of the whole run. -/
theorem foldl_next_append (g : ParserState → List β) (f : LineEvent → Option β)
    (h : ∀ s ev, g (s.next ev) = g s ++ (f ev).toList) (evs : List LineEvent) (s : ParserState) :
    g (evs.foldl ParserState.next s) = g s ++ evs.filterMap f := by
  induction evs generalizing s with
  | nil => simp
  | cons ev evs ih =>
      rw [List.foldl_cons, ih, h]
      cases hf : f ev <;> simp [List.filterMap_cons, hf]

/-- A field some lines overwrite holds the last value written. -/
theorem foldl_next_last (g : ParserState → β) (f : LineEvent → Option β)
    (h : ∀ s ev, g (s.next ev) = (f ev).getD (g s)) (evs : List LineEvent) (s : ParserState) :
    g (evs.foldl ParserState.next s) = ((evs.filterMap f).getLast?).getD (g s) := by
  induction evs generalizing s with
  | nil => rfl
  | cons ev evs ih =>
      rw [List.foldl_cons, ih, h]
      cases hf : f ev <;> simp [List.filterMap_cons, List.getLast?_cons, hf]

/-- A field some lines raise to a maximum holds the maximum of the values seen. -/
theorem foldl_next_max (g : ParserState → Nat) (f : LineEvent → Option Nat)
    (h : ∀ s ev, g (s.next ev) = ((f ev).map (max (g s))).getD (g s)) (evs : List LineEvent)
    (s : ParserState) : g (evs.foldl ParserState.next s) = (evs.filterMap f).foldl max (g s) := by
  induction evs generalizing s with
  | nil => rfl
  | cons ev evs ih =>
      rw [List.foldl_cons, ih, h]
      cases hf : f ev <;> simp [List.filterMap_cons, hf]

end Fold

-- ======================================================== the refinement

/-- The lines one iteration tees. -/
def teed (cfg : Config) (raw : ByteLine) : List ByteLine := if cfg.noTee then [] else [raw]

/-- One iteration of the loop: the line is teed, then its event is applied or
its exception caught. -/
theorem processLine_eq (cfg : Config) (r : Run) (hr : r.caught = none) (raw : ByteLine) :
    processLine cfg r raw =
      match lineEvent cfg.jazzerSinkMode r.state.initialTimestamp (lineText raw) with
      | .ok ev => { r.observe ev with tee := r.tee ++ teed cfg raw }
      | .error e => { r with tee := r.tee ++ teed cfg raw, caught := some e } := by
  obtain ⟨state, tee, fuzzData, dumps, caught⟩ := r
  subst hr
  unfold processLine teed lineText
  cases cfg.noTee <;>
  · simp only [handleLine_eq, Bool.false_eq_true, ite_true, ite_false]
    cases lineEvent cfg.jazzerSinkMode state.initialTimestamp (strip (decodeUtf8 raw)) with
    | error e => simp
    | ok ev =>
        unfold Run.observe Run.settle
        by_cases h : (state.observe ev).needDump <;> simp [h]

/-- A run that has caught an exception reads nothing more. -/
theorem foldl_processLine_caught (cfg : Config) (lines : List ByteLine) (r : Run) (e : PyError)
    (hr : r.caught = some e) : lines.foldl (processLine cfg) r = r := by
  induction lines with
  | nil => rfl
  | cons raw lines ih => simpa [processLine, hr] using ih

/-- The loop from any run that has caught nothing. -/
theorem foldl_processLine (cfg : Config) (lines : List ByteLine) (r : Run)
    (hr : r.caught = none) :
    let p := lineEvents cfg.jazzerSinkMode r.state.initialTimestamp (lines.map lineText)
    lines.foldl (processLine cfg) r =
      { p.1.foldl Run.observe r with
        tee := r.tee ++ (if cfg.noTee then [] else lines.take (p.1.length + 1))
        caught := p.2 } := by
  induction lines generalizing r with
  | nil => cases r; simp_all [lineEvents]
  | cons raw lines ih =>
      rw [List.foldl_cons, processLine_eq cfg r hr]
      simp only [List.map_cons, lineEvents]
      cases hev : lineEvent cfg.jazzerSinkMode r.state.initialTimestamp (lineText raw) with
      | error e =>
          rw [foldl_processLine_caught cfg lines _ e rfl]
          simp only [teed]
          cases cfg.noTee <;> rfl
      | ok ev =>
          have hb : (r.observe ev).state.initialTimestamp
              = ev.kind.baseline r.state.initialTimestamp := by
            rw [Run.observe_state]; exact observe_initialTimestamp _ ev
          dsimp only
          rw [ih _ (by simp [hr]), foldl_observe_tee, hb]
          simp only [teed, List.foldl_cons, List.length_cons, List.take_succ_cons,
            List.append_assoc]
          cases cfg.noTee <;> rfl

/-- `parse_log_in_stream` is the fold of the events of the lines it reads; it
tees every line it reads, the raising one included, and catches that line's
exception. -/
theorem parseLogInStream_eq (cfg : Config) (lines : List ByteLine) :
    parseLogInStream cfg lines =
      { (runEvents cfg lines).1.foldl Run.observe {} with
        tee := if cfg.noTee then [] else lines.take ((runEvents cfg lines).1.length + 1)
        caught := (runEvents cfg lines).2 } := by
  simpa using foldl_processLine cfg lines {} rfl

/-- The locals after a stream are the fold of its events. -/
theorem parseLogInStream_state (cfg : Config) (lines : List ByteLine) :
    (parseLogInStream cfg lines).state = (runEvents cfg lines).1.foldl ParserState.next {} := by
  rw [parseLogInStream_eq]
  exact foldl_observe_state _ _

end JazzerLog
