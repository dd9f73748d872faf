/-
When `parse_log_in_stream` dumps, and what it dumps.

# The flag

`need_dump` is set by the first start line (line 213) and by an artifact line
that triages a crash (line 258), and cleared after the dump of the same line
(line 276). So a line ends with a dump exactly when it is the first line the
start pattern matches or it grows the triage log, and the dump is the
aggregate as synced after that line (`dump_law`). The log only ever grows and
grows only with a dump, so the last dump always holds the current log.

# First start line

A start line is read only while no baseline is set, and only a start line
sets one: the baseline before line `k` is unset exactly when no line before
`k` matches the start pattern (`baselineOf_eq_none_iff`).
-/
import JazzerLog.TriageLaw

namespace JazzerLog

-- ============================================================= the baseline

section Baseline

variable {jazzerSinkMode : Text} {b : Option Nat} {texts : List Text}

/-- The event of line `k` is read under the baseline of the events before it. -/
theorem lineEvent_getElem (k : Nat) (hk : k < (lineEvents jazzerSinkMode b texts).1.length) :
    lineEvent jazzerSinkMode (baselineOf b ((lineEvents jazzerSinkMode b texts).1.take k))
      (texts.getD k []) = .ok (lineEvents jazzerSinkMode b texts).1[k] := by
  have h := List.take_append_drop k (lineEvents jazzerSinkMode b texts).1
  rw [List.drop_eq_getElem_cons hk] at h
  simpa [List.length_take, Nat.min_eq_left hk.le] using lineEvent_of_lineEvents h.symm

/-- The baseline after one more event. -/
theorem baselineOf_concat (b : Option Nat) (evs : List LineEvent) (ev : LineEvent) :
    baselineOf b (evs ++ [ev]) = ev.kind.baseline (baselineOf b evs) := by
  simp [baselineOf]

/-- The baseline stays unset exactly when it was unset and the line is no start. -/
theorem LineKind.baseline_eq_none {k : LineKind} {b : Option Nat} :
    k.baseline b = none ↔ b = none ∧ ∀ t, k ≠ .start t := by
  cases k <;> simp [LineKind.baseline]

/-- No baseline is set before line `k` exactly when no line before it matches
the start pattern. -/
theorem baselineOf_eq_none_iff (k : Nat) (hk : k ≤ (lineEvents jazzerSinkMode none texts).1.length) :
    baselineOf none ((lineEvents jazzerSinkMode none texts).1.take k) = none ↔
      ∀ i < k, startMatches (texts.getD i []) = false := by
  induction k with
  | zero => simp [baselineOf]
  | succ k ih =>
      have hk' : k < (lineEvents jazzerSinkMode none texts).1.length := hk
      rw [List.take_succ, List.getElem?_eq_getElem hk', Option.toList_some, baselineOf_concat,
        LineKind.baseline_eq_none, ih hk'.le]
      have hstart := lineKind_isStart (lineEvent_ok (lineEvent_getElem k hk')).1
      constructor
      · rintro ⟨hb, hns⟩ i hi
        rcases Nat.lt_succ_iff_lt_or_eq.mp hi with hi | rfl
        · exact hb i hi
        · by_contra hs
          obtain ⟨t, ht⟩ := hstart.mpr ⟨(ih hk'.le).mpr hb, by simpa using hs⟩
          exact hns t ht
      · intro h
        refine ⟨fun i hi => h i (by omega), fun t ht => ?_⟩
        have := (hstart.mp ⟨t, ht⟩).2
        rw [h k (by omega)] at this
        cases this

end Baseline

-- ================================================================ the flag

/-- With the flag clear, a line sets it exactly when it sets the baseline or
grows the triage log. -/
theorem apply_needDump (s : ParserState) (k : LineKind) (h : s.needDump = false) :
    (s.apply k).needDump = true ↔ (∃ t, k = .start t) ∨
      s.logTriageCrashOverTime.length < (s.apply k).logTriageCrashOverTime.length := by
  cases k with
  | start t => simp [ParserState.apply, ParserState.setBaseline]
  | artifact e a =>
      have hs := scanPendingCrashes_from e a s.pendingCrashes [] s.seenSanitizers
        s.logTriageCrashOverTime s.needDump (by simp)
      simp only [List.nil_append, List.length_nil, h] at hs
      simp [ParserState.apply, ParserState.recordArtifact, ParserState.withScan, ParserState.scan,
        h, hs, List.length_pos]
  | _ => simp [ParserState.apply, ParserState.recordCov, ParserState.recordCrash, enqueue_eq, h]

/-- A line asks for a dump exactly when it is a start event or grows the triage log. -/
theorem observe_needDump (s : ParserState) (ev : LineEvent) (h : s.needDump = false) :
    (s.observe ev).needDump = true ↔ (∃ t, ev.kind = .start t) ∨
      s.logTriageCrashOverTime.length < (s.next ev).logTriageCrashOverTime.length := by
  rw [next_frame ParserState.logTriageCrashOverTime (fun _ => rfl) (fun _ => rfl), ← apply_needDump s _ h]
  unfold ParserState.observe
  split <;> rfl

/-- The triage log only grows. -/
theorem next_log_grows (s : ParserState) (ev : LineEvent) :
    s.logTriageCrashOverTime <+: (s.next ev).logTriageCrashOverTime := by
  have h := congrArg (fun x => x.2.2) (next_triage s ev)
  simp only at h
  rw [h]
  cases ev.kind <;> simp [List.prefix_append]

/-- Stepping clears the dump flag, so it stays clear. -/
theorem foldl_next_needDump (evs : List LineEvent) (s : ParserState) (h : s.needDump = false) :
    (evs.foldl ParserState.next s).needDump = false := by
  induction evs generalizing s with
  | nil => exact h
  | cons ev evs ih => exact ih _ rfl

/-- An event dumps the synced dict when its line asked for a dump. -/
theorem Run.observe_dumps (r : Run) (ev : LineEvent) :
    (r.observe ev).dumps =
      r.dumps ++ if (r.state.observe ev).needDump then [syncResult (r.state.next ev)] else [] := by
  unfold Run.observe Run.settle
  split <;> simp_all
  rfl

/-- After an event `fuzz_data` is the synced dict. -/
theorem Run.observe_fuzzData (r : Run) (ev : LineEvent) :
    (r.observe ev).fuzzData = some (syncResult (r.state.next ev)) := by
  unfold Run.observe Run.settle
  split <;> rfl

/-- The last dump of a run holds its current triage log. -/
theorem foldl_observe_lastDump (evs : List LineEvent) :
    let r := evs.foldl Run.observe {}
    r.dumps = [] ∧ r.state.logTriageCrashOverTime = [] ∨
      ∃ d, r.dumps.getLast? = some d ∧ d.logTriageCrashOverTime = r.state.logTriageCrashOverTime := by
  induction evs using List.reverseRecOn with
  | nil => exact .inl ⟨rfl, rfl⟩
  | append_singleton evs ev ih =>
      rw [List.foldl_concat]
      dsimp only at ih ⊢
      set r := evs.foldl Run.observe {} with hr
      have hd : r.state.needDump = false := by
        rw [hr, foldl_observe_state]; exact foldl_next_needDump _ _ rfl
      rw [Run.observe_dumps, Run.observe_state]
      by_cases hn : (r.state.observe ev).needDump = true
      · exact .inr ⟨syncResult (r.state.next ev), by simp [hn], rfl⟩
      · have hgrow := (observe_needDump _ ev hd).not.mp hn
        push_neg at hgrow
        have hlog : r.state.logTriageCrashOverTime = (r.state.next ev).logTriageCrashOverTime :=
          (next_log_grows _ ev).eq_of_length (le_antisymm (next_log_grows _ ev).length_le hgrow.2)
        simpa [hn, ← hlog] using ih

-- ================================================================ the law

/-- The events of the first `j` lines are the first `j` events. -/
theorem runEvents_take (cfg : Config) (lines : List ByteLine) (j : Nat) :
    (runEvents cfg (lines.take j)).1 = (runEvents cfg lines).1.take j := by
  rw [runEvents, List.map_take, lineEvents_take]; rfl

/-- The dumps of a stream are those of its events. -/
theorem parseLogInStream_dumps (cfg : Config) (lines : List ByteLine) :
    (parseLogInStream cfg lines).dumps = ((runEvents cfg lines).1.foldl Run.observe {}).dumps := by
  rw [parseLogInStream_eq]

/-- The locals after a stream are those after its events. -/
theorem parseLogInStream_state_run (cfg : Config) (lines : List ByteLine) :
    (parseLogInStream cfg lines).state = ((runEvents cfg lines).1.foldl Run.observe {}).state := by
  rw [parseLogInStream_eq]

/-- `fuzz_data` after a stream is the one after its events. -/
theorem parseLogInStream_fuzzData (cfg : Config) (lines : List ByteLine) :
    (parseLogInStream cfg lines).fuzzData = ((runEvents cfg lines).1.foldl Run.observe {}).fuzzData := by
  rw [parseLogInStream_eq]

/-- Line `k` of a run ends with a dump exactly when it is the first line the
start pattern matches or it grows the triage log, and the dump is the
aggregate as synced after it; after it, either nothing has been dumped and the
log is empty, or the last dump holds the current log. -/
theorem dump_law (cfg : Config) (lines : List ByteLine) (k : Nat)
    (hk : k < (runEvents cfg lines).1.length) :
    let texts := lines.map lineText
    let before := parseLogInStream cfg (lines.take k)
    let after := parseLogInStream cfg (lines.take (k + 1))
    after.fuzzData = some (syncResult after.state) ∧
    after.dumps = before.dumps ++
      (if (startMatches (texts.getD k []) = true ∧ ∀ i < k, startMatches (texts.getD i []) = false) ∨
          before.state.logTriageCrashOverTime.length < after.state.logTriageCrashOverTime.length
        then [syncResult after.state] else []) ∧
    (after.dumps = [] ∧ after.state.logTriageCrashOverTime = [] ∨
      ∃ d, after.dumps.getLast? = some d ∧
        d.logTriageCrashOverTime = after.state.logTriageCrashOverTime) := by
  intro texts before after
  set evs := (runEvents cfg lines).1
  have htake : evs.take (k + 1) = evs.take k ++ [evs[k]] := by
    rw [List.take_succ, List.getElem?_eq_getElem hk, Option.toList_some]
  set r := (evs.take k).foldl Run.observe {}
  have hafter : (runEvents cfg (lines.take (k + 1))).1.foldl Run.observe {} = r.observe evs[k] := by
    rw [runEvents_take, htake, List.foldl_concat]
  have hstate : after.state = r.state.next evs[k] := by
    show (parseLogInStream cfg (lines.take (k + 1))).state = _
    rw [parseLogInStream_state_run, runEvents_take, htake, List.foldl_concat, Run.observe_state]
  have hbefore : before.state = r.state := by
    show (parseLogInStream cfg (lines.take k)).state = _
    rw [parseLogInStream_state_run, runEvents_take]
  have hd : r.state.needDump = false := by
    rw [foldl_observe_state]; exact foldl_next_needDump _ {} rfl
  have hstart : (∃ t, evs[k].kind = .start t) ↔
      startMatches (texts.getD k []) = true ∧ ∀ i < k, startMatches (texts.getD i []) = false := by
    have hk' : k < (lineEvents cfg.jazzerSinkMode none texts).1.length := hk
    have h := lineKind_isStart (lineEvent_ok (lineEvent_getElem k hk')).1
    rw [baselineOf_eq_none_iff k hk'.le, and_comm] at h
    exact h
  refine ⟨?_, ?_, ?_⟩
  · show (parseLogInStream cfg (lines.take (k + 1))).fuzzData = _
    rw [parseLogInStream_fuzzData, hafter, Run.observe_fuzzData, hstate]
  · show (parseLogInStream cfg (lines.take (k + 1))).dumps = (parseLogInStream cfg (lines.take k)).dumps ++ _
    rw [parseLogInStream_dumps, parseLogInStream_dumps, hafter, runEvents_take, Run.observe_dumps,
      hstate, hbefore]
    have hn := observe_needDump _ evs[k] hd
    rw [hstart] at hn
    by_cases h : (r.state.observe evs[k]).needDump = true
    · rw [if_pos h, if_pos (hn.mp h)]
    · rw [if_neg h, if_neg (mt hn.mpr h)]
  · have h := foldl_observe_lastDump ((runEvents cfg (lines.take (k + 1))).1)
    dsimp only at h
    rwa [← parseLogInStream_dumps, ← parseLogInStream_state_run] at h

/-- A start banner line at timestamp 1. -/
def startLine : Text :=
  "1 OpenJDK 64-Bit Server VM warning: Option CriticalJNINatives was deprecated in version 16.0 and will likely be removed in a future release.".toList

/-- A start banner at timestamp 1, a crash at 2 and its artifact at 3. -/
def triageLines : List ByteLine :=
  [asciiBytes startLine, asciiBytes ("2 ".toList ++ sqlInjectionCrash),
    asciiBytes ("3 ".toList ++ artifactLine)]

set_option maxRecDepth 20000 in
/-- The law at the banner, which dumps as the first start line, and at the
artifact line, which triages the crash and so grows the log. -/
theorem dump_law_triageLines :
    let law : Nat → Prop := fun k =>
      let texts := triageLines.map lineText
      let before := parseLogInStream ⟨[], false⟩ (triageLines.take k)
      let after := parseLogInStream ⟨[], false⟩ (triageLines.take (k + 1))
      after.fuzzData = some (syncResult after.state) ∧
      after.dumps = before.dumps ++
        (if (startMatches (texts.getD k []) = true ∧ ∀ i < k, startMatches (texts.getD i []) = false) ∨
            before.state.logTriageCrashOverTime.length < after.state.logTriageCrashOverTime.length
          then [syncResult after.state] else []) ∧
      (after.dumps = [] ∧ after.state.logTriageCrashOverTime = [] ∨
        ∃ d, after.dumps.getLast? = some d ∧
          d.logTriageCrashOverTime = after.state.logTriageCrashOverTime)
    2 < (runEvents ⟨[], false⟩ triageLines).1.length ∧
      (parseLogInStream ⟨[], false⟩ (triageLines.take 2)).state.logTriageCrashOverTime = [] ∧
      (parseLogInStream ⟨[], false⟩ (triageLines.take 3)).state.logTriageCrashOverTime.length = 1 ∧
      law 0 ∧ law 2 := by
  intro law
  have hk : 2 < (runEvents ⟨[], false⟩ triageLines).1.length := by decide
  refine ⟨hk, ?_, ?_, dump_law _ _ 0 (by omega), dump_law _ _ 2 hk⟩
  all_goals
    rw [parseLogInStream_state, (triageInv_foldl _).log]
    decide

end JazzerLog
