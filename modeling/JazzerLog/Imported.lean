/-
`parse_log_in_stream` (lines 149-283) and `parse_libfuzzer_log` (lines
286-302) in a module that imports this one instead of running it.

# The missing name

`dump_fuzz_data` is bound by the `def` of line 335, inside the
`if __name__ == "__main__"` block: an importer's copy of the module has no
such global. The call of line 275 then raises `NameError`, an `Exception`,
which the handler of lines 281-283 catches as it catches the int limit. The
run ends after the line whose milestone asked for the dump, with that line
synced (line 272) and `need_dump` still set.

# The simulation

`Tracks` relates the two runs: until the script writes its first dump the
imported run is the script run, and from then on the imported run has stopped
on `NameError` with `fuzz_data` holding that first dump. One line keeps the
relation (`tracks_processLine`), so the whole stream does (`tracks_foldl`), and
`parseLibfuzzerLog_imported` reads off what an importer gets back.
-/
import JazzerLog.Run

namespace JazzerLog

-- ====================================================== the imported run

/-- The exceptions the handler of lines 281-283 catches in an imported run. -/
inductive ImportedError where
  | line (e : PyError)
  | nameError
  deriving DecidableEq, Repr

/-- What an imported run has done so far: `Run` without the dumps, which it
cannot write. -/
structure ImportedRun where
  state : ParserState := {}
  tee : List ByteLine := []
  fuzzData : Option FuzzData := none
  caught : Option ImportedError := none
  deriving DecidableEq, Repr

/-- One iteration of the loop in an imported module: the call of line 275
raises `NameError` after the sync of line 272. -/
def processLineImported (cfg : Config) (r : ImportedRun) (raw : ByteLine) : ImportedRun :=
  match r.caught with
  | some _ => r
  | none =>
      let r := if cfg.noTee then r else { r with tee := r.tee ++ [raw] }
      match handleLine cfg.jazzerSinkMode r.state (strip (decodeUtf8 raw)) with
      | .ok s =>
          if s.needDump then
            { r with state := s, fuzzData := some (syncResult s), caught := some .nameError }
          else { r with state := s, fuzzData := some (syncResult s) }
      | .error (e, s) => { r with state := s, caught := some (.line e) }

/-- `parse_log_in_stream` over a stream of raw lines, imported. -/
def parseLogImported (cfg : Config) (lines : List ByteLine) : ImportedRun :=
  lines.foldl (processLineImported cfg) {}

/-- `parse_libfuzzer_log`, imported: `file` holds the log's lines, `none` when
`open` raises (caught by lines 299-300). The result is what `sync_result`
last wrote into the dict; `none` when it never wrote, and the dict is
returned as it was passed. -/
def parseLibfuzzerLog (jazzerSinkMode : Text) (file : Option (List ByteLine)) (noTee : Bool) :
    Option FuzzData :=
  match file with
  | none => none
  | some lines => (parseLogImported ⟨jazzerSinkMode, noTee⟩ lines).fuzzData

-- ======================================================= the simulation

/-- The imported run a script run is, before its first dump. -/
def Run.imported (r : Run) : ImportedRun := ⟨r.state, r.tee, r.fuzzData, r.caught.map .line⟩

/-- The imported run `l` tracks the script run `r`: the same before the first
dump, stopped on `NameError` with the first dump as `fuzz_data` after it. -/
def Tracks (l : ImportedRun) (r : Run) : Prop :=
  (r.dumps = [] ∧ l = r.imported) ∨
    ∃ d ds, r.dumps = d :: ds ∧ l.caught = some .nameError ∧ l.fuzzData = some d

/-- Settling only appends dumps. -/
theorem Run.settle_dumps (r : Run) (s : ParserState) : ∃ t, (r.settle s).dumps = r.dumps ++ t := by
  unfold Run.settle
  split
  · exact ⟨_, rfl⟩
  · exact ⟨[], (List.append_nil _).symm⟩

/-- A line of the script run only adds dumps. -/
theorem processLine_dumps (cfg : Config) (r : Run) (raw : ByteLine) :
    ∃ t, (processLine cfg r raw).dumps = r.dumps ++ t := by
  unfold processLine
  split
  · exact ⟨[], (List.append_nil _).symm⟩
  · cases cfg.noTee <;>
    · simp only [Bool.false_eq_true, ite_true, ite_false]
      split
      · exact Run.settle_dumps _ _
      · exact ⟨[], (List.append_nil _).symm⟩

/-- One line keeps the imported run tracking the script run. -/
theorem tracks_processLine (cfg : Config) {l : ImportedRun} {r : Run} (h : Tracks l r)
    (raw : ByteLine) : Tracks (processLineImported cfg l raw) (processLine cfg r raw) := by
  obtain ⟨hd, rfl⟩ | ⟨d, ds, hd, hl, hf⟩ := h
  · cases hc : r.caught with
    | some e =>
        left
        simp [processLine, processLineImported, Run.imported, hc, hd]
    | none =>
        obtain ⟨state, tee, fuzzData, dumps, caught⟩ := r
        simp only at hd hc
        subst hd hc
        simp only [processLine, processLineImported, Run.imported, Option.map_none']
        cases cfg.noTee <;>
        · simp only [Bool.false_eq_true, ite_true, ite_false]
          cases handleLine cfg.jazzerSinkMode state (strip (decodeUtf8 raw)) with
          | error x => exact .inl ⟨rfl, rfl⟩
          | ok s =>
              unfold Run.settle
              by_cases hn : s.needDump = true
              · simp only [hn, ite_true]
                exact .inr ⟨_, [], rfl, rfl, rfl⟩
              · simp only [hn, Bool.false_eq_true, ite_false]
                exact .inl ⟨rfl, rfl⟩
  · obtain ⟨t, ht⟩ := processLine_dumps cfg r raw
    have hl' : processLineImported cfg l raw = l := by
      unfold processLineImported; rw [hl]
    rw [hl']
    exact .inr ⟨d, ds ++ t, by rw [ht, hd]; rfl, hl, hf⟩

/-- A stream keeps the imported run tracking the script run. -/
theorem tracks_foldl (cfg : Config) (lines : List ByteLine) {l : ImportedRun} {r : Run}
    (h : Tracks l r) :
    Tracks (lines.foldl (processLineImported cfg) l) (lines.foldl (processLine cfg) r) := by
  induction lines generalizing l r with
  | nil => exact h
  | cons raw lines ih => exact ih (tracks_processLine cfg h raw)

/-- Over every stream the imported run tracks the script run. -/
theorem parseLogImported_tracks (cfg : Config) (lines : List ByteLine) :
    Tracks (parseLogImported cfg lines) (parseLogInStream cfg lines) :=
  tracks_foldl cfg lines (.inl ⟨rfl, rfl⟩)

/-- Imported, `parse_libfuzzer_log` returns the first dump the script would
write on the same log, and stops on `NameError` exactly then; on a log where
the script writes no dump it returns what the script's run last synced. -/
theorem parseLibfuzzerLog_imported (jazzerSinkMode : Text) (lines : List ByteLine) (noTee : Bool) :
    let r := parseLogInStream ⟨jazzerSinkMode, noTee⟩ lines
    parseLibfuzzerLog jazzerSinkMode (some lines) noTee =
      (match r.dumps with
        | [] => r.fuzzData
        | d :: _ => some d) ∧
    ((parseLogImported ⟨jazzerSinkMode, noTee⟩ lines).caught = some .nameError ↔ r.dumps ≠ []) := by
  intro r
  obtain ⟨hd, hl⟩ | ⟨d, ds, hd, hl, hf⟩ := parseLogImported_tracks ⟨jazzerSinkMode, noTee⟩ lines
  · refine ⟨by simp only [parseLibfuzzerLog, r, hd, hl, Run.imported], ?_⟩
    rw [hl]
    cases r.caught <;> simp [Run.imported, r, hd]
  · exact ⟨by simp only [parseLibfuzzerLog, r, hd, hf], by simp [hl, r, hd]⟩

end JazzerLog
