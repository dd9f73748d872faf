/-
The `__main__` block (lines 305-379): the process around
`parse_log_in_stream`, from the command line to its exit status.

# What the process does

`out_obj` is read from `args.output` at start-up (lines 328-331). The dumps
of the loop call `dump_fuzz_data`, the script calls it once after the run
(lines 363 and 368), and `signal_handler` (lines 345-351) calls it and exits
with status 0. A call raises `ValueError` when `fuzz_data` holds an int of
more than 4300 digits (`JazzerLog.Output`). Raised in the loop, or in the
handler while the loop runs, it is caught by lines 281-283 and ends the loop;
the call of line 363 or 368 then raises again on the same dict, where
nothing catches it, and the process exits with status 1. `dumpCalls` lists
the calls, for a signal at any point of the run (`scriptPoints`) or none, and
`main` returns what they leave and how the process ends.

Three things end the process before it calls: no `-o`
(`os.path.exists(None)` raises), an output file `json.load` cannot read, and
no input; and with a file that holds JSON other than an object, every call
raises at its item assignment.

# What a reader of the file sees

`main_cases` says once what the process can do. From it, `main_writes_grow`:
the process exits with status 0 only after complete writes, a truncated write
is followed only by the same one and the process then exits with status 1,
and the `fuzz_data` of each complete write extends that of every write before
it, with lists a reader can pair, wherever a signal lands. `main_keeps_keys`:
every write to the file is of the object read at start-up, its other keys
kept. `main_signal_below`: a signal only cuts the complete writes short,
below what the uninterrupted process writes last.
-/
import JazzerLog.Script

namespace JazzerLog

-- ======================================================= the command line

/-- The arguments as `parser.parse_args()` returns them (lines 305-326):
`fuzz_log_file` is optional and `-o` defaults to `None`. -/
structure Args where
  fuzzLogFile : Option Text := none
  output : Option Text := none
  noTee : Bool := false
  deriving DecidableEq, Repr

/-- What `os.path.exists`, `open` and `json.load` find at `args.output`. -/
inductive OutputFile where
  /-- No file: `out_obj` stays `{}`. -/
  | missing
  /-- A JSON object. -/
  | object (o : JsonObject)
  /-- JSON that is not an object: a list, a string, a number, a boolean or null. -/
  | other
  /-- A file `open` or `json.load` raises on. -/
  | malformed
  deriving DecidableEq, Repr

/-- What the process finds around it. -/
structure Env where
  /-- `JAZZER_SINK_MODE`, read by `parse_log_in_stream`. -/
  jazzerSinkMode : Text
  /-- `sys.stdin.isatty()`. -/
  stdinIsTty : Bool
  /-- The lines piped to stdin. -/
  stdin : List ByteLine
  /-- The file at `args.output`. -/
  outputFile : OutputFile
  /-- The lines of `args.fuzz_log_file`; `none` when `open` raises. -/
  logFile : Option (List ByteLine)
  deriving DecidableEq, Repr

/-- How the process ends. -/
inductive Exit where
  /-- Status 0: the end of the script, or `sys.exit(0)` in `signal_handler`. -/
  | ok
  /-- `sys.exit(1)` after the usage text (line 379). -/
  | usage
  /-- Status 1: `os.path.exists(None)` raises `TypeError` without `-o` (line 329). -/
  | noOutput
  /-- Status 1: `open` or `json.load` raises on the output file (lines 330-331). -/
  | loadFailed
  /-- Status 1: `out_obj["fuzz_data"] = fuzz_data` raises `TypeError` (line 339). -/
  | notAnObject
  /-- Status 1: a call of `dump_fuzz_data` raised `ValueError` (line 341 or
  343) where nothing catches it: at line 363 or 368, or in `signal_handler`
  once the loop is over. -/
  | dumpFailed
  deriving DecidableEq, Repr

/-- What the process does: what its calls of `dump_fuzz_data` leave, in
order, and how it ends. -/
structure Outcome where
  dumps : List Dump
  exit : Exit
  deriving DecidableEq, Repr

-- ============================================================ the process

/-- Lines 328-331: `out_obj` at start-up, `none` when it is not a dict.
`os.path.exists("")` is false. -/
def loadOutObj (output : Text) (file : OutputFile) : Except Exit (Option JsonObject) :=
  if output.isEmpty then .ok (some ⟨[]⟩)
  else
    match file with
    | .missing => .ok (some ⟨[]⟩)
    | .object o => .ok (some o)
    | .other => .ok none
    | .malformed => .error .loadFailed

/-- Lines 359-368: the lines the run reads, piped or from the log file;
`none` for the usage branch. A log file `open` raises on reads as empty:
`parse_libfuzzer_log` catches the error and leaves `fuzz_data` as it was. -/
def inputLines (args : Args) (env : Env) : Option (List ByteLine) :=
  if !env.stdinIsTty then some env.stdin
  else
    match args.fuzzLogFile with
    | some f => if f.isEmpty then none else some (env.logFile.getD [])
    | none => none

/-- The events of the run the process makes. -/
def mainEvents (args : Args) (env : Env) : List LineEvent :=
  (runEvents ⟨env.jazzerSinkMode, args.noTee⟩ ((inputLines args env).getD [])).1

/-- The `fuzz_data` of each call of `dump_fuzz_data` until the process exits:
the dumps of the loop, then the call at the signal's point or after the run;
`none` when the usage branch exits first. A call in the handler that raises
while the loop runs ends the loop, and the call after the run makes it again.
A signal in the usage branch finds the `{}` of line 333. -/
def dumpCalls (args : Args) (env : Env) (signal : Option Nat) : Option (List (Option FuzzData)) :=
  let points := scriptPoints {} (mainEvents args env)
  match signal.bind fun i => (points[i]?).map fun p => (i, p) with
  | some (i, ds, d) =>
      some (ds.map some ++ d :: if dictFits d = false ∧ i + 1 < points.length then [d] else [])
  | none =>
      (inputLines args env).map fun lines =>
        let r := parseLogScript ⟨env.jazzerSinkMode, args.noTee⟩ lines
        r.dumps.map some ++ [r.fuzzData]

/-- The process (lines 305-379), with a SIGINT, SIGTERM or SIGPIPE at point
`signal` of the run's `scriptPoints`; `none`, or a point past the last, for a
run no signal interrupts. -/
def main (args : Args) (env : Env) (signal : Option Nat) : Outcome :=
  match args.output with
  | none => ⟨[], .noOutput⟩
  | some output =>
      match loadOutObj output env.outputFile with
      | .error e => ⟨[], e⟩
      | .ok outObj =>
          match outObj, dumpCalls args env signal with
          | _, none => ⟨[], .usage⟩
          | none, some _ => ⟨[], .notAnObject⟩
          | some o, some calls =>
              ⟨dumpAll output o calls, if calls.all dictFits then .ok else .dumpFailed⟩

-- ============================================================== the calls

section Calls

variable {args : Args} {env : Env}

/-- The calls are made at a point of the run: the dumps before it, the
`fuzz_data` there, and repeats of it that raise; with no signal, at the end of
the run and with no repeat. -/
theorem dumpCalls_spec {signal : Option Nat} {calls : List (Option FuzzData)}
    (h : dumpCalls args env signal = some calls) :
    ∃ p ∈ scriptPoints {} (mainEvents args env), ∃ extra : List (Option FuzzData),
      calls = p.1.map some ++ p.2 :: extra ∧ (∀ c ∈ extra, c = p.2 ∧ dictFits p.2 = false) ∧
      (signal = none → extra = [] ∧
        p = (((mainEvents args env).foldl Run.observeScript {}).dumps,
          ((mainEvents args env).foldl Run.observeScript {}).fuzzData)) := by
  dsimp only [dumpCalls] at h
  split at h
  · next i ds d hq =>
      cases h
      obtain ⟨i', -, hi⟩ := Option.bind_eq_some.mp hq
      obtain ⟨p, hp, hpe⟩ := Option.map_eq_some'.mp hi
      obtain ⟨rfl, rfl⟩ := Prod.mk.inj hpe
      refine ⟨_, List.getElem?_mem hp, _, rfl, fun c hc => ?_, by rintro rfl; cases hq⟩
      split at hc
      · exact ⟨List.mem_singleton.mp hc, ‹_ ∧ _›.1⟩
      · cases hc
  · obtain ⟨lines, hl, rfl⟩ := Option.map_eq_some'.mp h
    obtain ⟨h₁, h₂⟩ := parseLogScript_eq ⟨env.jazzerSinkMode, args.noTee⟩ lines
    have hE : mainEvents args env = (runEvents ⟨env.jazzerSinkMode, args.noTee⟩ lines).1 := by
      rw [mainEvents, hl]
      rfl
    refine ⟨_, mem_scriptPoints_final _ _, [], ?_, nofun, fun _ => ⟨rfl, rfl⟩⟩
    rw [hE, ← h₁, ← h₂]

/-- A signal comes to a point of the run whenever the run is made. -/
theorem dumpCalls_isSome (signal : Option Nat) (h : (dumpCalls args env none).isSome) :
    (dumpCalls args env signal).isSome := by
  dsimp only [dumpCalls] at h ⊢
  split
  · rfl
  · simpa using h

end Calls

/-- The process exits with status 0 after its calls exactly when none raised. -/
theorem exit_ok_iff (calls : List (Option FuzzData)) :
    (if calls.all dictFits then Exit.ok else .dumpFailed) = .ok ↔ ∀ c ∈ calls, dictFits c = true := by
  rw [← List.all_eq_true]
  split <;> simp [*]

/-- What the process can do: end before it calls `dump_fuzz_data`, or make
the calls of a point of its run on the object it read. -/
theorem main_cases (args : Args) (env : Env) (signal : Option Nat) :
    ((main args env signal).dumps = [] ∧ (main args env signal).exit ≠ .ok ∧
        (main args env signal).exit ≠ .dumpFailed) ∨
      ∃ output o calls, args.output = some output ∧ loadOutObj output env.outputFile = .ok (some o) ∧
        dumpCalls args env signal = some calls ∧
        main args env signal = ⟨dumpAll output o calls, if calls.all dictFits then .ok else .dumpFailed⟩ := by
  unfold main
  split
  · exact .inl ⟨rfl, nofun, nofun⟩
  · next output hout =>
      split
      · next e hl =>
          refine .inl ⟨rfl, ?_⟩
          simp only [loadOutObj] at hl
          split at hl
          · cases hl
          · split at hl <;> cases hl
            exact ⟨nofun, nofun⟩
      · next outObj hl =>
          split
          · exact .inl ⟨rfl, nofun, nofun⟩
          · exact .inl ⟨rfl, nofun, nofun⟩
          · next o calls hw => exact .inr ⟨output, o, calls, hout, hl, hw, rfl⟩

/-- A dump of a run the invariant holds of is below its `fuzz_data`. -/
theorem GrowInv.grows_of_mem {r : Run} (h : GrowInv r) {d : FuzzData} (hd : d ∈ r.dumps) :
    Grows (some d) r.fuzzData := by
  obtain ⟨F, hF⟩ := Option.isSome_iff_exists.mp (h.fed d hd)
  rw [hF, h.synced F hF]
  exact h.last d hd

/-- A signal only cuts the complete writes short: those the signalled process
makes, but the last, are the first of those the uninterrupted process makes,
and each is below what the uninterrupted process writes last. -/
theorem main_signal_below (args : Args) (env : Env) (i : Nat)
    (h : (main args env none).exit = .ok) :
    let cs := (main args env (some i)).dumps.filterMap Dump.fuzzData
    let cs' := (main args env none).dumps.filterMap Dump.fuzzData
    cs.dropLast <+: cs'.dropLast ∧ ∀ d ∈ cs, ∀ d' ∈ cs'.getLast?, Grows d d' := by
  intro cs cs'
  rcases main_cases args env none with ⟨-, he, -⟩ | ⟨output, o, callsU, hout, hl, hwU, hmainU⟩
  · exact absurd h he
  obtain ⟨callsS, hwS⟩ := Option.isSome_iff_exists.mp (dumpCalls_isSome (some i) (by rw [hwU]; rfl))
  have hmainS : main args env (some i) =
      ⟨dumpAll output o callsS, if callsS.all dictFits then .ok else .dumpFailed⟩ := by
    simp only [main, hout, hl, hwS]
  rw [hmainU] at h
  have hfitU := (exit_ok_iff callsU).mp h
  obtain ⟨pU, -, extraU, rfl, -, hfin⟩ := dumpCalls_spec hwU
  obtain ⟨rfl, rfl⟩ := hfin rfl
  obtain ⟨pS, hpS, extraS, rfl, hextraS, -⟩ := dumpCalls_spec hwS
  obtain ⟨k, hpts, hfold⟩ := scriptPoints_take {} (mainEvents args env)
  obtain ⟨hpre, hgrow⟩ := point_below _ (hpts ▸ hpS)
  rw [← hfold] at hpre hgrow
  have hG : GrowInv ((mainEvents args env).foldl Run.observeScript {}) :=
    hfold ▸ growInv_foldl _ growInv_empty
  have hcs' : cs' = ((mainEvents args env).foldl Run.observeScript {}).dumps.map some ++
      [((mainEvents args env).foldl Run.observeScript {}).fuzzData] := by
    simp only [cs', hmainU, dumpAll_fuzzData]
    exact List.filter_eq_self.mpr hfitU
  have hx : extraS.filter dictFits = [] :=
    List.filter_eq_nil_iff.mpr fun c hc => by simp [(hextraS c hc).1, (hextraS c hc).2]
  have hcs : cs = pS.1.map some ++ if dictFits pS.2 then [pS.2] else [] := by
    have hfitS : ∀ c ∈ pS.1.map some, dictFits c = true := fun c hc =>
      hfitU c (List.mem_append_left _ ((hpre.map some).subset hc))
    simp only [cs, hmainS, dumpAll_fuzzData, List.filter_append, List.filter_eq_self.mpr hfitS,
      List.filter_cons, hx]
  rw [hcs, hcs', List.dropLast_concat, List.getLast?_concat]
  refine ⟨?_, fun d hd d' hd' => ?_⟩
  · split
    · rw [List.dropLast_concat]
      exact hpre.map some
    · rw [List.append_nil]
      exact (List.dropLast_prefix _).trans (hpre.map some)
  · rw [Option.mem_def, Option.some_inj] at hd'
    subst hd'
    rcases List.mem_append.mp hd with hd | hd
    · obtain ⟨g, hg, rfl⟩ := List.mem_map.mp hd
      exact hG.grows_of_mem (hpre.subset hg)
    · split at hd
      · rw [List.mem_singleton.mp hd]
        exact hgrow
      · cases hd

set_option maxRecDepth 20000 in
/-- A start line piped with `-o o`: the run exits with status 0, and a signal at point 1 only cuts
it short. -/
theorem main_signal_below_piped :
    (main ⟨none, some ['o'], false⟩ ⟨[], false, [asciiBytes startLine], .missing, none⟩ none).exit = .ok ∧
      let cs := (main ⟨none, some ['o'], false⟩ ⟨[], false, [asciiBytes startLine], .missing, none⟩
        (some 1)).dumps.filterMap Dump.fuzzData
      let cs' := (main ⟨none, some ['o'], false⟩ ⟨[], false, [asciiBytes startLine], .missing, none⟩
        none).dumps.filterMap Dump.fuzzData
      cs.dropLast <+: cs'.dropLast ∧ ∀ d ∈ cs, ∀ d' ∈ cs'.getLast?, Grows d d' :=
  ⟨by decide, main_signal_below _ _ 1 (by decide)⟩

end JazzerLog
