/-
The loop of `parse_log_in_stream` in the script, where the dump of line 275
is a call of `dump_fuzz_data` that can raise.

# A dump that raises

`Run` records each dump as the dict it is called with, and the results on the
parse loop are stated for a dump that records. In the script the call raises
the `ValueError` of `JazzerLog.Output` on a dict with an int of more than 4300
digits; the handler of lines 281-283 catches it as it catches `int()`'s, and
the loop ends after that line. `processLineScript` is the loop so: a run one
of whose dumps cannot be written reads no more lines. `foldl_processLineScript`
folds it over the events of the lines read with `Run.observeScript`.

# Where a signal can arrive

`scriptPoints` lists the points of such a run as `signalPoints` does, and
stops with the point after the loop once a dump could not be written.
`scriptPoints_take` shows it is the recording run's points over the events up
to that dump, so everything `signalPoints_spec` says holds of it;
`scriptPoints_calls` adds that the dump that could not be written is the last
one, and is what `fuzz_data` holds after it. `point_below` compares a point
with the end of the run.
-/
import JazzerLog.Output
import JazzerLog.Imported

namespace JazzerLog

-- ============================================================== the loop

/-- Every dump of the run could be written: until one could not, the loop
goes on. -/
def Run.dumpsFit (r : Run) : Bool := r.dumps.all FuzzData.jsonFits

/-- One iteration of the loop in the script: `processLine`, unless a call of
`dump_fuzz_data` has raised, which the handler of lines 281-283 caught and
which ended the loop. -/
def processLineScript (cfg : Config) (r : Run) (raw : ByteLine) : Run :=
  if r.dumpsFit then processLine cfg r raw else r

/-- `parse_log_in_stream` over a stream of raw lines, run by the script. -/
def parseLogScript (cfg : Config) (lines : List ByteLine) : Run :=
  lines.foldl (processLineScript cfg) {}

/-- `Run.observe` in the script's loop. -/
def Run.observeScript (r : Run) (ev : LineEvent) : Run :=
  if r.dumpsFit then r.observe ev else r

/-- The points along the events `evs` from the run `r` where a signal can
arrive, with the dumps made before each and the `fuzz_data` the handler finds
there, as `signalPoints` lists them; once a dump could not be written, the one
point left is after the loop. -/
def scriptPoints : Run → List LineEvent → List (List FuzzData × Option FuzzData)
  | r, [] => [(r.dumps, r.fuzzData)]
  | r, ev :: evs =>
      if r.dumpsFit then
        (lineTrace r.state ev.kind).map (fun l => (r.dumps, r.fuzzData.map (·.withSeries l))) ++
          scriptPoints (r.observe ev) evs
      else [(r.dumps, r.fuzzData)]

-- ================================================== the stopped loop

/-- A run that caught an exception or could not write a dump reads no more
lines. -/
theorem foldl_processLineScript_stopped (cfg : Config) (lines : List ByteLine) (r : Run)
    (h : r.dumpsFit = false ∨ r.caught.isSome) : lines.foldl (processLineScript cfg) r = r := by
  induction lines with
  | nil => rfl
  | cons raw lines ih =>
      rw [List.foldl_cons]
      convert ih using 2
      unfold processLineScript processLine
      rcases h with h | h
      · simp [h]
      · obtain ⟨e, he⟩ := Option.isSome_iff_exists.mp h
        simp [he]

/-- Once a dump could not be written, no event changes the run. -/
theorem foldl_observeScript_stopped {r : Run} (h : r.dumpsFit = false) (evs : List LineEvent) :
    evs.foldl Run.observeScript r = r := by
  induction evs with
  | nil => rfl
  | cons ev evs ih => rw [List.foldl_cons, Run.observeScript, h]; exact ih

/-- The script's loop does not look at what it tees. -/
theorem foldl_observeScript_tee (evs : List LineEvent) (r : Run) (t : List ByteLine) :
    evs.foldl Run.observeScript { r with tee := t } = { evs.foldl Run.observeScript r with tee := t } := by
  induction evs generalizing r with
  | nil => rfl
  | cons ev evs ih =>
      have hstep : Run.observeScript { r with tee := t } ev = { r.observeScript ev with tee := t } := by
        unfold Run.observeScript Run.dumpsFit
        rw [Run.observe_tee]
        by_cases h : r.dumps.all FuzzData.jsonFits <;> simp [h]
      rw [List.foldl_cons, hstep, ih]
      rfl

/-- The script's loop from any run that has caught nothing: its dumps and
`fuzz_data` are those of the events of the lines it reads, folded with
`Run.observeScript`. -/
theorem foldl_processLineScript (cfg : Config) (lines : List ByteLine) (r : Run)
    (hr : r.caught = none) :
    let E := (lineEvents cfg.jazzerSinkMode r.state.initialTimestamp (lines.map lineText)).1
    (lines.foldl (processLineScript cfg) r).dumps = (E.foldl Run.observeScript r).dumps ∧
      (lines.foldl (processLineScript cfg) r).fuzzData = (E.foldl Run.observeScript r).fuzzData := by
  induction lines generalizing r with
  | nil => exact ⟨rfl, rfl⟩
  | cons raw lines ih =>
      cases hf : r.dumpsFit with
      | false =>
          intro E
          rw [foldl_processLineScript_stopped cfg _ r (.inl hf), foldl_observeScript_stopped hf]
          exact ⟨rfl, rfl⟩
      | true =>
          rw [List.foldl_cons, processLineScript, hf, if_pos rfl, processLine_eq cfg r hr]
          simp only [List.map_cons, lineEvents]
          cases hev : lineEvent cfg.jazzerSinkMode r.state.initialTimestamp (lineText raw) with
          | error e =>
              rw [foldl_processLineScript_stopped cfg _
                { r with tee := r.tee ++ teed cfg raw, caught := some e } (.inr rfl)]
              exact ⟨rfl, rfl⟩
          | ok ev =>
              have hb : (r.observe ev).state.initialTimestamp
                  = ev.kind.baseline r.state.initialTimestamp := by
                rw [Run.observe_state]; exact observe_initialTimestamp _ ev
              obtain ⟨h1, h2⟩ := ih { r.observe ev with tee := r.tee ++ teed cfg raw } (by simp [hr])
              simp only [foldl_observeScript_tee, hb] at h1 h2
              simp only [List.foldl_cons, Run.observeScript, hf, ite_true]
              exact ⟨h1, h2⟩

/-- `parse_log_in_stream` run by the script: the fold of the events of the
lines it reads, stopped at the first dump it could not write. -/
theorem parseLogScript_eq (cfg : Config) (lines : List ByteLine) :
    (parseLogScript cfg lines).dumps = ((runEvents cfg lines).1.foldl Run.observeScript {}).dumps ∧
      (parseLogScript cfg lines).fuzzData =
        ((runEvents cfg lines).1.foldl Run.observeScript {}).fuzzData :=
  foldl_processLineScript cfg lines {} rfl

-- ============================================================ the points

/-- The script's points are the recording run's, over the events up to the
first dump that could not be written. -/
theorem scriptPoints_take (r : Run) (evs : List LineEvent) :
    ∃ k, scriptPoints r evs = signalPoints r (evs.take k) ∧
      evs.foldl Run.observeScript r = (evs.take k).foldl Run.observe r := by
  induction evs generalizing r with
  | nil => exact ⟨0, rfl, rfl⟩
  | cons ev evs ih =>
      cases hf : r.dumpsFit with
      | true =>
          obtain ⟨k, hp, hfold⟩ := ih (r.observe ev)
          refine ⟨k + 1, ?_, ?_⟩
          · rw [scriptPoints, hf, if_pos rfl, hp]; rfl
          · rw [List.foldl_cons, Run.observeScript, hf, if_pos rfl, hfold]; rfl
      | false =>
          exact ⟨0, by rw [scriptPoints, hf]; rfl, foldl_observeScript_stopped hf _⟩

/-- The end of the script's run is one of its points. -/
theorem mem_scriptPoints_final (r : Run) (evs : List LineEvent) :
    ((evs.foldl Run.observeScript r).dumps, (evs.foldl Run.observeScript r).fuzzData) ∈
      scriptPoints r evs := by
  induction evs generalizing r with
  | nil => exact List.mem_singleton_self _
  | cons ev evs ih =>
      cases hf : r.dumpsFit with
      | true =>
          rw [List.foldl_cons, Run.observeScript, hf, if_pos rfl, scriptPoints, hf, if_pos rfl]
          exact List.mem_append_right _ (ih _)
      | false =>
          rw [foldl_observeScript_stopped hf, scriptPoints, hf]
          exact List.mem_singleton_self _

/-- `d'` is a later value of `fuzz_data` than `d`: `{}` comes before every
dict, and a dict before those that extend it. -/
def Grows : Option FuzzData → Option FuzzData → Prop
  | none, _ => True
  | some d, some d' => d.Extends d'
  | some _, none => False

/-- `Grows` is reflexive. -/
theorem Grows.refl : ∀ d : Option FuzzData, Grows d d
  | none => trivial
  | some d => FuzzData.Extends.refl d

/-- Dumps that extend one another, each extended by the `fuzz_data` of a
later call, grow in the order of the calls. -/
theorem pairwise_grows {ds : List FuzzData} {x : Option FuzzData}
    (h : ds.Pairwise FuzzData.Extends) (hx : ∀ d ∈ ds, ∃ f ∈ x, d.Extends f) :
    (ds.map some ++ [x]).Pairwise Grows := by
  refine List.pairwise_append.mpr ⟨List.pairwise_map.mpr h, List.pairwise_singleton _ _, ?_⟩
  intro a ha b hb
  obtain ⟨d, hd, rfl⟩ := List.mem_map.mp ha
  obtain ⟨f, hf, hdf⟩ := hx d hd
  rw [List.mem_singleton.mp hb, Option.mem_def.mp hf]
  exact hdf

/-- A run only adds dumps. -/
theorem foldl_observe_dumps (evs : List LineEvent) (r : Run) :
    r.dumps <+: (evs.foldl Run.observe r).dumps := by
  induction evs generalizing r with
  | nil => exact List.prefix_refl _
  | cons ev evs ih =>
      obtain ⟨t, ht⟩ := Run.settle_dumps r (r.state.observe ev)
      exact List.IsPrefix.trans ⟨t, ht.symm⟩ (ih _)

/-- Once synced, `fuzz_data` stays a dict. -/
theorem foldl_observe_fuzzData_isSome (evs : List LineEvent) {r : Run}
    (h : r.fuzzData.isSome) : (evs.foldl Run.observe r).fuzzData.isSome := by
  induction evs generalizing r with
  | nil => exact h
  | cons ev evs ih =>
      refine ih ?_
      unfold Run.observe Run.settle
      split <;> rfl

/-- The lists of a dict extend those of the dicts it extends. -/
theorem FuzzData.Extends.series {d d' : FuzzData} (h : d.Extends d') : d.series.Extends d'.series :=
  ⟨h.1, h.2.1, h.2.2.1, h.2.2.2.1, h.2.2.2.2.1⟩

/-- The scalars of `d` with lists below those of `d'` are below `d'`. -/
theorem FuzzData.Extends.withSeries_left {d d' : FuzzData} {l : Series} (h : d.Extends d')
    (hl : l.Extends d'.series) : (d.withSeries l).Extends d' :=
  ⟨hl.1, hl.2.1, hl.2.2.1, hl.2.2.2.1, hl.2.2.2.2, h.2.2.2.2.2⟩

/-- A point of a run is below its end: the dumps so far are the first dumps,
and the dump there is below the last sync. -/
theorem point_below (E : List LineEvent) {p : List FuzzData × Option FuzzData}
    (hp : p ∈ signalPoints {} E) :
    p.1 <+: (E.foldl Run.observe {}).dumps ∧ Grows p.2 (E.foldl Run.observe {}).fuzzData := by
  obtain ⟨⟨j, hj⟩, -, hf⟩ := signalPoints_spec E 0 p hp
  refine ⟨?_, ?_⟩
  · rw [hj]
    conv_rhs => rw [← List.take_append_drop j E, List.foldl_append]
    exact foldl_observe_dumps _ _
  · cases hp2 : p.2 with
    | none => trivial
    | some f =>
        obtain ⟨-, k, d₀, hd₀, hf₀, -, hhi⟩ := hf f hp2
        have hsome : (E.foldl Run.observe {}).fuzzData.isSome := by
          conv => enter [1, 1]; rw [← List.take_append_drop k E, List.foldl_append]
          exact foldl_observe_fuzzData_isSome _ (Option.isSome_iff_exists.mpr ⟨d₀, hd₀⟩)
        obtain ⟨F, hF⟩ := Option.isSome_iff_exists.mp hsome
        have hG := growInv_foldl E growInv_empty
        rw [hF, hG.synced F hF, foldl_observe_state]
        rw [(growInv_foldl _ growInv_empty).synced d₀ hd₀, foldl_observe_state] at hf₀
        rw [hf₀]
        exact (syncResult_take E k).withSeries_left (hhi.trans (syncResult_take E (k + 1)).series)

end JazzerLog
