/-
`signal_handler` (lines 345-351) against the loop of `parse_log_in_stream`.

# What a signal finds

SIGINT, SIGTERM and SIGPIPE run the handler between two bytecodes of the
loop; it calls `dump_fuzz_data` and exits. `fuzz_data` is `{}` until the first
`sync_result`; after it, its five lists are the live lists of the loop, and
its scalars are those of the last sync. Between two syncs a list changes only
at an `append`: the coverage pair of lines 221-222, the crash of line 231, the
artifact of line 243 and the triage entries of line 254, one per turn of the
scan loop. `lineTrace` lists the five lists at each of those points of one
line, the scan's turns from `scanTrace`, the loop's locals at each test of its
condition; `signalDumps` lists every `fuzz_data` a signal can dump along a
run, in order.

# What a reader gets

`lineTrace` starts at the lists of the last sync and ends at those of the
next (`lineTrace_between`, `lineTrace_last`), growing in between: a dump a
signal writes mid-line lies between two syncs. It may be torn
(`coverage_summary` fails on it: `cov_over_time` can be one entry ahead of
`ft_over_time`, and `last_cov` behind both; `signalDumps_spec_torn`), but what a reader needs to pair the lists still
holds: `ft_over_time` is `cov_over_time` without at most its last entry, at
the same elapsed times, and the artifact of every triage entry is in
`artifact_over_time`. `signalPoints_spec` proves both of every point of a run,
and that the dump there extends every dump written before it.
-/
import JazzerLog.Guarantees

namespace JazzerLog

-- ============================================================ the lists

/-- The five lists `sync_result` hands to `fuzz_data`. -/
structure Series where
  covOverTime : List (Option Int × Nat)
  ftOverTime : List (Option Int × Nat)
  logCrashOverTime : List (Option Int × Text)
  artifactOverTime : List (Option Int × Text)
  logTriageCrashOverTime : List TriageEntry
  deriving DecidableEq, Repr

/-- The five lists of the locals. -/
def ParserState.series (s : ParserState) : Series :=
  ⟨s.covOverTime, s.ftOverTime, s.logCrashOverTime, s.artifactOverTime, s.logTriageCrashOverTime⟩

/-- `fuzz_data` as the handler finds it: the scalars of the sync `d`, the
lists `l`. -/
def FuzzData.withSeries (d : FuzzData) (l : Series) : FuzzData :=
  { d with
    covOverTime := l.covOverTime
    ftOverTime := l.ftOverTime
    logCrashOverTime := l.logCrashOverTime
    artifactOverTime := l.artifactOverTime
    logTriageCrashOverTime := l.logTriageCrashOverTime }

/-- The lists of a dumped `fuzz_data`. -/
def FuzzData.series (d : FuzzData) : Series :=
  ⟨d.covOverTime, d.ftOverTime, d.logCrashOverTime, d.artifactOverTime, d.logTriageCrashOverTime⟩

/-- Replacing the lists gives the new lists. -/
@[simp] theorem FuzzData.series_withSeries (d : FuzzData) (l : Series) : (d.withSeries l).series = l :=
  rfl

/-- The synced dict holds the live lists. -/
@[simp] theorem syncResult_series (s : ParserState) : (syncResult s).series = s.series := rfl

/-- `l'` extends `l`: each list of `l` is a prefix of the same list of `l'`. -/
def Series.Extends (l l' : Series) : Prop :=
  l.covOverTime <+: l'.covOverTime ∧ l.ftOverTime <+: l'.ftOverTime ∧
    l.logCrashOverTime <+: l'.logCrashOverTime ∧ l.artifactOverTime <+: l'.artifactOverTime ∧
    l.logTriageCrashOverTime <+: l'.logTriageCrashOverTime

/-- Every set of lists extends itself. -/
theorem Series.Extends.refl (l : Series) : l.Extends l :=
  ⟨List.prefix_refl _, List.prefix_refl _, List.prefix_refl _, List.prefix_refl _,
    List.prefix_refl _⟩

/-- Extension of lists is transitive. -/
theorem Series.Extends.trans {l l' l'' : Series} (h : l.Extends l') (h' : l'.Extends l'') :
    l.Extends l'' :=
  ⟨h.1.trans h'.1, h.2.1.trans h'.2.1, h.2.2.1.trans h'.2.2.1, h.2.2.2.1.trans h'.2.2.2.1,
    h.2.2.2.2.trans h'.2.2.2.2⟩

-- ========================================================= the scan loop

/-- The scan's locals at each test of the `while` condition of line 245, in
order. -/
def scanTrace (elapsedTime : Option Int) (artifact : Text) (s : Scan) (i : Nat) : List Scan :=
  s :: if h : i < s.pendingCrashes.length then
      let p := s.pendingCrashes[i]
      if eligible elapsedTime p.crashTime then
        scanTrace elapsedTime artifact
          { triageOne artifact p s with pendingCrashes := s.pendingCrashes.eraseIdx i } i
      else scanTrace elapsedTime artifact s (i + 1)
    else []
termination_by s.pendingCrashes.length - i
decreasing_by
  all_goals simp_wf
  · rw [List.length_eraseIdx, if_pos h]
    omega
  · omega

/-- The scan's trace holds the state it starts from. -/
theorem mem_scanTrace_self (elapsedTime : Option Int) (artifact : Text) (s : Scan) (i : Nat) :
    s ∈ scanTrace elapsedTime artifact s i := by
  rw [scanTrace]; exact List.mem_cons_self _ _

/-- `l'` is `l` followed by entries of the artifact `a`. -/
def AppendsOf (a : Text) (l l' : List TriageEntry) : Prop :=
  ∃ new, l' = l ++ new ∧ ∀ t ∈ new, t.artifact = a

/-- Appending nothing is appending. -/
theorem AppendsOf.refl (a : Text) (l : List TriageEntry) : AppendsOf a l l :=
  ⟨[], (List.append_nil _).symm, fun _ h => by cases h⟩

/-- Appends compose. -/
theorem AppendsOf.trans {a : Text} {l l' l'' : List TriageEntry} (h : AppendsOf a l l')
    (h' : AppendsOf a l' l'') : AppendsOf a l l'' := by
  obtain ⟨n, rfl, hn⟩ := h
  obtain ⟨n', rfl, hn'⟩ := h'
  exact ⟨n ++ n', List.append_assoc _ _ _, fun t ht => (List.mem_append.mp ht).elim (hn t) (hn' t)⟩

/-- Appending keeps the old log as a prefix. -/
theorem AppendsOf.isPrefix {a : Text} {l l' : List TriageEntry} (h : AppendsOf a l l') : l <+: l' :=
  let ⟨n, hn, _⟩ := h
  ⟨n, hn.symm⟩

/-- A turn of the loop appends at most the entry of the crash it pops, with
the artifact of the line. -/
theorem triageOne_log (artifact : Text) (p : PendingCrash) (s : Scan) :
    AppendsOf artifact s.logTriageCrashOverTime (triageOne artifact p s).logTriageCrashOverTime := by
  unfold triageOne
  split
  · exact ⟨[p.toEntry artifact], rfl, fun t ht => by rw [List.mem_singleton.mp ht]; rfl⟩
  · exact .refl _ _

/-- Along the loop the triage log only grows, by entries of the line's
artifact, up to the log the loop ends with; the trace ends where the loop
does. -/
theorem scanTrace_spec (elapsedTime : Option Int) (artifact : Text) (s : Scan) (i : Nat) :
    (scanTrace elapsedTime artifact s i).getLast? = some (scanPendingCrashes elapsedTime artifact s i) ∧
      ∀ c ∈ scanTrace elapsedTime artifact s i,
        AppendsOf artifact s.logTriageCrashOverTime c.logTriageCrashOverTime ∧
        c.logTriageCrashOverTime <+:
          (scanPendingCrashes elapsedTime artifact s i).logTriageCrashOverTime := by
  induction s, i using scanPendingCrashes.induct elapsedTime artifact with
  | case1 s i h p he ih =>
      rw [scanTrace, dif_pos h, if_pos he, scanPendingCrashes, dif_pos h, if_pos he]
      obtain ⟨hlast, hall⟩ := ih
      have hone := triageOne_log artifact p s
      refine ⟨by rw [List.getLast?_cons, hlast]; rfl, fun c hc => ?_⟩
      rcases List.mem_cons.mp hc with rfl | hc
      · exact ⟨.refl _ _, hone.isPrefix.trans (hall _ (mem_scanTrace_self _ _ _ _)).2⟩
      · exact ⟨hone.trans (hall c hc).1, (hall c hc).2⟩
  | case2 s i h p he ih =>
      rw [scanTrace, dif_pos h, if_neg he, scanPendingCrashes, dif_pos h, if_neg he]
      obtain ⟨hlast, hall⟩ := ih
      refine ⟨by rw [List.getLast?_cons, hlast]; rfl, fun c hc => ?_⟩
      rcases List.mem_cons.mp hc with rfl | hc
      · exact ⟨.refl _ _, (hall _ (mem_scanTrace_self _ _ _ _)).2⟩
      · exact hall c hc
  | case3 s i h =>
      rw [scanTrace, dif_neg h, scanPendingCrashes, dif_neg h]
      refine ⟨rfl, fun c hc => ?_⟩
      rw [List.mem_singleton.mp hc]
      exact ⟨.refl _ _, List.prefix_refl _⟩

-- ============================================================= one line

/-- The five lists at each point of lines 206-269 where a signal can find them
changed: before the line, after each `append`, and at each test of the scan
loop's condition. -/
def lineTrace (s : ParserState) : LineKind → List Series
  | .cov r =>
      let l₁ := { s.series with covOverTime := s.covOverTime ++ [(r.elapsedTime, r.cov)] }
      [s.series, l₁, { l₁ with ftOverTime := s.ftOverTime ++ [(r.elapsedTime, r.ft)] }]
  | .crash e c _ => [s.series, { s.series with logCrashOverTime := s.logCrashOverTime ++ [(e, c)] }]
  | .artifact e a =>
      let s₁ := { s with artifactOverTime := s.artifactOverTime ++ [(e, a)] }
      s.series :: (scanTrace e a s₁.scan 0).map fun c => (s₁.withScan c).series
  | _ => [s.series]

/-- A line's lists are those of its kind's change. -/
theorem series_next (s : ParserState) (ev : LineEvent) : (s.next ev).series = (s.apply ev.kind).series :=
  next_frame ParserState.series (fun _ => rfl) (fun _ => rfl) s ev

/-- The points of a line end at the lists the line leaves. -/
theorem lineTrace_last (s : ParserState) (k : LineKind) :
    (lineTrace s k).getLast? = some (s.apply k).series := by
  cases k with
  | crash e c cls =>
      simp only [lineTrace, ParserState.apply, ParserState.recordCrash, enqueue_eq]
      rfl
  | artifact e a =>
      simp only [lineTrace, List.getLast?_cons, List.getLast?_map, (scanTrace_spec _ _ _ _).1]
      rfl
  | _ => rfl

/-- Every point of a line lies between the lists before it and after it. -/
theorem lineTrace_between (s : ParserState) (k : LineKind) :
    ∀ l ∈ lineTrace s k, s.series.Extends l ∧ l.Extends (s.apply k).series := by
  cases k with
  | cov r =>
      simp only [lineTrace, ParserState.apply, ParserState.recordCov, ParserState.series,
        List.mem_cons, List.mem_singleton, List.not_mem_nil, or_false]
      rintro l (rfl | rfl | rfl) <;>
        simp [Series.Extends, List.prefix_append, List.prefix_refl]
  | crash e c cls =>
      simp only [lineTrace, ParserState.apply, ParserState.recordCrash, enqueue_eq,
        ParserState.series, List.mem_cons, List.mem_singleton, List.not_mem_nil, or_false]
      rintro l (rfl | rfl) <;> simp [Series.Extends, List.prefix_append, List.prefix_refl]
  | artifact e a =>
      intro l hl
      let s₁ : ParserState := { s with artifactOverTime := s.artifactOverTime ++ [(e, a)] }
      simp only [lineTrace, List.mem_cons, List.mem_map] at hl
      rcases hl with rfl | ⟨c, hc, rfl⟩
      · obtain ⟨-, hpre⟩ := (scanTrace_spec e a s₁.scan 0).2 _ (mem_scanTrace_self _ _ _ _)
        exact ⟨.refl _, List.prefix_refl _, List.prefix_refl _, List.prefix_refl _,
          List.prefix_append _ _, hpre⟩
      · obtain ⟨happ, hpre⟩ := (scanTrace_spec e a s₁.scan 0).2 c hc
        exact ⟨⟨List.prefix_refl _, List.prefix_refl _, List.prefix_refl _, List.prefix_append _ _,
          happ.isPrefix⟩, ⟨List.prefix_refl _, List.prefix_refl _, List.prefix_refl _, List.prefix_refl _, hpre⟩⟩
  | _ =>
      intro l hl
      rw [List.mem_singleton.mp hl]
      exact ⟨.refl _, .refl _⟩

-- ========================================================== consistency

/-- What pairs the lists of a dump: `ft_over_time` is `cov_over_time` without
at most its last entry, at the same elapsed times, and the artifact of every
triage entry is in `artifact_over_time`. -/
def Series.Consistent (l : Series) : Prop :=
  l.ftOverTime.map Prod.fst <+: l.covOverTime.map Prod.fst ∧
    l.covOverTime.length ≤ l.ftOverTime.length + 1 ∧
    ∀ t ∈ l.logTriageCrashOverTime, ∃ e, (e, t.artifact) ∈ l.artifactOverTime

/-- The lists at a sync: the coverage lists aligned entry for entry, and the
artifact of every triage entry in `artifact_over_time`. -/
def Series.Synced (l : Series) : Prop :=
  l.ftOverTime.map Prod.fst = l.covOverTime.map Prod.fst ∧
    ∀ t ∈ l.logTriageCrashOverTime, ∃ e, (e, t.artifact) ∈ l.artifactOverTime

/-- Synced lists can be paired. -/
theorem Series.Synced.consistent {l : Series} (h : l.Synced) : l.Consistent := by
  have hlen := congrArg List.length h.1
  simp only [List.length_map] at hlen
  exact ⟨h.1 ▸ List.prefix_refl _, by omega, h.2⟩

/-- A line keeps the coverage lists aligned. -/
theorem apply_cov_aligned {s : ParserState} (h : s.series.Synced) (k : LineKind) :
    (s.apply k).ftOverTime.map Prod.fst = (s.apply k).covOverTime.map Prod.fst := by
  have h1 : s.ftOverTime.map Prod.fst = s.covOverTime.map Prod.fst := h.1
  cases k <;> simp [ParserState.apply, ParserState.setBaseline, ParserState.recordCov,
    ParserState.recordCrash, enqueue_eq, ParserState.recordArtifact, ParserState.withScan, h1]

/-- From synced lists, every point of a line is consistent, and the line ends
synced. -/
theorem lineTrace_consistent {s : ParserState} (h : s.series.Synced) (k : LineKind) :
    (∀ l ∈ lineTrace s k, l.Consistent) ∧ (s.apply k).series.Synced := by
  have h1 : s.ftOverTime.map Prod.fst = s.covOverTime.map Prod.fst := h.1
  have hall : ∀ l ∈ lineTrace s k, l.Consistent := by
    cases k with
    | cov r =>
        have hlen := congrArg List.length h1
        simp only [List.length_map] at hlen
        simp only [lineTrace, List.mem_cons, List.mem_singleton, List.not_mem_nil, or_false]
        rintro l (rfl | rfl | rfl)
        · exact h.consistent
        · refine ⟨?_, by simp [ParserState.series]; omega, h.2⟩
          show s.ftOverTime.map Prod.fst <+: (s.covOverTime ++ _).map Prod.fst
          rw [h1, List.map_append]
          exact List.prefix_append _ _
        · exact Series.Synced.consistent ⟨by simp [h1], h.2⟩
    | crash e c cls =>
        simp only [lineTrace, List.mem_cons, List.mem_singleton, List.not_mem_nil, or_false]
        rintro l (rfl | rfl)
        · exact h.consistent
        · exact Series.Synced.consistent ⟨h1, h.2⟩
    | artifact e a =>
        intro l hl
        simp only [lineTrace, List.mem_cons, List.mem_map] at hl
        rcases hl with rfl | ⟨c, hc, rfl⟩
        · exact h.consistent
        · obtain ⟨⟨new, hnew, hart⟩, -⟩ := (scanTrace_spec e a _ 0).2 c hc
          refine Series.Synced.consistent ⟨h1, fun t ht => ?_⟩
          change t ∈ c.logTriageCrashOverTime at ht
          change ∃ e', (e', t.artifact) ∈ s.artifactOverTime ++ [(e, a)]
          rw [hnew] at ht
          rcases List.mem_append.mp ht with ht | ht
          · obtain ⟨e', he'⟩ := h.2 t ht
            exact ⟨e', List.mem_append_left _ he'⟩
          · exact ⟨e, by rw [hart t ht]; exact List.mem_append_right _ (List.mem_singleton_self _)⟩
    | _ =>
        intro l hl
        rw [List.mem_singleton.mp hl]
        exact h.consistent
  exact ⟨hall, apply_cov_aligned h k,
    (hall _ (List.mem_of_getLast?_eq_some (lineTrace_last s k))).2.2⟩

-- ============================================================== the run

/-- Each point along the events `evs` from the run `r` where a signal can
arrive, in order, with the dumps written before it and the `fuzz_data` the
handler dumps there: at each point of each line, the dict as last synced with
the live lists (`none` for the `{}` before the first sync); after the last line
read, the dict as last synced. -/
def signalPoints : Run → List LineEvent → List (List FuzzData × Option FuzzData)
  | r, [] => [(r.dumps, r.fuzzData)]
  | r, ev :: evs =>
      (lineTrace r.state ev.kind).map (fun l => (r.dumps, r.fuzzData.map (·.withSeries l))) ++
        signalPoints (r.observe ev) evs

/-- Every `fuzz_data` a SIGINT, SIGTERM or SIGPIPE can make `signal_handler`
dump while `parse_log_in_stream` reads `lines`, in order. -/
def signalDumps (cfg : Config) (lines : List ByteLine) : List (Option FuzzData) :=
  (signalPoints {} (runEvents cfg lines).1).map Prod.snd

/-- Putting back a dict's own lists changes nothing. -/
@[simp] theorem FuzzData.withSeries_series (d : FuzzData) : d.withSeries d.series = d := rfl

/-- A dict extends another's scalars with lists below the other's. -/
theorem FuzzData.Extends.withSeries {d d₀ : FuzzData} {l : Series} (h : d.Extends d₀)
    (hl : d₀.series.Extends l) : d.Extends (d₀.withSeries l) :=
  ⟨h.1.trans hl.1, h.2.1.trans hl.2.1, h.2.2.1.trans hl.2.2.1, h.2.2.2.1.trans hl.2.2.2.1,
    h.2.2.2.2.1.trans hl.2.2.2.2, h.2.2.2.2.2⟩

/-- A run keeps the lists synced. -/
theorem synced_foldl (evs : List LineEvent) {s : ParserState} (h : s.series.Synced) :
    (evs.foldl ParserState.next s).series.Synced := by
  induction evs generalizing s with
  | nil => exact h
  | cons ev evs ih =>
      rw [List.foldl_cons]
      exact ih (series_next s ev ▸ (lineTrace_consistent h ev.kind).2)

/-- Taking one more event past a split point. -/
theorem take_succ_of_drop {E : List LineEvent} {k : Nat} {ev : LineEvent} {rest : List LineEvent}
    (h : E.drop k = ev :: rest) : E.take (k + 1) = E.take k ++ [ev] := by
  rw [List.take_succ, ← List.head?_drop, h]
  rfl

/-- At every point of a run the dumps written so far are those of a run's
prefix, each extended by the dump there; that dump is consistent, and lies
between two syncs. -/
theorem signalPoints_spec (E : List LineEvent) :
    ∀ k, ∀ p ∈ signalPoints ((E.take k).foldl Run.observe {}) (E.drop k),
      (∃ j, p.1 = ((E.take j).foldl Run.observe {}).dumps) ∧ (∀ d ∈ p.1, ∃ f ∈ p.2, d.Extends f) ∧
      ∀ f ∈ p.2, f.series.Consistent ∧
        ∃ j, ∃ d₀ ∈ ((E.take j).foldl Run.observe {}).fuzzData,
          f = d₀.withSeries f.series ∧ d₀.series.Extends f.series ∧
          f.series.Extends ((E.take (j + 1)).foldl ParserState.next {}).series := by
  have hG : ∀ k, GrowInv ((E.take k).foldl Run.observe {}) := fun k => growInv_foldl _ growInv_empty
  have hS : ∀ k, ((E.take k).foldl Run.observe {}).state.series.Synced := fun k => by
    rw [foldl_observe_state]
    exact synced_foldl _ ⟨rfl, fun _ h => by cases h⟩
  intro k
  generalize hrest : E.drop k = rest
  induction rest generalizing k with
  | nil =>
      intro p hp
      rw [List.mem_singleton.mp hp]
      have htake : E.take (k + 1) = E.take k := by
        rw [List.take_succ, ← List.head?_drop, hrest, List.head?_nil, Option.toList_none,
          List.append_nil]
      refine ⟨⟨k, rfl⟩, fun d hd => ?_, fun f hf => ?_⟩
      · obtain ⟨f, hf⟩ := Option.isSome_iff_exists.mp ((hG k).fed d hd)
        exact ⟨f, hf, (hG k).synced f hf ▸ (hG k).last d hd⟩
      · have hsync := (hG k).synced f hf
        refine ⟨hsync ▸ (hS k).consistent, k, f, hf, rfl, .refl _, ?_⟩
        rw [htake, hsync, syncResult_series, foldl_observe_state]
        exact .refl _
  | cons ev rest ih =>
      intro p hp
      rcases List.mem_append.mp hp with hp | hp
      · obtain ⟨l, hl, rfl⟩ := List.mem_map.mp hp
        have hb := lineTrace_between _ ev.kind l hl
        have hlo : ∀ d₀ ∈ ((E.take k).foldl Run.observe {}).fuzzData, d₀.series.Extends l :=
          fun d₀ hd₀ => by rw [(hG k).synced d₀ hd₀, syncResult_series]; exact hb.1
        refine ⟨⟨k, rfl⟩, fun d hd => ?_, fun f hf => ?_⟩
        · obtain ⟨d₀, hd₀⟩ := Option.isSome_iff_exists.mp ((hG k).fed d hd)
          have hdd₀ : d.Extends d₀ := (hG k).synced d₀ hd₀ ▸ (hG k).last d hd
          exact ⟨_, Option.mem_map_of_mem _ hd₀, hdd₀.withSeries (hlo d₀ hd₀)⟩
        · obtain ⟨d₀, hd₀, rfl⟩ := Option.mem_map.mp hf
          refine ⟨(lineTrace_consistent (hS k) ev.kind).1 l hl, k, d₀, hd₀, rfl, hlo d₀ hd₀, ?_⟩
          rw [FuzzData.series_withSeries, take_succ_of_drop hrest, List.foldl_concat, series_next]
          rw [foldl_observe_state] at hb
          exact hb.2
      · have hr : (E.take (k + 1)).foldl Run.observe {} = ((E.take k).foldl Run.observe {}).observe ev := by
          rw [take_succ_of_drop hrest, List.foldl_concat]
        have hd' : E.drop (k + 1) = rest := by
          rw [← List.drop_drop, hrest]; rfl
        exact ih (k + 1) hd' p (hr ▸ hp)

/-- Whatever the stream and wherever a signal arrives, the `fuzz_data` the
handler dumps holds the scalars of the last sync and lists that extend the
last sync's and are extended by the next sync's; its lists are consistent
even when torn: `ft_over_time` is `cov_over_time` without at most its last
entry, at the same elapsed times, and the artifact of every triage entry is in
`artifact_over_time`. -/
theorem signalDumps_spec (cfg : Config) (lines : List ByteLine) :
    ∀ d ∈ signalDumps cfg lines, ∀ f ∈ d, f.series.Consistent ∧
      ∃ k, ∃ d₀ ∈ (parseLogInStream cfg (lines.take k)).fuzzData,
        f = d₀.withSeries f.series ∧ d₀.series.Extends f.series ∧
        f.series.Extends (parseLogInStream cfg (lines.take (k + 1))).state.series := by
  intro d hd f hf
  obtain ⟨p, hp, rfl⟩ := List.mem_map.mp hd
  obtain ⟨hc, j, d₀, hd₀, hf₀, hlo, hhi⟩ := (signalPoints_spec (runEvents cfg lines).1 0 p hp).2.2 f hf
  refine ⟨hc, j, d₀, ?_, hf₀, hlo, ?_⟩
  · rwa [parseLogInStream_fuzzData, runEvents_take]
  · rwa [parseLogInStream_state, runEvents_take]

/-- A start banner, then a coverage line at timestamp 2. -/
def tornLines : List ByteLine := [asciiBytes startLine, asciiBytes ("2 ".toList ++ covLine 1)]

set_option maxRecDepth 20000 in
/-- A signal between the two appends of the coverage line finds
`cov_over_time` one entry ahead of `ft_over_time`; that torn dump, too, lies
between two syncs with lists a reader can pair. -/
theorem signalDumps_spec_torn :
    ∃ d ∈ signalDumps ⟨[], false⟩ tornLines, ∃ f ∈ d,
      f.ftOverTime = [] ∧ f.covOverTime.length = 1 ∧ f.series.Consistent ∧
      ∃ k, ∃ d₀ ∈ (parseLogInStream ⟨[], false⟩ (tornLines.take k)).fuzzData,
        f = d₀.withSeries f.series ∧ d₀.series.Extends f.series ∧
        f.series.Extends (parseLogInStream ⟨[], false⟩ (tornLines.take (k + 1))).state.series := by
  have h : ∃ d ∈ signalDumps ⟨[], false⟩ tornLines, ∃ f ∈ d,
      f.ftOverTime = [] ∧ f.covOverTime.length = 1 := by
    decide
  obtain ⟨d, hd, f, hf, hft, hcov⟩ := h
  exact ⟨d, hd, f, hf, hft, hcov, signalDumps_spec _ _ d hd f hf⟩

end JazzerLog
