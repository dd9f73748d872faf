/-
The coverage series, the scalar summary and the round count of a run.

# The series

Only a coverage line writes `cov_over_time`, `ft_over_time` and the four
scalars, all in one block (lines 218-223), so over the lines a run processes
the two series are the coverage records of those lines, in order, and the
scalars are their last values and their maxima (`coverage_summary`). The
lines a run processes are all of its lines, or those before the first line
that raises (`Abort.lean`): a stream whose first line raises ends with empty
series even when later lines are coverage lines (`coverage_after_abort`).

# The round count

An exit line makes the round count the base of the next run segment (line
265), and a coverage line sets the count to the base plus its round number.
So the count is the sum over the segments of each one's last round number
(`ttlRound_segments`); the induction carries the segment being read and the
last round number seen in it.
-/
import Mathlib
import JazzerLog.Abort

namespace JazzerLog

-- ============================================================ the series

/-- The coverage records of a list of events, in order. -/
def covRecords (evs : List LineEvent) : List CovRecord := evs.filterMap (·.kind.covRecord?)

/-- `cov_over_time` after a run is the pairs of its coverage records. -/
theorem foldl_next_covOverTime (evs : List LineEvent) :
    (evs.foldl ParserState.next {}).covOverTime = (covRecords evs).map fun r => (r.elapsedTime, r.cov) := by
  rw [foldl_next_append ParserState.covOverTime _ next_covOverTime, covRecords, List.map_filterMap]
  rfl

/-- `ft_over_time` after a run is the pairs of its coverage records. -/
theorem foldl_next_ftOverTime (evs : List LineEvent) :
    (evs.foldl ParserState.next {}).ftOverTime = (covRecords evs).map fun r => (r.elapsedTime, r.ft) := by
  rw [foldl_next_append ParserState.ftOverTime _ next_ftOverTime, covRecords, List.map_filterMap]
  rfl

/-- `last_cov` after a run is the coverage of its last record, 0 without one. -/
theorem foldl_next_lastCov (evs : List LineEvent) :
    (evs.foldl ParserState.next {}).lastCov = (((covRecords evs).map CovRecord.cov).getLast?).getD 0 := by
  rw [foldl_next_last ParserState.lastCov _ next_lastCov, covRecords, List.map_filterMap]

/-- `last_ft` after a run is the feature count of its last record, 0 without one. -/
theorem foldl_next_lastFt (evs : List LineEvent) :
    (evs.foldl ParserState.next {}).lastFt = (((covRecords evs).map CovRecord.ft).getLast?).getD 0 := by
  rw [foldl_next_last ParserState.lastFt _ next_lastFt, covRecords, List.map_filterMap]

/-- `max_cov` after a run is the maximum of 0 and the coverage of its records. -/
theorem foldl_next_maxCov (evs : List LineEvent) :
    (evs.foldl ParserState.next {}).maxCov = ((covRecords evs).map CovRecord.cov).foldl max 0 := by
  rw [foldl_next_max ParserState.maxCov (fun ev => ev.kind.covRecord?.map CovRecord.cov)
    (fun s ev => by rw [next_maxCov, Option.map_map]; rfl), covRecords, List.map_filterMap]

/-- `max_ft` after a run is the maximum of 0 and the feature counts of its records. -/
theorem foldl_next_maxFt (evs : List LineEvent) :
    (evs.foldl ParserState.next {}).maxFt = ((covRecords evs).map CovRecord.ft).foldl max 0 := by
  rw [foldl_next_max ParserState.maxFt (fun ev => ev.kind.covRecord?.map CovRecord.ft)
    (fun s ev => by rw [next_maxFt, Option.map_map]; rfl), covRecords, List.map_filterMap]

/-- The coverage records of a run are one per processed line that
`_parse_cov_line` matches. -/
theorem covRecords_length (cfg : Config) (lines : List ByteLine) :
    (covRecords (runEvents cfg lines).1).length =
      ((lines.map lineText).take (runEvents cfg lines).1.length).countP covMatches := by
  rw [covRecords, List.length_filterMap_eq_countP]
  exact lineEvents_countP _ _ (fun _ _ _ h => lineKind_covRecord? (lineEvent_ok h).1) _ _

/-- Only a coverage line has a coverage record. -/
theorem LineKind.eq_cov_of_covRecord? {k : LineKind} {r : CovRecord} (h : k.covRecord? = some r) :
    k = .cov r := by
  cases k <;> cases h
  rfl

/-- Every coverage record of a run is what `_parse_cov_line` returned on one
of the lines the run read. -/
theorem covRecords_parseCovLine {jazzerSinkMode : Text} (b : Option Nat) (texts : List Text) :
    ∀ r ∈ covRecords (lineEvents jazzerSinkMode b texts).1,
      ∃ line ∈ texts.take (lineEvents jazzerSinkMode b texts).1.length,
        ∃ b', parseCovLine line b' = .ok (some r) := by
  induction texts generalizing b with
  | nil => exact nofun
  | cons line rest ih =>
      rcases hl : lineEvent jazzerSinkMode b line with e | ev
      · rw [lineEvents_cons_error hl]
        exact nofun
      · rw [lineEvents_cons_ok hl, List.length_cons, List.take_succ_cons]
        have hrest := ih (ev.kind.baseline b)
        intro r hr
        simp only [covRecords, List.filterMap_cons] at hr
        split at hr
        · obtain ⟨l', hl', b', hp⟩ := hrest r hr
          exact ⟨l', List.mem_cons_of_mem _ hl', b', hp⟩
        · next r' hk =>
            rcases List.mem_cons.mp hr with rfl | hr
            · have hf := kindFound_of_lineKind (LineKind.eq_cov_of_covRecord? hk ▸ (lineEvent_ok hl).1)
              exact ⟨line, List.mem_cons_self _ _, b, hf.2⟩
            · obtain ⟨l', hl', b', hp⟩ := hrest r hr
              exact ⟨l', List.mem_cons_of_mem _ hl', b', hp⟩

/-- Over the lines a run processes, the two series are the coverage records of
those lines, one per line `_parse_cov_line` matches and each what it returned
there, with the same elapsed times; `last_cov` and `last_ft` are the values of
the last record and `max_cov` and `max_ft` the maxima of 0 and of the
records' values. -/
theorem coverage_summary (cfg : Config) (lines : List ByteLine) :
    let s := (parseLogInStream cfg lines).state
    let read := (lines.map lineText).take (runEvents cfg lines).1.length
    let recs := covRecords (runEvents cfg lines).1
    recs.length = read.countP covMatches ∧
    (∀ r ∈ recs, ∃ line ∈ read, ∃ b, parseCovLine line b = .ok (some r)) ∧
    s.covOverTime = recs.map (fun r => (r.elapsedTime, r.cov)) ∧
    s.ftOverTime = recs.map (fun r => (r.elapsedTime, r.ft)) ∧
    s.covOverTime.length = s.ftOverTime.length ∧
    s.covOverTime.map Prod.fst = s.ftOverTime.map Prod.fst ∧
    s.lastCov = ((recs.map CovRecord.cov).getLast?).getD 0 ∧
    s.lastFt = ((recs.map CovRecord.ft).getLast?).getD 0 ∧
    s.maxCov = (recs.map CovRecord.cov).foldl max 0 ∧
    s.maxFt = (recs.map CovRecord.ft).foldl max 0 := by
  intro s read recs
  have hs : s = (runEvents cfg lines).1.foldl ParserState.next {} := parseLogInStream_state cfg lines
  rw [hs, foldl_next_covOverTime, foldl_next_ftOverTime]
  exact ⟨covRecords_length cfg lines, covRecords_parseCovLine none _, rfl, rfl, by simp,
    by simp only [List.map_map]; rfl, foldl_next_lastCov _, foldl_next_lastFt _, foldl_next_maxCov _,
    foldl_next_maxFt _⟩

/-- A legacy coverage line of round `n`, coverage 1 and one feature. -/
def covLine (n : Nat) : Text := ("#" ++ toString n ++ " NEW cov: 1 ft: 1").toList

/-- A stream whose first line raises: its second line is a coverage line, and
both series stay empty. -/
theorem coverage_after_abort :
    let lines := [asciiBytes longStampLine, asciiBytes (covLine 1)]
    covMatches (lineText (asciiBytes (covLine 1))) = true ∧
      (parseLogInStream ⟨[], false⟩ lines).state.covOverTime = [] := by
  refine ⟨by decide, ?_⟩
  rw [parseLogInStream_state, runEvents, List.map_cons, lineText_longStampLine,
    lineEvents_cons_error (lineEvent_longStampLine _ _)]
  rfl

-- ======================================================= the round count

/-- The run segments of a list of events: an exit line closes the segment it
ends, after its own coverage record; the last segment is the current one. -/
def segments : List LineEvent → List (List LineEvent)
  | [] => [[]]
  | ev :: evs =>
      if ev.exit then [ev] :: segments evs
      else
        match segments evs with
        | seg :: segs => (ev :: seg) :: segs
        | [] => [[ev]]

/-- The round numbers of a segment's coverage lines, in order. -/
def rounds (seg : List LineEvent) : List Nat := (covRecords seg).map CovRecord.roundno

/-- The round number of a segment's last coverage line, 0 without one. -/
def lastRound (seg : List LineEvent) : Nat := ((rounds seg).getLast?).getD 0

/-- A run has at least its current segment. -/
theorem segments_ne_nil (evs : List LineEvent) : segments evs ≠ [] := by
  cases evs with
  | nil => simp [segments]
  | cons ev evs =>
      unfold segments
      split
      · simp
      · split <;> simp

/-- The rounds of a segment that begins with `ev`. -/
theorem rounds_cons (ev : LineEvent) (seg : List LineEvent) :
    rounds (ev :: seg) = (ev.kind.covRecord?.map CovRecord.roundno).toList ++ rounds seg := by
  unfold rounds covRecords
  cases h : ev.kind.covRecord? <;> simp [List.filterMap_cons, h]

/-- The last round of a segment that begins with `ev`. -/
theorem getLast?_rounds_cons (ev : LineEvent) (seg : List LineEvent) (c : Nat) :
    ((rounds (ev :: seg)).getLast?).getD c =
      ((rounds seg).getLast?).getD ((ev.kind.covRecord?.map CovRecord.roundno).getD c) := by
  rw [rounds_cons]
  cases ev.kind.covRecord? <;> simp [List.getLast?_cons]

/-- The round count read from a state whose count is its base plus `c`, the
last round number of the segment being read. -/
theorem foldl_next_ttlRound (evs : List LineEvent) (s : ParserState) (c : Nat)
    (hs : s.ttlRound = s.ttlRoundnoBase + c) (seg : List LineEvent) (segs : List (List LineEvent))
    (hseg : segments evs = seg :: segs) :
    (evs.foldl ParserState.next s).ttlRound =
      s.ttlRoundnoBase + ((rounds seg).getLast?).getD c + (segs.map lastRound).sum := by
  induction evs generalizing s c seg segs with
  | nil => cases hseg; simp [hs, rounds, covRecords]
  | cons ev evs ih =>
      have ht : (s.next ev).ttlRound =
          s.ttlRoundnoBase + (ev.kind.covRecord?.map CovRecord.roundno).getD c := by
        rw [next_ttlRound, hs]; cases ev.kind.covRecord? <;> rfl
      obtain ⟨seg', segs', hrest⟩ := List.exists_cons_of_ne_nil (segments_ne_nil evs)
      rw [List.foldl_cons]
      unfold segments at hseg
      by_cases hx : ev.exit = true
      · rw [if_pos hx] at hseg
        cases hseg
        rw [ih (s.next ev) 0 (by simp [hx]) seg' segs' hrest, next_ttlRoundnoBase, if_pos hx, ht,
          hrest, getLast?_rounds_cons]
        simp [rounds, covRecords, lastRound, Nat.add_assoc]
      · rw [if_neg hx, hrest, List.cons.injEq] at hseg
        obtain ⟨rfl, rfl⟩ := hseg
        have hb : (s.next ev).ttlRoundnoBase = s.ttlRoundnoBase := by simp [hx]
        rw [ih (s.next ev) _ (by rw [ht, hb]) seg' segs' hrest, hb, getLast?_rounds_cons]

/-- Non-decreasing rounds after `c` stay so past a segment's first event. -/
theorem pairwise_rounds_cons {c : Nat} {ev : LineEvent} {seg : List LineEvent}
    (h : (c :: rounds (ev :: seg)).Pairwise (· ≤ ·)) :
    c ≤ (ev.kind.covRecord?.map CovRecord.roundno).getD c ∧
      ((ev.kind.covRecord?.map CovRecord.roundno).getD c :: rounds seg).Pairwise (· ≤ ·) := by
  rw [rounds_cons] at h
  cases hr : ev.kind.covRecord? with
  | none => simpa [hr] using h
  | some r =>
      rw [hr] at h
      exact ⟨List.rel_of_pairwise_cons h (by simp), h.of_cons⟩

/-- Read on from a state whose count is its base plus `c`, the round count
never falls while the round numbers of every segment rise from `c` on. -/
theorem foldl_next_ttlRound_mono (evs : List LineEvent) (s : ParserState) (c : Nat)
    (hs : s.ttlRound = s.ttlRoundnoBase + c) (seg : List LineEvent) (segs : List (List LineEvent))
    (hseg : segments evs = seg :: segs) (hfirst : (c :: rounds seg).Pairwise (· ≤ ·))
    (hrest : ∀ seg ∈ segs, (rounds seg).Pairwise (· ≤ ·)) :
    Monotone fun k => ((evs.take k).foldl ParserState.next s).ttlRound := by
  induction evs generalizing s c seg segs with
  | nil => simp only [List.take_nil]; exact monotone_const
  | cons ev evs ih =>
      have ht : (s.next ev).ttlRound =
          s.ttlRoundnoBase + (ev.kind.covRecord?.map CovRecord.roundno).getD c := by
        rw [next_ttlRound, hs]; cases ev.kind.covRecord? <;> rfl
      obtain ⟨seg', segs', hsegs⟩ := List.exists_cons_of_ne_nil (segments_ne_nil evs)
      have hstep : ∀ n, ((List.take (n + 1) (ev :: evs)).foldl ParserState.next s).ttlRound =
          ((evs.take n).foldl ParserState.next (s.next ev)).ttlRound := fun n => rfl
      refine monotone_nat_of_le_succ fun n => ?_
      unfold segments at hseg
      by_cases hx : ev.exit = true
      · rw [if_pos hx, List.cons.injEq] at hseg
        obtain ⟨rfl, rfl⟩ := hseg
        have hle := (pairwise_rounds_cons hfirst).1
        have hmono := ih (s.next ev) 0 (by simp [hx]) seg' segs' hsegs
          (List.pairwise_cons.mpr ⟨fun _ _ => Nat.zero_le _, hrest seg' (by simp [hsegs])⟩)
          (fun t ht => hrest t (by simp [hsegs, ht]))
        cases n with
        | zero =>
            show s.ttlRound ≤ (s.next ev).ttlRound
            rw [ht, hs]
            omega
        | succ n => rw [hstep, hstep]; exact hmono (Nat.le_succ n)
      · rw [if_neg hx, hsegs, List.cons.injEq] at hseg
        obtain ⟨rfl, rfl⟩ := hseg
        obtain ⟨hle, hfirst'⟩ := pairwise_rounds_cons hfirst
        have hb : (s.next ev).ttlRoundnoBase = s.ttlRoundnoBase := by simp [hx]
        have hmono := ih (s.next ev) _ (by rw [ht, hb]) seg' segs' hsegs hfirst' hrest
        cases n with
        | zero =>
            show s.ttlRound ≤ (s.next ev).ttlRound
            rw [ht, hs]
            omega
        | succ n => rw [hstep, hstep]; exact hmono (Nat.le_succ n)

/-- Over the lines a run processes, the round count is the sum over the run
segments of each one's last round number; and when the round numbers rise
within every segment, the count never falls from one line to the next. -/
theorem ttlRound_segments (cfg : Config) (lines : List ByteLine) :
    let evs := (runEvents cfg lines).1
    (parseLogInStream cfg lines).state.ttlRound = ((segments evs).map lastRound).sum ∧
    ((∀ seg ∈ segments evs, (rounds seg).Pairwise (· ≤ ·)) →
      Monotone fun k => (parseLogInStream cfg (lines.take k)).state.ttlRound) := by
  obtain ⟨seg, segs, hseg⟩ := List.exists_cons_of_ne_nil (segments_ne_nil (runEvents cfg lines).1)
  refine ⟨?_, fun h => ?_⟩
  · rw [parseLogInStream_state, foldl_next_ttlRound _ {} 0 rfl seg segs hseg, hseg]
    simp [lastRound, Nat.add_assoc]
  · have hmono := foldl_next_ttlRound_mono _ {} 0 rfl seg segs hseg
      (List.pairwise_cons.mpr ⟨fun _ _ => Nat.zero_le _, h seg (by simp [hseg])⟩)
      (fun s hs => h s (by simp [hseg, hs]))
    intro i j hij
    simp only [parseLogInStream_state, runEvents, List.map_take, lineEvents_take]
    exact hmono hij

/-- A stream whose second line raises: the round count stays at the first
line's round 5, though the last line, of the same segment, reports round 7. -/
theorem ttlRound_after_abort :
    let lines := [asciiBytes (covLine 5), asciiBytes longStampLine, asciiBytes (covLine 7)]
    (parseLogInStream ⟨[], false⟩ lines).state.ttlRound = 5 ∧
      lineEvent [] none (lineText (asciiBytes (covLine 7))) = .ok ⟨.cov ⟨7, none, 1, 1⟩, false⟩ := by
  have h5 : lineEvent [] none (lineText (asciiBytes (covLine 5))) = .ok ⟨.cov ⟨5, none, 1, 1⟩, false⟩ :=
    rfl
  refine ⟨?_, rfl⟩
  rw [parseLogInStream_state, runEvents, List.map_cons, List.map_cons, lineText_longStampLine,
    lineEvents_cons_ok h5, lineEvents_cons_error (lineEvent_longStampLine _ _)]
  rfl

end JazzerLog
