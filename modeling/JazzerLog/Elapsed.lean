/-
The elapsed times a run records.

# The baseline

`initial_timestamp` is set by the first line the start pattern matches, while
it is unset, and never again: before line `k` it is the timestamp of the
first start line among the lines before `k`, and unset when there is none
(`baselineOf_take`, `firstStartStamp`).

# The elapsed time of a line

All three extractors read the timestamp of a current-format line with the
same `(\d+)\s` prefix, and every legacy pattern begins with a character that
is no digit, so a record carries its line's timestamp less the baseline before
the line, and `None` when either is missing (`lineKind_elapsed`, `elapsedAt`).
Over a run (`elapsed_law`): every entry of the four series carries the elapsed
time of the line that wrote it, every triage entry the elapsed time of the
crash line it was made from, and once set the baseline stays.
-/
import JazzerLog.Dumps

namespace JazzerLog

-- ========================================================= the timestamp

/-- The timestamp `(\d+)\s` reads from the front of a line, if it has one. -/
def stampOf (line : Text) : Option Nat := (splitStamp line).map fun p => digitsValue p.1

/-- The timestamp of the first start line among `texts`. -/
def firstStartStamp (texts : List Text) : Option Nat := (texts.find? startMatches).bind stampOf

/-- The elapsed time of line `k`: its timestamp `T_k` less the baseline `b`
the lines before it set, and `None` when either is missing. -/
def elapsedAt (texts : List Text) (k : Nat) : Option Int :=
  match stampOf (texts.getD k []), firstStartStamp (texts.take k) with
  | some t, some b => some ((t : Int) - b)
  | _, _ => none

/-- The elapsed time of a line is known exactly when its timestamp and the baseline are, and is
their difference. -/
theorem elapsedAt_eq_some {texts : List Text} {k : Nat} {e : Int} :
    elapsedAt texts k = some e ↔ ∃ t b, stampOf (texts.getD k []) = some t ∧
      firstStartStamp (texts.take k) = some b ∧ e = (t : Int) - b := by
  unfold elapsedAt
  cases stampOf (texts.getD k []) <;> cases firstStartStamp (texts.take k) <;> simp [eq_comm]

/-- `elapsed_time` as the extractors compute it, from the line's timestamp and
the baseline before it, is the elapsed time of the line. -/
theorem bind_elapsedSince (texts : List Text) (k : Nat) :
    (stampOf (texts.getD k [])).bind (elapsedSince (firstStartStamp (texts.take k))) =
      elapsedAt texts k := by
  unfold elapsedAt
  cases stampOf (texts.getD k []) <;> cases firstStartStamp (texts.take k) <;> rfl

/-- The elapsed time a line of kind `k` records, if it records one. -/
def LineKind.elapsed? : LineKind → Option (Option Int)
  | .cov r => some r.elapsedTime
  | .crash e _ _ => some e
  | .artifact e _ => some e
  | _ => none

/-- A pattern that begins with a character that is no digit matches no line
with a timestamp prefix. -/
theorem splitStamp_of_lead {r : Re} {c : Char} (hr : r.lead = some c) (hc : isDecimal c = false)
    {line : Text} {m : Groups} (hm : r.reMatch line = some m) : splitStamp line = none :=
  splitStamp_eq_none fun d hd => by
    rw [head_of_go hr hm] at hd
    cases hd
    exact hc

/-- The timestamp a current-format pattern converts is the line's. -/
theorem stampOf_of_stamped {r : Re} {line : Text} {m : Groups}
    (hm : (stamped r).reMatch line = some m) {t : Nat} (ht : pyInt (matchGroup m 1) = .ok t) :
    stampOf line = some t := by
  obtain ⟨q, m', hq, -, rfl⟩ := stamped_reMatch_eq_some hm
  simp [stampOf, hq, matchGroup, (pyInt_eq_ok.mp ht).2]

/-- A start line has a timestamp. -/
theorem stampOf_isSome_of_start {line : Text} (h : startMatches line = true) :
    (stampOf line).isSome := by
  obtain ⟨m, hm⟩ := Option.isSome_iff_exists.mp h
  obtain ⟨q, -, hq, -, -⟩ := @stamped_reMatch_eq_some startBanner line m hm
  simp [stampOf, hq]

-- ========================================================= one line

section Line

variable {line : Text} {b : Option Nat}

/-- A coverage record's elapsed time is its line's timestamp less the baseline. -/
theorem parseCovLine_elapsed {r : CovRecord} (h : parseCovLine line b = .ok (some r)) :
    r.elapsedTime = (stampOf line).bind (elapsedSince b) := by
  unfold parseCovLine at h
  split at h
  · next m hm =>
      simp only [bind_eq_ok, pure_eq_ok, Option.some.injEq] at h
      obtain ⟨t, ht, _, -, _, -, _, -, rfl⟩ := h
      simp [stampOf_of_stamped hm ht]
  · unfold parseOldCovLine at h
    split at h
    · next m hm =>
        simp only [bind_eq_ok, pure_eq_ok, Option.some.injEq] at h
        obtain ⟨_, -, _, -, _, -, rfl⟩ := h
        simp [stampOf,
          splitStamp_of_lead (show oldLibfuzzerCovLinePtrn.lead = some '#' from rfl) (by decide) hm]
    · cases h

/-- A crash record's elapsed time is its line's timestamp less the baseline. -/
theorem parseCrashLine_elapsed {p : Option Int × Text} (h : parseCrashLine line b = .ok (some p)) :
    p.1 = (stampOf line).bind (elapsedSince b) := by
  unfold parseCrashLine at h
  split at h
  · next m hm =>
      simp only [bind_eq_ok, pure_eq_ok, Option.some.injEq] at h
      obtain ⟨t, ht, rfl⟩ := h
      simp [stampOf_of_stamped hm ht]
  · unfold parseOldCrashLine at h
    split at h
    · next m hm =>
        cases pure_eq_ok.mp h
        simp [stampOf,
          splitStamp_of_lead (show oldLibfuzzerCrashLinePtrn.lead = some '=' from rfl) (by decide) hm]
    · cases h

/-- An artifact record's elapsed time is its line's timestamp less the baseline. -/
theorem parseArtifactLine_elapsed {p : Option Int × Text}
    (h : parseArtifactLine line b = .ok (some p)) :
    p.1 = (stampOf line).bind (elapsedSince b) := by
  unfold parseArtifactLine at h
  split at h
  · next m hm =>
      simp only [bind_eq_ok, pure_eq_ok, Option.some.injEq] at h
      obtain ⟨t, ht, rfl⟩ := h
      simp [stampOf_of_stamped hm ht]
  · unfold parseOldArtifactLine at h
    split at h
    · next m hm =>
        cases pure_eq_ok.mp h
        simp [stampOf,
          splitStamp_of_lead (show oldCrashArtifactLinePtrn.lead = some 'a' from rfl) (by decide) hm]
    · cases h

/-- The start found on a line is its timestamp. -/
theorem startOf_stamp {t : Nat} (h : startOf b line = .ok (some t)) : stampOf line = some t := by
  obtain ⟨rfl, -⟩ := startOf_ok_some h
  unfold startOf at h
  cases hm : fuzzStartLinePtrn.reMatch line with
  | none => simp [hm, pure, Except.pure] at h
  | some m =>
      simp only [hm] at h
      obtain ⟨a, ha, hat⟩ := map_eq_ok.mp h
      cases hat
      exact @stampOf_of_stamped startBanner line m hm _ ha

variable {jazzerSinkMode : Text} {k : LineKind}

/-- Every record of a line carries its timestamp less the baseline it was read
under. -/
theorem lineKind_elapsed (h : lineKind jazzerSinkMode b line = .ok k) {e : Option Int}
    (he : k.elapsed? = some e) : e = (stampOf line).bind (elapsedSince b) := by
  have hf := kindFound_of_lineKind h
  cases k with
  | cov r => cases he; exact parseCovLine_elapsed hf.2
  | crash => cases he; exact parseCrashLine_elapsed hf.2.2.1
  | artifact => cases he; exact parseArtifactLine_elapsed hf.2.2.2
  | start => cases he
  | other => cases he

/-- A line leaves a set baseline alone, and sets an unset one exactly when it
is a start line. -/
theorem lineKind_baseline (h : lineKind jazzerSinkMode b line = .ok k) :
    k.baseline b = b.or (if startMatches line then stampOf line else none) := by
  by_cases hk : ∃ t, k = .start t
  · obtain ⟨t, rfl⟩ := hk
    obtain ⟨rfl, hs⟩ := (lineKind_isStart h).mp ⟨t, rfl⟩
    simp [LineKind.baseline, hs, startOf_stamp (kindFound_of_lineKind h)]
  · rw [show k.baseline b = b by cases k <;> first | rfl | exact absurd ⟨_, rfl⟩ hk]
    cases b with
    | some => rfl
    | none =>
        have hs : startMatches line = false := by simpa [lineKind_isStart h] using hk
        simp [hs]

end Line

-- ========================================================= the baseline

/-- The first start line's timestamp after one more line. -/
theorem firstStartStamp_concat (texts : List Text) (line : Text) :
    firstStartStamp (texts ++ [line]) =
      (firstStartStamp texts).or (if startMatches line then stampOf line else none) := by
  unfold firstStartStamp
  rw [List.find?_append]
  cases hf : texts.find? startMatches with
  | some x =>
      obtain ⟨t, ht⟩ := Option.isSome_iff_exists.mp (stampOf_isSome_of_start (List.find?_some hf))
      simp [ht]
  | none => by_cases hs : startMatches line = true <;> simp [hs]

/-- Once a prefix has a start line, every longer prefix has the same first one. -/
theorem firstStartStamp_take_mono {texts : List Text} {j k : Nat} (hjk : j ≤ k) {t : Nat}
    (h : firstStartStamp (texts.take j) = some t) : firstStartStamp (texts.take k) = some t := by
  obtain ⟨x, hx, hxt⟩ := Option.bind_eq_some.mp h
  have hk : texts.take k = texts.take j ++ (texts.drop j).take (k - j) := by
    rw [← List.take_add, Nat.add_sub_cancel' hjk]
  rw [firstStartStamp, hk, List.find?_append, hx]
  exact hxt

section Run

variable {jazzerSinkMode : Text} {texts : List Text}

/-- The baseline before line `k` of a run is the timestamp of the first start
line before it. -/
theorem baselineOf_take (k : Nat) (hk : k ≤ (lineEvents jazzerSinkMode none texts).1.length) :
    baselineOf none ((lineEvents jazzerSinkMode none texts).1.take k) = firstStartStamp (texts.take k) := by
  induction k with
  | zero => rfl
  | succ k ih =>
      have hk' : k < (lineEvents jazzerSinkMode none texts).1.length := hk
      have ht : k < texts.length := lt_of_lt_of_le hk' (lineEvents_length_le _ _)
      rw [List.take_succ, List.getElem?_eq_getElem hk', Option.toList_some, baselineOf_concat,
        lineKind_baseline (lineEvent_ok (lineEvent_getElem k hk')).1, ih hk'.le, List.take_succ,
        List.getElem?_eq_getElem ht, Option.toList_some, firstStartStamp_concat, List.getD_eq_getElem?_getD, List.getElem?_eq_getElem ht, Option.getD_some]

/-- Every record of line `k` of a run carries the elapsed time of line `k`. -/
theorem elapsed?_getElem (k : Nat) (hk : k < (lineEvents jazzerSinkMode none texts).1.length)
    {e : Option Int} (he : (lineEvents jazzerSinkMode none texts).1[k].kind.elapsed? = some e) :
    e = elapsedAt texts k := by
  rw [lineKind_elapsed (lineEvent_ok (lineEvent_getElem k hk)).1 he, baselineOf_take k hk.le]
  exact bind_elapsedSince texts k

/-- Keeping entries of a list is keeping them of the list numbered by position. -/
theorem filterMap_eq_enum {α β : Type} {l : List α} {f : α → Option β} {g : Nat × α → Option β}
    (h : ∀ k (hk : k < l.length), f l[k] = g (k, l[k])) : l.filterMap f = l.enum.filterMap g := by
  conv_lhs => rw [← List.enum_map_snd l]
  rw [List.filterMap_map]
  refine List.filterMap_congr fun ⟨k, a⟩ hx => ?_
  obtain ⟨hk, rfl⟩ := List.getElem?_eq_some_iff.mp (List.mk_mem_enum_iff_getElem?.mp hx)
  exact h k hk

/-- A series whose entries are records of lines, with their elapsed times,
holds the elapsed time of each entry's line. -/
theorem series_elapsed {γ β : Type} (f : LineKind → Option γ) (el : γ → Option Int)
    (val : γ → β) (hf : ∀ kd c, f kd = some c → kd.elapsed? = some (el c)) :
    (lineEvents jazzerSinkMode none texts).1.filterMap (fun ev => (f ev.kind).map fun c => (el c, val c)) =
      (lineEvents jazzerSinkMode none texts).1.enum.filterMap
        (fun x => (f x.2.kind).map fun c => (elapsedAt texts x.1, val c)) := by
  refine filterMap_eq_enum fun k hk => ?_
  cases hc : f (lineEvents jazzerSinkMode none texts).1[k].kind with
  | none => rfl
  | some c => simp [elapsed?_getElem k hk (hf _ _ hc)]

/-- Dropping repeated classes keeps a sublist. -/
theorem dropRepeated_sublist {α : Type} (cls : α → Text) (seen : List Text) (xs : List α) :
    List.Sublist (dropRepeated cls seen xs) xs := by
  induction xs generalizing seen with
  | nil => exact .slnil
  | cons x xs ih =>
      unfold dropRepeated
      split
      · exact (ih _).cons x
      · exact (ih _).cons₂ x

/-- Only a crash line with a class is a crash event. -/
theorem LineKind.eq_crash_of_classified? {k : LineKind} {p : PendingCrash}
    (h : k.classified? = some p) : k = .crash p.crashTime p.crash (some p.sanitizer) := by
  cases k with
  | crash e c cls =>
      cases cls with
      | none => cases h
      | some => cases h; rfl
  | _ => cases h

/-- Every entry the triage law makes comes from a crash line and carries its
elapsed time. -/
theorem triageLaw_elapsed (t : TriageEntry)
    (ht : t ∈ triageLaw (lineEvents jazzerSinkMode none texts).1) :
    ∃ k, ∃ hk : k < (lineEvents jazzerSinkMode none texts).1.length,
      (lineEvents jazzerSinkMode none texts).1[k].kind = .crash t.crashTime t.crash (some t.sanitizer) ∧
        t.crashTime = elapsedAt texts k := by
  obtain ⟨x, -, hx⟩ := List.mem_flatMap.mp ((dropRepeated_sublist _ _ _).subset ht)
  obtain ⟨y, hy, hyt⟩ := List.mem_filterMap.mp hx
  split at hyt
  · cases hyt
    obtain ⟨z, hz, hzy⟩ := List.mem_filterMap.mp hy
    obtain ⟨p, hp, rfl⟩ := Option.map_eq_some'.mp hzy
    have hk := List.fst_lt_of_mem_enum hz
    have hkind : (lineEvents jazzerSinkMode none texts).1[z.1].kind =
        .crash p.crashTime p.crash (some p.sanitizer) := by
      rw [← List.snd_eq_of_mem_enum hz]
      exact LineKind.eq_crash_of_classified? hp
    exact ⟨z.1, hk, hkind, elapsed?_getElem z.1 hk (by rw [hkind]; rfl)⟩
  · cases hyt

end Run

/-- The baseline after a run is the one its events set. -/
theorem foldl_next_initialTimestamp (evs : List LineEvent) (s : ParserState) :
    (evs.foldl ParserState.next s).initialTimestamp = baselineOf s.initialTimestamp evs := by
  induction evs generalizing s with
  | nil => rfl
  | cons ev evs ih =>
      rw [List.foldl_cons, ih, show (s.next ev).initialTimestamp = _ from observe_initialTimestamp s ev]
      rfl

/-- The baseline of a run is the timestamp of the first start line it read. -/
theorem parseLogInStream_initialTimestamp (cfg : Config) (lines : List ByteLine) :
    (parseLogInStream cfg lines).state.initialTimestamp =
      firstStartStamp ((lines.map lineText).take (runEvents cfg lines).1.length) := by
  have h := @baselineOf_take cfg.jazzerSinkMode (lines.map lineText) _ le_rfl
  rw [List.take_length] at h
  rw [parseLogInStream_state, foldl_next_initialTimestamp]
  exact h

-- ========================================================= the law

/-- The baseline of a run is the timestamp of the first start line it read and
stays once set; every entry of the four series carries the elapsed time of the
line that wrote it, and every triage entry comes from a crash line and carries
its elapsed time. -/
theorem elapsed_law (cfg : Config) (lines : List ByteLine) :
    let evs := (runEvents cfg lines).1
    let texts := lines.map lineText
    let s := (parseLogInStream cfg lines).state
    s.initialTimestamp = firstStartStamp (texts.take evs.length) ∧
    (∀ j k, j ≤ k → ∀ t, (parseLogInStream cfg (lines.take j)).state.initialTimestamp = some t →
      (parseLogInStream cfg (lines.take k)).state.initialTimestamp = some t) ∧
    s.covOverTime = evs.enum.filterMap (fun x =>
      x.2.kind.covRecord?.map fun r => (elapsedAt texts x.1, r.cov)) ∧
    s.ftOverTime = evs.enum.filterMap (fun x =>
      x.2.kind.covRecord?.map fun r => (elapsedAt texts x.1, r.ft)) ∧
    s.logCrashOverTime = evs.enum.filterMap (fun x =>
      x.2.kind.crashRecord?.map fun c => (elapsedAt texts x.1, c.2.1)) ∧
    s.artifactOverTime = evs.enum.filterMap (fun x =>
      x.2.kind.artifactRecord?.map fun a => (elapsedAt texts x.1, a.2)) ∧
    ∀ t ∈ s.logTriageCrashOverTime, ∃ k, ∃ hk : k < evs.length,
      evs[k].kind = .crash t.crashTime t.crash (some t.sanitizer) ∧ t.crashTime = elapsedAt texts k := by
  intro evs texts s
  have hs : s = evs.foldl ParserState.next {} := parseLogInStream_state cfg lines
  have hstay : ∀ j, (parseLogInStream cfg (lines.take j)).state.initialTimestamp =
      firstStartStamp (texts.take (min j evs.length)) := fun j => by
    rw [parseLogInStream_initialTimestamp, runEvents_take, List.length_take, List.map_take,
      List.take_take]
    have : evs.length = (runEvents cfg lines).1.length := rfl
    congr 2
    omega
  refine ⟨parseLogInStream_initialTimestamp cfg lines, fun j k hjk t ht => ?_, ?_, ?_, ?_, ?_, ?_⟩
  · rw [hstay] at ht ⊢
    exact firstStartStamp_take_mono (by omega) ht
  · rw [hs, foldl_next_append ParserState.covOverTime _ next_covOverTime, List.nil_append]
    exact series_elapsed LineKind.covRecord? CovRecord.elapsedTime CovRecord.cov
      fun kd c h => by cases kd <;> cases h; rfl
  · rw [hs, foldl_next_append ParserState.ftOverTime _ next_ftOverTime, List.nil_append]
    exact series_elapsed LineKind.covRecord? CovRecord.elapsedTime CovRecord.ft
      fun kd c h => by cases kd <;> cases h; rfl
  · rw [hs, foldl_next_append ParserState.logCrashOverTime _ next_logCrashOverTime, List.nil_append]
    exact series_elapsed LineKind.crashRecord? Prod.fst (fun c => c.2.1)
      fun kd c h => by cases kd <;> cases h; rfl
  · rw [hs, foldl_next_append ParserState.artifactOverTime _ next_artifactOverTime, List.nil_append]
    have := @series_elapsed cfg.jazzerSinkMode texts _ _ LineKind.artifactRecord? Prod.fst Prod.snd
      fun kd c h => by cases kd <;> cases h; rfl
    simpa only [Prod.mk.eta, Option.map_id'] using this
  · rw [hs, (triageInv_foldl evs).log]
    exact triageLaw_elapsed

end JazzerLog
