/-
What a reader of the aggregate can rely on, for any stream `parse_log_in_stream`
reads.

# Classes

The freshness test of lines 234 and 253 checks a class against
`seen_sanitizers`, which grows with the triage log: the seen set is exactly the
classes of `log_triage_crash_over_time`, and no class but `SINKPOINT` occurs
in the log twice (`triage_classes`).

# Provenance

Every triage entry is made of a crash line with a class and a later artifact
line eligible for it: an elapsed time is unknown, or the artifact's is not
the earlier (`Eligible`, the test of lines 248-252; `triage_provenance`).

# Growth

No statement of the loop removes an entry from one of the five series or
lowers a maximum, and `sync_result` and `dump_fuzz_data` copy what the locals
hold: every dump extends the dumps before it, and `fuzz_data` after more lines
extends `fuzz_data` after fewer (`outputs_grow`). `FuzzData.Extends` is the
order; `syncResult_next` is its step lemma.
-/
import JazzerLog.Formats

namespace JazzerLog

-- ============================================================== classes

section Dedup

variable {α : Type} (cls : α → Text)

/-- An entry `dropRepeated` keeps has a class outside `seen`, or `SINKPOINT`. -/
theorem dropRepeated_unseen :
    ∀ (seen : List Text) (xs : List α), ∀ c ∈ (dropRepeated cls seen xs).map cls,
      c ∈ seen → c = sinkpoint
  | _, [] => by simp [dropRepeated]
  | seen, x :: xs => by
      unfold dropRepeated
      split
      · exact dropRepeated_unseen seen xs
      · next hf =>
          intro c hc hs
          rcases List.mem_cons.mp (List.map_cons cls x _ ▸ hc) with rfl | hc
          · simpa [Repeated, hs, sinkpoint] using hf
          · exact dropRepeated_unseen _ xs c hc (List.mem_insert_of_mem hs)

/-- `dropRepeated` keeps each class but `SINKPOINT` at most once. -/
theorem dropRepeated_nodup :
    ∀ (seen : List Text) (xs : List α),
      (((dropRepeated cls seen xs).map cls).filter (· != sinkpoint)).Nodup
  | _, [] => by simp [dropRepeated]
  | seen, x :: xs => by
      unfold dropRepeated
      split
      · exact dropRepeated_nodup seen xs
      · rw [List.map_cons]
        by_cases hx : cls x = sinkpoint
        · rw [List.filter_cons_of_neg (by simp [hx])]
          exact dropRepeated_nodup _ xs
        · rw [List.filter_cons_of_pos (by simp [hx])]
          refine List.nodup_cons.mpr ⟨fun hin => hx ?_, dropRepeated_nodup _ xs⟩
          exact dropRepeated_unseen cls _ xs _ (List.mem_filter.mp hin).1 (List.mem_insert_self _ _)

end Dedup

/-- Whatever the stream, `seen_sanitizers` holds exactly the classes of the
triage log, and no class other than `SINKPOINT` is triaged twice. -/
theorem triage_classes (cfg : Config) (lines : List ByteLine) :
    let s := (parseLogInStream cfg lines).state
    ((s.logTriageCrashOverTime.map TriageEntry.sanitizer).filter (· != sinkpoint)).Nodup ∧
      ∀ c, c ∈ s.seenSanitizers ↔ c ∈ s.logTriageCrashOverTime.map TriageEntry.sanitizer := by
  intro s
  have hs : s = (runEvents cfg lines).1.foldl ParserState.next {} := parseLogInStream_state cfg lines
  have hinv := triageInv_foldl (runEvents cfg lines).1
  rw [hs, hinv.log]
  exact ⟨dropRepeated_nodup _ [] _, fun c => by rw [hinv.seen]⟩

-- =========================================================== provenance

section Positions

variable {evs : List LineEvent}

/-- A crash event sits at its position. -/
theorem getElem?_of_mem_crashEvents {y : Nat × PendingCrash} (h : y ∈ crashEvents evs) :
    evs[y.1]?.map LineEvent.kind = some (.crash y.2.crashTime y.2.crash (some y.2.sanitizer)) := by
  obtain ⟨x, hx, hy⟩ := List.mem_filterMap.mp h
  obtain ⟨p, hp, rfl⟩ := Option.map_eq_some'.mp hy
  rw [List.mk_mem_enum_iff_getElem?.mp hx, Option.map_some', LineKind.eq_crash_of_classified? hp]

/-- An artifact event sits at its position. -/
theorem getElem?_of_mem_artifactEvents {x : Nat × Option Int × Text} (h : x ∈ artifactEvents evs) :
    evs[x.1]?.map LineEvent.kind = some (.artifact x.2.1 x.2.2) := by
  obtain ⟨z, hz, hx⟩ := List.mem_filterMap.mp h
  obtain ⟨a, ha, rfl⟩ := Option.map_eq_some'.mp hx
  rw [List.mk_mem_enum_iff_getElem?.mp hz, Option.map_some']
  cases hk : z.2.kind <;> simp [hk, LineKind.artifactRecord?] at ha
  rw [← ha]

/-- The artifact line `m(k)` comes after line `k` and is eligible for the crash. -/
theorem firstArtifact_spec {k j : Nat} {p : PendingCrash} (h : firstArtifact evs k p = some j) :
    k < j ∧ ∃ e a, evs[j]?.map LineEvent.kind = some (.artifact e a) ∧ Eligible e p.crashTime := by
  obtain ⟨x, hx, hfx⟩ := List.exists_of_findSome?_eq_some h
  split at hfx
  · next hc =>
      cases hfx
      exact ⟨hc.1, x.2.1, x.2.2, getElem?_of_mem_artifactEvents hx, hc.2⟩
  · cases hfx

end Positions

/-- Whatever the stream, every triage entry is made of a crash line with a
class and a later artifact line for which one elapsed time is unknown or the
artifact's is not the earlier. -/
theorem triage_provenance (cfg : Config) (lines : List ByteLine) :
    let evs := (runEvents cfg lines).1
    ∀ t ∈ (parseLogInStream cfg lines).state.logTriageCrashOverTime, ∃ i j : Nat, ∃ e, i < j ∧
      evs[i]?.map LineEvent.kind = some (.crash t.crashTime t.crash (some t.sanitizer)) ∧
      evs[j]?.map LineEvent.kind = some (.artifact e t.artifact) ∧ Eligible e t.crashTime := by
  intro evs t ht
  rw [parseLogInStream_state, (triageInv_foldl _).log] at ht
  have hc := (dropRepeated_sublist _ _ _).subset ht
  simp only [triageCandidates, List.mem_flatMap, List.mem_filterMap] at hc
  obtain ⟨x, hx, y, hy, hxy⟩ := hc
  split at hxy
  · next hm =>
      cases hxy
      obtain ⟨hij, e, a, hj, he⟩ := firstArtifact_spec hm
      have ha : a = x.2.2 := by
        rw [getElem?_of_mem_artifactEvents hx] at hj
        cases hj
        rfl
      subst ha
      exact ⟨y.1, x.1, e, hij, getElem?_of_mem_crashEvents hy, hj, he⟩
  · cases hxy

-- =============================================================== growth

/-- `d'` extends `d`: each series of `d` is a prefix of the same series of
`d'`, and neither maximum is lower. -/
def FuzzData.Extends (d d' : FuzzData) : Prop :=
  d.covOverTime <+: d'.covOverTime ∧ d.ftOverTime <+: d'.ftOverTime ∧
    d.logCrashOverTime <+: d'.logCrashOverTime ∧ d.artifactOverTime <+: d'.artifactOverTime ∧
    d.logTriageCrashOverTime <+: d'.logTriageCrashOverTime ∧
    d.maxCov ≤ d'.maxCov ∧ d.maxFt ≤ d'.maxFt

/-- Every dict extends itself. -/
theorem FuzzData.Extends.refl (d : FuzzData) : d.Extends d :=
  ⟨List.prefix_refl _, List.prefix_refl _, List.prefix_refl _, List.prefix_refl _,
    List.prefix_refl _, le_refl _, le_refl _⟩

/-- Extension is transitive. -/
theorem FuzzData.Extends.trans {d d' d'' : FuzzData} (h : d.Extends d') (h' : d'.Extends d'') :
    d.Extends d'' :=
  ⟨h.1.trans h'.1, h.2.1.trans h'.2.1, h.2.2.1.trans h'.2.2.1, h.2.2.2.1.trans h'.2.2.2.1,
    h.2.2.2.2.1.trans h'.2.2.2.2.1, h.2.2.2.2.2.1.trans h'.2.2.2.2.2.1,
    h.2.2.2.2.2.2.trans h'.2.2.2.2.2.2⟩

/-- One line only extends the aggregate. -/
theorem syncResult_next (s : ParserState) (ev : LineEvent) :
    (syncResult s).Extends (syncResult (s.next ev)) := by
  refine ⟨?_, ?_, ?_, ?_, next_log_grows s ev, ?_, ?_⟩ <;>
    simp only [syncResult, next_covOverTime, next_ftOverTime, next_logCrashOverTime,
      next_artifactOverTime, next_maxCov, next_maxFt, List.prefix_append]
  · cases ev.kind.covRecord? <;> simp
  · cases ev.kind.covRecord? <;> simp

/-- The synced dict only grows along a run. -/
theorem syncResult_foldl (evs : List LineEvent) (s : ParserState) :
    (syncResult s).Extends (syncResult (evs.foldl ParserState.next s)) := by
  induction evs generalizing s with
  | nil => exact .refl _
  | cons ev evs ih => exact (syncResult_next s ev).trans (ih _)

/-- The synced dict after a prefix is below the one after the run. -/
theorem syncResult_take (E : List LineEvent) (j : Nat) :
    (syncResult ((E.take j).foldl ParserState.next {})).Extends
      (syncResult (E.foldl ParserState.next {})) := by
  conv_rhs => rw [← List.take_append_drop j E, List.foldl_append]
  exact syncResult_foldl _ _

/-- The run invariant: the dumps extend one another and are extended by the
aggregate of the locals, which `fuzz_data` holds once synced. -/
structure GrowInv (r : Run) : Prop where
  dumps : r.dumps.Pairwise FuzzData.Extends
  last : ∀ d ∈ r.dumps, d.Extends (syncResult r.state)
  synced : ∀ f ∈ r.fuzzData, f = syncResult r.state
  fed : ∀ d ∈ r.dumps, r.fuzzData.isSome

/-- The invariant holds of the empty run. -/
theorem growInv_empty : GrowInv {} :=
  ⟨.nil, (fun _ h => by cases h), (fun _ h => by cases h), (fun _ h => by cases h)⟩

/-- One event keeps the invariant. -/
theorem growInv_observe {r : Run} (h : GrowInv r) (ev : LineEvent) : GrowInv (r.observe ev) := by
  have hstep := syncResult_next r.state ev
  have hsync : syncResult (r.state.observe ev) = syncResult (r.state.next ev) := rfl
  unfold Run.observe Run.settle
  split
  · refine ⟨?_, ?_, ?_, fun _ _ => rfl⟩
    · refine List.pairwise_append.mpr ⟨h.dumps, .cons (fun _ h => by cases h) .nil, ?_⟩
      intro d hd d' hd'
      rw [List.mem_singleton.mp hd', hsync]
      exact (h.last d hd).trans hstep
    · intro d hd
      rcases List.mem_append.mp hd with hd | hd
      · exact (h.last d hd).trans hstep
      · rw [List.mem_singleton.mp hd, hsync]; exact .refl _
    · intro f hf
      cases hf
      exact hsync
  · refine ⟨h.dumps, fun d hd => ?_, fun f hf => ?_, fun _ _ => rfl⟩
    · exact (h.last d hd).trans (hsync ▸ hstep)
    · cases hf; rfl

/-- The invariant holds along every run. -/
theorem growInv_foldl (evs : List LineEvent) {r : Run} (h : GrowInv r) :
    GrowInv (evs.foldl Run.observe r) := by
  induction evs generalizing r with
  | nil => exact h
  | cons ev evs ih => exact ih (growInv_observe h ev)

/-- Whatever the stream, every dump extends each dump before it, `fuzz_data`
at the end extends every dump, and `fuzz_data` after `k` lines extends
`fuzz_data` after `j ≤ k` lines: no entry of the five series is ever removed
or changed, and `max_cov` and `max_ft` never fall. -/
theorem outputs_grow (cfg : Config) (lines : List ByteLine) :
    let r := parseLogInStream cfg lines
    r.dumps.Pairwise FuzzData.Extends ∧ (∀ d ∈ r.dumps, ∀ f ∈ r.fuzzData, d.Extends f) ∧
      ∀ j k, j ≤ k → ∀ f ∈ (parseLogInStream cfg (lines.take j)).fuzzData,
        ∀ f' ∈ (parseLogInStream cfg (lines.take k)).fuzzData, f.Extends f' := by
  intro r
  have hr : ∀ lines, GrowInv (parseLogInStream cfg lines) := fun lines => by
    have h := growInv_foldl (runEvents cfg lines).1 growInv_empty
    rw [parseLogInStream_eq]
    exact ⟨h.dumps, h.last, h.synced, h.fed⟩
  refine ⟨(hr lines).dumps, fun d hd f hf => (hr lines).synced f hf ▸ (hr lines).last d hd, ?_⟩
  intro j k hjk f hf f' hf'
  rw [(hr _).synced f hf, (hr _).synced f' hf', parseLogInStream_state, parseLogInStream_state,
    runEvents_take, runEvents_take]
  have h := syncResult_take ((runEvents cfg lines).1.take k) j
  rwa [List.take_take, Nat.min_eq_left hjk] at h

end JazzerLog
