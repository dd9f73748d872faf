/-
The pending-crash scan of `parse_log_in_stream` (lines 244-261): on every
artifact line the queue of crashes waiting for an artifact is walked by index,
an eligible entry is popped in place (the index does not advance), and it is
triaged when its class is `SINKPOINT` or has not been seen.

# The pass it amounts to

`scanPendingCrashes` is the loop as written, by well-founded recursion on
`len(pending_crashes) - i`. Popping without advancing visits every entry
exactly once: `scanPendingCrashes_eq` says the loop leaves the ineligible
entries in their order, removes every eligible one, and appends to the log the
eligible entries `freshEntries` keeps, a left-to-right pass that checks each
class against the seen set grown by the classes triaged before it in the same
pass. The pass is stated in the claim's own terms, `Eligible` and `Repeated`;
`eligible_eq_decide` and `isFresh_eq_decide` read the code's tests against
them.
-/
import JazzerLog.Sanitizer

namespace JazzerLog

/-- A crash waiting for its artifact: `(crash_time, crash, sanitizer)`. -/
structure PendingCrash where
  crashTime : Option Int
  crash : Text
  sanitizer : Text
  deriving DecidableEq, Repr

/-- An entry of `log_triage_crash_over_time`: `(crash_time, sanitizer, crash, artifact)`. -/
structure TriageEntry where
  crashTime : Option Int
  sanitizer : Text
  crash : Text
  artifact : Text
  deriving DecidableEq, Repr

/-- The entry a pending crash becomes when an artifact triages it. -/
def PendingCrash.toEntry (p : PendingCrash) (artifact : Text) : TriageEntry :=
  ⟨p.crashTime, p.sanitizer, p.crash, artifact⟩

/-- The locals the scan reads and writes. -/
structure Scan where
  pendingCrashes : List PendingCrash
  seenSanitizers : List Text
  logTriageCrashOverTime : List TriageEntry
  needDump : Bool
  deriving DecidableEq, Repr

/-- Lines 248-252: `elapsed_time is None or crash_time is None or
elapsed_time >= crash_time`. -/
def eligible (elapsedTime crashTime : Option Int) : Bool :=
  match elapsedTime, crashTime with
  | some a, some c => decide (c ≤ a)
  | _, _ => true

/-- `sanitizer not in seen_sanitizers or sanitizer == "SINKPOINT"` -/
def isFresh (seen : List Text) (sanitizer : Text) : Bool :=
  !(seen.contains sanitizer) || sanitizer == sinkpoint

/-- Lines 253-258: triage an eligible crash whose class is fresh. -/
def triageOne (artifact : Text) (p : PendingCrash) (s : Scan) : Scan :=
  if isFresh s.seenSanitizers p.sanitizer then
    { s with
      logTriageCrashOverTime := s.logTriageCrashOverTime ++ [p.toEntry artifact]
      seenSanitizers := s.seenSanitizers.insert p.sanitizer
      needDump := true }
  else s

/-- The `while i < len(pending_crashes)` loop of lines 245-261. -/
def scanPendingCrashes (elapsedTime : Option Int) (artifact : Text) (s : Scan) (i : Nat) : Scan :=
  if h : i < s.pendingCrashes.length then
    let p := s.pendingCrashes[i]
    if eligible elapsedTime p.crashTime then
      scanPendingCrashes elapsedTime artifact
        { triageOne artifact p s with pendingCrashes := s.pendingCrashes.eraseIdx i } i
    else scanPendingCrashes elapsedTime artifact s (i + 1)
  else s
termination_by s.pendingCrashes.length - i
decreasing_by
  all_goals simp_wf
  · rw [List.length_eraseIdx, if_pos h]
    omega
  · omega

-- ============================================================ the pass

/-- An artifact at elapsed time `artifactTime` may triage a crash at
`crashTime`: one of the two is unknown, or the artifact is not the earlier. -/
def Eligible (artifactTime crashTime : Option Int) : Prop :=
  artifactTime = none ∨ crashTime = none ∨ ∀ a ∈ artifactTime, ∀ c ∈ crashTime, c ≤ a

instance (artifactTime crashTime : Option Int) : Decidable (Eligible artifactTime crashTime) :=
  inferInstanceAs (Decidable (_ ∨ _ ∨ _))

/-- A class already seen that is not `SINKPOINT`: its crash is not triaged again. -/
def Repeated (seen : List Text) (cls : Text) : Prop := cls ∈ seen ∧ cls ≠ "SINKPOINT".toList

instance (seen : List Text) (cls : Text) : Decidable (Repeated seen cls) :=
  inferInstanceAs (Decidable (_ ∧ _))

/-- The test of lines 248-252 is eligibility. -/
theorem eligible_eq_decide (artifactTime crashTime : Option Int) :
    eligible artifactTime crashTime = decide (Eligible artifactTime crashTime) := by
  cases artifactTime <;> cases crashTime <;> simp [eligible, Eligible]

/-- The test of lines 234 and 253 lets through exactly the classes that are not
repeated. -/
theorem isFresh_eq_decide (seen : List Text) (cls : Text) :
    isFresh seen cls = !decide (Repeated seen cls) := by
  simp [isFresh, Repeated, sinkpoint, List.elem_iff, Bool.beq_eq_decide_eq, imp_iff_not_or]

/-- The eligible entries of a pass, checked in order against the classes seen
so far: the entries triaged, and the seen set after them. -/
def freshEntries : List Text → List PendingCrash → List PendingCrash × List Text
  | seen, [] => ([], seen)
  | seen, p :: ps =>
      if Repeated seen p.sanitizer then freshEntries seen ps
      else
        let r := freshEntries (seen.insert p.sanitizer) ps
        (p :: r.1, r.2)

/-- The loop from index `K.length`, with the entries before it ineligible. -/
theorem scanPendingCrashes_from (elapsedTime : Option Int) (artifact : Text) :
    ∀ (R K : List PendingCrash) (seen : List Text) (log : List TriageEntry) (d : Bool),
      (∀ p ∈ K, ¬Eligible elapsedTime p.crashTime) →
      let E := R.filter fun p => Eligible elapsedTime p.crashTime
      scanPendingCrashes elapsedTime artifact ⟨K ++ R, seen, log, d⟩ K.length =
        ⟨K ++ R.filter (fun p => ¬Eligible elapsedTime p.crashTime), (freshEntries seen E).2,
          log ++ (freshEntries seen E).1.map (·.toEntry artifact),
          d || !(freshEntries seen E).1.isEmpty⟩ := by
  intro R
  induction R with
  | nil =>
      intro K seen log d _
      rw [scanPendingCrashes, dif_neg (by simp)]
      simp [freshEntries]
  | cons p R ih =>
      intro K seen log d hK
      rw [scanPendingCrashes, dif_pos (by simp)]
      simp only [List.getElem_append_right (Nat.le_refl _), Nat.sub_self, List.getElem_cons_zero,
        eligible_eq_decide, decide_eq_true_eq]
      by_cases he : Eligible elapsedTime p.crashTime
      · rw [if_pos he, List.eraseIdx_append_of_length_le (Nat.le_refl _), Nat.sub_self,
          List.eraseIdx_cons_zero]
        unfold triageOne
        rw [isFresh_eq_decide]
        by_cases hf : Repeated seen p.sanitizer <;>
          simp only [hf, decide_True, decide_False, Bool.not_true, Bool.not_false,
            Bool.false_eq_true, if_true, if_false] <;>
          rw [ih K _ _ _ hK] <;> simp [he, hf, freshEntries]
      · rw [if_neg he]
        have hK' : ∀ q ∈ K ++ [p], ¬Eligible elapsedTime q.crashTime := by
          simpa [or_imp, forall_and] using ⟨hK, he⟩
        have := ih (K ++ [p]) seen log d hK'
        simp only [List.append_assoc, List.singleton_append, List.length_append,
          List.length_singleton] at this
        rw [this]
        simp [he]

/-- The scan is one in-order pass over the queue: the ineligible entries stay
in order, every eligible one leaves it, and the log grows by the eligible
entries whose class is not repeated, each checked against the classes triaged
before it; `need_dump` is set when one is. -/
theorem scanPendingCrashes_eq (elapsedTime : Option Int) (artifact : Text)
    (pending : List PendingCrash) (seen : List Text) (log : List TriageEntry) (d : Bool) :
    let E := pending.filter fun p => Eligible elapsedTime p.crashTime
    scanPendingCrashes elapsedTime artifact ⟨pending, seen, log, d⟩ 0 =
      ⟨pending.filter (fun p => ¬Eligible elapsedTime p.crashTime), (freshEntries seen E).2,
        log ++ (freshEntries seen E).1.map (·.toEntry artifact),
        d || !(freshEntries seen E).1.isEmpty⟩ :=
  scanPendingCrashes_from elapsedTime artifact pending [] seen log d nofun

end JazzerLog
