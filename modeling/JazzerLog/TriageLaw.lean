/-
The triage log of a run as a function of its lines.

# The law

Call a crash line with a class a crash event, and for a crash event at
position `k` let `m(k)` be the first later artifact line eligible for it
(`firstArtifact`). The triage log is the list of entries of the crash events
that have an `m(k)`, each with the artifact of line `m(k)`, ordered by
`(m(k), k)` (`triageCandidates`), with every entry dropped whose class is not
`SINKPOINT` and occurs in an earlier one (`dropRepeated`). This holds over
the lines a run processes (`triage_law`); a stream whose artifact line comes
after a raising line triages nothing (`triage_after_abort`).

# The invariant

The queue is not the list of crashes still waiting for an artifact
(`untriaged`): a crash of a class already seen is never queued (lines
234-236). But such a crash would be dropped anyway, so the two lists agree
once both are filtered by freshness against the seen classes, and that is
what the induction carries (`TriageInv`). The law's definitions read
positions over the whole run, so the induction adds one line at the end of
the run and each definition has its `_concat` lemma.
-/
import JazzerLog.Series

namespace JazzerLog

-- ================================================= dropping repeated classes

section Dedup

variable {α β : Type} (cls : α → Text)

/-- The entries of a list but those whose class is repeated: not `SINKPOINT`,
and in `seen` or in an earlier entry. -/
def dropRepeated : List Text → List α → List α
  | _, [] => []
  | seen, x :: xs =>
      if Repeated seen (cls x) then dropRepeated seen xs
      else x :: dropRepeated (seen.insert (cls x)) xs

variable {cls}

/-- Whether a class is repeated depends only on the classes seen. -/
theorem repeated_congr {s s' : List Text} (h : ∀ c, c ∈ s ↔ c ∈ s') (c : Text) :
    Repeated s c ↔ Repeated s' c := by
  simp [Repeated, h]

/-- A repeated class stays so as the seen classes grow. -/
theorem Repeated.mono {s s' : List Text} (h : ∀ c, c ∈ s → c ∈ s') {c : Text}
    (hc : Repeated s c) : Repeated s' c :=
  ⟨h c hc.1, hc.2⟩

/-- Dropping depends only on the classes seen. -/
theorem dropRepeated_congr {s s' : List Text} (h : ∀ c, c ∈ s ↔ c ∈ s') (xs : List α) :
    dropRepeated cls s xs = dropRepeated cls s' xs := by
  induction xs generalizing s s' with
  | nil => rfl
  | cons x xs ih =>
      simp only [dropRepeated, repeated_congr h]
      split
      · exact ih h
      · exact congrArg _ (ih fun c => by simp [h])

/-- Dropping along a concatenation: the second part is checked against the
classes kept from the first. -/
theorem dropRepeated_append (s : List Text) (xs ys : List α) (s' : List Text)
    (h : ∀ c, c ∈ s' ↔ c ∈ s ∨ c ∈ (dropRepeated cls s xs).map cls) :
    dropRepeated cls s (xs ++ ys) = dropRepeated cls s xs ++ dropRepeated cls s' ys := by
  induction xs generalizing s with
  | nil => exact dropRepeated_congr (fun c => by simpa [dropRepeated] using (h c).symm) ys
  | cons x xs ih =>
      by_cases hx : Repeated s (cls x)
      · have e : ∀ zs, dropRepeated cls s (x :: zs) = dropRepeated cls s zs :=
          fun zs => by simp [dropRepeated, hx]
        rw [List.cons_append, e, e]
        exact ih s fun c => by rw [h c, e]
      · have e : ∀ zs, dropRepeated cls s (x :: zs) = x :: dropRepeated cls (s.insert (cls x)) zs :=
          fun zs => by simp [dropRepeated, hx]
        rw [List.cons_append, e, e, ih _ fun c => ?_, List.cons_append]
        rw [h c, e]
        simp [or_assoc, or_left_comm]

/-- Entries that cannot be fresh may be removed first. -/
theorem dropRepeated_filter (p : α → Bool) (s : List Text) (xs : List α)
    (hp : ∀ x ∈ xs, p x = false → Repeated s (cls x)) :
    dropRepeated cls s xs = dropRepeated cls s (xs.filter p) := by
  induction xs generalizing s with
  | nil => rfl
  | cons x xs ih =>
      have hp' : ∀ s', (∀ c, c ∈ s → c ∈ s') → ∀ y ∈ xs, p y = false → Repeated s' (cls y) :=
        fun s' hs y hy hpy => (hp y (List.mem_cons_of_mem _ hy) hpy).mono hs
      by_cases hpx : p x = true
      · simp only [List.filter_cons, hpx, if_true, dropRepeated]
        split
        · exact ih _ (hp' _ fun _ hc => hc)
        · exact congrArg _ (ih _ (hp' _ fun c hc => List.mem_insert_iff.mpr (.inr hc)))
      · have hx := hp x (List.mem_cons_self _ _) (by simpa using hpx)
        simp only [List.filter_cons, hpx, dropRepeated, hx]
        exact ih _ (hp' _ fun _ hc => hc)

/-- Dropping commutes with a map that keeps the classes. -/
theorem dropRepeated_map {cls' : β → Text} (f : α → β) (hf : ∀ x, cls' (f x) = cls x)
    (s : List Text) (xs : List α) :
    dropRepeated cls' s (xs.map f) = (dropRepeated cls s xs).map f := by
  induction xs generalizing s with
  | nil => rfl
  | cons x xs ih => simp only [List.map_cons, dropRepeated, hf]; split <;> simp [ih]

end Dedup

/-- The pass of the pending-crash scan drops repeated classes, and its seen
set grows by the classes it keeps. -/
theorem freshEntries_eq (seen : List Text) (ps : List PendingCrash) :
    (freshEntries seen ps).1 = dropRepeated PendingCrash.sanitizer seen ps ∧
      ∀ c, c ∈ (freshEntries seen ps).2 ↔
        c ∈ seen ∨ c ∈ (dropRepeated PendingCrash.sanitizer seen ps).map PendingCrash.sanitizer := by
  induction ps generalizing seen with
  | nil => simp [freshEntries, dropRepeated]
  | cons p ps ih =>
      simp only [freshEntries, dropRepeated]
      split
      · exact ih seen
      · obtain ⟨h1, h2⟩ := ih (seen.insert p.sanitizer)
        refine ⟨by rw [h1], fun c => ?_⟩
        simp [h2, or_assoc, or_left_comm]

-- ============================================== what a line does to the queue

/-- The queue, the seen classes and the triage log after a line. -/
theorem next_triage (s : ParserState) (ev : LineEvent) :
    ((s.next ev).pendingCrashes, (s.next ev).seenSanitizers, (s.next ev).logTriageCrashOverTime) =
      match ev.kind with
      | .crash e c k =>
          (s.pendingCrashes ++ ((k.filter (isFresh s.seenSanitizers)).map (⟨e, c, ·⟩)).toList,
            s.seenSanitizers, s.logTriageCrashOverTime)
      | .artifact e a =>
          let E := s.pendingCrashes.filter fun p => Eligible e p.crashTime
          (s.pendingCrashes.filter fun p => ¬Eligible e p.crashTime,
            (freshEntries s.seenSanitizers E).2,
            s.logTriageCrashOverTime ++ (freshEntries s.seenSanitizers E).1.map (·.toEntry a))
      | _ => (s.pendingCrashes, s.seenSanitizers, s.logTriageCrashOverTime) := by
  rw [next_frame (fun s => (s.pendingCrashes, s.seenSanitizers, s.logTriageCrashOverTime))
    (fun _ => rfl) (fun _ => rfl)]
  cases ev.kind with
  | artifact e a =>
      have h := scanPendingCrashes_from e a s.pendingCrashes [] s.seenSanitizers
        s.logTriageCrashOverTime s.needDump (by simp)
      simp only [List.nil_append, List.length_nil] at h
      simp [ParserState.apply, ParserState.recordArtifact, ParserState.withScan,
        ParserState.scan, h]
  | _ => simp [ParserState.apply, ParserState.setBaseline, ParserState.recordCov,
      ParserState.recordCrash, enqueue_eq]

-- =================================================================== the law

/-- The crash a line of a class queues. -/
def LineKind.classified? : LineKind → Option PendingCrash
  | .crash e c (some cls) => some ⟨e, c, cls⟩
  | _ => none

/-- The crash events of a run, with their positions. -/
def crashEvents (evs : List LineEvent) : List (Nat × PendingCrash) :=
  evs.enum.filterMap fun x => x.2.kind.classified?.map (x.1, ·)

/-- The artifact lines of a run, with their positions. -/
def artifactEvents (evs : List LineEvent) : List (Nat × Option Int × Text) :=
  evs.enum.filterMap fun x => x.2.kind.artifactRecord?.map (x.1, ·)

/-- `m(k)`: the position of the first artifact line after position `k` that is
eligible for the crash `p`. -/
def firstArtifact (evs : List LineEvent) (k : Nat) (p : PendingCrash) : Option Nat :=
  (artifactEvents evs).findSome? fun x =>
    if k < x.1 ∧ Eligible x.2.1 p.crashTime then some x.1 else none

/-- The entries of the crash events that have an `m(k)`, each with the
artifact of line `m(k)`, ordered by `(m(k), k)`. -/
def triageCandidates (evs : List LineEvent) : List TriageEntry :=
  (artifactEvents evs).flatMap fun x =>
    (crashEvents evs).filterMap fun y =>
      if firstArtifact evs y.1 y.2 = some x.1 then some (y.2.toEntry x.2.2) else none

/-- The triage log the law predicts: the candidates without repeated classes. -/
def triageLaw (evs : List LineEvent) : List TriageEntry :=
  dropRepeated TriageEntry.sanitizer [] (triageCandidates evs)

/-- The crash events still waiting for an eligible artifact. -/
def untriaged (evs : List LineEvent) : List PendingCrash :=
  (crashEvents evs).filterMap fun y => if firstArtifact evs y.1 y.2 = none then some y.2 else none

-- ============================================== adding a line to the run

section Concat

variable (evs : List LineEvent) (ev : LineEvent)

/-- One more line is numbered last. -/
theorem enum_concat : (evs ++ [ev]).enum = evs.enum ++ [(evs.length, ev)] := by
  rw [List.enum_append]; rfl

/-- A line adds its crash event, if any, at its position. -/
theorem crashEvents_concat :
    crashEvents (evs ++ [ev]) =
      crashEvents evs ++ (ev.kind.classified?.map (evs.length, ·)).toList := by
  simp only [crashEvents, enum_concat, List.filterMap_append]
  cases h : ev.kind.classified? <;> simp [h]

/-- A line adds its artifact event, if any, at its position. -/
theorem artifactEvents_concat :
    artifactEvents (evs ++ [ev]) =
      artifactEvents evs ++ (ev.kind.artifactRecord?.map (evs.length, ·)).toList := by
  simp only [artifactEvents, enum_concat, List.filterMap_append]
  cases h : ev.kind.artifactRecord? <;> simp [h]

variable {evs}

/-- An artifact event lies inside the run. -/
theorem lt_of_mem_artifactEvents {x : Nat × Option Int × Text} (h : x ∈ artifactEvents evs) :
    x.1 < evs.length := by
  obtain ⟨y, hy, hx⟩ := List.mem_filterMap.mp h
  obtain ⟨a, -, rfl⟩ := Option.map_eq_some'.mp hx
  exact List.fst_lt_of_mem_enum hy

/-- A crash event lies inside the run. -/
theorem lt_of_mem_crashEvents {y : Nat × PendingCrash} (h : y ∈ crashEvents evs) :
    y.1 < evs.length := by
  obtain ⟨z, hz, hy⟩ := List.mem_filterMap.mp h
  obtain ⟨a, -, rfl⟩ := Option.map_eq_some'.mp hy
  exact List.fst_lt_of_mem_enum hz

/-- `m(k)` is a position of the run. -/
theorem firstArtifact_lt {k j : Nat} {p : PendingCrash} (h : firstArtifact evs k p = some j) :
    j < evs.length := by
  obtain ⟨x, hx, hfx⟩ := List.exists_of_findSome?_eq_some h
  split at hfx
  · cases hfx; exact lt_of_mem_artifactEvents hx
  · cases hfx

/-- A crash at or past the end of the run has no `m(k)`. -/
theorem firstArtifact_of_le {k : Nat} (p : PendingCrash) (h : evs.length ≤ k) :
    firstArtifact evs k p = none :=
  List.findSome?_eq_none_iff.mpr fun x hx => by
    have := lt_of_mem_artifactEvents hx
    rw [if_neg (by omega)]

variable (evs)

/-- `m(k)` after one more line: the old one, or the new line if it is an eligible artifact. -/
theorem firstArtifact_concat (k : Nat) (p : PendingCrash) :
    firstArtifact (evs ++ [ev]) k p =
      (firstArtifact evs k p).or (ev.kind.artifactRecord?.bind fun a =>
        if k < evs.length ∧ Eligible a.1 p.crashTime then some evs.length else none) := by
  unfold firstArtifact
  rw [artifactEvents_concat, List.findSome?_append]
  cases ev.kind.artifactRecord? with
  | none => rfl
  | some a =>
      by_cases hc : k < evs.length ∧ Eligible a.1 p.crashTime <;> simp [hc]

/-- An artifact line leaves the groups of the artifact lines before it as they
were. -/
theorem group_concat {x : Nat × Option Int × Text} (hx : x ∈ artifactEvents evs) :
    (crashEvents (evs ++ [ev])).filterMap (fun y =>
        if firstArtifact (evs ++ [ev]) y.1 y.2 = some x.1 then some (y.2.toEntry x.2.2) else none) =
      (crashEvents evs).filterMap fun y =>
        if firstArtifact evs y.1 y.2 = some x.1 then some (y.2.toEntry x.2.2) else none := by
  have hxn := lt_of_mem_artifactEvents hx
  have hsame : ∀ k p, firstArtifact (evs ++ [ev]) k p = some x.1 ↔ firstArtifact evs k p = some x.1 := by
    intro k p
    rw [firstArtifact_concat]
    cases firstArtifact evs k p with
    | some j => rfl
    | none =>
        simp only [Option.none_or]
        cases ev.kind.artifactRecord? <;> simp
        intro _ _
        omega
  rw [crashEvents_concat, List.filterMap_append]
  simp only [hsame]
  cases ev.kind.classified? <;> simp [firstArtifact_of_le _ (le_refl evs.length)]

/-- An artifact line is no crash event. -/
theorem classified?_of_artifactRecord? {k : LineKind} {a : Option Int × Text}
    (h : k.artifactRecord? = some a) : k.classified? = none := by
  cases k <;> simp_all [LineKind.artifactRecord?, LineKind.classified?]

/-- A crash event is no artifact line. -/
theorem artifactRecord?_of_classified? {k : LineKind} {p : PendingCrash}
    (h : k.classified? = some p) : k.artifactRecord? = none := by
  cases k <;> simp_all [LineKind.artifactRecord?, LineKind.classified?]

/-- A line adds candidates only when it is an artifact line: the crashes still
waiting that are eligible for it, in their order. -/
theorem triageCandidates_concat :
    triageCandidates (evs ++ [ev]) = triageCandidates evs ++
      (ev.kind.artifactRecord?.map fun a =>
        ((untriaged evs).filter fun p => Eligible a.1 p.crashTime).map (·.toEntry a.2)).getD [] := by
  unfold triageCandidates
  rw [artifactEvents_concat, List.flatMap_append, List.flatMap_congr fun x hx => group_concat evs ev hx]
  congr 1
  cases h : ev.kind.artifactRecord? with
  | none => rfl
  | some a =>
      simp only [Option.map_some', Option.toList_some, List.flatMap_cons, List.flatMap_nil,
        List.append_nil, Option.getD_some, crashEvents_concat, classified?_of_artifactRecord? h,
        Option.map_none', Option.toList_none, untriaged, List.filter_filterMap, List.map_filterMap]
      refine List.filterMap_congr fun y hy => ?_
      have hyn := lt_of_mem_crashEvents hy
      rw [firstArtifact_concat, h]
      cases hf : firstArtifact evs y.1 y.2 with
      | some j =>
          have := firstArtifact_lt hf
          simp [hf]
          omega
      | none =>
          by_cases he : Eligible a.1 y.2.crashTime <;> simp [hf, hyn, he, Option.filter]

/-- The crashes still waiting after a line: those an artifact line does not
take, and the line's own crash. -/
theorem untriaged_concat :
    untriaged (evs ++ [ev]) =
      (untriaged evs).filter (fun p =>
        (ev.kind.artifactRecord?.map fun a => decide (¬Eligible a.1 p.crashTime)).getD true) ++
        ev.kind.classified?.toList := by
  unfold untriaged
  rw [crashEvents_concat, List.filterMap_append, List.filter_filterMap]
  congr 1
  · refine List.filterMap_congr fun y hy => ?_
    have hyn := lt_of_mem_crashEvents hy
    rw [firstArtifact_concat]
    cases hf : firstArtifact evs y.1 y.2 with
    | some j => simp [hf]
    | none =>
        cases ev.kind.artifactRecord? with
        | none => simp [Option.filter]
        | some a =>
            by_cases he : Eligible a.1 y.2.crashTime <;> simp [hyn, he, Option.filter]
  · cases h : ev.kind.classified? with
    | none => rfl
    | some p =>
        simp [firstArtifact_concat, artifactRecord?_of_classified? h,
          firstArtifact_of_le p (le_refl evs.length)]

end Concat

-- ============================================================ the invariant

/-- A crash whose class is not repeated against `seen`. -/
def freshIn (seen : List Text) (p : PendingCrash) : Bool := decide (¬Repeated seen p.sanitizer)

/-- The queue, the seen classes and the triage log of a run, in terms of the
law: the log is the law, the seen classes are its classes, and the queue holds
the waiting crashes of a fresh class. -/
structure TriageInv (evs : List LineEvent) (s : ParserState) : Prop where
  log : s.logTriageCrashOverTime = triageLaw evs
  seen : ∀ c, c ∈ s.seenSanitizers ↔ c ∈ (triageLaw evs).map TriageEntry.sanitizer
  pending : s.pendingCrashes.filter (freshIn s.seenSanitizers) =
    (untriaged evs).filter (freshIn s.seenSanitizers)

/-- The invariant holds of the empty run. -/
theorem triageInv_nil : TriageInv [] {} where
  log := rfl
  seen := by simp [triageLaw, triageCandidates, artifactEvents, dropRepeated]
  pending := rfl

/-- Two filters commute. -/
theorem filter_comm {α : Type} (p q : α → Bool) (l : List α) :
    (l.filter p).filter q = (l.filter q).filter p := by
  simp only [List.filter_filter, Bool.and_comm]

/-- Filtering by freshness against more classes keeps fewer crashes. -/
theorem filter_freshIn_mono {S S' : List Text} (h : ∀ c, c ∈ S → c ∈ S') (l : List PendingCrash) :
    l.filter (freshIn S') = (l.filter (freshIn S)).filter (freshIn S') := by
  rw [List.filter_filter]
  refine List.filter_congr fun p _ => ?_
  by_cases hp : Repeated S p.sanitizer
  · simp [freshIn, hp, hp.mono h]
  · simp [freshIn, hp]

/-- A crash line queues its crash when its class is fresh; the law's waiting
crash is dropped by the freshness filter otherwise. -/
theorem filter_freshIn_enqueue (S : List Text) (e : Option Int) (c : Text) (k : Option Text) :
    ((k.filter (isFresh S)).map (⟨e, c, ·⟩ : Text → PendingCrash)).toList.filter (freshIn S) =
      (k.map (⟨e, c, ·⟩ : Text → PendingCrash)).toList.filter (freshIn S) := by
  cases k with
  | none => rfl
  | some cls => by_cases h : Repeated S cls <;> simp [Option.filter, freshIn, h, isFresh_eq_decide]

/-- The artifact step triages the waiting crashes the law gives the artifact. -/
theorem dropRepeated_eligible {S : List Text} {P U : List PendingCrash}
    (h : P.filter (freshIn S) = U.filter (freshIn S)) (q : PendingCrash → Bool) :
    dropRepeated PendingCrash.sanitizer S (P.filter q) =
      dropRepeated PendingCrash.sanitizer S (U.filter q) := by
  have hdrop : ∀ l : List PendingCrash, dropRepeated PendingCrash.sanitizer S l =
      dropRepeated PendingCrash.sanitizer S (l.filter (freshIn S)) :=
    fun l => dropRepeated_filter _ _ _ fun _ _ hx => by simpa [freshIn] using hx
  rw [hdrop, hdrop (U.filter q), filter_comm, h, filter_comm]

/-- One more line keeps the invariant. -/
theorem triageInv_concat {evs : List LineEvent} {s : ParserState} (h : TriageInv evs s)
    (ev : LineEvent) : TriageInv (evs ++ [ev]) (s.next ev) := by
  obtain ⟨hlog, hseen, hpend⟩ := h
  have ht := next_triage s ev
  have hc := triageCandidates_concat evs ev
  have hu := untriaged_concat evs ev
  cases hk : ev.kind with
  | artifact e a =>
      simp only [hk, LineKind.artifactRecord?, LineKind.classified?, Option.map_some',
        Option.getD_some, Option.toList_none, List.append_nil, Prod.mk.injEq] at ht hc hu
      obtain ⟨hP, hS, hL⟩ := ht
      obtain ⟨hfe1, hfe2⟩ := freshEntries_eq s.seenSanitizers
        (s.pendingCrashes.filter fun p => Eligible e p.crashTime)
      rw [dropRepeated_eligible hpend] at hfe1 hfe2
      have hlaw : triageLaw (evs ++ [ev]) = triageLaw evs ++
          (dropRepeated PendingCrash.sanitizer s.seenSanitizers
            ((untriaged evs).filter fun p => Eligible e p.crashTime)).map (·.toEntry a) := by
        rw [triageLaw, hc, dropRepeated_append _ _ _ s.seenSanitizers fun c => by
          rw [hseen, triageLaw]; simp, dropRepeated_map _ fun _ => rfl]
        rfl
      have hsub : ∀ c, c ∈ s.seenSanitizers → c ∈ (s.next ev).seenSanitizers :=
        fun c hc' => by rw [hS, hfe2]; exact .inl hc'
      refine ⟨by rw [hL, hfe1, hlog, hlaw], fun c => ?_, ?_⟩
      · rw [hS, hfe2, hlaw, hseen]
        simp [Function.comp_def, PendingCrash.toEntry]
      · have hq : (s.pendingCrashes.filter fun p => ¬Eligible e p.crashTime).filter
            (freshIn s.seenSanitizers) = ((untriaged evs).filter fun p => ¬Eligible e p.crashTime).filter
            (freshIn s.seenSanitizers) := by
          rw [filter_comm, hpend, filter_comm]
        rw [hP, hu, filter_freshIn_mono hsub, filter_freshIn_mono hsub ((untriaged evs).filter _), hq]
  | crash e c k =>
      simp only [hk, LineKind.artifactRecord?, Option.map_none', Option.getD_none,
        List.append_nil, List.filter_true, Prod.mk.injEq] at ht hc hu
      obtain ⟨hP, hS, hL⟩ := ht
      have hlaw : triageLaw (evs ++ [ev]) = triageLaw evs := by rw [triageLaw, hc]; rfl
      refine ⟨by rw [hL, hlog, hlaw], fun c => by rw [hS, hseen, hlaw], ?_⟩
      rw [hP, hu, hS, List.filter_append, List.filter_append, hpend, filter_freshIn_enqueue]
      cases k <;> rfl
  | _ =>
      simp only [hk, LineKind.artifactRecord?, LineKind.classified?, Option.map_none',
        Option.getD_none, Option.toList_none, List.append_nil, List.filter_true,
        Prod.mk.injEq] at ht hc hu
      obtain ⟨hP, hS, hL⟩ := ht
      have hlaw : triageLaw (evs ++ [ev]) = triageLaw evs := by rw [triageLaw, hc]; rfl
      exact ⟨by rw [hL, hlog, hlaw], fun c => by rw [hS, hseen, hlaw], by rw [hP, hu, hS, hpend]⟩

/-- The invariant holds along every run. -/
theorem triageInv_foldl (evs : List LineEvent) : TriageInv evs (evs.foldl ParserState.next {}) := by
  induction evs using List.reverseRecOn with
  | nil => exact triageInv_nil
  | append_singleton evs ev ih => rw [List.foldl_concat]; exact triageInv_concat ih ev

/-- Over the lines a run processes, the triage log is the law's: the entries
of the crash lines with a class that have an eligible later artifact line,
with the artifact of the first such line, ordered by that line and then by
the crash line, without the entries whose class is not `SINKPOINT` and occurs
in an earlier one. -/
theorem triage_law (cfg : Config) (lines : List ByteLine) :
    (parseLogInStream cfg lines).state.logTriageCrashOverTime = triageLaw (runEvents cfg lines).1 := by
  rw [parseLogInStream_state]
  exact (triageInv_foldl _).log

/-- A legacy artifact line. -/
def artifactLine : Text := "artifact_prefix='./'; Test unit written to ./artifacts/crash-abc".toList

/-- A stream whose second line raises: the crash of the first line has an
eligible artifact on the third, and the log stays empty. -/
theorem triage_after_abort :
    let lines := [asciiBytes sqlInjectionCrash, asciiBytes longStampLine, asciiBytes artifactLine]
    (parseLogInStream ⟨[], false⟩ lines).state.logTriageCrashOverTime = [] ∧
      lineEvent [] none (lineText (asciiBytes sqlInjectionCrash)) =
        .ok ⟨.crash none sqlInjectionCrash (some "FuzzerSecurityIssueHigh: SQL Injection".toList),
          false⟩ ∧
      lineEvent [] none (lineText (asciiBytes artifactLine)) =
        .ok ⟨.artifact none "crash-abc".toList, false⟩ := by
  have h1 : lineEvent [] none (lineText (asciiBytes sqlInjectionCrash)) =
      .ok ⟨.crash none sqlInjectionCrash (some "FuzzerSecurityIssueHigh: SQL Injection".toList),
        false⟩ := by
    set_option maxRecDepth 20000 in rfl
  refine ⟨?_, h1, by set_option maxRecDepth 20000 in rfl⟩
  rw [parseLogInStream_state, runEvents, List.map_cons, List.map_cons, lineText_longStampLine,
    lineEvents_cons_ok h1, lineEvents_cons_error (lineEvent_longStampLine _ _)]
  rfl

end JazzerLog
