/-
What the parser records is well formed.

# The language of a pattern

`Re.Lang` is the set of texts a pattern of the fragment matches as a whole,
as `re` defines it; `Re.groupPats` lists the patterns of the groups in the
order `Re.go` returns their texts. `go_lang` is the matcher's soundness:
whatever its backtracking tried, a match consumed a text of the pattern's
language from the front of the line, and each group it returned is a text of
that group's pattern.

# What a run records

From the groups of `CRASH_ARTIFACT_LINE_PTRN` and its legacy twin, every
artifact the parser reads is `crash-` and a nonempty run of `[a-z0-9]`
(`parseArtifactLine_name`); every crash text begins with `== Java Exception:`
(`parseCrashLine_text`); every class `crash_2_sanitizer` returns is one
`is_known_sanitizer` accepts, `SINKPOINT` or `UNKNOWN SANITIZER`
(`crash2Sanitizer_class`). `outputs_wellFormed` carries the three to the
lists of any run, the triage log included.
-/
import JazzerLog.Elapsed

namespace JazzerLog

open Re

-- ======================================================= the language

/-- The texts a pattern matches as a whole. -/
def Re.Lang : Re → Text → Prop
  | .lit l, x => x = l
  | .one c, x => ∃ y, x = [y] ∧ c.test y = true
  | .star c, x => ∀ y ∈ x, c.test y = true
  | .plus c, x => x ≠ [] ∧ ∀ y ∈ x, c.test y = true
  | .group r, x => r.Lang x
  | .seq r₁ r₂, x => ∃ a b, x = a ++ b ∧ r₁.Lang a ∧ r₂.Lang b

/-- The pattern of each group, in the order `Re.go` returns their texts. -/
def Re.groupPats : Re → List Re
  | .group r => r.groupPats ++ [r]
  | .seq r₁ r₂ => r₁.groupPats ++ r₂.groupPats
  | _ => []

/-- The matcher is sound: a match consumed a text of the pattern's language
and put, in front of the continuation's groups, one text of each group's
pattern. -/
theorem go_lang {r : Re} :
    ∀ {s : Text} {k : Cont} {g : Groups}, r.go s k = some g →
      ∃ x rest g₁ g', s = x ++ rest ∧ r.Lang x ∧ k rest = some g' ∧ g = g₁ ++ g' ∧
        List.Forall₂ Re.Lang r.groupPats g₁ := by
  induction r with
  | lit l =>
      intro s k g h
      rw [go_lit] at h
      split at h
      · next hl => exact ⟨l, _, [], g, (List.prefix_iff_eq_append.mp hl).symm, rfl, h, rfl, .nil⟩
      · cases h
  | one c =>
      intro s k g h
      cases s with
      | nil => cases h
      | cons y s =>
          rw [go_one_cons] at h
          split at h
          · next hy => exact ⟨[y], s, [], g, rfl, ⟨y, rfl, hy⟩, h, rfl, .nil⟩
          · cases h
  | star c =>
      intro s k g h
      obtain ⟨n, hn, hk⟩ := starGo_eq_some h
      exact ⟨s.take n, s.drop n, [], g, (List.take_append_drop n s).symm, hn, hk, rfl, .nil⟩
  | plus c =>
      intro s k g h
      cases s with
      | nil => cases h
      | cons y s =>
          rw [go_plus_cons] at h
          split at h
          · next hy =>
              obtain ⟨n, hn, hk⟩ := starGo_eq_some h
              exact ⟨y :: s.take n, s.drop n, [], g, by simp,
                ⟨List.cons_ne_nil _ _, List.forall_mem_cons.mpr ⟨hy, hn⟩⟩, hk, rfl, .nil⟩
          · cases h
  | group r ih =>
      intro s k g h
      rw [go_group] at h
      obtain ⟨x, rest, g₁, g'', rfl, hx, hk, rfl, hfit⟩ := ih h
      obtain ⟨g', hg', rfl⟩ := Option.map_eq_some'.mp hk
      have hcap : (x ++ rest).take ((x ++ rest).length - rest.length) = x := by simp
      exact ⟨x, rest, g₁ ++ [x], g', rfl, hx, hg', by simp [hcap],
        List.rel_append hfit (.cons hx .nil)⟩
  | seq r₁ r₂ ih₁ ih₂ =>
      intro s k g h
      rw [go_seq] at h
      obtain ⟨x₁, rest₁, g₁, g₁', rfl, hx₁, hk₁, rfl, hfit₁⟩ := ih₁ h
      obtain ⟨x₂, rest₂, g₂, g', rfl, hx₂, hk₂, rfl, hfit₂⟩ := ih₂ hk₁
      exact ⟨x₁ ++ x₂, rest₂, g₁ ++ g₂, g', by simp, ⟨x₁, x₂, rfl, hx₁, hx₂⟩, hk₂, by simp,
        List.rel_append hfit₁ hfit₂⟩

/-- What `re.match` accepts: the line begins with a text of the pattern's
language, and each group is a text of its pattern. -/
theorem reMatch_lang {r : Re} {s : Text} {g : Groups} (h : r.reMatch s = some g) :
    (∃ x rest, s = x ++ rest ∧ r.Lang x) ∧ List.Forall₂ Re.Lang r.groupPats g := by
  obtain ⟨x, rest, g₁, g', hs, hx, hk, rfl, hfit⟩ := go_lang h
  cases hk
  exact ⟨⟨x, rest, hs, hx⟩, by simpa using hfit⟩

-- ====================================================== artifact names

/-- `crash-[a-z0-9]+` as a whole. -/
def isArtifactName (a : Text) : Bool :=
  "crash-".toList.isPrefixOf a && !(a.drop 6).isEmpty && (a.drop 6).all crashIdClass.test

/-- The pattern of the artifact group of both artifact patterns. -/
def artifactGroup : Re := .seq (.lit "crash-".toList) (.plus crashIdClass)

/-- A text of the artifact group's language is an artifact name. -/
theorem isArtifactName_of_lang {a : Text} (h : artifactGroup.Lang a) : isArtifactName a = true := by
  obtain ⟨p, id, rfl, rfl, hne, hid⟩ := h
  have h6 : ("crash-".toList ++ id).drop 6 = id := List.drop_left' rfl
  simpa [isArtifactName, h6, List.isPrefixOf_iff_prefix, hne] using hid

/-- A legacy artifact line yields an artifact name. -/
theorem parseOldArtifactLine_name {line : Text} {p : Option Int × Text}
    (h : parseOldArtifactLine line = .ok (some p)) : isArtifactName p.2 = true := by
  unfold parseOldArtifactLine at h
  split at h
  · next m hm =>
      cases Option.some.inj (pure_eq_ok.mp h)
      have hg : List.Forall₂ Re.Lang [artifactGroup] m := (reMatch_lang hm).2
      rcases hg with _ | ⟨hx, hnil⟩
      cases hnil
      exact isArtifactName_of_lang hx
  · cases h

/-- The artifact an artifact line names is `crash-` and a nonempty run of
`[a-z0-9]`, in either format. -/
theorem parseArtifactLine_name {line : Text} {b : Option Nat} {p : Option Int × Text}
    (h : parseArtifactLine line b = .ok (some p)) : isArtifactName p.2 = true := by
  unfold parseArtifactLine at h
  split at h
  · next m hm =>
      obtain ⟨t, -, ht⟩ := bind_eq_ok.mp h
      cases Option.some.inj (pure_eq_ok.mp ht)
      have hg : List.Forall₂ Re.Lang [.plus .digit, artifactGroup] m := (reMatch_lang hm).2
      rcases hg with _ | ⟨-, _ | ⟨hx, hnil⟩⟩
      cases hnil
      exact isArtifactName_of_lang hx
  · exact parseOldArtifactLine_name h

-- ============================================================ classes

/-- `is_known_sanitizer` -/
def isKnownSanitizer (sanitizer : Text) : Bool := sanitizers.contains sanitizer

/-- A class `crash_2_sanitizer` can return: a label of the catalog,
`SINKPOINT` or `UNKNOWN SANITIZER`. -/
def isCrashClass (cls : Text) : Bool :=
  isKnownSanitizer cls || cls == sinkpoint || cls == unknownSanitizer

/-- The catalog loop returns a catalog label. -/
theorem scanSanitizers_mem {crash : Text} :
    ∀ {labels : List Text} {l : Text}, scanSanitizers crash labels = some l → l ∈ labels
  | [], _, h => by cases h
  | l' :: rest, l, h => by
      unfold scanSanitizers at h
      split at h
      · cases h; exact List.mem_cons_self _ _
      · split at h
        · cases h; exact List.mem_cons_self _ _
        · exact List.mem_cons_of_mem _ (scanSanitizers_mem h)

/-- Every class `crash_2_sanitizer` returns is a catalog label, `SINKPOINT` or
`UNKNOWN SANITIZER`. -/
theorem crash2Sanitizer_class {jazzerSinkMode crash cls : Text}
    (h : crash2Sanitizer jazzerSinkMode crash = .ok (some cls)) : isCrashClass cls = true := by
  by_cases hs : isOfJazzerSink jazzerSinkMode crash = true
  · simp only [crash2Sanitizer, hs, ite_true, pure_eq_ok, Option.some.injEq] at h
    simp [isCrashClass, ← h]
  · rcases hi : isInterestingCrash crash with e | i
    · simp [crash2Sanitizer, hs, hi, bind, Except.bind, pure, Except.pure] at h
    · cases i <;> simp [crash2Sanitizer, hs, hi, bind, Except.bind, pure, Except.pure] at h
      subst h
      cases hsc : scanSanitizers crash sanitizers with
      | none => simp [isCrashClass]
      | some l => simp [isCrashClass, isKnownSanitizer, scanSanitizers_mem hsc]

-- ========================================================== the outputs

/-- What a line of kind `k` records is well formed: a crash text behind the
banner with a class `crash_2_sanitizer` can return, or an artifact name. -/
def LineKind.WellFormed : LineKind → Prop
  | .crash _ c cls => javaException <+: c ∧ ∀ x ∈ cls, isCrashClass x = true
  | .artifact _ a => isArtifactName a = true
  | _ => True

/-- Every kind the extractors produce is well formed. -/
theorem lineKind_wellFormed {jazzerSinkMode : Text} {b : Option Nat} {line : Text} {k : LineKind}
    (h : lineKind jazzerSinkMode b line = .ok k) : k.WellFormed := by
  have hf := kindFound_of_lineKind h
  cases k with
  | crash e c cls =>
      exact ⟨parseCrashLine_text hf.2.2.1, fun x hx => by
        cases hx; exact crash2Sanitizer_class hf.2.2.2⟩
  | artifact e a => exact parseArtifactLine_name hf.2.2.2
  | _ => trivial

/-- A well-formed crash record begins with `== Java Exception:`. -/
theorem LineKind.WellFormed.crashRecord {k : LineKind} (h : k.WellFormed)
    {x : Option Int × Text × Option Text} (hx : k.crashRecord? = some x) : javaException <+: x.2.1 := by
  cases k <;> cases hx
  exact h.1

/-- A well-formed artifact record carries an artifact name. -/
theorem LineKind.WellFormed.artifactRecord {k : LineKind} (h : k.WellFormed) {x : Option Int × Text}
    (hx : k.artifactRecord? = some x) : isArtifactName x.2 = true := by
  cases k <;> cases hx
  exact h

/-- Every event of the lines a run reads has what every classified line has. -/
theorem lineEvents_kinds {jazzerSinkMode : Text} (P : LineKind → Prop)
    (hP : ∀ b line k, lineKind jazzerSinkMode b line = .ok k → P k) (b : Option Nat)
    (texts : List Text) : ∀ ev ∈ (lineEvents jazzerSinkMode b texts).1, P ev.kind := by
  induction texts generalizing b with
  | nil => simp [lineEvents]
  | cons line rest ih =>
      simp only [lineEvents]
      split
      · next ev hev =>
          intro ev' hev'
          rcases List.mem_cons.mp hev' with rfl | hev'
          · exact hP _ _ _ (lineEvent_ok hev).1
          · exact ih _ ev' hev'
      · simp

/-- A crash event comes from an event of the run. -/
theorem mem_crashEvents {evs : List LineEvent} {y : Nat × PendingCrash} (h : y ∈ crashEvents evs) :
    ∃ ev ∈ evs, ev.kind.classified? = some y.2 := by
  obtain ⟨x, hx, hy⟩ := List.mem_filterMap.mp h
  obtain ⟨p, hp, rfl⟩ := Option.map_eq_some'.mp hy
  exact ⟨x.2, List.snd_mem_of_mem_enum hx, hp⟩

/-- An artifact event comes from an event of the run. -/
theorem mem_artifactEvents {evs : List LineEvent} {y : Nat × Option Int × Text}
    (h : y ∈ artifactEvents evs) : ∃ ev ∈ evs, ev.kind.artifactRecord? = some y.2 := by
  obtain ⟨x, hx, hy⟩ := List.mem_filterMap.mp h
  obtain ⟨a, ha, rfl⟩ := Option.map_eq_some'.mp hy
  exact ⟨x.2, List.snd_mem_of_mem_enum hx, ha⟩

/-- Every triage candidate pairs the crash of a crash line with a class and
the artifact of an artifact line. -/
theorem mem_triageCandidates {evs : List LineEvent} {t : TriageEntry} (h : t ∈ triageCandidates evs) :
    (∃ ev ∈ evs, ev.kind = .crash t.crashTime t.crash (some t.sanitizer)) ∧
      ∃ ev ∈ evs, ∃ e, ev.kind = .artifact e t.artifact := by
  simp only [triageCandidates, List.mem_flatMap, List.mem_filterMap] at h
  obtain ⟨x, hx, y, hy, hxy⟩ := h
  split at hxy
  · cases hxy
    obtain ⟨ev, hev, hk⟩ := mem_crashEvents hy
    obtain ⟨ev', hev', hk'⟩ := mem_artifactEvents hx
    refine ⟨⟨ev, hev, LineKind.eq_crash_of_classified? hk⟩, ev', hev', x.2.1, ?_⟩
    cases hkd : ev'.kind <;> simp [hkd, LineKind.artifactRecord?] at hk'
    rw [← hk']
    rfl
  · cases hxy

/-- Whatever the stream, every crash a run logs is a text behind
`== Java Exception:`, every artifact it logs is `crash-` and a nonempty run of
`[a-z0-9]`, and every triage entry pairs such a crash and such an artifact
under a class `is_known_sanitizer` accepts, `SINKPOINT` or `UNKNOWN SANITIZER`. -/
theorem outputs_wellFormed (cfg : Config) (lines : List ByteLine) :
    let s := (parseLogInStream cfg lines).state
    (∀ x ∈ s.logCrashOverTime, javaException <+: x.2) ∧
    (∀ x ∈ s.artifactOverTime, isArtifactName x.2 = true) ∧
    ∀ t ∈ s.logTriageCrashOverTime, javaException <+: t.crash ∧
      isArtifactName t.artifact = true ∧ isCrashClass t.sanitizer = true := by
  intro s
  have hs : s = (runEvents cfg lines).1.foldl ParserState.next {} := parseLogInStream_state cfg lines
  have hw : ∀ ev ∈ (runEvents cfg lines).1, ev.kind.WellFormed :=
    lineEvents_kinds _ (fun _ _ _ => lineKind_wellFormed) none (lines.map lineText)
  refine ⟨?_, ?_, ?_⟩
  · rw [hs, foldl_next_append _ _ next_logCrashOverTime, List.nil_append]
    intro x hx
    obtain ⟨ev, hev, hx⟩ := List.mem_filterMap.mp hx
    obtain ⟨c, hc, rfl⟩ := Option.map_eq_some'.mp hx
    exact (hw ev hev).crashRecord hc
  · rw [hs, foldl_next_append _ _ next_artifactOverTime, List.nil_append]
    intro x hx
    obtain ⟨ev, hev, hx⟩ := List.mem_filterMap.mp hx
    exact (hw ev hev).artifactRecord hx
  · rw [hs, (triageInv_foldl _).log]
    intro t ht
    obtain ⟨⟨ev, hev, hk⟩, ev', hev', e, hk'⟩ :=
      mem_triageCandidates ((dropRepeated_sublist _ _ _).subset ht)
    have hc := hw ev hev
    have ha := hw ev' hev'
    rw [hk] at hc
    rw [hk'] at ha
    exact ⟨hc.1, ha, hc.2 _ rfl⟩

end JazzerLog
