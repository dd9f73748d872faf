/-
Crash classification in `jazzer_postprocessing.py` (lines 10-23 and 45-87):
the catalog `SANITIZERS`, the sink test `is_of_jazzer_sink`, the filter
`is_interesting_crash` with its three checkers, and `crash_2_sanitizer`.

# One loop, two tests per label

`crash_2_sanitizer` walks the catalog once and, for each label in turn, asks
whether the label occurs in the crash text or whether the label with its
spaces removed occurs in the unmodified text. So a label early in the catalog
that occurs only in its space-free form wins over a later label that occurs
verbatim, and a text whose own spaces differ from the label's is not matched
at all. The spec's reading, a verbatim pass over the whole catalog and then a
space-free pass that strips the text as well (`twoPassSanitizer`), differs on
such texts (`crash2Sanitizer_ne_twoPass`); what the code computes is
`crash2Sanitizer_spec`.

`is_interesting_crash` indexes `c.split(":")[1]`; every crash text begins with
`== Java Exception:`, so the index never fails there (`isInterestingCrash_ok`).
-/
import JazzerLog.Extract

namespace JazzerLog

-- ============================================================ the catalog

/-- `SANITIZERS` -/
def sanitizers : List Text :=
  ["FuzzerSecurityIssueCritical: OS Command Injection".toList,
    "FuzzerSecurityIssueCritical: Integer Overflow".toList,
    "FuzzerSecurityIssueMedium: Server Side Request Forgery (SSRF)".toList,
    "FuzzerSecurityIssueHigh: Remote Code Execution".toList,
    "FuzzerSecurityIssueHigh: SQL Injection".toList,
    "FuzzerSecurityIssueCritical: Remote JNDI Lookup".toList,
    "FuzzerSecurityIssueCritical: LDAP Injection".toList,
    "FuzzerSecurityIssueHigh: XPath Injection".toList,
    "FuzzerSecurityIssueHigh: load arbitrary library".toList,
    "FuzzerSecurityIssueLow: Regular Expression Injection".toList,
    "FuzzerSecurityIssueCritical: Script Engine Injection".toList,
    "FuzzerSecurityIssueCritical: File read/write hook path".toList]

/-- The class of a sink hit. -/
def sinkpoint : Text := "SINKPOINT".toList

/-- The class of an interesting crash no catalog label matches. -/
def unknownSanitizer : Text := "UNKNOWN SANITIZER".toList

/-- `s.replace(" ", "")` -/
def stripSpaces (s : Text) : Text := s.filter (· != ' ')

-- ======================================================= the predicates

/-- `is_of_jazzer_sink`, given `os.environ.get("JAZZER_SINK_MODE", '')`. -/
def isOfJazzerSink (jazzerSinkMode crash : Text) : Bool :=
  jazzerSinkMode != [] && decide ("BEEP BEEP, sink point".toList <:+: crash)

/-- The three `checkers` of `is_interesting_crash`, in order. -/
def interestingCheckers : List (Text → Except PyError Bool) :=
  [fun c => do
      let field ← splitColonAt c 1
      pure (decide ("code_intelligence".toList <:+: field)),
    fun c => pure !(decide ("Stack overflow (use ".toList <:+: c)),
    fun c => pure !(decide ("Out of memory".toList <:+: c))]

/-- The loop of `is_interesting_crash`: the first checker that fails decides. -/
def runCheckers (crash : Text) : List (Text → Except PyError Bool) → Except PyError Bool
  | [] => pure true
  | checker :: rest => do
      if !(← checker crash) then pure false else runCheckers crash rest

/-- `is_interesting_crash` -/
def isInterestingCrash (crash : Text) : Except PyError Bool :=
  runCheckers crash interestingCheckers

/-- The `for sanitizer in SANITIZERS` loop of `crash_2_sanitizer`. -/
def scanSanitizers (crash : Text) : List Text → Option Text
  | [] => none
  | sanitizer :: rest =>
      if sanitizer <:+: crash then some sanitizer
      else if stripSpaces sanitizer <:+: crash then some sanitizer
      else scanSanitizers crash rest

/-- `crash_2_sanitizer` -/
def crash2Sanitizer (jazzerSinkMode crash : Text) : Except PyError (Option Text) := do
  if isOfJazzerSink jazzerSinkMode crash then return some sinkpoint
  if !(← isInterestingCrash crash) then return none
  return some ((scanSanitizers crash sanitizers).getD unknownSanitizer)

-- ============================================================ interest

/-- Interest as a property of the text: the second colon field names the
managed sanitizer layer, and the text reports neither a stack overflow nor an
out-of-memory condition. -/
def Interesting (crash : Text) : Bool :=
  decide ("code_intelligence".toList <:+: (crash.splitOn ':').getD 1 []) &&
    !decide ("Stack overflow (use ".toList <:+: crash) &&
    !decide ("Out of memory".toList <:+: crash)

/-- On a crash text the filter never raises and decides `Interesting`. -/
theorem isInterestingCrash_ok {crash : Text} (h : javaException <+: crash) :
    isInterestingCrash crash = .ok (Interesting crash) := by
  obtain ⟨rest, rfl⟩ := h
  have hs : (javaException ++ rest).splitOn ':'
      = "== Java Exception".toList :: rest.splitOn ':' :=
    @splitOn_colon_first "== Java Exception".toList rest (by decide)
  obtain ⟨f, fs, hf⟩ := List.exists_cons_of_ne_nil (List.splitOnP_ne_nil (· == ':') rest)
  simp only [isInterestingCrash, interestingCheckers, runCheckers, Interesting, splitColonAt, hs]
  simp [List.splitOn, hf]
  split_ifs <;> simp_all [pure, Except.pure]

/-- `crash_2_sanitizer` never raises on a crash text. -/
theorem crash2Sanitizer_ne_error {crash : Text} (h : javaException <+: crash)
    (jazzerSinkMode : Text) (e : PyError) : crash2Sanitizer jazzerSinkMode crash ≠ .error e := by
  unfold crash2Sanitizer
  split
  · simp [pure, Except.pure]
  · simp only [isInterestingCrash_ok h, bind, Except.bind, pure, Except.pure]
    split <;> simp

-- ======================================================= classification

/-- The catalog loop is a search for the first label that occurs in the text
verbatim or without its spaces. -/
theorem scanSanitizers_eq_find (crash : Text) (labels : List Text) :
    scanSanitizers crash labels
      = labels.find? fun l => decide (l <:+: crash) || decide (stripSpaces l <:+: crash) := by
  induction labels with
  | nil => rfl
  | cons l labels ih =>
      by_cases h₁ : l <:+: crash
      · simp [scanSanitizers, h₁]
      · by_cases h₂ : stripSpaces l <:+: crash
        · simp [scanSanitizers, h₁, h₂]
        · simp [scanSanitizers, h₁, h₂, ih]

/-- What `crash_2_sanitizer` computes on a crash text: `SINKPOINT` when sink
mode is set and the text holds `BEEP BEEP, sink point`, no class for an
uninteresting crash, and otherwise the first label that occurs in the text
verbatim or without its spaces, or `UNKNOWN SANITIZER`. It never raises. -/
theorem crash2Sanitizer_spec (jazzerSinkMode : Text) {crash : Text} (h : javaException <+: crash) :
    crash2Sanitizer jazzerSinkMode crash = .ok
      (if jazzerSinkMode ≠ [] ∧ "BEEP BEEP, sink point".toList <:+: crash then some sinkpoint
      else if Interesting crash then
        some ((sanitizers.find? fun l =>
          decide (l <:+: crash) || decide (stripSpaces l <:+: crash)).getD unknownSanitizer)
      else none) := by
  by_cases hs : jazzerSinkMode ≠ [] ∧ "BEEP BEEP, sink point".toList <:+: crash
  · have hsink : isOfJazzerSink jazzerSinkMode crash = true := by simpa [isOfJazzerSink] using hs
    rw [if_pos hs]
    simp [crash2Sanitizer, hsink, pure, Except.pure]
  · have hsink : isOfJazzerSink jazzerSinkMode crash = false := by simpa [isOfJazzerSink] using hs
    rw [if_neg hs]
    cases hi : Interesting crash <;>
      simp [crash2Sanitizer, hsink, isInterestingCrash_ok h, hi, scanSanitizers_eq_find, bind,
        Except.bind, pure, Except.pure]

/-- A crash banner as Jazzer prints it for an SQL injection. -/
def sqlInjectionCrash : Text :=
  "== Java Exception: com.code_intelligence.jazzer.api.FuzzerSecurityIssueHigh: SQL Injection".toList

/-- The SQL injection banner outside sink mode. -/
theorem crash2Sanitizer_spec_sqlInjection :
    javaException <+: sqlInjectionCrash ∧
      crash2Sanitizer [] sqlInjectionCrash = .ok
        (if ([] : Text) ≠ [] ∧ "BEEP BEEP, sink point".toList <:+: sqlInjectionCrash then some sinkpoint
        else if Interesting sqlInjectionCrash then
          some ((sanitizers.find? fun l =>
            decide (l <:+: sqlInjectionCrash) ||
              decide (stripSpaces l <:+: sqlInjectionCrash)).getD unknownSanitizer)
        else none) :=
  ⟨by decide, crash2Sanitizer_spec [] (by decide)⟩

-- ====================================================== the spec's reading

/-- The classifier as the spec words it: a verbatim pass over the whole
catalog, then a pass matching space-free labels against the space-free text,
then `UNKNOWN SANITIZER`. -/
def twoPassSanitizer (jazzerSinkMode crash : Text) : Except PyError (Option Text) := do
  if isOfJazzerSink jazzerSinkMode crash then return some sinkpoint
  if !(← isInterestingCrash crash) then return none
  return some (((sanitizers.find? fun l => decide (l <:+: crash)) <|>
    sanitizers.find? fun l => decide (stripSpaces l <:+: stripSpaces crash)).getD unknownSanitizer)

/-- A crash text carrying the first label without its spaces and the fifth
verbatim. -/
def mixedBannerCrash : Text :=
  ("== Java Exception: code_intelligence FuzzerSecurityIssueCritical:OSCommandInjection " ++
    "FuzzerSecurityIssueHigh: SQL Injection").toList

/-- On `mixedBannerCrash` the code's single loop stops at the first label, the
two passes at the fifth. -/
theorem crash2Sanitizer_ne_twoPass :
    javaException <+: mixedBannerCrash ∧
      crash2Sanitizer [] mixedBannerCrash = .ok (some "FuzzerSecurityIssueCritical: OS Command Injection".toList) ∧
      twoPassSanitizer [] mixedBannerCrash = .ok (some "FuzzerSecurityIssueHigh: SQL Injection".toList) := by
  set_option maxRecDepth 20000 in
  exact ⟨by decide, rfl, rfl⟩

end JazzerLog
