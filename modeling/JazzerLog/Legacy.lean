/-
The current log format against the legacy one.

# Two runs of one log

Take a log in the legacy format, whose lines begin with neither a decimal
digit nor whitespace, and the same log with `str(t) + ' '` in front of every
line, for a non-decreasing sequence of timestamps. A current-format line reads
as its legacy text with the elapsed time filled in (`lineKind_stamped`); a
start line, which no legacy line can be, only sets the baseline. So the two
runs see the same lines once elapsed times are erased (`lineEvents_stamped`).

# Erasing elapsed times

`ParserState.erase` forgets the elapsed times, the baseline and the dump flag.
A line commutes with erasing (`next_erase`) as long as every queued crash is
eligible for the artifact of the line, if it is one: the scan then empties
the queue in both states. In the legacy run every elapsed time is `None`; in
the current run the timestamps do not decrease and the baseline, once set,
stays, so a later artifact is never older than a queued crash
(`eligible_stamped`). The two runs then end in the same erased state, and the
legacy run is its own erasure (`legacy_matches_stamped`).

# The timestamps must fit

`int()` refuses a timestamp of more than 4300 digits, and the run of the
current-format log then ends at its first line (`legacy_stamped_differ`):
the equivalence holds for timestamps below `10 ^ 4300`.
-/
import JazzerLog.Elapsed

namespace JazzerLog

-- ============================================================== `str(t)`

/-- `str(t)`: the decimal digits of `t`. -/
def pyStr (t : Nat) : Text := Nat.toDigits 10 t

/-- `Nat.digitChar` writes a digit as its ASCII code point. -/
theorem digitChar_toNat {k : Nat} (hk : k < 10) : (Nat.digitChar k).toNat = 48 + k := by
  interval_cases k <;> rfl

/-- Reading digits after an accumulated value shifts it past them. -/
theorem foldl_digits (a : Nat) (cs : Text) :
    cs.foldl (fun n c => 10 * n + decimalValue c) a = a * 10 ^ cs.length + digitsValue cs := by
  induction cs generalizing a with
  | nil => simp [digitsValue]
  | cons c cs ih =>
      show List.foldl _ (10 * a + decimalValue c) cs =
        a * 10 ^ (cs.length + 1) + List.foldl _ (10 * 0 + decimalValue c) cs
      rw [ih, ih]
      ring

/-- The value of a digit run with one more leading digit. -/
theorem digitsValue_cons (c : Char) (cs : Text) :
    digitsValue (c :: cs) = decimalValue c * 10 ^ cs.length + digitsValue cs := by
  rw [digitsValue, List.foldl_cons, foldl_digits, Nat.mul_zero, Nat.zero_add]

/-- A decimal digit is worth less than ten. -/
theorem decimalValue_lt (c : Char) : decimalValue c < 10 := by
  unfold decimalValue
  split
  · next z hz =>
      have := List.find?_some hz
      simp only [inDecade, Bool.and_eq_true, decide_eq_true_eq] at this
      omega
  · decide

/-- A run of `n` digits is worth less than `10 ^ n`. -/
theorem digitsValue_lt (cs : Text) : digitsValue cs < 10 ^ cs.length := by
  induction cs with
  | nil => decide
  | cons c cs ih =>
      rw [digitsValue_cons, List.length_cons, pow_succ]
      calc decimalValue c * 10 ^ cs.length + digitsValue cs
          < (decimalValue c + 1) * 10 ^ cs.length := by rw [Nat.add_mul, Nat.one_mul]; omega
        _ ≤ 10 ^ cs.length * 10 := by
          rw [Nat.mul_comm _ 10]
          exact Nat.mul_le_mul_right _ (decimalValue_lt c)

/-- `Nat.toDigitsCore` adds only ASCII digits. -/
theorem toDigitsCore_digits (f n : Nat) (ds : Text) :
    ∀ c ∈ Nat.toDigitsCore 10 f n ds, c ∈ ds ∨ 48 ≤ c.toNat ∧ c.toNat < 58 := by
  induction f generalizing n ds with
  | zero => exact fun c hc => .inl hc
  | succ f ih =>
      have hd : 48 ≤ (Nat.digitChar (n % 10)).toNat ∧ (Nat.digitChar (n % 10)).toNat < 58 := by
        rw [digitChar_toNat (Nat.mod_lt n (by decide))]
        omega
      intro c hc
      simp only [Nat.toDigitsCore] at hc
      split at hc
      · rcases List.mem_cons.mp hc with rfl | hc
        · exact .inr hd
        · exact .inl hc
      · rcases ih _ _ c hc with hc | hc
        · rcases List.mem_cons.mp hc with rfl | hc
          · exact .inr hd
          · exact .inl hc
        · exact .inr hc

/-- With enough fuel `Nat.toDigitsCore` writes `n` in front of the digits it is given. -/
theorem toDigitsCore_value (f n : Nat) (ds : Text) (hn : n < 10 ^ f) :
    digitsValue (Nat.toDigitsCore 10 f n ds) = n * 10 ^ ds.length + digitsValue ds := by
  induction f generalizing n ds with
  | zero =>
      obtain rfl : n = 0 := by simpa using hn
      simp [Nat.toDigitsCore]
  | succ f ih =>
      have hv : decimalValue (Nat.digitChar (n % 10)) = n % 10 := by
        have h := digitChar_toNat (Nat.mod_lt n (show 10 > 0 by decide))
        rw [(ascii_digit (by omega) (by omega)).2, h]
        omega
      simp only [Nat.toDigitsCore]
      split
      · next h0 =>
          rw [digitsValue_cons, hv, show n % 10 = n by omega]
      · rw [pow_succ] at hn
        rw [ih _ _ (by omega), digitsValue_cons, hv, List.length_cons, pow_succ]
        conv_rhs => rw [← Nat.div_add_mod n 10]
        ring

/-- `Nat.toDigitsCore` keeps a nonempty accumulator nonempty. -/
theorem toDigitsCore_ne_nil (f n : Nat) {ds : Text} (h : ds ≠ []) : Nat.toDigitsCore 10 f n ds ≠ [] := by
  induction f generalizing n ds with
  | zero => exact h
  | succ f ih =>
      simp only [Nat.toDigitsCore]
      split
      · exact List.cons_ne_nil _ _
      · exact ih _ (List.cons_ne_nil _ _)

/-- `str(t)` is made of ASCII digits. -/
theorem pyStr_ascii (t : Nat) : ∀ c ∈ pyStr t, 48 ≤ c.toNat ∧ c.toNat < 58 := fun c hc =>
  (toDigitsCore_digits _ _ _ c hc).resolve_left (List.not_mem_nil c)

/-- `str(t)` is made of decimal digits. -/
theorem pyStr_decimal (t : Nat) : ∀ c ∈ pyStr t, isDecimal c = true := fun c hc =>
  (ascii_digit (pyStr_ascii t c hc).1 (pyStr_ascii t c hc).2).1

/-- `str(t)` is never empty. -/
theorem pyStr_ne_nil (t : Nat) : pyStr t ≠ [] := by
  simp only [pyStr, Nat.toDigits, Nat.toDigitsCore]
  split
  · exact List.cons_ne_nil _ _
  · exact toDigitsCore_ne_nil _ _ (List.cons_ne_nil _ _)

/-- `int(str(t)) = t` -/
theorem digitsValue_pyStr (t : Nat) : digitsValue (pyStr t) = t := by
  have ht : t < 10 ^ (t + 1) := by
    have := Nat.lt_pow_self (show 1 < 10 by decide) (t + 1)
    omega
  rw [pyStr, Nat.toDigits, toDigitsCore_value _ _ _ ht]
  simp [digitsValue]

/-- `str(t)` fits `int()` exactly when `t` is below `10 ^ 4300`. -/
theorem pyStr_length_le_iff (t : Nat) :
    (pyStr t).length ≤ intMaxStrDigits ↔ t < 10 ^ intMaxStrDigits := by
  constructor
  · intro h
    calc t = digitsValue (pyStr t) := (digitsValue_pyStr t).symm
      _ < 10 ^ (pyStr t).length := digitsValue_lt _
      _ ≤ 10 ^ intMaxStrDigits := Nat.pow_le_pow_right (by decide) h
  · intro h
    exact Nat.toDigitsCore_length 10 (by decide) (t + 1) t intMaxStrDigits h (by decide)

-- ============================================================ the texts

/-- `str(t) + ' '` in front of a raw line. -/
def stampLine (t : Nat) (raw : ByteLine) : ByteLine := asciiBytes (pyStr t ++ [' ']) ++ raw

/-- A text that begins with neither a decimal digit nor whitespace. -/
def Unstamped (line : Text) : Prop :=
  ∀ c, line.head? = some c → isDecimal c = false ∧ isSpace c = false

/-- The text of a current-format line: the timestamp and a space in front of
the legacy text, or the timestamp alone when `strip` leaves nothing after it. -/
def stampText (t : Nat) (line : Text) : Text := if line = [] then pyStr t else pyStr t ++ ' ' :: line

/-- An unstamped text has no timestamp prefix. -/
theorem splitStamp_of_unstamped {line : Text} (h : Unstamped line) : splitStamp line = none :=
  splitStamp_eq_none fun d hd => (h d hd).1

/-- `strip` keeps the first character of a text that begins with no whitespace. -/
theorem strip_head? {l : Text} (h : ∀ c, l.head? = some c → isSpace c = false) :
    (strip l).head? = l.head? := by
  unfold strip
  rw [dropWhile_of_head h]
  cases l with
  | nil => rfl
  | cons y ys =>
      obtain ⟨l', hl'⟩ : ∃ l', (y :: ys).reverse.dropWhile isSpace = l' ++ [y] := by
        rw [List.reverse_cons, List.dropWhile_append]
        split
        · exact ⟨[], by simp [h y rfl]⟩
        · exact ⟨_, rfl⟩
      rw [hl']
      simp

/-- `strip` of a stamped unstamped text strips the text only. -/
theorem strip_stamped {ds : Text} (hne : ds ≠ []) (hds : ∀ c ∈ ds, isDecimal c = true)
    {line : Text} (h : Unstamped line) :
    strip (ds ++ ' ' :: line) = if line = [] then ds else ds ++ ' ' :: strip line := by
  have hsp : ∀ c ∈ ds, isSpace c = false := fun c hc => isSpace_eq_false_of_isDecimal (hds c hc)
  have hfront : (ds ++ ' ' :: line).dropWhile isSpace = ds ++ ' ' :: line := by
    obtain ⟨d, ds', rfl⟩ := List.exists_cons_of_ne_nil hne
    exact dropWhile_of_head fun c hc => by cases hc; exact hsp _ (List.mem_cons_self _ _)
  have hrev : ∀ c, ds.reverse.head? = some c → isSpace c = false := fun c hc =>
    hsp c (List.mem_reverse.mp (List.mem_of_mem_head? hc))
  unfold strip
  rw [hfront]
  cases line with
  | nil =>
      simp [show isSpace ' ' = true by decide, dropWhile_of_head hrev]
  | cons y ys =>
      have hy := (h y rfl).2
      have hkeep : ((y :: ys).reverse.dropWhile isSpace).isEmpty = false := by
        rw [Bool.eq_false_iff, ne_eq, List.isEmpty_iff, List.dropWhile_eq_nil_iff]
        intro hall
        simp [hall y (by simp)] at hy
      rw [if_neg (List.cons_ne_nil _ _), @dropWhile_of_head isSpace (y :: ys) (fun c hc => by cases hc; exact hy),
        List.reverse_append, List.reverse_cons ' ', List.append_assoc, List.dropWhile_append, hkeep]
      simp

/-- Stripping keeps a text unstamped. -/
theorem unstamped_lineText {raw : ByteLine} (h : Unstamped (decodeUtf8 raw)) :
    Unstamped (lineText raw) := fun c hc =>
  h c (by rwa [lineText, strip_head? fun d hd => (h d hd).2] at hc)

/-- The text of a stamped line is the stamped text of the line. -/
theorem lineText_stampLine (t : Nat) {raw : ByteLine} (h : Unstamped (decodeUtf8 raw)) :
    lineText (stampLine t raw) = stampText t (lineText raw) := by
  have hascii : ∀ c ∈ pyStr t ++ [' '], c.toNat < 128 := by
    intro c hc
    rcases List.mem_append.mp hc with hc | hc
    · have := pyStr_ascii t c hc
      omega
    · rw [List.mem_singleton.mp hc]
      decide
  rw [lineText, stampLine, decodeUtf8_asciiBytes_append hascii, List.append_assoc, List.singleton_append,
    strip_stamped (pyStr_ne_nil t) (pyStr_decimal t) h, stampText, lineText]
  cases hd : decodeUtf8 raw with
  | nil => rfl
  | cons y ys =>
      have hs := @strip_head? (y :: ys) fun d hd' => (h d (by rw [hd]; exact hd')).2
      have hne : strip (y :: ys) ≠ [] := fun h0 => by simp [h0] at hs
      simp [hne]

/-- A run of digits alone has no timestamp prefix: no whitespace follows it. -/
theorem splitStamp_of_digits {ds : Text} (hds : ∀ c ∈ ds, isDecimal c = true) : splitStamp ds = none := by
  have hdrop : ds.dropWhile isDecimal = [] := List.dropWhile_eq_nil_iff.mpr hds
  unfold splitStamp
  split <;> simp_all

/-- The timestamp of a stamped text, unless nothing followed it. -/
theorem stampOf_stampText (t : Nat) (line : Text) :
    stampOf (stampText t line) = if line = [] then none else some t := by
  unfold stampText
  split
  · simp [stampOf, splitStamp_of_digits (pyStr_decimal t)]
  · simp [stampOf, splitStamp_append line (pyStr_ne_nil t) (pyStr_decimal t) (by decide : isSpace ' ' = true),
      digitsValue_pyStr]

-- ============================================================== one line

/-- A line kind with its elapsed time replaced. -/
def LineKind.setElapsed (e : Option Int) : LineKind → LineKind
  | .cov r => .cov { r with elapsedTime := e }
  | .crash _ c k => .crash e c k
  | .artifact _ a => .artifact e a
  | k => k

/-- A line kind with its elapsed time forgotten; a start line reads as any
other line. -/
def LineKind.erase : LineKind → LineKind
  | .start _ => .other
  | k => k.setElapsed none

/-- An event with its elapsed time forgotten. -/
def LineEvent.erase (ev : LineEvent) : LineEvent := ⟨ev.kind.erase, ev.exit⟩

/-- Erasing forgets an elapsed time that was set. -/
@[simp] theorem LineKind.erase_setElapsed (e : Option Int) (k : LineKind) :
    (k.setElapsed e).erase = k.erase := by
  cases k <;> rfl

/-- A line no extractor matches: no timestamp prefix, and none of the leading
characters of the legacy patterns. -/
theorem lineKind_of_head {line : Text} (hs : splitStamp line = none)
    (hh : ∀ c, line.head? = some c → c ≠ '#' ∧ c ≠ '=' ∧ c ≠ 'a') (jazzerSinkMode : Text)
    (b : Option Nat) : lineKind jazzerSinkMode b line = .ok .other := by
  have miss : ∀ {r : Re} {c : Char}, r.lead = some c → (∀ d, line.head? = some d → d ≠ c) →
      r.reMatch line = none := fun hr hc =>
    reMatch_eq_none_of_head hr fun h => hc _ h rfl
  have hstart : startMatches line = false := by
    simp [startMatches, fuzzStartLinePtrn, stamped_reMatch, hs]
  have hcov : covMatches line = false := by
    simp [covMatches, libfuzzerCovLinePtrn, stamped_reMatch, hs,
      miss (show oldLibfuzzerCovLinePtrn.lead = some '#' from rfl) fun d hd => (hh d hd).1]
  have hcrash : crashMatches line = false := by
    simp [crashMatches, libfuzzerCrashLinePtrn, stamped_reMatch, hs,
      miss (show oldLibfuzzerCrashLinePtrn.lead = some '=' from rfl) fun d hd => (hh d hd).2.1]
  have hart : artifactMatches line = false := by
    simp [artifactMatches, crashArtifactLinePtrn, stamped_reMatch, hs,
      miss (show oldCrashArtifactLinePtrn.lead = some 'a' from rfl) fun d hd => (hh d hd).2.2]
  simp [lineKind, startOf_of_not hstart, parseCovLine_eq_ok_none.mpr hcov,
    parseCrashLine_eq_ok_none.mpr hcrash, parseArtifactLine_eq_ok_none.mpr hart, pure, Except.pure]

section Stamped

variable {ds Y : Text} {w : Char} (hne : ds ≠ []) (hds : ∀ c ∈ ds, isDecimal c = true)
  (hw : isSpace w = true) (hlen : ds.length ≤ intMaxStrDigits)
include hne hds hw hlen

/-- The start extractor on a stamped line. -/
theorem startOf_stamped (b : Option Nat) :
    startOf b (ds ++ w :: Y) =
      if b = none ∧ (startBanner.reMatch Y).isSome then .ok (some (digitsValue ds)) else .ok none := by
  cases b with
  | some => simp [startOf, pure, Except.pure]
  | none =>
      unfold startOf
      rw [fuzzStartLinePtrn, stamped_reMatch, splitStamp_append Y hne hds hw, Option.some_bind]
      cases startBanner.reMatch Y with
      | none => simp [pure, Except.pure]
      | some m => simp [matchGroup, pyInt_of_le hlen, Functor.map, Except.map]

/-- A current-format line reads as its legacy text with the elapsed time filled
in; the first start line sets the baseline. -/
theorem lineKind_stamped (hY : splitStamp Y = none) (jazzerSinkMode : Text) (b : Option Nat) :
    lineKind jazzerSinkMode b (ds ++ w :: Y) =
      if b = none ∧ (startBanner.reMatch Y).isSome then .ok (.start (digitsValue ds))
      else LineKind.setElapsed (elapsedSince b (digitsValue ds)) <$> lineKind jazzerSinkMode none Y := by
  have hs : startMatches Y = false := by simp [startMatches, fuzzStartLinePtrn, stamped_reMatch, hY]
  unfold lineKind
  rw [startOf_stamped hne hds hw hlen, startOf_of_not hs, parseCovLine_stamp hne hds hw hlen,
    parseCrashLine_stamp hne hds hw hlen, parseArtifactLine_stamp hne hds hw hlen,
    parseCovLine_of_splitStamp hY, parseCrashLine_of_splitStamp hY,
    parseArtifactLine_of_splitStamp hY]
  split
  · rfl
  · simp only [ok_bind]
    rcases parseOldCovLine Y with _ | _ | r
    · rfl
    · rcases parseOldCrashLine Y with _ | _ | ⟨e, c⟩
      · rfl
      · rcases parseOldArtifactLine Y with _ | _ | ⟨e, a⟩ <;> rfl
      · simp only [map_ok, ok_bind, Option.map_some']
        cases crash2Sanitizer jazzerSinkMode c <;> rfl
    · rfl

end Stamped

/-- A text that begins with `a` occurs in `p ++ q` where `p` holds no `a`
exactly when it occurs in `q`. -/
theorem cons_infix_append_iff {a : Char} {l p : Text} (ha : a ∉ p) (q : Text) :
    a :: l <:+: p ++ q ↔ a :: l <:+: q := by
  induction p with
  | nil => rfl
  | cons x p ih =>
      rw [List.cons_append, List.infix_cons_iff, ih fun h => ha (List.mem_cons_of_mem _ h)]
      refine ⟨fun h => h.resolve_left fun hp => ha ?_, .inr⟩
      rw [(List.cons_prefix_cons.mp hp).1]
      exact List.mem_cons_self _ _

/-- Stamping neither adds nor removes the exit marker. -/
theorem exit_stampText (t : Nat) (line : Text) :
    (jazzerExitLog <:+: stampText t line) ↔ jazzerExitLog <:+: line := by
  have hat : '@' ∉ pyStr t := fun h => by
    have := pyStr_ascii t _ h
    simp at this
  have hexit : jazzerExitLog = '@' :: "@@@@ exit code of Jazzer".toList := rfl
  unfold stampText
  split
  · next h =>
      subst h
      rw [hexit, ← List.append_nil (pyStr t), cons_infix_append_iff hat]
  · rw [hexit, show pyStr t ++ ' ' :: line = (pyStr t ++ [' ']) ++ line by simp,
      cons_infix_append_iff (by simp [hat])]

/-- A legacy line never reads as a start line, and records no elapsed time. -/
theorem lineKind_legacy {jazzerSinkMode line : Text} {b : Option Nat} {k : LineKind}
    (h : Unstamped line) (hk : lineKind jazzerSinkMode b line = .ok k) : k.erase = k ∧ k.baseline b = b := by
  have hs : splitStamp line = none := splitStamp_of_unstamped h
  have hnone : ∀ e, k.elapsed? = some e → e = none := fun e he => by
    rw [lineKind_elapsed hk he, stampOf, hs]
    rfl
  have hstart : ∀ t, k ≠ .start t := fun t ht => by
    have := ((lineKind_isStart hk).mp ⟨t, ht⟩).2
    simp [startMatches, fuzzStartLinePtrn, stamped_reMatch, hs] at this
  cases k with
  | start t => exact absurd rfl (hstart t)
  | cov r =>
      obtain ⟨n, e, c, f⟩ := r
      obtain rfl := hnone e rfl
      exact ⟨rfl, rfl⟩
  | crash e c cls =>
      obtain rfl := hnone e rfl
      exact ⟨rfl, rfl⟩
  | artifact e a =>
      obtain rfl := hnone e rfl
      exact ⟨rfl, rfl⟩
  | other => exact ⟨rfl, rfl⟩

/-- A current-format line and its legacy text give the same event once
elapsed times are erased, or raise the same exception. -/
theorem lineEvent_stampText (jazzerSinkMode : Text) (b : Option Nat) {t : Nat} {line : Text}
    (h : Unstamped line) (hlen : (pyStr t).length ≤ intMaxStrDigits) :
    LineEvent.erase <$> lineEvent jazzerSinkMode b (stampText t line) =
      LineEvent.erase <$> lineEvent jazzerSinkMode none line := by
  have hexit : decide (jazzerExitLog <:+: stampText t line) = decide (jazzerExitLog <:+: line) :=
    decide_eq_decide.mpr (exit_stampText t line)
  unfold lineEvent
  rw [hexit]
  by_cases hnil : line = []
  · subst hnil
    have hd : ∀ c, (pyStr t).head? = some c → c ≠ '#' ∧ c ≠ '=' ∧ c ≠ 'a' := fun c hc => by
      have := pyStr_ascii t c (List.mem_of_mem_head? hc)
      refine ⟨?_, ?_, ?_⟩ <;> rintro rfl <;> simp at this
    rw [stampText, if_pos rfl, lineKind_of_head (splitStamp_of_digits (pyStr_decimal t)) hd,
      @lineKind_of_head [] rfl (by simp)]
  · rw [stampText, if_neg hnil, lineKind_stamped (pyStr_ne_nil t) (pyStr_decimal t) (by decide) hlen
      (splitStamp_of_unstamped h)]
    split
    · next hb =>
        obtain ⟨m, hm⟩ := Option.isSome_iff_exists.mp hb.2
        have hO := head_of_go (show startBanner.lead = some 'O' from rfl) hm
        rw [lineKind_of_head (splitStamp_of_unstamped h) fun c hc => by
          rw [hO] at hc; cases hc; decide]
        rfl
    · cases lineKind jazzerSinkMode none line with
      | error e => rfl
      | ok k => simp [LineEvent.erase]

/-- The events of a current-format log are those of its legacy text once
elapsed times are erased, up to the same exception. -/
theorem lineEvents_stamped (jazzerSinkMode : Text) :
    ∀ (T : List Nat) (lines : List Text), T.length = lines.length → (∀ l ∈ lines, Unstamped l) →
      (∀ t ∈ T, (pyStr t).length ≤ intMaxStrDigits) → ∀ b : Option Nat,
      (lineEvents jazzerSinkMode b (List.zipWith stampText T lines)).1.map LineEvent.erase =
          (lineEvents jazzerSinkMode none lines).1.map LineEvent.erase ∧
        (lineEvents jazzerSinkMode b (List.zipWith stampText T lines)).2 =
          (lineEvents jazzerSinkMode none lines).2
  | [], [], _, _, _, _ => ⟨rfl, rfl⟩
  | t :: T, line :: lines, hlen, hl, hT, b => by
      have hev := lineEvent_stampText jazzerSinkMode b (hl line (List.mem_cons_self _ _))
        (hT t (List.mem_cons_self _ _))
      rw [List.zipWith_cons_cons]
      cases hL : lineEvent jazzerSinkMode none line with
      | error e =>
          rw [hL, map_error, map_eq_error] at hev
          rw [lineEvents_cons_error hev, lineEvents_cons_error hL]
          exact ⟨rfl, rfl⟩
      | ok ev =>
          rw [hL, map_ok, map_eq_ok] at hev
          obtain ⟨ev', hev', herase⟩ := hev
          have ih := lineEvents_stamped jazzerSinkMode T lines (Nat.succ.inj hlen)
            (fun l hm => hl l (List.mem_cons_of_mem _ hm)) (fun t' hm => hT t' (List.mem_cons_of_mem _ hm))
            (ev'.kind.baseline b)
          rw [lineEvents_cons_ok hev', lineEvents_cons_ok hL,
            (lineKind_legacy (hl line (List.mem_cons_self _ _)) (lineEvent_ok hL).1).2]
          simp only [List.map_cons, herase, ih.1, ih.2, and_self]

-- ============================================================== erasing

/-- A queued crash with its elapsed time forgotten. -/
def PendingCrash.erase (p : PendingCrash) : PendingCrash := { p with crashTime := none }

/-- A triage entry with its elapsed time forgotten. -/
def TriageEntry.erase (t : TriageEntry) : TriageEntry := { t with crashTime := none }

/-- A state with its elapsed times, its baseline and its dump flag forgotten. -/
def ParserState.erase (s : ParserState) : ParserState :=
  { s with
    covOverTime := s.covOverTime.map fun x => (none, x.2)
    ftOverTime := s.ftOverTime.map fun x => (none, x.2)
    logCrashOverTime := s.logCrashOverTime.map fun x => (none, x.2)
    artifactOverTime := s.artifactOverTime.map fun x => (none, x.2)
    logTriageCrashOverTime := s.logTriageCrashOverTime.map TriageEntry.erase
    pendingCrashes := s.pendingCrashes.map PendingCrash.erase
    needDump := false
    initialTimestamp := none }

/-- Erasing keeps the class. -/
@[simp] theorem PendingCrash.erase_sanitizer (p : PendingCrash) : p.erase.sanitizer = p.sanitizer :=
  rfl

/-- Erasing commutes with triage. -/
@[simp] theorem PendingCrash.erase_toEntry (p : PendingCrash) (a : Text) :
    p.erase.toEntry a = (p.toEntry a).erase :=
  rfl

/-- With no elapsed time on the artifact every queued crash is eligible. -/
@[simp] theorem eligible_none (crashTime : Option Int) : eligible none crashTime = true := by
  cases crashTime <;> rfl

/-- The law's side of `eligible_none`. -/
@[simp] theorem Eligible.none_left (crashTime : Option Int) : Eligible none crashTime :=
  .inl rfl

/-- The pass commutes with erasing. -/
theorem freshEntries_map_erase (seen : List Text) (ps : List PendingCrash) :
    freshEntries seen (ps.map PendingCrash.erase) =
      ((freshEntries seen ps).1.map PendingCrash.erase, (freshEntries seen ps).2) := by
  induction ps generalizing seen with
  | nil => rfl
  | cons p ps ih =>
      simp only [List.map_cons, freshEntries, PendingCrash.erase_sanitizer]
      split <;> simp [ih]

/-- A line commutes with erasing when every queued crash is eligible for its
artifact, if it is an artifact line. -/
theorem apply_erase (s : ParserState) (k : LineKind)
    (h : ∀ e a, k = .artifact e a → ∀ p ∈ s.pendingCrashes, eligible e p.crashTime = true) :
    (s.apply k).erase = { s.erase.apply k.erase with needDump := false } := by
  cases k with
  | start t => rfl
  | cov r =>
      simp only [ParserState.apply, ParserState.recordCov, ParserState.erase, LineKind.erase,
        LineKind.setElapsed, List.map_append, List.map_cons, List.map_nil]
  | crash e c cls =>
      cases cls with
      | none =>
          simp [ParserState.apply, ParserState.recordCrash, enqueue_eq, ParserState.erase,
            LineKind.erase, LineKind.setElapsed]
      | some cls =>
          by_cases hf : isFresh s.seenSanitizers cls = true <;>
            simp [ParserState.apply, ParserState.recordCrash, enqueue_eq, ParserState.erase,
              LineKind.erase, LineKind.setElapsed, Option.filter, hf, PendingCrash.erase]
  | artifact e a =>
      have hall := h e a rfl
      have h1 := scanPendingCrashes_from e a s.pendingCrashes [] s.seenSanitizers
        s.logTriageCrashOverTime s.needDump (by simp)
      have h2 := scanPendingCrashes_from none a (s.pendingCrashes.map PendingCrash.erase) []
        s.seenSanitizers (s.logTriageCrashOverTime.map TriageEntry.erase) false (by simp)
      simp only [List.nil_append, List.length_nil] at h1 h2
      have hall' : ∀ p ∈ s.pendingCrashes, Eligible e p.crashTime := fun p hp => by
        simpa [eligible_eq_decide] using hall p hp
      have hE : s.pendingCrashes.filter (fun p => Eligible e p.crashTime) = s.pendingCrashes :=
        List.filter_eq_self.mpr fun p hp => by simp [hall' p hp]
      have hQ : s.pendingCrashes.filter (fun p => ¬Eligible e p.crashTime) = [] :=
        List.filter_eq_nil_iff.mpr fun p hp => by simp [hall' p hp]
      simp [ParserState.apply, ParserState.recordArtifact, ParserState.withScan, ParserState.scan,
        ParserState.erase, LineKind.erase, LineKind.setElapsed, h1, h2, hE, hQ,
        freshEntries_map_erase, Function.comp_def]
      exact hall'
  | other => rfl

/-- Erasing forgets the dump flag. -/
theorem erase_needDump (s : ParserState) : ({ s with needDump := false } : ParserState).erase = s.erase :=
  rfl

/-- Closing a segment commutes with erasing. -/
theorem closeSegment_erase (s : ParserState) : s.closeSegment.erase = s.erase.closeSegment :=
  rfl

/-- A line commutes with erasing when every queued crash is eligible for its artifact. -/
theorem observe_erase (s : ParserState) (ev : LineEvent)
    (h : ∀ e a, ev.kind = .artifact e a → ∀ p ∈ s.pendingCrashes, eligible e p.crashTime = true) :
    (s.observe ev).erase = { s.erase.observe ev.erase with needDump := false } := by
  obtain ⟨k, x⟩ := ev
  have key := apply_erase s k h
  cases x
  · simpa only [ParserState.observe, LineEvent.erase, Bool.false_eq_true, if_false] using key
  · simp only [ParserState.observe, LineEvent.erase, if_true, closeSegment_erase, key]
    rfl

/-- A step commutes with erasing when every queued crash is eligible for its artifact. -/
theorem next_erase (s : ParserState) (ev : LineEvent)
    (h : ∀ e a, ev.kind = .artifact e a → ∀ p ∈ s.pendingCrashes, eligible e p.crashTime = true) :
    (s.next ev).erase = s.erase.next ev.erase :=
  (erase_needDump _).trans (observe_erase s ev h)

/-- A run commutes with erasing when at every artifact line every queued crash
is eligible for the artifact. -/
theorem foldl_next_erase (evs : List LineEvent) (s : ParserState)
    (h : ∀ i (hi : i < evs.length), ∀ e a, evs[i].kind = .artifact e a →
      ∀ p ∈ ((evs.take i).foldl ParserState.next s).pendingCrashes, eligible e p.crashTime = true) :
    (evs.foldl ParserState.next s).erase = (evs.map LineEvent.erase).foldl ParserState.next s.erase := by
  induction evs generalizing s with
  | nil => rfl
  | cons ev evs ih =>
      rw [List.foldl_cons, List.map_cons, List.foldl_cons, ← next_erase s ev (h 0 (Nat.succ_pos _))]
      exact ih _ fun i hi => h (i + 1) (Nat.succ_lt_succ hi)

-- ============================================================== the runs

/-- A legacy log is its own erasure. -/
theorem lineEvents_legacy (jazzerSinkMode : Text) :
    ∀ (lines : List Text), (∀ l ∈ lines, Unstamped l) → ∀ b : Option Nat,
      (lineEvents jazzerSinkMode b lines).1.map LineEvent.erase = (lineEvents jazzerSinkMode b lines).1
  | [], _, _ => rfl
  | line :: lines, hl, b => by
      cases hL : lineEvent jazzerSinkMode b line with
      | error e => rw [lineEvents_cons_error hL]; rfl
      | ok ev =>
          have hk := (lineKind_legacy (hl line (List.mem_cons_self _ _)) (lineEvent_ok hL).1).1
          rw [lineEvents_cons_ok hL, List.map_cons,
            lineEvents_legacy jazzerSinkMode lines (fun l hm => hl l (List.mem_cons_of_mem _ hm))]
          simp [LineEvent.erase, hk]

/-- Every queued crash was queued by a crash line of the run. -/
theorem pending_subset (evs : List LineEvent) :
    ∀ p ∈ (evs.foldl ParserState.next {}).pendingCrashes, p ∈ evs.filterMap (·.kind.classified?) := by
  induction evs using List.reverseRecOn with
  | nil => simp
  | append_singleton evs ev ih =>
      intro p hp
      have h := congrArg Prod.fst (next_triage (evs.foldl ParserState.next {}) ev)
      simp only at h
      rw [List.foldl_concat, h] at hp
      rw [List.filterMap_append, List.mem_append]
      cases hk : ev.kind with
      | crash e c cls =>
          simp only [hk, List.mem_append] at hp
          refine hp.imp (ih p) fun hp => ?_
          simp only [Option.mem_toList, Option.mem_def, Option.map_eq_some', Option.filter_eq_some] at hp
          obtain ⟨a, ⟨rfl, -⟩, rfl⟩ := hp
          simp [hk, LineKind.classified?]
      | artifact e a =>
          simp only [hk] at hp
          exact .inl (ih p (List.mem_of_mem_filter hp))
      | _ =>
          simp only [hk] at hp
          exact .inl (ih p hp)

/-- In a current-format log whose timestamps do not decrease, a later line is
never older than an earlier one: the baseline, once set, stays. -/
theorem eligible_stamped {T : List Nat} {lines : List Text} (hlen : T.length = lines.length)
    (hmono : T.Sorted (· ≤ ·)) {j i : Nat} (hji : j < i) (hi : i < lines.length) :
    eligible (elapsedAt (List.zipWith stampText T lines) i)
      (elapsedAt (List.zipWith stampText T lines) j) = true := by
  have hstamp : ∀ k (hk : k < lines.length) t,
      stampOf ((List.zipWith stampText T lines).getD k []) = some t → t = T[k] := by
    intro k hk t ht
    rw [List.getD_eq_getElem?_getD, List.getElem?_eq_getElem (by simp [hlen, hk]), Option.getD_some,
      List.getElem_zipWith, stampOf_stampText] at ht
    split at ht
    · cases ht
    · exact (Option.some.inj ht).symm
  unfold eligible
  cases hI : elapsedAt (List.zipWith stampText T lines) i with
  | none => rfl
  | some a =>
      cases hJ : elapsedAt (List.zipWith stampText T lines) j with
      | none => rfl
      | some c =>
          obtain ⟨ti, b1, hti, hb1, rfl⟩ := elapsedAt_eq_some.mp hI
          obtain ⟨tj, b0, htj, hb0, rfl⟩ := elapsedAt_eq_some.mp hJ
          rw [firstStartStamp_take_mono hji.le hb0] at hb1
          cases hb1
          have hT := (List.pairwise_iff_getElem.mp hmono) j i (by omega) (by omega) hji
          rw [hstamp i hi ti hti, hstamp j (by omega) tj htj]
          simpa using hT

-- ================================================================ the law

/-- A legacy run is its own erasure: it never reads an elapsed time. -/
theorem legacy_run_erase (jazzerSinkMode : Text) {lines : List Text}
    (hY : ∀ l ∈ lines, Unstamped l) :
    ((lineEvents jazzerSinkMode none lines).1.foldl ParserState.next {}).erase =
      (lineEvents jazzerSinkMode none lines).1.foldl ParserState.next {} := by
  rw [foldl_next_erase _ _ ?_, lineEvents_legacy _ _ hY none]
  · rfl
  · intro i hi e a hk p _
    have hmem : lines.getD i [] ∈ lines := by
      rw [List.getD_eq_getElem?_getD,
        List.getElem?_eq_getElem (lt_of_lt_of_le hi (lineEvents_length_le _ _)), Option.getD_some]
      exact List.getElem_mem _
    have herase := (lineKind_legacy (hY _ hmem) (lineEvent_ok (lineEvent_getElem i hi)).1).1
    rw [hk] at herase
    cases herase
    exact eligible_none _

/-- A current-format run whose timestamps do not decrease erases to the run of
its legacy text: every crash still queued at an artifact line is older than it. -/
theorem stamped_run_erase (jazzerSinkMode : Text) {T : List Nat} {lines : List Text}
    (hlen : T.length = lines.length) (hY : ∀ l ∈ lines, Unstamped l) (hmono : T.Sorted (· ≤ ·))
    (hT : ∀ t ∈ T, (pyStr t).length ≤ intMaxStrDigits) :
    ((lineEvents jazzerSinkMode none (List.zipWith stampText T lines)).1.foldl
        ParserState.next {}).erase =
      (lineEvents jazzerSinkMode none lines).1.foldl ParserState.next {} := by
  rw [foldl_next_erase _ _ ?_, (lineEvents_stamped jazzerSinkMode T lines hlen hY hT none).1,
    lineEvents_legacy _ _ hY none]
  · rfl
  · intro i hi e a hk p hp
    obtain ⟨ev, hev, hcl⟩ := List.mem_filterMap.mp (pending_subset _ p hp)
    obtain ⟨j, hj, rfl⟩ := List.mem_iff_getElem.mp hev
    rw [List.getElem_take] at hcl
    have hji : j < i := by
      rw [List.length_take] at hj
      omega
    have he := elapsed?_getElem i hi (by rw [hk]; rfl)
    have hpj := elapsed?_getElem j (lt_of_lt_of_le hj (List.length_take_le' _ _))
      (by rw [LineKind.eq_crash_of_classified? hcl]; rfl)
    rw [he, hpj]
    refine eligible_stamped hlen hmono hji ?_
    have := lt_of_lt_of_le hi (lineEvents_length_le _ _)
    simp only [List.length_zipWith] at this
    omega

/-- The texts of the stamped stream are the stamped texts of the legacy one. -/
theorem lineTexts_stamped {T : List Nat} {raws : List ByteLine}
    (hraw : ∀ raw ∈ raws, Unstamped (decodeUtf8 raw)) :
    (List.zipWith stampLine T raws).map lineText = List.zipWith stampText T (raws.map lineText) := by
  induction raws generalizing T with
  | nil => simp
  | cons raw raws ih =>
      cases T with
      | nil => rfl
      | cons t T =>
          simp [lineText_stampLine t (hraw raw (List.mem_cons_self _ _)),
            ih fun r hr => hraw r (List.mem_cons_of_mem _ hr)]

/-- What two states with the same erasure agree on. -/
theorem erase_eq_erase {s s' : ParserState} (h : s.erase = s'.erase) :
    s.covOverTime.map Prod.snd = s'.covOverTime.map Prod.snd ∧
    s.ftOverTime.map Prod.snd = s'.ftOverTime.map Prod.snd ∧
    s.logCrashOverTime.map Prod.snd = s'.logCrashOverTime.map Prod.snd ∧
    s.artifactOverTime.map Prod.snd = s'.artifactOverTime.map Prod.snd ∧
    s.logTriageCrashOverTime.map (fun e => (e.sanitizer, e.crash, e.artifact)) =
      s'.logTriageCrashOverTime.map (fun e => (e.sanitizer, e.crash, e.artifact)) ∧
    s.ttlRound = s'.ttlRound ∧ s.lastCov = s'.lastCov ∧ s.lastFt = s'.lastFt ∧
    s.maxCov = s'.maxCov ∧ s.maxFt = s'.maxFt := by
  simp only [ParserState.erase, ParserState.mk.injEq] at h
  obtain ⟨hc, hf, hk, ha, ht, -, -, hr, hlc, hlf, hmc, hmf, -⟩ := h
  refine ⟨?_, ?_, ?_, ?_, ?_, hr, hlc, hlf, hmc, hmf⟩
  · simpa [Function.comp_def] using congrArg (List.map Prod.snd) hc
  · simpa [Function.comp_def] using congrArg (List.map Prod.snd) hf
  · simpa [Function.comp_def] using congrArg (List.map Prod.snd) hk
  · simpa [Function.comp_def] using congrArg (List.map Prod.snd) ha
  · simpa [Function.comp_def, TriageEntry.erase] using
      congrArg (List.map fun e => (e.sanitizer, e.crash, e.artifact)) ht

/-- A state that is its own erasure holds no elapsed time. -/
theorem erase_eq_self {s : ParserState} (h : s.erase = s) :
    (∀ x ∈ s.covOverTime, x.1 = none) ∧ (∀ x ∈ s.ftOverTime, x.1 = none) ∧
    (∀ x ∈ s.logCrashOverTime, x.1 = none) ∧ (∀ x ∈ s.artifactOverTime, x.1 = none) ∧
    ∀ e ∈ s.logTriageCrashOverTime, e.crashTime = none := by
  rw [← h]
  simp only [ParserState.erase, List.mem_map]
  refine ⟨?_, ?_, ?_, ?_, ?_⟩ <;> rintro _ ⟨_, _, rfl⟩ <;> rfl

/-- A legacy log whose lines begin with neither a digit nor whitespace, and the
same log with non-decreasing timestamps below `10 ^ 4300` in front of its
lines, end in aggregates that agree once elapsed times are erased; every
elapsed time of the legacy run is `None`. -/
theorem legacy_matches_stamped (cfg : Config) (raws : List ByteLine) (T : List Nat)
    (hlen : T.length = raws.length) (hraw : ∀ raw ∈ raws, Unstamped (decodeUtf8 raw))
    (hmono : T.Sorted (· ≤ ·)) (hT : ∀ t ∈ T, t < 10 ^ intMaxStrDigits) :
    let s := (parseLogInStream cfg (List.zipWith stampLine T raws)).state
    let s' := (parseLogInStream cfg raws).state
    (s.covOverTime.map Prod.snd = s'.covOverTime.map Prod.snd ∧
      s.ftOverTime.map Prod.snd = s'.ftOverTime.map Prod.snd ∧
      s.logCrashOverTime.map Prod.snd = s'.logCrashOverTime.map Prod.snd ∧
      s.artifactOverTime.map Prod.snd = s'.artifactOverTime.map Prod.snd ∧
      s.logTriageCrashOverTime.map (fun e => (e.sanitizer, e.crash, e.artifact)) =
        s'.logTriageCrashOverTime.map (fun e => (e.sanitizer, e.crash, e.artifact)) ∧
      s.ttlRound = s'.ttlRound ∧ s.lastCov = s'.lastCov ∧ s.lastFt = s'.lastFt ∧
      s.maxCov = s'.maxCov ∧ s.maxFt = s'.maxFt) ∧
    (∀ x ∈ s'.covOverTime, x.1 = none) ∧ (∀ x ∈ s'.ftOverTime, x.1 = none) ∧
    (∀ x ∈ s'.logCrashOverTime, x.1 = none) ∧ (∀ x ∈ s'.artifactOverTime, x.1 = none) ∧
    ∀ e ∈ s'.logTriageCrashOverTime, e.crashTime = none := by
  intro s s'
  have hY : ∀ l ∈ raws.map lineText, Unstamped l := by
    intro l hl
    obtain ⟨raw, hr, rfl⟩ := List.mem_map.mp hl
    exact unstamped_lineText (hraw raw hr)
  have hL : s'.erase = s' := by
    show (parseLogInStream cfg raws).state.erase = (parseLogInStream cfg raws).state
    rw [parseLogInStream_state, runEvents]
    exact legacy_run_erase _ hY
  have hS : s.erase = s'.erase := by
    rw [hL]
    show (parseLogInStream cfg (List.zipWith stampLine T raws)).state.erase =
      (parseLogInStream cfg raws).state
    rw [parseLogInStream_state, parseLogInStream_state, runEvents, runEvents, lineTexts_stamped hraw]
    exact stamped_run_erase _ (by rw [List.length_map, hlen]) hY hmono
      fun t ht => (pyStr_length_le_iff t).mpr (hT t ht)
  exact ⟨erase_eq_erase hS, erase_eq_self hL⟩

/-- The start banner without its timestamp: in a legacy stream no pattern
matches it. -/
def bannerLine : Text :=
  ("OpenJDK 64-Bit Server VM warning: Option CriticalJNINatives was deprecated in version " ++
    "16.0 and will likely be removed in a future release.").toList

set_option maxRecDepth 20000 in
/-- A start banner, a crash and an artifact, timestamped 1, 2 and 3: the
stamped run sets its baseline on the banner, finds the artifact eligible for
the crash and triages it, as the legacy run does. -/
theorem legacy_matches_stamped_triage :
    let T := [1, 2, 3]
    let raws := [asciiBytes bannerLine, asciiBytes sqlInjectionCrash, asciiBytes artifactLine]
    T.length = raws.length ∧ (∀ raw ∈ raws, Unstamped (decodeUtf8 raw)) ∧ T.Sorted (· ≤ ·) ∧
    (∀ t ∈ T, t < 10 ^ intMaxStrDigits) ∧
    (parseLogInStream ⟨[], false⟩ (List.zipWith stampLine T raws)).state.logTriageCrashOverTime.length = 1 ∧
    let s := (parseLogInStream ⟨[], false⟩ (List.zipWith stampLine T raws)).state
    let s' := (parseLogInStream ⟨[], false⟩ raws).state
    (s.covOverTime.map Prod.snd = s'.covOverTime.map Prod.snd ∧
      s.ftOverTime.map Prod.snd = s'.ftOverTime.map Prod.snd ∧
      s.logCrashOverTime.map Prod.snd = s'.logCrashOverTime.map Prod.snd ∧
      s.artifactOverTime.map Prod.snd = s'.artifactOverTime.map Prod.snd ∧
      s.logTriageCrashOverTime.map (fun e => (e.sanitizer, e.crash, e.artifact)) =
        s'.logTriageCrashOverTime.map (fun e => (e.sanitizer, e.crash, e.artifact)) ∧
      s.ttlRound = s'.ttlRound ∧ s.lastCov = s'.lastCov ∧ s.lastFt = s'.lastFt ∧
      s.maxCov = s'.maxCov ∧ s.maxFt = s'.maxFt) ∧
    (∀ x ∈ s'.covOverTime, x.1 = none) ∧ (∀ x ∈ s'.ftOverTime, x.1 = none) ∧
    (∀ x ∈ s'.logCrashOverTime, x.1 = none) ∧ (∀ x ∈ s'.artifactOverTime, x.1 = none) ∧
    ∀ e ∈ s'.logTriageCrashOverTime, e.crashTime = none := by
  intro T raws
  have h1 : T.length = raws.length := rfl
  have h2 : ∀ raw ∈ raws, Unstamped (decodeUtf8 raw) := by
    simp only [raws, List.mem_cons, List.mem_singleton, List.not_mem_nil, or_false]
    rintro raw (rfl | rfl | rfl) <;> intro c hc <;>
      rw [decodeUtf8_asciiBytes (by decide)] at hc <;> cases hc <;> decide
  have h3 : T.Sorted (· ≤ ·) := by decide
  have h4 : ∀ t ∈ T, t < 10 ^ intMaxStrDigits := fun t ht =>
    calc t < 10 ^ 1 := by revert t ht; decide
      _ ≤ 10 ^ intMaxStrDigits := Nat.pow_le_pow_right (by decide) (by decide)
  have h5 : (parseLogInStream ⟨[], false⟩ (List.zipWith stampLine T raws)).state.logTriageCrashOverTime.length = 1 := by
    rw [parseLogInStream_state, (triageInv_foldl _).log]
    decide
  exact ⟨h1, h2, h3, h4, h5, legacy_matches_stamped ⟨[], false⟩ _ _ h1 h2 h3 h4⟩

set_option maxRecDepth 20000 in
/-- A timestamp of 4301 digits: the current-format run raises on its only line
and logs nothing, where the legacy run logs the crash. -/
theorem legacy_stamped_differ :
    let T := [10 ^ intMaxStrDigits]
    let raws := [asciiBytes crashTail]
    T.length = raws.length ∧ (∀ raw ∈ raws, Unstamped (decodeUtf8 raw)) ∧ T.Sorted (· ≤ ·) ∧
      (parseLogInStream ⟨[], false⟩ (List.zipWith stampLine T raws)).state.logCrashOverTime.map
        Prod.snd = [] ∧
      (parseLogInStream ⟨[], false⟩ raws).state.logCrashOverTime.map Prod.snd = [crashTail] := by
  have hdec : decodeUtf8 (asciiBytes crashTail) = crashTail := decodeUtf8_asciiBytes (by decide)
  have hU : Unstamped (decodeUtf8 (asciiBytes crashTail)) := by
    intro c hc
    rw [hdec] at hc
    cases hc
    decide
  have htext : lineText (asciiBytes crashTail) = crashTail := by
    rw [lineText, hdec]
    decide
  have hlong : intMaxStrDigits < (pyStr (10 ^ intMaxStrDigits)).length := by
    exact Nat.lt_of_not_le ((pyStr_length_le_iff _).not.mpr (lt_irrefl _))
  refine ⟨by rw [List.length_singleton, List.length_singleton], fun raw hr => by
    rw [List.mem_singleton.mp hr]; exact hU,
    List.sorted_singleton _, ?_, ?_⟩
  · rw [parseLogInStream_state, runEvents, List.zipWith_cons_cons, List.zipWith_nil_left,
      List.map_cons, List.map_nil, lineText_stampLine _ hU, htext, stampText,
      if_neg (by decide), lineEvents_cons_error (lineEvent_longStamp _ _ (pyStr_ne_nil _)
        (pyStr_decimal _) hlong)]
    rfl
  · rw [parseLogInStream_state, runEvents, List.map_cons, List.map_nil, htext]
    rfl

end JazzerLog
