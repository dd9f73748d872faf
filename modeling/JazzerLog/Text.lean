/-
Python's text primitives as `jazzer_postprocessing.py` leans on them, for the
`python3.12` the repository runs it with (`src/crs/cov_repro.py`, line 83),
whose character database is Unicode 15.0: the `\d` and `\s` classes of `re`
on `str` patterns, `str.strip()`, `int()` on a captured run of decimal digits,
`in` between strings and `str.split(":")`.

# The classes

`\d` is Unicode category `Nd`: 68 runs of ten code points, each from a zero to
a nine (`decimalZeros`; Unicode 15.0 added the Kawi and Nag Mundari digits). `\s` is `str.isspace()`: 29 code points
(`spaceCodes`), the same set `str.strip()` removes. The two are disjoint
(`isSpace_eq_false_of_isDecimal`), which is what makes the timestamp prefix
`(\d+)\s` of the patterns consume exactly the leading digit run.

# `int()`

CPython refuses to convert more than `sys.int_info.default_max_str_digits`
= 4300 digits and raises `ValueError`; below that, `int()` reads every decimal
digit by its value in its own script. `pyInt` is `int()` on the digit runs the
patterns capture, the only strings the tool converts.
-/
import Mathlib.Data.List.Infix
import Mathlib.Data.List.Basic

namespace JazzerLog

/-- A decoded log line, or a piece cut out of one. -/
abbrev Text := List Char

-- ====================================================== `\d` and `\s`

/-- The zeros of Unicode category `Nd`; every decimal digit is a zero or one
of the nine code points after it. -/
def decimalZeros : List Nat :=
  [0x30, 0x660, 0x6f0, 0x7c0, 0x966, 0x9e6, 0xa66, 0xae6, 0xb66, 0xbe6, 0xc66,
    0xce6, 0xd66, 0xde6, 0xe50, 0xed0, 0xf20, 0x1040, 0x1090, 0x17e0, 0x1810,
    0x1946, 0x19d0, 0x1a80, 0x1a90, 0x1b50, 0x1bb0, 0x1c40, 0x1c50, 0xa620,
    0xa8d0, 0xa900, 0xa9d0, 0xa9f0, 0xaa50, 0xabf0, 0xff10, 0x104a0, 0x10d30,
    0x11066, 0x110f0, 0x11136, 0x111d0, 0x112f0, 0x11450, 0x114d0, 0x11650,
    0x116c0, 0x11730, 0x118e0, 0x11950, 0x11c50, 0x11d50, 0x11da0, 0x11f50,
    0x16a60, 0x16ac0, 0x16b50, 0x1d7ce, 0x1d7d8, 0x1d7e2, 0x1d7ec, 0x1d7f6,
    0x1e140, 0x1e2f0, 0x1e4f0, 0x1e950, 0x1fbf0]

/-- Code point `n` is one of the ten digits from zero `z`. -/
def inDecade (n z : Nat) : Bool := z ≤ n && n < z + 10

/-- `\d`: a decimal digit of any script. -/
def isDecimal (c : Char) : Bool := decimalZeros.any (inDecade c.toNat)

/-- The value `int()` reads from a decimal digit: its distance from its zero. -/
def decimalValue (c : Char) : Nat :=
  match decimalZeros.find? (inDecade c.toNat) with
  | some z => c.toNat - z
  | none => 0

/-- The code points of `str.isspace()`. -/
def spaceCodes : List Nat :=
  [0x9, 0xa, 0xb, 0xc, 0xd, 0x1c, 0x1d, 0x1e, 0x1f, 0x20, 0x85, 0xa0, 0x1680,
    0x2000, 0x2001, 0x2002, 0x2003, 0x2004, 0x2005, 0x2006, 0x2007, 0x2008,
    0x2009, 0x200a, 0x2028, 0x2029, 0x202f, 0x205f, 0x3000]

/-- `\s`, and the characters `str.strip()` removes. -/
def isSpace (c : Char) : Bool := spaceCodes.contains c.toNat

/-- No whitespace code point falls in a decade of digits. -/
private theorem spaceCodes_apart :
    ∀ z ∈ decimalZeros, ∀ n ∈ spaceCodes, inDecade n z = false := by
  have h : (decimalZeros.all fun z => spaceCodes.all fun n => !inDecade n z) = true := rfl
  simpa using h

/-- A decimal digit is never whitespace. -/
theorem isSpace_eq_false_of_isDecimal {c : Char} (h : isDecimal c = true) :
    isSpace c = false := by
  obtain ⟨z, hz, hin⟩ := List.any_eq_true.mp h
  cases hs : isSpace c
  · rfl
  · have hn : c.toNat ∈ spaceCodes := by simpa [isSpace] using hs
    rw [spaceCodes_apart z hz _ hn] at hin
    cases hin

/-- An ASCII digit is a decimal digit worth its distance from `'0'`. -/
theorem ascii_digit {c : Char} (h₁ : 48 ≤ c.toNat) (h₂ : c.toNat < 58) :
    isDecimal c = true ∧ decimalValue c = c.toNat - 48 := by
  have hz : inDecade c.toNat 0x30 = true := by
    simp only [inDecade, Bool.and_eq_true, decide_eq_true_eq]
    omega
  simp [isDecimal, decimalValue, decimalZeros, hz]

-- ========================================================== `strip`

/-- `str.strip()`: the text without its leading and trailing whitespace. -/
def strip (s : Text) : Text :=
  ((s.dropWhile isSpace).reverse.dropWhile isSpace).reverse

-- ============================================================ `int()`

/-- `sys.int_info.default_max_str_digits`: the most digits `int()` converts. -/
def intMaxStrDigits : Nat := 4300

/-- The exceptions line processing can raise. -/
inductive PyError where
  /-- `int()`'s `ValueError` past the digit limit, with the digit count. -/
  | intMaxStrDigits (digits : Nat)
  /-- `IndexError: list index out of range`. -/
  | indexError
  deriving DecidableEq, Repr

/-- The number a run of decimal digits spells, most significant first. -/
def digitsValue (ds : Text) : Nat :=
  ds.foldl (fun n c => 10 * n + decimalValue c) 0

/-- `int()` on a captured `\d+` run. -/
def pyInt (ds : Text) : Except PyError Nat :=
  if intMaxStrDigits < ds.length then .error (.intMaxStrDigits ds.length)
  else .ok (digitsValue ds)

/-- `int()` converts a run within the limit to its value. -/
theorem pyInt_of_le {ds : Text} (h : ds.length ≤ intMaxStrDigits) :
    pyInt ds = .ok (digitsValue ds) := by
  simp [pyInt, Nat.not_lt.mpr h]

/-- `int()` that succeeds returns the value of the digits. -/
theorem pyInt_eq_ok {ds : Text} {n : Nat} :
    pyInt ds = .ok n ↔ ds.length ≤ intMaxStrDigits ∧ n = digitsValue ds := by
  unfold pyInt
  split
  · simp only [reduceCtorEq, false_iff, not_and]
    omega
  · simp [eq_comm]
    omega

/-- A computation that may raise succeeds when every step it binds does. -/
@[simp] theorem bind_eq_ok {α β ε : Type} {x : Except ε α} {f : α → Except ε β} {b : β} :
    x >>= f = .ok b ↔ ∃ a, x = .ok a ∧ f a = .ok b := by
  cases x <;> simp [bind, Except.bind]

/-- A mapped computation succeeds exactly when the computation does. -/
@[simp] theorem map_eq_ok {α β ε : Type} {x : Except ε α} {f : α → β} {b : β} :
    f <$> x = .ok b ↔ ∃ a, x = .ok a ∧ f a = b := by
  cases x <;> simp [Functor.map, Except.map]

/-- A mapped computation raises exactly what the computation raises. -/
@[simp] theorem map_eq_error {α β ε : Type} {x : Except ε α} {f : α → β} {e : ε} :
    f <$> x = .error e ↔ x = .error e := by
  cases x <;> simp [Functor.map, Except.map]

/-- Binding a success runs the continuation. -/
@[simp] theorem ok_bind {α β ε : Type} (a : α) (f : α → Except ε β) :
    (Except.ok a : Except ε α) >>= f = f a := rfl

/-- Binding an exception passes it on. -/
@[simp] theorem error_bind {α β ε : Type} (e : ε) (f : α → Except ε β) :
    (Except.error e : Except ε α) >>= f = .error e := rfl

/-- Mapping over an exception keeps it. -/
@[simp] theorem map_error {α β ε : Type} (e : ε) (f : α → β) :
    f <$> (Except.error e : Except ε α) = .error e := rfl

/-- Mapping over a success applies the function. -/
@[simp] theorem map_ok {α β ε : Type} (a : α) (f : α → β) :
    f <$> (Except.ok a : Except ε α) = .ok (f a) := rfl

/-- `pure` succeeds with its argument. -/
@[simp] theorem pure_eq_ok {α ε : Type} {a b : α} : (pure a : Except ε α) = .ok b ↔ a = b := by
  simp [pure, Except.pure]

/-- `c.split(":")[i]`, with the `IndexError` of a missing field. -/
def splitColonAt (s : Text) (i : Nat) : Except PyError Text :=
  match (s.splitOn ':')[i]? with
  | some f => .ok f
  | none => .error .indexError

/-- Splitting at colons, when the text before the first colon has none. -/
theorem splitOn_colon_first {p rest : Text} (hp : ':' ∉ p) :
    (p ++ ':' :: rest).splitOn ':' = p :: rest.splitOn ':' := by
  have hfree : ∀ x ∈ p, ¬(x == ':') = true := by
    intro x hx hc
    exact hp (beq_iff_eq.mp hc ▸ hx)
  exact List.splitOnP_first _ p hfree ':' (by simp) rest

end JazzerLog
