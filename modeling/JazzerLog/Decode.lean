/-
The line decoder of `parse_log_in_stream` (line 201):
`line.decode("utf-8", errors="ignore")`. CPython's UTF-8 decoder reads a
character from its lead byte and the continuation bytes the lead byte calls
for, each within the range RFC 3629 §4 allows at its position; on a byte that
does not fit it reports the bytes read so far as one error and starts again at
that byte, and `ignore` drops what is reported. So the decoder is the machine
below, fed one byte at a time, with a byte that does not fit reread from the
start state and a character left unfinished at the end dropped.

The `except UnicodeDecodeError` branch of lines 202-204 is dead: `ignore`
never raises, and `decodeUtf8` is total.
-/
import JazzerLog.Text

namespace JazzerLog

/-- A raw line as the binary file iterator yields it. -/
abbrev ByteLine := List UInt8

/-- Where the decoder stands between bytes. -/
inductive DecodeState where
  /-- Between characters. -/
  | start
  /-- Inside a character: continuation bytes still owed, the range the next one
  must fall in, and the code point bits read so far. -/
  | cont (owed low high acc : Nat)
  deriving DecidableEq, Repr

/-- A byte read between characters: an ASCII character, the start of a
longer one, or an invalid start byte that `ignore` drops. -/
def leadByte (b : UInt8) : Option Char × DecodeState :=
  let n := b.toNat
  if n ≤ 0x7F then (some (Char.ofNat n), .start)
  else if 0xC2 ≤ n ∧ n ≤ 0xDF then (none, .cont 1 0x80 0xBF (n - 0xC0))
  else if n = 0xE0 then (none, .cont 2 0xA0 0xBF 0)
  else if 0xE1 ≤ n ∧ n ≤ 0xEC then (none, .cont 2 0x80 0xBF (n - 0xE0))
  else if n = 0xED then (none, .cont 2 0x80 0x9F 0xD)
  else if 0xEE ≤ n ∧ n ≤ 0xEF then (none, .cont 2 0x80 0xBF (n - 0xE0))
  else if n = 0xF0 then (none, .cont 3 0x90 0xBF 0)
  else if 0xF1 ≤ n ∧ n ≤ 0xF3 then (none, .cont 3 0x80 0xBF (n - 0xF0))
  else if n = 0xF4 then (none, .cont 3 0x80 0x8F 4)
  else (none, .start)

/-- One byte: the character it completes, if any, and the next state. A byte
outside the owed range drops the unfinished character and is read again as a
lead byte. -/
def decodeStep : DecodeState → UInt8 → Option Char × DecodeState
  | .start, b => leadByte b
  | .cont owed low high acc, b =>
      let n := b.toNat
      if low ≤ n ∧ n ≤ high then
        let acc := acc * 64 + (n - 0x80)
        if owed = 1 then (some (Char.ofNat acc), .start) else (none, .cont (owed - 1) 0x80 0xBF acc)
      else leadByte b

/-- The decoder run over the bytes from a state. -/
def decodeFrom : DecodeState → ByteLine → Text
  | _, [] => []
  | q, b :: bs => ((decodeStep q b).1.toList) ++ decodeFrom (decodeStep q b).2 bs

/-- `line.decode("utf-8", errors="ignore")` -/
def decodeUtf8 (line : ByteLine) : Text := decodeFrom .start line

/-- ASCII bytes decode to themselves. -/
theorem decodeUtf8_ascii {bs : ByteLine} (h : ∀ b ∈ bs, b.toNat ≤ 0x7F) :
    decodeUtf8 bs = bs.map fun b => Char.ofNat b.toNat := by
  unfold decodeUtf8
  induction bs with
  | nil => rfl
  | cons b bs ih =>
      have hb := h b (by simp)
      simp [decodeFrom, decodeStep, leadByte, hb, ih fun x hx => h x (by simp [hx])]

/-- Bytes read between characters that are all ASCII leave the decoder between
characters. -/
theorem decodeUtf8_ascii_append {bs : ByteLine} (h : ∀ b ∈ bs, b.toNat ≤ 0x7F) (rest : ByteLine) :
    decodeUtf8 (bs ++ rest) = decodeUtf8 bs ++ decodeUtf8 rest := by
  unfold decodeUtf8
  induction bs with
  | nil => rfl
  | cons b bs ih =>
      have hb := h b (by simp)
      simp [decodeFrom, decodeStep, leadByte, hb, ih fun x hx => h x (by simp [hx])]

-- ============================================================ ASCII text

/-- The bytes of an ASCII text. -/
def asciiBytes (t : Text) : ByteLine := t.map fun c => c.toNat.toUInt8

/-- An ASCII code point survives the trip through a byte. -/
theorem toNat_toUInt8_of_ascii {c : Char} (h : c.toNat < 128) : c.toNat.toUInt8.toNat = c.toNat := by
  have : c.toNat < 256 := by omega
  simp [Nat.toUInt8, UInt8.ofNat, UInt8.toNat, Fin.ofNat, Nat.mod_eq_of_lt this]

/-- The bytes of an ASCII text are all below `0x80`. -/
theorem asciiBytes_ascii {t : Text} (h : ∀ c ∈ t, c.toNat < 128) :
    ∀ b ∈ asciiBytes t, b.toNat ≤ 0x7F := by
  intro b hb
  obtain ⟨c, hc, rfl⟩ := List.mem_map.mp hb
  have := h c hc
  rw [toNat_toUInt8_of_ascii this]
  omega

/-- Decoding the bytes of an ASCII text gives the text back. -/
theorem decodeUtf8_asciiBytes {t : Text} (h : ∀ c ∈ t, c.toNat < 128) :
    decodeUtf8 (asciiBytes t) = t := by
  rw [decodeUtf8_ascii (asciiBytes_ascii h), asciiBytes, List.map_map]
  conv_rhs => rw [← List.map_id t]
  exact List.map_congr_left fun c hc => by simp [toNat_toUInt8_of_ascii (h c hc)]

/-- An ASCII text in front of a line decodes to itself in front of the line's
text. -/
theorem decodeUtf8_asciiBytes_append {t : Text} (h : ∀ c ∈ t, c.toNat < 128) (raw : ByteLine) :
    decodeUtf8 (asciiBytes t ++ raw) = t ++ decodeUtf8 raw := by
  rw [decodeUtf8_ascii_append (asciiBytes_ascii h), decodeUtf8_asciiBytes h]

end JazzerLog
