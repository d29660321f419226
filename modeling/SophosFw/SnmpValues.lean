import SophosFw.Records

/-!
The values of an SNMP walk, and what the client makes of them: a number, a text or nothing.
-/

namespace SophosFw.Snmp

open SophosFw.PyText SophosFw.Records

/-- A character that has begun: the bits read so far, the bytes the next one may be, and how many
are missing. -/
structure Pending where
  bits : ℕ
  low : ℕ
  high : ℕ
  missing : ℕ

/-- What the first byte of a longer character leaves to be read. -/
def leadByte (b : ℕ) : Option Pending :=
  if 0xC2 ≤ b ∧ b ≤ 0xDF then some ⟨b - 0xC0, 0x80, 0xBF, 1⟩
  else if b = 0xE0 then some ⟨0, 0xA0, 0xBF, 2⟩
  else if b = 0xED then some ⟨0xD, 0x80, 0x9F, 2⟩
  else if 0xE1 ≤ b ∧ b ≤ 0xEF then some ⟨b - 0xE0, 0x80, 0xBF, 2⟩
  else if b = 0xF0 then some ⟨0, 0x90, 0xBF, 3⟩
  else if b = 0xF4 then some ⟨4, 0x80, 0x8F, 3⟩
  else if 0xF1 ≤ b ∧ b ≤ 0xF3 then some ⟨b - 0xF0, 0x80, 0xBF, 3⟩
  else none

/-- A byte between characters. -/
def firstByte (b : ℕ) : List Char × Option Pending :=
  if b < 0x80 then ([Char.ofNat b], none)
  else
    match leadByte b with
    | some p => ([], some p)
    | none => (['\ufffd'], none)

/-- One byte more. A byte that cannot continue a character cuts it off and begins another. -/
def nextByte (pending : Option Pending) (b : ℕ) : List Char × Option Pending :=
  match pending with
  | none => firstByte b
  | some p =>
    if p.low ≤ b ∧ b ≤ p.high then
      let bits := 64 * p.bits + (b - 0x80)
      if p.missing = 1 then ([Char.ofNat bits], none)
      else ([], some ⟨bits, 0x80, 0xBF, p.missing - 1⟩)
    else ('\ufffd' :: (firstByte b).1, (firstByte b).2)

def decodeFrom : Option Pending → List UInt8 → List Char
  | none, [] => []
  | some _, [] => ['\ufffd']
  | pending, b :: bytes =>
    let (chars, pending) := nextByte pending b.toNat
    chars ++ decodeFrom pending bytes

/-- `bytes.decode("utf-8", errors="replace")`. -/
def decodeReplace (bytes : List UInt8) : String := String.ofList (decodeFrom none bytes)

/-- A cut-off character is one replacement, and so is every byte that begins none. -/
example : decodeReplace [0x41, 0xE2, 0x82, 0xAC, 0xE2, 0x82, 0xC0, 0xED, 0xA0, 0xF0, 0x9F] =
    "A€\ufffd\ufffd\ufffd\ufffd\ufffd" := by decide +kernel

/-! ### Values -/

/-- A value as puresnmp hands it out, in Python's terms. Of a number, an SMI type has 64 bits at
most, which `str` takes; of what is neither a number nor bytes (a time, an address, an OID), only
its `str` matters. -/
inductive Value
  | none
  | bool (b : Bool)
  | int (n : ℤ)
  | bytes (l : List UInt8)
  | other (text : String)
  deriving DecidableEq

/-- `str(_py(value))`, of a value that is not `None`. -/
def Value.str : Value → Option String
  | none => .none
  | bool b => some (if b then "True" else "False")
  | int n => some (toString n)
  | bytes l => some (decodeReplace l)
  | other text => some text

/-- `text.split()[0]`. -/
def firstWord (text : String) : Option String :=
  let word := (text.toList.dropWhile isSpace).takeWhile fun c => !isSpace c
  if word = [] then none else some (String.ofList word)

/-- Digits of an `int` literal, with single underscores between them. -/
def digits (l : List Char) : Option ℕ :=
  let groups := l.splitOn '_'
  if [] ∈ groups then none else (Records.int (String.ofList groups.flatten)).toOption

/-- `int(word)`, or nothing where it raises. -/
def intWord (word : String) : Option ℤ :=
  match word.toList with
  | '+' :: l => (digits l).map Int.ofNat
  | '-' :: l => (digits l).map fun n => -(n : ℤ)
  | l => (digits l).map Int.ofNat

/-- `to_int` -/
def toInt : Value → Option ℤ
  | .none => none
  | .bool _ => none
  | .int n => some n
  | v => v.str.bind fun text => (firstWord text).bind intWord

/-- `to_str` -/
def toStr (v : Value) : Option String :=
  v.str.bind fun text => if strip text = "" then none else some (strip text)

lemma toStr_spec {v : Value} {s : String} (h : toStr v = some s) : strip s = s ∧ s ≠ "" := by
  obtain ⟨text, -, hs⟩ := Option.bind_eq_some_iff.mp h
  split at hs
  · cases hs
  · next hne =>
    obtain rfl : strip text = s := by simpa using hs
    exact ⟨strip_strip text, hne⟩

end SophosFw.Snmp
