import GuestInit.Bytes

/-! Decoding of UTF-8, one byte at a time. Bytes that are no encoding are cut into their maximal
subparts, each the longest start of some character's encoding that stands there, or one byte where
none starts. Lossy decoding writes one replacement character for each of them. -/

namespace GuestInit.Utf8

/-- A character under way: the value of the bytes so far, how many are owed after the next one,
and the range the next one has to be in. -/
structure Opened where
  value : Nat
  owed : Nat
  low : UInt8
  high : UInt8
deriving DecidableEq, Repr

/-- What a first byte says about its character. -/
inductive Lead where
  | whole (char : Char)
  | opens (opened : Opened)
  | invalid
deriving DecidableEq, Repr

/-- The narrowed ranges keep out overlong forms, surrogates and values past the last code point. -/
def lead (byte : UInt8) : Lead :=
  let value := byte.toNat
  if byte < 0x80 then .whole (Char.ofNat value)
  else if byte < 0xC2 then .invalid
  else if byte < 0xE0 then .opens ⟨value - 0xC0, 0, 0x80, 0xBF⟩
  else if byte = 0xE0 then .opens ⟨0, 1, 0xA0, 0xBF⟩
  else if byte = 0xED then .opens ⟨0xD, 1, 0x80, 0x9F⟩
  else if byte < 0xF0 then .opens ⟨value - 0xE0, 1, 0x80, 0xBF⟩
  else if byte = 0xF0 then .opens ⟨0, 2, 0x90, 0xBF⟩
  else if byte < 0xF4 then .opens ⟨value - 0xF0, 2, 0x80, 0xBF⟩
  else if byte = 0xF4 then .opens ⟨4, 2, 0x80, 0x8F⟩
  else .invalid

/-- What a byte completes: characters, and `none` for each maximal subpart of no character. -/
def start (byte : UInt8) : List (Option Char) × Option Opened :=
  match lead byte with
  | .whole char => ([some char], none)
  | .opens opened => ([], some opened)
  | .invalid => ([none], none)

def step : Option Opened → UInt8 → List (Option Char) × Option Opened
  | none, byte => start byte
  | some opened, byte =>
    if opened.low ≤ byte ∧ byte ≤ opened.high then
      let value := opened.value * 64 + (byte.toNat - 0x80)
      match opened.owed with
      | 0 => ([some (Char.ofNat value)], none)
      | owed + 1 => ([], some ⟨value, owed, 0x80, 0xBF⟩)
    else
      let (pieces, next) := start byte
      (none :: pieces, next)

def scanFrom : Option Opened → Bytes → List (Option Char)
  | none, [] => []
  | some _, [] => [none]
  | state, byte :: rest =>
    let (pieces, next) := step state byte
    pieces ++ scanFrom next rest

/-- The characters of a byte string in order, with `none` for each maximal subpart of no character. -/
def scan (bytes : Bytes) : List (Option Char) := scanFrom none bytes

def replacement : Char := Char.ofNat 0xFFFD

def lossy (bytes : Bytes) : String :=
  String.ofList ((scan bytes).map fun piece => piece.getD replacement)

/-- The text, if the bytes are the encoding of one. -/
def decode? (bytes : Bytes) : Option String :=
  ((scan bytes).mapM id).map String.ofList

end GuestInit.Utf8
