/-!
# UTF-8

Characters as bytes and bytes as characters.  A byte sequence is read as a list of letters: a
character for each well-formed sequence, and a gap (`none`) for each longest run of bytes that
starts like a character and is cut off before its end.  Strict reading refuses a gap; lenient
reading puts the replacement character in its place.
-/

namespace LedgerLookup.Text.Utf8

/-- A character of a text, or a gap where the bytes do not form one. -/
abbrev Letter := Option Char

/-- The bytes of a character: one byte up to U+007F, two up to U+07FF, three up to U+FFFF and four
above. -/
def encodeChar (c : Char) : List UInt8 :=
  let n := c.toNat
  if n < 0x80 then [.ofNat n]
  else if n < 0x800 then [.ofNat (0xC0 + n / 64), .ofNat (0x80 + n % 64)]
  else if n < 0x10000 then
    [.ofNat (0xE0 + n / 4096), .ofNat (0x80 + n / 64 % 64), .ofNat (0x80 + n % 64)]
  else
    [.ofNat (0xF0 + n / 262144), .ofNat (0x80 + n / 4096 % 64), .ofNat (0x80 + n / 64 % 64),
      .ofNat (0x80 + n % 64)]

/-- The bytes of a text. -/
def encode (cs : List Char) : List UInt8 :=
  cs.flatMap encodeChar

/-- The number of bytes of a letter; a gap counts as one. -/
def letterSize : Letter → Nat
  | some c => (encodeChar c).length
  | none => 1

/-- Where a reader stands between two bytes: between characters, or inside one that still needs
`more + 1` bytes, the next of them from `low` to `high`, with `acc` collected so far. -/
inductive State where
  | between
  | inside (more : Nat) (low high acc : Nat)

/-- What the first byte of a character says: a whole character, the start of a longer one, or
nothing that can start a character. -/
def start (b : Nat) : List Letter × State :=
  if b < 0x80 then ([some (Char.ofNat b)], .between)
  else if 0xC2 ≤ b ∧ b ≤ 0xDF then ([], .inside 0 0x80 0xBF (b - 0xC0))
  else if b = 0xE0 then ([], .inside 1 0xA0 0xBF 0)
  else if b = 0xED then ([], .inside 1 0x80 0x9F 0xD)
  else if 0xE1 ≤ b ∧ b ≤ 0xEF then ([], .inside 1 0x80 0xBF (b - 0xE0))
  else if b = 0xF0 then ([], .inside 2 0x90 0xBF 0)
  else if 0xF1 ≤ b ∧ b ≤ 0xF3 then ([], .inside 2 0x80 0xBF (b - 0xF0))
  else if b = 0xF4 then ([], .inside 2 0x80 0x8F 4)
  else ([none], .between)

/-- One byte further.  A byte that cannot continue a character ends it with a gap and is read
afresh. -/
def step : State → Nat → List Letter × State
  | .between, b => start b
  | .inside more low high acc, b =>
    if low ≤ b ∧ b ≤ high then
      match more with
      | 0 => ([some (Char.ofNat (acc * 64 + (b - 0x80)))], .between)
      | more + 1 => ([], .inside more 0x80 0xBF (acc * 64 + (b - 0x80)))
    else
      let (out, state) := start b
      (none :: out, state)

/-- The letters of a byte sequence from a given state. -/
def lettersFrom : State → List UInt8 → List Letter
  | .between, [] => []
  | .inside .., [] => [none]
  | state, b :: rest =>
    let (out, next) := step state b.toNat
    out ++ lettersFrom next rest

/-- The letters of a byte sequence. -/
def letters (bytes : List UInt8) : List Letter :=
  lettersFrom .between bytes

/-- The text of a byte sequence that is well formed throughout. -/
def decode? (bytes : List UInt8) : Option (List Char) :=
  (letters bytes).mapM id

/-- The text of any byte sequence, with the replacement character for each gap. -/
def decodeLossy (bytes : List UInt8) : List Char :=
  (letters bytes).map (·.getD '\uFFFD')

end LedgerLookup.Text.Utf8
