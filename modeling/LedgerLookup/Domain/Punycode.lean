/-!
# Punycode

A text as ASCII letters and digits.  The ASCII characters of the text come first, with a hyphen
after them if there are any.  What follows tells where the other characters go: they are taken in
the order of their code points, and each is given by the number of states that a counter of places
and code points passes before it gets there.  The numbers are written with 36 digits, least
significant first, and each digit has a threshold that says whether it is the last one of its
number.  The thresholds adapt to the size of the numbers seen so far.
-/

namespace LedgerLookup.Domain.Punycode

/-- The digit of a number below 36. -/
def digit (n : Nat) : Char :=
  if n < 26 then Char.ofNat (97 + n) else Char.ofNat (22 + n)

/-- The value of a digit of either case. -/
def digitValue? (c : Char) : Option Nat :=
  if 'a' ≤ c ∧ c ≤ 'z' then some (c.toNat - 97)
  else if 'A' ≤ c ∧ c ≤ 'Z' then some (c.toNat - 65)
  else if '0' ≤ c ∧ c ≤ '9' then some (c.toNat - 22)
  else none

/-- The threshold of the digit at a place, places being counted in steps of 36 from 36 on. -/
def threshold (bias place : Nat) : Nat :=
  if place ≤ bias then 1 else if bias + 26 ≤ place then 26 else place - bias

theorem threshold_pos (bias place : Nat) : 1 ≤ threshold bias place := by
  unfold threshold
  split
  · omega
  · split <;> omega

/-- The bias that goes with a number: the places that its digits take, and a part of one more. -/
def biasOf (delta place : Nat) : Nat :=
  if 455 < delta then biasOf (delta / 35) (place + 36) else place + 36 * delta / (delta + 38)
termination_by delta
decreasing_by exact Nat.div_lt_self (by omega) (by omega)

/-- The bias after a number has been used for the character that makes the text `size` characters
long. -/
def adapt (delta size : Nat) (first : Bool) : Nat :=
  let delta := if first then delta / 700 else delta / 2
  biasOf (delta + delta / size) 0

/-! ## Writing -/

/-- The digits of a number from a place on. -/
def writeNumber (bias place n : Nat) : List Char :=
  let t := threshold bias place
  if n < t then [digit n]
  else digit (t + (n - t) % (36 - t)) :: writeNumber bias (place + 36) ((n - t) / (36 - t))
termination_by n
decreasing_by
  have := threshold_pos bias place
  have := Nat.div_le_self (n - threshold bias place) (36 - threshold bias place)
  omega

/-- Where a writer stands: the number of states passed since the last character, the bias, the
number of characters placed, and the digits written, in pieces given from the last. -/
structure Writing where
  delta : Nat
  bias : Nat
  placed : Nat
  pieces : List (List Char)

/-- One character of the text as the writer passes it with the counter at code point `n`, the text
having `ascii` ASCII characters. -/
def Writing.pass (ascii n : Nat) (w : Writing) (m : Nat) : Writing :=
  if m < n then { w with delta := w.delta + 1 }
  else if m = n then
    ⟨0, adapt w.delta (w.placed + 1) (w.placed == ascii), w.placed + 1,
      writeNumber w.bias 36 w.delta :: w.pieces⟩
  else w

/-- The counter taken through code points in increasing order, standing at `n` before. -/
def Writing.passAll (ascii : Nat) (text : List Nat) : Nat → List Nat → Writing → Writing
  | _, [], w => w
  | n, m :: rest, w =>
    let w := { w with delta := w.delta + (m - n) * (w.placed + 1) }
    let w := text.foldl (Writing.pass ascii m) w
    passAll ascii text (m + 1) rest { w with delta := w.delta + 1 }

/-- A number put into an increasing list, unless it is there. -/
def insertIncreasing (n : Nat) : List Nat → List Nat
  | [] => [n]
  | m :: rest =>
    if n < m then n :: m :: rest else if n = m then m :: rest else m :: insertIncreasing n rest

/-- A text as letters and digits. -/
def encode (cs : List Char) : List Char :=
  let text := cs.map Char.toNat
  let ascii := cs.filter (·.toNat < 128)
  let others := (text.filter (128 ≤ ·)).foldr insertIncreasing []
  let w := Writing.passAll ascii.length text 128 others ⟨0, 72, ascii.length, []⟩
  ascii ++ (if ascii.isEmpty then [] else ['-']) ++ w.pieces.reverse.flatten

/-! ## Reading -/

/-- Numbers are read as far as they fit 32 bits. -/
def maxNumber : Nat := 4294967295

/-- A number from a place on, added to `acc`, and what follows it.  A digit at the place counts
`weight` times its value. -/
def readNumber? (bias place weight acc : Nat) : List Char → Option (Nat × List Char)
  | [] => none
  | c :: rest => do
    let d ← digitValue? c
    let acc := acc + d * weight
    if maxNumber < acc then none
    else
      let t := threshold bias place
      if d < t then some (acc, rest)
      else if maxNumber < weight * (36 - t) then none
      else readNumber? bias (place + 36) (weight * (36 - t)) acc rest

theorem readNumber?_length {bias place weight acc : Nat} {cs : List Char} {r : Nat × List Char}
    (h : readNumber? bias place weight acc cs = some r) : r.2.length < cs.length := by
  induction cs generalizing place weight acc with
  | nil => simp [readNumber?] at h
  | cons c rest ih =>
    rw [readNumber?] at h
    cases hd : digitValue? c with
    | none => simp [hd] at h
    | some d =>
      simp only [hd, Option.bind_eq_bind, Option.bind_some] at h
      split at h
      · simp at h
      · split at h
        · cases h
          simp
        · split at h
          · simp at h
          · have := ih h
            simp only [List.length_cons]
            omega

/-- The characters that numbers put into a text: the counter stands at place `place` and code point
`n`, and the text is `out` so far. -/
def readCharacters? (bias n place : Nat) (out : List Nat) (cs : List Char) : Option (List Nat) :=
  match h : readNumber? bias 36 1 place cs with
  | none => if cs.isEmpty then some out else none
  | some (total, rest) =>
    have := readNumber?_length h
    let size := out.length + 1
    let n := n + total / size
    if n.isValidChar then
      readCharacters? (adapt (total - place) size (place == 0)) n (total % size + 1)
        (out.insertIdx (total % size) n) rest
    else none
termination_by cs.length

/-- A text cut at its last hyphen, unless that stands at its start. -/
def cutAtHyphen (cs : List Char) : List Char × List Char :=
  match cs.reverse.dropWhile (· ≠ '-') with
  | _ :: c :: front => ((c :: front).reverse, (cs.reverse.takeWhile (· ≠ '-')).reverse)
  | _ => ([], cs)

/-- The text that letters and digits stand for. -/
def decode? (cs : List Char) : Option (List Char) := do
  let (ascii, numbers) := cutAtHyphen cs
  let text ← readCharacters? 72 128 0 (ascii.map Char.toNat) numbers
  return text.map Char.ofNat

end LedgerLookup.Domain.Punycode
