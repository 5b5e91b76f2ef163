import LedgerLookup.Text.NormalTable

/-!
# Canonical composition

Texts that are canonically equivalent have one composed form.  A text is brought into it in three
steps: every character falls apart as far as it can, marks that stand in a row are ordered by their
combining class, and then every base takes up the marks that it makes up a character with.
-/

namespace LedgerLookup.Text.Normal

/-- The combining class of a code point: zero for a base, and otherwise the place where a mark
attaches. -/
def combiningClass (n : Nat) : Nat :=
  if n < 0x300 then 0
  else
    (classRows.findSome? fun
      | [low, high, k] => if low ≤ n ∧ n ≤ high then some k else none
      | _ => none).getD 0

/-! ## Falling apart -/

/-- The letters of a syllable of Hangul: one that leads, a vowel, and perhaps one that trails. -/
def syllableLetters (n : Nat) : List Nat :=
  let i := n - 0xAC00
  [0x1100 + i / 588, 0x1161 + i % 588 / 28] ++ if i % 28 = 0 then [] else [0x11A7 + i % 28]

/-- The code points that a code point falls apart into. -/
def decompose (n : Nat) : List Nat :=
  if n < 0xC0 then [n]
  else if 0xAC00 ≤ n ∧ n ≤ 0xD7A3 then syllableLetters n
  else
    (decompositionRows.findSome? fun
      | m :: parts => if m = n then some parts else none
      | [] => none).getD [n]

/-! ## Order of marks -/

/-- A code point added to a text that is given from its end: a mark goes before the marks of higher
classes that stand at the end. -/
def addOrdered (n : Nat) : List Nat → List Nat
  | [] => [n]
  | m :: before =>
    if combiningClass n ≠ 0 ∧ combiningClass n < combiningClass m then m :: addOrdered n before
    else n :: m :: before

/-- A text with its marks in order. -/
def ordered (ns : List Nat) : List Nat :=
  (ns.foldl (fun text n => addOrdered n text) []).reverse

/-! ## Composition -/

/-- The syllable of Hangul that two of its parts make up. -/
def syllable? (a b : Nat) : Option Nat :=
  if 0x1100 ≤ a ∧ a ≤ 0x1112 ∧ 0x1161 ≤ b ∧ b ≤ 0x1175 then
    some (0xAC00 + (a - 0x1100) * 588 + (b - 0x1161) * 28)
  else if 0xAC00 ≤ a ∧ a ≤ 0xD7A3 ∧ (a - 0xAC00) % 28 = 0 ∧ 0x11A8 ≤ b ∧ b ≤ 0x11C2 then
    some (a + (b - 0x11A7))
  else none

/-- The code point that two code points make up. -/
def pair? (a b : Nat) : Option Nat :=
  if b < 0x300 then none
  else
    match syllable? a b with
    | some n => some n
    | none =>
      compositionRows.findSome? fun
        | [x, y, n] => if x = a ∧ y = b then some n else none
        | _ => none

/-- A text that is being composed: what is finished, the last base if there is one, and the marks
after it that it did not take up; the finished part and the marks are given from their end. -/
structure Composing where
  done : List Nat := []
  base : Option Nat := none
  marks : List Nat := []

/-- All that has been composed, from its end. -/
def Composing.all (s : Composing) : List Nat :=
  s.marks ++ s.base.toList ++ s.done

/-- Whether a code point can reach the base: no mark stands between them, or only marks of lower
classes. -/
def Composing.reachable (s : Composing) (n : Nat) : Bool :=
  match s.marks with
  | [] => true
  | m :: _ => combiningClass m < combiningClass n

/-- One code point further. -/
def Composing.push (s : Composing) (n : Nat) : Composing :=
  match if s.reachable n then s.base.bind (pair? · n) else none with
  | some m => { s with base := some m }
  | none =>
    if combiningClass n = 0 then ⟨s.all, some n, []⟩
    else { s with marks := n :: s.marks }

/-- The composed form of code points whose marks are in order. -/
def compose (ns : List Nat) : List Nat :=
  (ns.foldl Composing.push {}).all.reverse

/-- The composed form of a text. -/
def composed (cs : List Char) : List Char :=
  (compose (ordered (cs.flatMap fun c => decompose c.toNat))).map Char.ofNat

end LedgerLookup.Text.Normal
