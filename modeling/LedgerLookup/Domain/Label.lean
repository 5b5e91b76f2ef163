import LedgerLookup.Domain.CharacterTable
import LedgerLookup.Domain.Mapping
import LedgerLookup.Text.Normal

/-!
# Labels of domain names

The rules that a label with characters beyond ASCII has to keep.  It may not start with a mark, a
joiner may stand only where it changes the shape of its neighbours, and in a name with a label that
is written from right to left no label may mix directions in a way that hides where it ends.
-/

namespace LedgerLookup.Domain

/-- Whether a character is a mark, which belongs to the character before it. -/
def isMark (c : Char) : Bool :=
  Text.inRanges markRanges c.toNat

/-! ## Joiners -/

/-- The combining class of the signs that take the vowel from a consonant. -/
def viramaClass : Nat := 9

/-- Whether the character before a joiner, if there is one, takes the vowel from a consonant. -/
def endsInVirama : List Char → Bool
  | c :: _ => Text.Normal.combiningClass c.toNat == viramaClass
  | [] => false

/-- The first character that joining does not look through is one of those in `ranges` or joins on
both sides. -/
def joinsNext (ranges : List (Nat × Nat)) (cs : List Char) : Bool :=
  match cs.dropWhile fun c => Text.inRanges transparentRanges c.toNat with
  | c :: _ => Text.inRanges dualJoiningRanges c.toNat || Text.inRanges ranges c.toNat
  | [] => false

/-- Whether every joiner stands where it may, `before` being the text in front from its end.  Either
joiner may follow a sign that takes the vowel from a consonant, and the one that keeps letters apart
may stand between letters that would join. -/
def joinersFit (before : List Char) : List Char → Bool
  | [] => true
  | c :: rest =>
    let fits :=
      if c = '\u200c' then
        endsInVirama before ||
          joinsNext leftJoiningRanges before && joinsNext rightJoiningRanges rest
      else if c = '\u200d' then endsInVirama before
      else true
    fits && joinersFit (c :: before) rest

/-! ## Writing directions -/

/-- The direction of a character. -/
inductive Direction where
  | leftToRight | rightToLeft | arabicNumber | europeanNumber | neutral | nonspacing
deriving DecidableEq, Repr

/-- The direction of a character. -/
def direction (c : Char) : Direction :=
  let n := c.toNat
  if Text.inRanges rightToLeftRanges n then .rightToLeft
  else if Text.inRanges arabicNumberRanges n then .arabicNumber
  else if Text.inRanges europeanNumberRanges n then .europeanNumber
  else if Text.inRanges neutralRanges n then .neutral
  else if Text.inRanges nonspacingRanges n then .nonspacing
  else .leftToRight

/-- Whether a character makes its name one with a text from right to left. -/
def isRightward (c : Char) : Bool :=
  direction c == .rightToLeft || direction c == .arabicNumber

/-- Whether a label has one direction throughout.  It starts with a letter; after a letter from left
to right there is nothing from right to left, and the last character that is not a mark is a letter
or a number of the direction; and Arabic and European numbers do not stand together. -/
def oneDirection (label : List Char) : Bool :=
  let directions := label.map direction
  let last := (directions.reverse.dropWhile (· == .nonspacing)).head?
  match directions with
  | [] => true
  | .leftToRight :: _ =>
    directions.all (fun d => d != .rightToLeft && d != .arabicNumber) &&
      (last == some .leftToRight || last == some .europeanNumber)
  | .rightToLeft :: _ =>
    directions.all (· != .leftToRight) &&
      (last == some .rightToLeft || last == some .europeanNumber || last == some .arabicNumber) &&
      !(directions.contains .europeanNumber && directions.contains .arabicNumber)
  | _ => false

/-! ## Labels -/

/-- Whether a label keeps the rules that hold in every name. -/
def isValidLabel (label : List Char) : Bool :=
  !(label.head?.any isMark) && joinersFit [] label

/-- Whether a label is the only way to write it. -/
def isNormalLabel (label : List Char) : Bool :=
  label.all isKept && Text.Normal.composed label == label

end LedgerLookup.Domain
