import CoinKeys.Text.CombiningClass
import CoinKeys.Text.Composition
import CoinKeys.Text.Decomposition

/-!
# Composed text

Texts that look alike may be spelled in several ways. The composed form (NFC) is one spelling for
all of them, in three steps: every character is decomposed, marks are put in the order of their
combining classes, and each character that composes with the base character before it is merged
into it, unless something between the two blocks it.

Hangul syllables decompose and compose by arithmetic on their code points; all others by table.
-/

namespace CoinKeys.Text

/-! ## Hangul syllables -/

/-- The first syllable. -/
def hangulBase : Nat := 0xAC00

/-- How many vowels there are. -/
def hangulVowels : Nat := 21

/-- How many final consonants there are, counting the absent one. -/
def hangulFinals : Nat := 28

/-- How many syllables there are. -/
def hangulSyllables : Nat := 19 * hangulVowels * hangulFinals

/-- The code points of the first leading consonant, of the first vowel, and of the place before the
first final consonant. -/
def hangulJamo : Nat × Nat × Nat := (0x1100, 0x1161, 0x11A7)

/-- The two or three letters of a syllable. -/
def hangulLetters? (c : Char) : Option (List Char) :=
  let index := c.toNat - hangulBase
  if hangulBase ≤ c.toNat && index < hangulSyllables then
    let (lead, vowel, final) := hangulJamo
    let last := index % hangulFinals
    let letters :=
      [Char.ofNat (lead + index / (hangulVowels * hangulFinals)),
        Char.ofNat (vowel + index / hangulFinals % hangulVowels)]
    some (if last = 0 then letters else letters ++ [Char.ofNat (final + last)])
  else none

/-- The syllable of a leading consonant and a vowel, or of a syllable without final consonant and a
final consonant. -/
def hangulSyllable? (first second : Char) : Option Char :=
  let (lead, vowel, final) := hangulJamo
  if lead ≤ first.toNat && first.toNat < lead + 19 &&
      vowel ≤ second.toNat && second.toNat < vowel + hangulVowels then
    some (Char.ofNat (hangulBase +
      ((first.toNat - lead) * hangulVowels + (second.toNat - vowel)) * hangulFinals))
  else if hangulBase ≤ first.toNat && first.toNat < hangulBase + hangulSyllables &&
      (first.toNat - hangulBase) % hangulFinals == 0 &&
      final < second.toNat && second.toNat < final + hangulFinals then
    some (Char.ofNat (first.toNat + (second.toNat - final)))
  else none

/-! ## The three steps -/

/-- The full canonical decomposition of a character. -/
def decompose (c : Char) : List Char :=
  ((hangulLetters? c).or (decomposition? c)).getD [c]

/-- Put a character in front of ordered text: a mark moves behind the marks of lower classes that
follow it. -/
def placeMark (c : Char) : List Char → List Char
  | [] => [c]
  | next :: rest =>
    if 0 < combiningClass next && combiningClass next < combiningClass c then
      next :: placeMark c rest
    else c :: next :: rest

/-- Order the marks after each base character by combining class, marks of one class as they
stand. -/
def orderMarks (chars : List Char) : List Char :=
  chars.foldr placeMark []

/-- The single character that two characters compose to. -/
def merge? (first second : Char) : Option Char :=
  (hangulSyllable? first second).or (composite? first second)

/-- Compose what follows a base character. `marks` are the marks behind it that did not compose, in
reverse; a character is blocked from the base by a mark of its own class or a higher one. -/
def composeAfter (base : Char) (marks : List Char) : List Char → List Char
  | [] => base :: marks.reverse
  | c :: rest =>
    let blocked := marks.head?.any fun mark => combiningClass c ≤ combiningClass mark
    match if blocked then none else merge? base c with
    | some merged => composeAfter merged marks rest
    | none =>
      if combiningClass c = 0 then base :: marks.reverse ++ composeAfter c [] rest
      else composeAfter base (c :: marks) rest

/-- Compose decomposed and ordered text; marks before the first base character stay as they are. -/
def composeAll : List Char → List Char
  | [] => []
  | c :: rest => if combiningClass c = 0 then composeAfter c [] rest else c :: composeAll rest

/-- The composed form of a text. Text whose characters all lie before the first combining mark,
U+0300, is composed already. -/
def compose (chars : List Char) : List Char :=
  if chars.all fun c => c.toNat < 0x300 then chars
  else composeAll (orderMarks (chars.flatMap decompose))

/-- The composed form (NFC) of a text. -/
def normalize (text : String) : String :=
  String.ofList (compose text.toList)

end CoinKeys.Text
