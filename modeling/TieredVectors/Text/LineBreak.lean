import TieredVectors.Text.BreakClass

/-!
# Line breaks

Where a line may be broken. A break between two characters depends on the class of the second, on
what was read before it, and in two rules on what follows: a closing quotation mark is held where
something after it shows that it closes, and two letters are held where a final virama after them
makes one syllable of them. What was read before is the last character that is neither a space nor a
mark, the one before that, and whether spaces or marks came since.

A mark belongs to the character before it. It stands for a letter where there is none, which is at
the start, after the end of a line and after a space.
-/

namespace TieredVectors.Text

namespace BreakClass

/-- Whether a line ends after the character. -/
def endsLine (k : BreakClass) : Bool := k ∈ [mandatory, carriageReturn, lineFeed, nextLine]

/-- Whether the character may belong to the one before it. -/
def isMark (k : BreakClass) : Bool := k ∈ [mark, joiner]

/-- Whether the character is a letter of some alphabet. -/
def isLetter : BreakClass → Bool
  | letter | hebrew | dottedCircle | unspaced _ => true
  | _ => false

/-- Whether the character is a quotation mark. -/
def isQuotation (k : BreakClass) : Bool := k ∈ [quotation, initialQuotation, finalQuotation]

/-- Whether the character may be joined to a syllable by a virama. -/
def isAksara (k : BreakClass) : Bool := k ∈ [aksara, dottedCircle]

/-- Whether the character may begin a syllable that ends in a virama. -/
def isSyllabic (k : BreakClass) : Bool := k ∈ [aksara, dottedCircle, aksaraStart]

/-- Whether the character opens a bracket. -/
def isOpening (k : BreakClass) : Bool := k ∈ [opening, wideOpening]

/-- Whether the character closes a bracket. -/
def isClosing (k : BreakClass) : Bool := k ∈ [closing, parenthesis]

/-- Whether the character stands before or after a number. -/
def isSign (k : BreakClass) : Bool := k ∈ [afterNumber, beforeNumber]

/-- Whether the character is set like an ideograph. -/
def isPictorial (k : BreakClass) : Bool :=
  k ∈ [ideograph, futurePictograph, emojiBase, emojiModifier]

/-- Whether the character is a Hangul syllable or part of one. -/
def isHangul (k : BreakClass) : Bool :=
  k ∈ [leadingJamo, vowelJamo, trailingJamo, openSyllable, closedSyllable]

/-- Whether two neighbours belong to one number. -/
def holdsNumber (a b : BreakClass) : Bool :=
  ((a.isClosing || a = digit) && b.isSign) || (a.isSign && (b.isOpening || b = digit)) ||
    (a ∈ [hyphen, separator, digit, slash] && b = digit)

/-- Whether two neighbours belong to one Hangul syllable or to a syllable and its sign. -/
def holdsHangul (a b : BreakClass) : Bool :=
  (a = leadingJamo && b ∈ [leadingJamo, vowelJamo, openSyllable, closedSyllable]) ||
    (a ∈ [vowelJamo, openSyllable] && b ∈ [vowelJamo, trailingJamo]) ||
    (a ∈ [trailingJamo, closedSyllable] && b = trailingJamo) ||
    (a.isHangul && b = afterNumber) || (a = beforeNumber && b.isHangul)

/-- Whether two neighbours belong to one word. -/
def holdsWord (a b : BreakClass) : Bool :=
  (a.isLetter && (b.isLetter || b = digit || b.isSign || b = opening)) ||
    (b.isLetter && (a = digit || a.isSign || a = separator || a = parenthesis)) ||
    (a = digit && b = opening) || (a = parenthesis && b = digit)

/-- Whether there is no break between two neighbours with nothing between them. -/
def holds (a b : BreakClass) : Bool :=
  a.isQuotation || b.isQuotation ||
    (a ≠ object && b ≠ object &&
      (b ∈ [breakAfter, hyphen, nonstarter, leader] || a = breakBefore ||
        (a = slash && b = hebrew) || (a = beforeNumber && b.isPictorial) ||
        (a.isPictorial && b = afterNumber) ||
        (a ∈ [emojiBase, futurePictograph] && b = emojiModifier) ||
        (a = aksaraBefore && b.isSyllabic) || (a.isSyllabic && b ∈ [virama, finalVirama]) ||
        a.holdsWord b || a.holdsNumber b || a.holdsHangul b))

/-- Whether there is no break between two neighbours even where spaces stand between them. -/
def holdsOverSpaces (a b : BreakClass) : Bool :=
  b ∈ [wordJoiner, closing, parenthesis, exclamation, separator, slash] || a.isOpening ||
    (a.isClosing && b = nonstarter) || (a = dash && b = dash)

/-- The class of the first character of a text that is no mark. -/
def first? (ks : List BreakClass) : Option BreakClass := (ks.dropWhile isMark).head?

/-- Whether a quotation mark before `rest` closes: the text ends there, or what follows stands after
a word. -/
def closesBefore (rest : List BreakClass) : Bool :=
  (first? rest).all fun k => k.endsLine || k.isQuotation ||
    k ∈ [space, zeroSpace, glue, wordJoiner, closing, parenthesis, exclamation, separator, slash]

end BreakClass

/-- What was read before a place in a text. -/
structure BreakState where
  /-- The last character that is neither a mark nor a space. Where there is none, because a line
  begins with spaces, it is the space. -/
  base : BreakClass
  /-- What stands right before that character, if it does not begin a line. -/
  before : Option BreakClass := none
  /-- Whether marks follow that character. -/
  marked : Bool := false
  /-- Whether spaces follow that character. -/
  spaced : Bool := false
  /-- Whether the last character is a joiner. -/
  joined : Bool := false
  /-- Whether that character ends a pair that names a region. -/
  paired : Bool := false
deriving DecidableEq, Repr

namespace BreakState

/-- The state after the first character of a line. -/
def start (k : BreakClass) : BreakState :=
  if k = .space then { base := .space, spaced := true }
  else if k.isMark then { base := .letter, marked := true, joined := k = .joiner }
  else { base := k }

/-- Whether a mark that comes next has no character to belong to. -/
def isolates (st : BreakState) : Bool :=
  st.spaced || st.base.endsLine || st.base = .zeroSpace

/-- The state after one more character. -/
def next (st : BreakState) (k : BreakClass) : BreakState :=
  if st.base.endsLine then start k
  else if k = .space then { st with spaced := true, joined := false }
  else if k.isMark then
    if st.isolates then start k else { st with marked := true, joined := k = .joiner }
  else
    { base := k
      before := some (if st.spaced then .space else st.base)
      paired := k = .regional && st.base = .regional && !st.spaced && !st.paired }

/-- Whether the base is a quotation mark that opens: it begins a line, or what stands before it
comes before a word. -/
def opensQuotation (st : BreakState) : Bool :=
  st.base = .initialQuotation && st.before.all fun k => k.isQuotation || k.isOpening ||
    k ∈ [.glue, .space, .zeroSpace]

/-- Whether a letter of one language follows right after a letter of another, both written without
spaces. -/
def changesLanguage (st : BreakState) (k : BreakClass) : Bool :=
  match st.base, k with
  | .unspaced l, .unspaced m => !st.marked && !st.spaced && l ≠ m
  | _, _ => false

/-- Whether there is no break before a character of class `k` even where spaces stand before it;
`rest` is what follows. -/
def holdsOverSpaces (st : BreakState) (k : BreakClass) (rest : List BreakClass) : Bool :=
  st.base.holdsOverSpaces k || st.opensQuotation ||
    (k = .finalQuotation && BreakClass.closesBefore rest)

/-- Whether a letter of class `k` is joined to the syllable before it, by the virama that is the
base or by a final virama at the head of `rest`. -/
def joinsSyllable (st : BreakState) (k : BreakClass) (rest : List BreakClass) : Bool :=
  (st.base = .virama && st.before.any BreakClass.isAksara && k.isAksara) ||
    (st.base.isSyllabic && k.isSyllabic && BreakClass.first? rest = some .finalVirama)

/-- Whether there is no break before a character of class `k` that comes right after the base;
`rest` is what follows. -/
def holdsNext (st : BreakState) (k : BreakClass) (rest : List BreakClass) : Bool :=
  st.base ∈ [.wordJoiner, .glue] ||
    (k = .glue && st.base ≠ .breakAfter && st.base ≠ .hyphen) || st.base.holds k ||
    (st.before = some .hebrew && st.base ∈ [.hyphen, .breakAfter] && k ∉ [.object, .hebrew]) ||
    (st.base = .regional && k = .regional && !st.paired) || st.joinsSyllable k rest

/-- Whether a line may be broken before a character of class `k`; `rest` is what follows. -/
def breaksBefore (st : BreakState) (k : BreakClass) (rest : List BreakClass) : Bool :=
  if st.base.endsLine then !(st.base = .carriageReturn && k = .lineFeed)
  else if k.endsLine || k = .space || k = .zeroSpace then false
  else if st.base = .zeroSpace then true
  else if st.joined then false
  else if k.isMark && !st.isolates then false
  else
    let k := if k.isMark then .letter else k
    st.changesLanguage k ||
      !(st.holdsOverSpaces k rest || (!st.spaced && st.holdsNext k rest))

/-- For each character from the one that was read last, whether a line may be broken after it. The
end of a text is such a place. -/
def breaksAfter (st : BreakState) : List BreakClass → List Bool
  | [] => [true]
  | k :: rest => st.breaksBefore k rest :: breaksAfter (st.next k) rest

end BreakState

/-- For each character of a text, whether a line may be broken after it. -/
def lineBreaks (s : List Char) : List Bool :=
  match s.map BreakClass.ofChar with
  | [] => []
  | k :: rest => (BreakState.start k).breaksAfter rest

end TieredVectors.Text
