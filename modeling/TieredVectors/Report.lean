import TieredVectors.Text.LineBreak
import TieredVectors.Text.Width

/-!
# Reports

Every failure of the library is a value that says what went wrong; a `Report` is what a reader is
told about it: a message, a stable code and, for some failures, advice.

A report is set in lines of bounded width. Its texts are cut into words where a line may be broken,
the words after their hyphens, and a part that is too wide for a line wherever it has to be; then
each line takes as many parts as fit. The spaces between the last part of a line and the next line
are dropped.

All these cuts are given in one way: each item of a list is marked with whether a group ends after
it, and `Text.groups` reads the groups off.
-/

namespace TieredVectors

namespace Text

/-- The groups of a list whose items say whether a group ends after them. -/
def groups {α : Type} : List (α × Bool) → List (List α)
  | [] => []
  | (a, ends) :: rest =>
    if ends then [a] :: groups rest
    else
      match groups rest with
      | [] => [[a]]
      | g :: gs => (a :: g) :: gs

/-- A part of a line: characters, and the number of spaces after them. -/
structure Fragment where
  /-- The characters. -/
  text : List Char
  /-- The number of spaces after them. -/
  spaces : Nat
deriving DecidableEq, Repr

namespace Fragment

/-- The number of columns of the characters. -/
def width (f : Fragment) : Nat := Text.width f.text

/-- A fragment of the characters of `s`, of which the spaces at the end are counted. -/
def ofWord (s : List Char) : Fragment where
  text := (s.reverse.dropWhile (· == ' ')).reverse
  spaces := (s.reverse.takeWhile (· == ' ')).length

/-- The fragments for the pieces of a text with `spaces` spaces after it. -/
def ofPieces (spaces : Nat) : List (List Char) → List Fragment
  | [] => [⟨[], spaces⟩]
  | [piece] => [⟨piece, spaces⟩]
  | piece :: rest => ⟨piece, 0⟩ :: ofPieces spaces rest

end Fragment

/-! ## Words -/

/-- Marks with the first one that is set taken back. -/
def clearFirst : List Bool → List Bool
  | [] => []
  | true :: rest => false :: rest
  | false :: rest => false :: clearFirst rest

/-- Marks with the last one that is set taken back. -/
def clearLast (marks : List Bool) : List Bool := (clearFirst marks.reverse).reverse

/-- For each character that is shown, whether a word ends after it. A break after a hyphen, soft or
not, is left to the cutting of words, and the last break that remains is not one between two
words. -/
def wordEnds (s : List Char) : List Bool :=
  clearLast ((s.zip (lineBreaks s)).map fun (c, ends) => ends && c ≠ '-' && c ≠ '\u00ad')

/-- Hands the marks of the shown characters to the characters of a text; a word does not end inside
or after a terminal sequence. -/
def markWords : List (Char × Bool) → List Bool → List (Char × Bool)
  | [], _ => []
  | (c, true) :: rest, ends :: more => (c, ends) :: markWords rest more
  | (c, _) :: rest, marks => (c, false) :: markWords rest marks

/-- The words of a text. -/
def words (s : List Char) : List Fragment :=
  (groups (markWords (markShown .outside s) (wordEnds (shown s)))).map Fragment.ofWord

/-- The characters of a word with a mark after each hyphen that stands between letters or digits;
`before` says whether one stands before the first character. -/
def markHyphens (before : Bool) : List Char → List (Char × Bool)
  | [] => []
  | c :: rest =>
    (c, c = '-' && before && rest.head?.any isAlphanumeric) :: markHyphens (isAlphanumeric c) rest

/-- The parts of a word, which end after its hyphens. -/
def Fragment.parts (f : Fragment) : List Fragment :=
  ofPieces f.spaces (groups (markHyphens false f.text))

/-- The characters of a text with a mark wherever the next one that is shown would take more than
`limit` columns; `used` is the width before the first one. -/
def markFull (limit used : Nat) : List (Char × Bool) → List (Char × Bool)
  | [] => []
  | (c, visible) :: rest =>
    let filled := used + if visible then charWidth c else 0
    let full :=
      match rest with
      | (next, true) :: _ => 0 < filled && limit < filled + charWidth next
      | _ => false
    (c, full) :: markFull limit (if full then 0 else filled) rest

/-- Cuts a part that is wider than `limit` into pieces that fit. -/
def Fragment.cut (limit : Nat) (f : Fragment) : List Fragment :=
  if limit < f.width then
    ofPieces f.spaces (groups (markFull limit 0 (markShown .outside f.text)))
  else [f]

/-! ## Lines -/

/-- Fragments with a mark wherever the next one does not fit into the line; `used` is the width of
the line before the first one. -/
def markLines (limit used : Nat) : List Fragment → List (Fragment × Bool)
  | [] => []
  | f :: rest =>
    let filled := used + f.width + f.spaces
    let full :=
      match rest with
      | next :: _ => decide (limit < filled + next.width)
      | [] => false
    (f, full) :: markLines limit (if full then 0 else filled) rest

/-- The characters of a line, without the spaces at its end. -/
def lineText : List Fragment → List Char
  | [] => []
  | [f] => f.text
  | f :: rest => f.text ++ List.replicate f.spaces ' ' ++ lineText rest

/-- Lines of at most `limit` columns for a text without line ends. An empty text is one line. -/
def wrapLine (limit : Nat) (s : List Char) : List (List Char) :=
  let fragments := ((words s).flatMap Fragment.parts).flatMap (Fragment.cut limit)
  match groups (markLines limit 0 fragments) with
  | [] => [[]]
  | lines => lines.map lineText

/-- The lines of a text, of which each but the last ended with a line feed. -/
def lines : List Char → List (List Char)
  | [] => [[]]
  | c :: rest =>
    if c = '\n' then [] :: lines rest
    else
      match lines rest with
      | [] => [[c]]
      | l :: ls => (c :: l) :: ls

/-- How a text is set: the width of the lines, and the margins of the first line and of the others,
which are of one width. -/
structure Layout where
  /-- The number of columns, the margin among them. -/
  columns : Nat
  /-- The margin of the first line. -/
  first : String
  /-- The margin of the other lines. -/
  others : String
deriving DecidableEq, Repr

namespace Layout

/-- Lines with their margins. -/
def withMargins (p : Layout) : List (List Char) → List String
  | [] => []
  | l :: rest => (p.first ++ String.ofList l) :: rest.map fun l => p.others ++ String.ofList l

/-- The text in lines, each with its margin and a line feed at its end. -/
def fill (p : Layout) (s : String) : String :=
  let limit := p.columns - width p.others.toList
  String.join ((p.withMargins ((lines s.toList).flatMap (wrapLine limit))).map (· ++ "\n"))

end Layout

end Text

/-! ## What is told -/

/-- What is told about a failure. -/
structure Report where
  /-- The message. -/
  message : String
  /-- A code that identifies the kind of failure. -/
  code : String
  /-- Advice, where there is some. -/
  help : Option String := none
deriving DecidableEq, Repr

namespace Report

/-- How the message is set: after a cross, with a bar before each further line. -/
def messageLayout : Text.Layout := ⟨198, "  x ", "  | "⟩

/-- How the advice is set: after its heading, with further lines below its first word. -/
def helpLayout : Text.Layout := ⟨198, "  help: ", "        "⟩

/-- The report as plain text: the code, the message and the advice, in lines of bounded width. -/
def text (r : Report) : String :=
  r.code ++ "\n\n" ++ messageLayout.fill r.message ++ (r.help.map helpLayout.fill).getD ""

end Report

end TieredVectors
