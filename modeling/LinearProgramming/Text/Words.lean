/-!
# Lines and words

Texts are lists of characters here. Blanks are the characters with the Unicode
property White_Space, so that a no-break space separates words as a space does.
Both lines and words come from one function, `pieces`, which cuts a text at every
character of a class and loses nothing else.
-/

namespace LinearProgramming.Text

/-- The characters with the Unicode property White_Space. -/
def isBlank (c : Char) : Bool :=
  let n := c.toNat
  (0x09 ≤ n && n ≤ 0x0D) || n = 0x20 || n = 0x85 || n = 0xA0 || n = 0x1680 ||
    (0x2000 ≤ n && n ≤ 0x200A) || n = 0x2028 || n = 0x2029 || n = 0x202F || n = 0x205F ||
    n = 0x3000

/-- Every blank of the ASCII range is a blank here. -/
theorem isBlank_of_isWhitespace {c : Char} (h : c.isWhitespace = true) : isBlank c = true := by
  simp only [Char.isWhitespace, Bool.or_eq_true, decide_eq_true_eq] at h
  rcases h with ((h | h) | h) | h <;> subst h <;> decide

/-- The parts between the characters of a class, empty ones included. There is always
one part more than there are such characters. -/
def pieces (separates : Char → Bool) (text : List Char) : List (List Char) :=
  text.foldr
    (fun c parts =>
      if separates c then [] :: parts
      else match parts with
        | [] => [[c]]
        | part :: rest => (c :: part) :: rest)
    [[]]

@[simp] theorem pieces_nil (separates : Char → Bool) : pieces separates [] = [[]] := rfl

theorem pieces_cons (separates : Char → Bool) (c : Char) (text : List Char) :
    pieces separates (c :: text) =
      if separates c then [] :: pieces separates text
      else match pieces separates text with
        | [] => [[c]]
        | part :: rest => (c :: part) :: rest := rfl

/-- The words of a text: its longest parts without a blank. -/
def words (text : List Char) : List (List Char) :=
  (pieces isBlank text).filter (· ≠ [])

/-- The text without the blanks at its start. -/
def trimStart (text : List Char) : List Char := text.dropWhile isBlank

/-- The text without the blanks at its start and at its end. -/
def trim (text : List Char) : List Char :=
  ((trimStart text).reverse.dropWhile isBlank).reverse

/-- The line without a carriage return at its end. -/
def withoutReturn (line : List Char) : List Char :=
  if line.getLast? = some '\r' then line.dropLast else line

/-- The lines of a text. A line ends at a line feed, or at a carriage return followed by
a line feed. What follows the last line feed is a line only if there is something. -/
def lines (text : List Char) : List (List Char) :=
  let parts := pieces (· = '\n') text
  let ended := parts.dropLast.map withoutReturn
  match parts.getLast? with
  | some (c :: rest) => ended ++ [c :: rest]
  | _ => ended

/-- The lower-case form of the ASCII letters. All other characters stay as they are. -/
def lowerCase (text : List Char) : List Char := text.map Char.toLower

end LinearProgramming.Text
