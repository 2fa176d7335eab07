/-
Lines, trimming and fields.

A line ends at a line feed, and a carriage return before that line feed goes with it; what follows
the last line feed is a line only when it is not empty. Trimming and fields go by white space in the
sense of `Text.isBlank`.
-/
import FaultCodes.Text.Control

namespace FaultCodes.Text

/-- puts a character in front of the first line -/
def pushFirst (c : Char) : List Text → List Text
  | [] => [[c]]
  | l :: ls => (c :: l) :: ls

/-- the lines, without their ends -/
def lines : Text → List Text
  | [] => []
  | '\n' :: t => [] :: lines t
  | '\r' :: '\n' :: t => [] :: lines t
  | c :: t => pushFirst c (lines t)

def trim (t : Text) : Text :=
  ((t.dropWhile isBlank).reverse.dropWhile isBlank).reverse

/-- the maximal runs of characters that are not white space -/
def fields : Text → List Text
  | [] => []
  | c :: t =>
    if isBlank c then fields t
    else match t with
      | [] => [[c]]
      | d :: _ => if isBlank d then [c] :: fields t else pushFirst c (fields t)

end FaultCodes.Text
