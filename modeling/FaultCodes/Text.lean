/-
Text as a list of characters, measured in UTF-8 bytes.

Every limit of this library counts bytes and every cut keeps whole characters. `cut n t` is the
longest beginning of `t` of at most `n` bytes; `clip n t` is `t` itself when it fits into `n` bytes,
and otherwise a cut that leaves room for the marker `...[TRUNCATED]`, so that the result fits in
both cases. Positions count bytes too: `lastAt?` says where a part occurs last, and `splitAt?` takes
a text apart at a position, which fails inside a character. `cutBack` cuts by positions: it goes back
from byte `n` to a place between characters and keeps what stands before it. `truncate?` clips in the
same way, the search and the cut each a step of its own.
-/

namespace FaultCodes

/-- text, one character an element -/
abbrev Text := List Char

instance : Coe String Text := ⟨String.toList⟩

namespace Text

/-- bytes of the UTF-8 form -/
def bytes : Text → Nat
  | [] => 0
  | c :: t => c.utf8Size + bytes t

@[simp] theorem bytes_nil : bytes [] = 0 := rfl

@[simp] theorem bytes_cons (c : Char) (t : Text) : bytes (c :: t) = c.utf8Size + bytes t := rfl

@[simp] theorem bytes_append (s t : Text) : bytes (s ++ t) = bytes s + bytes t := by
  induction s with
  | nil => simp
  | cons c s ih => simp [ih, Nat.add_assoc]

/-- the longest beginning of at most `n` bytes -/
def cut : Nat → Text → Text
  | _, [] => []
  | n, c :: t => if c.utf8Size ≤ n then c :: cut (n - c.utf8Size) t else []

/-- A cut fits. -/
theorem bytes_cut_le (n : Nat) (t : Text) : bytes (cut n t) ≤ n := by
  induction t generalizing n with
  | nil => simp [cut]
  | cons c t ih =>
    simp only [cut]
    split
    · have := ih (n - c.utf8Size)
      simp only [bytes_cons]
      omega
    · simp

/-- stands where text was dropped -/
def marker : Text := "...[TRUNCATED]"

/-- the text itself when it has at most `limit` bytes, otherwise cut so that the marker still fits
-/
def clip (limit : Nat) (t : Text) : Text :=
  if bytes t ≤ limit then t else cut (limit - bytes marker) t ++ marker

/-- the pieces with `sep` between neighbours -/
def join (sep : Text) : List Text → Text
  | [] => []
  | [t] => t
  | t :: u :: ts => t ++ sep ++ join sep (u :: ts)

def contains (part : Text) : Text → Bool
  | [] => part.isEmpty
  | c :: t => part.isPrefixOf (c :: t) || contains part t

/-- the byte at which the last occurrence of `part` starts -/
def lastAt? (part : Text) : Text → Option Nat
  | [] => if part.isEmpty then some 0 else none
  | c :: t =>
    match lastAt? part t with
    | some n => some (c.utf8Size + n)
    | none => if part.isPrefixOf (c :: t) then some 0 else none

/-- what stands before byte `n` and what stands from there on; `none` when the text ends before, or a
character lies across -/
def splitAt? : Nat → Text → Option (Text × Text)
  | 0, t => some ([], t)
  | _ + 1, [] => none
  | n + 1, c :: t =>
    if c.utf8Size ≤ n + 1 then
      (splitAt? (n + 1 - c.utf8Size) t).map fun parts => (c :: parts.1, parts.2)
    else none

/-- what stands before the last place between characters, going back from byte `n` -/
def cutBack (t : Text) : Nat → Text
  | 0 => []
  | n + 1 =>
    match splitAt? (n + 1) t with
    | some parts => parts.1
    | none => cutBack t n

/-- whether the text comes apart at byte `n` -/
def isBoundary (t : Text) (n : Nat) : Bool :=
  (splitAt? n t).isSome

/-- the first byte at which the text comes apart, going back from byte `n`; `none` when the search
runs past the start -/
def boundaryFrom? (t : Text) : Nat → Option Nat
  | 0 => if isBoundary t 0 then some 0 else none
  | n + 1 => if isBoundary t (n + 1) then some (n + 1) else boundaryFrom? t n

/-- the text itself when it has at most `limit` bytes, otherwise what stands before the last place
between characters that leaves room for the marker, and the marker; `none` when no such place is
found or the text does not come apart there -/
def truncate? (limit : Nat) (t : Text) : Option Text :=
  if bytes t ≤ limit then some t
  else do
    let place ← boundaryFrom? t (limit - bytes marker)
    let parts ← splitAt? place t
    return parts.1 ++ marker

end Text

end FaultCodes
