/-
Listings: code lists as text files, and the block of declarations made from one.

A listing has one entry a line, a name and a code. Lines that start with `#` are comments, and of
these the ones that start with `#!` are documentation for the block. `Listing.read` reads a listing
or reports the first line at fault, with its number; `Listing.block` writes the block, in which the
name for unknown names stands as a constant. A listing is taken as a whole or not at all: `expand`
leaves the text that is there already alone unless all lines are good. `expandOnto` does the same
with an output that is written piece by piece.
-/
import FaultCodes.Text.Blank
import FaultCodes.CodeTable

namespace FaultCodes

/-- the documentation lines and the entries of a listing, each in file order -/
structure Listing where
  docs : List Text
  entries : List Entry
  deriving DecidableEq

inductive LineProblem where
  | shape (line : Text)
  | name (field : Text)
  | code (field : Text)
  deriving DecidableEq, Repr

inductive ListingProblem where
  | line (number : Nat) (problem : LineProblem)
  | noEntries
  deriving DecidableEq, Repr

def LineProblem.message : LineProblem → Text
  | shape line => "expected `Name code`, got " ++ Text.quoted line
  | name field => "invalid type name " ++ Text.quoted field
  | code field => "invalid code " ++ Text.quoted field

/-- the words for it, after the path of the file -/
def ListingProblem.message (path : Text) : ListingProblem → Text
  | line number problem => path ++ ":" ++ Decimal.ofNat number ++ ": " ++ problem.message
  | noEntries => path ++ ": no entries"

namespace Listing

def isNameChar (c : Char) : Bool :=
  c.isAlphanum || c = '_'

/-- reads the two fields of an entry line -/
def readEntry (line : Text) : Except LineProblem Entry :=
  match Text.fields line with
  | [name, code] =>
    if name.all isNameChar then
      match Decimal.readInt32 code with
      | .ok value => .ok (name, value)
      | .error _ => .error (.code code)
    else .error (.name name)
  | _ => .error (.shape line)

/-- what a trimmed line is -/
inductive Line where
  | doc (text : Text)
  | skipped
  | entry (text : Text)
  deriving DecidableEq, Repr

/-- sorts a trimmed line; a documentation line loses one leading space -/
def Line.ofTrimmed : Text → Line
  | '#' :: '!' :: ' ' :: t => .doc t
  | '#' :: '!' :: t => .doc t
  | '#' :: _ => .skipped
  | [] => .skipped
  | t => .entry t

/-- reads lines from number `n` on -/
def readLines : Nat → List Text → Except ListingProblem Listing
  | _, [] => .ok ⟨[], []⟩
  | n, l :: ls =>
    match Line.ofTrimmed (Text.trim l) with
    | .doc text => do
      let rest ← readLines (n + 1) ls
      return ⟨text :: rest.docs, rest.entries⟩
    | .skipped => readLines (n + 1) ls
    | .entry text =>
      match readEntry text with
      | .error problem => .error (.line n problem)
      | .ok entry => do
        let rest ← readLines (n + 1) ls
        return ⟨rest.docs, entry :: rest.entries⟩

/-- reads a listing, which has at least one entry -/
def read (text : Text) : Except ListingProblem Listing := do
  let listing ← readLines 1 (Text.lines text)
  if listing.entries.isEmpty then .error .noEntries else .ok listing

def docLine (doc : Text) : Text :=
  if doc.isEmpty then "    ///\n" else "    /// " ++ doc ++ "\n"

/-- a name in the block; the one for unknown names stands as a constant -/
def keyText (name : Text) : Text :=
  if name = unknownKey then "UNKNOWN_KEY".toList else Text.quoted name

def entryLine (entry : Entry) : Text :=
  "        " ++ keyText entry.1 ++ " => " ++
    Decimal.ofInt entry.2.toInt ++ ",\n"

/-- the block of declarations -/
def block (staticName origin : Text) (l : Listing) : Text :=
  "define_code_table! \x7b\n" ++ l.docs.flatMap docLine ++ "    pub static " ++ staticName ++
    ": Origin::" ++ origin ++ " => \x7b\n" ++ l.entries.flatMap entryLine ++ "    \x7d\n\x7d\n\n"

/-- appends the block of a listing to what is there already -/
def expand (out text staticName origin : Text) : Except ListingProblem Text :=
  (read text).map fun l => out ++ l.block staticName origin

/-! ## Onto an output -/

/-- works on an output and may fail; what has been written by then stays written -/
abbrev Expansion (α : Type) := ExceptT ListingProblem (StateM Text) α

/-- how it ends on an output, and the output then -/
def Expansion.outcome {α : Type} (e : Expansion α) (out : Text) : Except ListingProblem α × Text :=
  e.run.run out

def emit (piece : Text) : Expansion Unit :=
  modify (· ++ piece)

/-- writes a block, one line after the other -/
def emitBlock (staticName origin : Text) (l : Listing) : Expansion Unit := do
  emit "define_code_table! \x7b\n"
  l.docs.forM fun doc => emit (docLine doc)
  emit ("    pub static " ++ staticName ++ ": Origin::" ++ origin ++ " => \x7b\n")
  l.entries.forM fun e => emit (entryLine e)
  emit "    \x7d\n\x7d\n\n"

/-- reads a listing and writes its block -/
def expandOnto (text staticName origin : Text) : Expansion Unit := do
  let l ← read text
  emitBlock staticName origin l

end Listing

end FaultCodes
