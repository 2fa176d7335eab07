/-
Two more readers of code lists, each independent of `Listing.read`.

`plainEntries?` takes the entry lines of a listing and pays no attention to anything else: it knows
nothing of documentation, line numbers or which characters a name may have. `blockEntries?` reads
the entries of a block of declarations back, the constant for unknown names as their name.
-/
import FaultCodes.Listing

namespace FaultCodes.Listing

/-- whether a trimmed line holds an entry: it is neither empty nor a comment -/
def isEntryLine : Text → Bool
  | [] => false
  | c :: _ => c ≠ '#'

/-- the trimmed lines that hold entries -/
def entryLines (text : Text) : List Text :=
  ((Text.lines text).map Text.trim).filter isEntryLine

/-- a name and a code, and nothing else -/
def plainEntry? (line : Text) : Option Entry :=
  match Text.fields line with
  | [name, code] => (Decimal.readInt32 code).toOption.map fun value => (name, value)
  | _ => none

def plainEntries? (text : Text) : Option (List Entry) :=
  (entryLines text).mapM plainEntry?

def unquoted? : Text → Option Text
  | '"' :: t =>
    match t.reverse with
    | '"' :: r => some r.reverse
    | _ => none
  | _ => none

/-- the name that stands in a block -/
def keyName? (key : Text) : Option Text :=
  if key = "UNKNOWN_KEY".toList then some unknownKey else unquoted? key

def withoutComma? (t : Text) : Option Text :=
  match t.reverse with
  | ',' :: r => some r.reverse
  | _ => none

def blockEntry? (line : Text) : Option Entry :=
  match Text.fields line with
  | [key, arrow, code] =>
    if arrow = "=>".toList then do
      let name ← keyName? key
      let digits ← withoutComma? code
      let value ← (Decimal.readInt32 digits).toOption
      return (name, value)
    else none
  | _ => none

def isTableHead (line : Text) : Bool :=
  "    pub static ".toList.isPrefixOf line

def isTableEnd (line : Text) : Bool :=
  line = "    \x7d".toList

/-- the entries of a block: the lines between the head of its table and the end of it -/
def blockEntries? (text : Text) : Option (List Entry) :=
  match (Text.lines text).dropWhile fun line => !isTableHead line with
  | _ :: body => (body.takeWhile fun line => !isTableEnd line).mapM blockEntry?
  | [] => none

end FaultCodes.Listing
