/-
Type paths: the module a type was defined in and its simple name.

A qualified path is split at its last separator, `.` or `::`, whichever starts later; without a
separator it is a bare name. In print the separator is `::` when the module has one already, and `.`
otherwise.

`ofQualified` goes through the path once. `slice?` reads the same path by searching for the two
separators and slicing it at byte positions.
-/
import FaultCodes.Text.Inspect

namespace FaultCodes

/-- module and simple name of a type -/
structure TypePath where
  module : Text
  name : Text
  deriving DecidableEq, Repr

namespace TypePath

/-- splits at the last separator, `none` when there is none -/
def split? : Text → Option (Text × Text)
  | [] => none
  | '.' :: t =>
    match split? t with
    | some (m, n) => some ('.' :: m, n)
    | none => some ([], t)
  | ':' :: ':' :: t =>
    match split? (':' :: t) with
    | some (m, n) => some (':' :: m, n)
    | none => some ([], t)
  | c :: t => (split? t).map fun (m, n) => (c :: m, n)

def ofQualified (path : Text) : TypePath :=
  match split? path with
  | some (m, n) => ⟨m, n⟩
  | none => ⟨[], path⟩

/-- the separators of a qualified path -/
inductive Separator where
  | dot
  | colons
  deriving DecidableEq, Repr

namespace Separator

def text : Separator → Text
  | dot => "."
  | colons => "::"

/-- the bytes at which the last occurrence in a path starts and ends -/
def last? (s : Separator) (path : Text) : Option (Nat × Nat) :=
  (Text.lastAt? s.text path).map fun start => (start, start + s.text.bytes)

end Separator

/-- the bytes at which the last separator starts and ends; of two the one that starts later -/
def lastSeparator? (path : Text) : Option (Nat × Nat) :=
  match Separator.dot.last? path, Separator.colons.last? path with
  | some d, some c => some (if c.1 < d.1 then d else c)
  | d, c => d.or c

/-- reads a qualified path by two slices; `none` when one of them would cut a character apart -/
def slice? (path : Text) : Option TypePath :=
  match lastSeparator? path with
  | some ends => do
    let before ← Text.splitAt? ends.1 path
    let behind ← Text.splitAt? ends.2 path
    return ⟨before.1, behind.2⟩
  | none => some ⟨[], path⟩

/-- the path of a type by its full name, type arguments dropped -/
def ofTypeName (full : Text) : TypePath :=
  ofQualified (full.takeWhile (· ≠ '<'))

/-- what stands between module and name in print -/
def separator (p : TypePath) : Text :=
  if Text.contains "::" p.module then "::" else "."

def display (p : TypePath) : Text :=
  if p.module.isEmpty then p.name else p.module ++ p.separator ++ p.name

def inspect (p : TypePath) : Text :=
  Inspect.record "ErrorIdentity" [("module", Text.quoted p.module), ("name", Text.quoted p.name)]

end TypePath

end FaultCodes
