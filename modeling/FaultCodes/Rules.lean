/-
Rules: which origin claims which modules.

A rule claims every module that starts with its stem. Of several rules that match, the one with the
longest stem (in bytes) wins, and an earlier one wins over a later one of the same length. Rules are
collected in a `Draft`; `build` turns a draft into a `RuleSet` when no stem is empty or repeated,
and otherwise reports the first rule that is at fault. `RuleSet.Obtainable` says which rule sets can
arise.
-/
import FaultCodes.Origin
import FaultCodes.Text.Inspect

namespace FaultCodes

/-- the modules that start with `stem` belong to `origin` -/
structure Rule where
  stem : Text
  origin : Origin
  deriving DecidableEq, Repr

namespace Rule

def claims (r : Rule) (module : Text) : Bool :=
  r.stem.isPrefixOf module

def inspect (r : Rule) : Text :=
  Inspect.record "OriginRule" [("prefix", Text.quoted r.stem), ("origin", r.origin.name)]

end Rule

/-- why a draft is rejected -/
inductive RuleProblem where
  | emptyStem (origin : Origin)
  | repeatedStem (stem : Text)
  deriving DecidableEq, Repr

namespace RuleProblem

def message : RuleProblem → Text
  | emptyStem o => "Empty module prefix for origin " ++ o.label
  | repeatedStem s => "Module prefix '" ++ s ++ "' declared twice"

def inspect : RuleProblem → Text
  | emptyStem o => Inspect.record "EmptyPrefix" [("origin", o.name)]
  | repeatedStem s => Inspect.record "DuplicatePrefix" [("prefix", Text.quoted s)]

end RuleProblem

/-- rules in use, in the order they were given -/
structure RuleSet where
  rules : List Rule
  deriving DecidableEq, Repr

/-- rules still being collected -/
structure Draft where
  rules : List Rule
  deriving DecidableEq, Repr

namespace RuleSet

/-- the better of the best rule so far and the next one -/
def better (module : Text) (best : Option Rule) (r : Rule) : Option Rule :=
  if r.claims module then
    match best with
    | none => some r
    | some b => if b.stem.bytes < r.stem.bytes then some r else some b
  else best

/-- the origin that claims a module -/
def resolve (s : RuleSet) (module : Text) : Option Origin :=
  (s.rules.foldl (better module) none).map Rule.origin

/-- the rules every deployment starts from -/
def standard : RuleSet :=
  ⟨[⟨"builtin", .builtin⟩, ⟨"psycopg2", .driver⟩, ⟨"psycopg", .driver⟩, ⟨"django", .framework⟩,
    ⟨"db.", .dbLibrary⟩, ⟨"mathesar", .application⟩, ⟨"sqlalchemy", .toolkit⟩]⟩

/-- opens the rule set again for more rules -/
def reopen (s : RuleSet) : Draft :=
  ⟨s.rules⟩

def inspect (s : RuleSet) : Text :=
  Inspect.record "OriginRules" [("rules", Inspect.list (s.rules.map Rule.inspect))]

end RuleSet

namespace Draft

def empty : Draft :=
  ⟨[]⟩

/-- one more rule, at the end -/
def add (d : Draft) (stem : Text) (origin : Origin) : Draft :=
  ⟨d.rules ++ [⟨stem, origin⟩]⟩

/-- the first rule at fault among those after `earlier` -/
def firstProblem (earlier : List Text) : List Rule → Option RuleProblem
  | [] => none
  | r :: rs =>
    if r.stem.isEmpty then some (.emptyStem r.origin)
    else if r.stem ∈ earlier then some (.repeatedStem r.stem)
    else firstProblem (earlier ++ [r.stem]) rs

/-- the rule set of the draft, when no stem is empty or repeated -/
def build (d : Draft) : Except RuleProblem RuleSet :=
  match firstProblem [] d.rules with
  | some problem => .error problem
  | none => .ok ⟨d.rules⟩

/-- the drafts that the operations lead to -/
inductive Obtainable : Draft → Prop where
  | empty : Obtainable .empty
  | standard : Obtainable RuleSet.standard.reopen
  | add {d : Draft} (stem : Text) (origin : Origin) : Obtainable d → Obtainable (d.add stem origin)
  | reopened {d : Draft} {s : RuleSet} : Obtainable d → d.build = .ok s → Obtainable s.reopen

end Draft

/-- the rule sets that the operations lead to -/
inductive RuleSet.Obtainable : RuleSet → Prop where
  | standard : Obtainable .standard
  | built {d : Draft} {s : RuleSet} : d.Obtainable → d.build = .ok s → Obtainable s

end FaultCodes
