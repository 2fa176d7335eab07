/-
Display settings of a column, and their JSON form.

Only table and column number have to be given; every other field has a value it takes when it is
left out, the same that `ColumnSettings.new` gives it. The bounds on fraction digits stand in the
same object and are checked as a pair.
-/
import FaultCodes.Record.Layout

namespace FaultCodes

open FaultCodes.Record

/-- the widget for boolean input -/
inductive BoolInput where
  | dropdown
  | checkbox
  deriving DecidableEq, Repr

namespace BoolInput

def all : List BoolInput :=
  [dropdown, checkbox]

def name : BoolInput → Text
  | dropdown => "dropdown"
  | checkbox => "checkbox"

def inspect : BoolInput → Text
  | dropdown => "Dropdown"
  | checkbox => "Checkbox"

def codec : Codec BoolInput :=
  Variants.codec ⟨all, name⟩ false

end BoolInput

/-- where the currency symbol stands -/
inductive CurrencyLocation where
  | afterMinus
  | endWithSpace
  deriving DecidableEq, Repr

namespace CurrencyLocation

def all : List CurrencyLocation :=
  [afterMinus, endWithSpace]

def name : CurrencyLocation → Text
  | afterMinus => "after-minus"
  | endWithSpace => "end-with-space"

def inspect : CurrencyLocation → Text
  | afterMinus => "AfterMinus"
  | endWithSpace => "EndWithSpace"

def codec : Codec CurrencyLocation :=
  Variants.codec ⟨all, name⟩ false

end CurrencyLocation

namespace FracDigits

/-- the two bounds as a record, not checked yet -/
def fields : Shape (Option UInt32 × Option UInt32) where
  name := "FracDigitsFields"
  layout :=
    Layout.pure Prod.mk
      |>.field (.defaulted minField (.nullable .uint32) .none)
      |>.field (.defaulted maxField (.nullable .uint32) .none)
  write bounds := .obj
    [(minField, (Codec.nullable .uint32).write bounds.1),
     (maxField, (Codec.nullable .uint32).write bounds.2)]

/-- checks bounds that were read -/
def ofBounds (bounds : Option UInt32 × Option UInt32) : Except Problem FracDigits :=
  (new bounds.1 bounds.2).mapError .fracDigits

/-- members in declaration order -/
def members (d : FracDigits) : Json.Members :=
  [(minField, (Codec.nullable .uint32).write d.min),
   (maxField, (Codec.nullable .uint32).write d.max)]

def readMembers (ms : Json.Members) : Except Problem FracDigits := do
  ofBounds (← fields.layout.readMembers ms)

def codec : Codec FracDigits where
  read j := do ofBounds (← fields.read j)
  write d := .obj d.members
  check := fields.check

end FracDigits

/-- display settings of one column of a table -/
structure ColumnSettings where
  tableOid : Int64
  attnum : Int64
  boolInput : Option BoolInput
  boolTrue : Text
  boolFalse : Text
  fracDigits : FracDigits
  showAsPercentage : Bool
  currencySymbol : Text
  currencyLocation : CurrencyLocation
  timeFormat : Option Text
  dateFormat : Option Text
  durationMin : Option Text
  durationMax : Option Text
  durationShowUnits : Bool
  deriving DecidableEq, Repr

namespace ColumnSettings

/-- the settings a column starts with -/
def new (tableOid attnum : Int64) : ColumnSettings where
  tableOid := tableOid
  attnum := attnum
  boolInput := none
  boolTrue := "True"
  boolFalse := "False"
  fracDigits := .none
  showAsPercentage := false
  currencySymbol := "$"
  currencyLocation := .afterMinus
  timeFormat := none
  dateFormat := none
  durationMin := none
  durationMax := none
  durationShowUnits := true

/-- the same settings with other bounds, when the bounds are accepted -/
def withFracDigits (s : ColumnSettings) (min max : Option UInt32) :
    Except FracDigitsProblem ColumnSettings :=
  (FracDigits.new min max).map fun d => { s with fracDigits := d }

/-- the settings from the fields of the record, the bounds last -/
def ofFields (tableOid attnum : Int64) (boolInput : Option BoolInput) (boolTrue boolFalse : Text)
    (showAsPercentage : Bool) (currencySymbol : Text) (currencyLocation : CurrencyLocation)
    (timeFormat dateFormat durationMin durationMax : Option Text) (durationShowUnits : Bool)
    (fracDigits : FracDigits) : ColumnSettings :=
  { tableOid, attnum, boolInput, boolTrue, boolFalse, fracDigits, showAsPercentage, currencySymbol,
    currencyLocation, timeFormat, dateFormat, durationMin, durationMax, durationShowUnits }

/-- the fields other than the bounds -/
def own : Layout (FracDigits → ColumnSettings) :=
  Layout.pure ofFields
    |>.field (.required "table_oid" .int64)
    |>.field (.required "attnum" .int64)
    |>.field (.defaulted "bool_input" (.nullable BoolInput.codec) none)
    |>.field (.defaulted "bool_true" .text "True")
    |>.field (.defaulted "bool_false" .text "False")
    |>.field (.defaulted "num_show_as_perc" .bool false)
    |>.field (.defaulted "mon_currency_symbol" .text "$")
    |>.field (.defaulted "mon_currency_location" CurrencyLocation.codec .afterMinus)
    |>.field (.defaulted "time_format" (.nullable .text) none)
    |>.field (.defaulted "date_format" (.nullable .text) none)
    |>.field (.defaulted "duration_min" (.nullable .text) none)
    |>.field (.defaulted "duration_max" (.nullable .text) none)
    |>.field (.defaulted "duration_show_units" .bool true)

/-- members before the bounds -/
def membersBefore (s : ColumnSettings) : Json.Members :=
  [("table_oid", Codec.int64.write s.tableOid), ("attnum", Codec.int64.write s.attnum),
   ("bool_input", .ofText? (s.boolInput.map BoolInput.name)), ("bool_true", .str s.boolTrue),
   ("bool_false", .str s.boolFalse)]

/-- members after the bounds -/
def membersAfter (s : ColumnSettings) : Json.Members :=
  [("num_show_as_perc", .bool s.showAsPercentage), ("mon_currency_symbol", .str s.currencySymbol),
   ("mon_currency_location", .str s.currencyLocation.name), ("time_format", .ofText? s.timeFormat),
   ("date_format", .ofText? s.dateFormat), ("duration_min", .ofText? s.durationMin),
   ("duration_max", .ofText? s.durationMax), ("duration_show_units", .bool s.durationShowUnits)]

/-- members in declaration order -/
def members (s : ColumnSettings) : Json.Members :=
  s.membersBefore ++ s.fracDigits.members ++ s.membersAfter

/-- the record, which shares its object with the bounds -/
def shape : Flattened FracDigits ColumnSettings where
  name := "ColumnMetadata"
  own := own
  innerNames := FracDigits.fields.layout.names
  readInner := FracDigits.readMembers
  write s := .obj s.members

def inspect (s : ColumnSettings) : Text :=
  Inspect.record "ColumnMetadata"
    [("table_oid", Decimal.ofInt s.tableOid.toInt), ("attnum", Decimal.ofInt s.attnum.toInt),
     ("bool_input", Inspect.option BoolInput.inspect s.boolInput),
     ("bool_true", Text.quoted s.boolTrue),
     ("bool_false", Text.quoted s.boolFalse), ("frac_digits", s.fracDigits.inspect),
     ("num_show_as_perc", Inspect.bool s.showAsPercentage),
     ("mon_currency_symbol", Text.quoted s.currencySymbol),
     ("mon_currency_location", s.currencyLocation.inspect),
     ("time_format", Inspect.option Text.quoted s.timeFormat),
     ("date_format", Inspect.option Text.quoted s.dateFormat),
     ("duration_min", Inspect.option Text.quoted s.durationMin),
     ("duration_max", Inspect.option Text.quoted s.durationMax),
     ("duration_show_units", Inspect.bool s.durationShowUnits)]

end ColumnSettings

end FaultCodes
