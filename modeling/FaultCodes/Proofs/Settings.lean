/-
Column settings read from an object.

A field that may be left out has its value declared twice: once for objects without its key, and once in `new`, for
settings that are made directly. The bounds on fraction digits stand among the other members, but are read on their own
and then checked as a pair.
- `defaultsWhereAbsent_of_read`: what an object does not say has the value that `new` gives it.
- `read_congr`: members that name no field change nothing, neither the settings nor a problem.
- `FracDigits.readMembers_eq_ok_iff`: the bounds are read when each is absent, null or a number of 32 bits and the two are
  accepted.
- `read_object_exact`: these together, and what the bounds add to an object without them.
-/
import FaultCodes.Proofs.Members
import FaultCodes.Proofs.ReadBack

namespace FaultCodes

open FaultCodes.Record

/-! ## One bound -/

namespace FracDigits

variable {ms : Json.Members} {bound : Option UInt32}

/-- what an object says about one bound: nothing, when its key is absent or null, or else a number of 32 bits -/
def Says (ms : Json.Members) (key : Text) (bound : Option UInt32) : Prop :=
  (ms.lookup key = .none ∨ ms.lookup key = some .null) ∧ bound = .none ∨
    ∃ n : UInt32, ms.lookup key = some (.int n.toNat) ∧ bound = some n

theorem Says.eq_none {key : Text} (h : Says ms key bound) (habsent : ms.lookup key = .none) : bound = .none := by
  rcases h with ⟨-, hnone⟩ | ⟨n, hn, -⟩
  · exact hnone
  · rw [habsent] at hn
    cases hn

theorem uint32_read_eq_ok_iff {value : Json} {n : UInt32} :
    Codec.uint32.read value = .ok n ↔ value = .int n.toNat := by
  constructor
  · intro h
    cases value with
    | int k =>
      rw [Codec.uint32_read_int] at h
      split at h
      · next hrange =>
        cases h
        have hsize : k.toNat < UInt32.size := by
          have : UInt32.size = 0x100000000 := rfl
          omega
        rw [UInt32.toNat_ofNat_of_lt' hsize, Int.toNat_of_nonneg hrange.1]
      · cases h
    | _ => cases h
  · rintro rfl
    exact Codec.read_uint32 n

theorem bound_read_eq_ok_iff {value : Json} :
    (Codec.nullable .uint32).read value = .ok bound ↔
      value = .null ∧ bound = .none ∨ ∃ n : UInt32, value = .int n.toNat ∧ bound = some n := by
  by_cases hnull : value = .null
  · subst hnull
    constructor
    · rintro ⟨⟩
      exact .inl ⟨rfl, rfl⟩
    · rintro (⟨-, rfl⟩ | ⟨n, hn, -⟩)
      · rfl
      · cases hn
  · rw [Codec.nullable_read _ hnull, except_map_eq_ok_iff]
    simp only [uint32_read_eq_ok_iff, hnull, false_and, false_or, eq_comm (b := bound)]

theorem takes_bound_iff {key : Text} :
    (Field.defaulted key (.nullable .uint32) .none).Takes ms bound ↔ Says ms key bound := by
  cases hl : ms.lookup key with
  | none =>
    rw [Field.takes_iff_of_absent hl]
    simp [Says, hl, Field.defaulted, eq_comm]
  | some value =>
    rw [Field.takes_iff_of_lookup hl]
    simp only [Says, hl, Option.some.injEq, reduceCtorEq, false_or]
    exact bound_read_eq_ok_iff

/-! ## The two bounds -/

theorem build_fields_eq_ok_iff {bounds : Option UInt32 × Option UInt32} :
    fields.layout.build ms = .ok bounds ↔ Says ms minField bounds.1 ∧ Says ms maxField bounds.2 := by
  rw [Layout.build_eq_ok_iff_collects, ← takes_bound_iff, ← takes_bound_iff]
  constructor
  · intro h
    obtain ⟨_, high, h, hhigh, rfl⟩ := h
    obtain ⟨_, low, h, hlow, rfl⟩ := h
    cases h
    exact ⟨hlow, hhigh⟩
  · rintro ⟨hlow, hhigh⟩
    exact ⟨_, _, ⟨_, _, rfl, hlow, rfl⟩, hhigh, rfl⟩

theorem ofBounds_eq_ok_iff {bounds : Option UInt32 × Option UInt32} {d : FracDigits} :
    ofBounds bounds = .ok d ↔ new bounds.1 bounds.2 = .ok d := by
  unfold ofBounds
  cases new bounds.1 bounds.2 with
  | error problem => simp [Except.mapError]
  | ok d' => simp [Except.mapError]

/-- The bounds are read when each is absent, null or a number of 32 bits and the two are accepted. -/
theorem readMembers_eq_ok_iff (hms : Distinct ms) {d : FracDigits} :
    readMembers ms = .ok d ↔ ∃ low high, Says ms minField low ∧ Says ms maxField high ∧ new low high = .ok d := by
  unfold readMembers
  rw [except_bind_eq_ok_iff]
  simp only [Layout.readMembers_eq_ok_iff hms, build_fields_eq_ok_iff, ofBounds_eq_ok_iff, Prod.exists, and_assoc]

end FracDigits

/-! ## The settings -/

namespace ColumnSettings

/-- the names of the fields, those of the bounds last -/
def fieldNames : List Text :=
  own.names ++ FracDigits.fields.layout.names

example : fieldNames =
    ["table_oid", "attnum", "bool_input", "bool_true", "bool_false", "num_show_as_perc", "mon_currency_symbol",
      "mon_currency_location", "time_format", "date_format", "duration_min", "duration_max", "duration_show_units",
      "num_min_frac_digits", "num_max_frac_digits"] := rfl

def Absent (ms : Json.Members) (key : Text) : Prop := ms.lookup key = none

/-- what the object does not say is as in new settings for the same column -/
structure DefaultsWhereAbsent (ms : Json.Members) (s : ColumnSettings) : Prop where
  boolInput : Absent ms "bool_input" → s.boolInput = (new s.tableOid s.attnum).boolInput
  boolTrue : Absent ms "bool_true" → s.boolTrue = (new s.tableOid s.attnum).boolTrue
  boolFalse : Absent ms "bool_false" → s.boolFalse = (new s.tableOid s.attnum).boolFalse
  fracDigitsMin : Absent ms "num_min_frac_digits" →
    s.fracDigits.min = (new s.tableOid s.attnum).fracDigits.min
  fracDigitsMax : Absent ms "num_max_frac_digits" →
    s.fracDigits.max = (new s.tableOid s.attnum).fracDigits.max
  showAsPercentage : Absent ms "num_show_as_perc" →
    s.showAsPercentage = (new s.tableOid s.attnum).showAsPercentage
  currencySymbol : Absent ms "mon_currency_symbol" →
    s.currencySymbol = (new s.tableOid s.attnum).currencySymbol
  currencyLocation : Absent ms "mon_currency_location" →
    s.currencyLocation = (new s.tableOid s.attnum).currencyLocation
  timeFormat : Absent ms "time_format" → s.timeFormat = (new s.tableOid s.attnum).timeFormat
  dateFormat : Absent ms "date_format" → s.dateFormat = (new s.tableOid s.attnum).dateFormat
  durationMin : Absent ms "duration_min" → s.durationMin = (new s.tableOid s.attnum).durationMin
  durationMax : Absent ms "duration_max" → s.durationMax = (new s.tableOid s.attnum).durationMax
  durationShowUnits : Absent ms "duration_show_units" →
    s.durationShowUnits = (new s.tableOid s.attnum).durationShowUnits

variable {ms ms' : Json.Members} {g : FracDigits → ColumnSettings} {d : FracDigits}

theorem defaultsWhereAbsent_of_build (hown : own.build ms = .ok g)
    (hmin : ms.lookup FracDigits.minField = none → d.min = none)
    (hmax : ms.lookup FracDigits.maxField = none → d.max = none) : DefaultsWhereAbsent ms (g d) := by
  -- the fields from the last to the first, as the layout has them
  obtain ⟨_, _, h, hdurationShowUnits, rfl⟩ := Layout.build_eq_ok_iff_collects.1 hown
  obtain ⟨_, _, h, hdurationMax, rfl⟩ := h
  obtain ⟨_, _, h, hdurationMin, rfl⟩ := h
  obtain ⟨_, _, h, hdateFormat, rfl⟩ := h
  obtain ⟨_, _, h, htimeFormat, rfl⟩ := h
  obtain ⟨_, _, h, hcurrencyLocation, rfl⟩ := h
  obtain ⟨_, _, h, hcurrencySymbol, rfl⟩ := h
  obtain ⟨_, _, h, hshowAsPercentage, rfl⟩ := h
  obtain ⟨_, _, h, hboolFalse, rfl⟩ := h
  obtain ⟨_, _, h, hboolTrue, rfl⟩ := h
  obtain ⟨_, _, h, hboolInput, rfl⟩ := h
  obtain ⟨_, _, h, -, rfl⟩ := h
  obtain ⟨_, _, h, -, rfl⟩ := h
  cases h
  exact
    { boolInput := hboolInput.eq_default
      boolTrue := hboolTrue.eq_default
      boolFalse := hboolFalse.eq_default
      fracDigitsMin := hmin
      fracDigitsMax := hmax
      showAsPercentage := hshowAsPercentage.eq_default
      currencySymbol := hcurrencySymbol.eq_default
      currencyLocation := hcurrencyLocation.eq_default
      timeFormat := htimeFormat.eq_default
      dateFormat := hdateFormat.eq_default
      durationMin := hdurationMin.eq_default
      durationMax := hdurationMax.eq_default
      durationShowUnits := hdurationShowUnits.eq_default }

theorem read_obj_eq_ok_iff {s : ColumnSettings} :
    shape.codec.read (.obj ms) = .ok s ↔
      ∃ g, own.readMembers ms = .ok g ∧ ∃ d, FracDigits.readMembers ms = .ok d ∧ g d = s := by
  change (own.readMembers ms >>= fun g => FracDigits.readMembers ms >>= fun d => .ok (g d)) = .ok s ↔ _
  simp only [except_bind_eq_ok_iff, Except.ok.injEq]

/-- what is left out has the value that new settings have -/
theorem defaultsWhereAbsent_of_read (hms : Distinct ms) {s : ColumnSettings} (h : shape.codec.read (.obj ms) = .ok s) :
    DefaultsWhereAbsent ms s := by
  obtain ⟨g, hown, d, hbounds, rfl⟩ := read_obj_eq_ok_iff.1 h
  obtain ⟨low, high, hlow, hhigh, hnew⟩ := (FracDigits.readMembers_eq_ok_iff hms).1 hbounds
  obtain ⟨rfl, -⟩ := FracDigits.new_eq_ok_iff.1 hnew
  exact defaultsWhereAbsent_of_build (Layout.build_of_readMembers hown) hlow.eq_none hhigh.eq_none

/-- members that name no field change neither the settings nor a problem -/
theorem read_congr (hms : Distinct ms) (hms' : Distinct ms')
    (h : ∀ name ∈ fieldNames, ms.lookup name = ms'.lookup name) :
    shape.codec.read (.obj ms) = shape.codec.read (.obj ms') := by
  have hown : own.readMembers ms = own.readMembers ms' :=
    Layout.readMembers_congr hms hms' fun name hname => h name (List.mem_append_left _ hname)
  have hbounds : FracDigits.readMembers ms = FracDigits.readMembers ms' := by
    unfold FracDigits.readMembers
    rw [Layout.readMembers_congr hms hms' fun name hname => h name (List.mem_append_right _ hname)]
  change (own.readMembers ms >>= fun g => FracDigits.readMembers ms >>= fun d => .ok (g d)) =
    (own.readMembers ms' >>= fun g => FracDigits.readMembers ms' >>= fun d => .ok (g d))
  rw [hown, hbounds]

/-- the members but for those of the bounds -/
def withoutBounds (ms : Json.Members) : Json.Members :=
  ms.filter fun m => !FracDigits.fields.layout.names.contains m.1

theorem distinct_withoutBounds (hms : Distinct ms) : Distinct (withoutBounds ms) :=
  hms.filter _

theorem readMembers_own_withoutBounds (hms : Distinct ms) : own.readMembers (withoutBounds ms) = own.readMembers ms := by
  have hnames : own.names.all (fun name => !FracDigits.fields.layout.names.contains name) = true := by decide +kernel
  apply Layout.readMembers_congr (distinct_withoutBounds hms) hms
  intro name hname
  unfold withoutBounds
  rw [lookup_filter fun key => !FracDigits.fields.layout.names.contains key,
    if_pos (List.all_eq_true.1 hnames name hname)]

/-- **Column settings read from an object.** For every object: what is read has sound bounds, and every field whose key is
absent has the value it has in new settings for the same column; and what is read, a problem included, is the same for
every object that agrees with it on the names of the fields, whatever its other keys. If the object can be read without
the keys of the bounds, then it can be read itself exactly when each of these keys is absent, null or a number of 32 bits
and the two bounds are accepted, and what is read are the same settings with these bounds. -/
theorem read_object_exact (ms : Json.Members) (hms : Distinct ms) :
    (∀ s, shape.codec.read (.obj ms) = .ok s → s.fracDigits.Sound ∧ DefaultsWhereAbsent ms s) ∧
    (∀ ms', Distinct ms' → (∀ name ∈ fieldNames, ms.lookup name = ms'.lookup name) →
      shape.codec.read (.obj ms) = shape.codec.read (.obj ms')) ∧
    ∀ plain, shape.codec.read (.obj (withoutBounds ms)) = .ok plain → ∀ s,
      (shape.codec.read (.obj ms) = .ok s ↔
        ∃ low high d, FracDigits.Says ms "num_min_frac_digits" low ∧ FracDigits.Says ms "num_max_frac_digits" high ∧
          FracDigits.new low high = .ok d ∧ s = { plain with fracDigits := d }) := by
  refine ⟨fun s h => ⟨sound_of_read h, defaultsWhereAbsent_of_read hms h⟩, fun ms' hms' h => read_congr hms hms' h, ?_⟩
  intro plain hplain s
  obtain ⟨g, hown, d₀, -, rfl⟩ := read_obj_eq_ok_iff.1 hplain
  rw [readMembers_own_withoutBounds hms] at hown
  have hwith : ∀ d, g d = { g d₀ with fracDigits := d } :=
    fun d => eq_with_of_builds (Layout.builds_of_readMembers hown) d₀ d
  rw [read_obj_eq_ok_iff, hown]
  constructor
  · rintro ⟨g', hg', d, hbounds, rfl⟩
    cases hg'
    obtain ⟨low, high, hlow, hhigh, hnew⟩ := (FracDigits.readMembers_eq_ok_iff hms).1 hbounds
    exact ⟨low, high, d, hlow, hhigh, hnew, hwith d⟩
  · rintro ⟨low, high, d, hlow, hhigh, hnew, rfl⟩
    exact ⟨g, rfl, d, (FracDigits.readMembers_eq_ok_iff hms).2 ⟨low, high, hlow, hhigh, hnew⟩, hwith d⟩

/-- an object with one bound and a key that names no field -/
theorem read_object_exact_lower_bound :
    let ms : Json.Members :=
      [("attnum", .int 3), ("num_min_frac_digits", .int 5), ("table_oid", .int 2254), ("tint", .null)]
    Distinct ms ∧ shape.codec.read (.obj (withoutBounds ms)) = .ok (new 2254 3) ∧
      shape.codec.read (.obj ms) = .ok { new 2254 3 with fracDigits := ⟨some 5, none⟩ } := by
  intro ms
  have hms : Distinct ms := by
    unfold Distinct
    decide +kernel
  have hplain : shape.codec.read (.obj (withoutBounds ms)) = .ok (new 2254 3) := by decide +kernel
  obtain ⟨-, -, hbounds⟩ := read_object_exact ms hms
  refine ⟨hms, hplain, (hbounds (new 2254 3) hplain _).2 ?_⟩
  refine ⟨some 5, none, ⟨some 5, none⟩, ?_, ?_, rfl, rfl⟩
  · exact .inr ⟨5, by decide +kernel, rfl⟩
  · exact .inl ⟨.inl (by decide +kernel), rfl⟩

end ColumnSettings

end FaultCodes
