/-
Log lines: what they show of each field, and how long they get.

A line is written piece after piece, and a field that is too long is cut at a place between characters that has to be
found first. The search always ends at the longest beginning that fits, so the line is the one with every field clipped
(`LogRecord.line?_eq`). Its size is the sum of its pieces (`bytes_lineWith`), and no clip is longer than its field.
- `line_field_by_field`: writing never fails, shows each field as it is or abridged, and keeps within its bound.
- `line_eq_fullLine_iff`: the line is the full one exactly when no field is too long, whatever the fields say. A shorter
  piece cannot be made up for by another, since none is longer than in the full line.
-/
import Mathlib.Algebra.Order.BigOperators.Group.List
import Mathlib.Algebra.Order.Ring.Nat
import FaultCodes.Proofs.Log

namespace FaultCodes

open Text

theorem Text.bytes_flatMap {α : Type} (f : α → Text) (l : List α) :
    bytes (l.flatMap f) = (l.map fun a => bytes (f a)).sum := by
  induction l with
  | nil => rfl
  | cons a l ih => rw [List.flatMap_cons, bytes_append, ih, List.map_cons, List.sum_cons]

namespace LogRecord

/-! ## Writing -/

theorem pair?_eq (pair : Text × Field) : pair? pair = some (pairWith (clip maxLogField) pair) := by
  rw [pair?, truncate?_eq]
  rfl

theorem line?_eq (r : LogRecord) : r.line? = some r.line := by
  have hpairs : r.metadata.mapM pair? = some (r.metadata.map (pairWith (clip maxLogField))) := by
    rw [mapM_eq_some_iff, List.forall₂_map_right_iff, List.forall₂_same]
    exact fun pair _ => pair?_eq pair
  unfold line?
  rw [truncate?_eq, truncate?_eq, hpairs, line, lineWith_eq, List.flatMap_def]
  rfl

/-! ## Sizes -/

variable (shown : Text → Text) (r : LogRecord)

theorem bytes_pairWith (pair : Text × Field) :
    bytes (pairWith shown pair) = 4 + bytes pair.1 + bytes (shown pair.2.text) := by
  have hblank : bytes " " = 1 := rfl
  have hopen : bytes "='" = 2 := rfl
  have hclose : bytes "'" = 1 := rfl
  simp only [pairWith, bytes_append, hblank, hopen, hclose]
  omega

/-- the bytes of the code, the origin and the resolution in a line -/
def headBytes : Nat :=
  bytes (Decimal.ofInt r.classification.value.toInt) + bytes r.classification.origin.label +
    bytes r.classification.resolution.label

theorem bytes_lineWith :
    bytes (r.lineWith shown) =
      41 + r.headBytes + bytes (shown r.sourceType) + bytes (shown r.message) +
        (r.metadata.map fun pair => bytes (pairWith shown pair)).sum := by
  have h₁ : bytes "[" = 1 := rfl
  have h₂ : bytes "] origin=" = 9 := rfl
  have h₃ : bytes " resolution=" = 12 := rfl
  have h₄ : bytes " type='" = 7 := rfl
  have h₅ : bytes "' message='" = 11 := rfl
  have h₆ : bytes "'" = 1 := rfl
  simp only [lineWith_eq, bytes_append, bytes_flatMap, headBytes, h₁, h₂, h₃, h₄, h₅, h₆]
  omega

theorem headBytes_le : r.headBytes ≤ 30 := by
  obtain ⟨hlow, hhigh⟩ := (r.classification.origin.contains_iff r.classification.value).1 r.classification.code.inBlock
  have hfloor : -31000 ≤ r.classification.origin.floor.toInt ∧ r.classification.origin.floor.toInt ≤ -25000 := by
    cases r.classification.origin <;> decide
  have hcode : bytes (Decimal.ofInt r.classification.value.toInt) ≤ 6 := Decimal.bytes_ofInt_le (by omega)
  have horigin : bytes r.classification.origin.label ≤ 9 := by cases r.classification.origin <;> decide
  have hresolution : bytes r.classification.resolution.label ≤ 15 := by
    cases r.classification.resolution <;> decide
  unfold headBytes
  omega

theorem bytes_marker_le : bytes marker ≤ maxLogField := by decide

theorem bytes_line_le :
    bytes r.line ≤ 2119 + (r.metadata.map fun pair => 1028 + bytes pair.1).sum := by
  have hhead := r.headBytes_le
  have hclip (t : Text) : bytes (clip maxLogField t) ≤ 1024 := bytes_clip_le bytes_marker_le t
  have hsource := hclip r.sourceType
  have hmessage := hclip r.message
  have hpairs : (r.metadata.map fun pair => bytes (pairWith (clip maxLogField) pair)).sum ≤
      (r.metadata.map fun pair => 1028 + bytes pair.1).sum := by
    apply List.sum_le_sum
    intro pair _
    have := hclip pair.2.text
    rw [bytes_pairWith]
    omega
  rw [line, bytes_lineWith]
  omega

/-! ## Fields -/

/-- what a line shows of a field: all of it when it has at most 1024 bytes, and otherwise the longest beginning of at
most 1010 bytes with the marker behind it -/
def Abridges (field shown : Text) : Prop :=
  bytes field ≤ 1024 ∧ shown = field ∨
    1024 < bytes field ∧ ∃ start, LongestWithin 1010 field start ∧ shown = start ++ "...[TRUNCATED]"

/-- a metadata pair in a line, given what is shown of its value -/
def pairText (pair : Text × Field) (value : Text) : Text :=
  " " ++ pair.1 ++ "='" ++ value ++ "'"

theorem abridges_clip (field : Text) : Abridges field (clip maxLogField field) := by
  rcases Nat.lt_or_ge 1024 (bytes field) with hlong | hfits
  · exact .inr ⟨hlong, cut 1010 field, longestWithin_cut 1010 field, clip_eq_cut hlong⟩
  · exact .inl ⟨hfits, clip_eq_self hfits⟩

/-- **A line shows its fields one by one, and is bounded.** Writing it never fails: wherever a field has to be cut, a place
between characters is found. Source type, message and every metadata value stand in it as they are when they have at most
1024 bytes, and otherwise as their longest beginning of at most 1010 bytes with the marker behind it; the pairs stand in
the order in which they were attached. It has at most 2119 bytes, and for each pair 1028 more and those of its key. -/
theorem line_field_by_field :
    ∃ (line sourceType message : Text) (values : List Text),
      r.line? = some line ∧
      Abridges r.sourceType sourceType ∧ Abridges r.message message ∧
      List.Forall₂ (fun pair value => Abridges pair.2.text value) r.metadata values ∧
      line = "[" ++ Decimal.ofInt r.classification.value.toInt ++ "] origin=" ++ r.classification.origin.label ++
        " resolution=" ++ r.classification.resolution.label ++ " type='" ++ sourceType ++ "' message='" ++ message ++
        "'" ++ (List.zipWith pairText r.metadata values).flatten ∧
      bytes line ≤ 2119 + (r.metadata.map fun pair => 1028 + bytes pair.1).sum := by
  have hvalues : List.Forall₂ (fun pair value => Abridges pair.2.text value) r.metadata
      (r.metadata.map fun pair => clip maxLogField pair.2.text) := by
    rw [List.forall₂_map_right_iff, List.forall₂_same]
    exact fun pair _ => abridges_clip pair.2.text
  refine ⟨r.line, clip maxLogField r.sourceType, clip maxLogField r.message, _, r.line?_eq, abridges_clip r.sourceType,
    abridges_clip r.message, hvalues, ?_, r.bytes_line_le⟩
  rw [line, lineWith_eq, List.zipWith_map_right, List.zipWith_self, List.flatMap_def]
  rfl

/-! ## The full line -/

theorem bytes_pairWith_clip_le (pair : Text × Field) :
    bytes (pairWith (clip maxLogField) pair) ≤ bytes (pairWith id pair) := by
  have hvalue := bytes_clip_le_bytes bytes_marker_le pair.2.text
  rw [bytes_pairWith, bytes_pairWith, id_eq]
  omega

/-- the pairs have all their bytes only when no value is cut -/
theorem fits_of_sum_eq {pairs : Metadata}
    (h : (pairs.map fun pair => bytes (pairWith (clip maxLogField) pair)).sum =
      (pairs.map fun pair => bytes (pairWith id pair)).sum) : ∀ pair ∈ pairs, bytes pair.2.text ≤ 1024 := by
  intro pair hpair
  apply Classical.byContradiction
  intro hlong
  have hshorter : bytes (pairWith (clip maxLogField) pair) < bytes (pairWith id pair) := by
    have hvalue : bytes (clip maxLogField pair.2.text) ≤ 1024 := bytes_clip_le bytes_marker_le pair.2.text
    rw [bytes_pairWith, bytes_pairWith, id_eq]
    omega
  have hsum := List.sum_lt_sum _ _ (fun pair _ => bytes_pairWith_clip_le pair) ⟨pair, hpair, hshorter⟩
  exact absurd h (Nat.ne_of_lt hsum)

theorem lineWith_congr {shown shown' : Text → Text} {r : LogRecord} (hsource : shown r.sourceType = shown' r.sourceType)
    (hmessage : shown r.message = shown' r.message)
    (hvalues : ∀ pair ∈ r.metadata, shown pair.2.text = shown' pair.2.text) : r.lineWith shown = r.lineWith shown' := by
  have hpairs : r.metadata.flatMap (pairWith shown) = r.metadata.flatMap (pairWith shown') := by
    apply List.flatMap_congr
    intro pair hpair
    rw [pairWith, pairWith, hvalues pair hpair]
  rw [lineWith_eq, lineWith_eq, hsource, hmessage, hpairs]

/-- **The line is the full line exactly when no field is too long.** -/
theorem line_eq_fullLine_iff :
    r.line? = some r.fullLine ↔
      bytes r.sourceType ≤ 1024 ∧ bytes r.message ≤ 1024 ∧ ∀ pair ∈ r.metadata, bytes pair.2.text ≤ 1024 := by
  rw [line?_eq, Option.some_inj]
  constructor
  · intro h
    have hsource : bytes (clip maxLogField r.sourceType) ≤ bytes r.sourceType :=
      bytes_clip_le_bytes bytes_marker_le r.sourceType
    have hmessage : bytes (clip maxLogField r.message) ≤ bytes r.message :=
      bytes_clip_le_bytes bytes_marker_le r.message
    have hpairs : (r.metadata.map fun pair => bytes (pairWith (clip maxLogField) pair)).sum ≤
        (r.metadata.map fun pair => bytes (pairWith id pair)).sum :=
      List.sum_le_sum fun pair _ => bytes_pairWith_clip_le pair
    -- no summand is larger than in the full line, so all of them are equal
    have hbytes := congrArg bytes h
    rw [line, fullLine, bytes_lineWith, bytes_lineWith, id_eq, id_eq] at hbytes
    exact ⟨(bytes_clip_eq_iff bytes_marker_le).1 (Nat.le_antisymm hsource (by omega)),
      (bytes_clip_eq_iff bytes_marker_le).1 (Nat.le_antisymm hmessage (by omega)),
      fits_of_sum_eq (Nat.le_antisymm hpairs (by omega))⟩
  · rintro ⟨hsource, hmessage, hvalues⟩
    exact lineWith_congr (clip_eq_self hsource) (clip_eq_self hmessage)
      fun pair hpair => clip_eq_self (hvalues pair hpair)

end LogRecord

end FaultCodes
