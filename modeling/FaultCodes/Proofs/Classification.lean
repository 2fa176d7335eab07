/-
Classification against a reference that does not run the look-up.

A failure counts for the origin it claims, else for the one whose rule claims its module, else for `other`. What its
classification has to be follows from that origin and the type name alone (`Reference`): the code that the origin's
table lists for the name, and the floor when it lists none.
- `eq_classify_iff_reference`: on every failure, every classifier gives the one outcome that the reference allows.
- `value_eq_iff_same_kind`: two failures get one wire code exactly when they have the same origin and either the same
  type name or two names that both stand at the floor, because each is `UNKNOWN` or not declared. Off the floor the
  wire code therefore gives away origin and name.
-/
import FaultCodes.Classification
import FaultCodes.Proofs.Catalogue

namespace FaultCodes

open Catalogue

def Classifier.originOf (k : Classifier) (f : Failure) : Origin :=
  match f.hint, k.rules.resolve f.path.module with
  | some claimed, _ => claimed
  | none, some resolved => resolved
  | none, none => .other

namespace Classification

/-- what the classification of a failure has to be, by its origin and its type name -/
structure Reference (o : Origin) (name : Text) (c : Classification) : Prop where
  origin : c.origin = o
  declared : ∀ code, Declares o name code → c.value = code
  undeclared : ¬ Declared o name → c.value = o.floor
  mapped : c.resolution = .mapped ↔ Declared o name
  missed : ¬ Declared o name → c.resolution = if o = .other then .unclassified else .originFallback
  decodes : Origin.ofCode? c.value = some o

/-! ## The look-up meets the reference -/

theorem ofTable_reference (o : Origin) (name : Text) :
    Reference o name (ofTable (table o) name (if o = .other then .unclassified else .originFallback)) := by
  unfold ofTable
  cases hc : (table o).codeFor name with
  | some code =>
    obtain ⟨ho, hd⟩ := codeFor_table_eq_some hc
    refine ⟨ho, fun v hv => ?_, fun hn => absurd ⟨_, hd⟩ hn, ⟨fun _ => ⟨_, hd⟩, fun _ => rfl⟩,
      fun hn => absurd ⟨_, hd⟩ hn, ?_⟩
    · exact (name_eq_iff_code_eq hd hv).1 rfl
    · rw [← ho]
      exact code.ofCode?_value
  | none =>
    have hn := codeFor_table_eq_none_iff.1 hc
    rw [fallback_table]
    refine ⟨rfl, fun v hv => absurd ⟨v, hv⟩ hn, fun _ => rfl, ⟨fun h => ?_, fun h => absurd h hn⟩, fun _ => rfl,
      (ErrorCode.unknown o).ofCode?_value⟩
    simp only at h
    split at h <;> cases h

theorem ofOrigin_eq (found : Option Origin) (name : Text) :
    ofOrigin found name = ofTable (table (found.getD .other)) name
      (if found.getD .other = .other then .unclassified else .originFallback) := by
  cases found with
  | none => rfl
  | some o => cases o <;> rfl

theorem ofOrigin_reference (found : Option Origin) (name : Text) :
    Reference (found.getD .other) name (ofOrigin found name) :=
  ofOrigin_eq found name ▸ ofTable_reference _ name

theorem originOf_eq (k : Classifier) (f : Failure) :
    k.originOf f = (f.hint.or (k.rules.resolve f.path.module)).getD .other := by
  unfold Classifier.originOf
  cases f.hint <;> cases k.rules.resolve f.path.module <;> rfl

theorem classify_reference (k : Classifier) (f : Failure) :
    Reference (k.originOf f) f.path.name (k.classify f) :=
  originOf_eq k f ▸ ofOrigin_reference _ f.path.name

/-- the reference leaves nothing open -/
theorem Reference.unique {o : Origin} {name : Text} {c c' : Classification} (h : Reference o name c)
    (h' : Reference o name c') : c = c' := by
  have hvalue : c.value = c'.value := by
    by_cases hd : Declared o name
    · obtain ⟨code, hc⟩ := hd
      rw [h.declared code hc, h'.declared code hc]
    · rw [h.undeclared hd, h'.undeclared hd]
  have hresolution : c.resolution = c'.resolution := by
    by_cases hd : Declared o name
    · rw [h.mapped.2 hd, h'.mapped.2 hd]
    · rw [h.missed hd, h'.missed hd]
  have horigin : c.origin = c'.origin := h.origin.trans h'.origin.symm
  obtain ⟨⟨origin, value, inBlock⟩, resolution⟩ := c
  obtain ⟨⟨origin', value', inBlock'⟩, resolution'⟩ := c'
  simp only [Classification.origin, Classification.value] at horigin hvalue hresolution
  subst horigin hvalue hresolution
  rfl

/-- **Classification equals its reference.** For every set of rules and every failure, the classification is the one
and only outcome that the reference allows. -/
theorem eq_classify_iff_reference (k : Classifier) (f : Failure) (c : Classification) :
    c = k.classify f ↔ Reference (k.originOf f) f.path.name c := by
  have h := classify_reference k f
  constructor
  · rintro rfl
    exact h
  · intro hc
    exact hc.unique h

/-! ## What a wire code tells -/

/-- whether failures of this origin and name get the floor of the origin -/
def AtFloor (o : Origin) (name : Text) : Prop := ¬ Declared o name ∨ name = unknownKey

theorem Reference.value_eq_floor_iff {o : Origin} {name : Text} {c : Classification} (h : Reference o name c) :
    c.value = o.floor ↔ AtFloor o name := by
  by_cases hd : Declared o name
  · obtain ⟨code, hc⟩ := hd
    rw [h.declared code hc, code_eq_floor_iff hc]
    exact ⟨Or.inr, fun ha => ha.resolve_left fun hn => hn ⟨code, hc⟩⟩
  · exact ⟨fun _ => Or.inl hd, fun _ => h.undeclared hd⟩

/-- a code off the floor is declared for the name -/
theorem Reference.declares_value {o : Origin} {name : Text} {c : Classification} (h : Reference o name c)
    (hf : ¬ AtFloor o name) : Declares o name c.value := by
  obtain ⟨code, hc⟩ : Declared o name := by
    by_contra hn
    exact hf (Or.inl hn)
  rw [h.declared code hc]
  exact hc

theorem Reference.value_eq_iff {o o' : Origin} {name name' : Text} {c c' : Classification}
    (h : Reference o name c) (h' : Reference o' name' c') :
    c.value = c'.value ↔ o = o' ∧ (name = name' ∨ AtFloor o name ∧ AtFloor o name') := by
  constructor
  · intro hv
    have ho : o = o' := by
      have := h.decodes
      rw [hv, h'.decodes] at this
      exact (Option.some.inj this).symm
    subst ho
    refine ⟨rfl, ?_⟩
    by_cases hf : AtFloor o name
    · have hfloor := h.value_eq_floor_iff.2 hf
      exact Or.inr ⟨hf, h'.value_eq_floor_iff.1 (hv ▸ hfloor)⟩
    · have hf' : ¬ AtFloor o name' := fun ha =>
        hf (h.value_eq_floor_iff.1 (hv.trans (h'.value_eq_floor_iff.2 ha)))
      exact Or.inl ((name_eq_iff_code_eq (h.declares_value hf) (h'.declares_value hf')).2 hv)
  · rintro ⟨rfl, rfl | ⟨hf, hf'⟩⟩
    · by_cases hf : AtFloor o name
      · rw [h.value_eq_floor_iff.2 hf, h'.value_eq_floor_iff.2 hf]
      · exact (name_eq_iff_code_eq (h.declares_value hf) (h'.declares_value hf)).1 rfl
    · rw [h.value_eq_floor_iff.2 hf, h'.value_eq_floor_iff.2 hf']

/-- **A wire code tells exactly what was classified.** Any two failures, each under its own rules, get the same code
exactly when they have the same origin and the same type name, or the same origin and two names at its floor. A code
off the floor is shared only by failures of the same origin and name. -/
theorem value_eq_iff_same_kind (k₁ k₂ : Classifier) (f₁ f₂ : Failure) :
    ((k₁.classify f₁).value = (k₂.classify f₂).value ↔
      (k₁.classify f₁).origin = (k₂.classify f₂).origin ∧
        (f₁.path.name = f₂.path.name ∨
          AtFloor (k₁.classify f₁).origin f₁.path.name ∧ AtFloor (k₁.classify f₁).origin f₂.path.name)) ∧
    ((k₁.classify f₁).value ≠ (k₁.classify f₁).origin.floor →
      ((k₁.classify f₁).value = (k₂.classify f₂).value ↔
        (k₁.classify f₁).origin = (k₂.classify f₂).origin ∧ f₁.path.name = f₂.path.name)) := by
  have h₁ := classify_reference k₁ f₁
  have h₂ := classify_reference k₂ f₂
  rw [h₁.origin, h₂.origin, h₁.value_eq_iff h₂]
  refine ⟨Iff.rfl, fun hne => and_congr_right fun _ => ⟨fun h => ?_, Or.inl⟩⟩
  rcases h with h | ⟨hf, -⟩
  · exact h
  · exact absurd (h₁.value_eq_floor_iff.2 hf) hne

end Classification

end FaultCodes
