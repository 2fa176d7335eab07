/-
Rules: which drafts are built, which rule wins, and that the order of the rules does not matter.

The scan of a rule set keeps the best rule read so far; `Leads` says what it knows of the rules behind it and
`leads_scan` that it knows this of the whole list. A draft is built exactly when its rules are `Sound`: no stem is
empty and none is repeated (`build_eq_ok_iff`), so every rule set that can be obtained is sound
(`RuleSet.Obtainable.sound`). In a sound list two rules that claim one module have stems of different sizes, since both
stems begin the same text, so the leading rule does not depend on the order in which the rules were read
(`Leads.unique`, `resolve_perm`).
- `addAll_perm`: rules added in any two orders are both accepted, with the same answers, or both rejected.
-/
import Mathlib.Data.List.Induction
import Mathlib.Data.List.Nodup
import FaultCodes.Classification
import FaultCodes.Proofs.Text

namespace FaultCodes

theorem Rule.claims_iff (r : Rule) (module : Text) : r.claims module = true ↔ r.stem <+: module :=
  List.isPrefixOf_iff_prefix

namespace RuleSet

/-! ## The scan -/

/-- what is known of the best rule among those read: no rule with a longer stem claims the module -/
def Leads (module : Text) (rules : List Rule) : Option Rule → Prop
  | none => ∀ r ∈ rules, ¬ r.claims module
  | some b => b ∈ rules ∧ b.claims module ∧ ∀ r ∈ rules, r.claims module → r.stem.bytes ≤ b.stem.bytes

/-- one more rule read -/
theorem leads_better {module : Text} {rules : List Rule} {best : Option Rule} (h : Leads module rules best)
    (r : Rule) : Leads module (rules ++ [r]) (better module best r) := by
  have snoc {P : Rule → Prop} (hrules : ∀ q ∈ rules, P q) (hr : P r) : ∀ q ∈ rules ++ [r], P q :=
    List.forall_mem_append.2 ⟨hrules, List.forall_mem_singleton.2 hr⟩
  unfold better
  by_cases hr : r.claims module = true
  · rw [if_pos hr]
    cases best with
    | none => exact ⟨by simp, hr, snoc (fun q hq hc => absurd hc (h q hq)) fun _ => Nat.le_refl _⟩
    | some b =>
      obtain ⟨hb, hbc, hmax⟩ := h
      by_cases hlt : b.stem.bytes < r.stem.bytes
      · simp only [if_pos hlt]
        exact ⟨by simp, hr, snoc (fun q hq hc => Nat.le_trans (hmax q hq hc) (Nat.le_of_lt hlt)) fun _ => Nat.le_refl _⟩
      · simp only [if_neg hlt]
        exact ⟨List.mem_append_left _ hb, hbc, snoc hmax fun _ => Nat.le_of_not_lt hlt⟩
  · rw [if_neg hr]
    cases best with
    | none => exact snoc h hr
    | some b => exact ⟨List.mem_append_left _ h.1, h.2.1, snoc h.2.2 fun hc => absurd hc hr⟩

/-- all rules read -/
theorem leads_scan (module : Text) (rules : List Rule) :
    Leads module rules (rules.foldl (better module) none) := by
  induction rules using List.reverseRecOn with
  | nil => exact fun r hr => absurd hr List.not_mem_nil
  | append_singleton rules r ih =>
    rw [List.foldl_append]
    exact leads_better ih r

theorem Leads.perm {module : Text} {rules rules' : List Rule} {best : Option Rule} (h : Leads module rules best)
    (hp : rules.Perm rules') : Leads module rules' best := by
  cases best with
  | none => exact fun r hr => h r (hp.mem_iff.2 hr)
  | some b => exact ⟨hp.mem_iff.1 h.1, h.2.1, fun r hr => h.2.2 r (hp.mem_iff.2 hr)⟩

end RuleSet

namespace Draft

/-! ## Which drafts are built -/

/-- rules that can be built: no stem is empty and none is repeated -/
structure Sound (rules : List Rule) : Prop where
  stem_ne_nil : ∀ r ∈ rules, r.stem ≠ []
  nodup_stems : (rules.map Rule.stem).Nodup

theorem firstProblem_nil (earlier : List Text) : firstProblem earlier [] = none := rfl

theorem firstProblem_cons (earlier : List Text) (r : Rule) (rs : List Rule) :
    firstProblem earlier (r :: rs) =
      if r.stem.isEmpty then some (.emptyStem r.origin)
      else if r.stem ∈ earlier then some (.repeatedStem r.stem)
      else firstProblem (earlier ++ [r.stem]) rs := rfl

theorem firstProblem_eq_none_iff (earlier : List Text) (rules : List Rule) :
    firstProblem earlier rules = none ↔
      (∀ r ∈ rules, r.stem ≠ [] ∧ r.stem ∉ earlier) ∧ (rules.map Rule.stem).Nodup := by
  induction rules generalizing earlier with
  | nil => simp [firstProblem_nil]
  | cons r rs ih =>
    simp only [firstProblem_cons, List.isEmpty_iff, List.map_cons, List.nodup_cons, List.forall_mem_cons]
    by_cases he : r.stem = []
    · simp [he]
    by_cases hd : r.stem ∈ earlier
    · simp [he, hd]
    simp only [he, hd, if_false, ih, List.mem_append, List.mem_singleton, List.mem_map]
    grind

/-- the scan finds nothing wrong with the rules that can be built -/
theorem firstProblem_eq_none_iff_sound {rules : List Rule} : firstProblem [] rules = none ↔ Sound rules := by
  rw [firstProblem_eq_none_iff]
  constructor
  · rintro ⟨hne, hnd⟩
    exact ⟨fun r hr => (hne r hr).1, hnd⟩
  · rintro ⟨hne, hnd⟩
    exact ⟨fun r hr => ⟨hne r hr, List.not_mem_nil⟩, hnd⟩

theorem build_eq_ok_iff {d : Draft} {s : RuleSet} : d.build = .ok s ↔ Sound d.rules ∧ s = ⟨d.rules⟩ := by
  rw [← firstProblem_eq_none_iff_sound]
  unfold build
  cases firstProblem [] d.rules with
  | none => simp [eq_comm]
  | some problem => simp

theorem build_eq_error_iff_firstProblem {d : Draft} {problem : RuleProblem} :
    d.build = .error problem ↔ firstProblem [] d.rules = some problem := by
  unfold build
  cases firstProblem [] d.rules with
  | none => simp
  | some found => simp

theorem exists_problem_of_not_sound {d : Draft} (h : ¬ Sound d.rules) : ∃ problem, d.build = .error problem := by
  cases hb : d.build with
  | error problem => exact ⟨problem, rfl⟩
  | ok s => exact absurd (build_eq_ok_iff.1 hb).1 h

theorem Sound.perm {rules rules' : List Rule} (h : Sound rules) (hp : rules.Perm rules') : Sound rules' :=
  ⟨fun r hr => h.stem_ne_nil r (hp.mem_iff.2 hr), (hp.map Rule.stem).nodup_iff.1 h.nodup_stems⟩

/-- two rules of a sound list that claim one module with stems of one size are the same rule -/
theorem Sound.eq_of_claims {rules : List Rule} (h : Sound rules) {module : Text} {r r' : Rule} (hr : r ∈ rules)
    (hr' : r' ∈ rules) (hc : r.claims module = true) (hc' : r'.claims module = true)
    (hb : r.stem.bytes = r'.stem.bytes) : r = r' := by
  have hstem : r.stem = r'.stem := Text.eq_of_prefixes ((r.claims_iff module).1 hc) ((r'.claims_iff module).1 hc') hb
  exact List.inj_on_of_nodup_map h.nodup_stems hr hr' hstem

end Draft

/-- Every rule set that the operations lead to is sound. -/
theorem RuleSet.Obtainable.sound {s : RuleSet} (h : s.Obtainable) : Draft.Sound s.rules := by
  cases h with
  | standard =>
    have hbuilt : RuleSet.standard.reopen.build = .ok .standard := by decide +kernel
    exact (Draft.build_eq_ok_iff.1 hbuilt).1
  | built _ hbuilt =>
    obtain ⟨hs, rfl⟩ := Draft.build_eq_ok_iff.1 hbuilt
    exact hs

/-! ## The order of the rules -/

namespace RuleSet

open Draft

/-- in a sound list at most one rule leads -/
theorem Leads.unique {module : Text} {rules : List Rule} (hs : Sound rules) {best best' : Option Rule}
    (h : Leads module rules best) (h' : Leads module rules best') : best = best' := by
  cases best with
  | none =>
    cases best' with
    | none => rfl
    | some b' => exact absurd h'.2.1 (h b' h'.1)
  | some b =>
    cases best' with
    | none => exact absurd h.2.1 (h' b h.1)
    | some b' =>
      have hle := h'.2.2 b h.1 h.2.1
      have hge := h.2.2 b' h'.1 h'.2.1
      rw [hs.eq_of_claims h.1 h'.1 h.2.1 h'.2.1 (Nat.le_antisymm hle hge)]

theorem resolve_perm {rules rules' : List Rule} (hp : rules.Perm rules') (hs : Sound rules) (module : Text) :
    (RuleSet.mk rules).resolve module = (RuleSet.mk rules').resolve module := by
  have h := leads_scan module rules
  have h' := (leads_scan module rules').perm hp.symm
  rw [resolve, resolve, h.unique hs h']

end RuleSet

namespace Draft

/-- more rules, in order, at the end -/
def addAll (d : Draft) (rules : List Rule) : Draft :=
  rules.foldl (fun d r => d.add r.stem r.origin) d

theorem rules_addAll (d : Draft) (rules : List Rule) : (d.addAll rules).rules = d.rules ++ rules := by
  induction rules generalizing d with
  | nil => exact (List.append_nil _).symm
  | cons r rs ih =>
    rw [addAll, List.foldl_cons, ← addAll, ih]
    exact List.append_assoc _ [r] rs

/-- **The order of the rules does not matter.** Rules added to a draft in any two orders are both built or both
rejected; when they are built, both rule sets resolve every module alike and classify every failure alike. -/
theorem addAll_perm (d : Draft) {rules rules' : List Rule} (hp : rules.Perm rules') :
    (∃ s s', (d.addAll rules).build = .ok s ∧ (d.addAll rules').build = .ok s' ∧
      (∀ module, s.resolve module = s'.resolve module) ∧
      ∀ f, (Classifier.mk s).classify f = (Classifier.mk s').classify f) ∨
    ∃ problem problem', (d.addAll rules).build = .error problem ∧ (d.addAll rules').build = .error problem' := by
  have hall : (d.addAll rules).rules.Perm (d.addAll rules').rules := by
    rw [rules_addAll, rules_addAll]
    exact hp.append_left d.rules
  by_cases hs : Sound (d.addAll rules).rules
  · have hresolve := RuleSet.resolve_perm hall hs
    refine Or.inl ⟨_, _, build_eq_ok_iff.2 ⟨hs, rfl⟩, build_eq_ok_iff.2 ⟨hs.perm hall, rfl⟩, hresolve, fun f => ?_⟩
    simp only [Classifier.classify, hresolve]
  · obtain ⟨problem, h⟩ := exists_problem_of_not_sound hs
    obtain ⟨problem', h'⟩ := exists_problem_of_not_sound fun hs' => hs (hs'.perm hall.symm)
    exact Or.inr ⟨problem, problem', h, h'⟩

/-- a nested package, registered before and after the one that encloses it -/
theorem addAll_perm_nested :
    let outer : Rule := ⟨"app", .application⟩
    let inner : Rule := ⟨"app.db", .dbLibrary⟩
    [outer, inner].Perm [inner, outer] ∧
      ∃ s s', (empty.addAll [outer, inner]).build = .ok s ∧ (empty.addAll [inner, outer]).build = .ok s' ∧
        (∀ module, s.resolve module = s'.resolve module) ∧
        (∀ f, (Classifier.mk s).classify f = (Classifier.mk s').classify f) ∧
        s.resolve "app.db.tables" = some .dbLibrary := by
  intro outer inner
  refine ⟨List.Perm.swap inner outer [], ?_⟩
  have hbuilt : (empty.addAll [outer, inner]).build = .ok ⟨[outer, inner]⟩ := by decide +kernel
  rcases addAll_perm empty (List.Perm.swap inner outer []) with ⟨s, s', hs, hs', hresolve, hclassify⟩ | ⟨_, _, hs, -⟩
  · obtain rfl : s = ⟨[outer, inner]⟩ := Except.ok.inj (hs.symm.trans hbuilt)
    exact ⟨_, s', hs, hs', hresolve, hclassify, by decide +kernel⟩
  · rw [hbuilt] at hs
    cases hs

end Draft

end FaultCodes
