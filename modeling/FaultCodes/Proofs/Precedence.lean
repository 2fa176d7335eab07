/-
Precedence: which rule decides for a module, and what one more rule changes.

The rule that decides is the most specific one (`MostSpecific`): it claims the module, and every other rule that
claims it has a shorter stem. In a sound list this is what the scan leads to (`leads_iff_mostSpecific`), so there is at
most one such rule, and the order of the list plays no part in saying which.
- `resolve_exact`: an obtainable rule set gives no origin exactly when no rule claims the module, and gives the
  origin of the most specific rule otherwise.
- `resolve_extended`: a rule with a new stem can always be added. It decides for the modules that it outreaches every
  older rule on, and every other module keeps its answer.
-/
import FaultCodes.Proofs.Rules

namespace FaultCodes.RuleSet

open Draft

/-! ## The most specific rule -/

/-- the rule claims the module, and every other rule of the list that claims it has a shorter stem -/
def MostSpecific (module : Text) (rules : List Rule) (r : Rule) : Prop :=
  ∃ before after, rules = before ++ r :: after ∧ r.stem <+: module ∧
    ∀ q ∈ before ++ after, q.stem <+: module → q.stem.bytes < r.stem.bytes

theorem MostSpecific.leads {module : Text} {rules : List Rule} {r : Rule} (h : MostSpecific module rules r) :
    Leads module rules (some r) := by
  obtain ⟨before, after, rfl, hr, hshorter⟩ := h
  refine ⟨List.mem_append_right _ List.mem_cons_self, (r.claims_iff module).2 hr, fun q hq hc => ?_⟩
  rcases List.mem_cons.1 (List.perm_middle.mem_iff.1 hq) with rfl | hq
  · exact Nat.le_refl _
  · exact Nat.le_of_lt (hshorter q hq ((q.claims_iff module).1 hc))

/-- In a sound list no other rule that claims the module has a stem as long: it would be the same stem again. -/
theorem leads_iff_mostSpecific {module : Text} {rules : List Rule} (hs : Sound rules) {r : Rule} :
    Leads module rules (some r) ↔ MostSpecific module rules r := by
  refine ⟨?_, MostSpecific.leads⟩
  rintro ⟨hr, hc, hmax⟩
  obtain ⟨before, after, rfl⟩ := List.append_of_mem hr
  have hstems : r.stem ∉ (before ++ after).map Rule.stem := by
    have hnodup := hs.nodup_stems
    rw [List.map_append, List.map_cons, List.nodup_middle, ← List.map_append] at hnodup
    exact (List.nodup_cons.1 hnodup).1
  refine ⟨before, after, rfl, (r.claims_iff module).1 hc, fun q hq hqc => ?_⟩
  have hle := hmax q (List.perm_middle.mem_iff.2 (List.mem_cons_of_mem r hq)) ((q.claims_iff module).2 hqc)
  have hne : q.stem.bytes ≠ r.stem.bytes := by
    intro hb
    have hstem : q.stem = r.stem := Text.eq_of_prefixes hqc ((r.claims_iff module).1 hc) hb
    exact hstems (hstem ▸ List.mem_map_of_mem hq)
  exact Nat.lt_of_le_of_ne hle hne

/-- the scan of a sound list ends with the one rule that leads -/
theorem scan_eq_iff {module : Text} {rules : List Rule} (hs : Sound rules) {best : Option Rule} :
    rules.foldl (better module) none = best ↔ Leads module rules best :=
  ⟨fun h => h ▸ leads_scan module rules, fun h => (leads_scan module rules).unique hs h⟩

/-- no stem begins the empty module -/
theorem resolve_nil {s : RuleSet} (hs : Sound s.rules) : s.resolve [] = none := by
  have hlead : Leads [] s.rules none := by
    intro r hr hclaims
    exact hs.stem_ne_nil r hr (List.prefix_nil.1 ((r.claims_iff []).1 hclaims))
  rw [resolve, (scan_eq_iff hs).2 hlead, Option.map_none]

/-- **The most specific rule decides.** In every rule set that can be obtained a module has no origin exactly when no
stem begins it, and has the origin `o` exactly when `o` belongs to a rule that claims it and whose stem is longer than
that of every other rule that claims it. -/
theorem resolve_exact {s : RuleSet} (h : s.Obtainable) (module : Text) :
    (s.resolve module = none ↔ ∀ r ∈ s.rules, ¬ r.stem <+: module) ∧
      ∀ o, s.resolve module = some o ↔ ∃ r, MostSpecific module s.rules r ∧ r.origin = o := by
  have hs := h.sound
  have hnone : Leads module s.rules none ↔ ∀ r ∈ s.rules, ¬ r.stem <+: module := by
    simp only [Leads, Rule.claims_iff]
  constructor
  · rw [resolve, Option.map_eq_none_iff, scan_eq_iff hs, hnone]
  · intro o
    simp only [resolve, Option.map_eq_some_iff, scan_eq_iff hs, leads_iff_mostSpecific hs]

/-- a package and one nested in it, both registered -/
def nested : RuleSet :=
  ⟨[⟨"app", .application⟩, ⟨"app.db", .dbLibrary⟩]⟩

theorem obtainable_nested : nested.Obtainable :=
  .built (.add "app.db" .dbLibrary (.add "app" .application .empty)) (by decide +kernel)

/-- both rules claim the first module, and none claims the second -/
theorem resolve_exact_nested :
    nested.Obtainable ∧ (∃ r, MostSpecific "app.db.tables" nested.rules r ∧ r.origin = .dbLibrary) ∧
      ∀ r ∈ nested.rules, ¬ r.stem <+: "ap".toList :=
  ⟨obtainable_nested, ((resolve_exact obtainable_nested "app.db.tables").2 .dbLibrary).1 (by decide +kernel),
    (resolve_exact obtainable_nested "ap").1.1 (by decide +kernel)⟩

/-! ## One more rule -/

/-- `stem` begins the module, and goes further than the stem of every rule that claims it -/
structure Outreaches (stem : Text) (s : RuleSet) (module : Text) : Prop where
  begins : stem <+: module
  longest : ∀ r ∈ s.rules, r.stem <+: module → r.stem.bytes < stem.bytes

/-- Added last, a rule wins where it outreaches the older ones, and leaves the scan alone everywhere else. -/
theorem resolve_append (s : RuleSet) (r : Rule) (module : Text) :
    (Outreaches r.stem s module → (RuleSet.mk (s.rules ++ [r])).resolve module = some r.origin) ∧
      (¬ Outreaches r.stem s module → (RuleSet.mk (s.rules ++ [r])).resolve module = s.resolve module) := by
  have hlead := leads_scan module s.rules
  have hscan : (RuleSet.mk (s.rules ++ [r])).resolve module =
      (better module (s.rules.foldl (better module) none) r).map Rule.origin := by
    rw [resolve, List.foldl_append]
    rfl
  rw [hscan, resolve]
  generalize s.rules.foldl (better module) none = best at hlead
  unfold better
  by_cases hr : r.stem <+: module
  swap
  · rw [if_neg (mt (r.claims_iff module).1 hr)]
    exact ⟨fun h => absurd h.begins hr, fun _ => rfl⟩
  rw [if_pos ((r.claims_iff module).2 hr)]
  cases best with
  | none =>
    have hreach : Outreaches r.stem s module :=
      ⟨hr, fun q hq hqc => absurd ((q.claims_iff module).2 hqc) (hlead q hq)⟩
    exact ⟨fun _ => rfl, fun h => absurd hreach h⟩
  | some b =>
    obtain ⟨hb, hbc, hmax⟩ := hlead
    by_cases hlt : b.stem.bytes < r.stem.bytes
    · have hreach : Outreaches r.stem s module :=
        ⟨hr, fun q hq hqc => Nat.lt_of_le_of_lt (hmax q hq ((q.claims_iff module).2 hqc)) hlt⟩
      refine ⟨fun _ => ?_, fun h => absurd hreach h⟩
      simp only [if_pos hlt, Option.map_some]
    · refine ⟨fun h => absurd (h.longest b hb ((b.claims_iff module).1 hbc)) hlt, fun _ => ?_⟩
      simp only [if_neg hlt]

/-- **One more rule disturbs only what it claims.** To every rule set that can be obtained, a rule can be added whose
stem is neither empty nor there already. The new rule decides for exactly the modules that its stem begins and on which
it goes further than every older rule; every other module resolves as before. -/
theorem resolve_extended {s : RuleSet} (h : s.Obtainable) {stem : Text} (hne : stem ≠ [])
    (hnew : stem ∉ s.rules.map Rule.stem) (o : Origin) :
    ∃ s', (s.reopen.add stem o).build = .ok s' ∧ ∀ module,
      (Outreaches stem s module → s'.resolve module = some o) ∧
        (¬ Outreaches stem s module → s'.resolve module = s.resolve module) := by
  have hs := h.sound
  have hstems : ((s.rules.map Rule.stem).concat stem).Nodup := hs.nodup_stems.concat hnew
  have hsound : Sound (s.rules ++ [⟨stem, o⟩]) := by
    refine ⟨List.forall_mem_append.2 ⟨hs.stem_ne_nil, List.forall_mem_singleton.2 hne⟩, ?_⟩
    rwa [List.map_append, List.map_singleton, ← List.concat_eq_append]
  exact ⟨_, build_eq_ok_iff.2 ⟨hsound, rfl⟩, resolve_append s ⟨stem, o⟩⟩

/-- the standard rules with one nested package split off: its modules move, those beside it stay -/
theorem resolve_extended_standard :
    standard.Obtainable ∧ "django.db".toList ≠ [] ∧ "django.db".toList ∉ standard.rules.map Rule.stem ∧
      ∃ s', (standard.reopen.add "django.db" .dbLibrary).build = .ok s' ∧
        s'.resolve "django.db.utils" = some .dbLibrary ∧ s'.resolve "django.forms" = some .framework ∧
        s'.resolve "psycopg2.errors" = some .driver := by
  have hne : "django.db".toList ≠ [] := by decide
  have hnew : "django.db".toList ∉ standard.rules.map Rule.stem := by decide +kernel
  obtain ⟨s', hbuilt, hresolve⟩ := resolve_extended .standard hne hnew .dbLibrary
  refine ⟨.standard, hne, hnew, s', hbuilt, ?_, ?_, ?_⟩
  · exact (hresolve "django.db.utils").1 ⟨by decide +kernel, by decide +kernel⟩
  · rw [(hresolve "django.forms").2 fun h => absurd h.begins (by decide +kernel)]
    decide +kernel
  · rw [(hresolve "psycopg2.errors").2 fun h => absurd h.begins (by decide +kernel)]
    decide +kernel

end FaultCodes.RuleSet
