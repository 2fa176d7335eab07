/-
Building: what a run of edits to a draft ends in.

An edit adds a rule, or is a round in which the draft is built and the rule set opened again. A round that succeeds
changes nothing, and one that fails reports what the draft would be rejected for with any further rules behind it: the
scan stops at the first rule at fault and does not see them (`build_addAll_of_error`). So a run of edits, however its
rounds are placed, ends as the draft with all its rules at once would (`buildAfter_eq`).
- `build_eq_error_iff`: a draft is rejected for the first rule whose stem is empty or the stem of an earlier rule.
- `obtainable_iff_built`: the rule sets that can be obtained are the ones that runs of edits end in.
- `buildAfter_exact`: these together, and that no rule set that can be obtained claims the empty module.
-/
import FaultCodes.Proofs.Outcome
import FaultCodes.Proofs.Precedence

namespace FaultCodes

namespace Draft

/-! ## The first rule at fault -/

/-- what is wrong with a rule that comes after these -/
inductive AtFault (earlier : List Rule) (r : Rule) : RuleProblem → Prop where
  | emptyStem (h : r.stem = []) : AtFault earlier r (.emptyStem r.origin)
  | repeatedStem (h : r.stem ∈ earlier.map Rule.stem) : AtFault earlier r (.repeatedStem r.stem)

/-- no rule is at fault after those before it -/
def Faultless (rules : List Rule) : Prop :=
  ∀ before r after, rules = before ++ r :: after → ∀ problem, ¬ AtFault before r problem

/-- the problem is that of the first rule at fault -/
def FirstAtFault (rules : List Rule) (problem : RuleProblem) : Prop :=
  ∃ before r after, rules = before ++ r :: after ∧ Faultless before ∧ AtFault before r problem

theorem not_atFault_iff {earlier : List Rule} {r : Rule} :
    (∀ problem, ¬ AtFault earlier r problem) ↔ r.stem ≠ [] ∧ r.stem ∉ earlier.map Rule.stem := by
  constructor
  · intro h
    exact ⟨fun he => h _ (.emptyStem he), fun hm => h _ (.repeatedStem hm)⟩
  · rintro ⟨he, hm⟩ problem hfault
    cases hfault with
    | emptyStem h => exact he h
    | repeatedStem h => exact hm h

theorem faultless_snoc_iff {rules : List Rule} {r : Rule} :
    Faultless (rules ++ [r]) ↔ Faultless rules ∧ ∀ problem, ¬ AtFault rules r problem := by
  constructor
  · intro h
    refine ⟨fun before q after hsplit => h before q (after ++ [r]) ?_, h rules r [] rfl⟩
    rw [hsplit, List.append_assoc, List.cons_append]
  · rintro ⟨hrules, hr⟩ before q after hsplit
    rcases List.eq_nil_or_concat after with rfl | ⟨rest, last, rfl⟩
    · obtain ⟨rfl, hq⟩ := List.append_inj' hsplit rfl
      obtain rfl : r = q := List.singleton_inj.1 hq
      exact hr
    · rw [List.concat_eq_append, ← List.cons_append, ← List.append_assoc] at hsplit
      exact hrules before q rest (List.append_inj' hsplit rfl).1

theorem sound_snoc_iff {rules : List Rule} {r : Rule} :
    Sound (rules ++ [r]) ↔ Sound rules ∧ ∀ problem, ¬ AtFault rules r problem := by
  have hnodup : ((rules ++ [r]).map Rule.stem).Nodup ↔
      r.stem ∉ rules.map Rule.stem ∧ (rules.map Rule.stem).Nodup := by
    rw [List.map_append, List.map_singleton, ← List.concat_eq_append, List.nodup_concat]
  rw [not_atFault_iff]
  constructor
  · rintro ⟨hne, hnd⟩
    obtain ⟨hrules, hr⟩ := List.forall_mem_append.1 hne
    obtain ⟨hnew, hrest⟩ := hnodup.1 hnd
    exact ⟨⟨hrules, hrest⟩, hr r (List.mem_singleton_self r), hnew⟩
  · rintro ⟨⟨hne, hnd⟩, hr, hnew⟩
    exact ⟨List.forall_mem_append.2 ⟨hne, List.forall_mem_singleton.2 hr⟩, hnodup.2 ⟨hnew, hnd⟩⟩

/-- the rules that can be built are those with none at fault -/
theorem sound_iff_faultless (rules : List Rule) : Sound rules ↔ Faultless rules := by
  induction rules using List.reverseRecOn with
  | nil =>
    have hsound : Sound [] := ⟨fun r hr => absurd hr List.not_mem_nil, List.nodup_nil⟩
    have hfaultless : Faultless [] := fun before r after hsplit => by simp at hsplit
    exact iff_of_true hsound hfaultless
  | append_singleton rules r ih => rw [sound_snoc_iff, faultless_snoc_iff, ih]

theorem firstProblem_append (earlier : List Text) (rules more : List Rule) :
    firstProblem earlier (rules ++ more) =
      (firstProblem earlier rules).or (firstProblem (earlier ++ rules.map Rule.stem) more) := by
  induction rules generalizing earlier with
  | nil => rw [List.nil_append, firstProblem_nil, Option.none_or, List.map_nil, List.append_nil]
  | cons r rs ih =>
    simp only [List.cons_append, firstProblem_cons, ih, List.map_cons, List.append_assoc]
    split
    · rfl
    · split <;> rfl

/-- the scan behind sound rules finds what is wrong with the next one -/
theorem firstProblem_singleton_iff {rules : List Rule} (hs : Sound rules) {r : Rule} {problem : RuleProblem} :
    firstProblem (rules.map Rule.stem) [r] = some problem ↔ AtFault rules r problem := by
  rw [firstProblem_cons, firstProblem_nil]
  constructor
  · intro h
    split at h
    · next he =>
      cases h
      exact .emptyStem (List.isEmpty_iff.1 he)
    · split at h
      · next hm =>
        cases h
        exact .repeatedStem hm
      · cases h
  · intro hfault
    cases hfault with
    | emptyStem he => rw [if_pos (List.isEmpty_iff.2 he)]
    | repeatedStem hm =>
      obtain ⟨q, hq, hstem⟩ := List.mem_map.1 hm
      have hne : r.stem ≠ [] := hstem ▸ hs.stem_ne_nil q hq
      rw [if_neg (mt List.isEmpty_iff.1 hne), if_pos hm]

/-- the scan reports the first rule at fault -/
theorem firstProblem_eq_some_iff {rules : List Rule} {problem : RuleProblem} :
    firstProblem [] rules = some problem ↔ FirstAtFault rules problem := by
  constructor
  · intro h
    -- from the end: the last rule is the first at fault only where the scan of those before it finds nothing
    induction rules using List.reverseRecOn with
    | nil => cases h
    | append_singleton rules r ih =>
      rw [firstProblem_append, List.nil_append] at h
      cases hrules : firstProblem [] rules with
      | some found =>
        rw [hrules, Option.some_or] at h
        cases h
        obtain ⟨before, q, after, rfl, hbefore, hq⟩ := ih hrules
        exact ⟨before, q, after ++ [r], List.append_assoc _ _ _, hbefore, hq⟩
      | none =>
        have hs := firstProblem_eq_none_iff_sound.1 hrules
        rw [hrules, Option.none_or] at h
        exact ⟨rules, r, [], rfl, (sound_iff_faultless rules).1 hs, (firstProblem_singleton_iff hs).1 h⟩
  · rintro ⟨before, r, after, rfl, hbefore, hr⟩
    have hs := (sound_iff_faultless before).2 hbefore
    have hscan := (firstProblem_singleton_iff hs).2 hr
    rw [firstProblem_append, firstProblem_eq_none_iff_sound.2 hs, Option.none_or, List.nil_append,
      ← List.singleton_append, firstProblem_append, hscan, Option.some_or]

/-- A draft is rejected for its first rule at fault. -/
theorem build_eq_error_iff {d : Draft} {problem : RuleProblem} :
    d.build = .error problem ↔ FirstAtFault d.rules problem :=
  build_eq_error_iff_firstProblem.trans firstProblem_eq_some_iff

/-! ## Runs of edits -/

/-- what can be done with a draft: one more rule, or a round in which it is built and opened again -/
inductive Edit where
  | rule (r : Rule)
  | round

def Edit.rule? : Edit → Option Rule
  | .rule r => some r
  | .round => none

/-- the draft after an edit; a round fails as building does -/
def edit (d : Draft) : Edit → Except RuleProblem Draft
  | .rule r => .ok (d.add r.stem r.origin)
  | .round => d.build.map RuleSet.reopen

/-- a run of edits and the build at its end -/
def buildAfter (d : Draft) (edits : List Edit) : Except RuleProblem RuleSet := do
  (← edits.foldlM edit d).build

theorem buildAfter_rule (d : Draft) (r : Rule) (edits : List Edit) :
    d.buildAfter (.rule r :: edits) = (d.add r.stem r.origin).buildAfter edits := rfl

theorem buildAfter_round (d : Draft) (edits : List Edit) :
    d.buildAfter (.round :: edits) = d.build >>= fun s => s.reopen.buildAfter edits := by
  simp only [buildAfter, List.foldlM_cons, edit]
  cases d.build <;> rfl

/-- A draft that is rejected stays rejected, for the same rule, whatever is added to it. -/
theorem build_addAll_of_error {d : Draft} {problem : RuleProblem} (h : d.build = .error problem) (rules : List Rule) :
    (d.addAll rules).build = .error problem := by
  have hfirst := build_eq_error_iff_firstProblem.1 h
  rw [build_eq_error_iff_firstProblem, rules_addAll, firstProblem_append, hfirst, Option.some_or]

/-- The rounds of a run leave no trace: it ends as the draft with all the rules would. -/
theorem buildAfter_eq (d : Draft) (edits : List Edit) :
    d.buildAfter edits = (d.addAll (edits.filterMap Edit.rule?)).build := by
  induction edits generalizing d with
  | nil => rfl
  | cons e edits ih =>
    cases e with
    | rule r => rw [buildAfter_rule, ih]; rfl
    | round =>
      rw [buildAfter_round, List.filterMap_cons_none rfl]
      cases hbuild : d.build with
      | ok s =>
        obtain ⟨-, rfl⟩ := build_eq_ok_iff.1 hbuild
        exact ih d
      | error problem => exact (build_addAll_of_error hbuild _).symm

/-! ## What can be obtained -/

/-- the drafts that a caller starts from -/
def Initial (d : Draft) : Prop :=
  d = empty ∨ d = RuleSet.standard.reopen

theorem Initial.obtainable {d : Draft} (h : d.Initial) : d.Obtainable := by
  rcases h with rfl | rfl
  · exact .empty
  · exact .standard

theorem reopen_of_build {d : Draft} {s : RuleSet} (h : d.build = .ok s) : s.reopen = d := by
  obtain ⟨-, rfl⟩ := build_eq_ok_iff.1 h
  rfl

/-- an obtainable draft has its rules from its start and from what was added since -/
theorem Obtainable.exists_addAll {d : Draft} (h : d.Obtainable) :
    ∃ start rules, Initial start ∧ d = start.addAll rules := by
  induction h with
  | empty => exact ⟨Draft.empty, [], .inl rfl, rfl⟩
  | standard => exact ⟨RuleSet.standard.reopen, [], .inr rfl, rfl⟩
  | add stem origin _ ih =>
    obtain ⟨start, rules, hstart, rfl⟩ := ih
    refine ⟨start, rules ++ [⟨stem, origin⟩], hstart, ?_⟩
    rw [addAll, addAll, List.foldl_append]
    rfl
  | reopened _ hbuild ih =>
    rw [reopen_of_build hbuild]
    exact ih

theorem obtainable_of_buildAfter {d : Draft} (h : d.Obtainable) {edits : List Edit} {s : RuleSet}
    (hbuilt : d.buildAfter edits = .ok s) : s.Obtainable := by
  induction edits generalizing d with
  | nil => exact .built h hbuilt
  | cons e edits ih =>
    cases e with
    | rule r => exact ih (h.add r.stem r.origin) hbuilt
    | round =>
      rw [buildAfter_round, except_bind_eq_ok_iff] at hbuilt
      obtain ⟨s', hs', hbuilt⟩ := hbuilt
      exact ih (h.reopened hs') hbuilt

/-- The rule sets that can be obtained are the ones that runs of edits end in. -/
theorem obtainable_iff_built {s : RuleSet} :
    s.Obtainable ↔ ∃ start edits, Initial start ∧ start.buildAfter edits = .ok s := by
  constructor
  · intro h
    cases h with
    | standard =>
      have hs : Sound RuleSet.standard.rules := RuleSet.Obtainable.standard.sound
      exact ⟨RuleSet.standard.reopen, [], .inr rfl, build_eq_ok_iff.2 ⟨hs, rfl⟩⟩
    | built hd hbuilt =>
      obtain ⟨start, rules, hstart, rfl⟩ := hd.exists_addAll
      have hadded : (rules.map Edit.rule).filterMap Edit.rule? = rules := by
        rw [List.filterMap_map]
        exact List.filterMap_some
      refine ⟨start, rules.map Edit.rule, hstart, ?_⟩
      rw [buildAfter_eq, hadded, hbuilt]
  · rintro ⟨start, edits, hstart, hbuilt⟩
    exact obtainable_of_buildAfter hstart.obtainable hbuilt

/-- **A draft is built exactly when no rule in it is at fault, and is rejected for the first one that is.** Take any
draft, the empty one and the standard rules among them, and any run of edits with rounds of building in it, and let
`rules` be the rules of the draft and those added, in order. The run ends in a rule set exactly when no stem among
`rules` is empty and none stands twice, and the rule set then lists `rules`. It ends in a problem exactly when this is
what is wrong with the first rule at fault: its stem is empty, or is the stem of an earlier rule. The rule sets that
can be obtained are the ones that such runs end in; so their stems are not empty and differ from each other, and the
empty module belongs to none of their rules. -/
theorem buildAfter_exact (d : Draft) (edits : List Edit) :
    let rules := d.rules ++ edits.filterMap Edit.rule?
    (∀ s, d.buildAfter edits = .ok s ↔ (∀ r ∈ rules, r.stem ≠ []) ∧ (rules.map Rule.stem).Nodup ∧ s.rules = rules) ∧
    (∀ problem, d.buildAfter edits = .error problem ↔ FirstAtFault rules problem) ∧
    (∀ s : RuleSet, s.Obtainable ↔ ∃ start edits, Initial start ∧ start.buildAfter edits = .ok s) ∧
    ∀ s : RuleSet, s.Obtainable →
      (∀ r ∈ s.rules, r.stem ≠ []) ∧ (s.rules.map Rule.stem).Nodup ∧ s.resolve [] = none := by
  intro rules
  have hrules : (d.addAll (edits.filterMap Edit.rule?)).rules = rules := rules_addAll d _
  refine ⟨fun s => ?_, fun problem => ?_, fun s => obtainable_iff_built, fun s hs => ?_⟩
  · rw [buildAfter_eq, build_eq_ok_iff, hrules]
    constructor
    · rintro ⟨⟨hne, hnd⟩, rfl⟩
      exact ⟨hne, hnd, rfl⟩
    · rintro ⟨hne, hnd, hlisted⟩
      exact ⟨⟨hne, hnd⟩, congrArg RuleSet.mk hlisted⟩
  · rw [buildAfter_eq, build_eq_error_iff, hrules]
  · have hsound := hs.sound
    exact ⟨hsound.stem_ne_nil, hsound.nodup_stems, RuleSet.resolve_nil hsound⟩

/-- a nested package added in a second round; then a stem that is there already, and behind it an empty one -/
theorem buildAfter_exact_nested :
    let edits : List Edit := [.rule ⟨"app", .application⟩, .round, .rule ⟨"app.db", .dbLibrary⟩]
    let more : List Edit := [.rule ⟨"app", .toolkit⟩, .rule ⟨[], .other⟩, .round]
    empty.buildAfter edits = .ok RuleSet.nested ∧ empty.buildAfter (edits ++ more) = .error (.repeatedStem "app") ∧
      RuleSet.nested.Obtainable ∧ RuleSet.nested.resolve [] = none := by
  intro edits more
  have hobtained := RuleSet.obtainable_nested
  have hsound := hobtained.sound
  have hfirst : FirstAtFault (RuleSet.nested.rules ++ [⟨"app", .toolkit⟩, ⟨[], .other⟩]) (.repeatedStem "app") :=
    ⟨RuleSet.nested.rules, _, _, rfl, (sound_iff_faultless _).1 hsound, .repeatedStem List.mem_cons_self⟩
  obtain ⟨hok, -, -, hempty⟩ := buildAfter_exact empty edits
  obtain ⟨-, herror, -⟩ := buildAfter_exact empty (edits ++ more)
  exact ⟨(hok RuleSet.nested).2 ⟨hsound.stem_ne_nil, hsound.nodup_stems, rfl⟩, (herror _).2 hfirst, hobtained,
    (hempty _ hobtained).2.2⟩

end Draft

end FaultCodes
