/-
Type paths: taken apart at the last separator, and put together again in print.

`LastSeparated path before s behind` says that of all separators in the path, `s` starts last, with `before` and `behind`
on its two sides. A path has at most one such reading (`LastSeparated.unique`); it has one exactly when it has a
separator at all, and it is the one that reading the path gives (`ofQualified_of_lastSeparated`,
`ofQualified_of_unseparated`).

Print keeps the module and the name, but not the separator; it chooses one by the module alone.
- `ofQualified_display_iff`: which paths are read back from print. Those with a plain name are, whatever the module, so
  their printed form classifies as they do (`printed_path_reads_back`).
- `display_ofQualified_iff`: which texts are printed back. A text in one style is, but for one with a single `::`
  (`display_ofQualified_one_style`): read, it is the same path as with a dot, and it is printed with the dot.
-/
import FaultCodes.Fault
import FaultCodes.Proofs.Text

namespace FaultCodes

open Text

/-- a failure that claims no origin is classified by its path alone -/
theorem Classifier.classify_of_hint_eq_none (k : Classifier) {f : Failure} (h : f.hint = none) :
    k.classify f = k.classifyPath f.path := by
  rw [classify, h, Option.none_or]
  rfl

namespace TypePath

/-! ## The last separator -/

@[simp] theorem Separator.text_dot : Separator.dot.text = ['.'] := rfl

@[simp] theorem Separator.text_colons : Separator.colons.text = [':', ':'] := rfl

theorem Separator.text_ne_nil (s : Separator) : s.text ≠ [] := by
  cases s <;> simp

/-- two separators that stand at one place of a text are the same -/
theorem Separator.eq_of_append_eq {before behind behind' : Text} {s s' : Separator}
    (h : before ++ s.text ++ behind = before ++ s'.text ++ behind') : s = s' ∧ behind = behind' := by
  rw [List.append_assoc, List.append_assoc, List.append_cancel_left_eq] at h
  cases s <;> cases s' <;> simp_all

/-- no separator in it -/
def Unseparated (t : Text) : Prop := ∀ s : Separator, ¬ s.text <:+: t

theorem unseparated_nil : Unseparated [] :=
  fun s h => s.text_ne_nil (List.infix_nil.1 h)

theorem unseparated_cons {c : Char} {t : Text} :
    Unseparated (c :: t) ↔ (∀ s : Separator, ¬ s.text <+: c :: t) ∧ Unseparated t := by
  simp only [Unseparated, List.infix_cons_iff, not_or, forall_and]

theorem unseparated_iff {t : Text} :
    Unseparated t ↔ contains Separator.dot.text t = false ∧ contains Separator.colons.text t = false := by
  simp only [← Bool.not_eq_true, contains_eq_true_iff]
  constructor
  · intro h
    exact ⟨h .dot, h .colons⟩
  · rintro ⟨hdot, hcolons⟩ (_ | _)
    · exact hdot
    · exact hcolons

instance (t : Text) : Decidable (Unseparated t) := decidable_of_iff _ unseparated_iff.symm

/-- `s` starts last of all separators in the path, `before` and `behind` stand on its two sides -/
structure LastSeparated (path before : Text) (s : Separator) (behind : Text) : Prop where
  eq : path = before ++ s.text ++ behind
  last : ∀ (s' : Separator) (before' behind' : Text),
    path = before' ++ s'.text ++ behind' → before'.bytes ≤ before.bytes

/-- A separator is the last one when none starts behind its first character. -/
theorem lastSeparated_iff {path before behind : Text} {s : Separator} :
    LastSeparated path before s behind ↔
      path = before ++ s.text ++ behind ∧ Unseparated (s.text ++ behind).tail := by
  obtain ⟨c, rest, hrest⟩ : ∃ c rest, s.text ++ behind = c :: rest :=
    List.exists_cons_of_ne_nil (List.append_ne_nil_of_left_ne_nil s.text_ne_nil behind)
  rw [List.append_assoc, hrest, List.tail_cons]
  constructor
  · rintro ⟨heq, hlast⟩
    refine ⟨by rw [heq, List.append_assoc, hrest], ?_⟩
    rintro s' ⟨before', behind', rfl⟩
    have hlater : path = (before ++ c :: before') ++ s'.text ++ behind' := by
      rw [heq, List.append_assoc, hrest]
      simp only [List.append_assoc, List.cons_append]
    have hle := hlast s' _ _ hlater
    have hpos := c.utf8Size_pos
    rw [bytes_append, bytes_cons] at hle
    omega
  · rintro ⟨heq, htail⟩
    refine ⟨by rw [heq, List.append_assoc, hrest], fun s' before' behind' heq' => ?_⟩
    have hsides : before ++ c :: rest = before' ++ (s'.text ++ behind') := by
      rw [← heq, heq', List.append_assoc]
    rcases List.append_eq_append_iff.1 hsides with ⟨d, rfl, hd⟩ | ⟨d, rfl, -⟩
    · cases d with
      | nil => exact Nat.le_of_eq (congrArg bytes (List.append_nil before))
      | cons c' d =>
        obtain ⟨-, hd⟩ := List.cons_eq_cons.1 hd
        exact absurd ⟨d, behind', (List.append_assoc _ _ _).trans hd.symm⟩ (htail s')
    · exact bytes_le_of_prefix (List.prefix_append _ _)

/-- what follows the first character of a separator has no separator in it when the text behind has none, and, after
the first of two colons, does not begin with a third -/
theorem unseparated_tail_iff {s : Separator} {behind : Text} :
    Unseparated (s.text ++ behind).tail ↔ Unseparated behind ∧ (s = .colons → ¬ [':'] <+: behind) := by
  cases s with
  | dot => simp
  | colons =>
    have hfirst : (∀ s : Separator, ¬ s.text <+: ':' :: behind) ↔ ¬ [':'] <+: behind := by
      constructor
      · intro h hcolon
        exact h .colons ((List.prefix_cons_inj ':').2 hcolon)
      · rintro h (_ | _) hs
        · exact absurd (List.cons_prefix_cons.1 hs).1 (by decide)
        · exact h ((List.prefix_cons_inj ':').1 hs)
    rw [Separator.text_colons, List.cons_append, List.tail_cons, List.singleton_append, unseparated_cons, hfirst,
      and_comm]
    simp only [forall_const]

theorem LastSeparated.not_unseparated {path before behind : Text} {s : Separator}
    (h : LastSeparated path before s behind) : ¬ Unseparated path :=
  fun hnone => hnone s ⟨before, behind, h.eq.symm⟩

theorem LastSeparated.unique {path before before' behind behind' : Text} {s s' : Separator}
    (h : LastSeparated path before s behind) (h' : LastSeparated path before' s' behind') :
    before = before' ∧ s = s' ∧ behind = behind' := by
  have hbytes : before.bytes = before'.bytes :=
    Nat.le_antisymm (h'.last s before behind h.eq) (h.last s' before' behind' h'.eq)
  have hbefore : before = before' := by
    refine eq_of_prefixes (t := path) ⟨s.text ++ behind, ?_⟩ ⟨s'.text ++ behind', ?_⟩ hbytes
    · rw [h.eq, List.append_assoc]
    · rw [h'.eq, List.append_assoc]
  subst hbefore
  exact ⟨rfl, Separator.eq_of_append_eq (h.eq.symm.trans h'.eq)⟩

/-- a character in front of the path does not move its last separator -/
theorem LastSeparated.cons {path before behind : Text} {s : Separator} (h : LastSeparated path before s behind)
    (c : Char) : LastSeparated (c :: path) (c :: before) s behind := by
  obtain ⟨heq, htail⟩ := lastSeparated_iff.1 h
  exact lastSeparated_iff.2 ⟨by rw [heq]; rfl, htail⟩

/-! ## Reading a path -/

theorem unseparated_of_split? {path : Text} (h : split? path = none) : Unseparated path := by
  fun_induction split? path with
  | case1 => exact unseparated_nil
  | case2 => cases h
  | case3 => cases h
  | case4 => cases h
  | case5 => cases h
  | case6 c t hdot hcolons ih =>
    refine unseparated_cons.2 ⟨?_, ih (Option.map_eq_none_iff.1 h)⟩
    rintro (_ | _) ⟨rest, hrest⟩
    · exact hdot (List.head_eq_of_cons_eq hrest).symm
    · exact hcolons rest (List.head_eq_of_cons_eq hrest).symm (List.tail_eq_of_cons_eq hrest).symm

theorem exists_lastSeparated_of_split? {path before behind : Text} (h : split? path = some (before, behind)) :
    ∃ s, LastSeparated path before s behind := by
  fun_induction split? path generalizing before behind with
  | case1 => cases h
  | case2 t m n ht ih =>
    cases h
    obtain ⟨s, hs⟩ := ih ht
    exact ⟨s, hs.cons '.'⟩
  | case3 t ht =>
    cases h
    exact ⟨.dot, lastSeparated_iff.2 ⟨rfl, unseparated_of_split? ht⟩⟩
  | case4 t m n ht ih =>
    cases h
    obtain ⟨s, hs⟩ := ih ht
    exact ⟨s, hs.cons ':'⟩
  | case5 t ht =>
    cases h
    exact ⟨.colons, lastSeparated_iff.2 ⟨rfl, unseparated_of_split? ht⟩⟩
  | case6 c t hdot hcolons ih =>
    obtain ⟨⟨m, n⟩, ht, heq⟩ := Option.map_eq_some_iff.1 h
    cases heq
    obtain ⟨s, hs⟩ := ih ht
    exact ⟨s, hs.cons c⟩

/-- **A path without a separator is a bare name.** -/
theorem ofQualified_of_unseparated {path : Text} (h : Unseparated path) : ofQualified path = ⟨[], path⟩ := by
  cases hsplit : split? path with
  | none => rw [ofQualified, hsplit]
  | some sides =>
    obtain ⟨s, hs⟩ := exists_lastSeparated_of_split? hsplit
    exact absurd h hs.not_unseparated

/-- **Any other is split at its last separator.** -/
theorem ofQualified_of_lastSeparated {path before behind : Text} {s : Separator}
    (h : LastSeparated path before s behind) : ofQualified path = ⟨before, behind⟩ := by
  cases hsplit : split? path with
  | none => exact absurd (unseparated_of_split? hsplit) h.not_unseparated
  | some sides =>
    obtain ⟨s', hs'⟩ := exists_lastSeparated_of_split? hsplit
    obtain ⟨hbefore, -, hbehind⟩ := hs'.unique h
    rw [ofQualified, hsplit, ← hbefore, ← hbehind]

theorem exists_lastSeparated {path : Text} (h : ¬ Unseparated path) :
    ∃ s, LastSeparated path (ofQualified path).module s (ofQualified path).name := by
  cases hsplit : split? path with
  | none => exact absurd (unseparated_of_split? hsplit) h
  | some sides =>
    obtain ⟨s, hs⟩ := exists_lastSeparated_of_split? hsplit
    rw [ofQualified_of_lastSeparated hs]
    exact ⟨s, hs⟩

/-! ## From print to path -/

/-- the separator in print is one of the two, and it is the double colon exactly when the module has one -/
theorem exists_separator_eq (p : TypePath) :
    ∃ s : Separator, p.separator = s.text ∧ (s = .colons ↔ Separator.colons.text <:+: p.module) := by
  by_cases h : Separator.colons.text <:+: p.module
  · exact ⟨.colons, if_pos (contains_eq_true_iff.2 h), by simp only [h]⟩
  · exact ⟨.dot, if_neg (mt contains_eq_true_iff.1 h), by simp only [h, reduceCtorEq]⟩

theorem display_of_module_eq_nil {p : TypePath} (h : p.module = []) : p.display = p.name := by
  rw [display, h]
  rfl

theorem display_of_module_ne_nil {p : TypePath} (h : p.module ≠ []) :
    p.display = p.module ++ p.separator ++ p.name := by
  rw [display, List.isEmpty_eq_false_iff.2 h]
  rfl

theorem ofQualified_eq_bare_iff {path : Text} : ofQualified path = ⟨[], path⟩ ↔ Unseparated path := by
  refine ⟨fun h => Classical.byContradiction fun hsep => ?_, ofQualified_of_unseparated⟩
  obtain ⟨s, hs⟩ := exists_lastSeparated hsep
  rw [h] at hs
  have hlength := congrArg List.length hs.eq
  have hpos := List.length_pos_iff.2 s.text_ne_nil
  simp only [List.length_append, List.length_nil] at hlength
  omega

theorem ofQualified_eq_iff {before behind : Text} {s : Separator} :
    ofQualified (before ++ s.text ++ behind) = ⟨before, behind⟩ ↔ Unseparated (s.text ++ behind).tail := by
  constructor
  · intro h
    have hsep : ¬ Unseparated (before ++ s.text ++ behind) := fun hnone => hnone s ⟨before, behind, rfl⟩
    obtain ⟨s', hs'⟩ := exists_lastSeparated hsep
    rw [h] at hs'
    obtain ⟨heq, htail⟩ := lastSeparated_iff.1 hs'
    obtain ⟨rfl, -⟩ := Separator.eq_of_append_eq heq
    exact htail
  · intro h
    exact ofQualified_of_lastSeparated (lastSeparated_iff.2 ⟨rfl, h⟩)

/-- **Which paths are read back from print.** The name must have no separator in it; and where the module has a double
colon, so that one is printed, the name must not begin with a colon. -/
theorem ofQualified_display_iff (p : TypePath) :
    ofQualified p.display = p ↔
      Unseparated p.name ∧ (Separator.colons.text <:+: p.module → ¬ [':'] <+: p.name) := by
  by_cases hmodule : p.module = []
  · have hnone : ¬ Separator.colons.text <:+: p.module := by
      rw [hmodule]
      exact unseparated_nil .colons
    have hp : p = ⟨[], p.name⟩ := by rw [← hmodule]
    rw [display_of_module_eq_nil hmodule, hp, ofQualified_eq_bare_iff]
    exact ⟨fun h => ⟨h, fun hcolons => absurd hcolons (unseparated_nil .colons)⟩, And.left⟩
  · obtain ⟨s, hs, hcolons⟩ := exists_separator_eq p
    rw [display_of_module_ne_nil hmodule, hs, ← hcolons]
    exact ofQualified_eq_iff.trans unseparated_tail_iff

/-- a name that is told apart from any module: no separator in it, and no colon at its start -/
structure PlainName (name : Text) : Prop where
  unseparated : Unseparated name
  noColonFirst : ¬ [':'] <+: name

/-- **A path survives its printed form.** Read back from print, a path with a plain name is the same path, whatever its
module. So the source type of a fault, where the failure claimed no origin, classifies as the fault did. -/
theorem printed_path_reads_back {p : TypePath} (h : PlainName p.name) :
    ofQualified p.display = p ∧
      ∀ (k : Classifier) (f : Failure), f.path = p → f.hint = none →
        k.classifyPath (ofQualified (Fault.ofFailure k f).sourceType) = (Fault.ofFailure k f).classification := by
  have hback : ofQualified p.display = p := (ofQualified_display_iff p).2 ⟨h.unseparated, fun _ => h.noColonFirst⟩
  refine ⟨hback, ?_⟩
  rintro k f rfl hhint
  calc k.classifyPath (ofQualified (Fault.ofFailure k f).sourceType)
      = k.classifyPath (ofQualified f.path.display) := rfl
    _ = k.classifyPath f.path := by rw [hback]
    _ = k.classify f := (k.classify_of_hint_eq_none hhint).symm
    _ = (Fault.ofFailure k f).classification := rfl

/-- a module that ends in a colon, so that three of them stand before the name in print -/
theorem printed_path_reads_back_three_colons :
    let p : TypePath := ⟨"db::x:", "Y"⟩
    let f : Failure := ForeignError.failure ⟨"db::x:", "Y", "late"⟩
    (PlainName p.name ∧ f.path = p ∧ f.hint = none) ∧ p.display = "db::x:::Y" ∧ ofQualified p.display = p ∧
      Classifier.standard.classifyPath (ofQualified (Fault.ofFailure .standard f).sourceType) =
        (Fault.ofFailure .standard f).classification := by
  intro p f
  have hname : PlainName p.name := ⟨by decide, by decide⟩
  have hback := printed_path_reads_back hname
  exact ⟨⟨hname, rfl, rfl⟩, by decide, hback.1, hback.2 .standard f rfl rfl⟩

/-! ## From path to print -/

/-- **Which texts are printed back.** With text before the last separator, it must be the double colon exactly when there
is another double colon before it. -/
theorem display_ofQualified_iff {path before behind : Text} {s : Separator} (h : LastSeparated path before s behind)
    (hbefore : before ≠ []) :
    (ofQualified path).display = path ↔ (s = .colons ↔ Separator.colons.text <:+: before) := by
  obtain ⟨s', hs', hcolons⟩ := exists_separator_eq ⟨before, behind⟩
  rw [ofQualified_of_lastSeparated h, display_of_module_ne_nil hbefore, hs', ← hcolons, h.eq]
  constructor
  · intro heq
    obtain ⟨rfl, -⟩ := Separator.eq_of_append_eq heq
    exact Iff.rfl
  · intro hsame
    have hs : s' = s := by cases s <;> cases s' <;> simp_all
    rw [hs]

/-- the character that the other separator is made of; a path in one style does not have it -/
def Separator.foreignMark : Separator → Char
  | dot => ':'
  | colons => '.'

/-- **A text in one style is printed back, but for one with a single double colon.** With text before its last separator,
a text with dots and no colon is printed as it was. One with double colons and no dot is when there is a double colon
before the last one, and only then. -/
theorem display_ofQualified_one_style {path before behind : Text} {s : Separator}
    (h : LastSeparated path before s behind) (hbefore : before ≠ []) (hstyle : s.foreignMark ∉ path) :
    (ofQualified path).display = path ↔ (s = .colons → Separator.colons.text <:+: before) := by
  rw [display_ofQualified_iff h hbefore]
  cases s with
  | dot =>
    have hcolon : ':' ∉ before := by
      intro hc
      apply hstyle
      rw [h.eq, List.append_assoc]
      exact List.mem_append_left _ hc
    have hnone : ¬ Separator.colons.text <:+: before := fun hin => hcolon (hin.subset List.mem_cons_self)
    simp only [hnone, reduceCtorEq, false_imp_iff]
  | colons => simp only [true_iff, forall_const]

/-- three segments with a double colon between each two -/
theorem display_ofQualified_one_style_three_segments :
    (LastSeparated "a::b::c" "a::b" .colons "c" ∧ "a::b".toList ≠ [] ∧
        Separator.colons.foreignMark ∉ "a::b::c".toList) ∧
      (ofQualified "a::b::c").display = "a::b::c" := by
  have hlast : LastSeparated "a::b::c" "a::b" .colons "c" := lastSeparated_iff.2 ⟨rfl, by decide⟩
  have hbefore : "a::b".toList ≠ [] := by decide
  have hstyle : Separator.colons.foreignMark ∉ "a::b::c".toList := by decide
  have hcolons : Separator.colons.text <:+: "a::b".toList := ⟨['a'], ['b'], rfl⟩
  exact ⟨⟨hlast, hbefore, hstyle⟩, (display_ofQualified_one_style hlast hbefore hstyle).2 fun _ => hcolons⟩

/-- the least path with a double colon: read, it is the same as with a dot, so print cannot tell them apart -/
theorem single_colons_printed_as_dot :
    (LastSeparated "a::b" ['a'] .colons ['b'] ∧ ['a'] ≠ [] ∧ ['b'] ≠ [] ∧
        Separator.colons.foreignMark ∉ "a::b".toList) ∧
      (ofQualified "a::b").display = "a.b" ∧ (ofQualified "a::b").display ≠ "a::b" ∧
      ofQualified "a.b" = ofQualified "a::b" :=
  ⟨⟨lastSeparated_iff.2 ⟨rfl, by decide⟩, by decide⟩, by decide⟩

end TypePath

end FaultCodes
