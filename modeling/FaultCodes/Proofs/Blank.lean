/-
Lines, trimming and fields: what splitting gives back of a text that was put together.

- `lines_flatMap_feed`: lines that were written one after the other, each with a line feed behind it, are read back.
- `fields_append_word`: a word without white space is a field of its own when white space or nothing follows it.
- `oneLine_of_suffix_trim`: any end of a trimmed line is still one line, also when the line ended with a carriage return.
- `fields_eq_pair_iff`: a trimmed line has two given fields exactly when it is these two words with white space between.
-/
import FaultCodes.Text.Blank
import FaultCodes.Proofs.Text

namespace FaultCodes.Text

/-! ## Lines -/

/-- may stand as a line: no line feed in it, and no carriage return at its end, which would go with the line feed -/
structure OneLine (l : Text) : Prop where
  noFeed : '\n' ∉ l
  noReturn : l.getLast? ≠ some '\r'

theorem OneLine.tail {c : Char} {l : Text} (h : OneLine (c :: l)) : OneLine l := by
  refine ⟨fun hm => h.noFeed (List.mem_cons_of_mem c hm), fun hl => h.noReturn ?_⟩
  rw [List.getLast?_cons, hl]
  rfl

theorem OneLine.append {s t : Text} (hs : '\n' ∉ s) (ht : OneLine t) (hne : t ≠ []) : OneLine (s ++ t) := by
  refine ⟨fun h => (List.mem_append.1 h).elim hs ht.noFeed, ?_⟩
  rw [List.getLast?_append, List.getLast?_eq_some_getLast hne, Option.some_or, ← List.getLast?_eq_some_getLast hne]
  exact ht.noReturn

theorem lines_cons {c : Char} {t : Text} (hc : c ≠ '\n') (hreturn : c = '\r' → t.head? ≠ some '\n') :
    lines (c :: t) = pushFirst c (lines t) := by
  rw [lines]
  · rintro rfl
    exact hc rfl
  · rintro t' rfl rfl
    exact hreturn rfl rfl

theorem lines_append_feed {l : Text} (h : OneLine l) (rest : Text) : lines (l ++ '\n' :: rest) = l :: lines rest := by
  induction l with
  | nil => rfl
  | cons c l ih =>
    have hc : c ≠ '\n' := fun hc => h.noFeed (hc ▸ List.mem_cons_self)
    have hreturn : c = '\r' → (l ++ '\n' :: rest).head? ≠ some '\n' := by
      rintro rfl
      cases l with
      | nil => exact absurd rfl h.noReturn
      | cons d l =>
        intro hd
        exact h.noFeed (Option.some.inj hd ▸ List.mem_cons_of_mem _ List.mem_cons_self)
    rw [List.cons_append, lines_cons hc hreturn, ih h.tail, pushFirst]

/-- **Lines that were written are read back.** -/
theorem lines_flatMap_feed {ls : List Text} (h : ∀ l ∈ ls, OneLine l) : lines (ls.flatMap (· ++ ['\n'])) = ls := by
  induction ls with
  | nil => rfl
  | cons l ls ih =>
    obtain ⟨hl, hls⟩ := List.forall_mem_cons.1 h
    rw [List.flatMap_cons, List.append_assoc, List.singleton_append, lines_append_feed hl, ih hls]

theorem feed_not_mem_of_mem_pushFirst {c : Char} {ls : List Text} (hc : c ≠ '\n') (h : ∀ l ∈ ls, '\n' ∉ l) :
    ∀ l ∈ pushFirst c ls, '\n' ∉ l := by
  cases ls with
  | nil =>
    intro l hl
    rw [List.mem_singleton.1 hl, List.mem_singleton]
    exact fun he => hc he.symm
  | cons l' ls =>
    obtain ⟨hl', hls⟩ := List.forall_mem_cons.1 h
    refine List.forall_mem_cons.2 ⟨fun hm => ?_, hls⟩
    rcases List.mem_cons.1 hm with he | hm
    · exact hc he.symm
    · exact hl' hm

theorem feed_not_mem_of_mem_lines (t : Text) : ∀ l ∈ lines t, '\n' ∉ l := by
  fun_induction lines t with
  | case1 => exact fun l hl => absurd hl List.not_mem_nil
  | case2 t ih => exact List.forall_mem_cons.2 ⟨List.not_mem_nil, ih⟩
  | case3 t ih => exact List.forall_mem_cons.2 ⟨List.not_mem_nil, ih⟩
  | case4 c t hc _ ih => exact feed_not_mem_of_mem_pushFirst hc ih

/-! ## Trimming -/

theorem mem_of_mem_trim {t : Text} {c : Char} (h : c ∈ trim t) : c ∈ t := by
  have hfront := (List.dropWhile_sublist isBlank).subset (List.mem_reverse.1 h)
  exact (List.dropWhile_sublist isBlank).subset (List.mem_reverse.1 hfront)

/-- a trimmed text does not end with white space -/
theorem isBlank_getLast_trim {t : Text} {c : Char} (h : (trim t).getLast? = some c) : isBlank c = false := by
  rw [trim, List.getLast?_reverse] at h
  have hhead := List.head?_dropWhile_not isBlank (t.dropWhile isBlank).reverse
  rw [h] at hhead
  simpa using hhead

/-- no white space at either end -/
structure Trimmed (t : Text) : Prop where
  front : ∀ c, t.head? = some c → isBlank c = false
  back : ∀ c, t.getLast? = some c → isBlank c = false

theorem trimmed_trim (t : Text) : Trimmed (trim t) where
  front := by
    intro c hc
    have hprefix : trim t <+: t.dropWhile isBlank := by
      rw [← List.reverse_suffix, trim, List.reverse_reverse]
      exact List.dropWhile_suffix isBlank
    obtain ⟨rest, hrest⟩ := hprefix
    have hhead := List.head?_dropWhile_not isBlank t
    rw [← hrest, List.head?_append, hc, Option.some_or] at hhead
    exact hhead
  back := fun _ hc => isBlank_getLast_trim hc

/-- any end of a trimmed line is one line -/
theorem oneLine_of_suffix_trim {l t : Text} (hl : '\n' ∉ l) (h : t <:+ trim l) : OneLine t := by
  refine ⟨fun hm => hl (mem_of_mem_trim (h.subset hm)), fun hlast => ?_⟩
  obtain ⟨s, hs⟩ := h
  have htrim : (trim l).getLast? = some '\r' := by
    rw [← hs, List.getLast?_append, hlast]
    rfl
  exact absurd (isBlank_getLast_trim htrim) (by decide)

/-! ## Fields -/

/-- Visible ASCII is no white space. -/
theorem isBlank_of_visible {c : Char} (hlow : 0x21 ≤ c.toNat) (hhigh : c.toNat ≤ 0x7E) : isBlank c = false := by
  grind [isBlank, blankRanges, inRanges]

/-- may stand as a field: not empty, and no white space in it -/
structure Word (w : Text) : Prop where
  nonempty : w ≠ []
  blankFree : ∀ c ∈ w, isBlank c = false

instance (w : Text) : Decidable (Word w) :=
  decidable_of_iff (w ≠ [] ∧ w.all (fun c => !isBlank c) = true)
    ⟨fun h => ⟨h.1, by simpa using h.2⟩, fun h => ⟨h.nonempty, by simpa using h.blankFree⟩⟩

theorem Word.append {v w : Text} (hv : Word v) (hw : Word w) : Word (v ++ w) :=
  ⟨List.append_ne_nil_of_left_ne_nil hv.nonempty w, List.forall_mem_append.2 ⟨hv.blankFree, hw.blankFree⟩⟩

theorem Word.noFeed {w : Text} (h : Word w) : '\n' ∉ w :=
  fun hm => absurd (h.blankFree _ hm) (by decide)

theorem fields_cons_blank {c : Char} (hc : isBlank c = true) (t : Text) : fields (c :: t) = fields t := by
  rw [fields.eq_def]
  exact if_pos hc

/-- a character of a word is a word of its own, or belongs to the word of the character behind it -/
theorem fields_cons_word {c : Char} (hc : isBlank c = false) (t : Text) :
    fields (c :: t) = if t.head?.all isBlank then [c] :: fields t else pushFirst c (fields t) := by
  rw [fields.eq_def]
  cases t with
  | nil => simp [hc, fields]
  | cons d t => exact if_neg (by simp [hc])

theorem fields_append_blanks {b : Text} (hb : b.all isBlank = true) (t : Text) : fields (b ++ t) = fields t := by
  induction b with
  | nil => rfl
  | cons c b ih =>
    obtain ⟨hc, hb⟩ := Bool.and_eq_true_iff.1 hb
    rw [List.cons_append, fields_cons_blank hc, ih hb]

/-- a word with white space or nothing behind it is a field -/
theorem fields_append_word {w rest : Text} (hw : Word w) (hrest : rest.head?.all isBlank = true) :
    fields (w ++ rest) = w :: fields rest := by
  obtain ⟨hne, hw⟩ := hw
  induction w with
  | nil => exact absurd rfl hne
  | cons c w ih =>
    obtain ⟨hc, hw⟩ := List.forall_mem_cons.1 hw
    rw [List.cons_append, fields_cons_word hc]
    cases w with
    | nil => exact if_pos hrest
    | cons d w =>
      have hd : ¬ (d :: w ++ rest).head?.all isBlank = true := by
        simp [hw d List.mem_cons_self]
      rw [if_neg hd, ih (List.cons_ne_nil d w) hw, pushFirst]

theorem fields_word {w : Text} (hw : Word w) : fields w = [w] := by
  have h : fields (w ++ []) = w :: fields [] := fields_append_word hw rfl
  rwa [List.append_nil] at h

theorem fields_word_blank {w : Text} {c : Char} (hw : Word w) (hc : isBlank c = true) (rest : Text) :
    fields (w ++ c :: rest) = w :: fields rest := by
  have hhead : (c :: rest).head?.all isBlank = true := hc
  rw [fields_append_word hw hhead, fields_cons_blank hc]

/-- the first field, with what stands before it and behind it, unless there is none -/
theorem fields_cases (t : Text) : t.all isBlank = true ∧ fields t = [] ∨
    ∃ b w rest, t = b ++ (w ++ rest) ∧ b.all isBlank = true ∧ Word w ∧ rest.head?.all isBlank = true ∧
      fields t = w :: fields rest := by
  have hsplit : t.takeWhile isBlank ++ t.dropWhile isBlank = t := List.takeWhile_append_dropWhile
  have hhead := List.head?_dropWhile_not isBlank t
  generalize t.dropWhile isBlank = r at hsplit hhead
  have hblank : (t.takeWhile isBlank).all isBlank = true := List.all_takeWhile
  generalize t.takeWhile isBlank = b at hsplit hblank
  subst hsplit
  rw [fields_append_blanks hblank]
  cases r with
  | nil => exact .inl ⟨by rwa [List.append_nil], rfl⟩
  | cons c r =>
    let visible (c : Char) : Bool := !isBlank c
    have hword : Word ((c :: r).takeWhile visible) := by
      refine ⟨?_, fun d hd => ?_⟩
      · rw [List.takeWhile_cons_of_pos (by simpa [visible] using hhead)]
        exact List.cons_ne_nil _ _
      · have hd' := List.all_eq_true.1 (List.all_takeWhile (p := visible) (l := c :: r)) d hd
        simpa [visible] using hd'
    have hrest : ((c :: r).dropWhile visible).head?.all isBlank = true := by
      have hstop := List.head?_dropWhile_not visible (c :: r)
      cases hd : ((c :: r).dropWhile visible).head? with
      | none => rfl
      | some d =>
        rw [hd] at hstop
        simpa [visible] using hstop
    have hparts : (c :: r).takeWhile visible ++ (c :: r).dropWhile visible = c :: r :=
      List.takeWhile_append_dropWhile
    refine .inr ⟨b, _, _, by rw [hparts], hblank, hword, hrest, ?_⟩
    rw [← fields_append_word hword hrest, hparts]

theorem all_isBlank_of_fields_eq_nil {t : Text} (h : fields t = []) : t.all isBlank = true := by
  rcases fields_cases t with ⟨hblank, -⟩ | ⟨_, _, _, -, -, -, -, hfields⟩
  · exact hblank
  · rw [h] at hfields
    cases hfields

/-- white space before or behind a trimmed text is none at all -/
theorem Trimmed.eq_nil_of_blank {b t tail : Text} (h : Trimmed (b ++ (t ++ tail))) (hb : b.all isBlank = true)
    (htail : tail.all isBlank = true) : b = [] ∧ tail = [] := by
  constructor
  · cases b with
    | nil => rfl
    | cons c b =>
      have hc := h.front c rfl
      rw [(Bool.and_eq_true_iff.1 hb).1] at hc
      cases hc
  · rw [← List.getLast?_eq_none_iff]
    cases hlast : tail.getLast? with
    | none => rfl
    | some c =>
      have hc := h.back c (by rw [List.getLast?_append, List.getLast?_append, hlast, Option.some_or, Option.some_or])
      rw [List.all_eq_true.1 htail c (List.mem_of_getLast? hlast)] at hc
      cases hc

/-- two words with white space between them -/
def TwoFields (t first second : Text) : Prop :=
  ∃ gap, t = first ++ (gap ++ second) ∧ Word first ∧ Word second ∧ gap ≠ [] ∧ gap.all isBlank = true

/-- **Two fields.** -/
theorem fields_eq_pair_iff {t first second : Text} (ht : Trimmed t) :
    fields t = [first, second] ↔ TwoFields t first second := by
  constructor
  · intro h
    rcases fields_cases t with ⟨-, hnone⟩ | ⟨b, w, rest, rfl, hb, hw, hrest, hfields⟩
    · rw [h] at hnone
      cases hnone
    rw [h] at hfields
    obtain ⟨rfl, hsecond⟩ := List.cons.inj hfields
    rcases fields_cases rest with ⟨-, hnone⟩ | ⟨gap, w', tail, rfl, hgap, hw', -, hfields'⟩
    · rw [hnone] at hsecond
      cases hsecond
    rw [hfields'] at hsecond
    obtain ⟨rfl, htail⟩ := List.cons.inj hsecond
    have hassoc : b ++ (first ++ (gap ++ (second ++ tail))) = b ++ ((first ++ (gap ++ second)) ++ tail) := by
      simp only [List.append_assoc]
    rw [hassoc] at ht
    obtain ⟨rfl, rfl⟩ := ht.eq_nil_of_blank hb (all_isBlank_of_fields_eq_nil htail.symm)
    refine ⟨gap, by rw [List.nil_append, List.append_nil], hw, hw', ?_, hgap⟩
    rintro rfl
    -- without a gap the second word would begin where the first one ends
    obtain ⟨c, second, rfl⟩ := List.exists_cons_of_ne_nil hw'.nonempty
    have hc := hw'.blankFree c List.mem_cons_self
    rw [show isBlank c = true from hrest] at hc
    cases hc
  · rintro ⟨gap, rfl, hfirst, hsecond, hne, hgap⟩
    have hhead : (gap ++ second).head?.all isBlank = true := by
      obtain ⟨c, gap, rfl⟩ := List.exists_cons_of_ne_nil hne
      exact (Bool.and_eq_true_iff.1 hgap).1
    rw [fields_append_word hfirst hhead, fields_append_blanks hgap, fields_word hsecond]

end FaultCodes.Text
