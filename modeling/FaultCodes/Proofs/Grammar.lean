/-
The grammar of listings, and which line is blamed where a text is not in it.

What the lines say is settled line by line. A trimmed line that is neither empty nor a comment has to say an entry
(`IsEntry`): a name, white space and the numeral of a code. Where it does not, `Wrong` says what is reported, the first
that applies of three causes.
- `readEntry_eq_ok_iff_isEntry`, `readEntry_eq_error_iff`: the reader of entry lines goes by these two.
- `readLines_eq_error_iff`, by induction along the lines: the first line at fault is reported, with its number.
- `exists_read_iff`: a listing is read exactly when it is in the grammar.
- `read_eq_error_iff`: and otherwise as `Blamed` says.
- `read_congr`: what is read depends on the documentation lines and on the fields of the entry lines, on nothing else.
-/
import FaultCodes.Proofs.Listing

namespace FaultCodes.Listing

open Text

/-! ## Entry lines -/

/-- what an entry line says: a name made of name characters, and behind white space the numeral of the code -/
def IsEntry (line : Text) (e : Entry) : Prop :=
  ∃ numeral, TwoFields line e.1 numeral ∧ (∀ c ∈ e.1, isNameChar c = true) ∧ Decimal.Denotes numeral e.2.toInt

/-- what is reported of a line that says no entry: its shape, then its name, then its code -/
inductive Wrong (line : Text) : LineProblem → Prop where
  | shape (h : ∀ first second, ¬ TwoFields line first second) : Wrong line (.shape line)
  | name {name numeral : Text} (h : TwoFields line name numeral) (hname : ∃ c ∈ name, isNameChar c = false) :
    Wrong line (.name name)
  | code {name numeral : Text} (h : TwoFields line name numeral) (hname : ∀ c ∈ name, isNameChar c = true)
    (hcode : ∀ v : Int32, ¬ Decimal.Denotes numeral v.toInt) : Wrong line (.code numeral)

theorem readEntry_eq_ok_iff_isEntry {line : Text} (h : Trimmed line) {e : Entry} :
    readEntry line = .ok e ↔ IsEntry line e := by
  simp only [readEntry_eq_ok_iff, Says, IsEntry, fields_eq_pair_iff h, Decimal.readInt32_eq_ok_iff, List.all_eq_true]
  constructor
  · rintro ⟨⟨numeral, hfields, hcode⟩, hname⟩
    exact ⟨numeral, hfields, hname, hcode⟩
  · rintro ⟨numeral, hfields, hname, hcode⟩
    exact ⟨⟨numeral, hfields, hcode⟩, hname⟩

theorem readEntry_eq_error_iff {line : Text} (h : Trimmed line) {problem : LineProblem} :
    readEntry line = .error problem ↔ Wrong line problem := by
  constructor
  · intro hread
    unfold readEntry at hread
    split at hread
    · next name numeral hfields =>
      have htwo := (fields_eq_pair_iff h).1 hfields
      split at hread
      · next hname =>
        split at hread
        · cases hread
        · next hcode =>
          cases hread
          refine .code htwo (List.all_eq_true.1 hname) fun v hv => ?_
          rw [Decimal.readInt32_eq_ok_iff.2 hv] at hcode
          cases hcode
      · next hname =>
        cases hread
        exact .name htwo (by simpa using hname)
    · next hfields =>
      cases hread
      exact .shape fun first second htwo => hfields first second ((fields_eq_pair_iff h).2 htwo)
  · intro hwrong
    cases hwrong with
    | shape hshape =>
      unfold readEntry
      split
      · next name numeral hfields => exact absurd ((fields_eq_pair_iff h).1 hfields) (hshape name numeral)
      · rfl
    | name htwo hname =>
      simp only [readEntry, (fields_eq_pair_iff h).2 htwo]
      exact if_neg (by simpa using hname)
    | @code name numeral htwo hname hcode =>
      simp only [readEntry, (fields_eq_pair_iff h).2 htwo, List.all_eq_true.2 hname, if_true]
      cases hread : Decimal.readInt32 numeral with
      | ok v => exact absurd (Decimal.readInt32_eq_ok_iff.1 hread) (hcode v)
      | error _ => rfl

/-! ## Line by line -/

/-- a line that does not stop the reader: if it is an entry line, it says an entry -/
def Regular (l : Text) : Prop :=
  isEntryLine (trim l) = true → ∃ e, IsEntry (trim l) e

/-- a line that stops the reader, and what is reported of it -/
def AtFault (l : Text) (problem : LineProblem) : Prop :=
  isEntryLine (trim l) = true ∧ Wrong (trim l) problem

theorem ofTrimmed_of_isEntryLine {l : Text} (h : isEntryLine l = true) : Line.ofTrimmed l = .entry l :=
  ofTrimmed_eq_entry_iff.2 ⟨h, rfl⟩

theorem readLines_of_atFault {n : Nat} {l : Text} {ls : List Text} {problem : LineProblem} (h : AtFault l problem) :
    readLines n (l :: ls) = .error (.line n problem) := by
  have hwrong := (readEntry_eq_error_iff (trimmed_trim l)).2 h.2
  simp only [readLines, ofTrimmed_of_isEntryLine h.1, hwrong]

theorem exists_atFault_of_not_regular {l : Text} (h : ¬ Regular l) : ∃ problem, AtFault l problem := by
  obtain ⟨hline, hnone⟩ := Classical.not_imp.1 h
  cases hread : readEntry (trim l) with
  | ok e => exact absurd ⟨e, (readEntry_eq_ok_iff_isEntry (trimmed_trim l)).1 hread⟩ hnone
  | error problem => exact ⟨problem, hline, (readEntry_eq_error_iff (trimmed_trim l)).1 hread⟩

theorem AtFault.not_regular {l : Text} {problem : LineProblem} (h : AtFault l problem) : ¬ Regular l := by
  intro hregular
  obtain ⟨e, he⟩ := hregular h.1
  have hok := (readEntry_eq_ok_iff_isEntry (trimmed_trim l)).2 he
  rw [(readEntry_eq_error_iff (trimmed_trim l)).2 h.2] at hok
  cases hok

theorem readLines_of_regular {n : Nat} {l : Text} {ls : List Text} (h : Regular l) {problem : ListingProblem} :
    readLines n (l :: ls) = .error problem ↔ readLines (n + 1) ls = .error problem := by
  rw [readLines]
  split
  · exact except_bind_pure_eq_error_iff
  · exact Iff.rfl
  · next line hl =>
    obtain ⟨hline, rfl⟩ := ofTrimmed_eq_entry_iff.1 hl
    obtain ⟨e, he⟩ := h hline
    rw [(readEntry_eq_ok_iff_isEntry (trimmed_trim l)).2 he]
    exact except_bind_pure_eq_error_iff

theorem AtFault.unique {l : Text} {problem problem' : LineProblem} (h : AtFault l problem) (h' : AtFault l problem') :
    problem = problem' := by
  have hread := (readEntry_eq_error_iff (trimmed_trim l)).2 h.2
  rw [(readEntry_eq_error_iff (trimmed_trim l)).2 h'.2] at hread
  exact (Except.error.inj hread).symm

/-- the first line at fault is reported with its number, where the first line has the number `n` -/
def FirstFault (n : Nat) (ls : List Text) (p : ListingProblem) : Prop :=
  ∃ before l after problem, ls = before ++ l :: after ∧ (∀ q ∈ before, Regular q) ∧ AtFault l problem ∧
    p = .line (n + before.length) problem

theorem firstFault_cons_of_regular {n : Nat} {l : Text} {ls : List Text} {p : ListingProblem} (hl : Regular l) :
    FirstFault n (l :: ls) p ↔ FirstFault (n + 1) ls p := by
  constructor
  · rintro ⟨before, l', after, problem, hls, hbefore, hfault, rfl⟩
    cases before with
    | nil =>
      obtain ⟨rfl, -⟩ := List.cons.inj hls
      exact absurd hl hfault.not_regular
    | cons q before =>
      obtain ⟨rfl, rfl⟩ := List.cons.inj hls
      refine ⟨before, l', after, problem, rfl, (List.forall_mem_cons.1 hbefore).2, hfault, ?_⟩
      rw [List.length_cons, Nat.add_assoc, Nat.add_comm 1]
  · rintro ⟨before, l', after, problem, rfl, hbefore, hfault, rfl⟩
    refine ⟨l :: before, l', after, problem, rfl, List.forall_mem_cons.2 ⟨hl, hbefore⟩, hfault, ?_⟩
    rw [List.length_cons, Nat.add_assoc, Nat.add_comm 1]

theorem firstFault_cons_of_atFault {n : Nat} {l : Text} {ls : List Text} {p : ListingProblem} {problem : LineProblem}
    (h : AtFault l problem) : FirstFault n (l :: ls) p ↔ p = .line n problem := by
  constructor
  · rintro ⟨before, l', after, problem', hls, hbefore, hfault, rfl⟩
    cases before with
    | nil =>
      obtain ⟨rfl, -⟩ := List.cons.inj hls
      rw [h.unique hfault, List.length_nil, Nat.add_zero]
    | cons q before =>
      obtain ⟨rfl, -⟩ := List.cons.inj hls
      exact absurd (List.forall_mem_cons.1 hbefore).1 h.not_regular
  · rintro rfl
    exact ⟨[], l, ls, problem, rfl, fun q hq => absurd hq List.not_mem_nil, h, rfl⟩

/-- **The first line at fault is reported.** -/
theorem readLines_eq_error_iff {n : Nat} {ls : List Text} {p : ListingProblem} :
    readLines n ls = .error p ↔ FirstFault n ls p := by
  induction ls generalizing n with
  | nil => simp [readLines, FirstFault]
  | cons l ls ih =>
    by_cases hl : Regular l
    · rw [readLines_of_regular hl, firstFault_cons_of_regular hl, ih]
    · obtain ⟨problem, hfault⟩ := exists_atFault_of_not_regular hl
      rw [readLines_of_atFault hfault, firstFault_cons_of_atFault hfault, Except.error.injEq, eq_comm]

/-! ## The whole text -/

/-- a documentation line without its mark and without one leading space -/
def docOf? : Text → Option Text
  | '#' :: '!' :: ' ' :: doc => some doc
  | '#' :: '!' :: doc => some doc
  | _ => none

/-- the documentation that lines hold, in their order -/
def docsIn (ls : List Text) : List Text :=
  (ls.map trim).filterMap docOf?

/-- the entry lines among lines, trimmed, in their order -/
def entriesIn (ls : List Text) : List Text :=
  (ls.map trim).filter isEntryLine

/-- the documentation of a listing, in file order -/
def docLines (text : Text) : List Text :=
  docsIn (lines text)

/-- the texts that are listings: every entry line says an entry, and there is at least one -/
def Accepted (text : Text) : Prop :=
  (∀ line ∈ entryLines text, ∃ e, IsEntry line e) ∧ entryLines text ≠ []

/-- what is reported of a text that is no listing: the first line at fault, or that no line says an entry -/
def Blamed (text : Text) : ListingProblem → Prop
  | .line number problem => ∃ before l after, lines text = before ++ l :: after ∧ number = before.length + 1 ∧
      (∀ q ∈ before, Regular q) ∧ AtFault l problem
  | .noEntries => entryLines text = []

theorem docOf?_eq_some_iff {l doc : Text} : docOf? l = some doc ↔ Line.ofTrimmed l = .doc doc := by
  fun_cases Line.ofTrimmed l <;> simp_all [docOf?]

variable {l : Text} {ls : List Text}

theorem docsIn_doc {doc : Text} (h : Line.ofTrimmed (trim l) = .doc doc) : docsIn (l :: ls) = doc :: docsIn ls := by
  rw [docsIn, List.map_cons, List.filterMap_cons_some (docOf?_eq_some_iff.2 h), docsIn]

theorem docsIn_of_ne (h : ∀ doc, Line.ofTrimmed (trim l) ≠ .doc doc) : docsIn (l :: ls) = docsIn ls := by
  have hnone : docOf? (trim l) = none := by
    cases hdoc : docOf? (trim l) with
    | none => rfl
    | some doc => exact absurd (docOf?_eq_some_iff.1 hdoc) (h doc)
  rw [docsIn, List.map_cons, List.filterMap_cons_none hnone, docsIn]

theorem entriesIn_entry (h : isEntryLine (trim l) = true) : entriesIn (l :: ls) = trim l :: entriesIn ls := by
  rw [entriesIn, List.map_cons, List.filter_cons_of_pos h, entriesIn]

theorem entriesIn_of_ne (h : ∀ t, Line.ofTrimmed (trim l) ≠ .entry t) : entriesIn (l :: ls) = entriesIn ls := by
  rw [entriesIn, List.map_cons, List.filter_cons_of_neg (not_isEntryLine_of_ne h), entriesIn]

/-- The lines one by one say what the documentation lines and the entry lines say, each kind taken for itself. -/
theorem listed_iff {r : Listing} : Listed ls r ↔
    r.docs = docsIn ls ∧ List.Forall₂ (fun line e => readEntry line = .ok e) (entriesIn ls) r.entries := by
  constructor
  · intro h
    induction h with
    | nil => exact ⟨rfl, .nil⟩
    | doc hl _ ih =>
      rw [docsIn_doc hl, entriesIn_of_ne (by simp [hl])]
      exact ⟨congrArg _ ih.1, ih.2⟩
    | skipped hl _ ih =>
      rw [docsIn_of_ne (by simp [hl]), entriesIn_of_ne (by simp [hl])]
      exact ih
    | entry hl he _ ih =>
      obtain ⟨hline, rfl⟩ := ofTrimmed_eq_entry_iff.1 hl
      rw [docsIn_of_ne (by simp [hl]), entriesIn_entry hline]
      exact ⟨ih.1, .cons he ih.2⟩
  · intro h
    induction ls generalizing r with
    | nil =>
      obtain ⟨docs, entries⟩ := r
      obtain ⟨rfl, hentries⟩ := h
      cases hentries
      exact .nil
    | cons l ls ih =>
      obtain ⟨docs, entries⟩ := r
      cases hl : Line.ofTrimmed (trim l) with
      | doc doc =>
        rw [docsIn_doc hl, entriesIn_of_ne (by simp [hl])] at h
        obtain ⟨rfl, hentries⟩ := h
        exact .doc hl (ih (r := ⟨_, entries⟩) ⟨rfl, hentries⟩)
      | skipped =>
        rw [docsIn_of_ne (by simp [hl]), entriesIn_of_ne (by simp [hl])] at h
        exact .skipped hl (ih h)
      | entry line =>
        obtain ⟨hline, rfl⟩ := ofTrimmed_eq_entry_iff.1 hl
        rw [docsIn_of_ne (by simp [hl]), entriesIn_entry hline] at h
        obtain ⟨hdocs, hentries⟩ := h
        obtain ⟨e, entries, he, hrest, rfl⟩ := List.forall₂_cons_left_iff.1 hentries
        exact .entry hl he (ih (r := ⟨docs, entries⟩) ⟨hdocs, hrest⟩)

theorem trimmed_of_mem_entryLines {text line : Text} (h : line ∈ entryLines text) : Trimmed line := by
  obtain ⟨l, -, rfl⟩ := List.mem_map.1 (List.mem_filter.1 h).1
  exact trimmed_trim l

/-- on entry lines the reader says what the grammar says -/
theorem forall₂_readEntry_iff {text : Text} {entries : List Entry} :
    List.Forall₂ (fun line e => readEntry line = .ok e) (entryLines text) entries ↔
      List.Forall₂ IsEntry (entryLines text) entries := by
  have htrimmed : ∀ line ∈ entryLines text, Trimmed line := fun _ hline => trimmed_of_mem_entryLines hline
  constructor
  · intro h
    refine ((List.forall₂_and_left _ _).2 ⟨htrimmed, h⟩).imp fun line e hline => ?_
    exact (readEntry_eq_ok_iff_isEntry hline.1).1 hline.2
  · intro h
    refine ((List.forall₂_and_left _ _).2 ⟨htrimmed, h⟩).imp fun line e hline => ?_
    exact (readEntry_eq_ok_iff_isEntry hline.1).2 hline.2

/-- **What is read.** -/
theorem read_eq_ok_iff_isEntry {text : Text} {r : Listing} : read text = .ok r ↔
    r.docs = docLines text ∧ List.Forall₂ IsEntry (entryLines text) r.entries ∧ entryLines text ≠ [] := by
  rw [read_eq_ok_iff, listed_iff, and_assoc]
  refine and_congr_right fun _ => ?_
  change List.Forall₂ _ (entryLines text) _ ∧ _ ↔ _
  rw [forall₂_readEntry_iff]
  refine and_congr_right fun hentries => not_congr ?_
  rw [← List.length_eq_zero_iff, ← List.length_eq_zero_iff, hentries.length_eq]

/-- **A text is read exactly when it is a listing.** -/
theorem exists_read_iff {text : Text} : (∃ r, read text = .ok r) ↔ Accepted text := by
  simp only [read_eq_ok_iff_isEntry, Accepted, ← exists_forall₂_iff]
  constructor
  · rintro ⟨r, -, hentries, hne⟩
    exact ⟨⟨r.entries, hentries⟩, hne⟩
  · rintro ⟨⟨entries, hentries⟩, hne⟩
    exact ⟨⟨docLines text, entries⟩, rfl, hentries, hne⟩

theorem entryLines_ne_nil_of_firstFault {text : Text} {n : Nat} {p : ListingProblem}
    (h : FirstFault n (lines text) p) : entryLines text ≠ [] := by
  obtain ⟨before, l, after, problem, hlines, -, hfault, -⟩ := h
  have hl : l ∈ lines text := hlines ▸ List.mem_append_right _ List.mem_cons_self
  exact List.ne_nil_of_mem (List.mem_filter.2 ⟨List.mem_map_of_mem hl, hfault.1⟩)

theorem blamed_line_iff {text : Text} {number : Nat} {problem : LineProblem} :
    Blamed text (.line number problem) ↔ FirstFault 1 (lines text) (.line number problem) := by
  constructor
  · rintro ⟨before, l, after, hlines, rfl, hbefore, hfault⟩
    exact ⟨before, l, after, problem, hlines, hbefore, hfault, by rw [Nat.add_comm]⟩
  · rintro ⟨before, l, after, problem', hlines, hbefore, hfault, heq⟩
    obtain ⟨rfl, rfl⟩ := ListingProblem.line.inj heq
    exact ⟨before, l, after, hlines, Nat.add_comm _ _, hbefore, hfault⟩

theorem read_of_readLines_eq_error {text : Text} {p : ListingProblem} (h : readLines 1 (lines text) = .error p) :
    read text = .error p := by
  rw [read, h]
  rfl

theorem read_of_readLines_eq_ok {text : Text} {r : Listing} (h : readLines 1 (lines text) = .ok r) :
    read text = if r.entries.isEmpty then .error .noEntries else .ok r := by
  rw [read, h]
  rfl

theorem read_eq_error_line_iff {text : Text} {number : Nat} {problem : LineProblem} :
    read text = .error (.line number problem) ↔ readLines 1 (lines text) = .error (.line number problem) := by
  cases hread : readLines 1 (lines text) with
  | error p => rw [read_of_readLines_eq_error hread]
  | ok r =>
    rw [read_of_readLines_eq_ok hread]
    split
    · simp
    · simp

theorem read_eq_error_noEntries_iff {text : Text} : read text = .error .noEntries ↔ entryLines text = [] := by
  cases hread : readLines 1 (lines text) with
  | error p =>
    have hfault := readLines_eq_error_iff.1 hread
    have hne := entryLines_ne_nil_of_firstFault hfault
    obtain ⟨_, _, _, _, -, -, -, rfl⟩ := hfault
    rw [read_of_readLines_eq_error hread]
    simp [hne]
  | ok r =>
    have hlength := (listed_iff.1 (readLines_eq_ok_iff.1 hread)).2.length_eq
    have hnone : entryLines text = [] ↔ r.entries = [] := by
      rw [← List.length_eq_zero_iff, ← List.length_eq_zero_iff, ← hlength]
      exact Iff.rfl
    rw [read_of_readLines_eq_ok hread, hnone]
    split
    · next hempty => exact ⟨fun _ => by simpa using hempty, fun _ => rfl⟩
    · next hsome =>
      refine ⟨fun h => ?_, fun h => absurd h (by simpa using hsome)⟩
      simp at h

/-- **A text that is no listing is blamed for its first fault.** -/
theorem read_eq_error_iff {text : Text} {p : ListingProblem} : read text = .error p ↔ Blamed text p := by
  cases p with
  | line number problem => rw [read_eq_error_line_iff, readLines_eq_error_iff, blamed_line_iff]
  | noEntries => exact read_eq_error_noEntries_iff

/-- what the fields of an entry line say -/
def FieldsSay (fs : List Text) (e : Entry) : Prop :=
  ∃ numeral, fs = [e.1, numeral] ∧ Decimal.readInt32 numeral = .ok e.2 ∧ e.1.all isNameChar = true

theorem readEntry_eq_ok_iff_fieldsSay {line : Text} {e : Entry} : readEntry line = .ok e ↔ FieldsSay (fields line) e := by
  rw [readEntry_eq_ok_iff]
  constructor
  · rintro ⟨⟨numeral, hfields, hcode⟩, hname⟩
    exact ⟨numeral, hfields, hcode, hname⟩
  · rintro ⟨numeral, hfields, hcode, hname⟩
    exact ⟨⟨numeral, hfields, hcode⟩, hname⟩

/-- **Nothing else counts.** Texts with the same documentation and the same fields in their entry lines are read
alike: other comments, blank lines and white space around fields make no difference. -/
theorem read_congr {text text' : Text} (hdocs : docLines text' = docLines text)
    (hfields : (entryLines text').map fields = (entryLines text).map fields) {r : Listing} :
    read text' = .ok r ↔ read text = .ok r := by
  have hnone : entryLines text' = [] ↔ entryLines text = [] := by
    rw [← List.map_eq_nil_iff (f := fields), hfields, List.map_eq_nil_iff]
  simp only [read_eq_ok_iff_isEntry, ← forall₂_readEntry_iff, readEntry_eq_ok_iff_fieldsSay,
    ← List.forall₂_map_left_iff (f := fields), hdocs, hfields, ne_eq, hnone]

end FaultCodes.Listing
