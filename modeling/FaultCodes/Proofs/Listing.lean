/-
Listings: from the file to the look-up.

`read` and `plainEntries?` go over the same lines, each in its own way, and the block is a third telling of the entries.
- `readLines_eq_ok_iff`: what `readLines` gives is what the lines say one by one, as `Listed` has it.
- `Listed.plainEntries`, `Listed.writable`, by induction along the lines: the plain reader finds the same entries, and
  what was read is fit to stand in a block.
- `expand_reads_back`: the block gives back the entries that the plain reader finds in the file, and a table over them
  looks up exactly what the entry lines of the file say.
-/
import FaultCodes.Proofs.Block
import FaultCodes.Proofs.CodeTable

namespace FaultCodes.Listing

open Text

/-! ## One line -/

/-- what an entry line says: a name and the numeral of a code -/
def Says (line : Text) (e : Entry) : Prop :=
  ∃ code, fields line = [e.1, code] ∧ Decimal.readInt32 code = .ok e.2

theorem plainEntry?_eq_some_iff {line : Text} {e : Entry} : plainEntry? line = some e ↔ Says line e := by
  unfold plainEntry? Says
  split
  · next name code hfields =>
    simp only [Option.map_eq_some_iff, toOption_eq_some_iff, hfields, List.cons.injEq, and_true, Prod.ext_iff]
    grind
  · next hfields =>
    simp only [reduceCtorEq, false_iff, not_exists, not_and]
    exact fun code h => absurd h (hfields e.1 code)

/-- An entry line is taken when it says a name and a code and the name is made of name characters. -/
theorem readEntry_eq_ok_iff {line : Text} {e : Entry} :
    readEntry line = .ok e ↔ Says line e ∧ e.1.all isNameChar = true := by
  unfold readEntry Says
  split
  · next name code hfields =>
    simp only [hfields, List.cons.injEq, and_true]
    split
    · split <;> grind
    · grind
  · next hfields =>
    simp only [reduceCtorEq, false_iff, not_and]
    rintro ⟨code, h, -⟩
    exact absurd h (hfields e.1 code)

theorem ofTrimmed_eq_entry_iff {l t : Text} : Line.ofTrimmed l = .entry t ↔ isEntryLine l = true ∧ t = l := by
  fun_cases Line.ofTrimmed l with
  | case5 l _ _ h hne =>
    cases l with
    | nil => exact absurd rfl hne
    | cons c l =>
      have hc : c ≠ '#' := by
        rintro rfl
        exact h l rfl
      simp [isEntryLine, hc, eq_comm]
  | _ => simp [isEntryLine]

theorem not_isEntryLine_of_ne {l : Text} (h : ∀ t, Line.ofTrimmed l ≠ .entry t) : ¬ isEntryLine l = true :=
  fun hl => h l (ofTrimmed_eq_entry_iff.2 ⟨hl, rfl⟩)

theorem suffix_of_doc {l doc : Text} (h : Line.ofTrimmed l = .doc doc) : doc <:+ l := by
  revert h
  fun_cases Line.ofTrimmed l with
  | case1 t =>
    intro h
    cases h
    exact ⟨"#! ".toList, rfl⟩
  | case2 t =>
    intro h
    cases h
    exact ⟨"#!".toList, rfl⟩
  | _ => simp

/-! ## Line by line -/

/-- what the lines of a listing say, one after the other -/
inductive Listed : List Text → Listing → Prop where
  | nil : Listed [] ⟨[], []⟩
  | doc {l : Text} {ls : List Text} {doc : Text} {r : Listing} (hl : Line.ofTrimmed (trim l) = .doc doc)
      (hls : Listed ls r) : Listed (l :: ls) ⟨doc :: r.docs, r.entries⟩
  | skipped {l : Text} {ls : List Text} {r : Listing} (hl : Line.ofTrimmed (trim l) = .skipped)
      (hls : Listed ls r) : Listed (l :: ls) r
  | entry {l : Text} {ls : List Text} {line : Text} {e : Entry} {r : Listing}
      (hl : Line.ofTrimmed (trim l) = .entry line) (he : readEntry line = .ok e) (hls : Listed ls r) :
      Listed (l :: ls) ⟨r.docs, e :: r.entries⟩

theorem listed_of_readLines {n : Nat} {ls : List Text} {r : Listing} (h : readLines n ls = .ok r) : Listed ls r := by
  induction ls generalizing n r with
  | nil =>
    cases h
    exact .nil
  | cons l ls ih =>
    rw [readLines] at h
    split at h
    · next doc hl =>
      obtain ⟨r', hr', h⟩ := except_bind_eq_ok_iff.1 h
      cases h
      exact .doc hl (ih hr')
    · next hl => exact .skipped hl (ih h)
    · next line hl =>
      split at h
      · cases h
      · next e he =>
        obtain ⟨r', hr', h⟩ := except_bind_eq_ok_iff.1 h
        cases h
        exact .entry hl he (ih hr')

theorem Listed.readLines {ls : List Text} {r : Listing} (h : Listed ls r) (n : Nat) : readLines n ls = .ok r := by
  induction h generalizing n with
  | nil => rfl
  | doc hl _ ih =>
    simp only [Listing.readLines, hl, ih]
    rfl
  | skipped hl _ ih => simp only [Listing.readLines, hl, ih]
  | entry hl he _ ih =>
    simp only [Listing.readLines, hl, he, ih]
    rfl

/-- What is read is what the lines say, wherever their numbers start. -/
theorem readLines_eq_ok_iff {n : Nat} {ls : List Text} {r : Listing} : readLines n ls = .ok r ↔ Listed ls r :=
  ⟨listed_of_readLines, fun h => h.readLines n⟩

theorem read_eq_ok_iff {text : Text} {r : Listing} : read text = .ok r ↔ Listed (lines text) r ∧ r.entries ≠ [] := by
  rw [read, except_bind_eq_ok_iff]
  simp only [readLines_eq_ok_iff]
  constructor
  · rintro ⟨r', hr', h⟩
    split at h
    · cases h
    · next hne =>
      cases h
      exact ⟨hr', by simpa using hne⟩
  · rintro ⟨hr, hne⟩
    exact ⟨r, hr, if_neg (by simpa using hne)⟩

/-- The plain reader finds the same entries. -/
theorem Listed.plainEntries {ls : List Text} {r : Listing} (h : Listed ls r) :
    ((ls.map trim).filter isEntryLine).mapM plainEntry? = some r.entries := by
  rw [mapM_eq_some_iff]
  induction h with
  | nil => exact .nil
  | doc hl _ ih =>
    rw [List.map_cons, List.filter_cons_of_neg (not_isEntryLine_of_ne (by simp [hl]))]
    exact ih
  | skipped hl _ ih =>
    rw [List.map_cons, List.filter_cons_of_neg (not_isEntryLine_of_ne (by simp [hl]))]
    exact ih
  | entry hl he _ ih =>
    obtain ⟨hentry, rfl⟩ := ofTrimmed_eq_entry_iff.1 hl
    rw [List.map_cons, List.filter_cons_of_pos hentry]
    exact .cons (plainEntry?_eq_some_iff.2 (readEntry_eq_ok_iff.1 he).1) ih

/-- What was read is fit to stand in a block: documentation is what is left of one line, and names have been checked. -/
theorem Listed.writable {ls : List Text} {r : Listing} (h : Listed ls r) (hls : ∀ l ∈ ls, '\n' ∉ l) : Writable r := by
  induction h with
  | nil => exact ⟨by simp, by simp⟩
  | doc hl _ ih =>
    obtain ⟨hfeed, hls⟩ := List.forall_mem_cons.1 hls
    have hdoc := oneLine_of_suffix_trim hfeed (suffix_of_doc hl)
    exact ⟨List.forall_mem_cons.2 ⟨hdoc, (ih hls).docs⟩, (ih hls).names⟩
  | skipped _ _ ih => exact ih (List.forall_mem_cons.1 hls).2
  | entry _ he _ ih =>
    obtain ⟨-, hls⟩ := List.forall_mem_cons.1 hls
    have hname := List.all_eq_true.1 (readEntry_eq_ok_iff.1 he).2
    exact ⟨(ih hls).docs, List.forall_mem_cons.2 ⟨hname, (ih hls).names⟩⟩

/-! ## From the file to the look-up -/

/-- A table over the entries of a listing looks up what the entry lines say, whatever its origin. -/
theorem lookup_iff_of_plainEntries {text : Text} {entries : List Entry} (h : plainEntries? text = some entries)
    (hk : CodeTable.Keyed entries) (o : Origin) :
    ∃ t, CodeTable.ofEntries? o entries = .ok t ∧ ∀ name code,
      t.lookup name = some code ↔ ∃ line ∈ entryLines text, plainEntry? line = some (name, code) := by
  refine ⟨⟨o, entries⟩, CodeTable.ofEntries?_eq_ok_iff.2 ⟨hk, rfl⟩, fun name code => ?_⟩
  rw [CodeTable.lookup_eq_some_iff hk]
  exact mem_iff_of_mapM h (name, code)

/-- **From the file to the look-up nothing drifts.** When a listing is taken, the block that was appended gives back,
in order, the entries that the plain reader finds in the file. When no name of these is repeated, a table over them
is built for any origin, also where it does not pass the acceptance test, and it looks up exactly what the entry lines
of the file say. The two words that the block takes from elsewhere may be anything that has no line feed. -/
theorem expand_reads_back {out text staticName origin result : Text} (hstatic : '\n' ∉ staticName)
    (horigin : '\n' ∉ origin) (h : expand out text staticName origin = .ok result) :
    ∃ written entries, result = out ++ written ∧ blockEntries? written = some entries ∧
      plainEntries? text = some entries ∧
      ∀ o, CodeTable.Keyed entries → ∃ t, CodeTable.ofEntries? o entries = .ok t ∧ ∀ name code,
        t.lookup name = some code ↔ ∃ line ∈ entryLines text, plainEntry? line = some (name, code) := by
  obtain ⟨l, hl, rfl⟩ := except_map_eq_ok_iff.1 h
  obtain ⟨hlisted, -⟩ := read_eq_ok_iff.1 hl
  have hwritable : Writable l := hlisted.writable (feed_not_mem_of_mem_lines text)
  have hplain : plainEntries? text = some l.entries := hlisted.plainEntries
  exact ⟨l.block staticName origin, l.entries, rfl, blockEntries?_block hstatic horigin hwritable, hplain,
    fun o hk => lookup_iff_of_plainEntries hplain hk o⟩

/-- a file with lines of all kinds, both line ends, white space of several kinds and a padded numeral -/
def mixedText : Text :=
  "# codes\r\n#! Errors of the core.\n\n\u2003UNKNOWN\u00a0-31000\r\nKeyError\t-0031001 \n#!\nZero_2  -31002"

def mixedEntries : List Entry :=
  [("UNKNOWN", -31000), ("KeyError", -31001), ("Zero_2", -31002)]

theorem expand_reads_back_mixed :
    ∃ written, expand "// tables\n" mixedText "CORE_CODES" "Builtin" = .ok ("// tables\n".toList ++ written) ∧
      blockEntries? written = some mixedEntries ∧ CodeTable.accepts .builtin mixedEntries = true ∧
      ∃ t, CodeTable.ofEntries? .builtin mixedEntries = .ok t ∧ ∀ name code,
        t.lookup name = some code ↔ ∃ line ∈ entryLines mixedText, plainEntry? line = some (name, code) := by
  have htaken : (expand "// tables\n" mixedText "CORE_CODES" "Builtin").isOk = true := by decide +kernel
  cases hresult : expand "// tables\n" mixedText "CORE_CODES" "Builtin" with
  | error problem =>
    rw [hresult] at htaken
    cases htaken
  | ok result =>
    obtain ⟨written, entries, rfl, hblock, hplain, htable⟩ := expand_reads_back (by decide) (by decide) hresult
    have hentries : plainEntries? mixedText = some mixedEntries := by decide +kernel
    obtain rfl : entries = mixedEntries := Option.some.inj (hplain.symm.trans hentries)
    have hkeyed : CodeTable.Keyed mixedEntries := by
      unfold CodeTable.Keyed
      decide +kernel
    exact ⟨written, rfl, hblock, by decide +kernel, htable .builtin hkeyed⟩

end FaultCodes.Listing
