/-
Blocks: what a block of declarations says to one who reads it back.

The block is text, written line by line (`block_eq`), and its reader goes by lines again. What has to be checked is
that no line that was written is taken for two, or for another kind of line:
- a name is made of characters that are no white space and that quoting leaves alone (`bounds_of_isNameChar`), so a key
  is one field and gives its name back (`keyName?_keyText`);
- `blockEntry?_entryText`: the line of an entry gives the entry back;
- a documentation line is never taken for the head of the table, nor an entry for its end.
`blockEntries?_block` puts these together.
-/
import FaultCodes.Listing.Reading
import FaultCodes.Proofs.Blank
import FaultCodes.Proofs.Decimal
import FaultCodes.Proofs.Outcome

namespace FaultCodes.Listing

open Text

/-- Fit to stand in a block: the documentation in single lines, the names made of name characters. -/
structure Writable (l : Listing) : Prop where
  docs : ∀ doc ∈ l.docs, OneLine doc
  names : ∀ e ∈ l.entries, ∀ c ∈ e.1, isNameChar c = true

/-! ## Names -/

theorem isNameChar_iff {c : Char} : isNameChar c = true ↔
    (65 ≤ c.toNat ∧ c.toNat ≤ 90 ∨ 97 ≤ c.toNat ∧ c.toNat ≤ 122) ∨ 48 ≤ c.toNat ∧ c.toNat ≤ 57 ∨ c = '_' := by
  have hchar : isNameChar c = ((c.isAlpha || c.isDigit) || decide (c = '_')) := rfl
  rw [hchar, Bool.or_eq_true, Bool.or_eq_true, decide_eq_true_eq, isAlpha_iff, Decimal.isDigit_iff, or_assoc]

/-- Name characters lie between the digits and the small letters, and the backslash is none of them. -/
theorem bounds_of_isNameChar {c : Char} (h : isNameChar c = true) : 48 ≤ c.toNat ∧ c.toNat ≤ 122 ∧ c.toNat ≠ 92 := by
  rcases isNameChar_iff.1 h with h | h | rfl
  · omega
  · omega
  · decide

theorem isBlank_of_isNameChar {c : Char} (h : isNameChar c = true) : isBlank c = false := by
  obtain ⟨hlow, hhigh, -⟩ := bounds_of_isNameChar h
  exact isBlank_of_visible (by omega) (by omega)

theorem escape_of_isNameChar {c : Char} (h : isNameChar c = true) : escape c = [c] := by
  obtain ⟨hlow, hhigh, hback⟩ := bounds_of_isNameChar h
  have hshown : (isExtending c || isUnprintable c) = false := by
    -- the tables are in increasing order, so their first ranges settle it
    obtain ⟨rs, hrs⟩ : ∃ rs, extendingRanges = (0x300, 0x36F) :: rs := ⟨_, rfl⟩
    obtain ⟨rs', hrs'⟩ : ∃ rs, unprintableRanges = (0, 0x1F) :: (0x7F, 0xA0) :: rs := ⟨_, rfl⟩
    grind [isExtending, isUnprintable, inRanges]
  have hne : ∀ d : Char, d.toNat < 48 ∨ d.toNat = 92 → c ≠ d := by
    rintro d hd rfl
    omega
  rw [escape, if_neg (hne _ (by decide)), if_neg (hne _ (by decide)), if_neg (hne _ (by decide)),
    if_neg (hne _ (by decide)), if_neg (hne _ (by decide)), if_neg (by omega), hshown, if_neg Bool.false_ne_true]

theorem flatMap_escape {t : Text} (h : ∀ c ∈ t, isNameChar c = true) : t.flatMap escape = t := by
  induction t with
  | nil => rfl
  | cons c t ih =>
    obtain ⟨hc, ht⟩ := List.forall_mem_cons.1 h
    rw [List.flatMap_cons, escape_of_isNameChar hc, ih ht, List.singleton_append]

theorem quoted_name {name : Text} (h : ∀ c ∈ name, isNameChar c = true) : quoted name = '"' :: (name ++ ['"']) := by
  have hquoted : quoted name = '"' :: (name.flatMap escape ++ ['"']) := rfl
  rw [hquoted, flatMap_escape h]

theorem unquoted?_quotes (t : Text) : unquoted? ('"' :: (t ++ ['"'])) = some t := by
  simp only [unquoted?, List.reverse_append, List.reverse_singleton, List.singleton_append, List.reverse_reverse]

/-- **A name is read back from its key.** The constant has no quotes, so it is the key of no other name. -/
theorem keyName?_keyText {name : Text} (h : ∀ c ∈ name, isNameChar c = true) : keyName? (keyText name) = some name := by
  unfold keyText
  split
  · next hunknown =>
    rw [hunknown]
    exact if_pos rfl
  · rw [quoted_name h]
    have hconstant : '"' :: (name ++ ['"']) ≠ "UNKNOWN_KEY".toList := by
      intro hkey
      exact absurd (List.head_eq_of_cons_eq hkey) (by decide)
    exact (if_neg hconstant).trans (unquoted?_quotes name)

theorem word_keyText {name : Text} (h : ∀ c ∈ name, isNameChar c = true) : Word (keyText name) := by
  unfold keyText
  split
  · decide +kernel
  · rw [quoted_name h]
    refine ⟨List.cons_ne_nil _ _, List.forall_mem_cons.2 ⟨by decide, List.forall_mem_append.2 ⟨?_, by simp; decide⟩⟩⟩
    exact fun c hc => isBlank_of_isNameChar (h c hc)

/-! ## Entries -/

/-- an entry line without its end: the name in quotes, but for the one that has a constant -/
def entryText (e : Entry) : Text :=
  if e.1 = unknownKey then "        UNKNOWN_KEY => " ++ Decimal.ofInt e.2.toInt ++ ","
  else "        " ++ Text.quoted e.1 ++ " => " ++ Decimal.ofInt e.2.toInt ++ ","

theorem entryText_eq (e : Entry) : entryText e =
    "        ".toList ++ keyText e.1 ++ " => ".toList ++ Decimal.ofInt e.2.toInt ++ [','] := by
  unfold entryText keyText
  split
  · rfl
  · rfl

theorem entryLine_eq (e : Entry) : entryLine e = entryText e ++ ['\n'] := by
  rw [entryText_eq]
  exact (List.append_assoc _ [','] ['\n']).symm

theorem withoutComma?_comma (t : Text) : withoutComma? (t ++ [',']) = some t := by
  simp only [withoutComma?, List.reverse_append, List.reverse_singleton, List.singleton_append, List.reverse_reverse]

theorem fields_entryText {e : Entry} (h : ∀ c ∈ e.1, isNameChar c = true) :
    fields (entryText e) = [keyText e.1, "=>".toList, Decimal.ofInt e.2.toInt ++ [',']] := by
  have harrow : " => ".toList = ' ' :: ("=>".toList ++ [' ']) := by decide
  have hshape : entryText e = "        ".toList ++ (keyText e.1 ++ ' ' :: ("=>".toList ++
      ' ' :: (Decimal.ofInt e.2.toInt ++ [',']))) := by
    rw [entryText_eq, harrow]
    simp only [List.append_assoc, List.cons_append, List.nil_append]
  have hcode : Word (Decimal.ofInt e.2.toInt ++ [',']) := (Decimal.word_ofInt _).append (by decide)
  rw [hshape, fields_append_blanks (by decide), fields_word_blank (word_keyText h) (by decide),
    fields_word_blank (by decide) (by decide), fields_word hcode]

/-- **An entry is read back from its line.** -/
theorem blockEntry?_entryText {e : Entry} (h : ∀ c ∈ e.1, isNameChar c = true) :
    blockEntry? (entryText e) = some e := by
  unfold blockEntry?
  rw [fields_entryText h]
  change (keyName? (keyText e.1)).bind _ = _
  rw [keyName?_keyText h]
  change (withoutComma? (Decimal.ofInt e.2.toInt ++ [','])).bind _ = _
  rw [withoutComma?_comma]
  change (Decimal.readInt32 (Decimal.ofInt e.2.toInt)).toOption.bind _ = _
  rw [Decimal.readInt32_ofInt]
  rfl

/-! ## The lines of a block -/

/-- a documentation line without its end -/
def docText (doc : Text) : Text :=
  if doc.isEmpty then "    ///" else "    /// " ++ doc

def headText (staticName origin : Text) : Text :=
  "    pub static " ++ staticName ++ ": Origin::" ++ origin ++ " => \x7b"

/-- what stands before the head of the table -/
def linesBefore (l : Listing) : List Text :=
  "define_code_table! \x7b".toList :: l.docs.map docText

def linesBehind : List Text :=
  ["    \x7d".toList, "\x7d".toList, []]

def blockLines (staticName origin : Text) (l : Listing) : List Text :=
  linesBefore l ++ headText staticName origin :: (l.entries.map entryText ++ linesBehind)

-- The literals make the equations of these two costly to derive, so they are stated.
theorem headText_eq (staticName origin : Text) : headText staticName origin =
    "    pub static ".toList ++ staticName ++ ": Origin::".toList ++ origin ++ " => \x7b".toList := rfl

theorem linesBefore_eq (l : Listing) : linesBefore l = "define_code_table! \x7b".toList :: l.docs.map docText := rfl

theorem docLine_eq (doc : Text) : docLine doc = docText doc ++ ['\n'] := by
  unfold docLine docText
  split
  · rfl
  · rw [List.append_assoc, List.append_assoc]
    rfl

theorem flatMap_eq_flatMap_feed {α : Type} {f g : α → Text} (h : ∀ a, f a = g a ++ ['\n']) (as : List α) :
    as.flatMap f = (as.map g).flatMap (· ++ ['\n']) := by
  rw [List.flatMap_map]
  exact congrArg (List.flatMap · as) (funext h)

/-- A block is its lines, each with a line feed behind it. -/
theorem block_eq (staticName origin : Text) (l : Listing) :
    block staticName origin l = (blockLines staticName origin l).flatMap (· ++ ['\n']) := by
  have hopening : "define_code_table! \x7b\n".toList = "define_code_table! \x7b".toList ++ ['\n'] := rfl
  have hhead : " => \x7b\n".toList = " => \x7b".toList ++ ['\n'] := rfl
  have hbehind : "    \x7d\n\x7d\n\n".toList = linesBehind.flatMap (· ++ ['\n']) := rfl
  change "define_code_table! \x7b\n".toList ++ l.docs.flatMap docLine ++ "    pub static ".toList ++ staticName ++
    ": Origin::".toList ++ origin ++ " => \x7b\n".toList ++ l.entries.flatMap entryLine ++
    "    \x7d\n\x7d\n\n".toList = _
  rw [hopening, hhead, hbehind, flatMap_eq_flatMap_feed docLine_eq, flatMap_eq_flatMap_feed entryLine_eq, blockLines,
    linesBefore_eq, headText_eq]
  simp only [List.cons_append, List.flatMap_append, List.flatMap_cons, List.append_assoc]

theorem oneLine_docText {doc : Text} (h : OneLine doc) : OneLine (docText doc) := by
  unfold docText
  split
  · exact ⟨by decide, by decide⟩
  · next hne => exact OneLine.append (by decide) h (by simpa using hne)

theorem oneLine_headText {staticName origin : Text} (hstatic : '\n' ∉ staticName) (horigin : '\n' ∉ origin) :
    OneLine (headText staticName origin) := by
  rw [headText_eq]
  refine OneLine.append ?_ ⟨by decide, by decide⟩ (by decide)
  simp only [List.mem_append, not_or]
  exact ⟨⟨⟨by decide, hstatic⟩, by decide⟩, horigin⟩

theorem oneLine_entryText {e : Entry} (h : ∀ c ∈ e.1, isNameChar c = true) : OneLine (entryText e) := by
  rw [entryText_eq]
  refine OneLine.append ?_ ⟨by decide, by decide⟩ (by decide)
  simp only [List.mem_append, not_or]
  exact ⟨⟨⟨by decide, (word_keyText h).noFeed⟩, by decide⟩, (Decimal.word_ofInt _).noFeed⟩

theorem oneLine_of_mem_blockLines {staticName origin : Text} {l : Listing} (hstatic : '\n' ∉ staticName)
    (horigin : '\n' ∉ origin) (hl : Writable l) : ∀ line ∈ blockLines staticName origin l, OneLine line := by
  have hdocs : ∀ line ∈ l.docs.map docText, OneLine line :=
    List.forall_mem_map.2 fun doc hdoc => oneLine_docText (hl.docs doc hdoc)
  have hbefore : ∀ line ∈ linesBefore l, OneLine line := List.forall_mem_cons.2 ⟨⟨by decide, by decide⟩, hdocs⟩
  have hentries : ∀ line ∈ l.entries.map entryText, OneLine line :=
    List.forall_mem_map.2 fun e he => oneLine_entryText (hl.names e he)
  have hbehind : ∀ line ∈ linesBehind, OneLine line := by
    simp only [linesBehind, List.forall_mem_cons]
    exact ⟨⟨by decide, by decide⟩, ⟨by decide, by decide⟩, ⟨by decide, by decide⟩, by simp⟩
  exact List.forall_mem_append.2 ⟨hbefore, List.forall_mem_cons.2
    ⟨oneLine_headText hstatic horigin, List.forall_mem_append.2 ⟨hentries, hbehind⟩⟩⟩

/-! ## Reading a block back -/

theorem isTableHead_docText (doc : Text) : isTableHead (docText doc) = false := by
  have hdoc : "    ///".toList <+: docText doc := by
    unfold docText
    split
    · exact List.prefix_refl _
    · exact ⟨' ' :: doc, rfl⟩
  rw [isTableHead, Bool.eq_false_iff]
  intro hhead
  -- both beginnings would stand in the same place
  rcases List.prefix_or_prefix_of_prefix hdoc (List.isPrefixOf_iff_prefix.1 hhead) with h | h
  · exact absurd h (by decide)
  · exact absurd h (by decide)

theorem isTableHead_headText (staticName origin : Text) : isTableHead (headText staticName origin) = true := by
  rw [isTableHead, headText_eq, List.isPrefixOf_iff_prefix]
  simp only [List.append_assoc]
  exact List.prefix_append _ _

theorem isTableEnd_entryText (e : Entry) : isTableEnd (entryText e) = false := by
  have hblanks : "        ".toList <+: entryText e := by
    rw [entryText_eq]
    simp only [List.append_assoc]
    exact List.prefix_append _ _
  rw [isTableEnd, decide_eq_false_iff_not]
  intro h
  rw [h] at hblanks
  exact absurd hblanks (by decide)

/-- **A block says the entries of its listing.** -/
theorem blockEntries?_block {staticName origin : Text} {l : Listing} (hstatic : '\n' ∉ staticName)
    (horigin : '\n' ∉ origin) (hl : Writable l) : blockEntries? (block staticName origin l) = some l.entries := by
  have hbefore : ∀ line ∈ linesBefore l, (!isTableHead line) = true := by
    refine List.forall_mem_cons.2 ⟨by decide, List.forall_mem_map.2 fun doc _ => ?_⟩
    rw [isTableHead_docText, Bool.not_false]
  have hentries : ∀ line ∈ l.entries.map entryText, (!isTableEnd line) = true := by
    refine List.forall_mem_map.2 fun e _ => ?_
    rw [isTableEnd_entryText, Bool.not_false]
  have hdrop : (blockLines staticName origin l).dropWhile (fun line => !isTableHead line) =
      headText staticName origin :: (l.entries.map entryText ++ linesBehind) := by
    rw [blockLines, List.dropWhile_append_of_pos hbefore]
    exact List.dropWhile_cons_of_neg (by simp [isTableHead_headText])
  have htake : (l.entries.map entryText ++ linesBehind).takeWhile (fun line => !isTableEnd line) =
      l.entries.map entryText := by
    rw [List.takeWhile_append_of_pos hentries, linesBehind, List.takeWhile_cons_of_neg (by decide), List.append_nil]
  have hread : (l.entries.map entryText).mapM blockEntry? = some l.entries := by
    rw [mapM_eq_some_iff, List.forall₂_map_left_iff, List.forall₂_same]
    exact fun e he => blockEntry?_entryText (hl.names e he)
  rw [blockEntries?, block_eq, lines_flatMap_feed (oneLine_of_mem_blockLines hstatic horigin hl), hdrop]
  change List.mapM blockEntry? (List.takeWhile _ _) = _
  rw [htake, hread]

end FaultCodes.Listing
