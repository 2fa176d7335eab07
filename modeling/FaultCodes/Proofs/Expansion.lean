/-
Expansions: a listing is written onto an output as a whole or not at all.

An expansion may fail with part of its pieces written. `Emits` says that one cannot fail and adds just this text to any
output; it holds of a single piece, is kept when one expansion follows another, and so holds of a run of pieces and of
the block. Nothing is written before the whole text has been read, so a text that is refused leaves the output as it
was.
- `expand_eq_outcome`: on a text that is taken, the output is what `expand` makes of it.
- `expandOnto_exact`: which texts are taken, what is written for them, and what is reported of the others.
-/
import FaultCodes.Proofs.Grammar

namespace FaultCodes.Listing

open Text

/-! ## Writing -/

theorem outcome_bind {α β : Type} (e : Expansion α) (f : α → Expansion β) {out out' : Text} {a : α}
    (h : e.outcome out = (.ok a, out')) : (e >>= f).outcome out = (f a).outcome out' := by
  change (match e out with | (a, out) => ExceptT.bindCont f a out) = _
  rw [show e out = (.ok a, out') from h]
  rfl

/-- whatever the output, the expansion succeeds and adds this text to it -/
def Emits (e : Expansion Unit) (text : Text) : Prop :=
  ∀ out, e.outcome out = (.ok (), out ++ text)

theorem emits_emit (piece : Text) : Emits (emit piece) piece :=
  fun _ => rfl

/-- one after the other -/
theorem Emits.andThen {e f : Expansion Unit} {s t : Text} (he : Emits e s) (hf : Emits f t) :
    Emits (e >>= fun _ => f) (s ++ t) := by
  intro out
  rw [outcome_bind e _ (he out), hf, List.append_assoc]

/-- a run of pieces -/
theorem emits_forM {α : Type} (piece : α → Text) (as : List α) :
    Emits (as.forM fun a => emit (piece a)) (as.flatMap piece) := by
  induction as with
  | nil =>
    intro out
    rw [List.flatMap_nil, List.append_nil]
    rfl
  | cons a as ih =>
    rw [List.flatMap_cons]
    exact (emits_emit (piece a)).andThen ih

/-- **The block is written as a whole.** -/
theorem emits_emitBlock (staticName origin : Text) (l : Listing) :
    Emits (emitBlock staticName origin l) (block staticName origin l) := by
  have hblock : block staticName origin l = "define_code_table! \x7b\n".toList ++ (l.docs.flatMap docLine ++
      (("    pub static ".toList ++ staticName ++ ": Origin::".toList ++ origin ++ " => \x7b\n".toList) ++
        (l.entries.flatMap entryLine ++ "    \x7d\n\x7d\n\n".toList))) := by
    -- the literals make the equation of `block` costly to derive, so it is stated
    change "define_code_table! \x7b\n".toList ++ l.docs.flatMap docLine ++ "    pub static ".toList ++ staticName ++
      ": Origin::".toList ++ origin ++ " => \x7b\n".toList ++ l.entries.flatMap entryLine ++
      "    \x7d\n\x7d\n\n".toList = _
    simp only [List.append_assoc]
  rw [hblock]
  exact (emits_emit _).andThen ((emits_forM docLine l.docs).andThen
    ((emits_emit _).andThen ((emits_forM entryLine l.entries).andThen (emits_emit _))))

/-! ## The whole expansion -/

theorem outcome_expandOnto_of_ok {text : Text} {l : Listing} (h : read text = .ok l) (staticName origin out : Text) :
    (expandOnto text staticName origin).outcome out = (.ok (), out ++ l.block staticName origin) := by
  have hread : (liftM (read text) : Expansion Listing).outcome out = (.ok l, out) := by
    rw [h]
    rfl
  rw [expandOnto, outcome_bind _ _ hread, emits_emitBlock]

theorem outcome_expandOnto_of_error {text : Text} {p : ListingProblem} (h : read text = .error p)
    (staticName origin out : Text) : (expandOnto text staticName origin).outcome out = (.error p, out) := by
  rw [expandOnto, h]
  rfl

/-- The output after a text that is taken is what `expand` makes of the output before. -/
theorem expand_eq_outcome (out text staticName origin : Text) :
    expand out text staticName origin =
      ((expandOnto text staticName origin).outcome out).1.map
        fun _ => ((expandOnto text staticName origin).outcome out).2 := by
  rw [expand]
  cases hread : read text with
  | ok l =>
    rw [outcome_expandOnto_of_ok hread]
    rfl
  | error p =>
    rw [outcome_expandOnto_of_error hread]
    rfl

/-- **A listing is expanded as a whole or not at all.** An expansion succeeds exactly on the texts that are listings:
every trimmed line that is neither empty nor a comment is a name, white space and the numeral of a 32-bit integer, and
there is at least one. It then adds one block to the output, with the documentation lines and behind them the entries,
each in file order, and the output depends on nothing else in the text. In every other case the output stays as it
was, and what is reported is the first line at fault with its number, counted from one, or that there are no
entries. -/
theorem expandOnto_exact (text staticName origin out : Text) :
    let run := (expandOnto text staticName origin).outcome out
    (run.1 = .ok () ↔ Accepted text) ∧
      (Accepted text → ∃ entries, List.Forall₂ IsEntry (entryLines text) entries ∧
        run.2 = out ++ (blockLines staticName origin ⟨docLines text, entries⟩).flatMap (· ++ ['\n'])) ∧
      (∀ text', docLines text' = docLines text → (entryLines text').map fields = (entryLines text).map fields →
        ((expandOnto text' staticName origin).outcome out).2 = run.2) ∧
      (¬ Accepted text → ∃ problem, Blamed text problem) ∧
      ∀ problem, run = (.error problem, out) ↔ Blamed text problem := by
  intro run
  by_cases haccepted : Accepted text
  · obtain ⟨l, hread⟩ := exists_read_iff.2 haccepted
    have hrun : run = (.ok (), out ++ l.block staticName origin) := outcome_expandOnto_of_ok hread staticName origin out
    obtain ⟨hdocs, hentries, -⟩ := read_eq_ok_iff_isEntry.1 hread
    rw [hrun]
    refine ⟨⟨fun _ => haccepted, fun _ => rfl⟩, fun _ => ⟨l.entries, hentries, ?_⟩, fun text' hdocs' hfields => ?_,
      fun h => absurd haccepted h, fun problem => ?_⟩
    · rw [← hdocs, ← block_eq]
    · rw [outcome_expandOnto_of_ok ((read_congr hdocs' hfields).2 hread)]
    · rw [← read_eq_error_iff, hread]
      simp
  · cases hread : read text with
    | ok l => exact absurd (exists_read_iff.1 ⟨l, hread⟩) haccepted
    | error p =>
      have hrun : run = (.error p, out) := outcome_expandOnto_of_error hread staticName origin out
      rw [hrun]
      refine ⟨⟨fun h => (nomatch h), fun h => absurd h haccepted⟩, fun h => absurd h haccepted,
        fun text' hdocs' hfields => ?_, fun _ => ⟨p, read_eq_error_iff.1 hread⟩, fun problem => ?_⟩
      · cases hread' : read text' with
        | ok l => exact absurd (exists_read_iff.1 ⟨l, (read_congr hdocs' hfields).1 hread'⟩) haccepted
        | error p' => rw [outcome_expandOnto_of_error hread']
      · rw [← read_eq_error_iff, hread]
        constructor
        · rintro ⟨⟩
          rfl
        · rintro ⟨⟩
          rfl

end FaultCodes.Listing
