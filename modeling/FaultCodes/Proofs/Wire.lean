/-
The wire form of a fault: its code and its message, and nothing else.

- `parse_wire`: whatever the message says, the text is read back as the object of the code and the message, so it tells
  faults with different codes or messages apart (`wire_eq_iff`).
- `escape_of_not_control`: outside the control characters only the quote and the backslash are escaped; a presentable
  message has no control character, so the text has no other escape.
- `wire_exact`: this together, for the faults of all failures under all classifiers, with any metadata attached.
-/
import FaultCodes.Fault.Wire
import FaultCodes.Proofs.Fault
import FaultCodes.Proofs.JsonText

namespace FaultCodes

open Text Json

/-! ## Escapes -/

/-- the characters that stand behind a backslash, read from left to right -/
def escapesIn : Text → Text
  | [] => []
  | [_] => []
  | c :: d :: t => if c = '\\' then d :: escapesIn t else escapesIn (d :: t)

theorem escapesIn_plain {c : Char} (hc : c ≠ '\\') (t : Text) : escapesIn (c :: t) = escapesIn t := by
  cases t with
  | nil => rfl
  | cons d t => rw [escapesIn, if_neg hc]

theorem escapesIn_append {s : Text} (hs : ∀ c ∈ s, c ≠ '\\') (t : Text) : escapesIn (s ++ t) = escapesIn t := by
  induction s with
  | nil => rfl
  | cons c s ih =>
    obtain ⟨hc, hs⟩ := List.forall_mem_cons.1 hs
    rw [List.cons_append, escapesIn_plain hc, ih hs]

/-- a character that has to be escaped inside a string, though it is no control character -/
def isMeta (c : Char) : Bool :=
  c = '"' || c = '\\'

theorem escape_of_not_control {c : Char} (hc : isControl c = false) :
    Json.escape c = if isMeta c then ['\\', c] else [c] := by
  have hne {d : Char} (hd : isControl d = true) : c ≠ d := by
    rintro rfl
    rw [hc] at hd
    cases hd
  have hlow : ¬ c.toNat < 0x20 := by
    simp only [isControl, Bool.or_eq_false_iff, decide_eq_false_iff_not] at hc
    exact hc.1
  unfold Json.escape
  by_cases hquote : c = '"'
  · subst hquote
    rfl
  by_cases hback : c = '\\'
  · subst hback
    rfl
  have hmeta : isMeta c = false := by simp [isMeta, hquote, hback]
  rw [if_neg hquote, if_neg hback, if_neg (by omega), if_neg (by omega), if_neg (hne (by decide)),
    if_neg (hne (by decide)), if_neg (hne (by decide)), if_neg hlow, hmeta, if_neg Bool.false_ne_true]

theorem controlFree_escape {c : Char} (hc : isControl c = false) : ControlFree (Json.escape c) := by
  have hback : isControl '\\' = false := by decide
  rw [escape_of_not_control hc]
  split
  · exact controlFree_cons.2 ⟨hback, controlFree_cons.2 ⟨hc, by decide⟩⟩
  · exact controlFree_cons.2 ⟨hc, by decide⟩

theorem controlFree_string {s : Text} (hs : ControlFree s) : ControlFree (Json.string s) := by
  have hquote : isControl '"' = false := by decide
  have hcontent : ControlFree (s.flatMap Json.escape) :=
    List.forall_mem_flatMap.2 fun c hc => controlFree_escape (hs c hc)
  rw [Json.string]
  exact controlFree_cons.2 ⟨hquote, controlFree_append.2 ⟨hcontent, controlFree_cons.2 ⟨hquote, by decide⟩⟩⟩

/-- in a string without control characters the quotes and the backslashes are escaped, and nothing else -/
theorem escapesIn_string {s : Text} (hs : ControlFree s) (t : Text) :
    escapesIn (Json.string s ++ t) = s.filter isMeta ++ escapesIn t := by
  rw [string_append, escapesIn_plain (by decide)]
  induction s with
  | nil => exact escapesIn_plain (by decide) t
  | cons c s ih =>
    obtain ⟨hc, hs⟩ := controlFree_cons.1 hs
    rw [List.flatMap_cons, escape_of_not_control hc, List.append_assoc, List.filter_cons]
    split
    · rw [List.cons_append, List.cons_append, List.nil_append, escapesIn, if_pos rfl, ih hs, List.cons_append]
    · next hmeta =>
      have hback : c ≠ '\\' := by
        rintro rfl
        exact hmeta rfl
      rw [List.singleton_append, escapesIn_plain hback, ih hs]

/-! ## The text of a fault -/

namespace Fault

theorem wire_eq (fault : Fault) : fault.wire =
    '\x7b' :: (Json.string "code" ++ ':' :: (Decimal.ofInt fault.code.toInt ++ ',' :: (Json.string "message" ++
      ':' :: (Json.string fault.message ++ ['\x7d'])))) := by
  rw [wire, toJson, compact_obj, compactMembers_cons_cons, compactMembers_singleton, compact, compact]
  simp only [List.append_assoc, List.cons_append]

theorem fits_code (fault : Fault) : Fits fault.code.toInt := by
  have hlow := fault.code.le_toInt
  have hhigh := fault.code.toInt_lt
  constructor
  · omega
  · omega

/-- **Code and message are read back from the text.** -/
theorem parse_wire (fault : Fault) :
    Json.parse fault.wire = .ok (.obj [("code", .int fault.code.toInt), ("message", .str fault.message)]) := by
  have hmembers : ∀ m ∈ [(("code" : Text), Json.int fault.code.toInt), ("message", .str fault.message)],
      ScansBack m.2 := by
    intro m hm
    rcases List.mem_pair.1 hm with rfl | rfl
    · exact scansBack_int fault.fits_code
    · exact scansBack_str fault.message
  have hsorted (a b : Json) : Json.insert "message" b [("code", a)] = ([("code", a), ("message", b)] : Members) := by
    rw [Json.insert, if_neg (by decide +kernel), if_neg (by decide +kernel), Json.insert]
  rw [wire, toJson, parse_compact_obj hmembers]
  exact congrArg (fun ms => Except.ok (Json.obj ms)) (hsorted _ _)

/-- equal texts say equal codes and messages -/
theorem wire_eq_iff (a b : Fault) : a.wire = b.wire ↔ a.code = b.code ∧ a.message = b.message := by
  constructor
  · intro h
    have hparse := a.parse_wire
    rw [h, b.parse_wire] at hparse
    simp only [Except.ok.injEq, Json.obj.injEq, List.cons.injEq, Prod.mk.injEq, Json.int.injEq, Json.str.injEq, true_and,
      and_true] at hparse
    obtain ⟨hcode, hmessage⟩ := hparse
    exact ⟨Int32.toInt_inj.1 hcode.symm, hmessage.symm⟩
  · rintro ⟨hcode, hmessage⟩
    rw [wire_eq, wire_eq, hcode, hmessage]

theorem controlFree_wire {fault : Fault} (h : ControlFree fault.message) : ControlFree fault.wire := by
  have hbraces : isControl '\x7b' = false ∧ isControl '\x7d' = false := by decide
  have hmarks : isControl ':' = false ∧ isControl ',' = false := by decide
  have hkey (key : Text) (hkey : ControlFree key) (t : Text) (ht : ControlFree t) :
      ControlFree (Json.string key ++ ':' :: t) :=
    controlFree_append.2 ⟨controlFree_string hkey, controlFree_cons.2 ⟨hmarks.1, ht⟩⟩
  have hmessage : ControlFree (Json.string fault.message ++ ['\x7d']) :=
    controlFree_append.2 ⟨controlFree_string h, controlFree_cons.2 ⟨hbraces.2, by decide⟩⟩
  rw [wire_eq]
  refine controlFree_cons.2 ⟨hbraces.1, hkey "code" (by decide) _ ?_⟩
  refine controlFree_append.2 ⟨Decimal.controlFree_ofInt _, controlFree_cons.2 ⟨hmarks.2, ?_⟩⟩
  exact hkey "message" (by decide) _ hmessage

/-- the characters escaped in the text are the quotes and the backslashes of the message -/
theorem escapesIn_wire {fault : Fault} (h : ControlFree fault.message) :
    escapesIn fault.wire = fault.message.filter isMeta := by
  have hdigits : ∀ c ∈ Decimal.ofInt fault.code.toInt, c ≠ '\\' := by
    rintro c hc rfl
    rcases Decimal.mem_ofInt hc with hc | hc
    · exact absurd hc (by decide)
    · exact absurd hc (by decide)
  have hcode : ("code" : Text).filter isMeta = [] := by decide
  have hmessage : ("message" : Text).filter isMeta = [] := by decide
  rw [wire_eq, escapesIn_plain (by decide), escapesIn_string (by decide), escapesIn_plain (by decide),
    escapesIn_append hdigits, escapesIn_plain (by decide), escapesIn_string (by decide), escapesIn_plain (by decide),
    escapesIn_string h, escapesIn_plain (by decide), hcode, hmessage]
  exact List.append_nil _

end Fault

/-- **The wire form is the code and the message, and nothing else.** Whatever fails, under every classifier and with any
metadata attached, the text is read back as the object whose only members are the code and the message of the fault. No
character of the text is a control character, and only quotes and backslashes are escaped in it. Two faults have the
same text exactly when they have the same code and the same message. -/
theorem wire_exact (k k' : Classifier) (f f' : Failure) (pairs pairs' : Metadata) :
    let fault := (Fault.ofFailure k f).withAll pairs
    let fault' := (Fault.ofFailure k' f').withAll pairs'
    Json.parse fault.wire = .ok (.obj [("code", .int fault.code.toInt), ("message", .str fault.message)]) ∧
    ControlFree fault.wire ∧ (∀ c ∈ escapesIn fault.wire, c = '"' ∨ c = '\\') ∧
    (fault.wire = fault'.wire ↔ fault.code = fault'.code ∧ fault.message = fault'.message) := by
  intro fault fault'
  have hmessage : ControlFree fault.message := by
    rw [Fault.message_withAll]
    exact (presentable_sanitize _).controlFree
  refine ⟨fault.parse_wire, Fault.controlFree_wire hmessage, ?_, fault.wire_eq_iff fault'⟩
  intro c hc
  rw [Fault.escapesIn_wire hmessage] at hc
  have hmeta := (List.mem_filter.1 hc).2
  simpa [isMeta] using hmeta

end FaultCodes
