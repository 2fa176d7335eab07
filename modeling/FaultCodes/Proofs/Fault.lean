/-
Faults and what is attached to them.

`withAll` attaches a list of metadata pairs, one after the other. Attaching changes the metadata and nothing else
(`withAll_eq`), so what holds of the message of a failure's fault holds under any metadata.
- `caller_text_presentable`: the text that a caller sees is presentable, and sanitizing it again changes nothing.
- `Fault.type_name_leads_message`: a message starts with the type name of its failure, whatever the failure's text, as
  long as the name itself leaves room for the cut; a longer name only when nothing is cut.
-/
import FaultCodes.Fault
import FaultCodes.Proofs.Sanitize

namespace FaultCodes

open Text

/-- the value under a key is the one that was attached under it first -/
theorem Metadata.value?_eq_find? (m : Metadata) (key : Text) :
    m.value? key = (m.find? (·.1 = key)).map (·.2.text) := by
  induction m with
  | nil => rfl
  | cons pair m ih =>
    obtain ⟨k, value⟩ := pair
    rw [value?, List.lookup_cons, List.find?_cons]
    by_cases hkey : k = key
    · subst hkey
      simp
    · have hne : (key == k) = false := by simpa using Ne.symm hkey
      simp only [hne, hkey, decide_false]
      exact ih

namespace Fault

/-- a chain of attachments, in order -/
def withAll (fault : Fault) (pairs : Metadata) : Fault :=
  pairs.foldl (fun fault pair => fault.withMetadata pair.1 pair.2) fault

theorem withAll_eq (fault : Fault) (pairs : Metadata) :
    fault.withAll pairs = { fault with metadata := fault.metadata ++ pairs } := by
  induction pairs generalizing fault with
  | nil => rw [List.append_nil]; rfl
  | cons pair pairs ih =>
    rw [withAll, List.foldl_cons, ← withAll, ih, withMetadata, List.append_assoc]
    rfl

theorem message_withAll (k : Classifier) (f : Failure) (pairs : Metadata) :
    ((ofFailure k f).withAll pairs).message = sanitize (f.path.name ++ ": " ++ f.text) := by
  rw [withAll_eq]
  rfl

theorem method?_withAll (k : Classifier) (f : Failure) (pairs : Metadata) :
    ((ofFailure k f).withAll pairs).method? = (pairs.find? (·.1 = methodKey)).map (·.2.text) := by
  rw [withAll_eq, method?, Metadata.value?_eq_find?]
  rfl

/-- the event looks for the method on the record, and finds the one that the fault has -/
theorem event_eq (fault : Fault) : fault.log.event =
    ⟨if fault.classification.origin.callerFacing then .debug else .warn, fault.code, fault.classification.origin,
      fault.classification.resolution, fault.sourceType, fault.method?.getD []⟩ := by
  rw [method?, Metadata.value?_eq_find?]
  rfl

theorem classification_raise (method : Text) (f : Failure) :
    (raise method f).classification = Classifier.standard.classify f := rfl

theorem method?_raise (method : Text) (f : Failure) : (raise method f).method? = some method := by
  simp [raise, withMetadata, ofFailure, method?, Metadata.value?, Field.text]

end Fault

/-- **Text that a caller sees is presentable, and sanitizing it again changes nothing.** Sanitized text has at most 512
bytes and no control character; the texts that sanitizing leaves alone are the ones of that kind; and the message of
every fault, under every classifier and with any metadata attached, is one of them. -/
theorem caller_text_presentable (t : Text) (k : Classifier) (f : Failure) (pairs : Metadata) :
    Presentable (sanitize t) ∧ (sanitize t = t ↔ Presentable t) ∧ sanitize (sanitize t) = sanitize t ∧
      Presentable ((Fault.ofFailure k f).withAll pairs).message ∧
      sanitize ((Fault.ofFailure k f).withAll pairs).message = ((Fault.ofFailure k f).withAll pairs).message := by
  rw [Fault.message_withAll]
  have hsanitized (s : Text) : Presentable (sanitize s) := presentable_sanitize s
  have hagain (s : Text) : sanitize (sanitize s) = sanitize s := sanitize_eq_self (hsanitized s)
  exact ⟨hsanitized t, sanitize_eq_self_iff t, hagain t, hsanitized _, hagain _⟩

/-! ## The type name -/

namespace Fault

/-- **The type name leads the message.** For every failure whose type name has no control character and at most 496 bytes,
and whatever its text, the message starts with the name and a colon and a blank, under every classifier and with any
metadata attached. A name of more bytes leads the message exactly when name and replaced text fit into it together. -/
theorem type_name_leads_message (k : Classifier) (f : Failure) (pairs : Metadata) (hname : ControlFree f.path.name) :
    (bytes f.path.name ≤ 496 → f.path.name ++ (": " : Text) <+: ((ofFailure k f).withAll pairs).message) ∧
    (496 < bytes f.path.name →
      (f.path.name ++ (": " : Text) <+: ((ofFailure k f).withAll pairs).message ↔
        bytes (f.path.name ++ (": " : Text) ++ Sanitize.clean f.text) ≤ 512)) := by
  have hlead : ControlFree (f.path.name ++ (": " : Text)) := controlFree_append.2 ⟨hname, by decide⟩
  have hbytes : bytes (f.path.name ++ (": " : Text)) = bytes f.path.name + 2 := bytes_append _ _
  have hprefix : f.path.name ++ (": " : Text) <+: f.path.name ++ (": " : Text) ++ Sanitize.clean f.text :=
    List.prefix_append _ _
  rw [message_withAll, Sanitize.sanitize_append hlead]
  constructor
  · intro hshort
    have hroom : maxSanitized - bytes marker = 498 := rfl
    exact prefix_clip hprefix (by omega)
  · intro hlong
    have hsplit : f.path.name ++ (": " : Text) = f.path.name ++ [':'] ++ [' '] := (List.append_assoc _ [':'] [' ']).symm
    have hroom : maxSanitized - bytes marker < bytes (f.path.name ++ (": " : Text)) := by
      have : maxSanitized - bytes marker = 498 := rfl
      omega
    rw [hsplit] at hprefix hroom ⊢
    exact prefix_clip_iff hprefix (by decide) hroom

/-- a name of 496 bytes before a text that starts an escape sequence and is longer than any message -/
theorem type_name_leads_message_at_limit :
    let f : Failure := ⟨⟨"app.views", List.replicate 496 'E'⟩, none, escapeChar :: List.replicate 600 '0'⟩
    ControlFree f.path.name ∧ bytes f.path.name ≤ 496 ∧
      f.path.name ++ (": " : Text) <+: ((ofFailure .standard f).withAll []).message := by
  intro f
  have hname : ControlFree f.path.name := by
    intro c hc
    rw [List.eq_of_mem_replicate hc]
    rfl
  have hbytes : bytes f.path.name ≤ 496 := by decide +kernel
  exact ⟨hname, hbytes, (type_name_leads_message .standard f [] hname).1 hbytes⟩

end Fault

end FaultCodes
