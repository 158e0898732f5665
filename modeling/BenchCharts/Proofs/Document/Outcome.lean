import BenchCharts.Proofs.Document
import Mathlib.Data.List.TakeWhile

/-!
What becomes of a text. A text of white space is empty, a text in which no container opens holds no
document, and any other text is what is read from its first container on, whatever stands in front.
What is read there is never a scalar, and there is always something to read.
-/

namespace BenchCharts

namespace Json

theorem eq_object_of_read {s rest : List Char} {v : Json} (h : read ('{' :: s) = .ok (v, rest)) :
    ∃ fields, v = .object fields := by
  rw [read, maxDepth, readValue] at h
  change (readMembers _ _ s >>= fun read => pure (Json.object (Fields.ofPairs read.1), read.2)) =
    Except.ok (v, rest) at h
  cases hm : readMembers (readValue (s.length + 2) 126) (s.length + 2) s with
  | error fault =>
    rw [List.length_cons, hm] at h
    cases h
  | ok read =>
    rw [List.length_cons, hm] at h
    cases h
    exact ⟨_, rfl⟩

theorem eq_array_of_read {s rest : List Char} {v : Json} (h : read ('[' :: s) = .ok (v, rest)) :
    ∃ items, v = .array items := by
  rw [read, maxDepth, readValue] at h
  change (readItems _ _ s >>= fun read => pure (Json.array read.1, read.2)) =
    Except.ok (v, rest) at h
  cases hi : readItems (readValue (s.length + 2) 126) (s.length + 2) s with
  | error fault =>
    rw [List.length_cons, hi] at h
    cases h
  | ok read =>
    rw [List.length_cons, hi] at h
    cases h
    exact ⟨_, rfl⟩

/-- The messages of problems start with other words than those of texts without a container. -/
theorem Problem.take_message (problem : Problem) :
    2 ≤ problem.message.toList.length ∧
      problem.message.toList.take 2 ≠ "empty document".toList.take 2 ∧
      problem.message.toList.take 2 ≠ "no JSON object or array found".toList.take 2 := by
  cases problem <;> decide

end Json

namespace Document

variable {text preamble body : List Char} {c : Char}

/-- The first container of a text opens with a character between a preamble and a rest. -/
structure OpensAt (text preamble : List Char) (c : Char) (body : List Char) : Prop where
  eq : text = preamble ++ c :: body
  preamble_closed : ∀ x ∈ preamble, opensContainer x = false
  opens : opensContainer c = true

/-- What a text that starts with a container is decoded to. -/
inductive Decoded : List Char → Except Flaw Document → Prop where
  | mapping {body rest : List Char} {fields : Section}
    (h : Json.next? ('{' :: body) = some (.ok (.object fields, rest))) :
    Decoded ('{' :: body) (.ok (.mapping fields))
  | sections {body rest : List Char} {items : List Json}
    (h : Json.next? ('[' :: body) = some (.ok (.array items, rest))) :
    Decoded ('[' :: body) (.ok (.sections (mappingsOf items)))
  | invalid {text : List Char} {fault : Json.Fault}
    (h : Json.next? text = some (.error fault)) :
    Decoded text (.error (.invalid fault.problem (fault.place text).1 (fault.place text).2))

theorem opensContainer_eq_true_iff : opensContainer c = true ↔ c = '{' ∨ c = '[' := by
  refine ⟨eq_of_opensContainer, ?_⟩
  rintro (rfl | rfl) <;> rfl

theorem opens_iff : (∃ x ∈ text, opensContainer x = true) ↔ '{' ∈ text ∨ '[' ∈ text := by
  simp only [opensContainer_eq_true_iff]
  constructor
  · rintro ⟨x, hx, rfl | rfl⟩
    · exact .inl hx
    · exact .inr hx
  · rintro (h | h)
    · exact ⟨_, h, .inl rfl⟩
    · exact ⟨_, h, .inr rfl⟩

theorem exists_opensAt (h : '{' ∈ text ∨ '[' ∈ text) : ∃ preamble c body,
    OpensAt text preamble c body := by
  induction text with
  | nil => simp at h
  | cons x text ih =>
    cases hx : opensContainer x with
    | true => exact ⟨[], x, text, rfl, List.forall_mem_nil _, hx⟩
    | false =>
      obtain ⟨y, hy, ho⟩ := opens_iff.mpr h
      have hrest : y ∈ text := (List.mem_cons.mp hy).resolve_left fun he =>
        Bool.eq_false_iff.mp hx (he ▸ ho)
      obtain ⟨preamble, c, body, heq, hp, hc⟩ := ih (opens_iff.mp ⟨y, hrest, ho⟩)
      exact ⟨x :: preamble, c, body, congrArg (x :: ·) heq,
        List.forall_mem_cons.mpr ⟨hx, hp⟩, hc⟩

namespace OpensAt

theorem ofText_eq (h : OpensAt text preamble c body) : ofText text = ofText (c :: body) := by
  have hbody : ofText ([] ++ c :: body) = _ := ofText_located (List.forall_mem_nil _) h.opens
  rw [h.eq, ofText_located h.preamble_closed h.opens]
  exact hbody.symm

theorem decoded (h : OpensAt text preamble c body) : Decoded (c :: body) (ofText text) := by
  have hnext := next?_of_opensContainer h.opens body
  rw [h.eq, ofText_located h.preamble_closed h.opens]
  cases hread : Json.read (c :: body) with
  | error fault =>
    rw [hread] at hnext
    exact .invalid hnext
  | ok read =>
    obtain ⟨v, rest⟩ := read
    rw [hread] at hnext
    rcases eq_of_opensContainer h.opens with rfl | rfl
    · obtain ⟨fields, rfl⟩ := Json.eq_object_of_read hread
      exact .mapping hnext
    · obtain ⟨items, rfl⟩ := Json.eq_array_of_read hread
      exact .sections hnext

end OpensAt

theorem ofText_of_allBlank (h : ∀ x ∈ text, Text.isBlank x = true) :
    ofText text = .error .empty := by
  rw [ofText, if_pos (List.all_eq_true.mpr h)]

theorem ofText_of_noContainer (hblank : ∃ x ∈ text, Text.isBlank x = false)
    (hbrace : '{' ∉ text) (hbracket : '[' ∉ text) : ofText text = .error .noContainer := by
  obtain ⟨x, hx, hb⟩ := hblank
  have hall : ¬text.all Text.isBlank = true := fun hall =>
    Bool.eq_false_iff.mp hb (List.all_eq_true.mp hall x hx)
  have hnone : located text = [] := by
    rw [located, List.dropWhile_eq_nil_iff]
    intro y hy
    rw [Bool.not_eq_true', Bool.eq_false_iff]
    exact fun ho => (opens_iff.mp ⟨y, hy, ho⟩).elim hbrace hbracket
  rw [ofText, if_neg hall, hnone]

theorem ofText_cases (text : List Char) :
    ((∀ x ∈ text, Text.isBlank x = true) ∧ ofText text = .error .empty) ∨
      ((∃ x ∈ text, Text.isBlank x = false) ∧ '{' ∉ text ∧ '[' ∉ text ∧
        ofText text = .error .noContainer) ∨
      ∃ preamble c body, OpensAt text preamble c body ∧ Decoded (c :: body) (ofText text) := by
  by_cases hopens : '{' ∈ text ∨ '[' ∈ text
  · obtain ⟨preamble, c, body, h⟩ := exists_opensAt hopens
    exact .inr (.inr ⟨preamble, c, body, h, h.decoded⟩)
  · obtain ⟨hbrace, hbracket⟩ := not_or.mp hopens
    by_cases hall : ∀ x ∈ text, Text.isBlank x = true
    · exact .inl ⟨hall, ofText_of_allBlank hall⟩
    · have hblank : ∃ x ∈ text, Text.isBlank x = false := by
        simpa only [not_forall, exists_prop, Bool.not_eq_true] using hall
      exact .inr (.inl ⟨hblank, hbrace, hbracket, ofText_of_noContainer hblank hbrace hbracket⟩)

theorem message_invalid_ne (problem : Json.Problem) (line column : Nat) :
    (Flaw.invalid problem line column).message ≠ "empty document" ∧
      (Flaw.invalid problem line column).message ≠ "no JSON object or array found" := by
  obtain ⟨hlength, hempty, hnone⟩ := problem.take_message
  have happend : (Flaw.invalid problem line column).message =
      problem.message ++ " at line " ++ toString line ++ " column " ++ toString column := rfl
  have htake : (Flaw.invalid problem line column).message.toList.take 2 =
      problem.message.toList.take 2 := by
    rw [happend, String.append_assoc, String.append_assoc, String.append_assoc,
      String.toList_append, List.take_append_of_le_length hlength]
  constructor
  · intro he
    rw [he] at htake
    exact hempty htake.symm
  · intro he
    rw [he] at htake
    exact hnone htake.symm

namespace Decoded

variable {outcome : Except Flaw Document}

theorem exists_error_iff (h : Decoded text outcome) :
    (∃ flaw, outcome = .error flaw) ↔ ∃ fault, Json.next? text = some (.error fault) := by
  cases h with
  | mapping h =>
    rw [h]
    exact iff_of_false nofun nofun
  | sections h =>
    rw [h]
    exact iff_of_false nofun nofun
  | invalid h => exact iff_of_true ⟨_, rfl⟩ ⟨_, h⟩

theorem shape_iff (h : Decoded (c :: body) outcome) {document : Document}
    (hd : outcome = .ok document) :
    ((∃ fields, document = .mapping fields) ↔ c = '{') ∧
      ((∃ items, document = .sections items) ↔ c = '[') := by
  cases h with
  | mapping h =>
    cases hd
    exact ⟨iff_of_true ⟨_, rfl⟩ rfl, iff_of_false nofun (by decide)⟩
  | sections h =>
    cases hd
    exact ⟨iff_of_false nofun (by decide), iff_of_true ⟨_, rfl⟩ rfl⟩
  | invalid h => cases hd

theorem exists_invalid (h : Decoded text outcome) {flaw : Flaw} (he : outcome = .error flaw) :
    ∃ problem line column, flaw = .invalid problem line column := by
  cases h with
  | mapping h => cases he
  | sections h => cases he
  | invalid h =>
    cases he
    exact ⟨_, _, _, rfl⟩

end Decoded

theorem mapError_eq_error_iff {outcome : Except Flaw Document} {message : String} :
    outcome.mapError Flaw.message = .error message ↔
      ∃ flaw, outcome = .error flaw ∧ flaw.message = message := by
  cases outcome with
  | error flaw => simp [Except.mapError]
  | ok document => exact iff_of_false nofun nofun

theorem kind_of_flaw {flaw : Flaw} (h : ofText text = .error flaw) :
    (flaw = .empty ∧ ∀ x ∈ text, Text.isBlank x = true) ∨
      (flaw = .noContainer ∧
        (∃ x ∈ text, Text.isBlank x = false) ∧ '{' ∉ text ∧ '[' ∉ text) ∨
      ∃ problem line column, flaw = .invalid problem line column := by
  rcases ofText_cases text with ⟨hall, he⟩ | ⟨hblank, hbrace, hbracket, he⟩ | ⟨_, _, _, _, hd⟩
  · exact .inl ⟨Except.error.inj (h.symm.trans he), hall⟩
  · exact .inr (.inl ⟨Except.error.inj (h.symm.trans he), hblank, hbrace, hbracket⟩)
  · exact .inr (.inr (hd.exists_invalid h))

theorem empty_document_iff : (ofText text).mapError Flaw.message = .error "empty document" ↔
    ∀ x ∈ text, Text.isBlank x = true := by
  rw [mapError_eq_error_iff]
  constructor
  · rintro ⟨flaw, he, hm⟩
    rcases kind_of_flaw he with ⟨-, hall⟩ | ⟨rfl, -⟩ | ⟨problem, line, column, rfl⟩
    · exact hall
    · exact absurd hm (by decide)
    · exact absurd hm (message_invalid_ne problem line column).1
  · exact fun hall => ⟨_, ofText_of_allBlank hall, rfl⟩

theorem no_container_iff :
    (ofText text).mapError Flaw.message = .error "no JSON object or array found" ↔
      (∃ x ∈ text, Text.isBlank x = false) ∧ '{' ∉ text ∧ '[' ∉ text := by
  rw [mapError_eq_error_iff]
  constructor
  · rintro ⟨flaw, he, hm⟩
    rcases kind_of_flaw he with ⟨rfl, -⟩ | ⟨-, hkind⟩ | ⟨problem, line, column, rfl⟩
    · exact absurd hm (by decide)
    · exact hkind
    · exact absurd hm (message_invalid_ne problem line column).2
  · rintro ⟨hblank, hbrace, hbracket⟩
    exact ⟨_, ofText_of_noContainer hblank hbrace hbracket, rfl⟩

/-- A text is refused as empty if and only if it is white space, and for want of a container if and
only if it has none but is not white space. Any other text comes to what its first container is
decoded to, be it a document or a fault, no matter what stands in front of it. That no value is left
or that the value is a scalar is never the reason. -/
theorem ofText_classified (text : List Char) :
    ((ofText text).mapError Flaw.message = .error "empty document" ↔
        ∀ x ∈ text, Text.isBlank x = true) ∧
      ((ofText text).mapError Flaw.message = .error "no JSON object or array found" ↔
        (∃ x ∈ text, Text.isBlank x = false) ∧ '{' ∉ text ∧ '[' ∉ text) ∧
      ('{' ∈ text ∨ '[' ∈ text → ∃ preamble c body, OpensAt text preamble c body) ∧
      (∀ preamble c body, OpensAt text preamble c body →
        Decoded (c :: body) (ofText text) ∧
          ((∃ flaw, ofText text = .error flaw) ↔
            ∃ fault, Json.next? (c :: body) = some (.error fault)) ∧
          (∀ document, ofText text = .ok document →
            ((∃ fields, document = .mapping fields) ↔ c = '{') ∧
              ((∃ items, document = .sections items) ↔ c = '[')) ∧
          ofText text = ofText (c :: body)) ∧
      ofText text ≠ .error .noValue ∧ ∀ v, ofText text ≠ .error (.scalar v) := by
  refine ⟨empty_document_iff, no_container_iff, exists_opensAt, ?_, ?_, ?_⟩
  · intro preamble c body h
    exact ⟨h.decoded, h.decoded.exists_error_iff, fun document hd => h.decoded.shape_iff hd,
      h.ofText_eq⟩
  · intro h
    rcases kind_of_flaw h with ⟨he, -⟩ | ⟨he, -⟩ | ⟨_, _, _, he⟩ <;> cases he
  · intro v h
    rcases kind_of_flaw h with ⟨he, -⟩ | ⟨he, -⟩ | ⟨_, _, _, he⟩ <;> cases he

/-- A bracket in a line of a log is taken for the start of the document, and the fault is placed
from there. -/
theorem ofText_classified_log :
    let preamble := "log line ".toList
    let body := "info] \x7bbroken".toList
    let text := preamble ++ '[' :: body
    OpensAt text preamble '[' body ∧
      Json.next? ('[' :: body) = some (.error ⟨.noValue, body, 1⟩) ∧
      ofText text = .error (.invalid .noValue 1 2) ∧ ofText ('[' :: body) = ofText text ∧
      (ofText text).mapError Flaw.message ≠ .error "empty document" := by
  intro preamble body text
  have hclosed : preamble.all fun x => decide (opensContainer x = false) := by decide
  have hopens : OpensAt text preamble '[' body :=
    ⟨rfl, fun x hx => of_decide_eq_true (List.all_eq_true.mp hclosed x hx), rfl⟩
  have hnext : Json.next? ('[' :: body) = some (.error ⟨.noValue, body, 1⟩) := by rfl
  obtain ⟨hempty, -, -, hopened, -, -⟩ := ofText_classified text
  obtain ⟨hdecoded, -, -, heq⟩ := hopened preamble '[' body hopens
  have hflaw : ofText text = .error (.invalid .noValue 1 2) := by
    generalize ofText text = outcome at hdecoded
    cases hdecoded with
    | sections h =>
      rw [hnext] at h
      cases h
    | invalid h =>
      rw [hnext] at h
      cases h
      have hplace : Json.Fault.place ('[' :: body) ⟨.noValue, body, 1⟩ = (1, 2) := by
        decide +kernel
      rw [hplace]
  have hletter : 'l' ∈ text := by decide
  exact ⟨hopens, hnext, hflaw, heq.symm, fun h => absurd (hempty.mp h 'l' hletter) (by decide)⟩

end Document

end BenchCharts
