import BenchCharts.Document
import BenchCharts.Proofs.Json.RoundTrip

/-!
Result documents survive what surrounds them: a value's compact text is found and read behind any
preamble that opens no container, and in front of anything at all.
-/

namespace BenchCharts

def Json.isObject : Json → Bool
  | object _ => true
  | _ => false

namespace Document

theorem map_object_mappingsOf (items : List Json) :
    (mappingsOf items).map Json.object = items.filter Json.isObject := by
  induction items with
  | nil => rfl
  | cons item items ih =>
    cases item with
    | object fields =>
      rw [List.filter_cons_of_pos rfl, ← ih]
      rfl
    | _ =>
      rw [List.filter_cons_of_neg Bool.false_ne_true, ← ih]
      rfl

theorem located_append {preamble body : List Char} {c : Char}
    (hp : ∀ x ∈ preamble, opensContainer x = false) (hc : opensContainer c = true) :
    located (preamble ++ c :: body) = c :: body := by
  have hskip : ∀ x ∈ preamble, (!opensContainer x) = true := fun x hx => by rw [hp x hx]; rfl
  rw [located, List.dropWhile_append_of_pos hskip, List.dropWhile_cons_of_neg (by rw [hc]; nofun)]

theorem eq_of_opensContainer {c : Char} (h : opensContainer c = true) : c = '{' ∨ c = '[' := by
  rw [opensContainer, Bool.or_eq_true, beq_iff_eq, beq_iff_eq] at h
  exact h

theorem next?_of_opensContainer {c : Char} (hc : opensContainer c = true) (body : List Char) :
    Json.next? (c :: body) = some (Json.read (c :: body)) := by
  have hspace : Json.isSpace c = false := by
    rcases eq_of_opensContainer hc with rfl | rfl <;> rfl
  have hcloses : Json.closesItself c = true := by
    rcases eq_of_opensContainer hc with rfl | rfl <;> rfl
  rw [Json.next?, Json.skipSpace_cons hspace]
  dsimp only
  rw [hcloses]
  cases Json.read (c :: body) <;> rfl

/-- A document is what is read from where the first container opens, and the places of faults are
counted from there. -/
theorem ofText_located {preamble body : List Char} {c : Char}
    (hp : ∀ x ∈ preamble, opensContainer x = false) (hc : opensContainer c = true) :
    ofText (preamble ++ c :: body) =
      match Json.read (c :: body) with
      | .ok (v, _) => ofJson v
      | .error fault => .error
          (.invalid fault.problem (fault.place (c :: body)).1 (fault.place (c :: body)).2) := by
  have hblank : ¬(preamble ++ c :: body).all Text.isBlank = true := by
    intro hall
    have hcb := List.all_eq_true.mp hall c (List.mem_append_right _ List.mem_cons_self)
    rcases eq_of_opensContainer hc with rfl | rfl <;> cases hcb
  rw [ofText, if_neg hblank, located_append hp hc]
  dsimp only
  rw [next?_of_opensContainer hc]
  cases Json.read (c :: body) <;> rfl

theorem ofText_append {preamble body rest : List Char} {c : Char} {v : Json}
    (hp : ∀ x ∈ preamble, opensContainer x = false) (hc : opensContainer c = true)
    (hread : Json.read (c :: body) = .ok (v, rest)) :
    ofText (preamble ++ c :: body) = ofJson v := by
  rw [ofText_located hp hc, hread]

theorem read_compact {v : Json} (hv : Json.Portable 127 v) (hint : ∀ k, v ≠ .int k)
    (rest : List Char) : Json.read (v.compact ++ rest) = .ok (v, rest) :=
  hv.readValue_compact (Nat.le_succ _) fun k hk => absurd hk (hint k)

/-- The compact text of an object or a list is a document behind any preamble that opens no
container and in front of any text, and the document is the object, or the objects of the list. -/
theorem ofText_compact {v : Json} (hv : Json.Portable 127 v) {preamble : List Char}
    (hbrace : '{' ∉ preamble) (hbracket : '[' ∉ preamble) (rest : List Char) :
    (∀ fields, v = .object fields →
      ofText (preamble ++ v.compact ++ rest) = .ok (.mapping fields)) ∧
      ∀ items, v = .array items →
        ∃ mappings, ofText (preamble ++ v.compact ++ rest) = .ok (.sections mappings) ∧
          mappings.map Json.object = items.filter Json.isObject := by
  have hp : ∀ c ∈ preamble, opensContainer c = false := by
    intro c hc
    apply Bool.eq_false_iff.mpr
    intro hopen
    rcases eq_of_opensContainer hopen with rfl | rfl
    · exact hbrace hc
    · exact hbracket hc
  rw [List.append_assoc]
  constructor
  · rintro fields rfl
    have hread := read_compact hv nofun rest
    exact ofText_append hp rfl hread
  · rintro items rfl
    have hread := read_compact hv nofun rest
    exact ⟨mappingsOf items, ofText_append hp rfl hread, map_object_mappingsOf items⟩

/-- Strings with escapes, integers at both ends of their range, and brackets on either side. -/
theorem ofText_compact_noise :
    let first : Json := .object [("a\"\\\n\x01", .int (-9223372036854775808))]
    let second : Json := .object
      [("b", .array [.string "]\x7d", .int 18446744073709551615, .bool true]), ("", .object [])]
    let v : Json := .array [first, .null, second, .int 7]
    let preamble := "clk: ~3.2 GHz ]\"\n".toList
    let rest := "8]\x7d\" \x7b".toList
    Json.Portable 127 v ∧ '{' ∉ preamble ∧ '[' ∉ preamble ∧
      ∃ mappings, ofText (preamble ++ v.compact ++ rest) = .ok (.sections mappings) ∧
        mappings.map Json.object = [first, second] := by
  intro first second v preamble rest
  have hfirst (depth : Nat) : Json.Portable (depth + 1) first :=
    .object (by decide) (List.forall_mem_singleton.mpr (.int (by decide) (by decide)))
  have hlist (depth : Nat) : Json.Portable (depth + 1)
      (.array [.string "]\x7d", .int 18446744073709551615, .bool true]) :=
    .array (List.forall_mem_cons.mpr ⟨.string _, List.forall_mem_cons.mpr
      ⟨.int (by decide) (by decide), List.forall_mem_singleton.mpr (.bool true)⟩⟩)
  have hsecond (depth : Nat) : Json.Portable (depth + 2) second :=
    .object (by decide) (List.forall_mem_cons.mpr ⟨hlist depth,
      List.forall_mem_singleton.mpr (.object List.nodup_nil (List.forall_mem_nil _))⟩)
  have hv : Json.Portable 127 v :=
    .array (List.forall_mem_cons.mpr ⟨hfirst 125, List.forall_mem_cons.mpr
      ⟨.null, List.forall_mem_cons.mpr ⟨hsecond 124,
        List.forall_mem_singleton.mpr (.int (by decide) (by decide))⟩⟩⟩)
  have hbrace : '{' ∉ preamble := by decide
  have hbracket : '[' ∉ preamble := by decide
  exact ⟨hv, hbrace, hbracket, (ofText_compact hv hbrace hbracket _).2 _ rfl⟩

end Document

end BenchCharts
