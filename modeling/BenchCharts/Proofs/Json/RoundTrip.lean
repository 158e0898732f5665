import BenchCharts.Proofs.Fields
import BenchCharts.Proofs.Json.Number
import BenchCharts.Proofs.Json.Quoted
import Mathlib.Algebra.Group.Int.Defs

/-!
Values whose numbers are integers of 64 bits read back from their compact text, and what follows
them is left over.
-/

namespace BenchCharts.Json

open Decimal (ne_of_isDigit)

/-- A value with integers of 64 bits for numbers, with each name of an object once, and with
containers nested at most so deep. -/
inductive Portable : Nat → Json → Prop where
  | null : Portable depth .null
  | bool (b : Bool) : Portable depth (.bool b)
  | int {n : Int} (hmin : -2 ^ 63 ≤ n) (hmax : n < 2 ^ 64) : Portable depth (.int n)
  | string (s : String) : Portable depth (.string s)
  | array {items : List Json} (h : ∀ v ∈ items, Portable depth v) :
    Portable (depth + 1) (.array items)
  | object {fields : List (String × Json)} (hnames : (fields.map (·.1)).Nodup)
    (h : ∀ field ∈ fields, Portable depth field.2) : Portable (depth + 1) (.object fields)

def compactField : String × Json → List Char
  | (k, v) => quoted k ++ ':' :: v.compact

def afterCommas (f : α → List Char) (l : List α) : List Char :=
  l.flatMap fun x => ',' :: f x

theorem afterCommas_cons_append (f : α → List Char) (x : α) (l : List α) (rest : List Char) :
    afterCommas f (x :: l) ++ rest = ',' :: (f x ++ (afterCommas f l ++ rest)) := by
  rw [afterCommas, List.flatMap_cons, List.cons_append, List.cons_append, List.append_assoc]
  rfl

theorem compactItems_cons (v : Json) (vs : List Json) :
    compactItems (v :: vs) = v.compact ++ afterCommas compact vs := by
  induction vs generalizing v with
  | nil => exact (List.append_nil _).symm
  | cons w vs ih =>
    rw [compactItems, ih]
    · rfl
    · exact List.cons_ne_nil _ _

theorem compactFields_cons (field : String × Json) (fields : List (String × Json)) :
    compactFields (field :: fields) = compactField field ++ afterCommas compactField fields := by
  induction fields generalizing field with
  | nil => exact (List.append_nil _).symm
  | cons next fields ih =>
    rw [compactFields, ih]
    · rfl
    · exact List.cons_ne_nil _ _

theorem skipSpace_cons {c : Char} (h : isSpace c = false) (s : List Char) :
    skipSpace (c :: s) = c :: s :=
  List.dropWhile_cons_of_neg (Bool.eq_false_iff.mp h)

theorem isSpace_of_isDigit {c : Char} (h : c.isDigit = true) : isSpace c = false := by
  simp only [isSpace, Bool.or_eq_false_iff, beq_eq_false_iff_ne]
  exact ⟨⟨⟨ne_of_isDigit h rfl, ne_of_isDigit h rfl⟩, ne_of_isDigit h rfl⟩, ne_of_isDigit h rfl⟩

theorem readValue_of_isDigit {c : Char} (h : c.isDigit = true) (n depth : Nat) (s : List Char) :
    readValue n depth (c :: s) = readUnsigned false (c :: s) := by
  rw [readValue, skipSpace_cons (isSpace_of_isDigit h)]
  split
  · next heq => cases heq
  · next heq => exact absurd (List.cons.inj heq).1 (ne_of_isDigit h rfl)
  · next heq => exact absurd (List.cons.inj heq).1 (ne_of_isDigit h rfl)
  · next heq => exact absurd (List.cons.inj heq).1 (ne_of_isDigit h rfl)
  · next heq => exact absurd (List.cons.inj heq).1 (ne_of_isDigit h rfl)
  · next heq =>
    cases heq
    rw [if_neg (ne_of_isDigit h rfl), if_neg (ne_of_isDigit h rfl), if_neg (ne_of_isDigit h rfl),
      if_pos h]

def BeginsItem (s : List Char) : Prop :=
  ∃ c r, s = c :: r ∧ isSpace c = false ∧ c ≠ ']'

theorem Portable.beginsItem {depth : Nat} {v : Json} (h : Portable depth v) (rest : List Char) :
    BeginsItem (v.compact ++ rest) := by
  cases h with
  | null => exact ⟨_, _, rfl, rfl, by decide⟩
  | bool b => cases b <;> exact ⟨_, _, rfl, rfl, by decide⟩
  | @int _ n hmin hmax =>
    rw [compact, Decimal.integerText]
    split
    · exact ⟨_, _, rfl, rfl, by decide⟩
    · obtain ⟨c, r, hd, hc, _⟩ := Decimal.digits_eq_cons n.natAbs
      rw [hd]
      exact ⟨_, _, rfl, isSpace_of_isDigit hc, ne_of_isDigit hc rfl⟩
  | string s => exact ⟨_, _, rfl, rfl, by decide⟩
  | array h => exact ⟨_, _, rfl, rfl, by decide⟩
  | object hnames h => exact ⟨_, _, rfl, rfl, by decide⟩

theorem readValue_integerText {n : Int} (hmin : -2 ^ 63 ≤ n) (hmax : n < 2 ^ 64)
    {rest : List Char} (hr : EndsNumber rest) (m depth : Nat) :
    readValue m depth (Decimal.integerText n ++ rest) = .ok (.int n, rest) := by
  have hcount : n.natAbs ≤ Decimal.maxCount := by
    rw [Decimal.maxCount, Nat.pow_eq]
    omega
  have hread := readUnsigned_digits hcount hr
  rw [Decimal.integerText]
  split
  · next hneg =>
    have hint : integerOf true n.natAbs = .int n := by
      have hzero : ¬(n.natAbs = 0 ∨ Nat.pow 2 63 < n.natAbs) := by
        rw [Nat.pow_eq]
        omega
      rw [integerOf, if_neg (by decide), if_neg hzero]
      congr 1
      omega
    rw [List.cons_append, readValue]
    exact (hread true).trans (by rw [hint])
  · next hneg =>
    obtain ⟨c, s, hd, hc, _⟩ := Decimal.digits_eq_cons n.natAbs
    have hint : integerOf false n.natAbs = .int n :=
      congrArg Json.int (Int.natAbs_of_nonneg (Int.not_lt.mp hneg))
    rw [hd, List.cons_append, readValue_of_isDigit hc, ← List.cons_append, ← hd, hread, hint]

/-- A reader takes a value from any text that starts with the value's own, if the text is not too
long. -/
def ReadsBack (item : Reader Json) (n : Nat) (v : Json) : Prop :=
  ∀ rest, EndsNumber rest → (v.compact ++ rest).length ≤ n →
    item (v.compact ++ rest) = .ok (v, rest)

section

variable {item : Reader Json} {n : Nat}

theorem endsNumber_cons {c : Char} {s : List Char}
    (h : c.isDigit = false ∧ c ≠ '.' ∧ c ≠ 'e' ∧ c ≠ 'E') : EndsNumber (c :: s) := by
  rintro _ ⟨⟩
  exact h

theorem endsNumber_afterCommas (f : α → List Char) (l : List α) {c : Char} (rest : List Char)
    (h : c.isDigit = false ∧ c ≠ '.' ∧ c ≠ 'e' ∧ c ≠ 'E') :
    EndsNumber (afterCommas f l ++ c :: rest) := by
  cases l with
  | nil => exact endsNumber_cons h
  | cons x l => exact endsNumber_cons (by decide)

theorem readItems_of_beginsItem {s r r' : List Char} {v : Json} {vs : List Json}
    (hs : BeginsItem s) (hitem : item s = .ok (v, r))
    (hmore : readMoreItems item n r = .ok (vs, r')) : readItems item n s = .ok (v :: vs, r') := by
  obtain ⟨c, s, rfl, hspace, hclose⟩ := hs
  rw [readItems, skipSpace_cons hspace]
  split
  · next heq => cases heq
  · next heq => exact absurd (List.cons.inj heq).1 hclose
  · next heq =>
    cases heq
    rw [hitem]
    dsimp only [bind, Except.bind]
    rw [hmore]
    rfl

theorem readMoreItems_comma {s r r' : List Char} {m : Nat} {v : Json} {vs : List Json}
    (hs : BeginsItem s) (hitem : item s = .ok (v, r))
    (hmore : readMoreItems item m r = .ok (vs, r')) :
    readMoreItems item (m + 1) (',' :: s) = .ok (v :: vs, r') := by
  have hcomma : skipSpace (',' :: s) = ',' :: s := skipSpace_cons rfl s
  obtain ⟨c, s, rfl, hspace, hclose⟩ := hs
  rw [readMoreItems, hcomma]
  split
  · next heq => cases heq
  · next heq => exact absurd (List.cons.inj heq).1 (by decide)
  · next heq =>
    cases heq
    rw [skipSpace_cons hspace]
    split
    · next heq => cases heq
    · next heq => exact absurd (List.cons.inj heq).1 hclose
    · next heq =>
      cases heq
      rw [hitem]
      dsimp only [bind, Except.bind]
      rw [hmore]
      rfl
  · next hne heq =>
    cases heq
    exact (hne rfl).elim

theorem exists_eq_succ {s r : List Char} {c : Char} {m : Nat} (h : (s ++ c :: r).length ≤ m) :
    ∃ k, m = k + 1 := by
  rw [List.length_append, List.length_cons] at h
  exact Nat.exists_eq_succ_of_ne_zero (by omega)

theorem readMoreItems_afterCommas {vs : List Json} (hv : ∀ v ∈ vs, ∃ depth, Portable depth v)
    (h : ∀ v ∈ vs, ReadsBack item n v) {m : Nat} (hn : m ≤ n) {rest : List Char}
    (hm : (afterCommas compact vs ++ ']' :: rest).length ≤ m) :
    readMoreItems item m (afterCommas compact vs ++ ']' :: rest) = .ok (vs, rest) := by
  obtain ⟨m, rfl⟩ := exists_eq_succ hm
  induction vs generalizing m with
  | nil => rfl
  | cons v vs ih =>
    obtain ⟨⟨_, hp⟩, hv⟩ := List.forall_mem_cons.mp hv
    obtain ⟨hread, h⟩ := List.forall_mem_cons.mp h
    rw [afterCommas_cons_append] at hm ⊢
    rw [List.length_cons] at hm
    have hvalue := Nat.le_trans (Nat.le_of_succ_le hm) hn
    have hitem := hread _ (endsNumber_afterCommas _ vs rest (by decide)) hvalue
    rw [List.length_append] at hm
    have htail : (afterCommas compact vs ++ ']' :: rest).length ≤ m := by omega
    obtain ⟨m, rfl⟩ := exists_eq_succ htail
    exact readMoreItems_comma (hp.beginsItem _) hitem (ih hv h m (by omega) htail)

theorem readItems_compactItems {items : List Json} (hv : ∀ v ∈ items, ∃ depth, Portable depth v)
    (h : ∀ v ∈ items, ReadsBack item n v) {rest : List Char}
    (hn : (compactItems items ++ ']' :: rest).length ≤ n) :
    readItems item n (compactItems items ++ ']' :: rest) = .ok (items, rest) := by
  cases items with
  | nil => rfl
  | cons v vs =>
    obtain ⟨⟨_, hp⟩, hv⟩ := List.forall_mem_cons.mp hv
    obtain ⟨hread, h⟩ := List.forall_mem_cons.mp h
    rw [compactItems_cons, List.append_assoc] at hn ⊢
    have hitem := hread _ (endsNumber_afterCommas _ vs rest (by decide)) hn
    rw [List.length_append] at hn
    exact readItems_of_beginsItem (hp.beginsItem _) hitem
      (readMoreItems_afterCommas hv h (Nat.le_refl n) (by omega))

theorem readField_eq {k : String} {s r r' : List Char} {l m : Nat} {v : Json}
    {fields : List (String × Json)} (hkey : (quoted k ++ ':' :: s).length ≤ l)
    (hitem : item s = .ok (v, r)) (hmore : readMoreMembers item m r = .ok (fields, r')) :
    (readString l (k.toList.flatMap escaped ++ '"' :: ':' :: s) >>= fun (k, r) =>
      readMember item r >>= fun (v, r) =>
      readMoreMembers item m r >>= fun (fields, r) => pure ((k, v) :: fields, r)) =
      .ok ((k, v) :: fields, r') := by
  have hmember : readMember item (':' :: s) = .ok (v, r) := hitem
  rw [readString_quoted k hkey]
  dsimp only [bind, Except.bind]
  rw [hmember]
  dsimp only
  rw [hmore]
  rfl

theorem readMembers_quoted {k : String} {s r r' : List Char} {v : Json}
    {fields : List (String × Json)} (hkey : (quoted k ++ ':' :: s).length ≤ n)
    (hitem : item s = .ok (v, r)) (hmore : readMoreMembers item n r = .ok (fields, r')) :
    readMembers item n (quoted k ++ ':' :: s) = .ok ((k, v) :: fields, r') := by
  rw [quoted_append, readMembers]
  exact readField_eq hkey hitem hmore

theorem readMoreMembers_comma {k : String} {s r r' : List Char} {m : Nat} {v : Json}
    {fields : List (String × Json)} (hkey : (quoted k ++ ':' :: s).length ≤ m + 1)
    (hitem : item s = .ok (v, r)) (hmore : readMoreMembers item m r = .ok (fields, r')) :
    readMoreMembers item (m + 1) (',' :: (quoted k ++ ':' :: s)) = .ok ((k, v) :: fields, r') := by
  rw [quoted_append, readMoreMembers]
  exact readField_eq hkey hitem hmore

theorem compactField_append (k : String) (v : Json) (rest : List Char) :
    compactField (k, v) ++ rest = quoted k ++ ':' :: (v.compact ++ rest) := by
  rw [compactField, List.append_assoc, List.cons_append]

theorem readMoreMembers_afterCommas {fields : List (String × Json)}
    (h : ∀ field ∈ fields, ReadsBack item n field.2) {m : Nat} (hn : m ≤ n) {rest : List Char}
    (hm : (afterCommas compactField fields ++ '}' :: rest).length ≤ m) :
    readMoreMembers item m (afterCommas compactField fields ++ '}' :: rest) =
      .ok (fields, rest) := by
  obtain ⟨m, rfl⟩ := exists_eq_succ hm
  induction fields generalizing m with
  | nil => rfl
  | cons field fields ih =>
    obtain ⟨k, v⟩ := field
    obtain ⟨hread, h⟩ := List.forall_mem_cons.mp h
    rw [afterCommas_cons_append, compactField_append] at hm ⊢
    rw [List.length_cons] at hm
    have hkey := Nat.le_of_succ_le hm
    rw [List.length_append, List.length_cons] at hm
    have hvalue : (v.compact ++ (afterCommas compactField fields ++ '}' :: rest)).length ≤ n := by
      omega
    have hitem := hread _ (endsNumber_afterCommas _ fields rest (by decide)) hvalue
    rw [List.length_append] at hm
    have htail : (afterCommas compactField fields ++ '}' :: rest).length ≤ m := by omega
    obtain ⟨m, rfl⟩ := exists_eq_succ htail
    exact readMoreMembers_comma hkey hitem (ih h m (by omega) htail)

theorem readMembers_compactFields {fields : List (String × Json)}
    (h : ∀ field ∈ fields, ReadsBack item n field.2) {rest : List Char}
    (hn : (compactFields fields ++ '}' :: rest).length ≤ n) :
    readMembers item n (compactFields fields ++ '}' :: rest) = .ok (fields, rest) := by
  cases fields with
  | nil => rfl
  | cons field fields =>
    obtain ⟨k, v⟩ := field
    obtain ⟨hread, h⟩ := List.forall_mem_cons.mp h
    rw [compactFields_cons, List.append_assoc, compactField_append] at hn ⊢
    have hkey := hn
    rw [List.length_append, List.length_cons] at hn
    have hvalue : (v.compact ++ (afterCommas compactField fields ++ '}' :: rest)).length ≤ n := by
      omega
    have hitem := hread _ (endsNumber_afterCommas _ fields rest (by decide)) hvalue
    rw [List.length_append] at hn
    exact readMembers_quoted hkey hitem (readMoreMembers_afterCommas h (Nat.le_refl n) (by omega))

end

/-- A value reads back from its compact text. What follows an integer has to end it; what follows
any other value does not matter. -/
theorem Portable.readValue_compact {depth : Nat} {v : Json} (h : Portable depth v) {n : Nat}
    {rest : List Char} (hn : (v.compact ++ rest).length ≤ n)
    (hr : ∀ k, v = .int k → EndsNumber rest) :
    readValue n depth (v.compact ++ rest) = .ok (v, rest) := by
  induction h generalizing rest with
  | null =>
    rw [readValue]
    rfl
  | bool b =>
    rw [readValue]
    cases b <;> rfl
  | int hmin hmax => exact readValue_integerText hmin hmax (hr _ rfl) n _
  | string s =>
    have hs := readString_quoted s hn
    rw [compact, quoted_append, readValue]
    change (readString n _ >>= fun read => pure (Json.string read.1, read.2)) = _
    rw [hs]
    rfl
  | @array depth items h ih =>
    rw [compact, List.cons_append, List.cons_append, List.append_assoc,
      List.singleton_append] at hn ⊢
    have hreads : ∀ v ∈ items, ReadsBack (readValue n depth) n v :=
      fun v hv _ hr hn => ih v hv hn fun _ _ => hr
    have hitems := readItems_compactItems (fun v hv => ⟨depth, h v hv⟩) hreads
      (Nat.le_of_succ_le hn)
    rw [readValue]
    change (readItems (readValue n depth) n _ >>= fun read =>
      pure (Json.array read.1, read.2)) = _
    rw [hitems]
    rfl
  | @object depth fields hnames h ih =>
    rw [compact, List.cons_append, List.cons_append, List.append_assoc,
      List.singleton_append] at hn ⊢
    have hreads : ∀ field ∈ fields, ReadsBack (readValue n depth) n field.2 :=
      fun field hf _ hr hn => ih field hf hn fun _ _ => hr
    have hfields := readMembers_compactFields hreads (Nat.le_of_succ_le hn)
    rw [readValue]
    change (readMembers (readValue n depth) n _ >>= fun read =>
      pure (Json.object (Fields.ofPairs read.1), read.2)) = _
    rw [hfields]
    change Except.ok (Json.object (Fields.ofPairs fields), rest) = _
    rw [Fields.ofPairs_eq_self hnames]

end BenchCharts.Json
