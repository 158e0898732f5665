import BenchCharts.Json.Reader

/-!
Strings read back from their quoted text, whatever they hold and whatever follows.
-/

namespace BenchCharts.Json

theorem hexNumber?_hexDigits :
    ∀ n < 32, hexNumber? ['0', '0', hexDigit (n / 16), hexDigit (n % 16)] = some n := by
  decide

theorem readUnicode_of_lt {n : Nat} (h : n < 32) (r : List Char) :
    readUnicode ('0' :: '0' :: hexDigit (n / 16) :: hexDigit (n % 16) :: r) =
      .ok (Char.ofNat n, r) := by
  have hsurrogate : ∀ n < 32, isTrailing n = false ∧ isLeading n = false := by decide
  obtain ⟨htrailing, hleading⟩ := hsurrogate n h
  have hhex : readHex ('0' :: '0' :: hexDigit (n / 16) :: hexDigit (n % 16) :: r) = .ok (n, r) := by
    rw [readHex, hexNumber?_hexDigits n h]
  rw [readUnicode, hhex]
  simp [bind, Except.bind, htrailing, hleading]

theorem readCharacters_backslash {n : Nat} {c : Char} {s r : List Char}
    (h : readEscape s = .ok (c, r)) :
    readCharacters (n + 1) ('\\' :: s) = (readCharacters n r).map fun (cs, r) => (c :: cs, r) := by
  have hquote : '\\' ≠ '"' := by decide
  rw [readCharacters, if_neg hquote, if_pos rfl, h]
  change (readCharacters n r >>= fun (cs, r) => pure (c :: cs, r)) = _
  cases readCharacters n r <;> rfl

theorem readCharacters_escaped (c : Char) (n : Nat) (r : List Char) :
    readCharacters (n + 1) (escaped c ++ r) =
      (readCharacters n r).map fun (cs, r) => (c :: cs, r) := by
  have hc := Char.ofNat_toNat c
  unfold escaped
  split
  · next h =>
    subst h
    exact readCharacters_backslash rfl
  split
  · next h =>
    subst h
    exact readCharacters_backslash rfl
  split
  · next h =>
    subst h
    exact readCharacters_backslash rfl
  split
  · next h =>
    subst h
    exact readCharacters_backslash rfl
  split
  · next h =>
    subst h
    exact readCharacters_backslash rfl
  split
  · next h =>
    rw [h] at hc
    exact readCharacters_backslash (hc ▸ rfl)
  split
  · next h =>
    rw [h] at hc
    exact readCharacters_backslash (hc ▸ rfl)
  split
  · next h => exact readCharacters_backslash ((readUnicode_of_lt h r).trans (by rw [hc]))
  · next hquote hbackslash _ _ _ _ _ hcontrol =>
    rw [List.singleton_append, readCharacters, if_neg hquote, if_neg hbackslash, if_neg hcontrol]
    cases readCharacters n r <;> rfl

theorem readCharacters_flatMap_escaped {cs : List Char} {n : Nat} (h : cs.length < n)
    (r : List Char) : readCharacters n (cs.flatMap escaped ++ '"' :: r) = .ok (cs, r) := by
  induction cs generalizing n with
  | nil =>
    obtain ⟨m, rfl⟩ := Nat.exists_eq_succ_of_ne_zero (Nat.ne_zero_of_lt h)
    rfl
  | cons c cs ih =>
    obtain ⟨m, rfl⟩ := Nat.exists_eq_succ_of_ne_zero (Nat.ne_zero_of_lt h)
    rw [List.flatMap_cons, List.append_assoc, readCharacters_escaped,
      ih (Nat.lt_of_succ_lt_succ h)]
    rfl

theorem length_le_length_flatMap {f : α → List β} (h : ∀ x, f x ≠ []) (l : List α) :
    l.length ≤ (l.flatMap f).length := by
  induction l with
  | nil => exact Nat.le_refl _
  | cons x l ih =>
    have hpos := List.length_pos_iff.mpr (h x)
    rw [List.flatMap_cons, List.length_append, List.length_cons]
    omega

theorem escaped_ne_nil (c : Char) : escaped c ≠ [] := by
  unfold escaped
  repeat' split
  all_goals exact List.cons_ne_nil _ _

theorem quoted_append (s : String) (r : List Char) :
    quoted s ++ r = '"' :: (s.toList.flatMap escaped ++ '"' :: r) := by
  rw [quoted, List.cons_append, List.cons_append, List.append_assoc, List.singleton_append]

theorem readString_quoted (s : String) {n : Nat} {r : List Char}
    (h : (quoted s ++ r).length ≤ n) :
    readString n (s.toList.flatMap escaped ++ '"' :: r) = .ok (s, r) := by
  have hlength := length_le_length_flatMap escaped_ne_nil s.toList
  rw [quoted_append, List.length_cons, List.length_append] at h
  rw [readString, readCharacters_flatMap_escaped (by omega)]
  exact congrArg (fun s => Except.ok (s, r)) String.ofList_toList

end BenchCharts.Json
