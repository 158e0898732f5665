import BenchCharts.Text.Case

/-!
Comparison regardless of case: the forms of a letter that count as one.
-/

namespace BenchCharts.Text

/-- Code points that have a case mapping and still count as themselves alone: the dotless i, which
is no form of the other i, and letters younger than the table of equal forms. -/
def caselessRanges : List (Nat × Nat) := [
  (0x131, 0x131), (0xA7CE, 0xA7CF), (0xA7D2, 0xA7D5), (0x16EA0, 0x16EB8), (0x16EBB, 0x16ED3)]

/-- Pairs of characters that are one letter, though no case mapping joins them. -/
def twinChars : List (Nat × Nat) := [(0x1FD3, 0x390), (0x1FE3, 0x3B0), (0xFB05, 0xFB06)]

/-- Further forms of letters: neither the folded form of a letter nor the upper-case form of
that. -/
def variantRanges : List (Nat × Nat) := [
  (0xB5, 0xB5), (0x17F, 0x17F), (0x1C5, 0x1C5), (0x1C8, 0x1C8), (0x1CB, 0x1CB), (0x1F2, 0x1F2),
  (0x345, 0x345), (0x3C2, 0x3C2), (0x3D0, 0x3D1), (0x3D5, 0x3D6), (0x3F0, 0x3F1), (0x3F4, 0x3F5),
  (0x1C80, 0x1C88), (0x1E9B, 0x1E9B), (0x1E9E, 0x1E9E), (0x1F88, 0x1F8F), (0x1F98, 0x1F9F),
  (0x1FA8, 0x1FAF), (0x1FBC, 0x1FBC), (0x1FBE, 0x1FBE), (0x1FCC, 0x1FCC), (0x1FD3, 0x1FD3),
  (0x1FE3, 0x1FE3), (0x1FFC, 0x1FFC), (0x2126, 0x2126), (0x212A, 0x212B), (0xFB05, 0xFB05)]

/-- Case-insensitive form of a character: what its upper-case form is in lower case, where both are
one character. -/
def foldChar (c : Char) : Char :=
  if inRanges caselessRanges c.toNat then c
  else match twinChars.lookup c.toNat with
    | some n => Char.ofNat n
    | none =>
      let up := match upperChar c with
        | [u] => u
        | _ => c
      match lowerChar up with
      | [l] => l
      | _ => up

/-- The further forms that fold to `low`. -/
def variants (low : Char) : List Char :=
  (variantRanges.flatMap fun (first, last) => (List.range' first (last + 1 - first)).map Char.ofNat)
    |>.filter (foldChar · == low)

/-- The forms of a character that count as one letter. -/
def caseForms (c : Char) : List Char :=
  let low := foldChar c
  let up := match upperChar low with
    | [u] => [u]
    | _ => []
  c :: low :: up.filter (foldChar · == low) ++ variants low

end BenchCharts.Text
