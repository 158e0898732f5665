import BenchCharts.Color
import BenchCharts.Proofs.Text.Blank

/-!
Which texts are read as colors. Six hexadecimal digits always are, behind a number sign or without
one, and the color is written with the same digits in lower case. Besides, a channel may have a plus
sign for its first digit, which counts as a zero; no other text is read.
-/

namespace BenchCharts.Color

open Json (hexDigit hexValue?)

def hexDigits : List Char :=
  "0123456789abcdefABCDEF".toList

theorem hexValue?_hexDigit : ∀ n < 16, hexValue? (hexDigit n) = some n ∧ hexDigit n ≠ '+' ∧
    Text.isBlank (hexDigit n) = false := by
  decide

theorem toNat_lt_of_hexValue? {d : Char} {n : Nat} (h : hexValue? d = some n) : d.toNat < 128 := by
  unfold hexValue? at h
  split at h
  · next hd =>
    exact Nat.lt_of_le_of_lt (Char.isDigit_iff_toNat.mp hd).2 (by decide)
  · split at h
    · next hd => exact Nat.lt_of_le_of_lt (n := d.toNat) hd.2 (by decide)
    · split at h
      · next hd => exact Nat.lt_of_le_of_lt (n := d.toNat) hd.2 (by decide)
      · cases h

theorem digit_of_hexValue? {d : Char} {n : Nat} (h : hexValue? d = some n) :
    d ∈ hexDigits ∧ n < 16 ∧ hexDigit n = d.toLower := by
  have hascii : ∀ k < 128, (hexValue? (Char.ofNat k)).all fun n =>
      decide (Char.ofNat k ∈ hexDigits ∧ n < 16 ∧ hexDigit n = (Char.ofNat k).toLower) := by
    decide
  have hd := hascii d.toNat (toNat_lt_of_hexValue? h)
  rw [Char.ofNat_toNat, h, Option.all_some, decide_eq_true_iff] at hd
  exact hd

theorem exists_hexValue? {d : Char} (h : d ∈ hexDigits) : (hexValue? d).isSome ∧ d ≠ '+' := by
  have hall : hexDigits.all fun d => decide ((hexValue? d).isSome ∧ d ≠ '+') := by decide
  exact of_decide_eq_true (List.all_eq_true.mp hall d h)

/-- A channel is written with two digits, or with a plus sign for the first one. -/
def IsChannel (a b : Char) : Prop :=
  (a ∈ hexDigits ∨ a = '+') ∧ b ∈ hexDigits

/-- What a character of a color is written as. -/
def shown (d : Char) : Char :=
  if d = '+' then '0' else d.toLower

theorem shown_of_mem {d : Char} (h : d ∈ hexDigits) : shown d = d.toLower :=
  if_neg (exists_hexValue? h).2

theorem channelText_ofNat {m n : Nat} (hm : m < 16) (hn : n < 16) :
    channelText (UInt8.ofNat (16 * m + n)) = [hexDigit m, hexDigit n] := by
  have hvalue : (UInt8.ofNat (16 * m + n)).toNat = 16 * m + n := by
    rw [UInt8.toNat_ofNat']
    omega
  rw [channelText, hvalue, Nat.mul_add_div (by decide), Nat.mul_add_mod, Nat.div_eq_of_lt hn,
    Nat.mod_eq_of_lt hn, Nat.add_zero]

theorem channelText_of_channel? {a b : Char} {c : UInt8} (h : channel? a b = some c) :
    IsChannel a b ∧ channelText c = [shown a, shown b] := by
  unfold channel? at h
  split at h
  · next ha =>
    obtain ⟨n, hb, rfl⟩ := Option.map_eq_some_iff.mp h
    obtain ⟨hmem, hn, hlower⟩ := digit_of_hexValue? hb
    have htext := channelText_ofNat (m := 0) (by decide) hn
    rw [Nat.mul_zero, Nat.zero_add] at htext
    rw [htext, shown_of_mem hmem, ← hlower, ha]
    exact ⟨⟨.inr rfl, hmem⟩, rfl⟩
  · next ha =>
    obtain ⟨m, hm, h⟩ := Option.bind_eq_some_iff.mp h
    obtain ⟨n, hn, h⟩ := Option.bind_eq_some_iff.mp h
    cases h
    obtain ⟨hma, hm, hlower⟩ := digit_of_hexValue? hm
    obtain ⟨hmb, hn, hlower'⟩ := digit_of_hexValue? hn
    rw [channelText_ofNat hm hn, shown_of_mem hma, shown_of_mem hmb, hlower, hlower']
    exact ⟨⟨.inl hma, hmb⟩, rfl⟩

theorem IsChannel.exists_channel? {a b : Char} (h : IsChannel a b) :
    ∃ c, channel? a b = some c := by
  obtain ⟨ha, hb⟩ := h
  obtain ⟨n, hn⟩ := Option.isSome_iff_exists.mp (exists_hexValue? hb).1
  unfold channel?
  split
  · exact ⟨_, Option.map_eq_some_iff.mpr ⟨n, hn, rfl⟩⟩
  · next hplus =>
    obtain ⟨m, hm⟩ := Option.isSome_iff_exists.mp (exists_hexValue? (ha.resolve_right hplus)).1
    rw [hm, hn]
    exact ⟨_, rfl⟩

theorem channel?_channelText (c : UInt8) :
    channel? (hexDigit (c.toNat / 16)) (hexDigit (c.toNat % 16)) = some c := by
  have hc := c.toNat_lt
  obtain ⟨hhigh, hplus, -⟩ := hexValue?_hexDigit (c.toNat / 16) (by omega)
  obtain ⟨hlow, -, -⟩ := hexValue?_hexDigit (c.toNat % 16) (by omega)
  rw [channel?, if_neg hplus, hhigh, hlow]
  change some (UInt8.ofNat (16 * (c.toNat / 16) + c.toNat % 16)) = some c
  rw [Nat.div_add_mod, UInt8.ofNat_toNat]

/-- Three channels one behind the other. -/
inductive Written : List Char → Prop where
  | channels {a b c d e f : Char} (red : IsChannel a b) (green : IsChannel c d)
    (blue : IsChannel e f) : Written [a, b, c, d, e, f]

def bare : List Char → List Char
  | '#' :: s => s
  | s => s

def channels? : List Char → Option Color
  | [a, b, c, d, e, f] => do return ⟨← channel? a b, ← channel? c d, ← channel? e f⟩
  | _ => none

theorem ofText?_eq (s : List Char) : ofText? s = channels? (bare (Text.trim s)) := rfl

theorem text_of_channels? {body : List Char} {c : Color} (h : channels? body = some c) :
    Written body ∧ c.text = '#' :: body.map shown := by
  unfold channels? at h
  split at h
  · obtain ⟨red, hred, h⟩ := Option.bind_eq_some_iff.mp h
    obtain ⟨green, hgreen, h⟩ := Option.bind_eq_some_iff.mp h
    obtain ⟨blue, hblue, h⟩ := Option.bind_eq_some_iff.mp h
    cases h
    obtain ⟨hr, htr⟩ := channelText_of_channel? hred
    obtain ⟨hg, htg⟩ := channelText_of_channel? hgreen
    obtain ⟨hb, htb⟩ := channelText_of_channel? hblue
    refine ⟨.channels hr hg hb, ?_⟩
    rw [text, htr, htg, htb]
    rfl
  · cases h

theorem Written.exists_channels? {body : List Char} (h : Written body) :
    ∃ c, channels? body = some c := by
  cases h with
  | channels red green blue =>
    obtain ⟨r, hr⟩ := red.exists_channel?
    obtain ⟨g, hg⟩ := green.exists_channel?
    obtain ⟨b, hb⟩ := blue.exists_channel?
    rw [channels?, hr, hg, hb]
    exact ⟨_, rfl⟩

/-- A text is a body, with or without a number sign in front and with blanks on either side. -/
def Frames (s : String) (body : List Char) : Prop :=
  Text.trim s.toList = body ∨ Text.trim s.toList = '#' :: body

structure IsHex (body : List Char) : Prop where
  length_eq : body.length = 6
  digits : ∀ d ∈ body, d ∈ hexDigits

theorem frames_bare (s : String) : Frames s (bare (Text.trim s.toList)) := by
  unfold bare Frames
  split
  · next h => exact .inr h
  · exact .inl rfl

theorem Written.bare_eq {s : String} {body : List Char} (h : Written body) (hs : Frames s body) :
    bare (Text.trim s.toList) = body := by
  rcases hs with hs | hs
  · rw [hs]
    cases h with
    | channels red green blue =>
      unfold bare
      split
      · next heq =>
        cases heq
        exact absurd red.1 (by decide)
      · rfl
  · rw [hs]
    rfl

theorem IsHex.written {body : List Char} (h : IsHex body) : Written body := by
  obtain ⟨hlength, hdigits⟩ := h
  match body, hlength with
  | [a, b, c, d, e, f], _ =>
    exact .channels ⟨.inl (hdigits a (by simp)), hdigits b (by simp)⟩
      ⟨.inl (hdigits c (by simp)), hdigits d (by simp)⟩
      ⟨.inl (hdigits e (by simp)), hdigits f (by simp)⟩

/-- The plus sign is all that sets the texts that are read apart from six digits. -/
theorem Written.isHex_iff {body : List Char} (h : Written body) : IsHex body ↔ '+' ∉ body := by
  constructor
  · exact fun hx hplus => (exists_hexValue? (hx.digits '+' hplus)).2 rfl
  · intro hplus
    cases h with
    | channels red green blue =>
      simp only [List.mem_cons, List.not_mem_nil, or_false, not_or] at hplus
      refine ⟨rfl, ?_⟩
      simp only [List.forall_mem_cons]
      exact ⟨red.1.resolve_right (Ne.symm hplus.1), red.2,
        green.1.resolve_right (Ne.symm hplus.2.2.1), green.2,
        blue.1.resolve_right (Ne.symm hplus.2.2.2.2.1), blue.2, List.forall_mem_nil _⟩

theorem IsHex.map_shown {body : List Char} (h : IsHex body) :
    body.map shown = body.map Char.toLower :=
  List.map_congr_left fun d hd => shown_of_mem (h.digits d hd)

theorem ofString_eq_ok_iff {s : String} {c : Color} :
    ofString s = .ok c ↔ channels? (bare (Text.trim s.toList)) = some c := by
  rw [ofString, ofText?_eq]
  cases channels? (bare (Text.trim s.toList)) <;> simp

theorem text_of_ofString {s : String} {c : Color} (h : ofString s = .ok c) :
    ∃ body, Frames s body ∧ Written body ∧ c.text = '#' :: body.map shown :=
  ⟨_, frames_bare s, text_of_channels? (ofString_eq_ok_iff.mp h)⟩

theorem IsHex.ofString_eq {s : String} {body : List Char} (h : IsHex body) (hs : Frames s body) :
    ∃ c, ofString s = .ok c ∧ c.text = '#' :: body.map Char.toLower := by
  obtain ⟨c, hc⟩ := h.written.exists_channels?
  refine ⟨c, ofString_eq_ok_iff.mpr ((h.written.bare_eq hs).symm ▸ hc), ?_⟩
  rw [(text_of_channels? hc).2, h.map_shown]

theorem trimmed_text (c : Color) : Text.Trimmed c.text where
  head := by
    rintro _ ⟨⟩
    rfl
  last := by
    have hblue := (hexValue?_hexDigit (c.blue.toNat % 16) (by omega)).2.2
    rintro _ ⟨⟩
    exact hblue

theorem ofString_text (c : Color) : ofString (String.ofList c.text) = .ok c := by
  rw [ofString_eq_ok_iff, String.toList_ofList, Text.trim_of_trimmed c.trimmed_text]
  change (do return ⟨← channel? _ _, ← channel? _ _, ← channel? _ _⟩ : Option Color) = some c
  rw [channel?_channelText, channel?_channelText, channel?_channelText]
  rfl

theorem Frames.mem {s : String} {body : List Char} (h : Frames s body) {d : Char}
    (hd : d ∈ body) : d ∈ s.toList := by
  have htrim : d ∈ Text.trim s.toList := by
    rcases h with h | h
    · exact h ▸ hd
    · exact h ▸ List.mem_cons_of_mem _ hd
  exact (List.dropWhile_suffix _).subset ((Text.trimEnd_prefix _).subset htrim)

/-- A text is read as a color if and only if it frames three channels, and the color is written as
they are, in lower case and with zeros for plus signs. Without a plus sign these are the texts that
frame six hexadecimal digits. A text that is refused is kept as it was, and every color reads back
from its own text. -/
theorem ofString_hexadecimal (s : String) :
    ((∃ c, ofString s = .ok c) ↔ ∃ body, Frames s body ∧ Written body) ∧
      (∀ c, ofString s = .ok c →
        ∃ body, Frames s body ∧ Written body ∧ c.text = '#' :: body.map shown) ∧
      ('+' ∉ s.toList → ((∃ c, ofString s = .ok c) ↔ ∃ body, Frames s body ∧ IsHex body)) ∧
      (∀ body, Frames s body → IsHex body →
        ∃ c, ofString s = .ok c ∧ c.text = '#' :: body.map Char.toLower) ∧
      (∀ invalid, ofString s = .error invalid → invalid.text = s) ∧
      ∀ c : Color, ofString (String.ofList c.text) = .ok c := by
  refine ⟨⟨?_, ?_⟩, fun c => text_of_ofString, fun hplus => ⟨?_, ?_⟩,
    fun body hs hx => hx.ofString_eq hs, fun invalid h => ?_, ofString_text⟩
  · rintro ⟨c, h⟩
    obtain ⟨body, hs, hw, -⟩ := text_of_ofString h
    exact ⟨body, hs, hw⟩
  · rintro ⟨body, hs, hw⟩
    obtain ⟨c, hc⟩ := hw.exists_channels?
    exact ⟨c, ofString_eq_ok_iff.mpr ((hw.bare_eq hs).symm ▸ hc)⟩
  · rintro ⟨c, h⟩
    obtain ⟨body, hs, hw, -⟩ := text_of_ofString h
    exact ⟨body, hs, hw.isHex_iff.mpr fun hm => hplus (hs.mem hm)⟩
  · rintro ⟨body, hs, hx⟩
    obtain ⟨c, h, -⟩ := hx.ofString_eq hs
    exact ⟨c, h⟩
  · unfold ofString at h
    split at h
    · cases h
    · cases h
      rfl

/-- Blanks, a number sign and letters of both cases. -/
theorem ofString_hexadecimal_mixed :
    let s := " #0fA0bC\n"
    let body := "0fA0bC".toList
    '+' ∉ s.toList ∧ Frames s body ∧ IsHex body ∧
      (∃ c, ofString s = .ok c ∧ c.text = "#0fa0bc".toList) ∧
      ofString (String.ofList (text ⟨15, 160, 188⟩)) = .ok ⟨15, 160, 188⟩ := by
  intro s body
  have hframes : Frames s body := .inr (by decide)
  have hsub : body ⊆ hexDigits := by decide
  have hhex : IsHex body := ⟨rfl, fun _ hd => hsub hd⟩
  obtain ⟨-, -, -, hshown, -, hback⟩ := ofString_hexadecimal s
  exact ⟨by decide, hframes, hhex, hshown body hframes hhex, hback _⟩

/-- Three digits are read as a color if there is a plus sign in front of each. -/
theorem ofString_signs :
    ofString "+1+2+3" = .ok ⟨1, 2, 3⟩ ∧ ∀ body, Frames "+1+2+3" body → ¬IsHex body := by
  refine ⟨by rfl, fun body hs hx => ?_⟩
  have hbare := hx.written.bare_eq hs
  rw [← hbare] at hx
  exact absurd (hx.digits '+' (by decide)) (by decide)

end BenchCharts.Color
