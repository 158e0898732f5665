import BenchCharts.Proofs.Decimal.Natural
import BenchCharts.Proofs.Label.Split

/-!
Labels that are written in one of the notations: reading gives back the category and the count,
whatever blanks stand between the parts and whatever arrows stand behind the category.
-/

namespace BenchCharts.Label

open Text Decimal

def Arrowless (s : List Char) : Prop :=
  ∀ a, IsArrow a → ¬ a <:+: s

theorem Arrowless.not_endsInArrow {s : List Char} (h : Arrowless s) : ¬ EndsInArrow s :=
  fun ⟨a, ha, hs⟩ => h a ha hs.isInfix

theorem IsArrow.head_mem {a : List Char} (h : IsArrow a) (s : List Char) :
    ∃ c t, a ++ s = c :: t ∧ (c = '-' ∨ c = '→') := by
  cases h with
  | long => exact ⟨_, _, rfl, .inl rfl⟩
  | short => exact ⟨_, _, rfl, .inr rfl⟩

theorem IsNumeral.notMem {ds : List Char} (h : IsNumeral ds) {c : Char} (hc : isDecimal c = false) :
    c ∉ ds := by
  intro hm
  rw [h.2 c hm] at hc
  cases hc

theorem isNumeral_digits (n : Nat) : IsNumeral (digits n) :=
  ⟨Nat.toDigits_ne_nil, fun _ hc => isDecimal_of_isDigit (isDigit_of_mem_digits hc)⟩

theorem IsArrow.append_ne_nil {a : List Char} (h : IsArrow a) (s : List Char) : a ++ s ≠ [] := by
  cases h <;> exact List.cons_ne_nil _ _

theorem IsArrow.eq_of_append_cons {a v t : List Char} {x : Char} (h : IsArrow a) (hne : v ≠ [])
    (ha : a = v ++ x :: t) : x = '>' := by
  cases v with
  | nil => exact (hne rfl).elim
  | cons c v =>
    cases h with
    | long =>
      cases v with
      | nil =>
        cases ha
        rfl
      | cons d v => simp at ha
    | short => simp at ha

/-- No arrow starts in a text without one, unless the rest completes it. -/
theorem Arrowless.skipArrow?_eq_none {s v rest : List Char} (h : Arrowless s) (hne : v ≠ [])
    (hv : v <:+ s) (hrest : rest.head? ≠ some '>') : skipArrow? (v ++ rest) = none := by
  apply skipArrow?_eq_none_iff.mpr
  intro a r ha he
  -- the arrow reaches into the rest, or it ends before
  obtain ⟨a', ha', hrest'⟩ | ⟨v', hv', _⟩ := List.append_eq_append_iff.mp he
  · cases a' with
    | nil =>
      rw [List.append_nil] at ha'
      exact h a ha (ha' ▸ hv.isInfix)
    | cons x a' =>
      have hx : x = '>' := ha.eq_of_append_cons hne ha'
      rw [hrest', hx] at hrest
      exact hrest rfl
  · exact h a ha ((List.prefix_append a v').isInfix.trans (hv' ▸ hv.isInfix))

def HeadsArrow (s : List Char) : Prop :=
  ∃ c t, trimStart s = c :: t ∧ (c = '-' ∨ c = '→')

theorem IsArrow.headsArrow {a : List Char} (h : IsArrow a) (s : List Char) :
    HeadsArrow (a ++ s) := by
  obtain ⟨c, t, ht, hc⟩ := h.head_mem s
  refine ⟨c, t, ?_, hc⟩
  rw [trimStart_of_head (h.isBlank_head s), ht]

theorem HeadsArrow.cons_blank {s : List Char} (h : HeadsArrow s) {c : Char}
    (hc : isBlank c = true) : HeadsArrow (c :: s) := by
  rwa [HeadsArrow, trimStart_cons, if_pos hc]

theorem HeadsArrow.head?_ne {s : List Char} (h : HeadsArrow s) : s.head? ≠ some '>' := by
  intro hs
  obtain ⟨c, t, ht, hc⟩ := h
  obtain ⟨r, rfl⟩ := List.head?_eq_some_iff.mp hs
  rw [trimStart_cons, if_neg (by decide)] at ht
  cases ht
  rcases hc with hc | hc <;> cases hc

theorem parenthesized?_of_headsArrow {s : List Char} (h : HeadsArrow s) :
    parenthesized? (skipBlanks s) = none := by
  obtain ⟨c, t, ht, hc⟩ := h
  rw [skipBlanks, ht]
  rcases hc with rfl | rfl <;> rfl

theorem takeDigits?_of_headsArrow {s : List Char} (h : HeadsArrow s) :
    takeDigits? (skipBlanks s) = none := by
  obtain ⟨c, t, ht, hc⟩ := h
  rw [skipBlanks, ht]
  rcases hc with rfl | rfl <;> rfl

/-- Behind the arrow at the head of a text, if there is one, there is another arrow. -/
def ArrowThenArrow (s : List Char) : Prop :=
  ∀ r, skipArrow? s = some r → HeadsArrow r

theorem ArrowThenArrow.form?_eq_none {s : List Char} (h : ArrowThenArrow s) {n : Notation}
    (hn : n ≠ .trailingParenthesis) : n.form? s = none := by
  cases hr : skipArrow? s with
  | none => cases n <;> simp_all [Notation.form?]
  | some r =>
    have hparen := parenthesized?_of_headsArrow (h r hr)
    have hdigits := takeDigits?_of_headsArrow (h r hr)
    cases n <;> simp_all [Notation.form?]

theorem Filler.headsArrow_append {s rest : List Char} (hs : Filler s) (hrest : HeadsArrow rest) :
    HeadsArrow (s ++ rest) := by
  induction hs generalizing rest with
  | nil => exact hrest
  | blank _ hc ih =>
    rw [List.append_assoc]
    exact ih (hrest.cons_blank hc)
  | arrow _ ha ih =>
    rw [List.append_assoc]
    exact ih (ha.headsArrow rest)

theorem arrowThenArrow_of_blank {c : Char} (hc : isBlank c = true) (s : List Char) :
    ArrowThenArrow (c :: s) := by
  have hnone : skipArrow? (c :: s) = none := by
    apply skipArrow?_eq_none_iff.mpr
    intro a r ha hs
    have hhead := ha.isBlank_head r c
    rw [← hs, hc] at hhead
    cases hhead rfl
  intro r hr
  rw [hnone] at hr
  cases hr

theorem IsArrow.arrowThenArrow {a v rest : List Char} (ha : IsArrow a) (hrest : HeadsArrow rest)
    (hne : v ≠ []) (hv : v <:+ a) : ArrowThenArrow (v ++ rest) := by
  intro r hr
  cases ha with
  | long =>
    have hva : v = ['-', '>'] ∨ v = ['>'] := by simpa [List.suffix_cons_iff, hne] using hv
    rcases hva with rfl | rfl
    · cases hr
      exact hrest
    · cases hr
  | short =>
    have hva : v = ['→'] := by simpa [List.suffix_cons_iff, hne] using hv
    rw [hva] at hr
    cases hr
    exact hrest

theorem Filler.arrowThenArrow {s v rest : List Char} (hs : Filler s) (hrest : HeadsArrow rest)
    (hne : v ≠ []) (hv : v <:+ s) : ArrowThenArrow (v ++ rest) := by
  induction hs generalizing v rest with
  | nil => exact (hne (List.suffix_nil.mp hv)).elim
  | @blank s c _ hc ih =>
    obtain ⟨v, hne', hv', rfl⟩ | hv' := suffix_append_cases hv
    · rw [List.append_assoc]
      exact ih (hrest.cons_blank hc) hne' hv'
    · have hvc : v = [c] := by simpa [List.suffix_cons_iff, hne] using hv'
      rw [hvc]
      exact arrowThenArrow_of_blank hc rest
  | @arrow s a _ ha ih =>
    obtain ⟨v, hne', hv', rfl⟩ | hv' := suffix_append_cases hv
    · rw [List.append_assoc]
      exact ih (ha.headsArrow rest) hne' hv'
    · exact ha.arrowThenArrow hrest hne hv'

theorem Arrowless.arrowThenArrow {c s v rest : List Char} (hc : Arrowless c) (hs : Filler s)
    (hrest : HeadsArrow rest) (hne : v ≠ []) (hv : v <:+ c ++ s) : ArrowThenArrow (v ++ rest) := by
  obtain ⟨v', hne', hv', rfl⟩ | hv' := suffix_append_cases hv
  · intro r hr
    rw [List.append_assoc,
      hc.skipArrow?_eq_none hne' hv' (hs.headsArrow_append hrest).head?_ne] at hr
    cases hr
  · exact hs.arrowThenArrow hrest hne hv'

theorem Filler.trimStart {s : List Char} (hs : Filler s) : Filler (trimStart s) := by
  induction hs with
  | nil => exact .nil
  | @blank s c _ hc ih =>
    rw [Text.trimStart, List.dropWhile_append]
    split
    · rw [List.dropWhile_cons_of_pos hc]
      exact .nil
    · exact ih.blank hc
  | @arrow s a _ ha ih =>
    cases ha with
    | long => rw [trimStart_append_of_head (by decide)]; exact ih.arrow .long
    | short => rw [trimStart_append_of_head (by decide)]; exact ih.arrow .short

theorem exists_trim_eq {w₀ c s text w₄ : List Char} (hw₀ : AllBlank w₀) (hc : Trimmed c)
    (hs : Filler s) (ht : Trimmed text) (hne : text ≠ []) (hw₄ : AllBlank w₄) :
    ∃ s', Filler s' ∧ s' <:+ s ∧ trim (w₀ ++ (c ++ s ++ text ++ w₄)) = c ++ s' ++ text := by
  have hend (u : List Char) : trimEnd (u ++ text ++ w₄) = u ++ text := by
    rw [trimEnd_append_of_allBlank _ hw₄]
    apply trimEnd_of_last
    rw [List.getLast?_append_of_ne_nil _ hne]
    exact ht.last
  rw [trim, trimStart_append_of_allBlank hw₀]
  cases c with
  | nil =>
    refine ⟨trimStart s, hs.trimStart, List.dropWhile_suffix _, ?_⟩
    cases text with
    | nil => exact (hne rfl).elim
    | cons d text =>
      rw [List.nil_append, List.append_assoc, List.cons_append,
        trimStart_append_of_head (ht.head d rfl), List.nil_append, ← List.cons_append,
        ← List.append_assoc]
      exact hend (trimStart s)
  | cons d c =>
    refine ⟨s, hs, List.suffix_refl s, ?_⟩
    have hhead : ∀ x ∈ (d :: c ++ s ++ text ++ w₄).head?, isBlank x = false :=
      fun x hx => hc.head x hx
    rw [trimStart_of_head hhead]
    exact hend (d :: c ++ s)

/-- A text of a notation that ends a label is the leftmost one when none starts in the category or
behind it. -/
theorem ofText_of_writes (earlier : List Notation) {n : Notation} {later : List Notation}
    {t c s text ds : List Char} {count : Nat} (hn : notations = earlier ++ n :: later)
    (ht : trim t = c ++ s ++ text)
    (hearlier : ∀ n' ∈ earlier, ∀ v, v <:+ c ++ s ++ text → n'.form? v = none)
    (hfront : ∀ v, v ≠ [] → v <:+ c ++ s → n.form? (v ++ text) = none)
    (hw : n.Writes text ds []) (hcount : count? ds = some count)
    (hc : Trimmed c) (harrow : Arrowless c) (hs : Filler s) :
    ofText t = ⟨String.ofList c, some count⟩ := by
  have hform : n.form? text = some (ds, []) :=
    Notation.form?_eq_some_iff.mpr ⟨text, (List.append_nil text).symm, hw⟩
  have hm : leftmost? n.form? (trim t) = some ⟨c ++ s, ds, []⟩ :=
    Text.leftmost?_eq_some_iff.mpr ⟨text, ht, hform, hfront⟩
  obtain ⟨text', hl⟩ := Notation.leftmost?_eq_some_iff.mp hm
  have hnone : ∀ n' ∈ earlier, ¬ n'.HasCount (trim t) := by
    intro n' hn' hcount'
    obtain ⟨m, _, hm', _⟩ := Notation.hasCount_iff.mp hcount'
    rw [ht, leftmost?_eq_none_iff.mpr (hearlier n' hn')] at hm'
    cases hm'
  rw [ofText_of_leftmost hn hnone hl hcount, categoryOf_append hc harrow.not_endsInArrow hs]

/-! ### The parts of a written count -/

theorem Parenthesized.exists_cons {p ds : List Char} (h : Parenthesized p ds) :
    ∃ t, p = '(' :: t ∧ '(' ∉ t := by
  obtain ⟨hw, hd, hw'⟩ := h
  refine ⟨_, rfl, ?_⟩
  simp [hw.notMem, hd.notMem, hw'.notMem, show isBlank '(' = false by decide,
    show isDecimal '(' = false by decide]

theorem Parenthesized.notMem {p ds : List Char} (h : Parenthesized p ds) {c : Char}
    (hb : isBlank c = false) (hd : isDecimal c = false) (hopen : c ≠ '(') (hclose : c ≠ ')') :
    c ∉ p := by
  obtain ⟨hw, hds, hw'⟩ := h
  simp [hw.notMem hb, hds.notMem hd, hw'.notMem hb, hopen, hclose]

theorem Parenthesized.getLast?_append {p ds : List Char} (h : Parenthesized p ds)
    (s : List Char) : (s ++ p).getLast? = some ')' := by
  obtain ⟨hw, hd, hw'⟩ := h
  rw [List.getLast?_append, ← List.cons_append, List.getLast?_concat]
  rfl

theorem Parenthesized.isBlank_last {p ds : List Char} (h : Parenthesized p ds) (s : List Char) :
    ∀ c ∈ (s ++ p).getLast?, isBlank c = false := by
  rw [h.getLast?_append]
  rintro _ ⟨rfl⟩
  rfl

theorem IsNumeral.exists_getLast? {ds : List Char} (h : IsNumeral ds) (s : List Char) :
    ∃ d, (s ++ ds).getLast? = some d ∧ isDecimal d = true := by
  refine ⟨_, ?_, h.2 _ (List.getLast_mem h.1)⟩
  rw [List.getLast?_append, List.getLast?_eq_some_getLast h.1]
  rfl

theorem IsNumeral.isBlank_last {ds : List Char} (h : IsNumeral ds) (s : List Char) :
    ∀ c ∈ (s ++ ds).getLast?, isBlank c = false := by
  obtain ⟨d, hlast, hdec⟩ := h.exists_getLast? s
  rw [hlast]
  rintro _ ⟨rfl⟩
  exact isBlank_of_isDecimal hdec

theorem IsNumeral.form?_trailingParenthesis {ds v s : List Char} (h : IsNumeral ds)
    (hv : v <:+ s ++ ds) : Notation.trailingParenthesis.form? v = none := by
  apply Notation.form?_eq_none_iff.mpr
  intro text ds' rest hwrites ht
  cases hwrites with
  | @trailingParenthesis p _ w hp hw =>
    obtain ⟨u, hu⟩ := hv
    obtain ⟨d, hd, hdec⟩ := h.exists_getLast? s
    rw [← hu, ht, List.append_nil, ← List.append_assoc, List.getLast?_append,
      hp.getLast?_append] at hd
    cases hlast : w.getLast? with
    | none =>
      rw [hlast] at hd
      cases hd
      cases hdec
    | some b =>
      rw [hlast] at hd
      cases hd
      exact hw.notMem (isBlank_of_isDecimal hdec) (List.mem_of_getLast? hlast)

theorem form?_arrowParenthesis_of_notMem {v : List Char} (h : '(' ∉ v) :
    Notation.arrowParenthesis.form? v = none := by
  apply Notation.form?_eq_none_iff.mpr
  intro text ds rest hwrites ht
  cases hwrites with
  | arrowParenthesis _ _ hp =>
    obtain ⟨t, rfl, -⟩ := hp.exists_cons
    simp [ht] at h

theorem skipArrow?_of_notMem {v : List Char} (hlong : '-' ∉ v) (hshort : '→' ∉ v) :
    skipArrow? v = none := by
  apply skipArrow?_eq_none_iff.mpr
  rintro a r ha rfl
  cases ha with
  | long => simp at hlong
  | short => simp at hshort

theorem Parenthesized.form?_trailingParenthesis {p ds v : List Char} (h : Parenthesized p ds)
    (hne : v ≠ []) : Notation.trailingParenthesis.form? (v ++ p) = none := by
  apply Notation.form?_eq_none_iff.mpr
  intro text ds' rest hwrites ht
  cases hwrites with
  | @trailingParenthesis q _ w hq hw =>
    obtain ⟨t, rfl, -⟩ := h.exists_cons
    obtain ⟨t', rfl, ht'⟩ := hq.exists_cons
    cases v with
    | nil => exact hne rfl
    | cons x v =>
      have hmem : '(' ∈ t' ++ w := by
        rw [List.append_nil, List.cons_append, List.cons_append] at ht
        rw [← (List.cons.inj ht).2]
        simp
      rcases List.mem_append.mp hmem with hmem | hmem
      · exact ht' hmem
      · exact hw.notMem (by decide) hmem

/-! ### The written labels -/

section

variable {c s a p ds w₀ w w₄ : List Char} {n : Nat}

theorem ofText_arrowParenthesis (hw₀ : AllBlank w₀) (hc : Trimmed c) (harrow : Arrowless c)
    (hs : Filler s) (ha : IsArrow a) (hw : AllBlank w) (hp : Parenthesized p ds)
    (hn : count? ds = some n) (hw₄ : AllBlank w₄) :
    ofText (w₀ ++ (c ++ s ++ (a ++ (w ++ p)) ++ w₄)) = ⟨String.ofList c, some n⟩ := by
  have htext : Trimmed (a ++ (w ++ p)) := by
    refine ⟨ha.isBlank_head (w ++ p), ?_⟩
    rw [← List.append_assoc]
    exact hp.isBlank_last (a ++ w)
  have hwrites : Notation.arrowParenthesis.Writes (a ++ (w ++ p)) ds [] := by
    rw [← List.append_assoc]
    exact .arrowParenthesis ha hw hp
  obtain ⟨s', hs', -, ht⟩ := exists_trim_eq hw₀ hc hs htext (ha.append_ne_nil _) hw₄
  refine ofText_of_writes [] rfl ht (by simp) ?_ hwrites hn hc harrow hs'
  intro v hne hv
  exact (harrow.arrowThenArrow hs' (ha.headsArrow _) hne hv).form?_eq_none (by simp)

theorem ofText_arrow (hw₀ : AllBlank w₀) (hc : Trimmed c) (harrow : Arrowless c)
    (hs : Filler s) (ha : IsArrow a) (hw : AllBlank w) (hd : IsNumeral ds)
    (hn : count? ds = some n) (hw₄ : AllBlank w₄) :
    ofText (w₀ ++ (c ++ s ++ (a ++ (w ++ ds)) ++ w₄)) = ⟨String.ofList c, some n⟩ := by
  have htext : Trimmed (a ++ (w ++ ds)) := by
    refine ⟨ha.isBlank_head (w ++ ds), ?_⟩
    rw [← List.append_assoc]
    exact hd.isBlank_last (a ++ w)
  have hwrites : Notation.arrow.Writes (a ++ (w ++ ds)) ds [] := by
    rw [← List.append_assoc]
    exact .arrow ha hw hd (hd.atBoundary_eq [])
  have hopen : '(' ∉ a ++ (w ++ ds) := by
    have hblank := hw.notMem (c := '(') (by decide)
    have hdec := hd.notMem (c := '(') (by decide)
    cases ha <;> simp [hblank, hdec]
  obtain ⟨s', hs', -, ht⟩ := exists_trim_eq hw₀ hc hs htext (ha.append_ne_nil _) hw₄
  refine ofText_of_writes [.arrowParenthesis, .trailingParenthesis] rfl ht ?_ ?_ hwrites hn hc
    harrow hs'
  · intro n' hn' v hv
    cases n' with
    | arrowParenthesis =>
      -- from the last arrow on no parenthesis opens
      obtain ⟨v, hne, hfront, rfl⟩ | hback := suffix_append_cases hv
      · exact (harrow.arrowThenArrow hs' (ha.headsArrow _) hne hfront).form?_eq_none (by simp)
      · exact form?_arrowParenthesis_of_notMem fun h => hopen (hback.subset h)
    | trailingParenthesis =>
      rw [← List.append_assoc, ← List.append_assoc] at hv
      exact hd.form?_trailingParenthesis hv
    | arrow => simp at hn'
  · intro v hne hv
    exact (harrow.arrowThenArrow hs' (ha.headsArrow _) hne hv).form?_eq_none (by simp)

theorem ofText_trailingParenthesis (hw₀ : AllBlank w₀) (hc : Trimmed c) (harrow : Arrowless c)
    (hw : AllBlank w) (hp : Parenthesized p ds) (hn : count? ds = some n) (hw₄ : AllBlank w₄) :
    ofText (w₀ ++ (c ++ w ++ p ++ w₄)) = ⟨String.ofList c, some n⟩ := by
  have htext : Trimmed p := by
    refine ⟨?_, hp.isBlank_last []⟩
    rw [← List.append_nil p]
    exact hp.isBlank_head []
  have hwrites : Notation.trailingParenthesis.Writes p ds [] := by
    have h := Notation.Writes.trailingParenthesis hp (w := []) (by simp [AllBlank])
    rwa [List.append_nil] at h
  have hne : p ≠ [] := by
    obtain ⟨t, hcons, -⟩ := hp.exists_cons
    rw [hcons]
    exact List.cons_ne_nil _ _
  have hfiller := Filler.nil.append_blanks hw
  obtain ⟨w', hw', hsuffix, ht⟩ := exists_trim_eq hw₀ hc hfiller htext hne hw₄
  have hblank : AllBlank w' := fun x hx => hw x (hsuffix.subset hx)
  have hplain (x : Char) (hx : x = '-' ∨ x = '>' ∨ x = '→') :
      isBlank x = false ∧ isDecimal x = false ∧ x ≠ '(' ∧ x ≠ ')' := by
    rcases hx with rfl | rfl | rfl <;> decide
  have hnot (x : Char) (hx : x = '-' ∨ x = '>' ∨ x = '→') : x ∉ w' ++ p := by
    obtain ⟨hb, hdec, hopen, hclose⟩ := hplain x hx
    simp [hblank.notMem hb, hp.notMem hb hdec hopen hclose]
  refine ofText_of_writes [.arrowParenthesis] rfl ht ?_ ?_ hwrites hn hc harrow hw'
  · intro n' hn' v hv
    have hskip : skipArrow? v = none := by
      -- nothing behind the category is a part of an arrow
      rw [List.append_assoc] at hv
      obtain ⟨v, hne, hfront, rfl⟩ | hback := suffix_append_cases hv
      · apply harrow.skipArrow?_eq_none hne hfront
        exact fun h => hnot '>' (by simp) (List.mem_of_mem_head? h)
      · apply skipArrow?_of_notMem
        · exact fun h => hnot '-' (by simp) (hback.subset h)
        · exact fun h => hnot '→' (by simp) (hback.subset h)
    rw [List.mem_singleton.mp hn', Notation.form?, hskip]
    rfl
  · intro v hne _
    exact hp.form?_trailingParenthesis hne

end

/-- A category without an arrow and a count are read back from every label that is written with
them, whatever blanks and arrows stand between them. -/
theorem ofText_written {c s a w₀ w₁ w₂ w₃ w₄ : List Char} {n : Nat} (hc : trim c = c)
    (harrow : Arrowless c) (hn : n ≤ maxCount) (hs : Filler s) (ha : IsArrow a)
    (hw₀ : AllBlank w₀) (hw₁ : AllBlank w₁) (hw₂ : AllBlank w₂) (hw₃ : AllBlank w₃)
    (hw₄ : AllBlank w₄) :
    ofText (w₀ ++ c ++ s ++ a ++ w₁ ++ ['('] ++ w₂ ++ digits n ++ w₃ ++ [')'] ++ w₄) =
        ⟨String.ofList c, some n⟩ ∧
      ofText (w₀ ++ c ++ s ++ a ++ w₁ ++ digits n ++ w₄) = ⟨String.ofList c, some n⟩ ∧
      ofText (w₀ ++ c ++ w₁ ++ ['('] ++ w₂ ++ digits n ++ w₃ ++ [')'] ++ w₄) =
        ⟨String.ofList c, some n⟩ := by
  have hct : Trimmed c := hc ▸ trimmed_trim c
  have hd := isNumeral_digits n
  have hcount := count?_digits hn
  have hp := Parenthesized.mk hw₂ hd hw₃
  refine ⟨?_, ?_, ?_⟩
  · have h := ofText_arrowParenthesis hw₀ hct harrow hs ha hw₁ hp hcount hw₄
    simpa using h
  · have h := ofText_arrow hw₀ hct harrow hs ha hw₁ hd hcount hw₄
    simpa using h
  · have h := ofText_trailingParenthesis hw₀ hct harrow hw₁ hp hcount hw₄
    simpa using h

/-- The category ends in the middle of what looks like an arrow, and another arrow follows. -/
theorem ofText_written_straddling :
    ofText "\tx -(5)>-->→ ->( 18446744073709551615 ) ".toList =
        ⟨"x -(5)>-", some 18446744073709551615⟩ ∧
      ofText "\tx -(5)>-->→ ->18446744073709551615 ".toList =
        ⟨"x -(5)>-", some 18446744073709551615⟩ ∧
      ofText "\tx -(5)>-( 18446744073709551615 ) ".toList =
        ⟨"x -(5)>-", some 18446744073709551615⟩ := by
  have hc : trim "x -(5)>-".toList = "x -(5)>-".toList := by decide
  have harrow : Arrowless "x -(5)>-".toList := by
    rintro _ (_ | _) <;> decide +kernel
  have hn : 18446744073709551615 ≤ maxCount := by decide
  have hs : Filler ['-', '>', '→', ' '] :=
    .blank (.arrow (.arrow .nil .long) .short) (by decide)
  have htab : AllBlank ['\t'] := List.forall_mem_singleton.mpr (by decide)
  have hnone : AllBlank [] := List.forall_mem_nil _
  have hspace : AllBlank [' '] := List.forall_mem_singleton.mpr (by decide)
  have hdigits : digits 18446744073709551615 = "18446744073709551615".toList := by decide +kernel
  have h := ofText_written hc harrow hn hs .long htab hnone hspace hspace hspace
  rw [hdigits] at h
  simpa using h

end BenchCharts.Label
