import BenchCharts.Decimal.Natural
import BenchCharts.Group

/-!
Which group a document key belongs to: of the groups that fit the key the first one that no other
goes before. Where no patterns compete, the order of declaration does not matter.
-/

namespace BenchCharts

theorem Strength.beats_irrefl (s : Strength) : s.beats s = false := by
  cases s <;> simp [beats]

theorem Strength.beats_trans {s t u : Strength} (h : s.beats t = true) (h' : t.beats u = true) :
    s.beats u = true := by
  cases s <;> cases t <;> cases u <;> simp_all [beats]
  omega

theorem Strength.beats_of_not_beats {s t u : Strength} (h : s.beats t = true)
    (hu : u.beats t = false) : s.beats u = true := by
  cases s <;> cases t <;> cases u <;> simp_all [beats]
  omega

theorem utf8ByteSize_lt_of_startsWith {s t : String} (h : s.toList <+: t.toList) (hne : s ≠ t) :
    s.utf8ByteSize < t.utf8ByteSize := by
  obtain ⟨rest, hrest⟩ := h
  have ht : t = s ++ String.ofList rest := by
    rw [← String.toList_inj, String.toList_append, String.toList_ofList, hrest]
  have hpos : (String.ofList rest).utf8ByteSize ≠ 0 := by
    intro hz
    rw [String.utf8ByteSize_eq_zero_iff] at hz
    rw [hz, String.append_empty] at ht
    exact hne ht.symm
  rw [ht, String.utf8ByteSize_append]
  omega

theorem eq_of_utf8ByteSize_eq {s t : String} {key : List Char} (hs : s.toList <+: key)
    (ht : t.toList <+: key) (h : s.utf8ByteSize = t.utf8ByteSize) : s = t := by
  apply Decidable.byContradiction
  intro hne
  rcases List.prefix_or_prefix_of_prefix hs ht with hp | hp
  · exact Nat.ne_of_lt (utf8ByteSize_lt_of_startsWith hp hne) h
  · exact Nat.ne_of_gt (utf8ByteSize_lt_of_startsWith hp (Ne.symm hne)) h

theorem utf8ByteSize_lt_iff_length_lt {s t : String} {key : List Char} (hs : s.toList <+: key)
    (ht : t.toList <+: key) : s.utf8ByteSize < t.utf8ByteSize ↔ s.length < t.length := by
  have hlt {s t : String} (h : s.toList <+: t.toList) (hne : s ≠ t) :
      s.utf8ByteSize < t.utf8ByteSize ∧ s.length < t.length := by
    refine ⟨utf8ByteSize_lt_of_startsWith h hne, ?_⟩
    rw [← String.length_toList, ← String.length_toList]
    apply Nat.lt_of_le_of_ne h.length_le
    intro he
    exact hne (String.toList_inj.mp (h.eq_of_length he))
  by_cases he : s = t
  · subst he
    exact iff_of_false (Nat.lt_irrefl _) (Nat.lt_irrefl _)
  · rcases List.prefix_or_prefix_of_prefix hs ht with h | h
    · obtain ⟨hb, hl⟩ := hlt h he
      exact iff_of_true hb hl
    · obtain ⟨hb, hl⟩ := hlt h (Ne.symm he)
      exact iff_of_false (Nat.lt_asymm hb) (Nat.lt_asymm hl)

def Matcher.isPattern : Matcher → Bool
  | pattern _ => true
  | _ => false

namespace Group

open Decimal

def Fits (g : Group) (key : String) : Prop :=
  match g.matcher with
  | .exact => key = g.name
  | .leading => g.name.toList <+: key.toList
  | .pattern p => p.occursIn key.toList = true

/-- A whole name goes before a pattern, a pattern before a leading name, and a leading name before
one of fewer bytes. -/
inductive Outranks : Group → Group → Prop
  | exact_pattern {n m p} : Outranks ⟨n, .exact⟩ ⟨m, .pattern p⟩
  | exact_leading {n m} : Outranks ⟨n, .exact⟩ ⟨m, .leading⟩
  | pattern_leading {n m p} : Outranks ⟨n, .pattern p⟩ ⟨m, .leading⟩
  | leading {n m : String} (h : m.utf8ByteSize < n.utf8ByteSize) :
      Outranks ⟨n, .leading⟩ ⟨m, .leading⟩

/-- The match of a group as a number of 64 bits, of which the two greatest stand for a whole name
and for a pattern. -/
def score (g : Group) : Nat :=
  match g.matcher with
  | .exact => maxCount
  | .pattern _ => maxCount - 1
  | .leading => g.name.utf8ByteSize

/-- Names of texts that fit into memory are short enough. -/
theorem score_lt_iff {g g' : Group} (h : g.name.utf8ByteSize < maxCount - 1)
    (h' : g'.name.utf8ByteSize < maxCount - 1) : g'.score < g.score ↔ g.Outranks g' := by
  have hmax : maxCount - 1 < maxCount := by decide
  obtain ⟨name, matcher⟩ := g
  obtain ⟨name', matcher'⟩ := g'
  constructor
  · intro hlt
    cases matcher with
    | exact =>
      cases matcher' with
      | exact => exact (Nat.lt_irrefl _ hlt).elim
      | leading => exact .exact_leading
      | pattern => exact .exact_pattern
    | leading =>
      cases matcher' with
      | exact => exact (Nat.lt_asymm hlt (Nat.lt_trans h hmax)).elim
      | leading => exact .leading hlt
      | pattern => exact (Nat.lt_asymm hlt h).elim
    | pattern =>
      cases matcher' with
      | exact => exact (Nat.lt_asymm hlt hmax).elim
      | leading => exact .pattern_leading
      | pattern => exact (Nat.lt_irrefl _ hlt).elim
  · intro ho
    cases ho with
    | exact_pattern => exact hmax
    | exact_leading => exact Nat.lt_trans h' hmax
    | pattern_leading => exact h'
    | leading hlt => exact hlt

/-- Whether `g` fits a key and none of some groups that fit it goes before. -/
structure IsStrongest (groups : List Group) (key : String) (g : Group) : Prop where
  fits : g.Fits key
  not_outranks : ∀ g' ∈ groups, g'.Fits key → ¬ g'.Outranks g

def strength (g : Group) : Strength :=
  match g.matcher with
  | .exact => .exact
  | .pattern _ => .pattern
  | .leading => .leading g.name.length

theorem strength?_eq_some_iff {g : Group} {key : String} {s : Strength} :
    g.strength? key = some s ↔ g.Fits key ∧ g.strength = s := by
  obtain ⟨name, matcher⟩ := g
  cases matcher <;> simp [strength?, Fits, strength]

theorem outranks_iff_beats {g g' : Group} {key : String} (h : g.Fits key) (h' : g'.Fits key) :
    g.Outranks g' ↔ g.strength.beats g'.strength = true := by
  obtain ⟨name, matcher⟩ := g
  obtain ⟨name', matcher'⟩ := g'
  constructor
  · intro ho
    cases ho with
    | leading hlt => exact decide_eq_true ((utf8ByteSize_lt_iff_length_lt h' h).mp hlt)
    | _ => rfl
  · intro hb
    cases matcher with
    | exact =>
      cases matcher' with
      | exact => cases hb
      | leading => exact .exact_leading
      | pattern => exact .exact_pattern
    | leading =>
      cases matcher' with
      | leading => exact .leading ((utf8ByteSize_lt_iff_length_lt h' h).mpr (of_decide_eq_true hb))
      | _ => cases hb
    | pattern =>
      cases matcher' with
      | leading => exact .pattern_leading
      | _ => cases hb

def strengthAt? (groups : List Group) (key : String) (i : Nat) : Option Strength :=
  groups[i]?.bind (·.strength? key)

theorem strengthAt?_concat {groups : List Group} {g : Group} {key : String} {i : Nat}
    {s : Strength} :
    strengthAt? (groups ++ [g]) key i = some s ↔
      (i < groups.length ∧ strengthAt? groups key i = some s) ∨
        (i = groups.length ∧ g.strength? key = some s) := by
  unfold strengthAt?
  rcases Nat.lt_trichotomy i groups.length with hi | rfl | hi
  · simp [List.getElem?_append_left hi, hi, Nat.ne_of_lt hi]
  · simp
  · have hlen : (groups ++ [g]).length ≤ i := by
      rw [List.length_append]
      exact hi
    simp [List.getElem?_eq_none hlen, Nat.lt_asymm hi, Nat.ne_of_gt hi]

theorem strengthAt?_eq_some_iff {groups : List Group} {key : String} {i : Nat} {s : Strength} :
    strengthAt? groups key i = some s ↔ ∃ g, groups[i]? = some g ∧ g.Fits key ∧ g.strength = s := by
  simp only [strengthAt?, Option.bind_eq_some_iff, strength?_eq_some_iff]

theorem lt_of_strengthAt? {groups : List Group} {key : String} {i : Nat} {s : Strength}
    (h : strengthAt? groups key i = some s) : i < groups.length := by
  obtain ⟨g, hg, _⟩ := Option.bind_eq_some_iff.mp h
  exact (List.getElem?_eq_some_iff.mp hg).1

/-- What a search through some groups has come to: nothing if none fits, and otherwise the first of
those that none beats. -/
def IsBest (groups : List Group) (key : String) : Option (Nat × Strength) → Prop
  | none => ∀ j t, strengthAt? groups key j ≠ some t
  | some (i, s) => strengthAt? groups key i = some s ∧
      ∀ j t, strengthAt? groups key j = some t → t.beats s = false ∧ (j < i → s.beats t = true)

section

variable {groups : List Group} {key : String} {g : Group} {i : Nat} {s t : Strength}

theorem IsBest.skip {best : Option (Nat × Strength)} (h : IsBest groups key best)
    (hg : g.strength? key = none) : IsBest (groups ++ [g]) key best := by
  have hat {j : Nat} {t : Strength} :
      strengthAt? (groups ++ [g]) key j = some t ↔ strengthAt? groups key j = some t := by
    rw [strengthAt?_concat, hg]
    constructor
    · rintro (⟨_, h⟩ | ⟨_, h⟩)
      · exact h
      · cases h
    · exact fun h => .inl ⟨lt_of_strengthAt? h, h⟩
  cases best with
  | none => exact fun j t ht => h j t (hat.mp ht)
  | some best => exact ⟨hat.mpr h.1, fun j t ht => h.2 j t (hat.mp ht)⟩

theorem IsBest.first (h : IsBest groups key none) (hg : g.strength? key = some s) :
    IsBest (groups ++ [g]) key (some (groups.length, s)) := by
  refine ⟨strengthAt?_concat.mpr (.inr ⟨rfl, hg⟩), fun j t ht => ?_⟩
  rcases strengthAt?_concat.mp ht with ⟨_, hold⟩ | ⟨rfl, hnew⟩
  · exact absurd hold (h j t)
  · rw [hg] at hnew
    cases hnew
    exact ⟨s.beats_irrefl, fun hj => absurd hj (Nat.lt_irrefl _)⟩

theorem IsBest.replace (h : IsBest groups key (some (i, t))) (hg : g.strength? key = some s)
    (hb : s.beats t = true) : IsBest (groups ++ [g]) key (some (groups.length, s)) := by
  refine ⟨strengthAt?_concat.mpr (.inr ⟨rfl, hg⟩), fun j u hu => ?_⟩
  rcases strengthAt?_concat.mp hu with ⟨_, hold⟩ | ⟨rfl, hnew⟩
  · have hlost := (h.2 j u hold).1
    refine ⟨?_, fun _ => Strength.beats_of_not_beats hb hlost⟩
    apply Bool.eq_false_iff.mpr
    intro hus
    exact Bool.eq_false_iff.mp hlost (Strength.beats_trans hus hb)
  · rw [hg] at hnew
    cases hnew
    exact ⟨s.beats_irrefl, fun hj => absurd hj (Nat.lt_irrefl _)⟩

theorem IsBest.keep (h : IsBest groups key (some (i, t))) (hg : g.strength? key = some s)
    (hb : s.beats t = false) : IsBest (groups ++ [g]) key (some (i, t)) := by
  have hi := lt_of_strengthAt? h.1
  refine ⟨strengthAt?_concat.mpr (.inl ⟨hi, h.1⟩), fun j u hu => ?_⟩
  rcases strengthAt?_concat.mp hu with ⟨_, hold⟩ | ⟨rfl, hnew⟩
  · exact h.2 j u hold
  · rw [hg] at hnew
    cases hnew
    exact ⟨hb, fun hj => absurd hi (Nat.lt_asymm hj)⟩

theorem IsBest.isStrongest (h : IsBest groups key (some (i, s))) :
    ∃ g, groups[i]? = some g ∧ g.IsStrongest groups key := by
  obtain ⟨g, hi, hg, rfl⟩ := strengthAt?_eq_some_iff.mp h.1
  refine ⟨g, hi, hg, fun g' hm hg' ho => ?_⟩
  obtain ⟨j, hj⟩ := List.mem_iff_getElem?.mp hm
  have hlost := (h.2 j g'.strength (strengthAt?_eq_some_iff.mpr ⟨g', hj, hg', rfl⟩)).1
  exact Bool.eq_false_iff.mp hlost ((outranks_iff_beats hg' hg).mp ho)

theorem IsBest.not_isStrongest (h : IsBest groups key (some (i, s))) {j : Nat} (hj : j < i)
    (hg : groups[j]? = some g) : ¬ g.IsStrongest groups key := by
  intro hs
  obtain ⟨g', hi, hg', rfl⟩ := strengthAt?_eq_some_iff.mp h.1
  have hbeats := (h.2 j g.strength (strengthAt?_eq_some_iff.mpr ⟨g, hg, hs.fits, rfl⟩)).2 hj
  have ho := (outranks_iff_beats hg' hs.fits).mpr hbeats
  exact hs.not_outranks g' (List.mem_of_getElem? hi) hg' ho

theorem IsStrongest.eq {g' : Group} (h : g.IsStrongest groups key) (h' : g'.IsStrongest groups key)
    (hm : g ∈ groups) (hm' : g' ∈ groups) (hg : g.matcher.isPattern = false)
    (hg' : g'.matcher.isPattern = false) : g = g' := by
  have hno := h.not_outranks g' hm' h'.fits
  have hno' := h'.not_outranks g hm h.fits
  have hfits := h.fits
  have hfits' := h'.fits
  obtain ⟨name, matcher⟩ := g
  obtain ⟨name', matcher'⟩ := g'
  cases matcher with
  | pattern => cases hg
  | exact =>
    cases matcher' with
    | pattern => cases hg'
    | leading => exact (hno' .exact_leading).elim
    | exact =>
      have hname : name = name' := hfits.symm.trans hfits'
      rw [hname]
  | leading =>
    cases matcher' with
    | pattern => cases hg'
    | exact => exact (hno .exact_leading).elim
    | leading =>
      have hle : name.utf8ByteSize ≤ name'.utf8ByteSize :=
        Nat.le_of_not_lt fun h => hno' (.leading h)
      have hle' : name'.utf8ByteSize ≤ name.utf8ByteSize :=
        Nat.le_of_not_lt fun h => hno (.leading h)
      have hname : name = name' :=
        eq_of_utf8ByteSize_eq hfits hfits' (Nat.le_antisymm hle hle')
      rw [hname]

end

end Group

namespace GroupSet

open BenchCharts.Group

theorem isBest_strongest {key : String} {seen groups : List Group} {i : Nat}
    {best : Option (Nat × Strength)} (h : IsBest seen key best) (hi : i = seen.length) :
    IsBest (seen ++ groups) key (strongest key best i groups) := by
  induction groups generalizing seen best i with
  | nil => rwa [List.append_nil]
  | cons g gs ih =>
    rw [← List.singleton_append, ← List.append_assoc]
    apply ih _ (by rw [List.length_append, hi, List.length_singleton])
    subst hi
    split
    · next hg => exact h.skip hg
    · next hg => exact h.first hg
    · next hg =>
      split
      · next hb => exact h.replace hg hb
      · next hb => exact h.keep hg (Bool.eq_false_iff.mpr hb)

theorem resolve_cases (set : GroupSet) (key : String) :
    (set.resolve key = none ∧ IsBest set.groups (normalKey key) none) ∨
      ∃ i s, set.resolve key = some i ∧ IsBest set.groups (normalKey key) (some (i, s)) := by
  have hnil : IsBest [] (normalKey key) none := by
    intro j t h
    cases h
  have hbest : IsBest set.groups (normalKey key) (strongest (normalKey key) none 0 set.groups) :=
    isBest_strongest hnil rfl
  unfold resolve
  cases hs : strongest (normalKey key) none 0 set.groups with
  | none => exact .inl ⟨rfl, hs ▸ hbest⟩
  | some best => exact .inr ⟨best.1, best.2, rfl, hs ▸ hbest⟩

theorem resolve_eq_none_iff {set : GroupSet} {key : String} :
    set.resolve key = none ↔ ∀ g ∈ set.groups, ¬ g.Fits (normalKey key) := by
  constructor
  · intro hnone g hm hg
    obtain ⟨j, hj⟩ := List.mem_iff_getElem?.mp hm
    obtain ⟨_, h⟩ | ⟨i, s, hsome, _⟩ := set.resolve_cases key
    · exact h j g.strength (strengthAt?_eq_some_iff.mpr ⟨g, hj, hg, rfl⟩)
    · rw [hnone] at hsome
      cases hsome
  · intro hall
    obtain ⟨hnone, _⟩ | ⟨i, s, _, h⟩ := set.resolve_cases key
    · exact hnone
    · obtain ⟨g, hi, hs⟩ := h.isStrongest
      exact (hall g (List.mem_of_getElem? hi) hs.fits).elim

theorem resolve_eq_some_iff {set : GroupSet} {key : String} {i : Nat} :
    set.resolve key = some i ↔
      (∃ g, set.groups[i]? = some g ∧ g.IsStrongest set.groups (normalKey key)) ∧
        ∀ j < i, ∀ g, set.groups[j]? = some g → ¬ g.IsStrongest set.groups (normalKey key) := by
  obtain ⟨hnone, _⟩ | ⟨i', s, hsome, h⟩ := set.resolve_cases key
  · rw [hnone]
    refine iff_of_false nofun ?_
    rintro ⟨⟨g, hi, hs⟩, _⟩
    exact resolve_eq_none_iff.mp hnone g (List.mem_of_getElem? hi) hs.fits
  · rw [hsome, Option.some.injEq]
    obtain ⟨g', hi', hs'⟩ := h.isStrongest
    constructor
    · rintro rfl
      exact ⟨⟨g', hi', hs'⟩, fun j hj g hg => h.not_isStrongest hj hg⟩
    · rintro ⟨⟨g, hi, hs⟩, hfirst⟩
      rcases Nat.lt_trichotomy i i' with hlt | he | hlt
      · exact (h.not_isStrongest hlt hi hs).elim
      · exact he.symm
      · exact (hfirst i' hlt g' hi' hs').elim

def groupFor? (set : GroupSet) (key : String) : Option Group :=
  (set.resolve key).bind (set.groups[·]?)

theorem groupFor?_eq_some_iff {set : GroupSet} {key : String} {g : Group}
    (h : ∀ g ∈ set.groups, g.matcher.isPattern = false) :
    set.groupFor? key = some g ↔ g ∈ set.groups ∧ g.IsStrongest set.groups (normalKey key) := by
  rw [groupFor?, Option.bind_eq_some_iff]
  constructor
  · rintro ⟨i, hr, hg⟩
    obtain ⟨⟨g', hi, hs⟩, _⟩ := resolve_eq_some_iff.mp hr
    rw [hg] at hi
    cases hi
    exact ⟨List.mem_of_getElem? hg, hs⟩
  · rintro ⟨hm, hs⟩
    cases hr : set.resolve key with
    | none => exact (resolve_eq_none_iff.mp hr g hm hs.fits).elim
    | some i =>
      obtain ⟨⟨g', hi, hs'⟩, _⟩ := resolve_eq_some_iff.mp hr
      have hm' := List.mem_of_getElem? hi
      rw [hs.eq hs' hm hm' (h g hm) (h g' hm')]
      exact ⟨i, rfl, hi⟩

/-- A key belongs to the first of the strongest groups that fit it, if there is one; scores of 64
bits tell the groups apart in the same way. Without patterns the group stays the same in whichever
order the groups are declared. -/
theorem resolve_first_strongest (set : GroupSet) (key : String) :
    (set.resolve key = none ↔ ∀ g ∈ set.groups, ¬ g.Fits (normalKey key)) ∧
      (∀ i, set.resolve key = some i ↔
        (∃ g, set.groups[i]? = some g ∧ g.IsStrongest set.groups (normalKey key)) ∧
          ∀ j < i, ∀ g, set.groups[j]? = some g → ¬ g.IsStrongest set.groups (normalKey key)) ∧
      (∀ g ∈ set.groups, ∀ g' ∈ set.groups, g.name.utf8ByteSize < Decimal.maxCount - 1 →
        g'.name.utf8ByteSize < Decimal.maxCount - 1 → (g.Outranks g' ↔ g'.score < g.score)) ∧
      ∀ set' : GroupSet, set'.groups.Perm set.groups →
        (∀ g ∈ set.groups, g.matcher.isPattern = false) →
          set'.groupFor? key = set.groupFor? key := by
  refine ⟨resolve_eq_none_iff, fun i => resolve_eq_some_iff,
    fun g _ g' _ h h' => (score_lt_iff h h').symm, fun set' hp h => ?_⟩
  have h' : ∀ g ∈ set'.groups, g.matcher.isPattern = false :=
    fun g hm => h g (hp.mem_iff.mp hm)
  apply Option.ext
  intro g
  rw [groupFor?_eq_some_iff h, groupFor?_eq_some_iff h', hp.mem_iff]
  have hiff : g.IsStrongest set'.groups (normalKey key) ↔
      g.IsStrongest set.groups (normalKey key) := by
    constructor
    · exact fun hs => ⟨hs.fits, fun g' hm => hs.not_outranks g' (hp.mem_iff.mpr hm)⟩
    · exact fun hs => ⟨hs.fits, fun g' hm => hs.not_outranks g' (hp.mem_iff.mp hm)⟩
  rw [hiff]

/-- The longer of two leading names, whichever is declared first. -/
theorem resolve_first_strongest_leading :
    let groups : List Group :=
      [⟨"worker", .exact⟩, ⟨"knitting", .leading⟩, ⟨"knitting fast", .leading⟩]
    let set : GroupSet := ⟨.count, groups, []⟩
    let set' : GroupSet := ⟨.count, groups.reverse, []⟩
    let key := " Knitting FAST path"
    set'.groups.Perm set.groups ∧ (∀ g ∈ set.groups, g.matcher.isPattern = false) ∧
      set.resolve key = some 2 ∧ set'.resolve key = some 0 ∧
      (set'.groupFor? key).map (·.name) = some "knitting fast" := by
  intro groups set set' key
  have hperm : set'.groups.Perm set.groups := List.reverse_perm groups
  have hplain : ∀ g ∈ set.groups, g.matcher.isPattern = false := by decide
  obtain ⟨-, -, -, horder⟩ := resolve_first_strongest set key
  refine ⟨hperm, hplain, by decide +kernel, by decide +kernel, ?_⟩
  rw [horder set' hperm hplain]
  decide +kernel

end GroupSet

end BenchCharts
