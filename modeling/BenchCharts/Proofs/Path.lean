import BenchCharts.FileTree
import Mathlib.Data.List.Basic

/-!
The name at the end of a path. It is what stands behind the last slash, so it does not depend on the
folder that the path is joined to, and it decides where the path leads to in that folder.
-/

namespace BenchCharts

namespace Path

def lastPiece : List Char → List Char
  | [] => []
  | c :: r => if '/' ∈ c :: r then lastPiece r else c :: r

theorem lastPiece_of_notMem {s : List Char} (h : '/' ∉ s) : lastPiece s = s := by
  cases s with
  | nil => rfl
  | cons c r => exact if_neg h

theorem lastPiece_append_slash (s t : List Char) : lastPiece (s ++ '/' :: t) = lastPiece t := by
  induction s with
  | nil => exact if_pos List.mem_cons_self
  | cons c s ih => exact (if_pos (by simp)).trans ih

theorem lastPiece_append (s : List Char) {t : List Char} (h : '/' ∉ t) :
    lastPiece (s ++ t) = lastPiece s ++ t := by
  induction s with
  | nil => exact lastPiece_of_notMem h
  | cons c s ih =>
    by_cases hs : '/' ∈ c :: s
    · rw [List.cons_append, lastPiece, lastPiece, if_pos hs, ← ih]
      exact if_pos (List.mem_append_left t hs)
    · rw [lastPiece_of_notMem hs, lastPiece_of_notMem]
      exact fun hm => (List.mem_append.mp hm).elim hs h

theorem slash_notMem_lastPiece (s : List Char) : '/' ∉ lastPiece s := by
  induction s with
  | nil => exact List.not_mem_nil
  | cons c s ih =>
    unfold lastPiece
    split
    · exact ih
    · next h => exact h

theorem splitSlashes_ne_nil (s : List Char) : splitSlashes s ≠ [] := by
  cases s with
  | nil => nofun
  | cons c s =>
    unfold splitSlashes
    split
    · nofun
    · split <;> nofun

theorem splitSlashes_of_notMem {s : List Char} (h : '/' ∉ s) : splitSlashes s = [s] := by
  induction s with
  | nil => rfl
  | cons c s ih =>
    obtain ⟨hc, hs⟩ := List.ne_and_not_mem_of_not_mem_cons h
    rw [splitSlashes, if_neg hc.symm, ih hs]

theorem splitSlashes_append_slash (s t : List Char) :
    splitSlashes (s ++ '/' :: t) = splitSlashes s ++ splitSlashes t := by
  induction s with
  | nil => exact if_pos rfl
  | cons c s ih =>
    rw [List.cons_append, splitSlashes, splitSlashes, ih]
    split
    · rfl
    · cases hs : splitSlashes s with
      | nil => exact absurd hs (splitSlashes_ne_nil s)
      | cons piece pieces => rfl

theorem slash_notMem_of_mem_splitSlashes {s piece : List Char} (h : piece ∈ splitSlashes s) :
    '/' ∉ piece := by
  induction s generalizing piece with
  | nil =>
    rw [List.mem_singleton.mp h]
    exact List.not_mem_nil
  | cons c s ih =>
    unfold splitSlashes at h
    split at h
    · rcases List.mem_cons.mp h with rfl | h
      · exact List.not_mem_nil
      · exact ih h
    · next hc =>
      cases hs : splitSlashes s with
      | nil => exact absurd hs (splitSlashes_ne_nil s)
      | cons first pieces =>
        rw [hs] at h ih
        rcases List.mem_cons.mp h with rfl | h
        · exact List.not_mem_cons_of_ne_of_not_mem (Ne.symm hc) (ih List.mem_cons_self)
        · exact ih (List.mem_cons_of_mem _ h)

theorem eq_lastPiece_or_append (s : List Char) :
    s = lastPiece s ∨ ∃ front, s = front ++ '/' :: lastPiece s := by
  induction s with
  | nil => exact .inl rfl
  | cons c s ih =>
    by_cases h : '/' ∈ c :: s
    · have hrest : lastPiece (c :: s) = lastPiece s := if_pos h
      rw [hrest]
      rcases ih with hs | ⟨front, hs⟩
      · have hc : '/' = c := (List.mem_cons.mp h).resolve_right (hs ▸ slash_notMem_lastPiece s)
        exact .inr ⟨[], by rw [List.nil_append, ← hs, hc]⟩
      · exact .inr ⟨c :: front, congrArg (c :: ·) hs⟩
    · exact .inl (lastPiece_of_notMem h).symm

theorem getLast?_splitSlashes (s : List Char) :
    (splitSlashes s).getLast? = some (lastPiece s) := by
  have hlast := splitSlashes_of_notMem (slash_notMem_lastPiece s)
  rcases eq_lastPiece_or_append s with hs | ⟨front, hs⟩
  · conv_lhs => rw [hs, hlast]
    rfl
  · conv_lhs => rw [hs, splitSlashes_append_slash, hlast]
    exact List.getLast?_concat

theorem slash_notMem_of_mem_parts {p : Path} {name : List Char} (h : .name name ∈ p.parts) :
    '/' ∉ name := by
  rcases List.mem_append.mp h with h | h
  · unfold leadPart? at h
    split at h
    · simp at h
    · split at h <;> simp at h
  · obtain ⟨piece, hm, hp⟩ := List.mem_filterMap.mp h
    unfold partOf? at hp
    split at hp
    · cases hp
    · split at hp
      · cases hp
      · cases hp
        exact slash_notMem_of_mem_splitSlashes hm

theorem partOf?_of_lt {piece : List Char} (h : 2 < piece.length) :
    partOf? piece = some (.name piece) := by
  match piece with
  | _ :: _ :: _ :: _ => simp [partOf?, isSilent]

theorem lastPiece_drop_lead {p : Path} (h : 2 < (lastPiece p.chars).length) :
    lastPiece (p.chars.drop p.lead.length) = lastPiece p.chars := by
  unfold lead
  split
  · next hlead =>
    rcases hlead with hroot | hhere
    · obtain ⟨r, hr⟩ := List.head?_eq_some_iff.mp (beq_iff_eq.mp hroot)
      rw [hr]
      exact (lastPiece_append_slash [] r).symm
    · unfold startsHere at hhere
      split at hhere
      · next hp =>
        rw [hp] at h
        exact absurd h (by decide)
      · next r hp =>
        rw [hp]
        exact (lastPiece_append_slash [] r).trans (lastPiece_append_slash ['.'] r).symm
      · cases hhere
  · rfl

theorem getLast?_parts {p : Path} (h : 2 < (lastPiece p.chars).length) :
    p.parts.getLast? = some (.name (lastPiece p.chars)) := by
  have hpieces : p.pieces.getLast? = some (lastPiece p.chars) := by
    rw [pieces, getLast?_splitSlashes, lastPiece_drop_lead h]
  obtain ⟨front, hfront⟩ := List.getLast?_eq_some_iff.mp hpieces
  rw [parts, hfront, List.filterMap_append, List.filterMap_cons_some (partOf?_of_lt h),
    List.filterMap_nil, ← List.append_assoc]
  exact List.getLast?_concat

theorem fileName?_eq {p : Path} (h : 2 < (lastPiece p.chars).length) :
    p.fileName? = some (lastPiece p.chars) := by
  rw [fileName?, getLast?_parts h]

@[simp] theorem lastPiece_join (p q : Path) : lastPiece (p / q).chars = lastPiece q.chars := by
  change lastPiece (p.join q).chars = _
  unfold join
  split
  · rfl
  · split
    · next h =>
      rcases h with h | h
      · rw [h]
        rfl
      · obtain ⟨front, hfront⟩ := List.getLast?_eq_some_iff.mp h
        rw [hfront, List.append_assoc]
        exact lastPiece_append_slash front q.chars
    · exact lastPiece_append_slash p.chars q.chars

theorem splitName_append {stem extension : List Char} (hs : stem ≠ [])
    (he : '.' ∉ extension) : splitName (stem ++ '.' :: extension) = (stem, some extension) := by
  have hafter : ((stem ++ '.' :: extension).reverse.takeWhile (· != '.')).reverse = extension := by
    rw [List.reverse_append, List.reverse_cons, List.append_assoc, List.takeWhile_append_of_pos,
      List.singleton_append, List.takeWhile_cons_of_neg, List.append_nil, List.reverse_reverse]
    · simp
    · intro c hc
      exact bne_iff_ne.mpr fun h => he (h ▸ List.mem_reverse.mp hc)
  have hbefore : (stem ++ '.' :: extension).length - extension.length - 1 = stem.length := by
    simp
    omega
  unfold splitName
  dsimp only
  rw [hafter, hbefore, List.take_left, if_neg hs]

theorem stem_eq_of_lastPiece {p : Path} {stem extension : List Char}
    (h : lastPiece p.chars = stem ++ '.' :: extension) (hs : stem ≠ []) (hne : extension ≠ [])
    (he : '.' ∉ extension) : p.stem = stem := by
  have hlength : 2 < (lastPiece p.chars).length := by
    have := List.length_pos_iff.mpr hs
    have := List.length_pos_iff.mpr hne
    rw [h, List.length_append, List.length_cons]
    omega
  rw [Path.stem, fileName?_eq hlength, h, Option.map_some, Option.getD_some,
    splitName_append hs he]

theorem stem_isPrefix_name (name : List Char) : (splitName name).1 <+: name := by
  unfold splitName
  dsimp only
  split
  · exact List.prefix_refl name
  · exact List.take_prefix _ name

theorem slash_notMem_stem (p : Path) : '/' ∉ p.stem := by
  unfold Path.stem fileName?
  split
  · next name hlast =>
    intro hm
    have hname := slash_notMem_of_mem_parts (List.mem_of_getLast? hlast)
    exact hname ((stem_isPrefix_name name).subset hm)
  · exact List.not_mem_nil

/-- Two paths that lead to different places in every tree. -/
structure Apart (p q : Path) : Prop where
  ne : p ≠ q
  namesOf_ne : ∀ (tree : FileTree) (names : List String),
    tree.namesOf p = .ok names → tree.namesOf q ≠ .ok names

end Path

theorem bind_eq_ok_iff {x : Except ε α} {f : α → Except ε β} {b : β} :
    x >>= f = .ok b ↔ ∃ a, x = .ok a ∧ f a = .ok b := by
  cases x with
  | error e => exact iff_of_false nofun fun ⟨_, h, _⟩ => nomatch h
  | ok a => exact ⟨fun h => ⟨a, rfl, h⟩, fun ⟨_, ha, h⟩ => Except.ok.inj ha ▸ h⟩

namespace FileTree

variable {tree : FileTree}

theorem requireFolder_eq_ok {names : List String} {u : Unit} :
    tree.requireFolder names = .ok u ↔ tree.node? names = some .folder := by
  unfold requireFolder
  split <;> simp_all

theorem walk_eq_ok {names next : List String} {part : Path.Part} :
    tree.walk names part = .ok next ↔
      match part with
      | .root => next = []
      | .here => next = names
      | .up => tree.node? names = some .folder ∧ next = names.dropLast
      | .name s => tree.node? names = some .folder ∧ next = names ++ [String.ofList s] := by
  have hchecked (found : List String) :
      (do tree.requireFolder names; return found) = Except.ok next ↔
        tree.node? names = some .folder ∧ next = found := by
    rw [bind_eq_ok_iff, ← requireFolder_eq_ok (u := ())]
    exact ⟨fun ⟨_, hr, h⟩ => ⟨hr, (Except.ok.inj h).symm⟩,
      fun ⟨hr, h⟩ => ⟨(), hr, congrArg _ h.symm⟩⟩
  cases part with
  | root => exact ⟨fun h => (Except.ok.inj h).symm, fun h => congrArg _ h.symm⟩
  | here => exact ⟨fun h => (Except.ok.inj h).symm, fun h => congrArg _ h.symm⟩
  | up => exact hchecked _
  | name s => exact hchecked _

theorem foldlM_walk_cons {part : Path.Part} {parts : List Path.Part} {names last : List String} :
    (part :: parts).foldlM tree.walk names = .ok last ↔
      ∃ next, tree.walk names part = .ok next ∧ parts.foldlM tree.walk next = .ok last := by
  rw [List.foldlM_cons, bind_eq_ok_iff]

theorem namesOf_eq_ok {path : Path} {names : List String} :
    tree.namesOf path = .ok names ↔
      path.chars ≠ [] ∧ path.parts.foldlM tree.walk tree.current = .ok names := by
  unfold namesOf
  split
  · next h => exact iff_of_false nofun fun hn => hn.1 h
  · next h => exact ⟨fun hn => ⟨h, hn⟩, And.right⟩

theorem getLast?_namesOf {path : Path} {names : List String} {name : List Char}
    (h : path.parts.getLast? = some (.name name)) (hn : tree.namesOf path = .ok names) :
    names.getLast? = some (String.ofList name) := by
  obtain ⟨front, hfront⟩ := List.getLast?_eq_some_iff.mp h
  have hwalk := (namesOf_eq_ok.mp hn).2
  rw [hfront, List.foldlM_append, bind_eq_ok_iff] at hwalk
  obtain ⟨above, -, hlast⟩ := hwalk
  obtain ⟨last, hname, hnil⟩ := foldlM_walk_cons.mp hlast
  cases hnil
  rw [(walk_eq_ok.mp hname).2]
  exact List.getLast?_concat

end FileTree

theorem Path.apart_of_lastPiece_ne {p q : Path} (hp : 2 < (lastPiece p.chars).length)
    (hq : 2 < (lastPiece q.chars).length) (h : lastPiece p.chars ≠ lastPiece q.chars) :
    p.Apart q where
  ne := fun he => h (congrArg (lastPiece ·.chars) he)
  namesOf_ne := by
    intro tree names hpn hqn
    have hpl := FileTree.getLast?_namesOf (getLast?_parts hp) hpn
    have hql := FileTree.getLast?_namesOf (getLast?_parts hq) hqn
    rw [hpl, Option.some.injEq] at hql
    exact h (String.ofList_injective hql)

end BenchCharts
