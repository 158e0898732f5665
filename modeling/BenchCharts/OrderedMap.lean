/-!
Maps whose keys are kept in ascending order.
-/

namespace BenchCharts

/-- Keys with values, in strictly ascending order of the keys. -/
structure OrderedMap (κ α : Type) [Ord κ] where
  entries : List (κ × α)
  ascending : entries.Pairwise fun a b => compare a.1 b.1 = .lt

namespace OrderedMap

variable {κ α β : Type} [Ord κ]

def empty : OrderedMap κ α := ⟨[], .nil⟩

instance : EmptyCollection (OrderedMap κ α) := ⟨empty⟩

instance : Inhabited (OrderedMap κ α) := ⟨empty⟩

def keys (m : OrderedMap κ α) : List κ :=
  m.entries.map (·.1)

def isEmpty (m : OrderedMap κ α) : Bool :=
  m.entries.isEmpty

def get? (m : OrderedMap κ α) (k : κ) : Option α :=
  (m.entries.find? fun e => compare e.1 k == .eq).map (·.2)

/-- Puts a key in its place; a key that is there already gets the new value. -/
def insertEntry (k : κ) (v : α) : List (κ × α) → List (κ × α)
  | [] => [(k, v)]
  | (k', v') :: es =>
    match compare k k' with
    | .lt => (k, v) :: (k', v') :: es
    | .eq => (k, v) :: es
    | .gt => (k', v') :: insertEntry k v es

theorem mem_insertEntry {k : κ} {v : α} {es : List (κ × α)} {e : κ × α}
    (h : e ∈ insertEntry k v es) : e = (k, v) ∨ e ∈ es := by
  induction es with
  | nil => simpa [insertEntry] using h
  | cons e' es ih =>
    unfold insertEntry at h
    split at h
    · simpa using h
    · rcases List.mem_cons.mp h with h | h
      · exact .inl h
      · exact .inr (List.mem_cons_of_mem _ h)
    · rcases List.mem_cons.mp h with h | h
      · exact .inr (h ▸ List.mem_cons_self)
      · exact (ih h).imp id (List.mem_cons_of_mem _)

theorem insertEntry_ascending [Std.TransOrd κ] [Std.LawfulEqOrd κ] (k : κ) (v : α)
    {es : List (κ × α)} (h : es.Pairwise fun a b => compare a.1 b.1 = .lt) :
    (insertEntry k v es).Pairwise fun a b => compare a.1 b.1 = .lt := by
  induction es with
  | nil => simp [insertEntry]
  | cons e es ih =>
    obtain ⟨k', v'⟩ := e
    obtain ⟨hhead, htail⟩ := List.pairwise_cons.mp h
    unfold insertEntry
    split
    · next hlt =>
      refine List.pairwise_cons.mpr ⟨fun b hb => ?_, h⟩
      rcases List.mem_cons.mp hb with rfl | hb
      · exact hlt
      · exact Std.TransCmp.lt_trans hlt (hhead b hb)
    · next heq =>
      have hk : k = k' := Std.LawfulEqOrd.eq_of_compare heq
      subst hk
      exact List.pairwise_cons.mpr ⟨hhead, htail⟩
    · next hgt =>
      refine List.pairwise_cons.mpr ⟨fun b hb => ?_, ih htail⟩
      rcases mem_insertEntry hb with rfl | hb
      · exact Std.OrientedCmp.gt_iff_lt.mp hgt
      · exact hhead b hb

variable [Std.TransOrd κ] [Std.LawfulEqOrd κ]

def insert (m : OrderedMap κ α) (k : κ) (v : α) : OrderedMap κ α :=
  ⟨insertEntry k v m.entries, insertEntry_ascending k v m.ascending⟩

/-- Of several values for one key the last one counts. -/
def ofList (es : List (κ × α)) : OrderedMap κ α :=
  es.foldl (fun m (k, v) => m.insert k v) ∅

omit [Std.TransOrd κ] [Std.LawfulEqOrd κ] in
theorem ascending_map {es : List (κ × α)} {f : κ → α → β}
    (h : es.Pairwise fun a b => compare a.1 b.1 = .lt) :
    (es.map fun e => (e.1, f e.1 e.2)).Pairwise fun a b => compare a.1 b.1 = .lt :=
  List.pairwise_map.mpr h

omit [Std.TransOrd κ] [Std.LawfulEqOrd κ] in
/-- Computes each value anew from its key and the old one. -/
def mapValues (f : κ → α → β) (m : OrderedMap κ α) : OrderedMap κ β :=
  ⟨m.entries.map fun e => (e.1, f e.1 e.2), ascending_map m.ascending⟩

omit [Std.TransOrd κ] [Std.LawfulEqOrd κ] in
theorem ascending_filterMap {es : List (κ × α)} {f : α → Option β}
    (h : es.Pairwise fun a b => compare a.1 b.1 = .lt) :
    (es.filterMap fun e => (f e.2).map ((e.1, ·))).Pairwise
      fun a b => compare a.1 b.1 = .lt := by
  refine List.pairwise_filterMap.mpr (h.imp ?_)
  intro a b hab x hx y hy
  simp only [Option.map_eq_some_iff] at hx hy
  obtain ⟨_, _, rfl⟩ := hx
  obtain ⟨_, _, rfl⟩ := hy
  exact hab

omit [Std.TransOrd κ] [Std.LawfulEqOrd κ] in
/-- Keeps the keys whose value has an image. -/
def filterMapValues (f : α → Option β) (m : OrderedMap κ α) : OrderedMap κ β :=
  ⟨m.entries.filterMap fun e => (f e.2).map ((e.1, ·)), ascending_filterMap m.ascending⟩

end OrderedMap

/-- The keys of a list in strictly ascending order. -/
def sortedKeys {κ : Type} [Ord κ] [Std.TransOrd κ] [Std.LawfulEqOrd κ] (ks : List κ) : List κ :=
  (OrderedMap.ofList (ks.map ((·, ())))).keys

end BenchCharts
