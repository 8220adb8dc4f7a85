/-!
# Dictionaries in key order

A dictionary is a list of entries with strictly increasing keys, so two dictionaries with the same
entries are equal and every walk over one goes in key order. Texts are ordered by code points, which
is also the order of their UTF-8 bytes.

The operations on plain lists of entries come first: the fields of a JSON object are such a list.

## Main definitions

* `ScriptHost.Entries.insert` — puts an entry in its place in key order, over an entry of its key.
* `ScriptHost.Entries.ofList` — inserts entries one after the other, so that the last one of a key
  stays.
* `ScriptHost.Dict` — entries in key order.

## Main results

* `ScriptHost.Entries.lookup_insert` — what is found after an insertion.
* `ScriptHost.Entries.Ordered.insert` — an insertion keeps the order.
* `ScriptHost.Dict.ofEntries_entries` — a dictionary is made again from its entries.
-/

namespace ScriptHost

variable {κ α β : Type}

/-! ## Lists of entries -/

namespace Entries

/-- Puts an entry in front of the first larger key; it takes the place of an entry of its key. -/
def insert [LT κ] [DecidableLT κ] (key : κ) (value : α) : List (κ × α) → List (κ × α)
  | [] => [(key, value)]
  | (k, v) :: rest =>
    if key < k then (key, value) :: (k, v) :: rest
    else if k < key then (k, v) :: insert key value rest
    else (key, value) :: rest

/-- The entries inserted one after the other into entries that are there already. -/
def insertAll [LT κ] [DecidableLT κ] (there entries : List (κ × α)) : List (κ × α) :=
  entries.foldl (fun es e => insert e.1 e.2 es) there

/-- The entries in key order; of several entries of one key the last. -/
def ofList [LT κ] [DecidableLT κ] (entries : List (κ × α)) : List (κ × α) :=
  insertAll [] entries

/-- The keys strictly increase. -/
def Ordered [LT κ] (entries : List (κ × α)) : Prop :=
  entries.Pairwise fun a b => a.1 < b.1

/-- The first entry is found under its own key and hides no other key. -/
theorem lookup_cons [DecidableEq κ] (k : κ) (v : α) (rest : List (κ × α)) (key : κ) :
    List.lookup key ((k, v) :: rest) = if key = k then some v else rest.lookup key := by
  rw [List.lookup_cons]
  by_cases h : key = k
  · simp [h]
  · have hb : (key == k) = false := by simpa using h
    simp [hb, h]

/-- After an insertion the key has the new value, and every other key what it had. -/
theorem lookup_insert [DecidableEq κ] [LE κ] [LT κ] [DecidableLT κ] [Std.IsLinearOrder κ]
    [Std.LawfulOrderLT κ] (key : κ) (value : α) (entries : List (κ × α)) (other : κ) :
    (insert key value entries).lookup other =
      if other = key then some value else entries.lookup other := by
  induction entries with
  | nil => simp [insert, lookup_cons]
  | cons e rest ih =>
    obtain ⟨k, v⟩ := e
    unfold insert
    split
    · simp only [lookup_cons]
    · split
      · rename_i hlt
        have hne : k ≠ key := fun hk => Std.lt_irrefl (hk ▸ hlt)
        simp only [lookup_cons, ih]
        by_cases h : other = k
        · simp [h, hne]
        · simp [h]
      · rename_i h1 h2
        have hk : key = k := Std.le_antisymm (Std.not_lt.mp h2) (Std.not_lt.mp h1)
        simp only [lookup_cons, hk]
        by_cases h : other = k <;> simp [h]

/-- The keys after an insertion are the new one and the old ones. -/
theorem mem_insert [LT κ] [DecidableLT κ] {key : κ} {value : α} {entries : List (κ × α)}
    {e : κ × α} (h : e ∈ insert key value entries) : e = (key, value) ∨ e ∈ entries := by
  induction entries with
  | nil => exact .inl (by simpa [insert] using h)
  | cons d rest ih =>
    unfold insert at h
    split at h
    · rcases List.mem_cons.mp h with h | h
      · exact .inl h
      · exact .inr h
    · split at h
      · rcases List.mem_cons.mp h with h | h
        · exact .inr (h ▸ List.mem_cons_self)
        · exact (ih h).imp id (List.mem_cons_of_mem _)
      · rcases List.mem_cons.mp h with h | h
        · exact .inl h
        · exact .inr (List.mem_cons_of_mem _ h)

/-- An insertion keeps entries in key order. -/
theorem Ordered.insert [LE κ] [LT κ] [DecidableLT κ] [Std.IsLinearOrder κ] [Std.LawfulOrderLT κ]
    {entries : List (κ × α)} (h : Ordered entries) (key : κ) (value : α) :
    Ordered (insert key value entries) := by
  induction entries with
  | nil => exact List.pairwise_singleton _ _
  | cons e rest ih =>
    obtain ⟨k, v⟩ := e
    have hrest : Ordered rest := List.Pairwise.of_cons h
    have hall : ∀ x ∈ rest, k < x.1 := fun _ hx => List.rel_of_pairwise_cons h hx
    unfold Entries.insert
    split
    · rename_i hlt
      refine List.pairwise_cons.mpr ⟨fun x hx => ?_, h⟩
      rcases List.mem_cons.mp hx with hx | hx
      · exact hx ▸ hlt
      · exact Std.lt_trans hlt (hall x hx)
    · split
      · rename_i hlt
        refine List.pairwise_cons.mpr ⟨fun x hx => ?_, ih hrest⟩
        rcases mem_insert hx with hx | hx
        · exact hx ▸ hlt
        · exact hall x hx
      · rename_i h1 h2
        have hk : key = k := Std.le_antisymm (Std.not_lt.mp h2) (Std.not_lt.mp h1)
        exact List.pairwise_cons.mpr ⟨fun x hx => hk ▸ hall x hx, hrest⟩

/-- Entries inserted into entries in key order are in key order. -/
theorem Ordered.insertAll [LE κ] [LT κ] [DecidableLT κ] [Std.IsLinearOrder κ]
    [Std.LawfulOrderLT κ] {there : List (κ × α)} (h : Ordered there) (entries : List (κ × α)) :
    Ordered (insertAll there entries) := by
  induction entries generalizing there with
  | nil => exact h
  | cons e rest ih => exact ih (h.insert e.1 e.2)

/-- A key above all keys is inserted at the end. -/
theorem insert_eq_append [LE κ] [LT κ] [DecidableLT κ] [Std.IsLinearOrder κ]
    [Std.LawfulOrderLT κ] {key : κ} {value : α} {entries : List (κ × α)}
    (h : ∀ e ∈ entries, e.1 < key) : insert key value entries = entries ++ [(key, value)] := by
  induction entries with
  | nil => rfl
  | cons e rest ih =>
    have hlt : e.1 < key := h e List.mem_cons_self
    have hnot : ¬ key < e.1 := fun h' => Std.lt_irrefl (Std.lt_trans hlt h')
    rw [insert, if_neg hnot, if_pos hlt, ih fun x hx => h x (List.mem_cons_of_mem _ hx)]
    rfl

/-- Entries in key order are inserted behind entries with smaller keys. -/
theorem insertAll_eq_append [LE κ] [LT κ] [DecidableLT κ] [Std.IsLinearOrder κ]
    [Std.LawfulOrderLT κ] {there entries : List (κ × α)} (h : Ordered (there ++ entries)) :
    insertAll there entries = there ++ entries := by
  induction entries generalizing there with
  | nil => simp [insertAll]
  | cons e rest ih =>
    have hbelow : ∀ x ∈ there, x.1 < e.1 := fun x hx =>
      (List.pairwise_append.mp h).2.2 x hx e List.mem_cons_self
    have step : insertAll there (e :: rest) = insertAll (there ++ [e]) rest := by
      rw [insertAll, List.foldl_cons, insert_eq_append hbelow]
      rfl
    have hmoved : Ordered ((there ++ [e]) ++ rest) := by
      simpa using h
    rw [step, ih hmoved]
    simp

/-- Entries in key order are their own key order. -/
theorem Ordered.ofList_eq [LE κ] [LT κ] [DecidableLT κ] [Std.IsLinearOrder κ]
    [Std.LawfulOrderLT κ] {entries : List (κ × α)} (h : Ordered entries) :
    ofList entries = entries := by
  have hnil : Ordered ([] ++ entries) := h
  simpa [ofList] using insertAll_eq_append hnil

end Entries

/-! ## Dictionaries -/

/-- Entries in key order. -/
structure Dict (κ α : Type) [LT κ] where
  /-- The entries. -/
  entries : List (κ × α)
  /-- The keys strictly increase. -/
  ordered : Entries.Ordered entries

namespace Dict

/-- Dictionaries with the same entries are equal. -/
@[ext]
theorem ext [LT κ] {a b : Dict κ α} (h : a.entries = b.entries) : a = b := by
  cases a
  cases b
  cases h
  rfl

instance [LT κ] [DecidableEq κ] [DecidableEq α] : DecidableEq (Dict κ α) := fun _ _ =>
  decidable_of_iff _ ⟨Dict.ext, congrArg entries⟩

/-- The dictionary without entries. -/
def empty [LT κ] : Dict κ α :=
  ⟨[], List.Pairwise.nil⟩

/-- Whether there is no entry. -/
def isEmpty [LT κ] (d : Dict κ α) : Bool :=
  d.entries.isEmpty

/-- The keys in increasing order. -/
def keys [LT κ] (d : Dict κ α) : List κ :=
  d.entries.map (·.1)

/-- The value of a key. -/
def get? [LT κ] [BEq κ] (d : Dict κ α) (key : κ) : Option α :=
  d.entries.lookup key

/-- Whether there is an entry with this key. -/
def contains [LT κ] [BEq κ] (d : Dict κ α) (key : κ) : Bool :=
  (d.get? key).isSome

/-- The dictionary with one key set to a value. -/
def insert [LE κ] [LT κ] [DecidableLT κ] [Std.IsLinearOrder κ] [Std.LawfulOrderLT κ]
    (d : Dict κ α) (key : κ) (value : α) : Dict κ α :=
  ⟨Entries.insert key value d.entries, d.ordered.insert key value⟩

/-- The dictionary of some entries; of several entries of one key the last. -/
def ofEntries [LE κ] [LT κ] [DecidableLT κ] [Std.IsLinearOrder κ] [Std.LawfulOrderLT κ]
    (entries : List (κ × α)) : Dict κ α :=
  ⟨Entries.ofList entries, Entries.Ordered.insertAll List.Pairwise.nil entries⟩

/-- The dictionary without one key. -/
def erase [LT κ] [BEq κ] (d : Dict κ α) (key : κ) : Dict κ α :=
  ⟨d.entries.filter (·.1 != key), List.Pairwise.filter _ d.ordered⟩

/-- The dictionary of the values that a function keeps. -/
def filterMap [LT κ] (f : α → Option β) (d : Dict κ α) : Dict κ β :=
  ⟨d.entries.filterMap fun e => (f e.2).map (e.1, ·), by
    refine List.Pairwise.filterMap _ (fun a b hab a' ha b' hb => ?_) d.ordered
    simp only [Option.map_eq_some_iff] at ha hb
    obtain ⟨_, _, rfl⟩ := ha
    obtain ⟨_, _, rfl⟩ := hb
    exact hab⟩

/-- A dictionary is made again from its entries. -/
theorem ofEntries_entries [LE κ] [LT κ] [DecidableLT κ] [Std.IsLinearOrder κ]
    [Std.LawfulOrderLT κ] (d : Dict κ α) : ofEntries d.entries = d :=
  Dict.ext d.ordered.ofList_eq

/-- After an insertion the key has the new value, and every other key what it had. -/
theorem get?_insert [DecidableEq κ] [LE κ] [LT κ] [DecidableLT κ] [Std.IsLinearOrder κ]
    [Std.LawfulOrderLT κ] (d : Dict κ α) (key : κ) (value : α) (other : κ) :
    (d.insert key value).get? other = if other = key then some value else d.get? other :=
  Entries.lookup_insert key value d.entries other

end Dict

end ScriptHost
