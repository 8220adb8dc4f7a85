import Mathlib.Data.List.Perm.Basic
import ScriptHost.Dict

/-!
# Putting entries in key order

What stands in a list of entries is not changed by putting them in key order, when no key occurs
twice: the result has the same entries, and two lists of the same entries have the same order. When
a key occurs twice, the last entry of the key is found.

## Main results

* `ScriptHost.Entries.lookup_ofList` — what is found in entries that were put in order.
* `ScriptHost.Entries.ofList_perm` — entries of different keys stay.
* `ScriptHost.Entries.Ordered.ofList_eq_of_perm` — entries in key order are found again from any
  order.
* `ScriptHost.Dict.contains_iff_mem_keys` — the keys of a dictionary.
-/

namespace ScriptHost

variable {κ α : Type}

namespace Entries

variable [LE κ] [LT κ] [DecidableLT κ] [Std.IsLinearOrder κ] [Std.LawfulOrderLT κ]

/-- The entries that are put in have precedence over those that are there, the last ones first. -/
lemma lookup_insertAll [DecidableEq κ] (there entries : List (κ × α)) (key : κ) :
    (insertAll there entries).lookup key =
      (entries.reverse.lookup key).or (there.lookup key) := by
  induction entries generalizing there with
  | nil => simp [insertAll]
  | cons e rest ih =>
    have hstep : insertAll there (e :: rest) = insertAll (insert e.1 e.2 there) rest := rfl
    rw [hstep, ih, lookup_insert, List.reverse_cons, List.lookup_append, Option.or_assoc]
    congr 1
    rw [lookup_cons]
    split <;> rfl

/-- Of several entries of one key the last one is found. -/
lemma lookup_ofList [DecidableEq κ] (entries : List (κ × α)) (key : κ) :
    (ofList entries).lookup key = entries.reverse.lookup key := by
  rw [ofList, lookup_insertAll]
  simp

omit [LE κ] [Std.IsLinearOrder κ] [Std.LawfulOrderLT κ] in
/-- Entries that are put in are the only new ones. -/
lemma mem_of_mem_insertAll {there entries : List (κ × α)} {e : κ × α}
    (h : e ∈ insertAll there entries) : e ∈ there ∨ e ∈ entries := by
  induction entries generalizing there with
  | nil => exact .inl h
  | cons d rest ih =>
    have hentries : e ∈ insert d.1 d.2 there ∨ e ∈ rest := ih h
    rcases hentries with h | h
    · rcases mem_insert h with rfl | h
      · exact .inr List.mem_cons_self
      · exact .inl h
    · exact .inr (List.mem_cons_of_mem _ h)

omit [LE κ] [Std.IsLinearOrder κ] [Std.LawfulOrderLT κ] in
/-- Putting entries in order adds none. -/
lemma mem_of_mem_ofList {entries : List (κ × α)} {e : κ × α} (h : e ∈ ofList entries) :
    e ∈ entries :=
  (mem_of_mem_insertAll h).resolve_left List.not_mem_nil

omit [LE κ] [Std.IsLinearOrder κ] [Std.LawfulOrderLT κ] in
/-- There is an entry after an insertion. -/
lemma insert_ne_nil (key : κ) (value : α) (entries : List (κ × α)) :
    insert key value entries ≠ [] := by
  cases entries with
  | nil => exact List.cons_ne_nil _ _
  | cons e rest =>
    unfold insert
    split
    · exact List.cons_ne_nil _ _
    · split <;> exact List.cons_ne_nil _ _

omit [LE κ] [Std.IsLinearOrder κ] [Std.LawfulOrderLT κ] in
/-- Entries that are put in order do not vanish. -/
lemma ofList_ne_nil {entries : List (κ × α)} (h : entries ≠ []) : ofList entries ≠ [] := by
  have hstay (there entries : List (κ × α)) (hthere : there ≠ []) :
      insertAll there entries ≠ [] := by
    induction entries generalizing there with
    | nil => exact hthere
    | cons e rest ih => exact ih _ (insert_ne_nil e.1 e.2 there)
  cases entries with
  | nil => exact absurd rfl h
  | cons e rest => exact hstay _ rest (insert_ne_nil e.1 e.2 [])

/-- The entries of other keys stay when one is inserted. -/
lemma insert_perm {key : κ} {entries : List (κ × α)} (h : key ∉ entries.map Prod.fst) (value : α) :
    (insert key value entries).Perm ((key, value) :: entries) := by
  induction entries with
  | nil => exact .refl _
  | cons e rest ih =>
    obtain ⟨k, v⟩ := e
    simp only [List.map_cons, List.mem_cons, not_or] at h
    unfold insert
    split
    · exact .refl _
    · split
      · exact ((ih h.2).cons (k, v)).trans (.swap _ _ _)
      · rename_i h1 h2
        exact absurd (Std.le_antisymm (Std.not_lt.mp h2) (Std.not_lt.mp h1)) h.1

/-- Entries of different keys stay when they are put in. -/
lemma insertAll_perm {there entries : List (κ × α)}
    (h : ((there ++ entries).map Prod.fst).Nodup) :
    (insertAll there entries).Perm (there ++ entries) := by
  induction entries generalizing there with
  | nil => simp [insertAll]
  | cons e rest ih =>
    have hmiddle : (e :: (there ++ rest)).Perm (there ++ e :: rest) := List.perm_middle.symm
    have hkeys : ((e :: (there ++ rest)).map Prod.fst).Nodup :=
      (hmiddle.map Prod.fst).nodup_iff.mpr h
    rw [List.map_cons, List.nodup_cons, List.map_append, List.mem_append, not_or] at hkeys
    have hinsert : (insert e.1 e.2 there).Perm (e :: there) := insert_perm hkeys.1.1 e.2
    have hmoved : (insert e.1 e.2 there ++ rest).Perm (e :: (there ++ rest)) :=
      hinsert.append_right rest
    have hnodup : ((insert e.1 e.2 there ++ rest).map Prod.fst).Nodup :=
      ((hmoved.trans hmiddle).map Prod.fst).nodup_iff.mpr h
    exact (ih hnodup).trans (hmoved.trans hmiddle)

/-- Entries of different keys are the same when they are in key order. -/
lemma ofList_perm {entries : List (κ × α)} (h : (entries.map Prod.fst).Nodup) :
    (ofList entries).Perm entries :=
  insertAll_perm h

/-- Under different keys the same is found in key order. -/
lemma lookup_ofList_of_nodup [DecidableEq κ] {entries : List (κ × α)}
    (h : (entries.map Prod.fst).Nodup) (key : κ) :
    (ofList entries).lookup key = entries.lookup key := by
  rw [lookup_ofList]
  induction entries with
  | nil => rfl
  | cons e rest ih =>
    simp only [List.map_cons, List.nodup_cons] at h
    rw [List.reverse_cons, List.lookup_append, ih h.2, lookup_cons, lookup_cons]
    by_cases hk : key = e.1
    · have hnone : rest.lookup key = none := by
        rw [List.lookup_eq_none_iff]
        intro p hp
        rw [bne_iff_ne, hk]
        rintro heq
        exact h.1 (heq ▸ List.mem_map_of_mem hp)
      simp [hk, hk ▸ hnone]
    · simp [hk]

omit [LE κ] [LT κ] [DecidableLT κ] [Std.IsLinearOrder κ] [Std.LawfulOrderLT κ] in
/-- Without the entries of a key there is nothing under it, and what there was under every other
key. -/
lemma lookup_filter_ne [DecidableEq κ] (key : κ) (entries : List (κ × α)) (other : κ) :
    (entries.filter (·.1 != key)).lookup other =
      if other = key then none else entries.lookup other := by
  induction entries with
  | nil => simp
  | cons e rest ih =>
    by_cases hkey : e.1 = key
    · rw [List.filter_cons_of_neg (by simp [hkey]), ih, lookup_cons, hkey]
      split <;> rfl
    · rw [List.filter_cons_of_pos (by simp [hkey]), lookup_cons, lookup_cons, ih]
      by_cases hother : other = e.1
      · simp [hother, hkey]
      · simp [hother]

omit [LE κ] [DecidableLT κ] [Std.IsLinearOrder κ] [Std.LawfulOrderLT κ] in
/-- Entries are in key order when their keys are. -/
lemma ordered_iff_keys {entries : List (κ × α)} :
    Ordered entries ↔ (entries.map Prod.fst).Pairwise (· < ·) :=
  List.pairwise_map.symm

namespace Ordered

omit [DecidableLT κ] [Std.IsLinearOrder κ] in
/-- The keys of entries in key order are different. -/
lemma nodup_keys {entries : List (κ × α)} (h : Ordered entries) :
    (entries.map Prod.fst).Nodup := by
  rw [List.nodup_iff_pairwise_ne, List.pairwise_map]
  exact List.Pairwise.imp (fun {a b} hlt (heq : a.1 = b.1) => Std.lt_irrefl (heq ▸ hlt)) h

omit [DecidableLT κ] in
/-- Entries in key order are determined by which entries there are. -/
lemma eq_of_perm {as bs : List (κ × α)} (ha : Ordered as) (hb : Ordered bs) (p : as.Perm bs) :
    as = bs :=
  p.eq_of_pairwise (fun _ _ _ _ hab hba => absurd (Std.lt_trans hab hba) Std.lt_irrefl) ha hb

/-- Entries in key order are found again from any order. -/
lemma ofList_eq_of_perm {entries ordered : List (κ × α)} (h : Ordered ordered)
    (p : entries.Perm ordered) : ofList entries = ordered := by
  have hnodup : (entries.map Prod.fst).Nodup := (p.map Prod.fst).nodup_iff.mpr h.nodup_keys
  exact eq_of_perm (insertAll List.Pairwise.nil entries) h ((ofList_perm hnodup).trans p)

end Ordered

/-- Entries of different keys are the same in key order, whatever order they are in. -/
lemma ofList_congr {as bs : List (κ × α)} (hnodup : (bs.map Prod.fst).Nodup) (p : as.Perm bs) :
    ofList as = ofList bs :=
  (Ordered.insertAll List.Pairwise.nil bs).ofList_eq_of_perm (p.trans (ofList_perm hnodup).symm)

/-- Under different keys the same is found in any order. -/
lemma lookup_congr [DecidableEq κ] {as bs : List (κ × α)} (hnodup : (bs.map Prod.fst).Nodup)
    (p : as.Perm bs) (key : κ) : as.lookup key = bs.lookup key := by
  have hnodup' : (as.map Prod.fst).Nodup := (p.map Prod.fst).nodup_iff.mpr hnodup
  rw [← lookup_ofList_of_nodup hnodup', ofList_congr hnodup p, lookup_ofList_of_nodup hnodup]

end Entries

/-- Without a key there is nothing under it, and what there was under every other key. -/
lemma Dict.get?_erase [LT κ] [DecidableEq κ] (d : Dict κ α) (key other : κ) :
    (d.erase key).get? other = if other = key then none else d.get? other :=
  Entries.lookup_filter_ne key d.entries other

/-- The keys of a dictionary are those that it has an entry of. -/
lemma Dict.contains_iff_mem_keys [LT κ] [DecidableEq κ] (d : Dict κ α) (key : κ) :
    d.contains key = true ↔ key ∈ d.keys := by
  unfold Dict.contains Dict.get? Dict.keys
  induction d.entries with
  | nil => simp
  | cons e rest ih =>
    rw [Entries.lookup_cons, List.map_cons, List.mem_cons, ← ih]
    by_cases h : key = e.1
    · simp [h]
    · simp [h]

end ScriptHost
