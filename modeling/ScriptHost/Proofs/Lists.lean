import Mathlib.Data.List.Forall2
import Mathlib.Tactic.Lemma

/-!
# Lists that correspond

Two lists correspond when they have the same length and their elements are related one by one. What
is read of the elements one by one is read of the list, and a list of which one element cannot be
read cannot be read.

## Main results

* `ScriptHost.exists_right_of_forall₂`, `ScriptHost.exists_left_of_forall₂`,
  `ScriptHost.forall₂_middle` — what an element of one list corresponds to.
* `ScriptHost.mapM_of_forall₂`, `ScriptHost.forall₂_of_mapM_eq_ok`, `ScriptHost.mapM_eq_none` —
  lists that are read, and lists that are not.
-/

namespace ScriptHost

section Correspondence

variable {α β : Type} {R : α → β → Prop} {as : List α} {bs : List β}

/-- What stands on the left corresponds to something on the right. -/
lemma exists_right_of_forall₂ (h : List.Forall₂ R as bs) {a : α} (ha : a ∈ as) :
    ∃ b ∈ bs, R a b := by
  induction h with
  | nil => exact absurd ha List.not_mem_nil
  | cons hhead _ ih =>
    rcases List.mem_cons.mp ha with rfl | ha
    · exact ⟨_, List.mem_cons_self, hhead⟩
    · obtain ⟨b, hb, hab⟩ := ih ha
      exact ⟨b, List.mem_cons_of_mem _ hb, hab⟩

/-- What stands on the right corresponds to something on the left. -/
lemma exists_left_of_forall₂ (h : List.Forall₂ R as bs) {b : β} (hb : b ∈ bs) :
    ∃ a ∈ as, R a b :=
  exists_right_of_forall₂ h.flip hb

/-- What stands between two parts on the left corresponds to something between two parts on the
right. -/
lemma forall₂_middle {front back : List α} {a : α}
    (h : List.Forall₂ R (front ++ a :: back) bs) :
    ∃ front' b back', bs = front' ++ b :: back' ∧ R a b ∧ List.Forall₂ R back back' := by
  have hdrop := List.forall₂_drop_append bs front (a :: back) h.flip
  rcases hbs : bs.drop front.length with _ | ⟨b, back'⟩
  · rw [hbs] at hdrop
    cases hdrop
  · rw [hbs] at hdrop
    cases hdrop with
    | cons hhead hrest =>
      exact ⟨bs.take front.length, b, back', by rw [← hbs, List.take_append_drop], hhead,
        hrest.flip⟩

end Correspondence

section Reading

variable {α β : Type} {as : List α}

/-- Elements that are read one by one are read together. -/
lemma mapM_of_forall₂ {m : Type → Type} [Monad m] [LawfulMonad m] {read : α → m β} {bs : List β}
    (h : List.Forall₂ (fun a b => read a = pure b) as bs) : as.mapM read = pure bs := by
  induction h with
  | nil => rw [List.mapM_nil]
  | cons hhead _ ih => rw [List.mapM_cons, hhead, ih, pure_bind, pure_bind]

/-- Elements that are read together are read one by one. -/
lemma forall₂_of_mapM_eq_ok {ε : Type} {read : α → Except ε β} {bs : List β}
    (h : as.mapM read = .ok bs) : List.Forall₂ (fun a b => read a = .ok b) as bs := by
  induction as generalizing bs with
  | nil =>
    cases h
    exact .nil
  | cons head rest ih =>
    rw [List.mapM_cons] at h
    rcases hhead : read head with refusal | b
    · rw [hhead] at h
      cases h
    · rcases hrest : rest.mapM read with refusal | others
      · rw [hhead, hrest] at h
        cases h
      · rw [hhead, hrest] at h
        cases h
        exact .cons hhead (ih hrest)

/-- Elements of which one cannot be read are not read together. -/
lemma mapM_eq_none {read : α → Option β} {a : α} (ha : a ∈ as) (h : read a = none) :
    as.mapM read = none := by
  induction as with
  | nil => exact absurd ha List.not_mem_nil
  | cons head rest ih =>
    rw [List.mapM_cons]
    rcases List.mem_cons.mp ha with rfl | ha
    · rw [h]
      rfl
    · rw [ih ha]
      cases read head <;> rfl

end Reading

end ScriptHost
