/-! Lists with a number or a name for each entry.
Parties that take steps are numbered by their place in a list; a step exchanges one entry, and
a newcomer joins at the end. Members of a record are looked up by their names.
-/

namespace CallWatch

variable {α : Type}

/-- An entry of a list in which one was exchanged is that one, or was there before. -/
theorem cases_of_getElem?_set {xs : List α} {i j : Nat} {x y : α}
    (h : (xs.set i x)[j]? = some y)
    : (j = i ∧ y = x) ∨ (j ≠ i ∧ xs[j]? = some y) := by
  rw [List.getElem?_set] at h
  split at h
  · next same =>
    split at h
    · exact Or.inl ⟨same.symm, (Option.some.inj h).symm⟩
    · cases h
  · next other => exact Or.inr ⟨Ne.symm other, h⟩

/-- An entry of a list that has grown by one was there before, or is the last one. -/
theorem cases_of_getElem?_concat {xs : List α} {x y : α} {i : Nat}
    (h : (xs ++ [x])[i]? = some y)
    : xs[i]? = some y ∨ (i = xs.length ∧ y = x) := by
  rw [List.getElem?_append] at h
  split at h
  · exact Or.inl h
  · obtain ⟨last, new⟩ := List.getElem?_eq_some_iff.mp h
    simp only [List.length_singleton] at last
    exact Or.inr ⟨by omega, by simpa using new.symm⟩

/-- Exchanging one entry of a list changes a count by the two entries. -/
theorem countP_set_add (p : α → Bool) {xs : List α} {i : Nat} {x : α} (h : xs[i]? = some x)
    (y : α)
    : (xs.set i y).countP p + (p x).toNat = xs.countP p + (p y).toNat := by
  induction xs generalizing i with
  | nil => cases h
  | cons z rest ih =>
      cases i with
      | zero =>
          cases h
          simp only [List.set_cons_zero, List.countP_cons]
          cases p x <;> cases p y <;> simp
      | succ i =>
          have others := ih h
          simp only [List.set_cons_succ, List.countP_cons]
          omega

theorem length_toList (x? : Option α)
    : x?.toList.length = x?.isSome.toNat := by
  cases x? <;> rfl

/-- What a function picks from a list that has grown by one. -/
theorem filterMap_concat {β : Type} (f : α → Option β) (xs : List α) (x : α)
    : (xs ++ [x]).filterMap f = xs.filterMap f ++ (f x).toList := by
  rw [List.filterMap_append, List.filterMap_cons, List.filterMap_nil]
  cases f x <;> rfl

-----------------------------------------------------------------------------------------
-- Names
-----------------------------------------------------------------------------------------

section Names
variable {β : Type} {entries : List (String × β)} {name : String} {x : β}

theorem isSome_lookup_iff
    : (entries.lookup name).isSome = true ↔ name ∈ entries.map (·.1) := by
  induction entries with
  | nil => simp
  | cons entry rest ih =>
      rw [List.lookup_cons, List.map_cons, List.mem_cons, ← ih]
      split <;> simp_all

/-- What is looked up is an entry, by induction on the entries. -/
theorem mem_of_lookup (h : entries.lookup name = some x)
    : (name, x) ∈ entries := by
  induction entries with
  | nil => cases h
  | cons entry rest ih =>
      rw [List.lookup_cons] at h
      split at h
      · next same =>
        cases h
        rw [eq_of_beq same]
        exact .head _
      · exact .tail _ (ih h)

/-- Where no name comes twice every entry is found, by induction on the entries. -/
theorem lookup_of_mem (once : (entries.map (·.1)).Nodup) (h : (name, x) ∈ entries)
    : entries.lookup name = some x := by
  induction entries with
  | nil => cases h
  | cons entry rest ih =>
      rw [List.map_cons, List.nodup_cons] at once
      rw [List.lookup_cons]
      rcases List.mem_cons.mp h with rfl | others
      · rw [beq_self_eq_true]
      · have different : name ≠ entry.1 := by
          rintro rfl
          exact once.1 (List.mem_map.mpr ⟨_, others, rfl⟩)
        rw [beq_false_of_ne different]
        exact ih once.2 others

end Names

/-- If every entry of a list comes from a good one, the list does, by induction on it. -/
theorem exists_map_eq {β : Type} {f : β → α} {good : β → Prop} {xs : List α}
    (h : ∀ x ∈ xs, ∃ y, good y ∧ f y = x)
    : ∃ ys : List β, ys.map f = xs ∧ ∀ y ∈ ys, good y := by
  induction xs with
  | nil => exact ⟨[], rfl, nofun⟩
  | cons x rest ih =>
      obtain ⟨y, first, rfl⟩ := h x (.head _)
      obtain ⟨ys, rfl, others⟩ := ih fun x member => h x (.tail _ member)
      exact ⟨y :: ys, rfl, List.forall_mem_cons.mpr ⟨first, others⟩⟩

end CallWatch
