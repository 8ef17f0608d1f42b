/-! A ledger: one value per name, the names in ascending order.
An entry is updated in place or put where its name belongs, so the order holds after every
update.
-/

namespace CallWatch

/-- One value per name, in ascending order of the names. -/
structure Ledger (α : Type) where
  entries : List (String × α)
  ascending : entries.Pairwise fun a b => a.1 < b.1

namespace Ledger

variable {α : Type}

def empty : Ledger α := ⟨[], .nil⟩

instance : Inhabited (Ledger α) := ⟨empty⟩

/-- Updates the entry of a name in an ascending list, or puts a new one where it belongs. -/
def updateEntries (name : String) (f : Option α → α) : List (String × α) → List (String × α)
  | [] => [(name, f none)]
  | (key, value) :: rest =>
    if name = key then (key, f (some value)) :: rest
    else if name < key then (name, f none) :: (key, value) :: rest
    else (key, value) :: updateEntries name f rest

/-- An update adds no name but the one it is about. -/
theorem mem_updateEntries {name : String} {f : Option α → α} {entries : List (String × α)}
    {entry : String × α} (h : entry ∈ updateEntries name f entries)
    : entry.1 = name ∨ ∃ other ∈ entries, other.1 = entry.1 := by
  induction entries with
  | nil =>
    simp only [updateEntries, List.mem_singleton] at h
    exact .inl (by rw [h])
  | cons head rest ih =>
    obtain ⟨key, value⟩ := head
    simp only [updateEntries] at h
    split at h
    · rcases List.mem_cons.1 h with h | h
      · exact .inr ⟨_, List.mem_cons_self, by rw [h]⟩
      · exact .inr ⟨_, List.mem_cons_of_mem _ h, rfl⟩
    · split at h
      · rcases List.mem_cons.1 h with h | h
        · exact .inl (by rw [h])
        · exact .inr ⟨_, h, rfl⟩
      · rcases List.mem_cons.1 h with h | h
        · exact .inr ⟨_, List.mem_cons_self, by rw [h]⟩
        · rcases ih h with h | ⟨other, member, same⟩
          · exact .inl h
          · exact .inr ⟨other, List.mem_cons_of_mem _ member, same⟩

/-- An update keeps the names ascending, by the place that it chooses. -/
theorem pairwise_updateEntries {name : String} {f : Option α → α}
    {entries : List (String × α)} (h : entries.Pairwise fun a b => a.1 < b.1)
    : (updateEntries name f entries).Pairwise fun a b => a.1 < b.1 := by
  induction entries with
  | nil => simp [updateEntries]
  | cons head rest ih =>
    obtain ⟨key, value⟩ := head
    rw [List.pairwise_cons] at h
    simp only [updateEntries]
    split
    · exact List.pairwise_cons.2 ⟨h.1, h.2⟩
    · next different =>
      split
      · next before =>
        refine List.pairwise_cons.2 ⟨fun entry member => ?_, List.pairwise_cons.2 h⟩
        rcases List.mem_cons.1 member with rfl | member
        · exact before
        · exact String.lt_trans before (h.1 _ member)
      · next notBefore =>
        refine List.pairwise_cons.2 ⟨fun entry member => ?_, ih h.2⟩
        rcases mem_updateEntries member with same | ⟨other, inRest, same⟩
        · rw [same]
          refine Decidable.byContradiction fun notAfter => different ?_
          exact String.le_antisymm (String.not_lt.1 notAfter) (String.not_lt.1 notBefore)
        · exact same ▸ h.1 _ inRest

/-- Updates the entry of a name; `f` is given the value so far, if there is one. -/
def update (l : Ledger α) (name : String) (f : Option α → α) : Ledger α :=
  ⟨updateEntries name f l.entries, pairwise_updateEntries l.ascending⟩

def get? (l : Ledger α) (name : String) : Option α :=
  (l.entries.find? fun entry => entry.1 = name).map (·.2)

/-- A name below every key of a list is not among its entries. -/
theorem find?_eq_none_of_below {name : String} {entries : List (String × α)}
    (below : ∀ entry ∈ entries, name < entry.1)
    : entries.find? (fun entry => entry.1 = name) = none := by
  rw [List.find?_eq_none]
  intro entry member same
  have same : entry.1 = name := by simpa using same
  exact String.lt_irrefl name (same ▸ below entry member)

/-- After an update a look-up gives the new value under the updated name and the old one
under every other, by induction on the entries that the update passes over.
-/
theorem find?_updateEntries {name key : String} {f : Option α → α}
    {entries : List (String × α)} (h : entries.Pairwise fun a b => a.1 < b.1)
    : ((updateEntries name f entries).find? fun entry => entry.1 = key).map (·.2)
      = if key = name then
          some (f ((entries.find? fun entry => entry.1 = name).map (·.2)))
        else (entries.find? fun entry => entry.1 = key).map (·.2) := by
  induction entries with
  | nil => by_cases same : key = name <;> simp [updateEntries, same, eq_comm]
  | cons head rest ih =>
      obtain ⟨first, value⟩ := head
      rw [List.pairwise_cons] at h
      simp only [updateEntries]
      split
      · next same =>
        subst same
        by_cases asked : key = name <;> simp [asked, eq_comm]
      · next different =>
        split
        · next before =>
          have absent : rest.find? (fun entry => entry.1 = name) = none :=
            find?_eq_none_of_below fun entry member => String.lt_trans before (h.1 entry member)
          by_cases asked : key = name
          · simp [asked, Ne.symm different, absent]
          · simp [asked, Ne.symm asked]
        · by_cases here : first = key
          · have other : key ≠ name := fun same => different (same ▸ here.symm)
            simp [here, other]
          · simp [here, Ne.symm different, ih h.2]

@[simp] theorem get?_empty (name : String)
    : (empty : Ledger α).get? name = none := rfl

/-- An update changes the value of its own name and of no other. -/
theorem get?_update (l : Ledger α) (name key : String) (f : Option α → α)
    : (l.update name f).get? key
      = if key = name then some (f (l.get? name)) else l.get? key :=
  find?_updateEntries l.ascending

/-- An update depends on what it makes of the value that it finds, by induction on the entries
that it passes over.
-/
theorem updateEntries_congr {name : String} {f g : Option α → α} {entries : List (String × α)}
    (ascending : entries.Pairwise fun a b => a.1 < b.1)
    (same : f ((entries.find? fun entry => entry.1 = name).map (·.2))
      = g ((entries.find? fun entry => entry.1 = name).map (·.2)))
    : updateEntries name f entries = updateEntries name g entries := by
  induction entries with
  | nil => simpa [updateEntries] using same
  | cons head rest ih =>
      obtain ⟨key, value⟩ := head
      rw [List.pairwise_cons] at ascending
      by_cases here : name = key
      · subst here
        simpa [updateEntries] using same
      · by_cases before : name < key
        · have absent : rest.find? (fun entry => entry.1 = name) = none :=
            find?_eq_none_of_below fun entry member =>
              String.lt_trans before (ascending.1 entry member)
          simpa [updateEntries, here, before, Ne.symm here, absent] using same
        · have later := ih ascending.2 (by simpa [Ne.symm here] using same)
          simp [updateEntries, here, before, later]

theorem update_congr {l : Ledger α} {name : String} {f g : Option α → α}
    (same : f (l.get? name) = g (l.get? name))
    : l.update name f = l.update name g := by
  simp only [update, updateEntries_congr l.ascending same]

/-- The entries are the names with their values; since the names ascend, no entry hides
another from a look-up.
-/
theorem mem_entries_iff {l : Ledger α} {name : String} {value : α}
    : (name, value) ∈ l.entries ↔ l.get? name = some value := by
  obtain ⟨entries, ascending⟩ := l
  simp only [get?]
  constructor
  · intro member
    induction entries with
    | nil => simp at member
    | cons head rest ih =>
        rw [List.pairwise_cons] at ascending
        rcases List.mem_cons.mp member with rfl | later
        · simp
        · have above : head.1 ≠ name := String.ne_of_lt (ascending.1 _ later)
          simpa [above] using ih ascending.2 later
  · intro found
    obtain ⟨entry, hit, rfl⟩ := Option.map_eq_some_iff.mp found
    have same : entry.1 = name := by simpa using List.find?_some hit
    exact same ▸ List.mem_of_find?_eq_some hit

end Ledger

end CallWatch
