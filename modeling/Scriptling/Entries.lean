/-
This file keeps entries under names. An entry takes the place of an earlier one of
its name and comes last if there is none, so the names stay in the order in which
they first came.

What a session relies on is said as laws, and those leave nothing open: maps that
keep them list the same names in the same order and find the same entries, if the
same entries have been put into them. A list of entries keeps them.
-/

import Scriptling.Bytes

namespace Scriptling

/-- A map of entries that are named by a key. -/
structure OrderedMap (Store Entry : Type) (key : Entry → Name) where
  empty : Store
  /-- The names that have an entry, in the order in which they first came. -/
  names : Store → List Name
  find? : Store → Name → Option Entry
  insert : Store → Entry → Store
  names_empty : names empty = []
  find?_empty (name : Name) : find? empty name = none
  names_insert (store : Store) (entry : Entry) : names (insert store entry) =
    if key entry ∈ names store then names store else names store ++ [key entry]
  find?_insert (store : Store) (entry : Entry) (name : Name) : find? (insert store entry) name =
    if key entry = name then some entry else find? store name

/-- The laws determine what can be seen of a map. -/
theorem OrderedMap.alike_foldl {Store Other Entry : Type} {key : Entry → Name}
    (first : OrderedMap Store Entry key) (second : OrderedMap Other Entry key)
    (entries : List Entry) :
    first.names (entries.foldl first.insert first.empty) =
      second.names (entries.foldl second.insert second.empty) ∧
    ∀ name, first.find? (entries.foldl first.insert first.empty) name =
      second.find? (entries.foldl second.insert second.empty) name := by
  have further (entries : List Entry) (store : Store) (other : Other)
      (names : first.names store = second.names other)
      (finds : ∀ name, first.find? store name = second.find? other name) :
      first.names (entries.foldl first.insert store) =
        second.names (entries.foldl second.insert other) ∧
      ∀ name, first.find? (entries.foldl first.insert store) name =
        second.find? (entries.foldl second.insert other) name := by
    induction entries generalizing store other with
    | nil => exact ⟨names, finds⟩
    | cons entry rest hypothesis =>
      refine hypothesis _ _ ?_ fun name => ?_
      · rw [first.names_insert, second.names_insert, names]
      · rw [first.find?_insert, second.find?_insert, finds]
  refine further entries _ _ ?_ fun name => ?_
  · rw [first.names_empty, second.names_empty]
  · rw [first.find?_empty, second.find?_empty]

namespace Entries

variable {Entry : Type} (key : Entry → Name)

def names (entries : List Entry) : List Name :=
  entries.map key

def find? (entries : List Entry) (name : Name) : Option Entry :=
  entries.find? fun entry => key entry == name

def contains (entries : List Entry) (name : Name) : Bool :=
  entries.any fun entry => key entry == name

/-- Puts an entry in the place of the earlier one of its name, or after all others. -/
def insert (entries : List Entry) (entry : Entry) : List Entry :=
  if contains key entries (key entry) then
    entries.map fun other => if key other == key entry then entry else other
  else
    entries ++ [entry]

variable {key} {entries : List Entry} {entry other : Entry}

theorem contains_iff {name : Name} :
    contains key entries name = true ↔ name ∈ names key entries := by
  simp [contains, names]

theorem names_insert : names key (insert key entries entry) =
    if key entry ∈ names key entries then names key entries
    else names key entries ++ [key entry] := by
  unfold insert
  simp only [contains_iff]
  split
  next =>
    simp only [names, List.map_map]
    refine List.map_congr_left fun other _ => ?_
    by_cases same : key other = key entry
    · simp [same]
    · simp [same]
  next => simp [names]

theorem length_insert_le : (insert key entries entry).length ≤ entries.length + 1 := by
  unfold insert
  split
  next => simp
  next => simp

theorem mem_insert (member : other ∈ insert key entries entry) :
    other = entry ∨ other ∈ entries := by
  unfold insert at member
  split at member
  next =>
    obtain ⟨old, inside, rfl⟩ := List.mem_map.mp member
    split
    next => exact .inl rfl
    next => exact .inr inside
  next => exact (List.mem_append.mp member).symm.imp List.mem_singleton.mp id

theorem mem_insert_self : entry ∈ insert key entries entry := by
  unfold insert
  split
  next known =>
    obtain ⟨old, inside, named⟩ := List.any_eq_true.mp known
    exact List.mem_map.mpr ⟨old, inside, if_pos named⟩
  next => exact List.mem_append_right _ List.mem_cons_self

/-- No other entry is left under the name of one that has been put in. -/
theorem key_ne_of_mem_insert (member : other ∈ insert key entries entry) (apart : other ≠ entry) :
    key other ≠ key entry := by
  unfold insert at member
  split at member
  next =>
    obtain ⟨old, -, rfl⟩ := List.mem_map.mp member
    split at apart
    next => exact absurd rfl apart
    next different =>
      rw [if_neg different]
      exact fun same => different (beq_iff_eq.mpr same)
  next unknown =>
    rcases List.mem_append.mp member with old | new
    · exact fun same => unknown (List.any_eq_true.mpr ⟨other, old, beq_iff_eq.mpr same⟩)
    · exact absurd (List.mem_singleton.mp new) apart

/-- To put in the only entry of a name again changes nothing. -/
theorem insert_eq_self (known : key entry ∈ names key entries)
    (only : ∀ other ∈ entries, key other = key entry → other = entry) :
    insert key entries entry = entries := by
  have same : entries.map (fun other => if key other == key entry then entry else other) =
      entries.map id := by
    refine List.map_congr_left fun other member => ?_
    split
    next named => exact (only other member (eq_of_beq named)).symm
    next => rfl
  unfold insert
  rw [if_pos (contains_iff.mpr known), same, List.map_id]

theorem key_of_find? {name : Name} (found : find? key entries name = some entry) :
    key entry = name := by
  have named := List.find?_some found
  exact eq_of_beq named

theorem find?_insert (name : Name) : find? key (insert key entries entry) name =
    if key entry = name then some entry else find? key entries name := by
  -- An entry that is replaced is found under no other name than the one that replaces it.
  have replaced (entries : List Entry) (other : key entry ≠ name) :
      find? key (entries.map fun other => if key other == key entry then entry else other) name =
        find? key entries name := by
    induction entries with
    | nil => rfl
    | cons first rest hypothesis =>
      unfold find? at hypothesis ⊢
      rw [List.map_cons, List.find?_cons, List.find?_cons, hypothesis]
      by_cases same : key first = key entry
      · have left : (key entry == name) = false := beq_eq_false_iff_ne.mpr other
        rw [if_pos (beq_iff_eq.mpr same), same, left]
      · rw [if_neg fun equal => same (eq_of_beq equal)]
  split
  next named =>
    cases found : find? key (insert key entries entry) name with
    | none =>
      have all := List.find?_eq_none.mp found entry mem_insert_self
      exact absurd (beq_iff_eq.mpr named) all
    | some other =>
      have member := List.mem_of_find?_eq_some found
      refine congrArg some (Classical.byContradiction fun apart => ?_)
      exact key_ne_of_mem_insert member apart ((key_of_find? found).trans named.symm)
  next other =>
    unfold insert
    split
    next => exact replaced entries other
    next =>
      unfold find?
      have alone : [entry].find? (fun entry => key entry == name) = none :=
        List.find?_cons_of_neg fun same => other (eq_of_beq same)
      rw [List.find?_append, alone, Option.or_none]

/-- A list of entries is such a map. -/
def orderedMap (key : Entry → Name) : OrderedMap (List Entry) Entry key where
  empty := []
  names := names key
  find? := find? key
  insert := insert key
  names_empty := rfl
  find?_empty _ := rfl
  names_insert _ _ := names_insert
  find?_insert _ _ := find?_insert

end Entries

end Scriptling
