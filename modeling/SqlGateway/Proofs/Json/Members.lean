/-
# The members of an object

An object is built from entries whose keys may repeat: the first entry of a key gives the place, the
last one the value.  `membersOf` does this entry by entry; here is what comes out for a whole list.

* `keys_membersOf`: the keys are the distinct keys, each where it first occurs;
* `lookup_membersOf`: under a key stands the value of its last entry;
* `membersOf_perm`: the members are the last entries of all keys, in some order;
* `membersOf_of_nodup`: entries of different keys are the members as they are.

All of it is by induction on the last entry, because that is where an entry is set.
-/
import SqlGateway.Json.Basic
import Mathlib.Data.List.Induction
import Mathlib.Data.List.Nodup

namespace SqlGateway.Json

variable {α : Type} {key : String} {value : α} {members entries : List (String × α)}

/-! ## 1. One entry -/

theorem keys_setMember (members : List (String × α)) (key : String) (value : α) :
    (setMember members key value).map (·.1) =
      if key ∈ members.map (·.1) then members.map (·.1) else members.map (·.1) ++ [key] := by
  induction members with
  | nil => simp [setMember]
  | cons member rest ih =>
    obtain ⟨k, v⟩ := member
    rw [setMember]
    by_cases h : k = key
    · simp [h]
    · have hmem : key ∈ ((k, v) :: rest).map (·.1) ↔ key ∈ rest.map (·.1) := by
        simp [Ne.symm h]
      rw [if_neg h, List.map_cons, ih]
      by_cases hkey : key ∈ rest.map (·.1)
      · rw [if_pos hkey, if_pos (hmem.mpr hkey), List.map_cons]
      · rw [if_neg hkey, if_neg (fun h => hkey (hmem.mp h)), List.map_cons, List.cons_append]

theorem lookup_setMember (members : List (String × α)) (key : String) (value : α)
    (other : String) :
    (setMember members key value).lookup other =
      if other = key then some value else members.lookup other := by
  induction members with
  | nil =>
    rw [setMember, List.lookup_cons]
    by_cases hother : other = key
    · simp [hother]
    · simp [beq_eq_false_iff_ne.mpr hother, hother]
  | cons member rest ih =>
    obtain ⟨k, v⟩ := member
    rw [setMember]
    by_cases h : k = key
    · subst h
      rw [if_pos rfl, List.lookup_cons, List.lookup_cons]
      by_cases hother : other = k
      · simp [hother]
      · simp [beq_eq_false_iff_ne.mpr hother, hother]
    · rw [if_neg h, List.lookup_cons, List.lookup_cons, ih]
      by_cases hother : other = k
      · simp [hother, h]
      · simp [beq_eq_false_iff_ne.mpr hother]

/-- A new key goes to the end. -/
theorem setMember_of_not_mem (h : key ∉ members.map (·.1)) :
    setMember members key value = members ++ [(key, value)] := by
  induction members with
  | nil => rfl
  | cons member rest ih =>
    obtain ⟨k, v⟩ := member
    rw [List.map_cons] at h
    have hne : ¬ k = key := fun heq => List.ne_of_not_mem_cons h heq.symm
    rw [setMember, if_neg hne, ih (List.not_mem_of_not_mem_cons h), List.cons_append]

/-! ## 2. All entries -/

theorem membersOf_append_singleton (entries : List (String × α)) (key : String) (value : α) :
    membersOf (entries ++ [(key, value)]) = setMember (membersOf entries) key value := by
  rw [membersOf, List.foldl_append]
  rfl

/-- **The keys are the distinct keys of the entries, each where it first occurs.** -/
theorem keys_membersOf (entries : List (String × α)) :
    (membersOf entries).map (·.1) = (entries.map (·.1)).eraseDups := by
  induction entries using List.reverseRecOn with
  | nil => rfl
  | append_singleton entries entry ih =>
    obtain ⟨key, value⟩ := entry
    rw [membersOf_append_singleton, keys_setMember, ih, List.map_append, List.eraseDups_append]
    by_cases h : key ∈ entries.map (·.1)
    · rw [if_pos (List.mem_eraseDups.mpr h)]
      simp [List.removeAll, h]
    · rw [if_neg (fun hmem => h (List.mem_eraseDups.mp hmem))]
      simp [List.removeAll, List.eraseDups_cons, h]

/-- **Under a key stands the value of its last entry.** -/
theorem lookup_membersOf (entries : List (String × α)) (key : String) :
    (membersOf entries).lookup key = entries.reverse.lookup key := by
  induction entries using List.reverseRecOn with
  | nil => rfl
  | append_singleton entries entry ih =>
    obtain ⟨k, v⟩ := entry
    rw [membersOf_append_singleton, lookup_setMember, ih, List.reverse_append]
    by_cases h : key = k
    · simp [h]
    · simp [List.lookup_cons, beq_eq_false_iff_ne.mpr h, h]

theorem nodup_keys_membersOf (entries : List (String × α)) :
    ((membersOf entries).map (·.1)).Nodup := by
  induction entries using List.reverseRecOn with
  | nil => exact List.nodup_nil
  | append_singleton entries entry ih =>
    rw [membersOf_append_singleton, keys_setMember]
    by_cases h : entry.1 ∈ (membersOf entries).map (·.1)
    · rw [if_pos h]
      exact ih
    · rw [if_neg h]
      exact ih.append (List.nodup_singleton _) (List.disjoint_singleton.mpr h)

/-- **Entries of different keys are the members as they are.** -/
theorem membersOf_of_nodup (h : (entries.map (·.1)).Nodup) : membersOf entries = entries := by
  induction entries using List.reverseRecOn with
  | nil => rfl
  | append_singleton entries entry ih =>
    obtain ⟨key, value⟩ := entry
    rw [List.map_append, List.nodup_append] at h
    obtain ⟨hentries, -, hdisjoint⟩ := h
    rw [membersOf_append_singleton, ih hentries]
    refine setMember_of_not_mem fun hmem => ?_
    exact hdisjoint key hmem key (List.mem_singleton_self key) rfl

/-! ## 3. Last entries -/

/-- The entries behind which their key does not come again. -/
def lastEntries : List (String × α) → List (String × α)
  | [] => []
  | entry :: rest =>
    if entry.1 ∈ rest.map (·.1) then lastEntries rest else entry :: lastEntries rest

theorem lastEntries_sublist (entries : List (String × α)) :
    (lastEntries entries).Sublist entries := by
  induction entries with
  | nil => exact List.Sublist.refl _
  | cons entry rest ih =>
    rw [lastEntries]
    split
    next => exact ih.cons entry
    next => exact ih.cons_cons entry

theorem lastEntries_map {β : Type} (f : α → β) (entries : List (String × α)) :
    lastEntries (entries.map (Prod.map id f)) = (lastEntries entries).map (Prod.map id f) := by
  induction entries with
  | nil => rfl
  | cons entry rest ih =>
    have hkey : (Prod.map id f entry).1 = entry.1 := rfl
    have hkeys : (rest.map (Prod.map id f)).map (·.1) = rest.map (·.1) := by simp
    rw [List.map_cons, lastEntries, lastEntries, hkey, hkeys, ih]
    by_cases h : entry.1 ∈ rest.map (·.1)
    · rw [if_pos h, if_pos h]
    · rw [if_neg h, if_neg h, List.map_cons]

theorem mem_lastEntries_iff :
    (key, value) ∈ lastEntries entries ↔
      ∃ earlier later, entries = earlier ++ (key, value) :: later ∧ key ∉ later.map (·.1) := by
  induction entries with
  | nil => simp [lastEntries]
  | cons entry rest ih =>
    have hrest : (∃ earlier later, entry :: rest = earlier ++ (key, value) :: later ∧
        key ∉ later.map (·.1)) ↔
        (entry = (key, value) ∧ key ∉ rest.map (·.1)) ∨ (key, value) ∈ lastEntries rest := by
      rw [ih]
      constructor
      · rintro ⟨_ | ⟨first, earlier⟩, later, heq, hlater⟩
        · obtain ⟨rfl, rfl⟩ := List.cons.inj heq
          exact .inl ⟨rfl, hlater⟩
        · obtain ⟨rfl, rfl⟩ := List.cons.inj heq
          exact .inr ⟨earlier, later, rfl, hlater⟩
      · rintro (⟨rfl, hlater⟩ | ⟨earlier, later, rfl, hlater⟩)
        · exact ⟨[], rest, rfl, hlater⟩
        · exact ⟨entry :: earlier, later, rfl, hlater⟩
    rw [hrest, lastEntries]
    split
    next hagain =>
      refine ⟨.inr, ?_⟩
      rintro (⟨rfl, hlater⟩ | hmem)
      · exact absurd hagain hlater
      · exact hmem
    next hlast =>
      rw [List.mem_cons]
      constructor
      · rintro (rfl | hmem)
        · exact .inl ⟨rfl, hlast⟩
        · exact .inr hmem
      · rintro (⟨rfl, -⟩ | hmem)
        · exact .inl rfl
        · exact .inr hmem

theorem nodup_keys_lastEntries (entries : List (String × α)) :
    ((lastEntries entries).map (·.1)).Nodup := by
  induction entries with
  | nil => exact List.nodup_nil
  | cons entry rest ih =>
    rw [lastEntries]
    split
    next => exact ih
    next hlast =>
      rw [List.map_cons, List.nodup_cons]
      exact ⟨fun hmem => hlast (((lastEntries_sublist rest).map _).subset hmem), ih⟩

/-- Of a list whose keys are different, the look-up finds every entry. -/
theorem lookup_eq_some_iff_mem (h : (entries.map (·.1)).Nodup) :
    entries.lookup key = some value ↔ (key, value) ∈ entries := by
  rw [List.lookup_eq_some_iff]
  constructor
  · rintro ⟨earlier, later, rfl, -⟩
    exact List.mem_append_right _ List.mem_cons_self
  · intro hmem
    obtain ⟨earlier, later, rfl⟩ := List.append_of_mem hmem
    refine ⟨earlier, later, rfl, fun entry hentry => bne_iff_ne.mpr fun heq => ?_⟩
    rw [List.map_append, List.nodup_append] at h
    exact h.2.2 entry.1 (List.mem_map_of_mem hentry) key List.mem_cons_self heq.symm

theorem lookup_reverse_eq_some_iff :
    entries.reverse.lookup key = some value ↔ (key, value) ∈ lastEntries entries := by
  rw [mem_lastEntries_iff, List.lookup_eq_some_iff]
  constructor
  · rintro ⟨behind, front, heq, hbehind⟩
    refine ⟨front.reverse, behind.reverse, ?_, fun hmem => ?_⟩
    · rw [← List.reverse_inj, heq]
      simp
    · obtain ⟨entry, hentry, hkey⟩ := List.mem_map.mp hmem
      exact bne_iff_ne.mp (hbehind entry (List.mem_reverse.mp hentry)) hkey.symm
  · rintro ⟨earlier, later, rfl, hlater⟩
    refine ⟨later.reverse, earlier.reverse, by simp, fun entry hentry => bne_iff_ne.mpr ?_⟩
    rintro rfl
    exact hlater (List.mem_map_of_mem (List.mem_reverse.mp hentry))

/-- **The members are the last entries of all keys**, in some order. -/
theorem membersOf_perm (entries : List (String × α)) :
    (membersOf entries).Perm (lastEntries entries) := by
  have hmembers := nodup_keys_membersOf entries
  refine (List.perm_ext_iff_of_nodup hmembers.of_map
    (nodup_keys_lastEntries entries).of_map).mpr fun entry => ?_
  rw [← lookup_eq_some_iff_mem hmembers, lookup_membersOf, lookup_reverse_eq_some_iff]

end SqlGateway.Json
