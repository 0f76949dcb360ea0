/-
# What pruning deletes

Pruning sorts the rotated logs, newest first, picks those beyond the limits, and deletes these one
after the other.  What it picks is decided before anything is deleted (`condemned`).  A directory
may have the name of a rotated log, and then it counts as one.

* `removeAll_done_iff`: deleting things of different names ends well exactly if all are files;
* `prune_eq`: without a cut-off in the calendar nothing is done, and else the condemned are deleted;
* `prune_done_iff`: pruning ends well exactly if the cut-off is in the calendar and none of the
  condemned is a directory;
* `lookup_prune`: what has not the name of a rotated log is left alone, however it ends.
-/
import SqlGateway.Proofs.Log.Rotation

namespace SqlGateway.Log

/-! ## 1. Deleting -/

/-- The names in a directory. -/
def Directory.names (d : Directory) : List String := d.map (·.1)

variable {d : Directory} {name : String} {b : Backup} {bs : List Backup} {limits : Limits}
  {now : Moment}

theorem Directory.lookup_eq_none_iff : d.lookup name = none ↔ name ∉ d.names := by
  induction d with
  | nil => simp [names]
  | cons entry rest ih =>
    obtain ⟨n, e⟩ := entry
    rw [lookup_cons]
    by_cases h : name = n
    · simp [h, names]
    · rw [if_neg h, ih]
      simp [names, h]

/-- **One deletion**: of a file, and the rest goes on, or of nothing, and that was the last. -/
theorem removeAll_cons (d : Directory) (b : Backup) (bs : List Backup) :
    (∃ content, d.lookup b.1 = some (.file content)) ∧
        removeAll d (b :: bs) = removeAll (d.drop b.1) bs ∨
      (¬ ∃ content, d.lookup b.1 = some (.file content)) ∧
        ∃ f, removeAll d (b :: bs) = (some f, d) := by
  rw [removeAll, Directory.remove]
  cases hlookup : d.lookup b.1 with
  | none => exact .inr ⟨by simp, .notFound, rfl⟩
  | some e =>
    cases e with
    | directory => exact .inr ⟨by simp, .isDirectory, rfl⟩
    | file content => exact .inl ⟨⟨content, rfl⟩, rfl⟩

/-- Deleting takes entries away, up to the first fault. -/
theorem removeAll_sublist (d : Directory) (bs : List Backup) : (removeAll d bs).2.Sublist d := by
  induction bs generalizing d with
  | nil => exact List.Sublist.refl d
  | cons b bs ih =>
    rcases removeAll_cons d b bs with ⟨-, hstep⟩ | ⟨-, f, hstep⟩
    · rw [hstep]
      exact (ih _).trans List.filter_sublist
    · rw [hstep]

theorem lookup_removeAll (h : name ∉ bs.map (·.1)) :
    (removeAll d bs).2.lookup name = d.lookup name := by
  induction bs generalizing d with
  | nil => rfl
  | cons b bs ih =>
    rw [List.map_cons] at h
    rcases removeAll_cons d b bs with ⟨-, hstep⟩ | ⟨-, f, hstep⟩
    · rw [hstep, ih (List.not_mem_of_not_mem_cons h), Directory.lookup_drop,
        if_neg (List.ne_of_not_mem_cons h)]
    · rw [hstep]

/-- **Deleting things of different names ends well exactly if all of them are files.** -/
theorem removeAll_done_iff (hnames : (bs.map (·.1)).Nodup) :
    (removeAll d bs).1 = none ↔ ∀ b ∈ bs, ∃ content, d.lookup b.1 = some (.file content) := by
  induction bs generalizing d with
  | nil => simp [removeAll]
  | cons b bs ih =>
    obtain ⟨hb, hnames⟩ := List.nodup_cons.mp hnames
    rw [List.forall_mem_cons]
    rcases removeAll_cons d b bs with ⟨hfile, hstep⟩ | ⟨hfile, f, hstep⟩
    · rw [hstep, ih hnames, and_iff_right hfile]
      refine forall₂_congr fun other hother => ?_
      -- the others are looked up as if nothing had been deleted yet
      have hmem : other.1 ∈ bs.map (·.1) := List.mem_map_of_mem hother
      have hne : other.1 ≠ b.1 := by
        intro heq
        rw [heq] at hmem
        exact hb hmem
      rw [Directory.lookup_drop, if_neg hne]
    · rw [hstep]
      exact iff_of_false (fun h => nomatch h) fun h => hfile h.1

/-! ## 2. What is condemned -/

/-- The cut-off, if there is an age limit, is a day of the calendar. -/
def Limits.HasCutoff (limits : Limits) (now : Moment) : Prop :=
  ∀ days ∈ limits.maxAge, Date.isNumber (now.day - days) = true

instance : Decidable (limits.HasCutoff now) :=
  inferInstanceAs (Decidable (∀ days ∈ limits.maxAge, Date.isNumber (now.day - days) = true))

/-- The rotated logs that pruning at the moment `now` is to delete, in the order in which it deletes
them. -/
def condemned (limits : Limits) (now : Moment) (d : Directory) : List Backup :=
  expired limits.maxBackups (limits.maxAge.bind now.daysEarlier?) 0 (newestFirst (backups d))

theorem expired_sublist (maxBackups : Option Nat) (cutoff : Option Moment) (i : Nat)
    (bs : List Backup) : (expired maxBackups cutoff i bs).Sublist bs := by
  induction bs generalizing i with
  | nil => exact List.Sublist.refl _
  | cons b bs ih =>
    rw [expired]
    split
    next => exact (ih _).cons_cons b
    next => exact (ih _).cons b

theorem expired_unlimited (i : Nat) (bs : List Backup) : expired none none i bs = [] := by
  induction bs generalizing i with
  | nil => rfl
  | cons b bs ih => exact ih (i + 1)

theorem newestFirst_perm (bs : List Backup) : (newestFirst bs).Perm bs :=
  List.mergeSort_perm bs _

theorem newestFirst_pair (a b : Backup) :
    newestFirst [a, b] = if a.2.isBefore b.2 then [b, a] else [a, b] := by
  rw [newestFirst, List.mergeSort]
  simp only [List.MergeSort.Internal.splitInTwo]
  cases h : a.2.isBefore b.2 <;> simp [h]

/-- A rotated log is whatever has such a name. -/
theorem mem_backups_iff : b ∈ backups d ↔ b.1 ∈ d.names ∧ backupMoment? b.1 = some b.2 := by
  obtain ⟨name, m⟩ := b
  simp only [backups, List.mem_filterMap, Option.map_eq_some_iff, Prod.mk.injEq, Directory.names,
    List.mem_map]
  constructor
  · rintro ⟨entry, hentry, m', hm, rfl, rfl⟩
    exact ⟨⟨entry, hentry, rfl⟩, hm⟩
  · rintro ⟨⟨entry, hentry, rfl⟩, hm⟩
    exact ⟨entry, hentry, m, hm, rfl, rfl⟩

theorem map_backups_sublist (d : Directory) : ((backups d).map (·.1)).Sublist d.names := by
  induction d with
  | nil => exact List.Sublist.refl _
  | cons entry rest ih =>
    obtain ⟨n, e⟩ := entry
    rw [backups] at ih ⊢
    cases hm : backupMoment? n with
    | none =>
      rw [List.filterMap_cons_none (by simp [hm])]
      exact ih.cons n
    | some m =>
      rw [List.filterMap_cons_some (b := (n, m)) (by simp [hm])]
      exact ih.cons_cons n

theorem nodup_condemned (h : d.names.Nodup) : ((condemned limits now d).map (·.1)).Nodup :=
  (((newestFirst_perm _).map _).nodup_iff.mpr ((map_backups_sublist d).nodup h)).sublist
    ((expired_sublist _ _ _ _).map _)

theorem mem_backups_of_condemned (h : b ∈ condemned limits now d) : b ∈ backups d :=
  (newestFirst_perm _).mem_iff.mp ((expired_sublist _ _ _ _).subset h)

theorem not_mem_condemned (h : backupMoment? name = none) :
    name ∉ (condemned limits now d).map (·.1) := by
  intro hmem
  obtain ⟨b, hb, rfl⟩ := List.mem_map.mp hmem
  rw [(mem_backups_iff.mp (mem_backups_of_condemned hb)).2] at h
  cases h

/-! ## 3. Pruning -/

/-- How deleting ends. -/
def Ending.ofFault : Option FileFault → Ending
  | none => .done
  | some f => .failed f

/-- **Pruning deletes the condemned, if the cut-off is in the calendar, and else nothing.** -/
theorem prune_eq (limits : Limits) (now : Moment) (d : Directory) :
    (limits.HasCutoff now ∧ prune limits now d =
        (.ofFault (removeAll d (condemned limits now d)).1,
          (removeAll d (condemned limits now d)).2)) ∨
      ¬ limits.HasCutoff now ∧ prune limits now d = (.beyondCalendar, d) := by
  obtain ⟨maxSize, maxAge, maxBackups⟩ := limits
  cases maxAge with
  | none =>
    refine .inl ⟨fun _ h => (nomatch h), ?_⟩
    cases maxBackups with
    | none => simp [prune, condemned, expired_unlimited, removeAll, Ending.ofFault]
    | some k =>
      simp only [prune, condemned, Option.bind_none]
      split <;> simp_all [Ending.ofFault]
  | some days =>
    by_cases hnumber : Date.isNumber (now.day - days) = true
    · refine .inl ⟨fun n hn => by cases hn; exact hnumber, ?_⟩
      simp only [prune, condemned, Option.bind_some, Moment.daysEarlier?, if_pos hnumber]
      split <;> simp_all [Ending.ofFault]
    · refine .inr ⟨fun h => hnumber (h days rfl), ?_⟩
      simp only [prune, Moment.daysEarlier?, if_neg hnumber]

theorem prune_beyondCalendar_iff :
    (prune limits now d).1 = .beyondCalendar ↔ ¬ limits.HasCutoff now := by
  rcases prune_eq limits now d with ⟨hcutoff, hprune⟩ | ⟨hcutoff, hprune⟩
  · rw [hprune]
    refine iff_of_false (fun h => ?_) (not_not.mpr hcutoff)
    cases hfault : (removeAll d (condemned limits now d)).1 <;>
      rw [hfault] at h <;> cases h
  · rw [hprune]
    exact iff_of_true rfl hcutoff

/-- **Pruning ends well exactly if the cut-off is in the calendar and only files are condemned.** -/
theorem prune_done_iff (h : d.names.Nodup) :
    (prune limits now d).1 = .done ↔ limits.HasCutoff now ∧
      ∀ b ∈ condemned limits now d, d.lookup b.1 ≠ some .directory := by
  have hfiles : (∀ b ∈ condemned limits now d, d.lookup b.1 ≠ some .directory) ↔
      ∀ b ∈ condemned limits now d, ∃ content, d.lookup b.1 = some (.file content) := by
    refine forall₂_congr fun b hb => ?_
    have hname := (mem_backups_iff.mp (mem_backups_of_condemned hb)).1
    cases hlookup : d.lookup b.1 with
    | none => exact absurd hname (Directory.lookup_eq_none_iff.mp hlookup)
    | some e => cases e <;> simp
  rcases prune_eq limits now d with ⟨hcutoff, hprune⟩ | ⟨hcutoff, hprune⟩
  · rw [hprune, hfiles, ← removeAll_done_iff (nodup_condemned h), and_iff_right hcutoff]
    cases (removeAll d (condemned limits now d)).1 <;> simp [Ending.ofFault]
  · rw [hprune]
    exact iff_of_false (fun h => nomatch h) fun h => hcutoff h.1

theorem prune_sublist (limits : Limits) (now : Moment) (d : Directory) :
    (prune limits now d).2.Sublist d := by
  rcases prune_eq limits now d with ⟨-, hprune⟩ | ⟨-, hprune⟩
  · rw [hprune]
    exact removeAll_sublist _ _
  · rw [hprune]

/-- **What has not the name of a rotated log is left alone**, however pruning ends. -/
theorem lookup_prune (h : backupMoment? name = none) :
    (prune limits now d).2.lookup name = d.lookup name := by
  rcases prune_eq limits now d with ⟨-, hprune⟩ | ⟨-, hprune⟩
  · rw [hprune]
    exact lookup_removeAll (not_mem_condemned h)
  · rw [hprune]

end SqlGateway.Log
