/-
# What pruning keeps

Of the rotated logs pruning keeps the newest: as many as the limit on number allows, and none from
before the cut-off.  It goes by the place in the sorted list and by the age, so two logs of one
moment may be told apart by nothing but the order in which the directory lists them.  A log is
never deleted for its number unless as many others are at least as new, and these may be the same
that are deleted for their age.

* `mem_condemned_iff`: a rotated log is condemned for the number of those before it or for its age;
* `removeAll_done`: deleting that ends well takes away the entries of these names and no others;
* `mem_backups_prune_iff`: the rotated logs that remain are those that were not condemned;
* `prune_retains_newest`: what remains, and why the rest does not.
-/
import SqlGateway.Proofs.Log.Failure

namespace SqlGateway

/-! ## 1. The order -/

theorem Moment.isBefore_iff {a b : Moment} : a.isBefore b = true ↔ a.rank < b.rank :=
  decide_eq_true_iff

theorem Moment.isBefore_eq_false_iff {a b : Moment} :
    a.isBefore b = false ↔ b.rank ≤ a.rank := by
  rw [Moment.isBefore, decide_eq_false_iff_not, not_lt]

namespace Log

variable {d : Directory} {name : String} {b b' : Backup} {bs : List Backup} {limits : Limits}
  {now : Moment} {maxBackups : Option Nat} {cutoff : Option Moment} {i : Nat}

/-- No rotated log is older than one that comes after it. -/
theorem pairwise_newestFirst (bs : List Backup) :
    (newestFirst bs).Pairwise fun a b => a.2.isBefore b.2 = false := by
  have hsorted : (newestFirst bs).Pairwise fun a b => (!a.2.isBefore b.2) = true := by
    refine List.pairwise_mergeSort ?_ ?_ bs
    · intro a b c hab hbc
      rw [Bool.not_eq_true', Moment.isBefore_eq_false_iff] at hab hbc ⊢
      exact hbc.trans hab
    · intro a b
      rw [Bool.or_eq_true, Bool.not_eq_true', Bool.not_eq_true', Moment.isBefore_eq_false_iff,
        Moment.isBefore_eq_false_iff]
      exact Int.le_total _ _
  exact hsorted.imp fun h => (Bool.not_eq_true' _).mp h

theorem not_older_of_newestFirst {earlier later : List Backup}
    (h : newestFirst bs = earlier ++ b :: later) : ∀ a ∈ earlier, a.2.isBefore b.2 = false := by
  have hsorted := pairwise_newestFirst bs
  rw [h, List.pairwise_append] at hsorted
  exact fun a ha => hsorted.2.2 a ha b List.mem_cons_self

/-! ## 2. Who is condemned -/

/-- A rotated log that has `i` others before it is beyond the limits. -/
def Beyond (maxBackups : Option Nat) (cutoff : Option Moment) (i : Nat) (b : Backup) : Prop :=
  (∃ k ∈ maxBackups, k ≤ i) ∨ ∃ m ∈ cutoff, b.2.isBefore m = true

theorem mem_expired_cons : b ∈ expired maxBackups cutoff i (b' :: bs) ↔
    b = b' ∧ Beyond maxBackups cutoff i b' ∨ b ∈ expired maxBackups cutoff (i + 1) bs := by
  have hbeyond : (maxBackups.any (· ≤ i) || cutoff.any b'.2.isBefore) = true ↔
      Beyond maxBackups cutoff i b' := by
    cases maxBackups <;> cases cutoff <;> simp [Beyond]
  rw [expired]
  split
  next h => rw [List.mem_cons, and_iff_left (hbeyond.mp h)]
  next h => rw [or_iff_right fun h' => h (hbeyond.mpr h'.2)]

/-- **A rotated log is picked for the number of those before it or for its age.** -/
theorem mem_expired_iff : b ∈ expired maxBackups cutoff i bs ↔
    ∃ earlier later, bs = earlier ++ b :: later ∧
      Beyond maxBackups cutoff (i + earlier.length) b := by
  induction bs generalizing i with
  | nil => simp [expired]
  | cons b' bs ih =>
    rw [mem_expired_cons, ih]
    constructor
    · rintro (⟨rfl, hbeyond⟩ | ⟨earlier, later, rfl, hbeyond⟩)
      · exact ⟨[], bs, rfl, hbeyond⟩
      · refine ⟨b' :: earlier, later, rfl, ?_⟩
        rwa [List.length_cons, ← Nat.add_assoc, Nat.add_right_comm]
    · rintro ⟨earlier, later, heq, hbeyond⟩
      cases earlier with
      | nil =>
        obtain ⟨rfl, -⟩ := List.cons.inj heq
        exact .inl ⟨rfl, hbeyond⟩
      | cons first earlier =>
        obtain ⟨-, rfl⟩ := List.cons.inj heq
        refine .inr ⟨earlier, later, rfl, ?_⟩
        rwa [List.length_cons, ← Nat.add_assoc, Nat.add_right_comm] at hbeyond

/-- The cut-off that the age limit sets. -/
def Limits.cutoff? (limits : Limits) (now : Moment) : Option Moment :=
  limits.maxAge.bind now.daysEarlier?

theorem mem_condemned_iff : b ∈ condemned limits now d ↔
    ∃ earlier later, newestFirst (backups d) = earlier ++ b :: later ∧
      Beyond limits.maxBackups (limits.cutoff? now) earlier.length b := by
  rw [condemned, mem_expired_iff]
  simp only [Nat.zero_add, Limits.cutoff?]

/-- Who is behind the first logs is condemned. -/
theorem mem_condemned_of_mem_drop {k : Nat} (hk : k ∈ limits.maxBackups)
    (h : b ∈ (newestFirst (backups d)).drop k) : b ∈ condemned limits now d := by
  obtain ⟨between, later, heq⟩ := List.append_of_mem h
  refine mem_condemned_iff.mpr ⟨(newestFirst (backups d)).take k ++ between, later, ?_, ?_⟩
  · rw [List.append_assoc, ← heq, List.take_append_drop]
  · have hlength : k < (newestFirst (backups d)).length := by
      by_contra hle
      rw [List.drop_eq_nil_of_le (not_lt.mp hle)] at h
      exact List.not_mem_nil h
    refine .inl ⟨k, hk, ?_⟩
    rw [List.length_append, List.length_take]
    omega

/-- Who is from before the cut-off is condemned. -/
theorem mem_condemned_of_isBefore {m : Moment} (hm : m ∈ limits.cutoff? now)
    (hb : b ∈ backups d) (h : b.2.isBefore m = true) : b ∈ condemned limits now d := by
  obtain ⟨earlier, later, heq⟩ := List.append_of_mem ((newestFirst_perm _).mem_iff.mpr hb)
  exact mem_condemned_iff.mpr ⟨earlier, later, heq, .inr ⟨m, hm, h⟩⟩

/-- **Whoever is older than a condemned log is condemned too.** -/
theorem mem_condemned_of_older (hb : b ∈ condemned limits now d) (hb' : b' ∈ backups d)
    (h : b'.2.isBefore b.2 = true) : b' ∈ condemned limits now d := by
  obtain ⟨earlier, later, heq, hbeyond⟩ := mem_condemned_iff.mp hb
  rcases hbeyond with ⟨k, hk, hle⟩ | ⟨m, hm, hbefore⟩
  -- the older one comes behind in the sorted list, where the number is too great already
  · have hmem : b' ∈ earlier ++ b :: later := heq ▸ (newestFirst_perm _).mem_iff.mpr hb'
    rcases List.mem_append.mp hmem with hmem | hmem
    · cases (not_older_of_newestFirst heq b' hmem).symm.trans h
    rcases List.mem_cons.mp hmem with rfl | hmem
    · exact hb
    obtain ⟨between, behind, rfl⟩ := List.append_of_mem hmem
    refine mem_condemned_iff.mpr ⟨earlier ++ b :: between, behind, ?_, .inl ⟨k, hk, ?_⟩⟩
    · rw [heq, List.append_assoc, List.cons_append]
    · rw [List.length_append]
      exact hle.trans (Nat.le_add_right _ _)
  · refine mem_condemned_of_isBefore hm hb' (Moment.isBefore_iff.mpr ?_)
    exact (Moment.isBefore_iff.mp h).trans (Moment.isBefore_iff.mp hbefore)

/-- **Nobody is condemned for the number** unless so many others are at least as new. -/
theorem le_countP_of_mem_condemned (hnames : d.names.Nodup) (hb : b ∈ condemned limits now d) :
    (∃ m ∈ limits.cutoff? now, b.2.isBefore m = true) ∨ ∃ k ∈ limits.maxBackups,
      k ≤ (backups d).countP fun other => other.1 != b.1 && !other.2.isBefore b.2 := by
  obtain ⟨earlier, later, heq, ⟨k, hk, hle⟩ | hbefore⟩ := mem_condemned_iff.mp hb
  · refine .inr ⟨k, hk, hle.trans ?_⟩
    have hdistinct : (newestFirst (backups d)).Pairwise fun a b => a.1 ≠ b.1 :=
      List.pairwise_map.mp (((newestFirst_perm _).map _).nodup_iff.mpr
        ((map_backups_sublist d).nodup hnames))
    rw [heq, List.pairwise_append] at hdistinct
    have hearlier : ∀ a ∈ earlier, (a.1 != b.1 && !a.2.isBefore b.2) = true := by
      intro a ha
      rw [Bool.and_eq_true, bne_iff_ne, Bool.not_eq_true']
      exact ⟨hdistinct.2.2 a ha b List.mem_cons_self, not_older_of_newestFirst heq a ha⟩
    rw [← (newestFirst_perm (backups d)).countP_eq, heq, List.countP_append,
      List.countP_eq_length.mpr hearlier]
    exact Nat.le_add_right _ _
  · exact .inl hbefore

/-! ## 3. Who remains -/

/-- **Deleting that ends well takes away the entries of these names** and no others. -/
theorem removeAll_of_done (h : (removeAll d bs).1 = none) :
    (removeAll d bs).2 = d.filter fun entry => entry.1 ∉ bs.map (·.1) := by
  induction bs generalizing d with
  | nil => simp [removeAll]
  | cons b bs ih =>
    rcases removeAll_cons d b bs with ⟨-, hstep⟩ | ⟨-, f, hstep⟩
    · rw [hstep] at h ⊢
      rw [ih h, Directory.drop, List.filter_filter]
      refine List.filter_congr fun entry _ => ?_
      rw [List.map_cons, Bool.eq_iff_iff, Bool.and_eq_true, decide_eq_true_iff, bne_iff_ne,
        decide_eq_true_iff, List.mem_cons, not_or, and_comm]
    · rw [hstep] at h
      cases h

theorem backups_filter (p : String → Bool) (d : Directory) :
    backups (d.filter (p ·.1)) = (backups d).filter (p ·.1) := by
  rw [backups, backups, List.filterMap_filter, List.filter_filterMap]
  refine List.filterMap_congr fun entry _ => ?_
  obtain ⟨name, e⟩ := entry
  cases hp : p name with
  | true => cases hm : backupMoment? name <;> simp [Option.filter, hp, hm]
  | false => cases hm : backupMoment? name <;> simp [Option.filter, hp, hm]

/-- Condemned are rotated logs, and those by name. -/
theorem mem_map_condemned_iff (hb : b ∈ backups d) :
    b.1 ∈ (condemned limits now d).map (·.1) ↔ b ∈ condemned limits now d := by
  refine ⟨fun h => ?_, List.mem_map_of_mem⟩
  obtain ⟨b', hb', hname⟩ := List.mem_map.mp h
  have hmoment := (mem_backups_iff.mp (mem_backups_of_condemned hb')).2
  have hsame : b' = b := by
    rw [hname, (mem_backups_iff.mp hb).2] at hmoment
    exact Prod.ext hname (Option.some.inj hmoment).symm
  exact hsame ▸ hb'

/-- What a prune that ends well leaves of the directory. -/
theorem prune_of_done (h : (prune limits now d).1 = .done) :
    limits.HasCutoff now ∧ (prune limits now d).2 =
      d.filter fun entry => entry.1 ∉ (condemned limits now d).map (·.1) := by
  rcases prune_eq limits now d with ⟨hcutoff, hprune⟩ | ⟨-, hprune⟩
  · refine ⟨hcutoff, ?_⟩
    rw [hprune] at h ⊢
    refine removeAll_of_done ?_
    cases hfault : (removeAll d (condemned limits now d)).1 with
    | none => rfl
    | some f =>
      rw [hfault] at h
      cases h
  · rw [hprune] at h
    cases h

/-- **The rotated logs that remain are those that were not condemned.** -/
theorem backups_prune_of_done (h : (prune limits now d).1 = .done) :
    backups (prune limits now d).2 =
      (backups d).filter fun b => b ∉ condemned limits now d := by
  rw [(prune_of_done h).2, backups_filter fun name => name ∉ (condemned limits now d).map (·.1)]
  refine List.filter_congr fun b hb => ?_
  rw [decide_eq_decide, mem_map_condemned_iff hb]

theorem length_backups_prune_le {k : Nat} (hk : k ∈ limits.maxBackups)
    (h : (prune limits now d).1 = .done) : (backups (prune limits now d).2).length ≤ k := by
  have hnone : ((newestFirst (backups d)).drop k).filter (· ∉ condemned limits now d) = [] := by
    refine List.filter_eq_nil_iff.mpr fun b hb => ?_
    simpa using mem_condemned_of_mem_drop hk hb
  calc (backups (prune limits now d).2).length
    _ = ((newestFirst (backups d)).filter (· ∉ condemned limits now d)).length := by
        rw [backups_prune_of_done h, ((newestFirst_perm (backups d)).filter _).length_eq]
    _ = (((newestFirst (backups d)).take k).filter (· ∉ condemned limits now d)).length := by
        conv_lhs => rw [← List.take_append_drop k (newestFirst (backups d))]
        rw [List.filter_append, hnone, List.append_nil]
    _ ≤ ((newestFirst (backups d)).take k).length := List.length_filter_le _ _
    _ ≤ k := List.length_take_le k _

/-! ## 4. Pruning -/

/-- What a prune that ends well at the moment `now` makes of a directory. -/
structure Retains (limits : Limits) (now : Moment) (d d' : Directory) : Prop where
  /-- Nothing is new, -/
  sublist : d'.Sublist d
  /-- and what has not the name of a rotated log is as it was. -/
  others : ∀ name, backupMoment? name = none → d'.lookup name = d.lookup name
  log : d'.lookup fileName = d.lookup fileName
  /-- There are no more rotated logs than the limit on number allows, -/
  number : ∀ k ∈ limits.maxBackups, (backups d').length ≤ k
  /-- and none from before the cut-off of the age limit. -/
  age : ∀ days ∈ limits.maxAge, ∃ cutoff, now.daysEarlier? days = some cutoff ∧
    ∀ b ∈ backups d', b.2.isBefore cutoff = false
  /-- Those that remain are at least as new as those that do not. -/
  newest : ∀ b ∈ backups d, b ∉ backups d' → ∀ b' ∈ backups d', b'.2.isBefore b.2 = false
  /-- Those that do not are from before the cut-off, or as many others as are allowed are at least
  as new. -/
  needed : ∀ b ∈ backups d, b ∉ backups d' →
    (∃ cutoff ∈ limits.cutoff? now, b.2.isBefore cutoff = true) ∨
      ∃ k ∈ limits.maxBackups,
        k ≤ (backups d).countP fun other => other.1 != b.1 && !other.2.isBefore b.2
  /-- Without limits everything remains. -/
  unlimited : limits.maxAge = none → limits.maxBackups = none → d' = d

/-- **Pruning keeps the newest rotated logs** and touches nothing else. -/
theorem prune_retains_newest (limits : Limits) (now : Moment) (d : Directory)
    (hnames : d.names.Nodup) (h : (prune limits now d).1 = .done) :
    Retains limits now d (prune limits now d).2 := by
  have hmem : ∀ b, b ∈ backups (prune limits now d).2 ↔
      b ∈ backups d ∧ b ∉ condemned limits now d := by
    intro b
    rw [backups_prune_of_done h, List.mem_filter, decide_eq_true_iff]
  have hcondemned : ∀ b ∈ backups d, b ∉ backups (prune limits now d).2 →
      b ∈ condemned limits now d := by
    intro b hb hgone
    rw [hmem, not_and_not_right] at hgone
    exact hgone hb
  refine ⟨prune_sublist limits now d, fun name => lookup_prune, lookup_prune backupMoment?_fileName,
    fun k hk => length_backups_prune_le hk h, ?_, ?_, ?_, ?_⟩
  · intro days hdays
    have hnumber := (prune_of_done h).1 days hdays
    refine ⟨{ now with day := now.day - days }, if_pos hnumber, fun b hb => ?_⟩
    rw [hmem] at hb
    refine Bool.eq_false_iff.mpr fun hbefore => hb.2 (mem_condemned_of_isBefore ?_ hb.1 hbefore)
    rw [Limits.cutoff?, hdays]
    exact if_pos hnumber
  · intro b hb hgone b' hb'
    rw [hmem] at hb'
    refine Bool.eq_false_iff.mpr fun holder => hb'.2 ?_
    exact mem_condemned_of_older (hcondemned b hb hgone) hb'.1 holder
  · intro b hb hgone
    exact le_countP_of_mem_condemned hnames (hcondemned b hb hgone)
  · intro hage hnumber
    simp [prune, hage, hnumber]

/-- A log, three rotated ones, and something else. -/
def crowded : Directory :=
  [("notes.txt", .file [1]), ("runtime-2026-05-26T12-00-00.000.log", .file [2]),
    (fileName, .file [3]), ("runtime-2026-05-27T11-00-00.000.log", .file [4]),
    ("runtime-2026-05-17T11-00-00.000.log", .file [5])]

open Rotating in
theorem prune_retains_newest_crowded :
    (backups crowded).length = 3 ∧
      Retains ⟨1, some 7, some 1⟩ (noon 0) crowded (prune ⟨1, some 7, some 1⟩ (noon 0) crowded).2 ∧
      (backups (prune ⟨1, some 7, some 1⟩ (noon 0) crowded).2).length ≤ 1 := by
  have hnames : crowded.names.Nodup := by decide +kernel
  have hdone : (prune ⟨1, some 7, some 1⟩ (noon 0) crowded).1 = .done := by
    refine (prune_done_iff hnames).mpr ⟨by decide +kernel, fun b _ => ?_⟩
    simp only [crowded, Directory.lookup_cons]
    split_ifs <;> simp
  have hretains := prune_retains_newest ⟨1, some 7, some 1⟩ (noon 0) crowded hnames hdone
  exact ⟨by decide +kernel, hretains, hretains.number 1 rfl⟩

end Log

end SqlGateway
