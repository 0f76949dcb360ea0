/-
# Nothing is lost by rotating

What is written to the log goes to the end of `runtime.log`, and a rotation gives that file another
name.  With no limits on age and number nothing is ever deleted, and yet a rotation can lose a
file: one that has the new name already.  The buffers have no part in this: it is decided by the
readings of the clock and the names of the files.

* `write_done`: what one write does to the directory, with a rotation before it or without;
* `LosesNothing`: every other file is as it was, every rotation has added a file, and the rotated
  logs and the log together hold all that was ever written;
* `length_others_writeAll`: a rotation adds a file unless there is one of its name;
* `writeAll_losesNothing_iff`: nothing is lost exactly if no two rotations fall into one millisecond
  and none into that of a log that was there before.
-/
import SqlGateway.Proofs.Config.Accepted
import SqlGateway.Proofs.Log.Stamp

namespace SqlGateway.Log

/-! ## 1. Directories -/

namespace Directory

variable {d : Directory} {name other : String} {content : List UInt8}

theorem lookup_cons (n : String) (e : Entry) (rest : Directory) (other : String) :
    List.lookup other ((n, e) :: rest) = if other = n then some e else List.lookup other rest := by
  rw [List.lookup_cons]
  by_cases h : other = n
  · simp [h]
  · simp [beq_eq_false_iff_ne.mpr h, h]

theorem lookup_put (d : Directory) (name : String) (content : List UInt8) (other : String) :
    (d.put name content).lookup other =
      if other = name then some (.file content) else d.lookup other := by
  induction d with
  | nil => rw [put, lookup_cons]
  | cons entry rest ih =>
    obtain ⟨n, e⟩ := entry
    by_cases hn : n = name
    · subst hn
      rw [put, if_pos rfl, lookup_cons, lookup_cons]
      split <;> rfl
    · rw [put, if_neg hn, lookup_cons, lookup_cons, ih]
      by_cases h : other = n
      · simp [h, hn]
      · simp [h]

theorem lookup_drop (d : Directory) (name other : String) :
    (d.drop name).lookup other = if other = name then none else d.lookup other := by
  induction d with
  | nil => simp [drop]
  | cons entry rest ih =>
    obtain ⟨n, e⟩ := entry
    rw [drop] at ih ⊢
    by_cases hn : n = name
    · subst hn
      rw [List.filter_cons_of_neg (by simp), ih, lookup_cons]
      split <;> rfl
    · rw [List.filter_cons_of_pos (by simpa using hn), lookup_cons, lookup_cons, ih]
      by_cases h : other = n
      · simp [h, hn]
      · simp [h]

theorem put_put (d : Directory) (name : String) (content content' : List UInt8) :
    (d.put name content).put name content' = d.put name content' := by
  induction d with
  | nil => simp [put]
  | cons entry rest ih =>
    obtain ⟨n, e⟩ := entry
    by_cases hn : n = name
    · simp [put, hn]
    · simp [put, hn, ih]

/-- A file that is put does not show behind dropping its name. -/
theorem drop_put_self (d : Directory) (name : String) (content : List UInt8) :
    (d.put name content).drop name = d.drop name := by
  induction d with
  | nil => simp [put, drop]
  | cons entry rest ih =>
    obtain ⟨n, e⟩ := entry
    rw [drop, drop] at ih ⊢
    by_cases hn : n = name
    · simp [put, hn]
    · simp [put, hn, ih]

theorem drop_put_of_ne (h : other ≠ name) :
    (d.put name content).drop other = (d.drop other).put name content := by
  induction d with
  | nil => simp [put, drop, h.symm]
  | cons entry rest ih =>
    obtain ⟨n, e⟩ := entry
    rw [drop, drop] at ih ⊢
    by_cases hn : n = name
    · subst hn
      simp [put, h.symm]
    · by_cases ho : n = other
      · subst ho
        simp [put, hn, ih]
      · simp [put, hn, ho, ih]

theorem drop_drop_self (d : Directory) (name : String) : (d.drop name).drop name = d.drop name := by
  simp [drop]

/-- A file that is put counts unless its name was there. -/
theorem length_put (d : Directory) (name : String) (content : List UInt8) :
    (d.put name content).length = d.length + (if d.lookup name = none then 1 else 0) := by
  induction d with
  | nil => simp [put]
  | cons entry rest ih =>
    obtain ⟨n, e⟩ := entry
    by_cases hn : n = name
    · subst hn
      rw [put, if_pos rfl, lookup_cons, if_pos rfl]
      simp
    · have hn' : ¬ name = n := fun h => hn h.symm
      rw [put, if_neg hn, List.length_cons, List.length_cons, ih, lookup_cons, if_neg hn']
      omega

theorem content?_eq_some_iff :
    d.content? name = some content ↔ d.lookup name = some (.file content) := by
  unfold content?
  split <;> simp_all

theorem openFile_eq_ok_iff {d' : Directory} :
    d.openFile name = .ok d' ↔
      (∃ content, d.lookup name = some (.file content)) ∧ d' = d ∨
        d.lookup name = none ∧ d' = d.put name [] := by
  unfold openFile
  cases hlookup : d.lookup name with
  | none => simp [eq_comm]
  | some e => cases e <;> simp [eq_comm]

/-- Only a file gets another name, and nothing but a file is replaced. -/
theorem rename_eq_ok_iff {d' : Directory} :
    d.rename name other = .ok d' ↔ ∃ content, d.lookup name = some (.file content) ∧
      d.lookup other ≠ some .directory ∧ d' = (d.drop name).put other content := by
  unfold rename
  cases hname : d.lookup name with
  | none => simp
  | some e =>
    cases e with
    | directory => simp
    | file content =>
      cases hother : d.lookup other with
      | none => simp [eq_comm]
      | some e => cases e <;> simp [eq_comm]

end Directory

/-! ## 2. One write -/

/-- Rotated logs are kept for ever. -/
structure Limits.IsUnlimited (limits : Limits) : Prop where
  age : limits.maxAge = none
  backups : limits.maxBackups = none

theorem Limits.IsUnlimited.prune_eq {limits : Limits} (h : limits.IsUnlimited) (now : Moment)
    (d : Directory) : prune limits now d = (.done, d) := by
  simp only [prune, h.age, h.backups]

/-- The directory behind a rotation and a first write to the new log. -/
def Directory.rotated (d : Directory) (name : String) (current buffer : List UInt8) : Directory :=
  ((d.drop fileName).put name current).put fileName buffer

namespace Rotating

variable {log log' : Rotating} {clock : Clock} {buffer current : List UInt8}

/-- **A rotation** gives the log its new name, unless a directory has it, and begins a new log; how
it ends is for the pruning to say. -/
theorem rotate_eq (hcurrent : log.directory.lookup fileName = some (.file current))
    (clock : Clock) :
    log.rotate clock =
      if log.directory.lookup (backupName clock.renamedAt) = some .directory then
        (.failed .isDirectory, log)
      else
        let pruned := prune log.limits clock.prunedAt
          (log.directory.rotated (backupName clock.renamedAt) current [])
        (pruned.1, { log with directory := pruned.2, size := 0 }) := by
  unfold rotate
  split
  next f hrename =>
    unfold Directory.rename at hrename
    rw [hcurrent] at hrename
    split at hrename <;> simp_all
  next d hrename =>
    obtain ⟨content, hcontent, hname, rfl⟩ := Directory.rename_eq_ok_iff.mp hrename
    obtain rfl : content = current := by simpa [hcurrent] using hcontent.symm
    have hgone : ((log.directory.drop fileName).put (backupName clock.renamedAt) content).lookup
        fileName = none := by
      rw [Directory.lookup_put, if_neg (backupName_ne_fileName _).symm, Directory.lookup_drop,
        if_pos rfl]
    rw [Directory.openFile_eq_ok_iff.mpr (.inr ⟨hgone, rfl⟩), if_neg hname]
    rfl

/-- The directory behind a rotation: the log's content has the new name, and the log is empty. -/
theorem rotate_done (hlimits : log.limits.IsUnlimited)
    (hcurrent : log.directory.lookup fileName = some (.file current))
    (h : log.rotate clock = (.done, log')) :
    log' = { log with
      directory := log.directory.rotated (backupName clock.renamedAt) current []
      size := 0 } := by
  rw [rotate_eq hcurrent, hlimits.prune_eq] at h
  split at h
  next => cases h
  next => exact (Prod.mk.inj h).2.symm

/-- **A write that ends well** appends to the log, behind a rotation if there has to be one. -/
theorem write_done (hlimits : log.limits.IsUnlimited)
    (hcurrent : log.directory.lookup fileName = some (.file current))
    (h : log.write clock buffer = (.done, log')) :
    log'.limits = log.limits ∧
      log'.directory = if log.needsRotation buffer then
          log.directory.rotated (backupName clock.renamedAt) current buffer
        else log.directory.put fileName (current ++ buffer) := by
  unfold write at h
  split at h
  next hneeds =>
    cases hrotate : log.rotate clock with
    | mk ending rotated =>
      cases ending with
      | failed f => simp [hrotate] at h
      | beyondCalendar => simp [hrotate] at h
      | done =>
        simp only [hrotate] at h
        obtain rfl := rotate_done hlimits hcurrent hrotate
        obtain rfl := (Prod.mk.inj h).2
        have hempty : (log.directory.rotated (backupName clock.renamedAt) current []).content?
            fileName = some [] :=
          Directory.content?_eq_some_iff.mpr (by
            rw [Directory.rotated, Directory.lookup_put, if_pos rfl])
        refine ⟨rfl, ?_⟩
        rw [if_pos hneeds, append, Directory.append]
        simp only [hempty, List.nil_append]
        rw [Directory.rotated, Directory.put_put, Directory.rotated]
  next hfits =>
    obtain rfl := (Prod.mk.inj h).2
    refine ⟨rfl, ?_⟩
    rw [if_neg hfits, append, Directory.append]
    simp only [Directory.content?_eq_some_iff.mpr hcurrent]

/-! ## 3. Many writes -/

/-- Writes buffers one after the other, each with its readings of the clock; none if a write does
not end well.  The moments are those that logs were rotated at. -/
def writeAll (log : Rotating) : List (Clock × List UInt8) → Option (List Moment × Rotating)
  | [] => some ([], log)
  | (clock, buffer) :: more =>
    match log.write clock buffer with
    | (.done, log') =>
      (writeAll log' more).map fun (moments, last) =>
        (if log.needsRotation buffer then clock.renamedAt :: moments else moments, last)
    | _ => none

theorem writeAll_cons_eq_some_iff {more : List (Clock × List UInt8)} {moments : List Moment}
    {last : Rotating} :
    log.writeAll ((clock, buffer) :: more) = some (moments, last) ↔
      ∃ log' moments', log.write clock buffer = (.done, log') ∧
        log'.writeAll more = some (moments', last) ∧
        moments = if log.needsRotation buffer then clock.renamedAt :: moments' else moments' := by
  rw [writeAll]
  constructor
  · intro h
    cases hwrite : log.write clock buffer with
    | mk ending log' =>
      cases ending with
      | failed f => simp [hwrite] at h
      | beyondCalendar => simp [hwrite] at h
      | done =>
        simp only [hwrite] at h
        obtain ⟨⟨moments', last'⟩, hmore, heq⟩ := Option.map_eq_some_iff.mp h
        obtain ⟨rfl, rfl⟩ := Prod.mk.inj heq
        exact ⟨log', moments', rfl, hmore, rfl⟩
  · rintro ⟨log', moments', hwrite, hmore, rfl⟩
    simp only [hwrite, hmore, Option.map_some]

end Rotating

/-! ## 4. What is lost -/

/-- Between two states of the directory logs have been rotated under the given names, in order, and
buffers have been written, and nothing is lost. -/
structure LosesNothing (d : Directory) (names : List String) (buffers : List (List UInt8))
    (d' : Directory) : Prop where
  /-- Every other file is as it was, -/
  kept : ∀ name content, name ≠ fileName → d.content? name = some content →
    d'.content? name = some content
  /-- every rotation has added a file, -/
  added : (d'.drop fileName).length = (d.drop fileName).length + names.length
  /-- and the rotated logs and the log hold what the log was and what has been written since. -/
  whole : ∃ contents current,
    List.Forall₂ (fun name content => d'.content? name = some content) names contents ∧
      d'.content? fileName = some current ∧
      contents.flatten ++ current = (d.content? fileName).getD [] ++ buffers.flatten

/-- The names are different ones, and there is nothing of these names. -/
structure Fresh (d : Directory) (names : List String) : Prop where
  nodup : names.Nodup
  absent : ∀ name ∈ names, d.lookup name = none

section

variable {d d' : Directory} {name : String} {names : List String} {buffers : List (List UInt8)}
  {current buffer : List UInt8}

theorem Directory.lookup_rotated (d : Directory) (name : String) (current buffer : List UInt8)
    (other : String) :
    (d.rotated name current buffer).lookup other =
      if other = fileName then some (.file buffer)
      else if other = name then some (.file current) else d.lookup other := by
  rw [rotated, lookup_put, lookup_put, lookup_drop]
  by_cases h : other = fileName
  · simp [h]
  · simp [h]

theorem Directory.drop_rotated (d : Directory) {name : String} (current buffer : List UInt8)
    (h : name ≠ fileName) :
    (d.rotated name current buffer).drop fileName = (d.drop fileName).put name current := by
  rw [rotated, drop_put_self, drop_put_of_ne h.symm, drop_drop_self]

theorem Directory.content?_congr {d d' : Directory} {name : String}
    (h : d'.lookup name = d.lookup name) : d'.content? name = d.content? name := by
  rw [content?, content?, h]

theorem fresh_put_iff (current : List UInt8) (hnames : ∀ name ∈ names, name ≠ fileName) :
    Fresh (d.put fileName current) names ↔ Fresh d names := by
  have hlookup : ∀ name ∈ names, (d.put fileName current).lookup name = d.lookup name :=
    fun name hname => by rw [Directory.lookup_put, if_neg (hnames name hname)]
  constructor
  · exact fun h => ⟨h.nodup, fun name hname => by rw [← hlookup name hname, h.absent name hname]⟩
  · exact fun h => ⟨h.nodup, fun name hname => by rw [hlookup name hname, h.absent name hname]⟩

theorem fresh_cons_iff (current buffer : List UInt8) (hnames : ∀ name ∈ names, name ≠ fileName) :
    Fresh d (name :: names) ↔
      d.lookup name = none ∧ Fresh (d.rotated name current buffer) names := by
  have hlookup : ∀ other ∈ names, other ≠ name →
      (d.rotated name current buffer).lookup other = d.lookup other := by
    intro other hother hne
    rw [Directory.lookup_rotated, if_neg (hnames other hother), if_neg hne]
  constructor
  · rintro ⟨hnodup, habsent⟩
    obtain ⟨hname, hnodup⟩ := List.nodup_cons.mp hnodup
    refine ⟨habsent name List.mem_cons_self, hnodup, fun other hother => ?_⟩
    rw [hlookup other hother (fun heq => hname (heq ▸ hother))]
    exact habsent other (List.mem_cons_of_mem _ hother)
  · rintro ⟨habsent, hnodup, hrest⟩
    have hname : name ∉ names := by
      intro hname
      have hgone := hrest name hname
      rw [Directory.lookup_rotated, if_neg (hnames name hname), if_pos rfl] at hgone
      cases hgone
    refine ⟨List.nodup_cons.mpr ⟨hname, hnodup⟩, fun other hother => ?_⟩
    rcases List.mem_cons.mp hother with rfl | hother
    · exact habsent
    · rw [← hlookup other hother (fun heq => hname (heq ▸ hother))]
      exact hrest other hother

theorem losesNothing_nil (hcurrent : d.lookup fileName = some (.file current)) :
    LosesNothing d [] [] d := by
  have hcontent := Directory.content?_eq_some_iff.mpr hcurrent
  exact ⟨fun _ _ _ h => h, rfl, [], current, .nil, hcontent, by simp [hcontent]⟩

/-- A buffer that is appended to the log is kept if nothing is lost from then on. -/
theorem LosesNothing.append (hcurrent : d.lookup fileName = some (.file current))
    (h : LosesNothing (d.put fileName (current ++ buffer)) names buffers d') :
    LosesNothing d names (buffer :: buffers) d' := by
  obtain ⟨hkept, hadded, contents, last, hcontents, hlast, hwhole⟩ := h
  have hlookup : ∀ name, name ≠ fileName →
      (d.put fileName (current ++ buffer)).content? name = d.content? name :=
    fun name hname => Directory.content?_congr (by rw [Directory.lookup_put, if_neg hname])
  have hnow : (d.put fileName (current ++ buffer)).content? fileName = some (current ++ buffer) :=
    Directory.content?_eq_some_iff.mpr (by rw [Directory.lookup_put, if_pos rfl])
  refine ⟨fun name content hname hcontent => ?_, ?_, contents, last, hcontents, hlast, ?_⟩
  · exact hkept name content hname ((hlookup name hname).trans hcontent)
  · rw [hadded, Directory.drop_put_self]
  · rw [hwhole, hnow, Directory.content?_eq_some_iff.mpr hcurrent]
    simp

/-- A log that is rotated under a new name is kept if nothing is lost from then on. -/
theorem LosesNothing.rotate (hname : name ≠ fileName) (habsent : d.lookup name = none)
    (hcurrent : d.lookup fileName = some (.file current))
    (h : LosesNothing (d.rotated name current buffer) names buffers d') :
    LosesNothing d (name :: names) (buffer :: buffers) d' := by
  obtain ⟨hkept, hadded, contents, last, hcontents, hlast, hwhole⟩ := h
  have hrotated : (d.rotated name current buffer).content? name = some current :=
    Directory.content?_eq_some_iff.mpr (by
      rw [Directory.lookup_rotated, if_neg hname, if_pos rfl])
  have hnow : (d.rotated name current buffer).content? fileName = some buffer :=
    Directory.content?_eq_some_iff.mpr (by rw [Directory.lookup_rotated, if_pos rfl])
  refine ⟨fun other content hother hcontent => ?_, ?_, current :: contents, last,
    .cons (hkept name current hname hrotated) hcontents, hlast, ?_⟩
  · have hne : other ≠ name := by
      rintro rfl
      rw [Directory.content?_eq_some_iff, habsent] at hcontent
      cases hcontent
    refine hkept other content hother ((Directory.content?_congr ?_).trans hcontent)
    rw [Directory.lookup_rotated, if_neg hother, if_neg hne]
  · rw [hadded, Directory.drop_rotated d current buffer hname, Directory.length_put,
      Directory.lookup_drop, if_neg hname, if_pos habsent, List.length_cons]
    omega
  · rw [hnow] at hwhole
    rw [List.flatten_cons, List.append_assoc, hwhole, Directory.content?_eq_some_iff.mpr hcurrent]
    simp

end

namespace Rotating

variable {log last : Rotating} {writes : List (Clock × List UInt8)} {moments : List Moment}
  {current : List UInt8}

theorem ne_fileName_of_mem {name : String} (h : name ∈ moments.map backupName) :
    name ≠ fileName := by
  obtain ⟨m, -, rfl⟩ := List.mem_map.mp h
  exact backupName_ne_fileName m

/-- **A rotation adds a file unless there is one of its name**, so that all of them add a file each
exactly if the names are new.  The induction is on the writes. -/
theorem length_others_writeAll (hlimits : log.limits.IsUnlimited)
    (hcurrent : log.directory.lookup fileName = some (.file current))
    (h : log.writeAll writes = some (moments, last)) :
    (last.directory.drop fileName).length ≤
        (log.directory.drop fileName).length + moments.length ∧
      ((last.directory.drop fileName).length =
          (log.directory.drop fileName).length + moments.length ↔
        Fresh log.directory (moments.map backupName)) := by
  induction writes generalizing log current moments with
  | nil =>
    obtain ⟨rfl, rfl⟩ := Prod.mk.inj (Option.some.inj h)
    exact ⟨Nat.le_refl _, iff_of_true rfl ⟨List.nodup_nil, by simp⟩⟩
  | cons w more ih =>
    obtain ⟨clock, buffer⟩ := w
    obtain ⟨log', moments', hwrite, hmore, rfl⟩ := writeAll_cons_eq_some_iff.mp h
    obtain ⟨hlimits', hdirectory⟩ := write_done hlimits hcurrent hwrite
    rw [← hlimits'] at hlimits
    split at hdirectory
    next hneeds =>
      simp only [hneeds, if_true, List.map_cons, List.length_cons]
      have hname := backupName_ne_fileName clock.renamedAt
      have hopened : log'.directory.lookup fileName = some (.file buffer) := by
        rw [hdirectory, Directory.lookup_rotated, if_pos rfl]
      obtain ⟨hle, hiff⟩ := ih hlimits hopened hmore
      rw [fresh_cons_iff current buffer fun _ => ne_fileName_of_mem, ← hdirectory, ← hiff]
      rw [hdirectory, Directory.drop_rotated _ _ _ hname, Directory.length_put,
        Directory.lookup_drop, if_neg hname] at hle ⊢
      by_cases habsent : log.directory.lookup (backupName clock.renamedAt) = none
      · rw [if_pos habsent] at hle ⊢
        refine ⟨by omega, ?_⟩
        rw [and_iff_right habsent]
        omega
      · rw [if_neg habsent] at hle ⊢
        refine ⟨by omega, iff_of_false (by omega) fun h => habsent h.1⟩
    next hfits =>
      simp only [hfits]
      have hopened : log'.directory.lookup fileName = some (.file (current ++ buffer)) := by
        rw [hdirectory, Directory.lookup_put, if_pos rfl]
      obtain ⟨hle, hiff⟩ := ih hlimits hopened hmore
      rw [hdirectory, fresh_put_iff _ fun _ => ne_fileName_of_mem, Directory.drop_put_self] at hiff
      rw [hdirectory, Directory.drop_put_self] at hle
      exact ⟨hle, hiff⟩

/-- **Under new names nothing is lost.**  The induction is on the writes. -/
theorem losesNothing_writeAll (hlimits : log.limits.IsUnlimited)
    (hcurrent : log.directory.lookup fileName = some (.file current))
    (h : log.writeAll writes = some (moments, last))
    (hfresh : Fresh log.directory (moments.map backupName)) :
    LosesNothing log.directory (moments.map backupName) (writes.map (·.2)) last.directory := by
  induction writes generalizing log current moments with
  | nil =>
    obtain ⟨rfl, rfl⟩ := Prod.mk.inj (Option.some.inj h)
    exact losesNothing_nil hcurrent
  | cons w more ih =>
    obtain ⟨clock, buffer⟩ := w
    obtain ⟨log', moments', hwrite, hmore, rfl⟩ := writeAll_cons_eq_some_iff.mp h
    obtain ⟨hlimits', hdirectory⟩ := write_done hlimits hcurrent hwrite
    rw [← hlimits'] at hlimits
    split at hdirectory
    next hneeds =>
      simp only [hneeds, if_true, List.map_cons] at hfresh ⊢
      have hopened : log'.directory.lookup fileName = some (.file buffer) := by
        rw [hdirectory, Directory.lookup_rotated, if_pos rfl]
      obtain ⟨habsent, hfresh⟩ :=
        (fresh_cons_iff current buffer fun _ => ne_fileName_of_mem).mp hfresh
      rw [← hdirectory] at hfresh
      have hlost := ih hlimits hopened hmore hfresh
      rw [hdirectory] at hlost
      exact hlost.rotate (backupName_ne_fileName _) habsent hcurrent
    next hfits =>
      simp only [hfits] at hfresh ⊢
      have hopened : log'.directory.lookup fileName = some (.file (current ++ buffer)) := by
        rw [hdirectory, Directory.lookup_put, if_pos rfl]
      rw [← fresh_put_iff (current ++ buffer) fun _ => ne_fileName_of_mem,
        ← hdirectory] at hfresh
      have hlost := ih hlimits hopened hmore hfresh
      rw [hdirectory] at hlost
      exact hlost.append hcurrent

/-- An opened log is a file; apart from it the directory is as it was. -/
theorem of_start {limits : Limits} {site : Site} {d : Directory} (hsite : site.directory? = .ok d)
    (h : start limits site = .ok log) :
    log.limits = limits ∧
      ((∃ content, d.lookup fileName = some (.file content)) ∧ log.directory = d ∨
        d.lookup fileName = none ∧ log.directory = d.put fileName []) := by
  rw [start, hsite] at h
  obtain ⟨_, hd, h⟩ := bind_eq_ok_iff.mp h
  cases hd
  obtain ⟨d', hopen, h⟩ := bind_eq_ok_iff.mp h
  cases h
  exact ⟨rfl, Directory.openFile_eq_ok_iff.mp hopen⟩

end Rotating

/-- An empty log that is not there yet makes no difference. -/
theorem losesNothing_put_iff {d d' : Directory} {names : List String}
    {buffers : List (List UInt8)} (habsent : d.lookup fileName = none) :
    LosesNothing (d.put fileName []) names buffers d' ↔ LosesNothing d names buffers d' := by
  have hothers : ∀ name, name ≠ fileName → (d.put fileName []).content? name = d.content? name :=
    fun name hname => Directory.content?_congr (by rw [Directory.lookup_put, if_neg hname])
  have hempty : (d.put fileName []).content? fileName = some [] :=
    Directory.content?_eq_some_iff.mpr (by rw [Directory.lookup_put, if_pos rfl])
  have hnone : d.content? fileName = none := by rw [Directory.content?, habsent]
  have hlength : ((d.put fileName []).drop fileName).length = (d.drop fileName).length := by
    rw [Directory.drop_put_self]
  constructor
  · rintro ⟨hkept, hadded, hwhole⟩
    rw [hempty] at hwhole
    refine ⟨fun name content hname hcontent => ?_, hlength ▸ hadded, by rwa [hnone]⟩
    exact hkept name content hname ((hothers name hname).trans hcontent)
  · rintro ⟨hkept, hadded, hwhole⟩
    rw [hnone] at hwhole
    refine ⟨fun name content hname hcontent => ?_, hlength ▸ hadded, by rwa [hempty]⟩
    exact hkept name content hname ((hothers name hname).symm.trans hcontent)

namespace Rotating

/-- **Nothing is lost exactly if every rotation has a millisecond of its own.**  Let a log without
limits on age and number be opened in any directory, and let any buffers be written to it without a
fault.  Then every other file of the directory keeps its content, every rotation adds a file, and
the rotated logs and the log hold the former log and all the buffers in order, if and only if no two
rotations fall into one millisecond and none has the name of something that was in the directory. -/
theorem writeAll_losesNothing_iff {limits : Limits} {site : Site} {d : Directory}
    {log last : Rotating} {writes : List (Clock × List UInt8)} {moments : List Moment}
    (hlimits : limits.IsUnlimited) (hsite : site.directory? = .ok d)
    (hstart : start limits site = .ok log)
    (hwrites : log.writeAll writes = some (moments, last))
    (hvalid : ∀ m ∈ moments, m.time.IsValid) :
    LosesNothing d (moments.map backupName) (writes.map (·.2)) last.directory ↔
      (moments.map Moment.millisecond).Nodup ∧
        ∀ m ∈ moments, d.lookup (backupName m) = none := by
  -- names stand for milliseconds
  have hfresh : Fresh d (moments.map backupName) ↔
      (moments.map Moment.millisecond).Nodup ∧ ∀ m ∈ moments, d.lookup (backupName m) = none := by
    have hnodup : (moments.map backupName).Nodup ↔ (moments.map Moment.millisecond).Nodup := by
      rw [List.Nodup, List.Nodup, List.pairwise_map, List.pairwise_map]
      exact List.Pairwise.iff_of_mem fun hm hm' =>
        not_congr (backupName_eq_iff (hvalid _ hm) (hvalid _ hm'))
    constructor
    · exact fun h => ⟨hnodup.mp h.nodup, fun m hm => h.absent _ (List.mem_map_of_mem hm)⟩
    · rintro ⟨hmillis, habsent⟩
      refine ⟨hnodup.mpr hmillis, fun name hname => ?_⟩
      obtain ⟨m, hm, rfl⟩ := List.mem_map.mp hname
      exact habsent m hm
  rw [← hfresh]
  obtain ⟨rfl, hopened⟩ := of_start hsite hstart
  -- opening the log makes no difference
  obtain ⟨current, hcurrent, hlost, hsame⟩ : ∃ current,
      log.directory.lookup fileName = some (.file current) ∧
      (LosesNothing log.directory (moments.map backupName) (writes.map (·.2)) last.directory ↔
        LosesNothing d (moments.map backupName) (writes.map (·.2)) last.directory) ∧
      (Fresh log.directory (moments.map backupName) ↔ Fresh d (moments.map backupName)) := by
    rcases hopened with ⟨⟨content, hcontent⟩, hd⟩ | ⟨habsent, hd⟩
    · exact ⟨content, hd ▸ hcontent, by rw [hd], by rw [hd]⟩
    · refine ⟨[], by rw [hd, Directory.lookup_put, if_pos rfl], ?_, ?_⟩
      · rw [hd, losesNothing_put_iff habsent]
      · rw [hd, fresh_put_iff _ fun _ => ne_fileName_of_mem]
  rw [← hlost, ← hsame]
  constructor
  · intro h
    have hadded := h.added
    rw [List.length_map] at hadded
    exact (length_others_writeAll hlimits hcurrent hwrites).2.mp hadded
  · exact losesNothing_writeAll hlimits hcurrent hwrites

/-- A moment of some noon, so many nanoseconds after it. -/
def noon (nano : Nat) : Moment := ⟨20600, ⟨43200, nano⟩⟩

/-- The readings of the clock at that moment. -/
def clockAtNoon (nano : Nat) : Clock := ⟨noon nano, noon nano⟩

/-- Three writes, the last two at the given nanoseconds after noon. -/
def threeWrites (second third : Nat) : List (Clock × List UInt8) :=
  [(clockAtNoon 0, [97]), (clockAtNoon second, [98]), (clockAtNoon third, [99])]

/-- No log fits, so a rotation comes before every write but the first. -/
def tightLimits : Limits := ⟨0, none, none⟩

/-- The log as it is opened in an empty directory. -/
def tightLog : Rotating := ⟨tightLimits, [(fileName, .file [])], 0⟩

theorem writeAll_losesNothing_threeWrites :
    ∃ last, tightLog.writeAll (threeWrites 1000000 2000000) =
        some ([noon 1000000, noon 2000000], last) ∧
      LosesNothing [] ([noon 1000000, noon 2000000].map backupName) [[97], [98], [99]]
        last.directory := by
  have hlimits : tightLimits.IsUnlimited := ⟨rfl, rfl⟩
  have hstart : start tightLimits .nothing = .ok tightLog := by decide +kernel
  have hvalid : ∀ m ∈ [noon 1000000, noon 2000000], m.time.IsValid := by
    intro m hm
    rcases List.mem_pair.mp hm with rfl | rfl <;> exact ⟨by decide, by decide, by decide⟩
  have hwrites : tightLog.writeAll (threeWrites 1000000 2000000) =
      some ([noon 1000000, noon 2000000], ⟨tightLimits,
        [(backupName (noon 1000000), .file [97]), (backupName (noon 2000000), .file [98]),
          (fileName, .file [99])], 1⟩) := by decide +kernel
  exact ⟨_, hwrites, (writeAll_losesNothing_iff hlimits rfl hstart hwrites hvalid).mpr
    ⟨by decide, fun _ _ => rfl⟩⟩

/-- **A log that is rotated twice within a millisecond loses the first part.**  The clock goes on
between the two rotations, and there is no fault. -/
theorem writeAll_loses_within_millisecond :
    start tightLimits .nothing = .ok tightLog ∧
      ∃ last, tightLog.writeAll (threeWrites 1000000 1500000) =
          some ([noon 1000000, noon 1500000], last) ∧
        (noon 1000000).isBefore (noon 1500000) = true ∧
        ¬ LosesNothing [] ([noon 1000000, noon 1500000].map backupName) [[97], [98], [99]]
          last.directory ∧
        ∀ entry ∈ last.directory, entry.2 ≠ .file [97] := by
  have hwrites : tightLog.writeAll (threeWrites 1000000 1500000) =
      some ([noon 1000000, noon 1500000], ⟨tightLimits,
        [(backupName (noon 1000000), .file [98]), (fileName, .file [99])], 1⟩) := by decide +kernel
  refine ⟨by decide +kernel, _, hwrites, by decide, fun h => ?_, by decide⟩
  exact absurd h.added (by decide +kernel)

end Rotating

end SqlGateway.Log
