/-
# When a write to the log fails

A write that has to rotate the log renames it, begins a new one, and prunes, and only then is the
buffer appended.  A fault of the pruning comes too late to be harmless: the log has its new name by
then, and the buffer is not written at all.  A new name that a directory has is a fault too, but
one that comes before anything is done.

* `Write.result_cases`: the four ways that a write takes;
* `isOpen_of_mem_history`: in every state that writes lead to, whether they fail or not, the log is
  a file and its size is known;
* `Write.allOrNothing_iff`: a write is all or nothing unless its pruning does not end well;
* `history_allOrNothing_iff`: all writes of a history are all or nothing exactly if no pruning meets
  a directory or leaves the calendar;
* `history_never_beyondCalendar_iff`: no write leaves the calendar exactly if, whenever the log is
  rotated, the calendar reaches back as far as the age limit.
-/
import SqlGateway.Proofs.Log.Pruning
import Mathlib.Data.List.Nodup

namespace SqlGateway.Log

/-! ## 1. Names -/

/-- The log does not count as a rotated one. -/
theorem backupMoment?_fileName : backupMoment? fileName = none := by decide +kernel

namespace Directory

variable {d : Directory} {name : String} {content : List UInt8}

theorem names_put (d : Directory) (name : String) (content : List UInt8) :
    (d.put name content).names = if name ∈ d.names then d.names else d.names ++ [name] := by
  induction d with
  | nil => simp [put, names]
  | cons entry rest ih =>
    obtain ⟨n, e⟩ := entry
    by_cases hn : n = name
    · simp [put, names, hn]
    · have hmem : name ∈ names ((n, e) :: rest) ↔ name ∈ names rest := by
        simp [names, Ne.symm hn]
      rw [put, if_neg hn]
      change n :: (put rest name content).names = _
      rw [ih, if_congr hmem rfl rfl]
      split <;> rfl

theorem nodup_names_put (h : d.names.Nodup) : (d.put name content).names.Nodup := by
  rw [names_put]
  split
  next => exact h
  next hname =>
    rw [← List.concat_eq_append]
    exact h.concat hname

theorem nodup_names_rotated (h : d.names.Nodup) (name : String) (current buffer : List UInt8) :
    (d.rotated name current buffer).names.Nodup :=
  nodup_names_put (nodup_names_put (h.sublist (List.filter_sublist.map _)))

end Directory

/-! ## 2. The open log -/

namespace Rotating

/-- What the log holds. -/
def current (log : Rotating) : List UInt8 := (log.directory.content? fileName).getD []

/-- The log is a file of the size that the writer thinks it has. -/
structure IsOpen (log : Rotating) : Prop where
  lookup : log.directory.lookup fileName = some (.file log.current)
  size : log.size = log.current.length

variable {log : Rotating} {content buffer : List UInt8}

theorem current_eq (h : log.directory.lookup fileName = some (.file content)) :
    log.current = content := by
  rw [current, Directory.content?_eq_some_iff.mpr h, Option.getD_some]

theorem isOpen_of_lookup (h : log.directory.lookup fileName = some (.file content))
    (hsize : log.size = content.length) : log.IsOpen := by
  obtain rfl := current_eq h
  exact ⟨h, hsize⟩

theorem isOpen_of_start {limits : Limits} {site : Site} (h : start limits site = .ok log) :
    log.IsOpen := by
  obtain ⟨d, -, h⟩ := bind_eq_ok_iff.mp h
  obtain ⟨d', hopen, h⟩ := bind_eq_ok_iff.mp h
  cases h
  have hfile : ∃ content, d'.lookup fileName = some (.file content) := by
    rcases Directory.openFile_eq_ok_iff.mp hopen with ⟨hfile, rfl⟩ | ⟨-, rfl⟩
    · exact hfile
    · exact ⟨[], by rw [Directory.lookup_put, if_pos rfl]⟩
  obtain ⟨content, hcontent⟩ := hfile
  refine isOpen_of_lookup hcontent ?_
  rw [Directory.content?_eq_some_iff.mpr hcontent, Option.getD_some]

theorem IsOpen.directory_append (h : log.IsOpen) (buffer : List UInt8) :
    (log.append buffer).directory = log.directory.put fileName (log.current ++ buffer) := by
  rw [append, Directory.append]
  simp only [Directory.content?_eq_some_iff.mpr h.lookup]

theorem IsOpen.lookup_append (h : log.IsOpen) (buffer : List UInt8) :
    (log.append buffer).directory.lookup fileName = some (.file (log.current ++ buffer)) := by
  rw [h.directory_append, Directory.lookup_put, if_pos rfl]

theorem IsOpen.append (h : log.IsOpen) (buffer : List UInt8) : (log.append buffer).IsOpen :=
  isOpen_of_lookup (h.lookup_append buffer)
    (by rw [Rotating.append, h.size, List.length_append])

/-- Only a log that holds something is rotated. -/
theorem IsOpen.current_ne_nil (h : log.IsOpen) (hneeds : log.needsRotation buffer = true) :
    log.current ≠ [] := by
  have hpos : 0 < log.size := by
    rw [needsRotation, Bool.and_eq_true, decide_eq_true_eq] at hneeds
    exact hneeds.1
  rw [h.size] at hpos
  exact List.ne_nil_of_length_pos hpos

end Rotating

/-! ## 3. One write -/

/-- A write: the log before it, what the clock reads, and what is to be written. -/
structure Write where
  log : Rotating
  clock : Clock
  buffer : List UInt8

namespace Write

/-- How a write ends, and the log behind it. -/
def result (w : Write) : Ending × Rotating := w.log.write w.clock w.buffer

/-- The log has to be rotated, and no directory has its new name. -/
structure Rotates (w : Write) : Prop where
  needed : w.log.needsRotation w.buffer = true
  possible : w.log.directory.lookup (backupName w.clock.renamedAt) ≠ some .directory

instance (w : Write) : Decidable w.Rotates :=
  decidable_of_iff (w.log.needsRotation w.buffer = true ∧
    w.log.directory.lookup (backupName w.clock.renamedAt) ≠ some .directory)
    ⟨fun h => ⟨h.1, h.2⟩, fun h => ⟨h.1, h.2⟩⟩

/-- The directory behind a rotation, before it is pruned. -/
def rotated (w : Write) : Directory :=
  w.log.directory.rotated (backupName w.clock.renamedAt) w.log.current []

/-- How the pruning of a rotation ends, and what it leaves. -/
def pruned (w : Write) : Ending × Directory := prune w.log.limits w.clock.prunedAt w.rotated

/-- The log behind a rotation. -/
def fresh (w : Write) : Rotating := { w.log with directory := w.pruned.2, size := 0 }

variable {w : Write}

/-- However pruning ends, the log behind a rotation is there, and empty. -/
theorem lookup_fresh (w : Write) : w.fresh.directory.lookup fileName = some (.file []) := by
  rw [fresh, pruned, lookup_prune backupMoment?_fileName, rotated, Directory.lookup_rotated,
    if_pos rfl]

theorem isOpen_fresh (w : Write) : w.fresh.IsOpen := Rotating.isOpen_of_lookup w.lookup_fresh rfl

theorem current_fresh (w : Write) : w.fresh.current = [] := Rotating.current_eq w.lookup_fresh

/-- The four ways that a write takes. -/
inductive Result (w : Write) : Ending × Rotating → Prop where
  /-- The buffer fits. -/
  | fits : w.log.needsRotation w.buffer = false → Result w (.done, w.log.append w.buffer)
  /-- A directory has the new name. -/
  | refused : w.log.directory.lookup (backupName w.clock.renamedAt) = some .directory →
      Result w (.failed .isDirectory, w.log)
  /-- The log is rotated. -/
  | rotated : w.Rotates → w.pruned.1 = .done → Result w (.done, w.fresh.append w.buffer)
  /-- The log is rotated, and pruning does not end well. -/
  | spoiled {ending : Ending} : w.Rotates → w.pruned.1 = ending → ending ≠ .done →
      Result w (ending, w.fresh)

theorem rotate_of_rotates (h : w.log.IsOpen) (hrotates : w.Rotates) :
    w.log.rotate w.clock = (w.pruned.1, w.fresh) := by
  rw [Rotating.rotate_eq h.lookup, if_neg hrotates.possible]
  rfl

theorem result_cases (h : w.log.IsOpen) {r : Ending × Rotating} (hr : w.result = r) :
    w.Result r := by
  subst hr
  rw [result, Rotating.write]
  split
  next hneeds =>
    by_cases hname : w.log.directory.lookup (backupName w.clock.renamedAt) = some .directory
    · rw [Rotating.rotate_eq h.lookup, if_pos hname]
      exact .refused hname
    · have hrotates : w.Rotates := ⟨hneeds, hname⟩
      rw [rotate_of_rotates h hrotates]
      cases hend : w.pruned.1 with
      | done => exact .rotated hrotates hend
      | failed f => exact .spoiled hrotates hend (by simp)
      | beyondCalendar => exact .spoiled hrotates hend (by simp)
  next hfits => exact .fits (Bool.eq_false_iff.mpr hfits)

theorem not_rotates_of_fits (hfits : w.log.needsRotation w.buffer = false) : ¬ w.Rotates := by
  intro hrotates
  rw [hrotates.needed] at hfits
  cases hfits

theorem not_rotates_of_refused
    (hname : w.log.directory.lookup (backupName w.clock.renamedAt) = some .directory) :
    ¬ w.Rotates :=
  fun hrotates => hrotates.possible hname

theorem result_of_spoiled (h : w.log.IsOpen) (hrotates : w.Rotates) (hend : w.pruned.1 ≠ .done) :
    w.result = (w.pruned.1, w.fresh) := by
  generalize hr : w.result = r
  cases result_cases h hr with
  | fits hfits => exact absurd hrotates (not_rotates_of_fits hfits)
  | refused hname => exact absurd hrotates (not_rotates_of_refused hname)
  | rotated _ hdone => exact absurd hdone hend
  | spoiled _ heq => rw [heq]

theorem limits_result (h : w.log.IsOpen) : w.result.2.limits = w.log.limits := by
  generalize hr : w.result = r
  cases result_cases h hr <;> rfl

theorem isOpen_result (h : w.log.IsOpen) : w.result.2.IsOpen := by
  generalize hr : w.result = r
  cases result_cases h hr with
  | fits => exact h.append w.buffer
  | refused => exact h
  | rotated => exact w.isOpen_fresh.append w.buffer
  | spoiled => exact w.isOpen_fresh

theorem nodup_names_result (h : w.log.IsOpen) (hnames : w.log.directory.names.Nodup) :
    w.result.2.directory.names.Nodup := by
  have hfresh : w.fresh.directory.names.Nodup :=
    (Directory.nodup_names_rotated hnames _ _ _).sublist ((prune_sublist _ _ _).map _)
  generalize hr : w.result = r
  cases result_cases h hr with
  | fits =>
    rw [h.directory_append]
    exact Directory.nodup_names_put hnames
  | refused => exact hnames
  | rotated =>
    rw [w.isOpen_fresh.directory_append]
    exact Directory.nodup_names_put hfresh
  | spoiled => exact hfresh

/-- **A write leaves the calendar exactly if the log is rotated and there is no cut-off.** -/
theorem beyondCalendar_iff (h : w.log.IsOpen) :
    w.result.1 = .beyondCalendar ↔
      w.Rotates ∧ ¬ w.log.limits.HasCutoff w.clock.prunedAt := by
  have hpruned : w.pruned.1 = .beyondCalendar ↔ ¬ w.log.limits.HasCutoff w.clock.prunedAt :=
    prune_beyondCalendar_iff
  rw [← hpruned]
  generalize hr : w.result = r
  cases result_cases h hr with
  | fits hfits =>
    exact iff_of_false (fun hend => nomatch hend) fun h => not_rotates_of_fits hfits h.1
  | refused hname =>
    exact iff_of_false (fun hend => nomatch hend) fun h => not_rotates_of_refused hname h.1
  | rotated _ hend =>
    rw [hend]
    exact iff_of_false (fun hend => nomatch hend) fun hend => nomatch hend.2
  | spoiled hrotates hend =>
    rw [hend]
    exact (and_iff_right hrotates).symm

/-! ## 4. All or nothing -/

/-- A write appends the buffer to the log, which a rotation has emptied, or it fails, and neither
the log nor any rotated log has changed. -/
inductive AllOrNothing (w : Write) : Prop where
  | all : w.result.1 = .done →
      w.result.2.current =
        (if w.log.needsRotation w.buffer then [] else w.log.current) ++ w.buffer →
      AllOrNothing w
  | nothing (f : FileFault) : w.result.1 = .failed f →
      (∀ name, name = fileName ∨ (backupMoment? name).isSome →
        w.result.2.directory.lookup name = w.log.directory.lookup name) →
      AllOrNothing w

/-- A rotation whose pruning does not end well has emptied the log. -/
theorem not_allOrNothing_of_spoiled (h : w.log.IsOpen) (hrotates : w.Rotates)
    (hend : w.pruned.1 ≠ .done) : ¬ w.AllOrNothing := by
  have hresult := result_of_spoiled h hrotates hend
  intro hw
  cases hw with
  | all hdone _ =>
    rw [hresult] at hdone
    exact hend hdone
  | nothing f _ hsame =>
    have hlookup := hsame fileName (.inl rfl)
    rw [hresult, lookup_fresh, h.lookup] at hlookup
    have hcurrent : [] = w.log.current := by simpa using hlookup
    exact h.current_ne_nil hrotates.needed hcurrent.symm

/-- **A write is all or nothing** unless the log is rotated and the pruning then leaves the calendar
or is to delete a directory. -/
theorem allOrNothing_iff (h : w.log.IsOpen) (hnames : w.log.directory.names.Nodup) :
    w.AllOrNothing ↔ (w.Rotates → w.log.limits.HasCutoff w.clock.prunedAt ∧
      ∀ b ∈ condemned w.log.limits w.clock.prunedAt w.rotated,
        w.rotated.lookup b.1 ≠ some .directory) := by
  have hpruned : w.pruned.1 = .done ↔ w.log.limits.HasCutoff w.clock.prunedAt ∧
      ∀ b ∈ condemned w.log.limits w.clock.prunedAt w.rotated,
        w.rotated.lookup b.1 ≠ some .directory :=
    prune_done_iff (Directory.nodup_names_rotated hnames _ _ _)
  rw [← hpruned]
  cases hr : w.result with
  | mk ending log =>
    cases result_cases h hr with
    | fits hfits =>
      refine iff_of_true (.all (by rw [hr]) ?_) fun h => absurd h (not_rotates_of_fits hfits)
      rw [hr, hfits]
      exact Rotating.current_eq (h.lookup_append w.buffer)
    | refused hname =>
      exact iff_of_true (.nothing .isDirectory (by rw [hr]) fun _ _ => by rw [hr]) fun h =>
        absurd h (not_rotates_of_refused hname)
    | rotated hrotates hend =>
      -- the log is empty by now, so the buffer is all that it holds
      refine iff_of_true (.all (by rw [hr]) ?_) fun _ => hend
      rw [hr, hrotates.needed, if_pos rfl, ← w.current_fresh]
      exact Rotating.current_eq (w.isOpen_fresh.lookup_append w.buffer)
    | spoiled hrotates hend hne =>
      rw [← hend] at hne
      exact iff_of_false (not_allOrNothing_of_spoiled h hrotates hne) fun h => hne (h hrotates)

end Write

/-! ## 5. Histories -/

namespace Rotating

variable {log : Rotating} {writes : List (Clock × List UInt8)}

/-- The writes of buffers, one after the other.  A write that fails does not keep the next one from
being tried; only one that leaves the calendar is the last. -/
def history (log : Rotating) : List (Clock × List UInt8) → List Write
  | [] => []
  | (clock, buffer) :: more =>
    ⟨log, clock, buffer⟩ ::
      match log.write clock buffer with
      | (.beyondCalendar, _) => []
      | (.done, log') => history log' more
      | (.failed _, log') => history log' more

theorem mem_history_singleton {clock : Clock} {buffer : List UInt8} {w : Write} :
    w ∈ log.history [(clock, buffer)] ↔ w = ⟨log, clock, buffer⟩ := by
  have hhistory : log.history [(clock, buffer)] = [⟨log, clock, buffer⟩] := by
    rw [history]
    split <;> rfl
  rw [hhistory, List.mem_singleton]

/-- What holds of the log that is opened, and behind every write if it holds before, holds before
all writes of a history.  The induction is on what is written, over all logs. -/
theorem forall_mem_history {P : Rotating → Prop} (hlog : P log)
    (hwrite : ∀ w : Write, P w.log → P w.result.2) :
    ∀ w ∈ log.history writes, P w.log := by
  induction writes generalizing log with
  | nil => exact fun _ h => nomatch h
  | cons entry more ih =>
    obtain ⟨clock, buffer⟩ := entry
    intro w hw
    rw [history] at hw
    rcases List.mem_cons.mp hw with rfl | hw
    · exact hlog
    · have hnext := hwrite ⟨log, clock, buffer⟩ hlog
      unfold Write.result at hnext
      split at hw
      next => cases hw
      next log' h => exact ih (by rwa [h] at hnext) w hw
      next log' h => exact ih (by rwa [h] at hnext) w hw

theorem mem_of_mem_history {w : Write} (h : w ∈ log.history writes) :
    (w.clock, w.buffer) ∈ writes := by
  induction writes generalizing log with
  | nil => cases h
  | cons entry more ih =>
    obtain ⟨clock, buffer⟩ := entry
    rw [history] at h
    rcases List.mem_cons.mp h with rfl | h
    · exact List.mem_cons_self
    · split at h
      next => cases h
      next => exact List.mem_cons_of_mem _ (ih h)
      next => exact List.mem_cons_of_mem _ (ih h)

/-- A step may as well rely on the log being open. -/
theorem forall_mem_history_of_isOpen {P : Rotating → Prop} (h : log.IsOpen) (hlog : P log)
    (hwrite : ∀ w : Write, w.log.IsOpen → P w.log → P w.result.2) :
    ∀ w ∈ log.history writes, P w.log := by
  have hboth : ∀ w ∈ log.history writes, w.log.IsOpen ∧ P w.log :=
    forall_mem_history (P := fun l => l.IsOpen ∧ P l) ⟨h, hlog⟩ fun w hw =>
      ⟨Write.isOpen_result hw.1, hwrite w hw.1 hw.2⟩
  exact fun w hw => (hboth w hw).2

theorem isOpen_of_mem_history (h : log.IsOpen) : ∀ w ∈ log.history writes, w.log.IsOpen :=
  forall_mem_history h fun _ => Write.isOpen_result

theorem limits_of_mem_history (h : log.IsOpen) :
    ∀ w ∈ log.history writes, w.log.limits = log.limits :=
  forall_mem_history_of_isOpen (P := fun l => l.limits = log.limits) h rfl fun _ hw hlimits =>
    (Write.limits_result hw).trans hlimits

theorem nodup_names_of_mem_history (h : log.IsOpen) (hnames : log.directory.names.Nodup) :
    ∀ w ∈ log.history writes, w.log.directory.names.Nodup :=
  forall_mem_history_of_isOpen (P := fun l => l.directory.names.Nodup) h hnames fun _ =>
    Write.nodup_names_result

/-- **All writes are all or nothing exactly if no pruning meets a directory or leaves the
calendar.**  Let a log with any limits be opened in any directory, and let any buffers be written to
it, faults or not. -/
theorem history_allOrNothing_iff {limits : Limits} {site : Site} {d : Directory}
    (hsite : site.directory? = .ok d) (hnames : d.names.Nodup)
    (hstart : start limits site = .ok log) (writes : List (Clock × List UInt8)) :
    (∀ w ∈ log.history writes, w.AllOrNothing) ↔
      ∀ w ∈ log.history writes, w.Rotates → limits.HasCutoff w.clock.prunedAt ∧
        ∀ b ∈ condemned limits w.clock.prunedAt w.rotated,
          w.rotated.lookup b.1 ≠ some .directory := by
  have hopen := isOpen_of_start hstart
  obtain ⟨rfl, hdirectory⟩ := of_start hsite hstart
  have hopened : log.directory.names.Nodup := by
    rcases hdirectory with ⟨-, hd⟩ | ⟨-, hd⟩
    · rwa [hd]
    · rw [hd]
      exact Directory.nodup_names_put hnames
  refine forall₂_congr fun w hw => ?_
  rw [← limits_of_mem_history hopen w hw]
  exact Write.allOrNothing_iff (isOpen_of_mem_history hopen w hw)
    (nodup_names_of_mem_history hopen hopened w hw)

/-- A directory of the name of a log that was rotated in the given year. -/
def namesake (year : String) : String × Entry :=
  ("runtime-" ++ year ++ "-01-01T00-00-00.000.log", .directory)

/-- A log of one byte, which is all it may have, with room for one rotated log, next to a directory
of the name of one. -/
def besideNamesake (year : String) : Rotating :=
  ⟨⟨1, some 30, some 1⟩, [(fileName, .file [97]), namesake year], 1⟩

/-- What is kept may be a directory. -/
theorem history_allOrNothing_newest :
    start ⟨1, some 30, some 1⟩ (.directory (besideNamesake "2030").directory) =
        .ok (besideNamesake "2030") ∧
      ∀ w ∈ (besideNamesake "2030").history [(clockAtNoon 0, [98])],
        w.Rotates ∧ w.AllOrNothing := by
  have hstart : start ⟨1, some 30, some 1⟩ (.directory (besideNamesake "2030").directory) =
      .ok (besideNamesake "2030") := rfl
  refine ⟨hstart, fun w hw => ⟨?_, ?_⟩⟩
  · obtain rfl := mem_history_singleton.mp hw
    decide +kernel
  · refine (history_allOrNothing_iff rfl (by decide +kernel) hstart _).mpr ?_ w hw
    intro w hw _
    obtain rfl := mem_history_singleton.mp hw
    refine ⟨by decide +kernel, ?_⟩
    have hbackups : backups (Write.rotated ⟨besideNamesake "2030", clockAtNoon 0, [98]⟩) =
        [((namesake "2030").1, ⟨21915, ⟨0, 0⟩⟩), (backupName (noon 0), noon 0)] := by
      decide +kernel
    rw [condemned, hbackups, newestFirst_pair]
    decide +kernel

/-- **A directory that counts as an old rotated log costs the buffer.**  The log is rotated and
empty, and the buffer is in no file. -/
theorem history_loses_buffer :
    start ⟨1, some 30, some 1⟩ (.directory (besideNamesake "2020").directory) =
        .ok (besideNamesake "2020") ∧
      ∃ w ∈ (besideNamesake "2020").history [(clockAtNoon 0, [98])],
        w.result.1 = .failed .isDirectory ∧ w.log.current = [97] ∧ w.result.2.current = [] ∧
          (∀ entry ∈ w.result.2.directory, entry.2 ≠ .file [98]) ∧ ¬ w.AllOrNothing := by
  refine ⟨rfl, ⟨besideNamesake "2020", clockAtNoon 0, [98]⟩, mem_history_singleton.mpr rfl, ?_⟩
  generalize hw : (⟨besideNamesake "2020", clockAtNoon 0, [98]⟩ : Write) = w
  have hopen : w.log.IsOpen := by subst hw; exact isOpen_of_lookup rfl rfl
  have hrotates : w.Rotates := by subst hw; decide +kernel
  have hpruned : w.pruned = (.failed .isDirectory, w.rotated) := by
    have hbackups : backups w.rotated =
        [((namesake "2020").1, ⟨18262, ⟨0, 0⟩⟩), (backupName (noon 0), noon 0)] := by
      subst hw
      decide +kernel
    rw [Write.pruned, prune]
    simp only [hbackups, newestFirst_pair]
    subst hw
    decide +kernel
  have hend : w.pruned.1 ≠ .done := by simp [hpruned]
  rw [Write.result_of_spoiled hopen hrotates hend]
  refine ⟨by rw [hpruned], by subst hw; rfl, w.current_fresh, ?_,
    Write.not_allOrNothing_of_spoiled hopen hrotates hend⟩
  rw [Write.fresh, hpruned]
  subst hw
  decide +kernel

end Rotating

/-! ## 6. The calendar -/

/-- **Between the days that the calendar reaches back and the days that can be counted lie the ages
without a cut-off.** -/
theorem Limits.hasCutoff_ofConfig_iff {config : Config.Log} {now : Moment}
    (hnow : Date.isNumber now.day = true) :
    (ofConfig config).HasCutoff now ↔
      ∀ days ∈ config.maxAgeDays, days ≤ maxAgeDays → (days : Int) ≤ now.day - Date.minNumber := by
  have hlast : now.day ≤ Date.maxNumber := by
    rw [Date.isNumber, Bool.and_eq_true, decide_eq_true_eq, decide_eq_true_eq] at hnow
    exact hnow.2
  have hnumber : ∀ days : Nat, Date.isNumber (now.day - days) = true ↔
      (days : Int) ≤ now.day - Date.minNumber := by
    intro days
    rw [Date.isNumber, Bool.and_eq_true, decide_eq_true_eq, decide_eq_true_eq]
    omega
  rw [HasCutoff, ofConfig]
  simp only [hnumber, Option.mem_def, Option.filter_eq_some_iff, decide_eq_true_eq, and_imp]

namespace Rotating

/-- **No write leaves the calendar exactly if, whenever the log is rotated, the calendar reaches
back as far as the age limit.**  Let a log be opened as a configuration says, whatever is there, and
let any buffers be written to it at any days of the calendar. -/
theorem history_never_beyondCalendar_iff {config : Config.Log} {site : Site}
    {log : Rotating} (hstart : start (Limits.ofConfig config) site = .ok log)
    {writes : List (Clock × List UInt8)}
    (hdays : ∀ entry ∈ writes, Date.isNumber entry.1.prunedAt.day = true) :
    (∀ w ∈ log.history writes, w.result.1 ≠ .beyondCalendar) ↔
      ∀ w ∈ log.history writes, w.Rotates → ∀ days ∈ config.maxAgeDays, days ≤ maxAgeDays →
        (days : Int) ≤ w.clock.prunedAt.day - Date.minNumber := by
  have hopen := isOpen_of_start hstart
  obtain ⟨d, hsite, -⟩ := bind_eq_ok_iff.mp hstart
  have hlimits : log.limits = Limits.ofConfig config := (of_start hsite hstart).1
  refine forall₂_congr fun w hw => ?_
  have hnow : Date.isNumber w.clock.prunedAt.day = true := hdays _ (mem_of_mem_history hw)
  rw [Ne, Write.beyondCalendar_iff (isOpen_of_mem_history hopen w hw), not_and, not_not,
    limits_of_mem_history hopen w hw, hlimits, Limits.hasCutoff_ofConfig_iff hnow]

/-- A configuration as it is read: one megabyte, and so many days. -/
def configOfAge (days : Nat) : Config.Log :=
  Config.RawLog.complete ⟨none, none, some 1, some days, none⟩

/-- A log of one megabyte, opened as such a configuration says. -/
def fullLog (days : Nat) : Rotating :=
  ⟨Limits.ofConfig (configOfAge days), [(fileName, .file (List.replicate 0x100000 97))], 0x100000⟩

theorem start_of_file (limits : Limits) (content : List UInt8) :
    start limits (.directory [(fileName, .file content)]) =
      .ok ⟨limits, [(fileName, .file content)], content.length⟩ := rfl

theorem start_fullLog (days : Nat) :
    start (Limits.ofConfig (configOfAge days)) (.directory (fullLog days).directory) =
      .ok (fullLog days) := by
  rw [fullLog, start_of_file, List.length_replicate]

theorem rotates_fullLog (days : Nat) : Write.Rotates ⟨fullLog days, clockAtNoon 0, [98]⟩ := by
  refine ⟨?_, ?_⟩
  · have hsize : (Limits.ofConfig (configOfAge days)).maxSize = 0x100000 := by
      change min ((Config.nonZero (some 1)).getD Config.defaultLogSizeMb * 0x100000) _ = _
      decide +kernel
    rw [needsRotation, fullLog, hsize]
    rfl
  · rw [fullLog, Directory.lookup_cons, if_neg (backupName_ne_fileName _)]
    exact fun h => nomatch h

/-- The calendar reaches back thirty days. -/
theorem history_never_beyondCalendar_month :
    start (Limits.ofConfig (configOfAge 30)) (.directory (fullLog 30).directory) =
        .ok (fullLog 30) ∧
      ∀ w ∈ (fullLog 30).history [(clockAtNoon 0, [98])],
        w.Rotates ∧ w.result.1 ≠ .beyondCalendar := by
  refine ⟨start_fullLog 30, fun w hw => ⟨?_, ?_⟩⟩
  · obtain rfl := mem_history_singleton.mp hw
    exact rotates_fullLog 30
  · refine (history_never_beyondCalendar_iff (start_fullLog 30) (by decide)).mpr ?_ w hw
    intro w hw _
    obtain rfl := mem_history_singleton.mp hw
    decide +kernel

/-- **The longest age that is a limit leaves the calendar** as soon as the log is rotated. -/
theorem history_beyondCalendar_longestAge :
    start (Limits.ofConfig (configOfAge 106751991167))
        (.directory (fullLog 106751991167).directory) = .ok (fullLog 106751991167) ∧
      ∃ w ∈ (fullLog 106751991167).history [(clockAtNoon 0, [98])],
        w.result.1 = .beyondCalendar := by
  have hcutoff : ¬ (Limits.ofConfig (configOfAge 106751991167)).HasCutoff (noon 0) := by
    decide +kernel
  have hopen := isOpen_of_start (start_fullLog 106751991167)
  have hrotates := rotates_fullLog 106751991167
  exact ⟨start_fullLog _, _, mem_history_singleton.mpr rfl,
    (Write.beyondCalendar_iff (w := ⟨_, _, _⟩) hopen).mpr ⟨hrotates, hcutoff⟩⟩

end Rotating

end SqlGateway.Log
