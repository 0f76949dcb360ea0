/-
# What the log holds

The writer does not look at the log before it writes: it counts what it has written, and starts from
the length that the log had when it was opened.  As long as nothing fails the count is right, and
the log is cut between buffers only.

* `Write.tracks`: one write, with the log's length known before and after, and why it rotates;
* `InVolumes`: the log and the rotated logs are *volumes*, each made of whole pieces: what the log
  was in the beginning, and the buffers;
* `InVolumes.write`: a write adds its buffer to the last volume or begins a new one with it;
* `writeAll_tracks`: both, for every sequence of writes.

A rotated log may be deleted, or lose its name to a later one, but what is left of it is never a
part of a buffer.
-/
import SqlGateway.Proofs.Log.Retention

namespace SqlGateway.Log

/-! ## 1. One write -/

namespace Write

/-- The log holds something and has no room for the buffer. -/
def IsDue (w : Write) : Prop :=
  w.log.current ≠ [] ∧ w.log.limits.maxSize < (w.log.current ++ w.buffer).length

/-- What a write does that ends well. -/
structure Tracks (w : Write) : Prop where
  /-- The size is known before and after, -/
  before : w.log.size = w.log.current.length
  after : w.result.2.size = w.result.2.current.length
  /-- so the log is rotated when it has to be: -/
  decided : w.log.needsRotation w.buffer = true ↔ w.IsDue
  /-- the buffer goes to the end of the log if there is room, and only then, -/
  appended : w.result.2.directory = w.log.directory.put fileName (w.log.current ++ w.buffer) ↔
    ¬ w.IsDue
  /-- and else the log has a new name, rotated logs are pruned, and the buffer is all of the log. -/
  rotated : w.IsDue → w.result.2.directory = w.pruned.2.put fileName w.buffer
  /-- The log is within the limit, or it is one buffer. -/
  bounded : w.result.2.current.length ≤ w.log.limits.maxSize ∨ w.result.2.current = w.buffer

variable {w : Write}

theorem needsRotation_iff (h : w.log.IsOpen) :
    w.log.needsRotation w.buffer = true ↔ w.IsDue := by
  rw [Rotating.needsRotation, Bool.and_eq_true, decide_eq_true_iff, decide_eq_true_iff, IsDue,
    h.size, List.length_append, List.length_pos_iff]

/-- A write that ends well finds room, or it rotates the log. -/
theorem cases_of_done (h : w.log.IsOpen) (hdone : w.result.1 = .done) :
    (¬ w.IsDue ∧ w.result.2 = w.log.append w.buffer) ∨
      (w.IsDue ∧ w.pruned.1 = .done ∧ w.result.2 = w.fresh.append w.buffer) := by
  generalize hr : w.result = r at hdone ⊢
  cases result_cases h hr with
  | fits hfits =>
    refine .inl ⟨fun hdue => ?_, rfl⟩
    rw [← needsRotation_iff h, hfits] at hdue
    cases hdue
  | refused hname => cases hdone
  | rotated hrotates hend => exact .inr ⟨(needsRotation_iff h).mp hrotates.needed, hend, rfl⟩
  | spoiled hrotates hend hne => exact absurd hdone hne

theorem current_of_not_isDue (h : w.log.IsOpen) (hr : w.result.2 = w.log.append w.buffer) :
    w.result.2.current = w.log.current ++ w.buffer := by
  rw [hr]
  exact Rotating.current_eq (h.lookup_append w.buffer)

theorem current_of_isDue (hr : w.result.2 = w.fresh.append w.buffer) :
    w.result.2.current = w.buffer := by
  have hcurrent := Rotating.current_eq (w.isOpen_fresh.lookup_append w.buffer)
  rwa [← hr, w.current_fresh, List.nil_append] at hcurrent

theorem directory_of_isDue (hr : w.result.2 = w.fresh.append w.buffer) :
    w.result.2.directory = w.pruned.2.put fileName w.buffer := by
  rw [hr, w.isOpen_fresh.directory_append, w.current_fresh, List.nil_append, fresh]

/-- **A write that ends well knows the length of the log**, and rotates it exactly if it has to. -/
theorem tracks (h : w.log.IsOpen) (hdone : w.result.1 = .done) : w.Tracks := by
  have hafter := (isOpen_result h).size
  rcases cases_of_done h hdone with ⟨hroom, hr⟩ | ⟨hdue, -, hr⟩
  · have hcurrent := current_of_not_isDue h hr
    have happended : w.result.2.directory =
        w.log.directory.put fileName (w.log.current ++ w.buffer) := by
      rw [hr, h.directory_append]
    refine ⟨h.size, hafter, needsRotation_iff h, iff_of_true happended hroom,
      fun hdue => absurd hdue hroom, ?_⟩
    -- there is room, or the log was empty and is nothing but the buffer now
    by_cases hempty : w.log.current = []
    · right
      rw [hcurrent, hempty, List.nil_append]
    · left
      rw [hcurrent]
      exact not_lt.mp fun hlong => hroom ⟨hempty, hlong⟩
  · have hcurrent := current_of_isDue hr
    refine ⟨h.size, hafter, needsRotation_iff h, iff_of_false ?_ (not_not.mpr hdue),
      fun _ => directory_of_isDue hr, .inr hcurrent⟩
    intro happended
    have hlookup := (isOpen_result h).lookup
    rw [happended, Directory.lookup_put, if_pos rfl, hcurrent] at hlookup
    have hsame : w.log.current ++ w.buffer = w.buffer := by simpa using hlookup
    exact hdue.1 (List.append_left_eq_self.mp hsame)

end Write

/-! ## 2. Volumes -/

/-- A rotated log: the name that it was given, and the pieces that were written to it. -/
structure Volume where
  name : String
  pieces : List (List UInt8)

/-- What a log was when it was opened in the directory `d`, and the buffers since then, stand in
volumes: the closed ones, in order, and the log. -/
structure InVolumes (d : Directory) (buffers : List (List UInt8)) (closed : List Volume)
    (last : List (List UInt8)) (d' : Directory) : Prop where
  /-- Every piece stands whole in one volume. -/
  pieces : closed.flatMap (·.pieces) ++ last = (d.content? fileName).getD [] :: buffers
  /-- The log is the last volume, -/
  log : d'.content? fileName = some last.flatten
  /-- and any other file is one that was there already, or a closed volume. -/
  others : ∀ name content, name ≠ fileName → d'.content? name = some content →
    d.content? name = some content ∨ ∃ v ∈ closed, v.name = name ∧ v.pieces.flatten = content

/-- Taking entries away by name leaves the others to be found. -/
theorem Directory.lookup_filter (p : String → Bool) (d : Directory) (name : String) :
    List.lookup name (d.filter (p ·.1)) = if p name then d.lookup name else none := by
  induction d with
  | nil => simp
  | cons entry rest ih =>
    obtain ⟨n, e⟩ := entry
    rw [lookup_cons]
    by_cases hn : p n = true
    · rw [List.filter_cons_of_pos (by simpa using hn), lookup_cons, ih]
      by_cases heq : name = n
      · rw [if_pos heq, if_pos heq, heq, if_pos hn]
      · rw [if_neg heq, if_neg heq]
    · rw [List.filter_cons_of_neg (by simpa using hn), ih]
      by_cases heq : name = n
      · rw [if_pos heq, heq, if_neg hn, if_neg hn]
      · rw [if_neg heq]

theorem Directory.content?_put_of_ne {d : Directory} {name other : String} (h : other ≠ name)
    (content : List UInt8) : (d.put name content).content? other = d.content? other :=
  content?_congr (by rw [lookup_put, if_neg h])

/-- A file that pruning leaves is as it was. -/
theorem content?_of_prune {limits : Limits} {now : Moment} {d : Directory} {name : String}
    {content : List UInt8} (hdone : (prune limits now d).1 = .done)
    (h : (prune limits now d).2.content? name = some content) : d.content? name = some content := by
  rw [Directory.content?_eq_some_iff] at h ⊢
  rw [(prune_of_done hdone).2, Directory.lookup_filter
    fun name => name ∉ (condemned limits now d).map (·.1)] at h
  split at h
  next => exact h
  next => cases h

namespace InVolumes

variable {d : Directory} {buffers : List (List UInt8)} {closed : List Volume}
  {last : List (List UInt8)}

/-- The log as it is opened is one volume. -/
theorem opened {log : Rotating} {limits : Limits} {site : Site} (hsite : site.directory? = .ok d)
    (hstart : Rotating.start limits site = .ok log) :
    InVolumes d [] [] [(d.content? fileName).getD []] log.directory := by
  have hsame : ∀ name, name ≠ fileName → log.directory.content? name = d.content? name := by
    intro name hname
    rcases (Rotating.of_start hsite hstart).2 with ⟨-, hd⟩ | ⟨-, hd⟩
    · rw [hd]
    · rw [hd]
      exact Directory.content?_put_of_ne hname []
  refine ⟨rfl, ?_, fun name content hname h => .inl ?_⟩
  · rw [List.flatten_singleton, Directory.content?_eq_some_iff]
    rcases (Rotating.of_start hsite hstart).2 with ⟨⟨content, hcontent⟩, hd⟩ | ⟨hnone, hd⟩
    · rw [hd, Directory.content?_eq_some_iff.mpr hcontent, hcontent, Option.getD_some]
    · rw [hd, Directory.lookup_put, if_pos rfl, Directory.content?, hnone, Option.getD_none]
  · rwa [hsame name hname] at h

/-- A buffer goes to the end of the last volume. -/
theorem append {current buffer : List UInt8} {d' : Directory} (h : InVolumes d buffers closed last d')
    (hcurrent : d'.content? fileName = some current) :
    InVolumes d (buffers ++ [buffer]) closed (last ++ [buffer])
      (d'.put fileName (current ++ buffer)) := by
  obtain rfl : last.flatten = current := Option.some.inj (h.log.symm.trans hcurrent)
  refine ⟨?_, ?_, fun name content hname hcontent => ?_⟩
  · rw [← List.append_assoc, h.pieces, List.cons_append]
  · rw [Directory.content?_eq_some_iff, Directory.lookup_put, if_pos rfl, List.flatten_append,
      List.flatten_singleton]
  · rw [Directory.content?_put_of_ne hname] at hcontent
    exact h.others name content hname hcontent

/-- The last volume is closed, and a buffer begins the next one. -/
theorem rotate {current buffer : List UInt8} {d' pruned : Directory} {name : String}
    (h : InVolumes d buffers closed last d') (hcurrent : d'.content? fileName = some current)
    (hpruned : ∀ other content, pruned.content? other = some content →
      (d'.rotated name current []).content? other = some content) :
    InVolumes d (buffers ++ [buffer]) (closed ++ [⟨name, last⟩]) [buffer]
      (pruned.put fileName buffer) := by
  obtain rfl : last.flatten = current := Option.some.inj (h.log.symm.trans hcurrent)
  refine ⟨?_, ?_, fun other content hother hcontent => ?_⟩
  · rw [List.flatMap_append, List.flatMap_singleton, h.pieces, List.cons_append]
  · rw [Directory.content?_eq_some_iff, Directory.lookup_put, if_pos rfl, List.flatten_singleton]
  · rw [Directory.content?_put_of_ne hother] at hcontent
    have hrotated := hpruned other content hcontent
    rw [Directory.content?_eq_some_iff, Directory.lookup_rotated, if_neg hother] at hrotated
    split at hrotated
    next heq =>
      obtain rfl : last.flatten = content := by simpa using hrotated
      exact .inr ⟨⟨name, last⟩, List.mem_append_right _ List.mem_cons_self, heq.symm, rfl⟩
    next =>
      rcases h.others other content hother (Directory.content?_eq_some_iff.mpr hrotated) with
        hold | ⟨v, hv, hname⟩
      · exact .inl hold
      · exact .inr ⟨v, List.mem_append_left _ hv, hname⟩

/-- **A write that ends well** adds its buffer to the last volume, or closes that volume under the
new name and begins the next one. -/
theorem write {w : Write} (h : InVolumes d buffers closed last w.log.directory)
    (hopen : w.log.IsOpen) (hdone : w.result.1 = .done) :
    if w.log.needsRotation w.buffer then
      InVolumes d (buffers ++ [w.buffer]) (closed ++ [⟨backupName w.clock.renamedAt, last⟩])
        [w.buffer] w.result.2.directory
    else InVolumes d (buffers ++ [w.buffer]) closed (last ++ [w.buffer]) w.result.2.directory := by
  have hcurrent := Directory.content?_eq_some_iff.mpr hopen.lookup
  have hneeds := Write.needsRotation_iff hopen
  rcases Write.cases_of_done hopen hdone with ⟨hroom, hr⟩ | ⟨hdue, hend, hr⟩
  · rw [if_neg (mt hneeds.mp hroom), hr, hopen.directory_append]
    exact h.append hcurrent
  · rw [if_pos (hneeds.mpr hdue), Write.directory_of_isDue hr]
    exact h.rotate hcurrent fun _ _ => content?_of_prune hend

end InVolumes

/-! ## 3. Many writes -/

namespace Rotating

variable {log last : Rotating} {writes : List (Clock × List UInt8)} {moments : List Moment}

/-- Writes that all end well are a history of their own length, and none of them fails. -/
theorem history_of_writeAll (h : log.writeAll writes = some (moments, last)) :
    (log.history writes).map (fun w => (w.clock, w.buffer)) = writes ∧
      ∀ w ∈ log.history writes, w.result.1 = .done := by
  induction writes generalizing log moments with
  | nil => exact ⟨rfl, fun _ hw => nomatch hw⟩
  | cons entry more ih =>
    obtain ⟨clock, buffer⟩ := entry
    obtain ⟨log', moments', hwrite, hmore, -⟩ := writeAll_cons_eq_some_iff.mp h
    obtain ⟨hmap, hdone⟩ := ih hmore
    rw [history, hwrite]
    refine ⟨by rw [List.map_cons, hmap], fun w hw => ?_⟩
    rcases List.mem_cons.mp hw with rfl | hw
    · rw [Write.result, hwrite]
    · exact hdone w hw

/-- **All that is written stands in volumes.**  The induction is on the writes, and what has been
written before them is in volumes already. -/
theorem inVolumes_writeAll {d : Directory} {buffers : List (List UInt8)} {closed : List Volume}
    {pieces : List (List UInt8)} (hopen : log.IsOpen)
    (h : InVolumes d buffers closed pieces log.directory)
    (hwrites : log.writeAll writes = some (moments, last)) :
    ∃ later pieces', InVolumes d (buffers ++ writes.map (·.2)) (closed ++ later) pieces'
        last.directory ∧ later.map (·.name) = moments.map backupName := by
  induction writes generalizing log buffers closed pieces moments with
  | nil =>
    obtain ⟨rfl, rfl⟩ := Prod.mk.inj (Option.some.inj hwrites)
    exact ⟨[], pieces, by simpa using h, rfl⟩
  | cons entry more ih =>
    obtain ⟨clock, buffer⟩ := entry
    obtain ⟨log', moments', hwrite, hmore, rfl⟩ := writeAll_cons_eq_some_iff.mp hwrites
    have hresult : Write.result ⟨log, clock, buffer⟩ = (.done, log') := hwrite
    have hopen' : log'.IsOpen := by
      have hbehind := Write.isOpen_result (w := ⟨log, clock, buffer⟩) hopen
      rwa [hresult] at hbehind
    have hstep := h.write (w := ⟨log, clock, buffer⟩) hopen (by rw [hresult])
    rw [hresult] at hstep
    split at hstep
    next hneeds =>
      obtain ⟨later, pieces', hvolumes, hnames⟩ := ih hopen' hstep hmore
      refine ⟨⟨backupName clock.renamedAt, pieces⟩ :: later, pieces', ?_, ?_⟩
      · simpa using hvolumes
      · rw [if_pos hneeds, List.map_cons, List.map_cons, hnames]
    next hfits =>
      obtain ⟨later, pieces', hvolumes, hnames⟩ := ih hopen' hstep hmore
      refine ⟨later, pieces', ?_, ?_⟩
      · simpa using hvolumes
      · rw [if_neg hfits, hnames]

/-- **The size that is tracked is the length of the log, and no buffer is cut.**  Let a log with any
limits be opened in any directory, and let any buffers be written to it without a fault.  Then the
size is right from the beginning and behind every write; a write rotates the log exactly if it holds
something and has no room; behind a write the log is within the limit or is that one buffer; and in
the end the former log and the buffers stand, each in one piece and in order, in as many volumes as
there were rotations and in the log. -/
theorem writeAll_tracks {limits : Limits} {site : Site} {d : Directory}
    (hsite : site.directory? = .ok d) (hstart : start limits site = .ok log)
    (hwrites : log.writeAll writes = some (moments, last)) :
    (log.limits = limits ∧ log.size = log.current.length ∧
        log.current = (d.content? fileName).getD []) ∧
      ((log.history writes).map (fun w => (w.clock, w.buffer)) = writes ∧
        ∀ w ∈ log.history writes, w.log.limits = limits ∧ w.Tracks) ∧
      ∃ closed pieces, InVolumes d (writes.map (·.2)) closed pieces last.directory ∧
        closed.map (·.name) = moments.map backupName := by
  have hopen := isOpen_of_start hstart
  have hlimits := (of_start hsite hstart).1
  have hopened := InVolumes.opened hsite hstart
  obtain ⟨hmap, hdone⟩ := history_of_writeAll hwrites
  refine ⟨⟨hlimits, hopen.size, ?_⟩, ⟨hmap, fun w hw => ⟨?_, ?_⟩⟩, ?_⟩
  · have hlog := hopened.log
    rw [List.flatten_singleton, Directory.content?_eq_some_iff] at hlog
    exact current_eq hlog
  · rw [limits_of_mem_history hopen w hw, hlimits]
  · exact Write.tracks (isOpen_of_mem_history hopen w hw) (hdone w hw)
  · simpa using inVolumes_writeAll hopen hopened hwrites

/-- A log of five bytes, of which it may have four. -/
def overfull : Directory := [(fileName, .file [1, 2, 3, 4, 5])]

/-- Nothing, too much, and two bytes, one millisecond after the other, and one byte more. -/
def unevenWrites : List (Clock × List UInt8) :=
  [(clockAtNoon 0, []), (clockAtNoon 1000000, [6, 7, 8, 9, 10, 11]), (clockAtNoon 2000000, [12, 13]),
    (clockAtNoon 2000000, [14])]

/-- Even to write nothing rotates a log that is too long, and too much is written to an empty one
all the same. -/
theorem writeAll_tracks_overfull :
    ∃ log last, start ⟨4, none, none⟩ (.directory overfull) = .ok log ∧
      log.writeAll unevenWrites = some ([noon 0, noon 2000000], last) ∧
      (∀ w ∈ log.history unevenWrites, w.log.limits = ⟨4, none, none⟩ ∧ w.Tracks) ∧
      ∃ closed pieces, InVolumes overfull [[], [6, 7, 8, 9, 10, 11], [12, 13], [14]] closed pieces
          last.directory ∧
        closed.map (·.name) = [noon 0, noon 2000000].map backupName := by
  have hstart : start ⟨4, none, none⟩ (.directory overfull) =
      .ok ⟨⟨4, none, none⟩, overfull, 5⟩ := rfl
  have hwrites : Rotating.writeAll ⟨⟨4, none, none⟩, overfull, 5⟩ unevenWrites =
      some ([noon 0, noon 2000000], ⟨⟨4, none, none⟩,
        [(backupName (noon 0), .file [1, 2, 3, 4, 5]),
          (backupName (noon 2000000), .file [6, 7, 8, 9, 10, 11]),
          (fileName, .file [12, 13, 14])], 3⟩) := by decide +kernel
  obtain ⟨-, ⟨-, hhistory⟩, hvolumes⟩ := writeAll_tracks rfl hstart hwrites
  exact ⟨_, _, hstart, hwrites, hhistory, hvolumes⟩

end Rotating

end SqlGateway.Log
