/-
# The layout of a statement

What a template becomes is decided before any value is looked at.  All that counts of a field is
its *shape*: absent, one value, or a list of some length.  Shapes alone give the *layout* of the
statement, text with *slots* in it, and a slot names the place in the fields whose value is bound
there.  `layout` takes shapes and not fields, so no value can reach the text.

* `compile_of_layout`: compiling is laying the text out and then filling the slots;
* `compile_marked`: in both marker styles the statement is the same literal texts with markers
  between them, and the arguments are the values of the markers' slots in order;
* `compile_sameShape`: fields of one shape give one SQL text, and the arguments come from the same
  slots.
-/
import SqlGateway.Proofs.Template.Occurrence

namespace SqlGateway

/-! ## 1. Shapes and slots -/

/-- What the compiler sees of a field. -/
inductive Shape where
  /-- Not given, or null. -/
  | absent
  /-- One value. -/
  | scalar
  /-- A list of that many values. -/
  | list (length : Nat)
deriving DecidableEq, Repr

/-- The shape of a field value; none is given by an absent field. -/
def Shape.of : Option FieldValue → Shape
  | none => absent
  | some (.scalar _) => scalar
  | some (.list items) => list items.length

/-- A place in the fields of a request: a field of one value, or an item of a list. -/
structure Slot where
  name : String
  item : Option Nat
deriving DecidableEq, Repr

namespace Fields

/-- The shape of a field. -/
def shape (f : Fields) (name : String) : Shape := Shape.of (f.present? name)

/-- The value at a place. -/
def valueAt? (f : Fields) (slot : Slot) : Option Scalar :=
  match f.present? slot.name, slot.item with
  | some (.scalar v), none => some v
  | some (.list items), some i => items[i]?
  | _, _ => none

/-- Fields whose declared names have the same shapes. -/
def SameShape (f g : Fields) (declared : List String) : Prop :=
  ∀ name ∈ declared, f.shape name = g.shape name

instance (f g : Fields) (declared : List String) : Decidable (SameShape f g declared) :=
  inferInstanceAs (Decidable (∀ name ∈ declared, f.shape name = g.shape name))

theorem shape_eq_absent_iff {f : Fields} {name : String} :
    f.shape name = .absent ↔ f.isPresent name = false := by
  unfold shape isPresent
  cases f.present? name with
  | none => simp [Shape.of]
  | some value => cases value <;> simp [Shape.of]

theorem SameShape.isPresent_eq {f g : Fields} {declared : List String}
    (h : SameShape f g declared) {name : String} (hn : name ∈ declared) :
    f.isPresent name = g.isPresent name := by
  have hiff : f.isPresent name = false ↔ g.isPresent name = false := by
    rw [← shape_eq_absent_iff, ← shape_eq_absent_iff, h name hn]
  cases hf : f.isPresent name <;> cases hg : g.isPresent name <;> simp_all

end Fields

namespace Template

/-! ## 2. Glyphs -/

/-- A character of the statement, or a marker with the slot it stands for. -/
inductive Glyph where
  | char (c : Char)
  | marker (slot : Slot)
deriving DecidableEq, Repr

/-- What the placeholder of a field of that shape becomes. -/
def glyphsOf (name : String) : Shape → List Glyph
  | .absent => []
  | .scalar => [.marker ⟨name, none⟩]
  | .list n =>
    .char '(' :: ((List.range n).map fun i => .marker ⟨name, some i⟩).intersperse (.char ',') ++
      [.char ')']

/-- The glyph with its slot filled from the fields. -/
def Glyph.fill (fields : Fields) : Glyph → Chunk
  | char c => .char c
  | marker slot => .bound ((fields.valueAt? slot).getD .null)

theorem commaSeparated_eq_intersperse (items : List Scalar) :
    commaSeparated items = (items.map .bound).intersperse (.char ',') := by
  fun_induction commaSeparated items with
  | case1 => rfl
  | case2 v => rfl
  | case3 v w rest ih => simp [ih]

theorem map_intersperse {α β : Type} (f : α → β) (sep : α) (l : List α) :
    (l.intersperse sep).map f = (l.map f).intersperse (f sep) := by
  match l with
  | [] => rfl
  | [a] => rfl
  | a :: b :: rest => simp [map_intersperse f sep (b :: rest)]

theorem mem_of_mem_intersperse {α : Type} {x sep : α} {l : List α} (h : x ∈ l.intersperse sep) :
    x = sep ∨ x ∈ l := by
  match l with
  | [] => simp at h
  | [a] => exact Or.inr h
  | a :: b :: rest =>
    rw [List.intersperse_cons_cons] at h
    rcases List.mem_cons.mp h with rfl | h
    · exact Or.inr List.mem_cons_self
    · rcases List.mem_cons.mp h with rfl | h
      · exact Or.inl rfl
      · exact (mem_of_mem_intersperse h).imp_right (List.mem_cons_of_mem _)

theorem mem_glyphsOf_list {name : String} {n : Nat} {g : Glyph}
    (h : g ∈ glyphsOf name (.list n)) :
    g ∈ ['(', ',', ')'].map Glyph.char ∨ ∃ i < n, g = .marker ⟨name, some i⟩ := by
  simp only [glyphsOf, List.cons_append, List.mem_cons, List.mem_append, List.not_mem_nil,
    or_false] at h
  rcases h with rfl | h | rfl
  · simp
  · rcases mem_of_mem_intersperse h with rfl | h
    · simp
    · obtain ⟨i, hi, rfl⟩ := List.mem_map.mp h
      exact Or.inr ⟨i, List.mem_range.mp hi, rfl⟩
  · simp

/-- The chunks of a value are the glyphs of its shape, filled. -/
theorem chunksOf_eq_map_fill {fields : Fields} {name : String} {value : FieldValue}
    (h : fields.present? name = some value) :
    chunksOf value = (glyphsOf name (fields.shape name)).map (Glyph.fill fields) := by
  rw [Fields.shape, h]
  cases value with
  | scalar v => simp [Shape.of, glyphsOf, Glyph.fill, Fields.valueAt?, chunksOf, h]
  | list items =>
    have hitems : items.map Chunk.bound =
        ((List.range items.length).map fun i => Glyph.marker ⟨name, some i⟩).map
          (Glyph.fill fields) := by
      refine List.ext_getElem (by simp) ?_
      intro i hi _
      have hi : i < items.length := by simpa using hi
      simp [Glyph.fill, Fields.valueAt?, h, hi]
    simp only [chunksOf, Shape.of, glyphsOf, commaSeparated_eq_intersperse, hitems, List.map_append,
      List.map_cons, map_intersperse, List.map_nil]
    rfl

/-! ## 3. Segments -/

/-- A stretch of the template and what became of it. -/
inductive Segment where
  /-- Stands in the statement as it stood in the template. -/
  | copied (text : List Char)
  /-- The marker of a block that stays. -/
  | dropped (text : List Char)
  /-- The placeholder of a field of that shape. -/
  | placeholder (name : String) (shape : Shape)
deriving DecidableEq, Repr

namespace Segment

/-- The stretch of the template. -/
def source : Segment → List Char
  | copied text => text
  | dropped text => text
  | placeholder name _ => tokenText .placeholder name.toList

/-- What stands in the statement for it. -/
def glyphs : Segment → List Glyph
  | copied text => text.map .char
  | dropped _ => []
  | placeholder name shape => glyphsOf name shape

/-- What is dropped is a marker of a declared block that stays, and markers are written only for a
declared name with a present field, in the shape of that field. -/
def Fits (fields : Fields) (declared : List String) : Segment → Prop
  | copied _ => True
  | dropped text => ∃ kind name, kind ≠ TokenKind.placeholder ∧ name ∈ declared ∧
      fields.isPresent name = true ∧ text = tokenText kind name.toList
  | placeholder name shape =>
    name ∈ declared ∧ fields.isPresent name = true ∧ shape = fields.shape name

end Segment

/-- What becomes of one piece. -/
def layoutPiece (shapes : String → Shape) (declared : List String) :
    Piece → Except MissingParam Segment
  | .char c => .ok (.copied [c])
  | .token t =>
    if t.name ∈ declared then
      match t.kind, shapes t.name with
      | .placeholder, .absent => .error ⟨t.name⟩
      | .placeholder, shape => .ok (.placeholder t.name shape)
      | _, .absent => .ok (.copied t.text)
      | _, _ => .ok (.dropped t.text)
    else .ok (.copied t.text)

/-- What becomes of the pieces, from left to right. -/
def layout (shapes : String → Shape) (declared : List String) :
    List Piece → Except MissingParam (List Segment)
  | [] => .ok []
  | p :: ps => do
    let segment ← layoutPiece shapes declared p
    return segment :: (← layout shapes declared ps)

section

variable {fields : Fields} {declared : List String}

theorem substitutePiece_eq_map_layoutPiece (p : Piece) :
    substitutePiece fields declared p = (layoutPiece fields.shape declared p).map fun segment =>
      segment.glyphs.map (Glyph.fill fields) := by
  have hcopied : ∀ cs : List Char, cs.map Chunk.char =
      ((cs.map Glyph.char).map (Glyph.fill fields)) := by simp [Glyph.fill]
  cases p with
  | char c => rfl
  | token t =>
    rw [substitutePiece, layoutPiece]
    by_cases hdeclared : t.name ∈ declared
    · simp only [hdeclared, if_true]
      cases hvalue : fields.present? t.name with
      | none =>
        have hshape : fields.shape t.name = .absent := by rw [Fields.shape, hvalue]; rfl
        rw [hshape]
        cases t.kind with
        | placeholder => rfl
        | opening => exact congrArg Except.ok (hcopied t.text)
        | closing => exact congrArg Except.ok (hcopied t.text)
      | some value =>
        have hshape : fields.shape t.name ≠ .absent := by
          simp [Fields.shape_eq_absent_iff, Fields.isPresent, hvalue]
        have hchunks := chunksOf_eq_map_fill hvalue
        cases t.kind with
        | placeholder => simp [hchunks, Except.map, Segment.glyphs]
        | opening => simp [Except.map, Segment.glyphs]
        | closing => simp [Except.map, Segment.glyphs]
    · simp only [hdeclared, if_false]
      exact congrArg Except.ok (hcopied t.text)

theorem layoutPiece_ok {p : Piece} {segment : Segment}
    (h : layoutPiece fields.shape declared p = .ok segment) :
    segment.source = p.text ∧ segment.Fits fields declared := by
  cases p with
  | char c =>
    obtain rfl := Except.ok.inj h
    exact ⟨rfl, trivial⟩
  | token t =>
    rw [layoutPiece] at h
    by_cases hdeclared : t.name ∈ declared
    · rw [if_pos hdeclared] at h
      have hpresent : fields.shape t.name ≠ .absent → fields.isPresent t.name = true := by
        simp [Fields.shape_eq_absent_iff]
      obtain ⟨kind, name⟩ := t
      split at h
      next => simp at h
      next shape hkind hne =>
        obtain rfl := Except.ok.inj h
        obtain rfl : kind = .placeholder := hkind
        exact ⟨rfl, hdeclared, hpresent hne, rfl⟩
      next =>
        obtain rfl := Except.ok.inj h
        exact ⟨rfl, trivial⟩
      next hkind hne _ =>
        obtain rfl := Except.ok.inj h
        exact ⟨rfl, kind, name, hkind, hdeclared, hpresent hne, rfl⟩
    · rw [if_neg hdeclared] at h
      obtain rfl := Except.ok.inj h
      exact ⟨rfl, trivial⟩

theorem layout_cons (shapes : String → Shape) (p : Piece) (ps : List Piece) :
    layout shapes declared (p :: ps) = (layoutPiece shapes declared p).bind fun segment =>
      (layout shapes declared ps).map (segment :: ·) := by
  rw [layout]
  cases layoutPiece shapes declared p with
  | error e => rfl
  | ok segment => cases layout shapes declared ps <;> rfl

/-- **Substitution is the layout with its slots filled.** -/
theorem substitute_eq_map_layout (ps : List Piece) :
    substitute fields declared ps = (layout fields.shape declared ps).map fun segments =>
      (segments.flatMap Segment.glyphs).map (Glyph.fill fields) := by
  induction ps with
  | nil => rfl
  | cons p ps ih =>
    rw [substitute, substitutePiece_eq_map_layoutPiece, ih, layout_cons]
    cases layoutPiece fields.shape declared p with
    | error e => rfl
    | ok segment =>
      cases layout fields.shape declared ps with
      | error e => rfl
      | ok segments =>
        simp only [Except.bind, Except.map, List.flatMap_cons, List.map_append]
        rfl

theorem layout_ok {ps : List Piece} {segments : List Segment}
    (h : layout fields.shape declared ps = .ok segments) :
    segments.flatMap Segment.source = textOf ps ∧ ∀ s ∈ segments, s.Fits fields declared := by
  induction ps generalizing segments with
  | nil =>
    obtain rfl := Except.ok.inj h
    simp
  | cons p ps ih =>
    rw [layout_cons] at h
    cases hp : layoutPiece fields.shape declared p with
    | error e => simp [hp, Except.bind] at h
    | ok segment =>
      cases hps : layout fields.shape declared ps with
      | error e => simp [hp, hps, Except.bind, Except.map] at h
      | ok rest =>
        obtain rfl : segment :: rest = segments := by
          simpa [hp, hps, Except.bind, Except.map] using h
        obtain ⟨hsource, hfits⟩ := layoutPiece_ok hp
        obtain ⟨hsources, hrest⟩ := ih hps
        rw [List.flatMap_cons, hsource, hsources, textOf_cons]
        refine ⟨rfl, fun s hs => ?_⟩
        rcases List.mem_cons.mp hs with rfl | hs
        · exact hfits
        · exact hrest s hs

/-- A slot of a segment lies in a declared field and has a value. -/
theorem Segment.Fits.slot {segment : Segment} (h : segment.Fits fields declared) {slot : Slot}
    (hslot : .marker slot ∈ segment.glyphs) :
    slot.name ∈ declared ∧ (fields.valueAt? slot).isSome = true := by
  cases segment with
  | copied text => simp [glyphs] at hslot
  | dropped text => simp [glyphs] at hslot
  | placeholder name shape =>
    obtain ⟨hdeclared, hpresent, rfl⟩ := h
    obtain ⟨value, hvalue⟩ := Option.isSome_iff_exists.mp hpresent
    cases value with
    | scalar v =>
      obtain rfl : slot = ⟨name, none⟩ := by
        simpa [glyphs, Fields.shape, hvalue, Shape.of, glyphsOf] using hslot
      simp [hdeclared, Fields.valueAt?, hvalue]
    | list items =>
      rw [glyphs, Fields.shape, hvalue] at hslot
      rcases mem_glyphsOf_list hslot with hchar | ⟨i, hi, heq⟩
      · simp at hchar
      · obtain rfl := Glyph.marker.inj heq
        simp [hdeclared, Fields.valueAt?, hvalue, hi]

end

/-! ## 4. Literal texts and markers -/

/-- A text with markers in it: what stands before the first marker, and for every marker its slot
and what stands behind it. -/
structure MarkedText where
  first : List Char
  rest : List (Slot × List Char)
deriving DecidableEq, Repr

namespace MarkedText

/-- The text that glyphs make. -/
def ofGlyphs : List Glyph → MarkedText
  | [] => ⟨[], []⟩
  | .char c :: gs => ⟨c :: (ofGlyphs gs).first, (ofGlyphs gs).rest⟩
  | .marker slot :: gs => ⟨[], (slot, (ofGlyphs gs).first) :: (ofGlyphs gs).rest⟩

/-- The glyphs of the text. -/
def glyphs (t : MarkedText) : List Glyph :=
  t.first.map .char ++ t.rest.flatMap fun (slot, text) => .marker slot :: text.map .char

/-- The slots of the markers. -/
def slots (t : MarkedText) : List Slot := t.rest.map (·.1)

/-- The text with the `k`-th marker, counted from one, in the given style. -/
def write (style : MarkerStyle) (t : MarkedText) : List Char :=
  t.first ++ (t.rest.zipIdx 1).flatMap fun ((_, text), k) => style.marker k ++ text

theorem glyphs_ofGlyphs (gs : List Glyph) : (ofGlyphs gs).glyphs = gs := by
  induction gs with
  | nil => rfl
  | cons g gs ih =>
    cases g with
    | char c =>
      rw [glyphs] at ih ⊢
      simp only [ofGlyphs, List.map_cons, List.cons_append, ih]
    | marker slot =>
      rw [glyphs] at ih ⊢
      simp only [ofGlyphs, List.map_nil, List.nil_append, List.flatMap_cons, List.cons_append, ih]

theorem mem_slots_iff {t : MarkedText} {slot : Slot} :
    slot ∈ t.slots ↔ .marker slot ∈ t.glyphs := by
  simp [slots, glyphs]

/-- Writing filled glyphs is writing the marked text. -/
theorem writeFrom_map_fill (style : MarkerStyle) (fields : Fields) (gs : List Glyph) (n : Nat) :
    writeFrom style n (gs.map (Glyph.fill fields)) = (ofGlyphs gs).first ++
      ((ofGlyphs gs).rest.zipIdx (n + 1)).flatMap fun ((_, text), k) =>
        style.marker k ++ text := by
  induction gs generalizing n with
  | nil => rfl
  | cons g gs ih =>
    cases g with
    | char c => simp only [List.map_cons, Glyph.fill, writeFrom, ih, ofGlyphs, List.cons_append]
    | marker slot =>
      simp only [List.map_cons, Glyph.fill, writeFrom, ih, ofGlyphs, List.zipIdx_cons,
        List.flatMap_cons, List.nil_append, List.append_assoc]

theorem boundValues_map_fill (fields : Fields) (gs : List Glyph) :
    boundValues (gs.map (Glyph.fill fields)) =
      (ofGlyphs gs).slots.map fun slot => (fields.valueAt? slot).getD .null := by
  induction gs with
  | nil => rfl
  | cons g gs ih =>
    cases g with
    | char c => simpa [boundValues, Glyph.fill, ofGlyphs, slots] using ih
    | marker slot =>
      simp only [boundValues, List.map_cons, Glyph.fill, List.filterMap_cons, ofGlyphs, slots]
      exact congrArg _ ih

end MarkedText

/-- The text that segments make. -/
def markedText (segments : List Segment) : MarkedText :=
  .ofGlyphs (segments.flatMap Segment.glyphs)

theorem glyphs_markedText (segments : List Segment) :
    (markedText segments).glyphs = segments.flatMap Segment.glyphs :=
  MarkedText.glyphs_ofGlyphs _

/-- The layout of a template whose absent blocks have been cut out. -/
def layoutOf (template : String) (fields : Fields) (declared : List String) :
    Except MissingParam (List Segment) :=
  layout fields.shape declared (pieces (stripAbsent fields declared template.toList))

section

variable {template : String} {fields : Fields} {declared : List String}

/-- Without a layout there is no statement, in no style. -/
theorem compile_of_layout_error {e : MissingParam}
    (h : layoutOf template fields declared = .error e) (style : MarkerStyle) :
    compile style template fields declared = .error e := by
  rw [layoutOf] at h
  rw [compile, substitute_eq_map_layout, h]
  rfl

/-- Every slot of the layout lies in a declared field and has a value. -/
theorem slot_of_layout {segments : List Segment}
    (h : layoutOf template fields declared = .ok segments) {slot : Slot}
    (hslot : slot ∈ (markedText segments).slots) :
    slot.name ∈ declared ∧ (fields.valueAt? slot).isSome = true := by
  rw [MarkedText.mem_slots_iff, glyphs_markedText] at hslot
  obtain ⟨s, hs, hmem⟩ := List.mem_flatMap.mp hslot
  exact ((layout_ok h).2 s hs).slot hmem

/-- **Compiling is laying out and then filling the slots.**  The text and the slots come from the
layout alone; every slot has a value, and these are the arguments. -/
theorem compile_of_layout {segments : List Segment}
    (h : layoutOf template fields declared = .ok segments) :
    ∃ args, (markedText segments).slots.map fields.valueAt? = args.map some ∧
      ∀ style, compile style template fields declared =
        .ok ⟨String.ofList ((markedText segments).write style), args⟩ := by
  have hvalue : ∀ slot ∈ (markedText segments).slots,
      fields.valueAt? slot = some ((fields.valueAt? slot).getD .null) := by
    intro slot hslot
    obtain ⟨v, hv⟩ := Option.isSome_iff_exists.mp (slot_of_layout h hslot).2
    rw [hv]
    rfl
  refine ⟨(markedText segments).slots.map fun slot => (fields.valueAt? slot).getD .null, ?_, ?_⟩
  · rw [List.map_congr_left hvalue, List.map_map]
    rfl
  · intro style
    rw [layoutOf] at h
    rw [compile, substitute_eq_map_layout, h]
    simp only [Except.map, statementOf, MarkedText.writeFrom_map_fill,
      MarkedText.boundValues_map_fill]
    rfl

end

/-- A value, and a list inside a block. -/
def listTemplate : String :=
  "SELECT * FROM t WHERE a=\x7ba\x7d\x7b#ids\x7d AND id IN \x7bids\x7d\x7b/ids\x7d"

/-- Fields for it, whose text would be a marker if it were written. -/
def listFields : Fields :=
  ⟨[("a", .scalar (.text "?")), ("ids", .list [.bool true, .null])]⟩

section

variable {f g : Fields} {declared : List String}

theorem stripAbsent_congr (h : f.SameShape g declared) (s : List Char) :
    stripAbsent f declared s = stripAbsent g declared s := by
  induction declared generalizing s with
  | nil => rfl
  | cons name declared ih =>
    have hname := h.isPresent_eq List.mem_cons_self
    have hrest : f.SameShape g declared := fun n hn => h n (List.mem_cons_of_mem _ hn)
    rw [stripAbsent_cons, stripAbsent_cons, hname, ih hrest]

theorem layoutPiece_congr {shapes shapes' : String → Shape}
    (h : ∀ name ∈ declared, shapes name = shapes' name) (p : Piece) :
    layoutPiece shapes declared p = layoutPiece shapes' declared p := by
  cases p with
  | char c => rfl
  | token t =>
    rw [layoutPiece, layoutPiece]
    by_cases hdeclared : t.name ∈ declared
    · rw [if_pos hdeclared, if_pos hdeclared, h t.name hdeclared]
    · rw [if_neg hdeclared, if_neg hdeclared]

theorem layout_congr {shapes shapes' : String → Shape}
    (h : ∀ name ∈ declared, shapes name = shapes' name) (ps : List Piece) :
    layout shapes declared ps = layout shapes' declared ps := by
  induction ps with
  | nil => rfl
  | cons p ps ih => rw [layout, layout, layoutPiece_congr h, ih]

theorem layoutOf_congr (h : f.SameShape g declared) (template : String) :
    layoutOf template f declared = layoutOf template g declared := by
  rw [layoutOf, layoutOf, stripAbsent_congr h]
  exact layout_congr h _

/-- Fields of the same shapes have one layout, so both are missing one parameter, or only the
arguments differ, which stand in the same slots. -/
theorem compile_of_sameShape (h : f.SameShape g declared) (style : MarkerStyle)
    (template : String) :
    (∃ e, compile style template f declared = .error e ∧
      compile style template g declared = .error e) ∨
    ∃ (sql : String) (slots : List Slot) (args args' : List Scalar),
      compile style template f declared = .ok ⟨sql, args⟩ ∧
      compile style template g declared = .ok ⟨sql, args'⟩ ∧
      (∀ slot ∈ slots, slot.name ∈ declared) ∧
      slots.map f.valueAt? = args.map some ∧ slots.map g.valueAt? = args'.map some := by
  have hsame := layoutOf_congr h template
  cases hf : layoutOf template f declared with
  | error e =>
    have hg := hsame.symm.trans hf
    exact Or.inl ⟨e, compile_of_layout_error hf style, compile_of_layout_error hg style⟩
  | ok segments =>
    have hg := hsame.symm.trans hf
    obtain ⟨args, hargs, hcompile⟩ := compile_of_layout hf
    obtain ⟨args', hargs', hcompile'⟩ := compile_of_layout hg
    exact Or.inr ⟨_, (markedText segments).slots, args, args', hcompile style, hcompile' style,
      fun slot hslot => (slot_of_layout hf hslot).1, hargs, hargs'⟩

end

/-- **Values never reach the text.**  For every template, all declared names, either style, and two
sets of fields whose declared names have the same shapes, compiling fails for both with one missing
parameter, or gives both one SQL text, with arguments that come from the same slots of declared
fields.  Fields that are not declared count for nothing. -/
theorem compile_sameShape (style : MarkerStyle) (template : String) (declared : List String)
    (f g : Fields) :
    (f.SameShape g declared →
      (∃ e, compile style template f declared = .error e ∧
        compile style template g declared = .error e) ∨
      ∃ (sql : String) (slots : List Slot) (args args' : List Scalar),
        compile style template f declared = .ok ⟨sql, args⟩ ∧
        compile style template g declared = .ok ⟨sql, args'⟩ ∧
        args.length = args'.length ∧
        (∀ slot ∈ slots, slot.name ∈ declared) ∧
        slots.map f.valueAt? = args.map some ∧ slots.map g.valueAt? = args'.map some) ∧
    ((∀ name ∈ declared, f.present? name = g.present? name) →
      compile style template f declared = compile style template g declared) := by
  constructor
  · intro h
    rcases compile_of_sameShape h style template with
      herror | ⟨sql, slots, args, args', hf, hg, hslots, hargs, hargs'⟩
    · exact Or.inl herror
    · have hlength : args.length = args'.length := by
        have h1 := congrArg List.length hargs
        have h2 := congrArg List.length hargs'
        simp only [List.length_map] at h1 h2
        omega
      exact Or.inr ⟨sql, slots, args, args', hf, hg, hlength, hslots, hargs, hargs'⟩
  · intro h
    have hshape : f.SameShape g declared := fun name hn => by
      rw [Fields.shape, Fields.shape, h name hn]
    rcases compile_of_sameShape hshape style template with
      ⟨e, hf, hg⟩ | ⟨sql, slots, args, args', hf, hg, hslots, hargs, hargs'⟩
    · rw [hf, hg]
    · have hvalues : slots.map f.valueAt? = slots.map g.valueAt? :=
        List.map_congr_left fun slot hslot => by
          rw [Fields.valueAt?, Fields.valueAt?, h slot.name (hslots slot hslot)]
      rw [hargs, hargs'] at hvalues
      rw [hf, hg, (List.map_inj_right fun _ _ => Option.some.inj).mp hvalues]

/-- Fields of the same shapes whose texts are written like markers and tokens, and one more. -/
def hostileFields : Fields :=
  ⟨[("a", .scalar (.text "\x7bids\x7d' OR 1=1 --")),
    ("ids", .list [.text "\x7b/ids\x7d?", .text "$1"]), ("b", .scalar (.text "\x7b#a\x7d"))]⟩

/-- The same without the field that is not declared. -/
def declaredFields : Fields :=
  ⟨[("a", .scalar (.text "\x7bids\x7d' OR 1=1 --")),
    ("ids", .list [.text "\x7b/ids\x7d?", .text "$1"])]⟩

theorem compile_sameShape_hostileFields :
    listFields.SameShape hostileFields ["a", "ids"] ∧
      (∀ name ∈ ["a", "ids"], hostileFields.present? name = declaredFields.present? name) ∧
      (∃ args args', compile .dollar listTemplate listFields ["a", "ids"] =
          .ok ⟨"SELECT * FROM t WHERE a=$1 AND id IN ($2,$3)", args⟩ ∧
        compile .dollar listTemplate hostileFields ["a", "ids"] =
          .ok ⟨"SELECT * FROM t WHERE a=$1 AND id IN ($2,$3)", args'⟩) ∧
      compile .dollar listTemplate hostileFields ["a", "ids"] =
        compile .dollar listTemplate declaredFields ["a", "ids"] := by
  have hshape : listFields.SameShape hostileFields ["a", "ids"] := by decide
  have hdeclared : ∀ name ∈ ["a", "ids"],
      hostileFields.present? name = declaredFields.present? name := by decide
  have hlist : (compile .dollar listTemplate listFields ["a", "ids"]).toOption =
      some ⟨"SELECT * FROM t WHERE a=$1 AND id IN ($2,$3)", [.text "?", .bool true, .null]⟩ := by
    decide +kernel
  refine ⟨hshape, hdeclared, ?_,
    (compile_sameShape .dollar listTemplate ["a", "ids"] hostileFields declaredFields).2 hdeclared⟩
  rcases (compile_sameShape .dollar listTemplate ["a", "ids"] listFields hostileFields).1 hshape
    with ⟨e, he, -⟩ | ⟨sql, slots, args, args', hf, hg, -⟩
  · rw [he] at hlist
    cases hlist
  · rw [hf] at hlist
    obtain ⟨rfl, -⟩ := Statement.mk.inj (Option.some.inj hlist)
    exact ⟨args, args', hf, hg⟩

end Template

end SqlGateway
