/-
# Which bodies are fields

A request body is a text, and the grammar of JSON says what it is the text of.  The fields are read
member by member, so every member has to be one: also a member that a later one of its name
replaces, and that nothing shows any more.

* `FieldValue.ofJson_eq_ok_iff`: a field value is read exactly from what it is written as;
* `FieldValue.exists_iff`: these are the values that nest at most once, and only in a list;
* `ofBody_eq_ok_iff`: the fields of a body that is an object are those of its members;
* `ofBody_exact`: the same said of names, with the bodies that are no object.
-/
import Mathlib.Data.Set.List
import SqlGateway.Fields.Body
import SqlGateway.Proofs.Json.Members
import SqlGateway.Proofs.Json.Reading

namespace SqlGateway

open Json

/-! ## 1. Values -/

theorem Scalar.ofJson_eq_ok_iff {v : Json} {s : Scalar} :
    Scalar.ofJson v = .ok s ↔ s.toJson = v := by
  cases v <;> cases s <;> simp [Scalar.ofJson, Scalar.toJson, eq_comm]

/-- The items of a list are scalars one by one. -/
theorem mapM_ofJson_eq_ok_iff {items : List Json} {scalars : List Scalar} :
    items.mapM Scalar.ofJson = .ok scalars ↔ scalars.map Scalar.toJson = items := by
  induction items generalizing scalars with
  | nil => simp [pure, Except.pure, eq_comm]
  | cons v items ih =>
    rw [List.mapM_cons, bind_eq_ok_iff]
    constructor
    · rintro ⟨s, hs, h⟩
      obtain ⟨more, hmore, h⟩ := bind_eq_ok_iff.mp h
      obtain rfl : s :: more = scalars := Except.ok.inj h
      rw [List.map_cons, Scalar.ofJson_eq_ok_iff.mp hs, ih.mp hmore]
    · intro h
      obtain ⟨s, more, rfl, hs, hmore⟩ := List.map_eq_cons_iff.mp h
      exact ⟨s, Scalar.ofJson_eq_ok_iff.mpr hs, bind_eq_ok_iff.mpr ⟨more, ih.mpr hmore, rfl⟩⟩

/-- The scalars are the JSON values without brackets. -/
theorem exists_scalar_iff {v : Json} : (∃ s : Scalar, s.toJson = v) ↔ v.IsScalar := by
  constructor
  · rintro ⟨s, rfl⟩
    cases s <;> trivial
  · intro h
    cases v with
    | null => exact ⟨.null, rfl⟩
    | bool b => exact ⟨.bool b, rfl⟩
    | number n => exact ⟨.number n, rfl⟩
    | string s => exact ⟨.text s, rfl⟩
    | array items => exact h.elim
    | object members => exact h.elim

namespace FieldValue

/-- **A field value is read exactly from the JSON value that it is written as.** -/
theorem ofJson_eq_ok_iff {v : Json} {value : FieldValue} :
    ofJson v = .ok value ↔ value.toJson = v := by
  cases v with
  | array items =>
    rw [ofJson, map_eq_ok_iff]
    constructor
    · rintro ⟨scalars, hscalars, rfl⟩
      rw [toJson, mapM_ofJson_eq_ok_iff.mp hscalars]
    · intro h
      cases value with
      | scalar s => cases s <;> cases h
      | list scalars => exact ⟨scalars, mapM_ofJson_eq_ok_iff.mpr (Json.array.inj h), rfl⟩
  | _ =>
    simp only [ofJson, map_eq_ok_iff]
    constructor
    · rintro ⟨s, hs, rfl⟩
      exact Scalar.ofJson_eq_ok_iff.mp hs
    · intro h
      cases value with
      | scalar s => exact ⟨s, Scalar.ofJson_eq_ok_iff.mpr h, rfl⟩
      | list scalars => cases h

theorem toJson_injective {value value' : FieldValue} (h : value.toJson = value'.toJson) :
    value = value' :=
  Except.ok.inj ((ofJson_eq_ok_iff.mpr rfl).symm.trans (ofJson_eq_ok_iff.mpr h.symm))

/-- The field values are the JSON values that nest at most once, and only in a list. -/
theorem exists_iff {v : Json} : (∃ value : FieldValue, value.toJson = v) ↔ v.IsFlat := by
  constructor
  · rintro ⟨s | scalars, rfl⟩
    · cases s <;> trivial
    · intro item hitem
      obtain ⟨s, -, rfl⟩ := List.mem_map.mp hitem
      exact exists_scalar_iff.mp ⟨s, rfl⟩
  · intro h
    cases v with
    | array items =>
      have hitems : items ∈ Set.range (List.map Scalar.toJson) := by
        rw [Set.range_list_map]
        exact fun item hitem => exists_scalar_iff.mpr (h item hitem)
      obtain ⟨scalars, rfl⟩ := hitems
      exact ⟨.list scalars, rfl⟩
    | null => exact ⟨.scalar .null, rfl⟩
    | bool b => exact ⟨.scalar (.bool b), rfl⟩
    | number n => exact ⟨.scalar (.number n), rfl⟩
    | string s => exact ⟨.scalar (.text s), rfl⟩
    | object members => exact h.elim

theorem isPresent_iff {value : FieldValue} : value.isPresent = true ↔ value.toJson ≠ .null := by
  rcases value with s | scalars
  · cases s <;> simp [isPresent, toJson, Scalar.toJson]
  · simp [isPresent, toJson]

end FieldValue

namespace Fields

/-! ## 2. Members -/

variable {first : Bool} {seen : List (String × FieldValue)} {s t rest : List UInt8}

theorem took_takeFields_close (hs : skipBlanks s = 125 :: t) :
    took (takeFields first seen s) = .ok (seen.reverse, t) := by
  rw [takeFields, nextKey_close hs]
  rfl

/-- A member and all that follow it. -/
def fieldsFrom (seen : List (String × FieldValue)) (s : List UInt8) :
    Except BodyFault (List (String × FieldValue) × List UInt8) :=
  (took (takeKey s)).mapError ofFault >>= fun k =>
    (took (takeValue (depthLimit - 1) k.2)).mapError ofFault >>= fun r =>
      (FieldValue.ofJson r.1).mapError (fun fault => ⟨.field fault, leftBehindValue r.2⟩) >>=
        fun value => took (takeFields false ((k.1, value) :: seen) r.2)

theorem took_takeFields_entry {h : t.length ≤ s.length}
    (hnext : nextKey first s = .ok (.entry t h)) :
    took (takeFields first seen s) = fieldsFrom seen t := by
  rw [takeFields, hnext, fieldsFrom]
  dsimp only
  cases takeKey t with
  | error e => rfl
  | ok k =>
    change _ = (took (takeValue (depthLimit - 1) k.rest)).mapError ofFault >>= _
    dsimp only
    cases takeValue (depthLimit - 1) k.rest with
    | error e => rfl
    | ok v =>
      change _ = (FieldValue.ofJson v.value).mapError _ >>= _
      dsimp only
      cases FieldValue.ofJson v.value with
      | error fault => rfl
      | ok value => exact took_map_widen _ _

/-- **A member is read if it is a field, and the field is its value.** -/
theorem fieldsFrom_eq_ok_iff {ks vs ws : List UInt8} {n : Nat} {key : String} {v : Json}
    {r : List (String × FieldValue) × List UInt8}
    (hkey : ∀ s, took (takeKey (ks ++ s)) = .ok (key, s)) (hvalue : ValueRead vs ws n v)
    (hn : v.IsFlat → n ≤ 1) (hrest : EndsNumber rest) :
    fieldsFrom seen (ks ++ (vs ++ rest)) = .ok r ↔ ∃ value : FieldValue, value.toJson = v ∧
      took (takeFields false ((key, value) :: seen) (ws ++ rest)) = .ok r := by
  have htakes := hvalue (depthLimit - 1) rest hrest
  rw [fieldsFrom, hkey, bind_eq_ok_iff]
  constructor
  · rintro ⟨k, hk, h⟩
    obtain rfl := Except.ok.inj hk
    obtain ⟨taken, htaken, h⟩ := bind_eq_ok_iff.mp h
    obtain rfl := htakes.sound taken (mapError_eq_ok_iff.mp htaken)
    obtain ⟨value, hread, h⟩ := bind_eq_ok_iff.mp h
    exact ⟨value, FieldValue.ofJson_eq_ok_iff.mp (mapError_eq_ok_iff.mp hread), h⟩
  · rintro ⟨value, hread, h⟩
    have hshallow : n ≤ 1 := hn (FieldValue.exists_iff.mp ⟨value, hread⟩)
    have htaken := htakes.complete (Nat.lt_of_le_of_lt hshallow (by decide))
    refine ⟨(key, vs ++ rest), rfl, bind_eq_ok_iff.mpr ⟨_, mapError_eq_ok_iff.mpr htaken, ?_⟩⟩
    exact bind_eq_ok_iff.mpr
      ⟨value, mapError_eq_ok_iff.mpr (FieldValue.ofJson_eq_ok_iff.mpr hread), h⟩

theorem took_takeFields_comma {ws bs ks : List UInt8} (hws : Blanks ws)
    (h : ∀ s, skipBlanks (bs ++ s) = 34 :: (ks ++ s)) (s : List UInt8) :
    took (takeFields false seen (ws ++ 44 :: (bs ++ s))) = fieldsFrom seen (ks ++ s) := by
  have hcomma := (skipBlanks_append hws (44 :: (bs ++ s))).trans (skipBlanks_cons rfl _)
  rw [took_takeFields_entry (nextKey_comma hcomma (h s))]

/-- What reading does with a text of members: it gives fields that are written as them. -/
def FieldsRead (bs : List UInt8) (entries : List (String × Json)) : Prop :=
  ∃ ks, (∀ s, skipBlanks (bs ++ s) = 34 :: (ks ++ s)) ∧ ∀ seen rest r,
    fieldsFrom seen (ks ++ 125 :: rest) = .ok r ↔ ∃ values : List (String × FieldValue),
      values.map (Prod.map id FieldValue.toJson) = entries ∧ r = (seen.reverse ++ values, rest)

section

variable {bs more : List UInt8} {n : Nat} {key : String} {v : Json} {entries : List (String × Json)}

theorem fieldsRead_last (h : TextOf bs n (.member key v)) : FieldsRead bs [(key, v)] := by
  obtain ⟨ks, vs, ws, hskip, hkey, hws, hvalue⟩ := read_of_textOf h
  refine ⟨ks ++ vs, fun s => by rw [hskip, List.append_assoc], fun seen rest r => ?_⟩
  have hclosing := (skipBlanks_append hws (125 :: rest)).trans (skipBlanks_cons rfl rest)
  have hbehind : EndsNumber (125 :: rest) := endsNumber_cons (by decide) rest
  rw [List.append_assoc, fieldsFrom_eq_ok_iff hkey hvalue h.le_one_of_isFlat hbehind]
  constructor
  · rintro ⟨value, rfl, hleft⟩
    rw [took_takeFields_close hclosing] at hleft
    obtain rfl := Except.ok.inj hleft
    exact ⟨[(key, value)], rfl, by simp⟩
  · rintro ⟨values, hvalues, rfl⟩
    obtain ⟨entry, rfl, hentry⟩ := List.map_eq_singleton_iff.mp hvalues
    obtain ⟨rfl, rfl⟩ := Prod.mk.inj hentry
    exact ⟨entry.2, rfl, by rw [took_takeFields_close hclosing]; simp⟩

theorem fieldsRead_more (h : TextOf bs n (.member key v)) (hmore : FieldsRead more entries) :
    FieldsRead (bs ++ 44 :: more) ((key, v) :: entries) := by
  obtain ⟨ks, vs, ws, hskip, hkey, hws, hvalue⟩ := read_of_textOf h
  obtain ⟨ks', hskip', hfields⟩ := hmore
  refine ⟨ks ++ (vs ++ 44 :: more), fun s => ?_, fun seen rest r => ?_⟩
  · rw [List.append_assoc, hskip, List.append_assoc, List.append_assoc]
  have hbehind : EndsNumber (44 :: (more ++ 125 :: rest)) := endsNumber_cons (by decide) _
  rw [List.append_assoc, List.append_assoc, List.cons_append,
    fieldsFrom_eq_ok_iff hkey hvalue h.le_one_of_isFlat hbehind]
  constructor
  · rintro ⟨value, rfl, hleft⟩
    rw [took_takeFields_comma hws hskip', hfields] at hleft
    obtain ⟨values, rfl, rfl⟩ := hleft
    exact ⟨(key, value) :: values, rfl, by simp⟩
  · rintro ⟨values, hvalues, rfl⟩
    obtain ⟨entry, values, rfl, hentry, rfl⟩ := List.map_eq_cons_iff.mp hvalues
    obtain ⟨rfl, rfl⟩ := Prod.mk.inj hentry
    refine ⟨entry.2, rfl, ?_⟩
    rw [took_takeFields_comma hws hskip', hfields]
    exact ⟨values, rfl, by simp⟩

/-- **Members are read if they are all fields.** -/
theorem fieldsRead_of_members (h : TextOf bs n (.members entries)) : FieldsRead bs entries := by
  -- members only consist of members, so the other forms drop out of the induction
  generalize hform : Form.members entries = form at h
  induction h generalizing entries with
  | lastMember written =>
    obtain rfl := Form.members.inj hform
    exact fieldsRead_last written
  | moreMembers written _ _ ih =>
    obtain rfl := Form.members.inj hform
    exact fieldsRead_more written (ih rfl)
  | _ => cases hform

end

/-! ## 3. Bodies -/

theorem took_takeFields_of_object {bs : List UInt8} {n : Nat} {entries : List (String × Json)}
    (h : TextOf bs n (.object entries)) :
    ∃ t, bs = 123 :: t ∧ ∀ rest r, took (takeFields true [] (t ++ rest)) = .ok r ↔
      ∃ values : List (String × FieldValue),
        values.map (Prod.map id FieldValue.toJson) = entries ∧ r = (values, rest) := by
  cases h with
  | @emptyObject ws blanks =>
    refine ⟨ws ++ [125], rfl, fun rest r => ?_⟩
    have hclosing := (skipBlanks_append blanks (125 :: rest)).trans (skipBlanks_cons rfl rest)
    rw [List.append_assoc, List.singleton_append, took_takeFields_close hclosing]
    constructor
    · intro h
      obtain rfl := Except.ok.inj h
      exact ⟨[], rfl, rfl⟩
    · rintro ⟨values, hvalues, rfl⟩
      rw [List.map_eq_nil_iff.mp hvalues]
      rfl
  | @object bs n ms written =>
    obtain ⟨ks, hskip, hfields⟩ := fieldsRead_of_members written
    refine ⟨bs ++ [125], rfl, fun rest r => ?_⟩
    rw [List.append_assoc, List.singleton_append, took_takeFields_entry (nextKey_first (hskip _)),
      hfields]
    rfl

theorem atEnd_eq_ok_iff {s : List UInt8} {u : Unit} : atEnd s = .ok u ↔ skipBlanks s = [] := by
  rw [atEnd]
  cases skipBlanks s <;> simp

theorem ofJsonBytes_eq_ok_iff {fields : Fields} (hs : skipBlanks s = 123 :: t) :
    ofJsonBytes s = .ok fields ↔ ∃ values rest, took (takeFields true [] t) = .ok (values, rest) ∧
      skipBlanks rest = [] ∧ fields = ofMembers values := by
  rw [ofJsonBytes, hs]
  simp only [if_true, bind_eq_ok_iff, mapError_eq_ok_iff, atEnd_eq_ok_iff, took_eq_ok_iff]
  constructor
  · rintro ⟨⟨values, rest, hshorter⟩, htaken, -, hend, h⟩
    exact ⟨values, rest, ⟨hshorter, htaken⟩, hend, (Except.ok.inj h).symm⟩
  · rintro ⟨values, rest, ⟨hshorter, htaken⟩, hend, rfl⟩
    exact ⟨⟨values, rest, hshorter⟩, htaken, (), hend, rfl⟩

/-- **An object with blanks around it is read if its members are all fields.** -/
theorem ofBody_eq_ok_iff {ws bs ws' : List UInt8} {n : Nat} {entries : List (String × Json)}
    {fields : Fields} (hws : Blanks ws) (h : TextOf bs n (.object entries)) (hws' : Blanks ws') :
    ofBody (ws ++ bs ++ ws') = .ok fields ↔ ∃ values : List (String × FieldValue),
      values.map (Prod.map id FieldValue.toJson) = entries ∧ fields = ofMembers values := by
  obtain ⟨t, rfl, hfields⟩ := took_takeFields_of_object h
  have hskip : skipBlanks (ws ++ 123 :: t ++ ws') = 123 :: (t ++ ws') := by
    rw [List.append_assoc, skipBlanks_append hws]
    exact skipBlanks_cons rfl _
  have hbrace : ¬ (ws ++ 123 :: t ++ ws').all isAsciiSpace = true := by
    intro hall
    exact absurd (List.all_eq_true.mp hall 123 (by simp)) (by decide)
  rw [ofBody, if_neg hbrace, mapError_eq_ok_iff, ofJsonBytes_eq_ok_iff hskip]
  constructor
  · rintro ⟨values, rest, htaken, -, rfl⟩
    obtain ⟨values', hvalues, heq⟩ := (hfields ws' _).mp htaken
    obtain ⟨rfl, rfl⟩ := Prod.mk.inj heq
    exact ⟨values, hvalues, rfl⟩
  · rintro ⟨values, hvalues, rfl⟩
    refine ⟨values, ws', (hfields ws' _).mpr ⟨values, hvalues, rfl⟩, ?_, rfl⟩
    exact List.dropWhile_eq_nil_iff.mpr hws'

/-- Members are fields if their values are. -/
theorem exists_values_iff {entries : List (String × Json)} :
    (∃ values : List (String × FieldValue),
      values.map (Prod.map id FieldValue.toJson) = entries) ↔ ∀ e ∈ entries, e.2.IsFlat := by
  have hrange : (∃ values : List (String × FieldValue),
      values.map (Prod.map id FieldValue.toJson) = entries) ↔
      entries ∈ Set.range (List.map (Prod.map id FieldValue.toJson)) := Iff.rfl
  rw [hrange, Set.range_list_map]
  refine forall₂_congr fun e _ => ?_
  rw [← FieldValue.exists_iff]
  constructor
  · rintro ⟨entry, rfl⟩
    exact ⟨entry.2, rfl⟩
  · rintro ⟨value, hvalue⟩
    exact ⟨(e.1, value), Prod.ext rfl hvalue⟩

/-- The value of a field is what its last member says. -/
theorem get?_ofMembers_eq_some_iff {values : List (String × FieldValue)} {name : String}
    {value : FieldValue} : (ofMembers values).get? name = some value ↔
      (name, value.toJson) ∈ lastEntries (values.map (Prod.map id FieldValue.toJson)) := by
  rw [get?, ofMembers, lookup_membersOf, lookup_reverse_eq_some_iff, lastEntries_map, List.mem_map]
  constructor
  · intro h
    exact ⟨(name, value), h, rfl⟩
  · rintro ⟨⟨name', value'⟩, hmem, heq⟩
    obtain ⟨rfl, hvalue⟩ := Prod.mk.inj heq
    rwa [← FieldValue.toJson_injective hvalue]

theorem get?_ofMembers_eq_none_iff {values : List (String × FieldValue)} {name : String} :
    (ofMembers values).get? name = none ↔
      name ∉ (values.map (Prod.map id FieldValue.toJson)).map Prod.fst := by
  have hkeys : (values.map (Prod.map id FieldValue.toJson)).map Prod.fst =
      values.map Prod.fst := by simp
  rw [get?, ofMembers, lookup_membersOf, List.lookup_eq_none_iff, hkeys]
  constructor
  · intro h hmem
    obtain ⟨entry, hentry, rfl⟩ := List.mem_map.mp hmem
    exact bne_iff_ne.mp (h entry (List.mem_reverse.mpr hentry)) rfl
  · rintro h entry hentry
    refine bne_iff_ne.mpr ?_
    rintro rfl
    exact h (List.mem_map_of_mem (List.mem_reverse.mp hentry))

theorem present?_eq_some_iff {fields : Fields} {name : String} {value : FieldValue} :
    fields.present? name = some value ↔ fields.get? name = some value ∧ value.toJson ≠ .null := by
  rw [present?, Option.filter_eq_some_iff, FieldValue.isPresent_iff]

theorem present?_eq_none_iff {fields : Fields} {name : String} :
    fields.present? name = none ↔
      fields.get? name = none ∨ fields.get? name = some (.scalar .null) := by
  rw [present?, Option.filter_eq_none_iff]
  cases fields.get? name with
  | none => simp
  | some value =>
    have hnull : value = .scalar .null ↔ ¬ value.isPresent = true := by
      rw [FieldValue.isPresent_iff, not_not]
      constructor
      · rintro rfl
        rfl
      · exact fun h => FieldValue.toJson_injective h
    simp [hnull]

/-- A body that starts, blanks apart, with no brace is no object. -/
theorem exists_error_of_head {b : UInt8} (hs : skipBlanks s = b :: t) (hb : b ≠ 123)
    (hspace : isAsciiSpace b = false) : ∃ e, ofBody s = .error e := by
  have hmem : b ∈ s := by
    refine (List.dropWhile_suffix isSpace).subset ?_
    rw [show s.dropWhile isSpace = b :: t from hs]
    exact List.mem_cons_self
  have hblank : ¬ s.all isAsciiSpace = true := by
    intro hall
    exact Bool.false_ne_true (hspace.symm.trans (List.all_eq_true.mp hall b hmem))
  rw [ofBody, if_neg hblank, ofJsonBytes, hs]
  dsimp only
  rw [if_neg hb]
  exact ⟨_, rfl⟩

theorem exists_head_of_value {bs : List UInt8} {n : Nat} {v : Json} (h : TextOf bs n (.value v))
    (hv : ∀ members, v ≠ .object members) :
    ∃ b t, bs = b :: t ∧ b ≠ 123 ∧ isAsciiSpace b = false := by
  cases h with
  | null => exact ⟨110, _, rfl, by decide, rfl⟩
  | true => exact ⟨116, _, rfl, by decide, rfl⟩
  | false => exact ⟨102, _, rfl, by decide, rfl⟩
  | @number n x hmeans =>
    obtain ⟨d, ds, hwhole⟩ := List.exists_cons_of_ne_nil n.nonempty
    have hd : isDigit d = true := n.isWhole d (hwhole ▸ List.mem_cons_self)
    have hne : ∀ b : UInt8, isDigit b = false → d ≠ b := by
      rintro b hb rfl
      exact Bool.false_ne_true (hb.symm.trans hd)
    cases hsign : n.negative with
    | true => exact ⟨45, _, by rw [Numeral.text, hsign]; rfl, by decide, rfl⟩
    | false =>
      refine ⟨d, _, by rw [Numeral.text, hsign, hwhole]; rfl, hne 123 rfl, ?_⟩
      simp [isAsciiSpace, hne 32 rfl, hne 9 rfl, hne 10 rfl, hne 12 rfl, hne 13 rfl]
  | string written =>
    obtain ⟨inside, -, rfl⟩ := written
    exact ⟨34, _, rfl, by decide, rfl⟩
  | emptyArray blanks => exact ⟨91, _, rfl, by decide, rfl⟩
  | array items => exact ⟨91, _, rfl, by decide, rfl⟩
  | ofObject written => exact absurd rfl (hv _)

theorem exists_error_of_element {bs : List UInt8} {n : Nat} {v : Json}
    (h : TextOf bs n (.element v)) (hv : ∀ members, v ≠ .object members) :
    ∃ e, ofBody bs = .error e := by
  cases h with
  | @element ws bs ws' n _ front written back =>
    obtain ⟨b, t, rfl, hb, hspace⟩ := exists_head_of_value written hv
    have hblank : isSpace b = false := by
      simp only [isAsciiSpace, isSpace, Bool.or_eq_false_iff] at hspace ⊢
      exact ⟨⟨⟨hspace.1.1.1.1, hspace.1.1.2⟩, hspace.1.1.1.2⟩, hspace.2⟩
    have hskip : skipBlanks (ws ++ b :: t ++ ws') = b :: (t ++ ws') := by
      rw [List.append_assoc, skipBlanks_append front]
      exact skipBlanks_cons hblank _
    exact exists_error_of_head hskip hb hspace

/-- What is read from a body that is an object with these members. -/
structure Reads (body : List UInt8) (entries : List (String × Json)) : Prop where
  /-- Every member counts, also one whose name comes again. -/
  accepted : (∃ fields, ofBody body = .ok fields) ↔ ∀ entry ∈ entries, entry.2.IsFlat
  /-- The value of a field, written back, is the value of the last member of its name. -/
  value : ∀ fields, ofBody body = .ok fields → ∀ name value,
    fields.get? name = some value ↔ (name, value.toJson) ∈ lastEntries entries
  /-- A field is present unless it is null. -/
  present : ∀ fields, ofBody body = .ok fields → ∀ name value,
    fields.present? name = some value ↔
      (name, value.toJson) ∈ lastEntries entries ∧ value.toJson ≠ .null
  absent : ∀ fields, ofBody body = .ok fields → ∀ name,
    fields.present? name = none ↔
      name ∉ entries.map Prod.fst ∨ (name, .null) ∈ lastEntries entries

theorem reads_of_object {ws bs ws' : List UInt8} {n : Nat} {entries : List (String × Json)}
    (hws : Blanks ws) (h : TextOf bs n (.object entries)) (hws' : Blanks ws') :
    Reads (ws ++ bs ++ ws') entries where
  accepted := by
    rw [← exists_values_iff]
    constructor
    · rintro ⟨fields, hread⟩
      obtain ⟨values, hvalues, -⟩ := (ofBody_eq_ok_iff hws h hws').mp hread
      exact ⟨values, hvalues⟩
    · rintro ⟨values, hvalues⟩
      exact ⟨_, (ofBody_eq_ok_iff hws h hws').mpr ⟨values, hvalues, rfl⟩⟩
  value := by
    intro fields hread name value
    obtain ⟨values, rfl, rfl⟩ := (ofBody_eq_ok_iff hws h hws').mp hread
    exact get?_ofMembers_eq_some_iff
  present := by
    intro fields hread name value
    obtain ⟨values, rfl, rfl⟩ := (ofBody_eq_ok_iff hws h hws').mp hread
    rw [present?_eq_some_iff, get?_ofMembers_eq_some_iff]
  absent := by
    intro fields hread name
    obtain ⟨values, rfl, rfl⟩ := (ofBody_eq_ok_iff hws h hws').mp hread
    rw [present?_eq_none_iff, get?_ofMembers_eq_none_iff, get?_ofMembers_eq_some_iff]
    rfl

/-- **A request body is read exactly if it is a flat object or blank**, and the fields are what its
last members say. -/
theorem ofBody_exact :
    (∀ (ws bs ws' : List UInt8) (n : Nat) (entries : List (String × Json)), Blanks ws →
      TextOf bs n (.object entries) → Blanks ws' → Reads (ws ++ bs ++ ws') entries) ∧
    (∀ v value, FieldValue.ofJson v = .ok value ↔ value.toJson = v) ∧
    (∀ body : List UInt8, body.all isAsciiSpace = true → ofBody body = .ok empty) ∧
    ∀ bs n v, TextOf bs n (.element v) → (∀ members, v ≠ .object members) →
      ∃ e, ofBody bs = .error e :=
  ⟨fun _ _ _ _ _ hws h hws' => reads_of_object hws h hws', fun _ _ => FieldValue.ofJson_eq_ok_iff,
    fun _ hblank => if_pos hblank, fun _ _ _ h hv => exists_error_of_element h hv⟩

/-- A name that comes again, as a list of nulls, and one that is null. -/
theorem textOf_repeated : TextOf (Text.Utf8.encode "\x7b\"a\":true,\"a\":[null],\"b\":null\x7d") 2
    (.object [("a", .bool true), ("a", .array [.null]), ("b", .null)]) := by
  have hkey : ∀ c : Char, c ≠ '"' → c ≠ '\\' → 0x20 ≤ c.toNat →
      StringText (34 :: String.utf8EncodeChar c ++ [34]) (String.singleton c) := by
    intro c hquote hbackslash hcontrol
    refine ⟨_, ?_, rfl⟩
    have h := CharsText.cons (.plain hquote hbackslash hcontrol) .nil
    simpa using h
  have hmember : ∀ {bs n v} (c : Char), c ≠ '"' → c ≠ '\\' → 0x20 ≤ c.toNat →
      TextOf bs n (.element v) → TextOf (34 :: String.utf8EncodeChar c ++ [34] ++ 58 :: bs) n
        (.member (String.singleton c) v) := by
    intro bs n v c hquote hbackslash hcontrol h
    have hblanks : Blanks [] := List.forall_mem_nil _
    have hmember := TextOf.member hblanks (hkey c hquote hbackslash hcontrol) hblanks h
    simpa using hmember
  exact .object (.moreMembers (hmember 'a' (by decide) (by decide) (by decide) TextOf.true.bare)
    (.moreMembers (hmember 'a' (by decide) (by decide) (by decide)
        (TextOf.array (.lastElement TextOf.null.bare)).bare)
      (.lastMember (hmember 'b' (by decide) (by decide) (by decide) TextOf.null.bare))))

/-- The last member of a name counts, and a list of nulls is present. -/
theorem ofBody_exact_repeated :
    ∃ fields, ofBody (Text.Utf8.encode "\x7b\"a\":true,\"a\":[null],\"b\":null\x7d") = .ok fields ∧
      fields.present? "a" = some (.list [.null]) ∧ fields.present? "b" = none ∧
      ofBody [32, 10] = .ok empty ∧ ∃ e, ofBody (Text.Utf8.encode "null") = .error e := by
  have hblanks : Blanks [] := List.forall_mem_nil _
  have hreads := ofBody_exact.1 [] _ [] _ _ hblanks textOf_repeated hblanks
  rw [List.nil_append, List.append_nil] at hreads
  obtain ⟨fields, hfields⟩ := hreads.accepted.mpr (by simp [IsFlat, IsScalar])
  refine ⟨fields, hfields, (hreads.present fields hfields _ _).mpr ?_,
    (hreads.absent fields hfields _).mpr ?_, ofBody_exact.2.2.1 _ (by decide),
    ofBody_exact.2.2.2 _ _ _ TextOf.null.bare (by simp)⟩
  · simp [lastEntries, FieldValue.toJson, Scalar.toJson]
  · simp [lastEntries]

end Fields

end SqlGateway
