/-
# Printed values are read back

What is printed of a value is a text of the grammar, and of no other value.  Strings are, whatever
their characters, and an object is if its values are and no key comes twice.  A character below the
blank is printed as an escape, mostly by its number.
-/
import SqlGateway.Json.Printer
import SqlGateway.Proofs.Json.Members
import SqlGateway.Proofs.Json.Reading

namespace SqlGateway.Json

open Text Text.Utf8

/-! ## 1. Strings -/

theorem hexValue?_digitChar {n : Nat} (h : n < 16) :
    ∃ b, encodeChars [Nat.digitChar n] = [b] ∧ hexValue? b = some n := by
  have hall : ∀ n < 16, encodeChars [Nat.digitChar n] = [UInt8.ofNat (Nat.digitChar n).toNat] ∧
      hexValue? (UInt8.ofNat (Nat.digitChar n).toNat) = some n := by decide
  exact ⟨_, hall n h⟩

theorem encodeChars_append (cs ds : List Char) :
    encodeChars (cs ++ ds) = encodeChars cs ++ encodeChars ds := List.flatMap_append

theorem encodeChars_cons (c : Char) (cs : List Char) :
    encodeChars (c :: cs) = String.utf8EncodeChar c ++ encodeChars cs := List.flatMap_cons

/-- An escape by the number of the character. -/
theorem charText_control {c : Char} (h : c.toNat < 0x20) :
    CharText (encodeChars ['\\', 'u', '0', '0', Nat.digitChar (c.toNat / 16),
      Nat.digitChar (c.toNat % 16)]) c := by
  obtain ⟨b, hb, hvalue⟩ := hexValue?_digitChar (show c.toNat / 16 < 16 by omega)
  obtain ⟨b', hb', hvalue'⟩ := hexValue?_digitChar (show c.toNat % 16 < 16 by omega)
  have hdigits : HexText [48, 48, b, b'] (((0 * 16 + 0) * 16 + c.toNat / 16) * 16 + c.toNat % 16) :=
    .digits rfl rfl hvalue hvalue'
  have hnumber : ((0 * 16 + 0) * 16 + c.toNat / 16) * 16 + c.toNat % 16 = c.toNat := by omega
  have hsplit : encodeChars ['\\', 'u', '0', '0', Nat.digitChar (c.toNat / 16),
      Nat.digitChar (c.toNat % 16)] = 92 :: 117 :: [48, 48, b, b'] := by
    rw [show ['\\', 'u', '0', '0', Nat.digitChar (c.toNat / 16), Nat.digitChar (c.toNat % 16)] =
      ['\\', 'u', '0', '0'] ++ [Nat.digitChar (c.toNat / 16)] ++ [Nat.digitChar (c.toNat % 16)]
      from rfl, encodeChars_append, encodeChars_append, hb, hb']
    rfl
  rw [hnumber] at hdigits
  have htext := CharText.codePoint hdigits (.inl (Nat.lt_trans h (by decide)))
  rwa [Char.ofNat_toNat, ← hsplit] at htext

theorem charText_escapeChar (c : Char) : CharText (encodeChars (escapeChar c)) c := by
  unfold escapeChar
  split
  next h =>
    subst h
    exact .escaped (by decide)
  split
  next h =>
    subst h
    exact .escaped (by decide)
  split
  next h =>
    subst h
    exact .escaped (by decide)
  split
  next h =>
    subst h
    exact .escaped (by decide)
  split
  next h =>
    subst h
    exact .escaped (by decide)
  split
  next h =>
    subst h
    exact .escaped (by decide)
  split
  next h =>
    subst h
    exact .escaped (by decide)
  split
  next hcontrol => exact charText_control hcontrol
  next hquote hbackslash _ _ _ _ _ hcontrol =>
    have hplain := CharText.plain hquote hbackslash (Nat.not_lt.mp hcontrol)
    rwa [← List.append_nil (String.utf8EncodeChar c)] at hplain

theorem charsText_flatMap (cs : List Char) :
    CharsText (encodeChars (cs.flatMap escapeChar)) cs := by
  induction cs with
  | nil => exact .nil
  | cons c cs ih =>
    rw [List.flatMap_cons, encodeChars_append]
    exact .cons (charText_escapeChar c) ih

/-- **Every string is printed as a text that means it.** -/
theorem stringText_renderString (s : String) : StringText (encodeChars (renderString s)) s := by
  refine ⟨_, charsText_flatMap s.toList, ?_⟩
  rw [renderString, encodeChars_append, encodeChars_cons]
  rfl

/-! ## 2. Objects -/

/-- What is printed of the value is a text of it and nests at most so deep. -/
def PrintedWithin (n : Nat) (v : Json) : Prop :=
  ∃ k, k ≤ n ∧ TextOf (encodeChars (render v)) k (.value v)

theorem printedWithin_string (n : Nat) (s : String) : PrintedWithin n (.string s) := by
  refine ⟨0, Nat.zero_le n, .string ?_⟩
  rw [render]
  exact stringText_renderString s

/-- A printed member has no blanks. -/
theorem textOf_member {key : String} {v : Json} {n : Nat}
    (h : TextOf (encodeChars (render v)) n (.value v)) :
    TextOf (encodeChars (renderString key ++ ':' :: render v)) n (.member key v) := by
  have hblanks : Blanks [] := List.forall_mem_nil _
  have hmember := TextOf.member hblanks (stringText_renderString key) hblanks h.bare
  rw [List.nil_append, List.append_nil] at hmember
  rw [encodeChars_append, encodeChars_cons]
  exact hmember

theorem exists_textOf_renderMembers {n : Nat} {member : String × Json}
    {more : List (String × Json)} (h : ∀ m ∈ member :: more, PrintedWithin n m.2) :
    ∃ k, k ≤ n ∧ TextOf (encodeChars (renderMembers (member :: more))) k
      (.members (member :: more)) := by
  induction more generalizing member with
  | nil =>
    obtain ⟨k, hk, htext⟩ := h member List.mem_cons_self
    refine ⟨k, hk, ?_⟩
    rw [renderMembers]
    exact .lastMember (textOf_member htext)
  | cons next more ih =>
    obtain ⟨k, hk, htext⟩ := h member List.mem_cons_self
    obtain ⟨k', hk', hmore⟩ := ih fun m hm => h m (List.mem_cons_of_mem _ hm)
    refine ⟨max k k', Nat.max_le.mpr ⟨hk, hk'⟩, ?_⟩
    rw [renderMembers, encodeChars_append, encodeChars_cons]
    exact .moreMembers (textOf_member htext) hmore

theorem printedWithin_object {n : Nat} {members : List (String × Json)}
    (hnodup : (members.map Prod.fst).Nodup) (h : ∀ m ∈ members, PrintedWithin n m.2) :
    PrintedWithin (n + 1) (.object members) := by
  have hmembers : membersOf members = members := membersOf_of_nodup hnodup
  cases members with
  | nil =>
    refine ⟨1, Nat.le_add_left 1 n, ?_⟩
    rw [render, renderMembers]
    exact .ofObject (@TextOf.emptyObject [] (List.forall_mem_nil _))
  | cons member more =>
    obtain ⟨k, hk, htext⟩ := exists_textOf_renderMembers h
    refine ⟨k + 1, Nat.succ_le_succ hk, ?_⟩
    have hobject := TextOf.ofObject (.object htext)
    rw [hmembers] at hobject
    rw [render, encodeChars_append, encodeChars_cons]
    exact hobject

/-- **What is printed is read back.** -/
theorem ofText_text {n : Nat} {v : Json} (h : PrintedWithin n v) (hn : n < depthLimit) :
    ofText v.text = .ok v := by
  obtain ⟨k, hk, htext⟩ := h
  have hencode : encode v.text = encodeChars (render v) := by
    rw [encode, text, String.toList_ofList]
  rw [ofText, hencode]
  exact ofBytes_of_textOf htext.bare (Nat.lt_of_le_of_lt hk hn)

end SqlGateway.Json
