/-
# What texts of the grammar are read as

The readers of arrays and objects go from entry to entry and know nothing of the grammar.  Here
both meet: `read_of_textOf` is by induction on the text, and `Form.Read` says for each form what the
reader does when the text stands in front of it, whatever stands behind.

A text that nests too deep is not read, and how deep it nests is not told by its value: of members
with one key only the last is kept.  So a reading is never wrong (`Takes.sound`), and it is there
when the text does not nest too deep (`Takes.complete`).
-/
import SqlGateway.Proofs.Config.Accepted
import SqlGateway.Proofs.Json.Tokens

namespace SqlGateway.Json

open Text

variable {ε α β : Type} {s t rest : List UInt8}

/-! ## 1. Separators -/

theorem length_le_of_skipBlanks (hs : skipBlanks s = t) : t.length ≤ s.length :=
  hs ▸ length_skipBlanks_le s

section

variable {first : Bool} {b c : UInt8} {u : List UInt8}

theorem length_le_of_comma (hs : skipBlanks s = b :: t) (ht : skipBlanks t = u) :
    u.length ≤ s.length :=
  Nat.le_trans (length_le_of_skipBlanks ht) (Nat.le_of_succ_le (length_le_of_skipBlanks hs))

theorem nextItem_close (hs : skipBlanks s = 93 :: t) :
    nextItem first s = .ok (.close t (length_le_of_skipBlanks hs)) := by
  unfold nextItem
  split
  next hnil => rw [hs] at hnil; cases hnil
  next b' t' hcons =>
    obtain ⟨rfl, rfl⟩ := List.cons.inj (hs.symm.trans hcons)
    exact if_pos rfl

theorem nextItem_first (hs : skipBlanks s = b :: t) (hb : b ≠ 93) :
    nextItem true s = .ok (.entry (b :: t) (length_le_of_skipBlanks hs)) := by
  unfold nextItem
  split
  next hnil => rw [hs] at hnil; cases hnil
  next b' t' hcons =>
    obtain ⟨rfl, rfl⟩ := List.cons.inj (hs.symm.trans hcons)
    dsimp only
    rw [if_neg hb, if_neg (by simp), if_pos rfl]

theorem nextItem_comma (hs : skipBlanks s = 44 :: t) (ht : skipBlanks t = c :: u) (hc : c ≠ 93) :
    nextItem false s = .ok (.entry (c :: u) (length_le_of_comma hs ht)) := by
  unfold nextItem
  split
  next hnil => rw [hs] at hnil; cases hnil
  next b' t' hcons =>
    obtain ⟨rfl, rfl⟩ := List.cons.inj (hs.symm.trans hcons)
    dsimp only
    rw [if_neg (by decide), if_pos (by decide)]
    split
    next hnil => rw [ht] at hnil; cases hnil
    next c' u' hcons' =>
      obtain ⟨rfl, rfl⟩ := List.cons.inj (ht.symm.trans hcons')
      exact if_neg hc

theorem nextKey_close (hs : skipBlanks s = 125 :: t) :
    nextKey first s = .ok (.close t (length_le_of_skipBlanks hs)) := by
  unfold nextKey
  dsimp only
  split
  next hnil => rw [hs] at hnil; cases hnil
  next b' t' hcons =>
    obtain ⟨rfl, rfl⟩ := List.cons.inj (hs.symm.trans hcons)
    exact if_pos rfl

theorem nextKey_first (hs : skipBlanks s = 34 :: t) :
    nextKey true s = .ok (.entry t (Nat.le_of_succ_le (length_le_of_skipBlanks hs))) := by
  unfold nextKey
  dsimp only
  split
  next hnil => rw [hs] at hnil; cases hnil
  next b' t' hcons =>
    obtain ⟨rfl, rfl⟩ := List.cons.inj (hs.symm.trans hcons)
    rw [if_neg (by decide), if_neg (by simp), if_pos rfl, if_pos rfl]

theorem nextKey_comma (hs : skipBlanks s = 44 :: t) (ht : skipBlanks t = 34 :: u) :
    nextKey false s = .ok (.entry u (Nat.le_of_succ_le (length_le_of_comma hs ht))) := by
  unfold nextKey
  dsimp only
  split
  next hnil => rw [hs] at hnil; cases hnil
  next b' t' hcons =>
    obtain ⟨rfl, rfl⟩ := List.cons.inj (hs.symm.trans hcons)
    rw [if_neg (by decide), if_pos (by decide)]
    split
    next hnil _ => cases ht.symm.trans hnil
    next c' u' _ hcons' _ =>
      obtain ⟨rfl, rfl⟩ := List.cons.inj (ht.symm.trans hcons')
      exact if_pos rfl

end

theorem took_takeColon (hs : skipBlanks s = 58 :: t) : took (takeColon s) = .ok ((), t) := by
  unfold takeColon
  split
  next hnil => rw [hs] at hnil; cases hnil
  next b' t' hcons =>
    obtain ⟨rfl, rfl⟩ := List.cons.inj (hs.symm.trans hcons)
    rw [if_pos rfl, took_ok]

/-- A key is taken with the colon behind it. -/
theorem took_takeKey {inside ws : List UInt8} {key : String} (h : CharsText inside key.toList)
    (hws : Blanks ws) (s : List UInt8) :
    took (takeKey (inside ++ 34 :: (ws ++ 58 :: s))) = .ok (key, s) := by
  obtain ⟨hshorter, htaken⟩ := took_eq_ok_iff.mp (took_takeString h (ws ++ 58 :: s))
  have hskip : skipBlanks (ws ++ 58 :: s) = 58 :: s :=
    (skipBlanks_append hws _).trans (skipBlanks_cons rfl s)
  obtain ⟨hshorter', htaken'⟩ := took_eq_ok_iff.mp (took_takeColon hskip)
  unfold takeKey
  rw [htaken]
  dsimp only [bind, Except.bind]
  rw [htaken']
  exact took_ok _ _ _

/-! ## 2. Steps -/

section

variable {depth : Nat} {first : Bool} {seen : List Json} {seenMembers : List (String × Json)}

theorem took_takeItems_close (hs : skipBlanks s = 93 :: t) :
    took (takeItems depth first seen s) = .ok (seen.reverse, t) := by
  rw [takeItems, nextItem_close hs]
  rfl

/-- An item and all that follow it.  The reader repeats from where an item ends, the grammar from
where one begins. -/
def itemsFrom (depth : Nat) (seen : List Json) (s : List UInt8) :
    Except Fault (List Json × List UInt8) :=
  took (takeValue depth s) >>= fun r => took (takeItems depth false (r.1 :: seen) r.2)

theorem took_takeItems_entry {h : t.length ≤ s.length}
    (hnext : nextItem first s = .ok (.entry t h)) :
    took (takeItems depth first seen s) = itemsFrom depth seen t := by
  rw [takeItems, hnext, itemsFrom]
  dsimp only
  cases takeValue depth t with
  | error e => rfl
  | ok v => exact took_map_widen _ _

theorem took_takeMembers_close (hs : skipBlanks s = 125 :: t) :
    took (takeMembers depth first seenMembers s) = .ok (seenMembers.reverse, t) := by
  rw [takeMembers, nextKey_close hs]
  rfl

/-- A member and all that follow it. -/
def membersFrom (depth : Nat) (seen : List (String × Json)) (s : List UInt8) :
    Except Fault (List (String × Json) × List UInt8) :=
  took (takeKey s) >>= fun k => took (takeValue depth k.2) >>= fun r =>
    took (takeMembers depth false ((k.1, r.1) :: seen) r.2)

theorem took_takeMembers_entry {h : t.length ≤ s.length}
    (hnext : nextKey first s = .ok (.entry t h)) :
    took (takeMembers depth first seenMembers s) = membersFrom depth seenMembers t := by
  rw [takeMembers, hnext, membersFrom]
  dsimp only
  cases takeKey t with
  | error e => rfl
  | ok k =>
    change _ = took (takeValue depth k.rest) >>= _
    dsimp only
    cases takeValue depth k.rest with
    | error e => rfl
    | ok v => exact took_map_widen _ _

theorem took_ite {c : Prop} [Decidable c] {x y : Except ε (Taken α s)}
    {x' y' : Except ε (α × List UInt8)} (hx : took x = x') (hy : took y = y') :
    took (if c then x else y) = if c then x' else y' := by
  rw [← hx, ← hy, apply_ite took]

/-- What is taken from a value does not depend on the blanks in front of it. -/
theorem took_takeValue (hs : skipBlanks s = b :: t) :
    took (takeValue depth s) =
      if b = 110 then (takeWord "ull".toList t).map fun r => (.null, r.1)
      else if b = 116 then (takeWord "rue".toList t).map fun r => (.bool true, r.1)
      else if b = 102 then (takeWord "alse".toList t).map fun r => (.bool false, r.1)
      else if b = 45 then (took (takeNumber true t)).map (Prod.map .number id)
      else if isDigit b then (took (takeNumber false (b :: t))).map (Prod.map .number id)
      else if b = 34 then (took (takeString t)).map (Prod.map .string id)
      else if b = 91 then
        if depth ≤ 1 then .error (faultOn .tooDeep (b :: t))
        else (took (takeItems (depth - 1) true [] t)).map (Prod.map .array id)
      else if b = 123 then
        if depth ≤ 1 then .error (faultOn .tooDeep (b :: t))
        else (took (takeMembers (depth - 1) true [] t)).map (Prod.map (.object ∘ membersOf) id)
      else .error (faultOn .expectedValue (b :: t)) := by
  rw [takeValue]
  split
  next hnil => rw [hs] at hnil; cases hnil
  next b' t' hcons =>
    obtain ⟨rfl, rfl⟩ := List.cons.inj (hs.symm.trans hcons)
    dsimp only
    refine took_ite ?_ (took_ite ?_ (took_ite ?_ (took_ite ?_ (took_ite ?_ (took_ite ?_
      (took_ite (took_ite rfl ?_) (took_ite (took_ite rfl ?_) rfl)))))))
    · cases takeWord "ull".toList t <;> rfl
    · cases takeWord "rue".toList t <;> rfl
    · cases takeWord "alse".toList t <;> rfl
    · cases takeNumber true t <;> rfl
    · cases takeNumber false (b :: t) <;> rfl
    · cases takeString t <;> rfl
    · cases takeItems (depth - 1) true [] t <;> rfl
    · cases takeMembers (depth - 1) true [] t <;> rfl

end

theorem took_takeValue_congr {s' : List UInt8} (depth : Nat) (h : skipBlanks s = skipBlanks s')
    (hne : skipBlanks s ≠ []) : took (takeValue depth s) = took (takeValue depth s') := by
  obtain ⟨b, t, hs⟩ := List.exists_cons_of_ne_nil hne
  rw [took_takeValue hs, took_takeValue (h.symm.trans hs)]

/-- A text starts with a byte that is neither a blank nor a closing bracket. -/
def Starts (bs : List UInt8) : Prop := ∃ b t, skipBlanks bs = b :: t ∧ b ≠ 93

theorem itemsFrom_of_skipBlanks {b : UInt8} {seen : List Json} (depth : Nat)
    (hs : skipBlanks s = b :: t) : itemsFrom depth seen (b :: t) = itemsFrom depth seen s := by
  have hagain : skipBlanks (b :: t) = skipBlanks s := by rw [← hs, skipBlanks_skipBlanks]
  have hne : skipBlanks (b :: t) ≠ [] := by rw [hagain, hs]; exact List.cons_ne_nil b t
  rw [itemsFrom, itemsFrom, took_takeValue_congr depth hagain hne]

theorem took_takeItems_first {bs : List UInt8} {seen : List Json} (depth : Nat) (h : Starts bs)
    (s : List UInt8) :
    took (takeItems depth true seen (bs ++ s)) = itemsFrom depth seen (bs ++ s) := by
  obtain ⟨b, t, hs, hb⟩ := h
  have hskip := skipBlanks_append_of_eq_cons hs s
  rw [took_takeItems_entry (nextItem_first hskip hb), itemsFrom_of_skipBlanks depth hskip]

theorem took_takeItems_comma {ws bs : List UInt8} {seen : List Json} (depth : Nat) (hws : Blanks ws)
    (h : Starts bs) (s : List UInt8) :
    took (takeItems depth false seen (ws ++ 44 :: (bs ++ s))) = itemsFrom depth seen (bs ++ s) := by
  obtain ⟨b, t, hs, hb⟩ := h
  have hcomma := (skipBlanks_append hws (44 :: (bs ++ s))).trans (skipBlanks_cons rfl _)
  have hskip := skipBlanks_append_of_eq_cons hs s
  rw [took_takeItems_entry (nextItem_comma hcomma hskip hb), itemsFrom_of_skipBlanks depth hskip]

/-! ## 3. Values -/

/-- What a reader gives, if it gives anything; and it does if the condition holds. -/
structure Takes (x : Except ε α) (a : α) (fit : Prop) : Prop where
  complete : fit → x = .ok a
  sound : ∀ b, x = .ok b → b = a

namespace Takes

variable {x : Except ε α} {a : α} {f : α → Except ε β} {b : β} {fit fit' : Prop}

theorem of_eq (h : x = .ok a) : Takes x a fit where
  complete _ := h
  sound _ hb := Except.ok.inj (hb.symm.trans h)

theorem of_error {e : ε} (h : x = .error e) (hfit : ¬ fit) : Takes x a fit where
  complete hyes := absurd hyes hfit
  sound _ hb := by rw [h] at hb; cases hb

theorem mono (h : Takes x a fit) (himp : fit' → fit) : Takes x a fit' where
  complete hyes := h.complete (himp hyes)
  sound := h.sound

theorem bind (h : Takes x a fit) (hf : Takes (f a) b fit') : Takes (x >>= f) b (fit ∧ fit') where
  complete := by
    rintro ⟨hyes, hyes'⟩
    rw [h.complete hyes]
    exact hf.complete hyes'
  sound := by
    intro b' hb'
    obtain ⟨a', hx, hfa⟩ := bind_eq_ok_iff.mp hb'
    rw [h.sound a' hx] at hfa
    exact hf.sound b' hfa

theorem bind_ok (h : Takes x a fit) (hf : f a = .ok b) : Takes (x >>= f) b fit :=
  (h.bind (of_eq hf)).mono fun hyes => And.intro hyes hyes

theorem map (h : Takes x a fit) (f : α → β) : Takes (x.map f) (f a) fit where
  complete hyes := by rw [h.complete hyes]; rfl
  sound := by
    intro b hb
    obtain ⟨a', hx, rfl⟩ := map_eq_ok_iff.mp hb
    rw [h.sound a' hx]

end Takes

/-- The value is read, and the blanks behind it are left. -/
def ValueRead (bs ws : List UInt8) (n : Nat) (v : Json) : Prop :=
  ∀ depth rest, EndsNumber rest →
    Takes (took (takeValue depth (bs ++ rest))) (v, ws ++ rest) (n < depth)

/-- The key is read, and the value behind it. -/
def MemberRead (bs : List UInt8) (n : Nat) (key : String) (v : Json) : Prop :=
  ∃ ks vs ws, (∀ s, skipBlanks (bs ++ s) = 34 :: (ks ++ (vs ++ s))) ∧
    (∀ s, took (takeKey (ks ++ s)) = .ok (key, s)) ∧ Blanks ws ∧ ValueRead vs ws n v

/-- What reading does with a text of a form, in which brackets nest `n` deep.  A depth counts one
more than the brackets that may nest, and an object has taken one away before its members come. -/
def Form.Read (bs : List UInt8) (n : Nat) : Form → Prop
  | .value v => Starts bs ∧ ValueRead bs [] n v
  | .element v => Starts bs ∧ ∃ ws, Blanks ws ∧ ValueRead bs ws n v
  | .elements vs => Starts bs ∧ ∀ depth seen rest,
      Takes (itemsFrom depth seen (bs ++ 93 :: rest)) (seen.reverse ++ vs, rest) (n < depth)
  | .member key v => MemberRead bs n key v
  | .members ms => ∃ ks, (∀ s, skipBlanks (bs ++ s) = 34 :: (ks ++ s)) ∧ ∀ depth seen rest,
      Takes (membersFrom depth seen (ks ++ 125 :: rest)) (seen.reverse ++ ms, rest) (n < depth)
  | .object ms => 1 ≤ n ∧ ∃ t, bs = 123 :: t ∧ ∀ depth rest,
      Takes (took (takeMembers depth true [] (t ++ rest))) (ms, rest) (n < depth + 1)

theorem EndsNumber.append {ws : List UInt8} (hws : Blanks ws) (h : EndsNumber rest) :
    EndsNumber (ws ++ rest) := by
  cases ws with
  | nil => exact h
  | cons w ws =>
    intro b hb
    obtain rfl : w = b := Option.some.inj hb
    have hspace := hws w List.mem_cons_self
    simp only [isSpace, Bool.or_eq_true, beq_iff_eq] at hspace
    rcases hspace with ((rfl | rfl) | rfl) | rfl <;> decide

theorem endsNumber_cons {b : UInt8} (h : isDigit b = false ∧ b ≠ 46 ∧ b ≠ 101 ∧ b ≠ 69)
    (s : List UInt8) : EndsNumber (b :: s) := by
  intro b' hb'
  obtain rfl : b = b' := Option.some.inj hb'
  exact h

/-- A word is read if its first letter tells that it comes. -/
theorem read_word {first : UInt8} {word : String} {v : Json} {bs : List UInt8}
    (hbs : bs = first :: word.toList.map (fun c => UInt8.ofNat c.toNat))
    (hword : word.toList.all (fun c => c.toNat < 256) = true)
    (hfirst : isSpace first = false ∧ first ≠ 93)
    (hvalue : ∀ depth s t, skipBlanks s = first :: t →
      took (takeValue depth s) = (takeWord word.toList t).map fun r => (v, r.1)) :
    (Form.value v).Read bs 0 := by
  subst hbs
  refine ⟨⟨first, _, skipBlanks_cons hfirst.1 _, hfirst.2⟩, fun depth rest _ => .of_eq ?_⟩
  obtain ⟨hle, htaken⟩ := takeWord_append word.toList rest hword
  rw [List.cons_append, hvalue depth _ _ (skipBlanks_cons hfirst.1 _), htaken]
  rfl

theorem read_null : (Form.value .null).Read (Utf8.encode "null") 0 := by
  refine @read_word 110 "ull" _ _ rfl (by decide) (by decide) fun depth s t hs => ?_
  rw [took_takeValue hs, if_pos rfl]

theorem read_true : (Form.value (.bool true)).Read (Utf8.encode "true") 0 := by
  refine @read_word 116 "rue" _ _ rfl (by decide) (by decide) fun depth s t hs => ?_
  rw [took_takeValue hs, if_neg (by decide), if_pos rfl]

theorem read_false : (Form.value (.bool false)).Read (Utf8.encode "false") 0 := by
  refine @read_word 102 "alse" _ _ rfl (by decide) (by decide) fun depth s t hs => ?_
  rw [took_takeValue hs, if_neg (by decide), if_neg (by decide), if_pos rfl]

theorem read_string {bs : List UInt8} {text : String} (h : StringText bs text) :
    (Form.value (.string text)).Read bs 0 := by
  obtain ⟨inside, hinside, rfl⟩ := h
  refine ⟨⟨34, _, skipBlanks_cons rfl _, by decide⟩, fun depth rest _ => .of_eq ?_⟩
  have hs : skipBlanks (34 :: inside ++ [34] ++ rest) = 34 :: (inside ++ 34 :: rest) := by
    rw [List.append_assoc]
    exact skipBlanks_cons rfl _
  rw [took_takeValue hs, took_takeString hinside]
  rfl

theorem read_number {n : Numeral} {x : JsonNumber} (h : n.value? = some x) :
    (Form.value (.number x)).Read n.text 0 := by
  obtain ⟨d, ds, hwhole⟩ := List.exists_cons_of_ne_nil n.nonempty
  have hd : isDigit d = true := n.isWhole d (hwhole ▸ List.mem_cons_self)
  have hne : ∀ b : UInt8, isDigit b = false → d ≠ b := by
    rintro b hb rfl
    exact Bool.false_ne_true (hb.symm.trans hd)
  have htook := fun rest => @took_takeNumber rest n x h
  cases hsign : n.negative with
  | true =>
    have htext : ∀ rest, n.text ++ rest =
        45 :: (n.whole ++ (n.fractionText ++ (n.exponentText ++ rest))) := by
      intro rest
      simp [Numeral.text, hsign]
    have hs := fun rest => (congrArg skipBlanks (htext rest)).trans (skipBlanks_cons rfl _)
    rw [hsign] at htook
    refine ⟨⟨45, _, by rw [← hs [], List.append_nil], by decide⟩, fun depth rest hrest => .of_eq ?_⟩
    rw [took_takeValue (hs rest), if_neg (by decide), if_neg (by decide), if_neg (by decide),
      if_pos rfl, htook rest hrest]
    rfl
  | false =>
    have htext : ∀ rest, n.text ++ rest =
        d :: (ds ++ (n.fractionText ++ (n.exponentText ++ rest))) := by
      intro rest
      simp [Numeral.text, hsign, hwhole]
    have hspace : isSpace d = false := by
      simp [isSpace, hne 32 rfl, hne 10 rfl, hne 9 rfl, hne 13 rfl]
    have hs := fun rest => (congrArg skipBlanks (htext rest)).trans (skipBlanks_cons hspace _)
    rw [hsign, hwhole] at htook
    refine ⟨⟨d, _, by rw [← hs [], List.append_nil], hne 93 rfl⟩,
      fun depth rest hrest => .of_eq ?_⟩
    rw [took_takeValue (hs rest), if_neg (hne 110 rfl), if_neg (hne 116 rfl), if_neg (hne 102 rfl),
      if_neg (hne 45 rfl), if_pos hd, ← List.cons_append, htook rest hrest]
    rfl

theorem read_brackets {bs : List UInt8} {n : Nat} {vs : List Json} (h : ∀ depth rest,
      Takes (took (takeItems depth true [] (bs ++ 93 :: rest))) (vs, rest) (n < depth)) :
    (Form.value (.array vs)).Read (91 :: bs ++ [93]) (n + 1) := by
  refine ⟨⟨91, _, skipBlanks_cons rfl _, by decide⟩, fun depth rest _ => ?_⟩
  have hs : skipBlanks (91 :: bs ++ [93] ++ rest) = 91 :: (bs ++ 93 :: rest) := by
    rw [List.append_assoc]
    exact skipBlanks_cons rfl _
  have htook : took (takeValue depth (91 :: bs ++ [93] ++ rest)) =
      if depth ≤ 1 then .error (faultOn .tooDeep (91 :: (bs ++ 93 :: rest)))
      else (took (takeItems (depth - 1) true [] (bs ++ 93 :: rest))).map (Prod.map .array id) :=
    took_takeValue hs
  rw [htook]
  by_cases hdepth : depth ≤ 1
  · exact .of_error (if_pos hdepth) (by omega)
  · rw [if_neg hdepth]
    exact ((h (depth - 1) rest).map (Prod.map Json.array id)).mono (by omega)

theorem read_object {bs : List UInt8} {n : Nat} {ms : List (String × Json)}
    (h : (Form.object ms).Read bs n) : (Form.value (.object (membersOf ms))).Read bs n := by
  obtain ⟨hn, t, rfl, hmembers⟩ := h
  refine ⟨⟨123, _, skipBlanks_cons rfl _, by decide⟩, fun depth rest _ => ?_⟩
  have hs : skipBlanks (123 :: t ++ rest) = 123 :: (t ++ rest) := skipBlanks_cons rfl _
  have htook : took (takeValue depth (123 :: t ++ rest)) =
      if depth ≤ 1 then .error (faultOn .tooDeep (123 :: (t ++ rest)))
      else (took (takeMembers (depth - 1) true [] (t ++ rest))).map
        (Prod.map (.object ∘ membersOf) id) :=
    took_takeValue hs
  rw [htook]
  by_cases hdepth : depth ≤ 1
  · exact .of_error (if_pos hdepth) (by omega)
  · rw [if_neg hdepth]
    exact ((hmembers (depth - 1) rest).map (Prod.map (Json.object ∘ membersOf) id)).mono (by omega)

theorem read_element {ws bs ws' : List UInt8} {n : Nat} {v : Json} (hws : Blanks ws)
    (hws' : Blanks ws') (h : (Form.value v).Read bs n) :
    (Form.element v).Read (ws ++ bs ++ ws') n := by
  obtain ⟨⟨b, t, hs, hb⟩, hvalue⟩ := h
  have hskip : ∀ s, skipBlanks (ws ++ bs ++ s) = b :: (t ++ s) := by
    intro s
    rw [List.append_assoc, skipBlanks_append hws, skipBlanks_append_of_eq_cons hs]
  refine ⟨⟨b, _, hskip ws', hb⟩, ws', hws', fun depth rest hrest => ?_⟩
  have hfront : skipBlanks (ws ++ bs ++ ws' ++ rest) = skipBlanks (bs ++ (ws' ++ rest)) := by
    rw [List.append_assoc (ws ++ bs), hskip, skipBlanks_append_of_eq_cons hs]
  rw [took_takeValue_congr depth hfront (by rw [List.append_assoc (ws ++ bs), hskip]; simp)]
  exact hvalue depth (ws' ++ rest) (hrest.append hws')

theorem read_lastElement {bs : List UInt8} {n : Nat} {v : Json} (h : (Form.element v).Read bs n) :
    (Form.elements [v]).Read bs n := by
  obtain ⟨hstarts, ws, hws, hvalue⟩ := h
  refine ⟨hstarts, fun depth seen rest => ?_⟩
  have hskip : skipBlanks (ws ++ 93 :: rest) = 93 :: rest :=
    (skipBlanks_append hws _).trans (skipBlanks_cons rfl _)
  have hclose : took (takeItems depth false (v :: seen) (ws ++ 93 :: rest)) =
      .ok (seen.reverse ++ [v], rest) := by
    rw [took_takeItems_close hskip, List.reverse_cons]
  exact (hvalue depth _ (endsNumber_cons (by decide) rest)).bind_ok hclose

theorem read_moreElements {bs more : List UInt8} {n k : Nat} {v : Json} {vs : List Json}
    (h : (Form.element v).Read bs n) (hmore : (Form.elements vs).Read more k) :
    (Form.elements (v :: vs)).Read (bs ++ 44 :: more) (max n k) := by
  obtain ⟨⟨b, t, hs, hb⟩, ws, hws, hvalue⟩ := h
  obtain ⟨hstarts, hitems⟩ := hmore
  refine ⟨⟨b, _, skipBlanks_append_of_eq_cons hs _, hb⟩, fun depth seen rest => ?_⟩
  have hnext := hitems depth (v :: seen) rest
  rw [← took_takeItems_comma depth hws hstarts, List.reverse_cons, List.append_assoc] at hnext
  rw [List.append_assoc]
  exact ((hvalue depth _ (endsNumber_cons (by decide) _)).bind hnext).mono Nat.max_lt.mp

theorem read_member {ws ks ws' bs : List UInt8} {n : Nat} {key : String} {v : Json}
    (hws : Blanks ws) (hkey : StringText ks key) (hws' : Blanks ws')
    (h : (Form.element v).Read bs n) :
    (Form.member key v).Read (ws ++ ks ++ ws' ++ 58 :: bs) n := by
  obtain ⟨inside, hinside, rfl⟩ := hkey
  obtain ⟨-, wsBehind, hwsBehind, hvalue⟩ := h
  refine ⟨inside ++ 34 :: (ws' ++ [58]), bs, wsBehind, fun s => ?_, fun s => ?_, hwsBehind, hvalue⟩
  · have hsplit : ws ++ (34 :: inside ++ [34]) ++ ws' ++ 58 :: bs ++ s =
        ws ++ 34 :: (inside ++ 34 :: (ws' ++ [58]) ++ (bs ++ s)) := by simp
    rw [hsplit, skipBlanks_append hws, skipBlanks_cons rfl]
  · have hsplit : inside ++ 34 :: (ws' ++ [58]) ++ s = inside ++ 34 :: (ws' ++ 58 :: s) := by simp
    rw [hsplit, took_takeKey hinside hws']

theorem read_lastMember {bs : List UInt8} {n : Nat} {key : String} {v : Json}
    (h : (Form.member key v).Read bs n) : (Form.members [(key, v)]).Read bs n := by
  obtain ⟨ks, vs, ws, hskip, hkey, hws, hvalue⟩ := h
  refine ⟨ks ++ vs, fun s => by rw [hskip, List.append_assoc], fun depth seen rest => ?_⟩
  have hclosing : skipBlanks (ws ++ 125 :: rest) = 125 :: rest :=
    (skipBlanks_append hws _).trans (skipBlanks_cons rfl _)
  have hclose : took (takeMembers depth false ((key, v) :: seen) (ws ++ 125 :: rest)) =
      .ok (seen.reverse ++ [(key, v)], rest) := by
    rw [took_takeMembers_close hclosing, List.reverse_cons]
  rw [List.append_assoc, membersFrom, hkey]
  exact (hvalue depth _ (endsNumber_cons (by decide) rest)).bind_ok hclose

theorem took_takeMembers_comma {ws bs ks : List UInt8} {seen : List (String × Json)} (depth : Nat)
    (hws : Blanks ws) (h : ∀ s, skipBlanks (bs ++ s) = 34 :: (ks ++ s)) (s : List UInt8) :
    took (takeMembers depth false seen (ws ++ 44 :: (bs ++ s))) =
      membersFrom depth seen (ks ++ s) := by
  have hcomma := (skipBlanks_append hws (44 :: (bs ++ s))).trans (skipBlanks_cons rfl _)
  rw [took_takeMembers_entry (nextKey_comma hcomma (h s))]

theorem read_moreMembers {bs more : List UInt8} {n k : Nat} {key : String} {v : Json}
    {ms : List (String × Json)} (h : (Form.member key v).Read bs n)
    (hmore : (Form.members ms).Read more k) :
    (Form.members ((key, v) :: ms)).Read (bs ++ 44 :: more) (max n k) := by
  obtain ⟨ks, vs, ws, hskip, hkey, hws, hvalue⟩ := h
  obtain ⟨ks', hskip', hmembers⟩ := hmore
  refine ⟨ks ++ (vs ++ 44 :: more), fun s => ?_, fun depth seen rest => ?_⟩
  · rw [List.append_assoc, hskip, List.append_assoc, List.append_assoc]
  · have hnext := hmembers depth ((key, v) :: seen) rest
    rw [← took_takeMembers_comma depth hws hskip', List.reverse_cons, List.append_assoc] at hnext
    rw [List.append_assoc, List.append_assoc, membersFrom, hkey]
    exact ((hvalue depth _ (endsNumber_cons (by decide) _)).bind hnext).mono Nat.max_lt.mp

/-- **What a text of the grammar is read as.** -/
theorem read_of_textOf {bs : List UInt8} {n : Nat} {form : Form} (h : TextOf bs n form) :
    form.Read bs n := by
  induction h with
  | null => exact read_null
  | true => exact read_true
  | false => exact read_false
  | number hmeans => exact read_number hmeans
  | string written => exact read_string written
  | @emptyArray ws blanks =>
    refine @read_brackets ws 0 [] fun depth rest => .of_eq ?_
    exact took_takeItems_close ((skipBlanks_append blanks _).trans (skipBlanks_cons rfl _))
  | array _ ih =>
    obtain ⟨hstarts, hitems⟩ := ih
    refine read_brackets fun depth rest => ?_
    rw [took_takeItems_first depth hstarts]
    exact hitems depth [] rest
  | ofObject _ ih => exact read_object ih
  | @emptyObject ws blanks =>
    refine ⟨Nat.le_refl 1, ws ++ [125], rfl, fun depth rest => .of_eq ?_⟩
    rw [List.append_assoc]
    exact took_takeMembers_close ((skipBlanks_append blanks _).trans (skipBlanks_cons rfl _))
  | @object bs n ms _ ih =>
    obtain ⟨ks, hskip, hmembers⟩ := ih
    refine ⟨Nat.succ_pos n, bs ++ [125], rfl, fun depth rest => ?_⟩
    rw [List.append_assoc, took_takeMembers_entry (nextKey_first (hskip _))]
    exact (hmembers depth [] rest).mono Nat.lt_of_succ_lt_succ
  | element front _ back ih => exact read_element front back ih
  | lastElement _ ih => exact read_lastElement ih
  | moreElements _ _ ih ihs => exact read_moreElements ih ihs
  | member front named back _ ih => exact read_member front named back ih
  | lastMember _ ih => exact read_lastMember ih
  | moreMembers _ _ ih ihs => exact read_moreMembers ih ihs

/-- **A text that does not nest too deep is read as its value.** -/
theorem ofBytes_of_textOf {bs : List UInt8} {n : Nat} {v : Json} (h : TextOf bs n (.element v))
    (hn : n < depthLimit) : ofBytes bs = .ok v := by
  obtain ⟨-, ws, hws, hvalue⟩ := read_of_textOf h
  have htook := (hvalue depthLimit [] (fun _ h => nomatch h)).complete hn
  rw [List.append_nil, List.append_nil] at htook
  obtain ⟨hshorter, htaken⟩ := took_eq_ok_iff.mp htook
  have hend : skipBlanks ws = [] := List.dropWhile_eq_nil_iff.mpr hws
  rw [ofBytes, htaken]
  simp only [bind, Except.bind, atEnd, hend]
  rfl

end SqlGateway.Json
