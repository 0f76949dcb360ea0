/-
# What a forest means

A forest is evaluated from left to right, writing the statement as it goes: text is copied, the
placeholder of a declared name writes markers and appends the values they stand for, and a block of
a declared name is passed over, or entered without its markers.  No text is searched or scanned.
An absent block is passed over with all that is in it, so a placeholder inside never counts as
missing, while a placeholder in front of it does.

`Forest.compile_text_eq_evaluate` says that compiling the text of a well-formed forest does exactly
this, for all fields, all declared names and both marker styles.
-/
import SqlGateway.Proofs.Template.Forest

namespace SqlGateway

/-! ## 1. Writing a statement -/

namespace Statement

/-- The statement before anything is written. -/
def empty : Statement := ⟨"", []⟩

/-- Text behind the statement. -/
def write (s : Statement) (text : List Char) : Statement :=
  { s with sql := s.sql ++ String.ofList text }

/-- The next marker behind the statement, and the value it stands for. -/
def bind (style : MarkerStyle) (s : Statement) (v : Scalar) : Statement :=
  ⟨s.sql ++ String.ofList (style.marker (s.args.length + 1)), s.args ++ [v]⟩

/-- A marker for every value, with commas between them. -/
def bindAll (style : MarkerStyle) (s : Statement) : List Scalar → Statement
  | [] => s
  | [v] => s.bind style v
  | v :: w :: more => bindAll style ((s.bind style v).write [',']) (w :: more)

/-- What the placeholder of a present field writes: a marker, or a bracketed row of markers. -/
def bindField (style : MarkerStyle) (s : Statement) : FieldValue → Statement
  | .scalar v => s.bind style v
  | .list items => ((s.write ['(']).bindAll style items).write [')']

end Statement

namespace Template

/-! ## 2. Evaluation -/

/-- Evaluates a forest from left to right; `s` is what has been written before it. -/
def Forest.evaluate (style : MarkerStyle) (fields : Fields) (declared : List String) :
    Forest → Statement → Except MissingParam Statement
  | nil, s => .ok s
  | literal cs next, s => next.evaluate style fields declared (s.write cs)
  | placeholder name next, s =>
    if name ∈ declared then
      match fields.present? name with
      | some value => next.evaluate style fields declared (s.bindField style value)
      | none => .error ⟨name⟩
    else next.evaluate style fields declared (s.write (tokenText .placeholder name.toList))
  | block name body next, s =>
    if name ∈ declared then
      if fields.isPresent name then do
        let s ← body.evaluate style fields declared s
        next.evaluate style fields declared s
      else next.evaluate style fields declared s
    else do
      let s ← body.evaluate style fields declared (s.write (tokenText .opening name.toList))
      next.evaluate style fields declared (s.write (tokenText .closing name.toList))

/-! ## 3. Chunks as they are written -/

theorem writeFrom_append (style : MarkerStyle) (n : Nat) (a b : List Chunk) :
    writeFrom style n (a ++ b) =
      writeFrom style n a ++ writeFrom style (n + (boundValues a).length) b := by
  induction a generalizing n with
  | nil => rfl
  | cons c a ih =>
    cases c with
    | char c => simp [writeFrom, boundValues, ih]
    | bound v =>
      simp only [List.cons_append, writeFrom, ih, boundValues, List.filterMap_cons,
        List.length_cons, List.append_assoc]
      congr 3
      omega

theorem boundValues_append (a b : List Chunk) :
    boundValues (a ++ b) = boundValues a ++ boundValues b := List.filterMap_append

theorem boundValues_map_char (cs : List Char) : boundValues (cs.map .char) = [] := by
  simp [boundValues, List.filterMap_map]

theorem writeFrom_map_char (style : MarkerStyle) (n : Nat) (cs : List Char) :
    writeFrom style n (cs.map .char) = cs := by
  induction cs with
  | nil => rfl
  | cons c cs ih => simp [writeFrom, ih]

theorem statementOf_nil (style : MarkerStyle) : statementOf style [] = .empty := rfl

theorem statementOf_append_text (style : MarkerStyle) (a : List Chunk) (cs : List Char) :
    statementOf style (a ++ cs.map .char) = (statementOf style a).write cs := by
  simp [statementOf, Statement.write, writeFrom_append, boundValues_append, boundValues_map_char,
    writeFrom_map_char, String.ofList_append]

theorem statementOf_append_bound (style : MarkerStyle) (a : List Chunk) (v : Scalar) :
    statementOf style (a ++ [.bound v]) = (statementOf style a).bind style v := by
  simp [statementOf, Statement.bind, writeFrom_append, writeFrom, String.ofList_append,
    boundValues]

theorem statementOf_append_commaSeparated (style : MarkerStyle) (a : List Chunk)
    (items : List Scalar) :
    statementOf style (a ++ commaSeparated items) = (statementOf style a).bindAll style items := by
  fun_induction commaSeparated items generalizing a with
  | case1 => simp [Statement.bindAll]
  | case2 v => exact statementOf_append_bound style a v
  | case3 v w rest ih =>
    have hsplit : a ++ .bound v :: .char ',' :: commaSeparated (w :: rest) =
        a ++ [.bound v] ++ [','].map .char ++ commaSeparated (w :: rest) := by simp
    rw [hsplit, ih, statementOf_append_text, statementOf_append_bound, Statement.bindAll]

theorem statementOf_append_chunksOf (style : MarkerStyle) (a : List Chunk) (value : FieldValue) :
    statementOf style (a ++ chunksOf value) = (statementOf style a).bindField style value := by
  cases value with
  | scalar v => exact statementOf_append_bound style a v
  | list items =>
    have hsplit : a ++ chunksOf (.list items) =
        a ++ ['('].map .char ++ commaSeparated items ++ [')'].map .char := by simp [chunksOf]
    rw [hsplit, statementOf_append_text, statementOf_append_commaSeparated,
      statementOf_append_text, Statement.bindField]

/-! ## 4. Substitution -/

section

variable {fields : Fields} {declared : List String}

theorem substitute_cons (p : Piece) (ps : List Piece) :
    substitute fields declared (p :: ps) = (substitutePiece fields declared p).bind fun a =>
      (substitute fields declared ps).map (a ++ ·) := by
  rw [substitute]
  cases substitutePiece fields declared p with
  | error e => rfl
  | ok a => cases substitute fields declared ps <;> rfl

theorem substitute_append (ps qs : List Piece) :
    substitute fields declared (ps ++ qs) = (substitute fields declared ps).bind fun a =>
      (substitute fields declared qs).map (a ++ ·) := by
  induction ps with
  | nil => cases h : substitute fields declared qs <;> simp [substitute, h] <;> rfl
  | cons p ps ih =>
    rw [List.cons_append, substitute_cons, substitute_cons, ih]
    cases substitutePiece fields declared p with
    | error e => rfl
    | ok a =>
      cases substitute fields declared ps with
      | error e => rfl
      | ok b => cases substitute fields declared qs <;> simp [Except.bind, Except.map]

theorem substitute_map_char (cs : List Char) :
    substitute fields declared (cs.map .char) = .ok (cs.map .char) := by
  induction cs with
  | nil => rfl
  | cons c cs ih =>
    rw [List.map_cons, substitute_cons, ih]
    rfl

/-- The markers of a block that is not cut out: dropped if its name is declared, else copied. -/
theorem substitutePiece_marker {kind : TokenKind} {name : String} (hkind : kind ≠ .placeholder)
    (h : name ∈ declared → fields.isPresent name = true) :
    substitutePiece fields declared (.token ⟨kind, name⟩) =
      .ok (if name ∈ declared then [] else (tokenText kind name.toList).map .char) := by
  rw [substitutePiece]
  by_cases hdeclared : name ∈ declared
  · obtain ⟨value, hvalue⟩ := Option.isSome_iff_exists.mp (h hdeclared)
    simp only [hdeclared, if_true, hvalue]
  · simp only [hdeclared, if_false, Token.text]

/-! ## 5. Compiling is evaluating -/

/-- The statement if `r` is what stands behind the chunks `a`. -/
def statementBehind (style : MarkerStyle) (a : List Chunk)
    (r : Except MissingParam (List Chunk)) : Except MissingParam Statement :=
  r.map fun b => statementOf style (a ++ b)

theorem statementBehind_map (style : MarkerStyle) (a b : List Chunk)
    (r : Except MissingParam (List Chunk)) :
    statementBehind style a (r.map (b ++ ·)) = statementBehind style (a ++ b) r := by
  cases r <;> simp [statementBehind, Except.map]

theorem statementBehind_bind (style : MarkerStyle) (a : List Chunk)
    (r r' : Except MissingParam (List Chunk)) :
    statementBehind style a (r.bind fun b => r'.map (b ++ ·)) =
      r.bind fun b => statementBehind style (a ++ b) r' := by
  cases r with
  | error e => rfl
  | ok b => exact statementBehind_map style a b r'

/-- Evaluation writes what substitution makes of the pruned forest.  The induction is on the
forest, for everything that may have been written before it. -/
theorem Forest.evaluate_statementOf (style : MarkerStyle) (f : Forest) (a : List Chunk) :
    f.evaluate style fields declared (statementOf style a) = statementBehind style a
      (substitute fields declared (f.prune (isAbsent fields declared)).pieces) := by
  induction f generalizing a with
  | nil => simp [evaluate, prune, pieces, substitute, statementBehind, Except.map]
  | literal cs next ih =>
    rw [evaluate, prune, pieces, substitute_append, substitute_map_char,
      ← statementOf_append_text, ih]
    exact (statementBehind_map ..).symm
  | placeholder name next ih =>
    rw [evaluate, prune, pieces, substitute_cons, substitutePiece]
    by_cases hdeclared : name ∈ declared
    · simp only [hdeclared, if_true]
      cases hvalue : fields.present? name with
      | none => rfl
      | some value =>
        simp only
        rw [← statementOf_append_chunksOf, ih]
        exact (statementBehind_map ..).symm
    · simp only [hdeclared, if_false]
      rw [← statementOf_append_text, ih]
      exact (statementBehind_map ..).symm
  | block name body next ihb ihn =>
    by_cases habsent : isAbsent fields declared name = true
    · obtain ⟨hdeclared, hmissing⟩ : name ∈ declared ∧ fields.isPresent name = false := by
        simpa [isAbsent] using habsent
      rw [evaluate, if_pos hdeclared, hmissing, if_neg Bool.false_ne_true, prune, if_pos habsent]
      exact ihn a
    · have hkept : name ∈ declared → fields.isPresent name = true := by
        simpa [isAbsent] using habsent
      rw [prune, if_neg habsent, pieces, substitute_cons,
        substitutePiece_marker (by decide) hkept, Except.bind, statementBehind_map,
        substitute_append, statementBehind_bind, substitute_cons,
        substitutePiece_marker (by decide) hkept, Except.bind]
      simp only [statementBehind_map]
      rw [evaluate]
      by_cases hdeclared : name ∈ declared
      · simp only [hdeclared, hkept hdeclared, if_true, List.append_nil, ihb]
        cases substitute fields declared (body.prune (isAbsent fields declared)).pieces with
        | error e => rfl
        | ok b => exact ihn (a ++ b)
      · simp only [hdeclared, if_false, ← statementOf_append_text, ihb]
        cases substitute fields declared (body.prune (isAbsent fields declared)).pieces with
        | error e => rfl
        | ok b =>
          refine Eq.trans ?_ (ihn _)
          rw [statementOf_append_text]
          rfl

theorem isName_of_mem_declaredNames {template name : String}
    (h : name ∈ declaredNames template) : IsName name.toList := by
  simp only [declaredNames, List.mem_eraseDups, List.mem_map, List.mem_append,
    List.mem_filter] at h
  obtain ⟨t, ht, rfl⟩ := h
  have hscan : t ∈ scan template := ht.elim (·.1) (·.1)
  obtain ⟨p, hp, hpt⟩ := List.mem_filterMap.mp hscan
  cases p with
  | char c => simp [Piece.token?] at hpt
  | token t' =>
    obtain rfl := Option.some.inj hpt
    exact isName_of_mem_pieces hp

end

/-- **Compiling the text of a forest is evaluating the forest.**  For every well-formed forest, its
text is accepted as a template, the names it declares are names, and whatever the fields, the
declared names and the marker style are, the compiler answers what evaluation from left to right
does. -/
theorem Forest.compile_text_eq_evaluate (f : Forest) (h : f.WellFormed) :
    validate (String.ofList f.text) = .ok () ∧
      (∀ name ∈ declaredNames (String.ofList f.text), IsName name.toList) ∧
      ∀ (style : MarkerStyle) (fields : Fields) (declared : List String),
        (∀ name ∈ declared, IsName name.toList) →
          compile style (String.ofList f.text) fields declared =
            f.evaluate style fields declared .empty := by
  refine ⟨validate_text h, fun _ => isName_of_mem_declaredNames, ?_⟩
  intro style fields declared hdeclared
  rw [compile, String.toList_ofList, stripAbsent_text h fields hdeclared,
    pieces_text (h.prune _), ← statementOf_nil style, evaluate_statementOf]
  rfl

/-- A JSON literal, a block inside a block, and a list. -/
def nestedForest : Forest :=
  .literal "SELECT '\x7b\"k\": 1\x7d' FROM t WHERE 1=1".toList <|
  .block "a"
    (.literal " AND a=".toList <| .placeholder "a" <|
      .block "b" (.literal " AND b=".toList <| .placeholder "b" .nil) .nil) <|
  .literal " AND id IN ".toList <| .placeholder "ids" .nil

theorem compile_nestedForest :
    nestedForest.WellFormed ∧ (∀ name ∈ ["a", "ids", "b"], IsName name.toList) ∧
      compile .dollar (String.ofList nestedForest.text)
          ⟨[("a", .scalar (.text "x")), ("ids", .list [.bool true, .null])]⟩ ["a", "ids", "b"] =
        .ok ⟨"SELECT '\x7b\"k\": 1\x7d' FROM t WHERE 1=1 AND a=$1 AND id IN ($2,$3)",
          [.text "x", .bool true, .null]⟩ := by
  have hforest : nestedForest.WellFormed := by decide
  have hdeclared : ∀ name ∈ ["a", "ids", "b"], IsName name.toList := by decide
  refine ⟨hforest, hdeclared, ?_⟩
  rw [(Forest.compile_text_eq_evaluate nestedForest hforest).2.2 .dollar _ _ hdeclared]
  rfl

end Template

end SqlGateway
