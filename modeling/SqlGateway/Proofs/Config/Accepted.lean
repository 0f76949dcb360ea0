/-
# Accepted configurations

What `Raw.validate` promises about a configuration that it accepts.  Every list of the document is
gone through by `validateAll`, and `validateAll_eq_ok_iff` says exactly when that succeeds and with
what.  From it follows `Raw.uniqueNames_of_validate`: on every level no name is given twice.

Names are compared after they have been trimmed, so uniqueness is a property of the configuration
and not of the document.
-/
import Mathlib.Data.List.Forall2
import SqlGateway.Config.Raw

namespace SqlGateway

/-- A sequence of two steps succeeds exactly if both do. -/
theorem bind_eq_ok_iff {ε α β : Type} {x : Except ε α} {f : α → Except ε β} {b : β} :
    (x >>= f) = .ok b ↔ ∃ a, x = .ok a ∧ f a = .ok b := by
  cases x with
  | error e => simp [bind, Except.bind]
  | ok a => simp [bind, Except.bind]

/-- A sequence of two steps fails exactly if one of them does. -/
theorem bind_eq_error_iff {ε α β : Type} {x : Except ε α} {f : α → Except ε β} {e : ε} :
    (x >>= f) = .error e ↔ x = .error e ∨ ∃ a, x = .ok a ∧ f a = .error e := by
  cases x with
  | error e => simp [bind, Except.bind]
  | ok a => simp [bind, Except.bind]

theorem map_eq_ok_iff {ε α β : Type} {f : α → β} {x : Except ε α} {b : β} :
    x.map f = .ok b ↔ ∃ a, x = .ok a ∧ f a = b := by
  cases x <;> simp [Except.map]

theorem mapError_eq_ok_iff {ε ε' α : Type} {f : ε → ε'} {x : Except ε α} {a : α} :
    x.mapError f = .ok a ↔ x = .ok a := by
  cases x <;> simp [Except.mapError]

theorem mapError_eq_error_iff {ε ε' α : Type} {f : ε → ε'} {x : Except ε α} {e' : ε'} :
    x.mapError f = .error e' ↔ ∃ e, x = .error e ∧ f e = e' := by
  cases x <;> simp [Except.mapError]

/-- A guarded step succeeds exactly if the guard lets it pass and it does. -/
theorem guard_eq_ok_iff {ε α : Type} {p : Prop} [Decidable p] {e : ε} {x : Except ε α} {a : α} :
    (do
      if p then throw e
      x) = .ok a ↔ ¬ p ∧ x = .ok a := by
  by_cases hp : p
  · simp only [hp, if_true, not_true, false_and, iff_false]
    intro h
    cases h
  · simp only [hp, if_false, not_false_eq_true, true_and]

namespace Config

/-! ## 1. Lists of entries -/

section

variable {α β : Type} {validate : α → Except Error β} {name : β → String} {clash : β → Error}

theorem validateAll_cons_eq_ok_iff {seen : List String} {a : α} {more : List α}
    {results : List β} :
    validateAll validate name clash seen (a :: more) = .ok results ↔
      ∃ b bs, validate a = .ok b ∧ name b ∉ seen ∧
        validateAll validate name clash (name b :: seen) more = .ok bs ∧ results = b :: bs := by
  rw [validateAll, bind_eq_ok_iff]
  constructor
  · rintro ⟨b, hb, h⟩
    obtain ⟨hseen, h⟩ := guard_eq_ok_iff.mp h
    obtain ⟨bs, hbs, h⟩ := bind_eq_ok_iff.mp h
    exact ⟨b, bs, hb, hseen, hbs, (Except.ok.inj h).symm⟩
  · rintro ⟨b, bs, hb, hseen, hbs, rfl⟩
    exact ⟨b, hb, guard_eq_ok_iff.mpr ⟨hseen, bind_eq_ok_iff.mpr ⟨bs, hbs, rfl⟩⟩⟩

/-- **A list of entries is accepted exactly if every entry is and no name comes again**, and then
the results stand in the order of the entries. -/
theorem validateAll_eq_ok_iff {seen : List String} {entries : List α} {results : List β} :
    validateAll validate name clash seen entries = .ok results ↔
      List.Forall₂ (fun a b => validate a = .ok b) entries results ∧
        (results.map name).Nodup ∧ ∀ b ∈ results, name b ∉ seen := by
  induction entries generalizing seen results with
  | nil =>
    rw [validateAll, List.forall₂_nil_left_iff]
    constructor
    · intro h
      obtain rfl := Except.ok.inj h
      simp
    · rintro ⟨rfl, -, -⟩
      rfl
  | cons a more ih =>
    rw [validateAll_cons_eq_ok_iff]
    constructor
    · rintro ⟨b, bs, hb, hseen, hbs, rfl⟩
      obtain ⟨hall, hnodup, hfresh⟩ := ih.mp hbs
      have hb' : name b ∉ bs.map name := by
        intro hmem
        obtain ⟨b', hb', heq⟩ := List.mem_map.mp hmem
        exact hfresh b' hb' (heq ▸ List.mem_cons_self)
      refine ⟨.cons hb hall, List.nodup_cons.mpr ⟨hb', hnodup⟩, ?_⟩
      intro b' hmem
      rcases List.mem_cons.mp hmem with rfl | hmem
      · exact hseen
      · exact fun h => hfresh b' hmem (List.mem_cons_of_mem _ h)
    · rintro ⟨hall, hnodup, hfresh⟩
      cases hall with
      | @cons _ b _ bs hb hall =>
        obtain ⟨hb', hnodup⟩ := List.nodup_cons.mp hnodup
        refine ⟨b, bs, hb, hfresh b List.mem_cons_self, ih.mpr ⟨hall, hnodup, ?_⟩, rfl⟩
        intro b' hmem h
        rcases List.mem_cons.mp h with heq | h
        · exact hb' (heq ▸ List.mem_map_of_mem hmem)
        · exact hfresh b' (List.mem_cons_of_mem _ hmem) h

theorem nodup_of_validateAll {entries : List α} {results : List β}
    (h : validateAll validate name clash [] entries = .ok results) : (results.map name).Nodup :=
  (validateAll_eq_ok_iff.mp h).2.1

theorem exists_of_validateAll {entries : List α} {results : List β}
    (h : validateAll validate name clash [] entries = .ok results) {b : β} (hb : b ∈ results) :
    ∃ a ∈ entries, validate a = .ok b := by
  obtain ⟨i, hi, rfl⟩ := List.mem_iff_getElem.mp hb
  have hall := (validateAll_eq_ok_iff.mp h).1
  have hi' : i < entries.length := hall.length_eq ▸ hi
  exact ⟨entries.get ⟨i, hi'⟩, List.get_mem _ _, hall.get hi' hi⟩

end

/-! ## 2. Unique names -/

/-- No two databases, no two groups of one database, and no two APIs of one group share a name. -/
structure UniqueNames (c : Config) : Prop where
  databases : (c.databases.map Database.name).Nodup
  groups : ∀ db ∈ c.databases, (db.groups.map Group.name).Nodup
  apis : ∀ db ∈ c.databases, ∀ group ∈ db.groups, (group.apis.map Api.name).Nodup

theorem RawGroup.validate_apis {raw : RawGroup} {db : String} {case : KeyCase}
    {serverDebug : Bool} {group : Group} (h : raw.validate db case serverDebug = .ok group) :
    (group.apis.map Api.name).Nodup := by
  obtain ⟨name, -, h⟩ := bind_eq_ok_iff.mp h
  obtain ⟨case', -, h⟩ := bind_eq_ok_iff.mp h
  obtain ⟨apis, hapis, h⟩ := bind_eq_ok_iff.mp h
  obtain rfl := Except.ok.inj h
  exact nodup_of_validateAll hapis

theorem RawDatabase.validate_groups {raw : RawDatabase} {serverDebug : Bool} {db : Database}
    (h : raw.validate serverDebug = .ok db) :
    (db.groups.map Group.name).Nodup ∧
      ∀ group ∈ db.groups, (group.apis.map Api.name).Nodup := by
  obtain ⟨name, -, h⟩ := bind_eq_ok_iff.mp h
  obtain ⟨typeName, -, h⟩ := bind_eq_ok_iff.mp h
  obtain ⟨engine, -, h⟩ := bind_eq_ok_iff.mp h
  obtain ⟨-, h⟩ := guard_eq_ok_iff.mp h
  obtain ⟨-, h⟩ := guard_eq_ok_iff.mp h
  obtain ⟨case, -, h⟩ := bind_eq_ok_iff.mp h
  obtain ⟨groups, hgroups, h⟩ := bind_eq_ok_iff.mp h
  obtain rfl := Except.ok.inj h
  refine ⟨nodup_of_validateAll hgroups, fun group hmem => ?_⟩
  obtain ⟨rawGroup, -, hgroup⟩ := exists_of_validateAll hgroups hmem
  exact RawGroup.validate_apis hgroup

/-- **An accepted configuration gives no name twice on any level.** -/
theorem Raw.uniqueNames_of_validate {raw : Raw} {c : Config} (h : raw.validate = .ok c) :
    UniqueNames c := by
  obtain ⟨server, -, h⟩ := bind_eq_ok_iff.mp h
  obtain ⟨databases, hdatabases, h⟩ := bind_eq_ok_iff.mp h
  obtain rfl := Except.ok.inj h
  have hgroups : ∀ db ∈ databases, (db.groups.map Group.name).Nodup ∧
      ∀ group ∈ db.groups, (group.apis.map Api.name).Nodup := by
    intro db hmem
    obtain ⟨rawDb, -, hdb⟩ := exists_of_validateAll hdatabases hmem
    exact RawDatabase.validate_groups hdb
  exact ⟨nodup_of_validateAll hdatabases, fun db hdb => (hgroups db hdb).1,
    fun db hdb => (hgroups db hdb).2⟩

end Config

end SqlGateway
