/-
# What a configuration file is made into

`Raw.validate` goes through the file once and checks, trims, completes and lets formats be inherited
as it goes.  Here the two things it answers are told apart, each in the words of the file alone:
whether the file is acceptable, and which configuration it describes.

* `NearestFormat`: the format that counts for an API, among its own and those around it; a blank one
  lets the search go on, the format `none` ends it;
* `validateAll_eq_ok_iff_of`: a list of entries is accepted if each of them is and their trimmed
  names differ, and the results stand in their order;
* `Raw.validate_completes`: a file is accepted exactly if it is acceptable, and what is made of it
  is exactly what it describes.
-/
import Mathlib.Data.List.Nodup
import SqlGateway.Proofs.Config.Accepted

namespace SqlGateway

open Text

/-! ## 1. Engines and formats by name -/

/-- The types by which a configuration names an engine, in small letters. -/
def Engine.typeNames : Engine → List String
  | postgres => ["postgres", "postgresql", "pgx"]
  | mysql => ["mysql"]
  | sqlite => ["sqlite", "sqlite3"]

/-- A type names an engine whatever its case and the blanks around it. -/
theorem Engine.ofType_eq_ok_iff {typeName : String} {engine : Engine} :
    ofType typeName = .ok engine ↔ (trim typeName).map Char.toLower ∈ engine.typeNames := by
  unfold ofType
  split
  case h_7 => cases engine <;> simp_all [typeNames]
  all_goals next h => rw [h]; cases engine <;> decide

theorem KeyCase.name_injective {a b : KeyCase} (h : a.name = b.name) : a = b := by
  cases a <;> cases b <;> first | rfl | exact absurd h (by decide)

theorem Text.trim_eq_empty_iff {s : String} : trim s = "" ↔ isBlankText s = true := by
  rw [isBlankText, ← trimChars_eq_nil_iff, trim, ← String.toList_inj, String.toList_ofList]
  rfl

/-- A format that is not blank asks for the case of its name. -/
theorem KeyCase.ofFormat_eq_ok_iff {format : String} {case : KeyCase}
    (h : isBlankText format = false) : ofFormat format = .ok case ↔ trim format = case.name := by
  have hne : trim format ≠ "" := by
    intro hempty
    rw [trim_eq_empty_iff.mp hempty] at h
    cases h
  unfold ofFormat
  split
  case h_1 hempty => exact absurd hempty hne
  case h_6 => cases case <;> simp_all [name]
  all_goals next h => rw [h]; cases case <;> decide

theorem KeyCase.ofFormat_of_blank {format : String} (h : isBlankText format = true) :
    ofFormat format = .ok .keep := by
  rw [ofFormat, trim_eq_empty_iff.mpr h]
  rfl

namespace Config

/-! ## 2. Single settings -/

/-- The setting has a text that is not blank. -/
def Given (setting : Option String) (text : String) : Prop :=
  setting = some text ∧ isBlankText text = false

/-- The setting is absent, or its text is blank. -/
def IsBlank (setting : Option String) : Prop := ∀ text ∈ setting, isBlankText text = true

/-- A value is that of a setting, or the standard one if the setting is absent or counts as
unset. -/
def FallsBack {α : Type} (unset : α → Prop) (setting : Option α) (standard value : α) : Prop :=
  setting = some value ∧ ¬ unset value ∨ (∀ v ∈ setting, unset v) ∧ value = standard

/-- The format is blank or one of the known ones. -/
def KnownFormat (format : Option String) : Prop :=
  ∀ text, Given format text → ∃ case : KeyCase, trim text = case.name

/-- The type is that of an engine. -/
def KnownType (type : Option String) : Prop :=
  ∃ text, type = some text ∧ ∃ engine : Engine, (trim text).map Char.toLower ∈ engine.typeNames

/-- The case that the first format that is not blank asks for, the nearest format being the first;
without such a format names are kept. -/
inductive NearestFormat : List (Option String) → KeyCase → Prop
  | none : NearestFormat [] .keep
  | own {format : Option String} {text : String} {case : KeyCase} {outer : List (Option String)} :
      Given format text → trim text = case.name → NearestFormat (format :: outer) case
  | inherited {format : Option String} {case : KeyCase} {outer : List (Option String)} :
      IsBlank format → NearestFormat outer case → NearestFormat (format :: outer) case

variable {setting format : Option String} {text name : String} {outer : List (Option String)}
  {inherited case : KeyCase}

/-- A setting whose values may count as unset is a setting without these values. -/
theorem fallsBack_filter_iff {α : Type} {unset : α → Prop} {p : α → Bool} {given : Option α}
    {standard value : α} (hp : ∀ v, p v = true ↔ ¬ unset v) :
    FallsBack unset given standard value ↔ (given.filter p).getD standard = value := by
  cases given with
  | none => simp [FallsBack, eq_comm]
  | some v =>
    cases hv : p v with
    | true =>
      have hset := (hp v).mp hv
      simp only [FallsBack, Option.filter, hv, Option.some.injEq, Option.mem_some]
      constructor
      · rintro (⟨heq, -⟩ | ⟨hunset, -⟩)
        · exact heq
        · exact absurd (hunset v rfl) hset
      · rintro rfl
        exact .inl ⟨rfl, hset⟩
    | false =>
      have hunset : unset v := Classical.byContradiction fun h => by simp [(hp v).mpr h] at hv
      simp only [FallsBack, Option.filter, hv, Option.some.injEq, Option.mem_some]
      constructor
      · rintro (⟨rfl, hset⟩ | ⟨-, rfl⟩)
        · exact absurd hunset hset
        · rfl
      · rintro rfl
        exact .inr ⟨fun w hw => hw ▸ hunset, rfl⟩

theorem fallsBack_iff {α : Type} {given : Option α} {standard value : α} :
    FallsBack (fun _ => False) given standard value ↔ given.getD standard = value := by
  cases given <;> simp [FallsBack, eq_comm]

theorem nonBlank_eq_some_iff : nonBlank setting = some text ↔ Given setting text := by
  simp [nonBlank, Given, Option.filter_eq_some_iff]

theorem nonBlank_eq_none_iff : nonBlank setting = none ↔ IsBlank setting := by
  simp [nonBlank, IsBlank, Option.filter_eq_none_iff]

theorem not_isBlank_iff : ¬ IsBlank setting ↔ ∃ text, Given setting text := by
  rw [← nonBlank_eq_none_iff, ← ne_eq, Option.ne_none_iff_exists']
  simp only [nonBlank_eq_some_iff]

theorem Given.unique {other : String} (h : Given setting text) (h' : Given setting other) :
    text = other := Option.some.inj (h.1.symm.trans h'.1)

theorem Given.not_isBlank (h : Given setting text) : ¬ IsBlank setting :=
  not_isBlank_iff.mpr ⟨text, h⟩

/-- Formats do not ask for two cases. -/
theorem NearestFormat.unique {case' : KeyCase} (h : NearestFormat outer case)
    (h' : NearestFormat outer case') : case = case' := by
  induction h with
  | none =>
    cases h'
    rfl
  | own htext hcase =>
    cases h' with
    | own htext' hcase' =>
      obtain rfl := htext.unique htext'
      exact KeyCase.name_injective (hcase.symm.trans hcase')
    | inherited hblank => exact absurd hblank htext.not_isBlank
  | inherited hblank _ ih =>
    cases h' with
    | own htext => exact absurd hblank htext.not_isBlank
    | inherited _ h' => exact ih h'

/-- They ask for one exactly if they are known. -/
theorem exists_nearestFormat_iff (houter : NearestFormat outer inherited) :
    (∃ case, NearestFormat (format :: outer) case) ↔ KnownFormat format := by
  constructor
  · rintro ⟨case, h⟩ text htext
    cases h with
    | own htext' hcase =>
      obtain rfl := htext.unique htext'
      exact ⟨case, hcase⟩
    | inherited hblank => exact absurd hblank htext.not_isBlank
  · intro h
    by_cases hblank : IsBlank format
    · exact ⟨inherited, .inherited hblank houter⟩
    · obtain ⟨text, htext⟩ := not_isBlank_iff.mp hblank
      obtain ⟨case, hcase⟩ := h text htext
      exact ⟨case, .own htext hcase⟩

theorem caseOf_eq_ok_iff (h : isBlankText text = false) :
    caseOf text = .ok case ↔ trim text = case.name := by
  rw [caseOf, mapError_eq_ok_iff, KeyCase.ofFormat_eq_ok_iff h]

/-- **A format is searched for from the inside out.** -/
theorem inheritedCase_eq_ok_iff (houter : NearestFormat outer inherited) :
    inheritedCase format inherited = .ok case ↔ NearestFormat (format :: outer) case := by
  unfold inheritedCase
  split
  next text htext =>
    rw [nonBlank_eq_some_iff] at htext
    rw [caseOf_eq_ok_iff htext.2]
    constructor
    · exact .own htext
    · intro h
      cases h with
      | own htext' hcase =>
        obtain rfl := htext.unique htext'
        exact hcase
      | inherited hblank => exact absurd hblank htext.not_isBlank
  next hblank =>
    rw [nonBlank_eq_none_iff] at hblank
    constructor
    · intro h
      obtain rfl := Except.ok.inj h
      exact .inherited hblank houter
    · intro h
      cases h with
      | own htext => exact absurd hblank htext.not_isBlank
      | inherited _ h => rw [houter.unique h]

/-- Nothing is inherited by a database. -/
theorem caseOf_getD_eq_ok_iff :
    caseOf (format.getD "") = .ok case ↔ NearestFormat [format] case := by
  rw [← inheritedCase_eq_ok_iff .none, inheritedCase]
  split
  next text htext =>
    rw [nonBlank_eq_some_iff] at htext
    rw [htext.1, Option.getD_some]
  next hblank =>
    rw [nonBlank_eq_none_iff] at hblank
    have htext : isBlankText (format.getD "") = true := by
      cases format with
      | none => rfl
      | some text => exact hblank text rfl
    rw [caseOf, KeyCase.ofFormat_of_blank htext]
    rfl

theorem isBlankText_getD_iff : isBlankText (setting.getD "") = true ↔ IsBlank setting := by
  cases setting with
  | none => simp [IsBlank, isBlankText]
  | some text => simp [IsBlank]

theorem eq_some_getD (h : ¬ IsBlank setting) : setting = some (setting.getD "") := by
  obtain ⟨text, htext, -⟩ := not_isBlank_iff.mp h
  rw [htext, Option.getD_some]

theorem requireName_eq_ok_iff {missing : Error} :
    requireName setting missing = .ok name ↔ ¬ IsBlank setting ∧ setting.map trim = some name := by
  rw [not_isBlank_iff]
  unfold requireName
  split
  next text htext =>
    rw [nonBlank_eq_some_iff] at htext
    rw [htext.1, Option.map_some, Except.ok.injEq, Option.some.injEq]
    exact ⟨fun h => ⟨⟨text, rfl, htext.2⟩, h⟩, And.right⟩
  next hblank =>
    rw [nonBlank_eq_none_iff] at hblank
    constructor
    · intro h
      cases h
    · rintro ⟨⟨text, htext⟩, -⟩
      exact absurd hblank htext.not_isBlank

/-! ## 3. Lists of entries -/

section

variable {α β : Type} {validate : α → Except Error β} {name : β → String} {clash : β → Error}
  {IsAcceptable : α → Prop} {Describes : α → β → Prop} {given : α → Option String}

theorem map_given_eq (hname : ∀ a b, Describes a b → given a = some (name b)) {entries : List α}
    {results : List β} (h : List.Forall₂ Describes entries results) :
    entries.map given = (results.map name).map some := by
  induction h with
  | nil => rfl
  | cons hab _ ih => rw [List.map_cons, List.map_cons, List.map_cons, hname _ _ hab, ih]

/-- **A list of entries is accepted exactly if each of them is acceptable and their names differ**,
and what is made of it are the entries' descriptions in their order. -/
theorem validateAll_eq_ok_iff_of
    (hvalidate : ∀ a b, validate a = .ok b ↔ IsAcceptable a ∧ Describes a b)
    (hname : ∀ a b, Describes a b → given a = some (name b)) {entries : List α}
    {results : List β} :
    validateAll validate name clash [] entries = .ok results ↔
      (∀ a ∈ entries, IsAcceptable a) ∧ (entries.map given).Nodup ∧
        List.Forall₂ Describes entries results := by
  have hnodup : List.Forall₂ Describes entries results →
      ((entries.map given).Nodup ↔ (results.map name).Nodup) := by
    intro h
    rw [map_given_eq hname h, List.nodup_map_iff fun _ _ h => Option.some.inj h]
  rw [validateAll_eq_ok_iff]
  simp only [hvalidate, List.forall₂_and_left]
  constructor
  · rintro ⟨⟨hacceptable, hdescribes⟩, hresults, -⟩
    exact ⟨hacceptable, (hnodup hdescribes).mpr hresults, hdescribes⟩
  · rintro ⟨hacceptable, hentries, hdescribes⟩
    exact ⟨⟨hacceptable, hdescribes⟩, (hnodup hdescribes).mp hentries, by simp⟩

/-- Entries that are described one by one are described together. -/
theorem exists_forall₂ {entries : List α} (h : ∀ a ∈ entries, ∃ b, Describes a b) :
    ∃ results, List.Forall₂ Describes entries results := by
  induction entries with
  | nil => exact ⟨[], .nil⟩
  | cons a more ih =>
    obtain ⟨b, hb⟩ := h a List.mem_cons_self
    obtain ⟨bs, hbs⟩ := ih fun a ha => h a (List.mem_cons_of_mem _ ha)
    exact ⟨b :: bs, .cons hb hbs⟩

end

/-! ## 4. APIs and groups -/

/-- What an API must have. -/
structure RawApi.IsAcceptable (raw : RawApi) : Prop where
  name : ¬ IsBlank raw.name
  sql : ¬ IsBlank raw.sql
  format : KnownFormat raw.format

/-- What is made of an API; `outer` are the formats of its group and of its database. -/
structure RawApi.Describes (outer : List (Option String)) (serverDebug : Bool) (raw : RawApi)
    (api : Api) : Prop where
  name : raw.name.map trim = some api.name
  sql : raw.sql = some api.sql
  case : NearestFormat (raw.format :: outer) api.case
  debug : api.debug = true ↔ raw.debug = true ∨ serverDebug = true

/-- What a group must have. -/
structure RawGroup.IsAcceptable (raw : RawGroup) : Prop where
  name : ¬ IsBlank raw.name
  format : KnownFormat raw.format
  apis : ∀ api ∈ raw.apis, api.IsAcceptable
  unique : (raw.apis.map (·.name.map trim)).Nodup

/-- What is made of a group; `outer` is the format of its database. -/
structure RawGroup.Describes (outer : List (Option String)) (serverDebug : Bool) (raw : RawGroup)
    (group : Group) : Prop where
  name : raw.name.map trim = some group.name
  apis : List.Forall₂ (RawApi.Describes (raw.format :: outer) serverDebug) raw.apis group.apis

variable {serverDebug : Bool}

/-- **An API is accepted exactly if it is acceptable**, as what it describes. -/
theorem RawApi.validate_eq_ok_iff (houter : NearestFormat outer inherited) (raw : RawApi)
    (api : Api) :
    raw.validate inherited serverDebug = .ok api ↔
      raw.IsAcceptable ∧ raw.Describes outer serverDebug api := by
  constructor
  · intro h
    obtain ⟨name, hname, h⟩ := bind_eq_ok_iff.mp h
    obtain ⟨hsql, h⟩ := guard_eq_ok_iff.mp h
    obtain ⟨case, hcase, h⟩ := bind_eq_ok_iff.mp h
    obtain rfl := Except.ok.inj h
    rw [requireName_eq_ok_iff] at hname
    rw [isBlankText_getD_iff] at hsql
    rw [inheritedCase_eq_ok_iff houter] at hcase
    exact ⟨⟨hname.1, hsql, (exists_nearestFormat_iff houter).mp ⟨case, hcase⟩⟩,
      hname.2, eq_some_getD hsql, hcase, by simp⟩
  · rintro ⟨⟨hblank, hsql, -⟩, hname, htext, hcase, hdebug⟩
    refine bind_eq_ok_iff.mpr ⟨api.name, requireName_eq_ok_iff.mpr ⟨hblank, hname⟩, ?_⟩
    refine guard_eq_ok_iff.mpr ⟨mt isBlankText_getD_iff.mp hsql, ?_⟩
    refine bind_eq_ok_iff.mpr ⟨api.case, (inheritedCase_eq_ok_iff houter).mpr hcase, ?_⟩
    have hdebug' : (raw.debug || serverDebug) = api.debug := by
      rw [Bool.eq_iff_iff, hdebug, Bool.or_eq_true]
    rw [htext, Option.getD_some, hdebug']
    rfl

/-- **A group is accepted exactly if it is acceptable**, as what it describes. -/
theorem RawGroup.validate_eq_ok_iff (houter : NearestFormat outer inherited) (db : String)
    (raw : RawGroup) (group : Group) :
    raw.validate db inherited serverDebug = .ok group ↔
      raw.IsAcceptable ∧ raw.Describes outer serverDebug group := by
  constructor
  · intro h
    obtain ⟨name, hname, h⟩ := bind_eq_ok_iff.mp h
    obtain ⟨case, hcase, h⟩ := bind_eq_ok_iff.mp h
    obtain ⟨apis, hapis, h⟩ := bind_eq_ok_iff.mp h
    obtain rfl := Except.ok.inj h
    rw [requireName_eq_ok_iff] at hname
    rw [inheritedCase_eq_ok_iff houter] at hcase
    rw [validateAll_eq_ok_iff_of (RawApi.validate_eq_ok_iff hcase) fun _ _ h => h.name] at hapis
    obtain ⟨hacceptable, hunique, hdescribes⟩ := hapis
    exact ⟨⟨hname.1, (exists_nearestFormat_iff houter).mp ⟨case, hcase⟩, hacceptable, hunique⟩,
      hname.2, hdescribes⟩
  · rintro ⟨⟨hblank, hformat, hacceptable, hunique⟩, hname, hapis⟩
    obtain ⟨case, hcase⟩ := (exists_nearestFormat_iff houter).mpr hformat
    refine bind_eq_ok_iff.mpr ⟨group.name, requireName_eq_ok_iff.mpr ⟨hblank, hname⟩, ?_⟩
    refine bind_eq_ok_iff.mpr ⟨case, (inheritedCase_eq_ok_iff houter).mpr hcase, ?_⟩
    refine bind_eq_ok_iff.mpr ⟨group.apis, ?_, rfl⟩
    exact (validateAll_eq_ok_iff_of (RawApi.validate_eq_ok_iff hcase) fun _ _ h => h.name).mpr
      ⟨hacceptable, hunique, hapis⟩

/-! ## 5. Databases -/

/-- What a database must have. -/
structure RawDatabase.IsAcceptable (raw : RawDatabase) : Prop where
  name : ¬ IsBlank raw.name
  type : KnownType raw.type
  dsn : ¬ IsBlank raw.dsn
  maxConnections : ∀ connections ∈ raw.maxConnections, 0 < connections
  format : KnownFormat raw.format
  groups : ∀ group ∈ raw.groups, group.IsAcceptable
  unique : (raw.groups.map (·.name.map trim)).Nodup

/-- What is made of a database. -/
structure RawDatabase.Describes (serverDebug : Bool) (raw : RawDatabase) (db : Database) :
    Prop where
  name : raw.name.map trim = some db.name
  engine : ∃ text, raw.type = some text ∧ (trim text).map Char.toLower ∈ db.engine.typeNames
  dsn : raw.dsn = some db.dsn
  maxConnections : FallsBack (fun _ => False) raw.maxConnections defaultMaxConnections
    db.maxConnections
  groups : List.Forall₂ (RawGroup.Describes [raw.format] serverDebug) raw.groups db.groups

theorem getD_eq_zero_iff {given : Option Nat} {standard : Nat} (h : standard ≠ 0) :
    given.getD standard = 0 ↔ ¬ ∀ n ∈ given, 0 < n := by
  cases given <;> simp [h]

theorem elim_throw_eq_ok_iff {type : Option String} {e : Error} :
    (type.elim (throw e) pure : Except Error String) = .ok text ↔ type = some text := by
  cases type with
  | none => exact iff_of_false (fun h => nomatch h) (fun h => nomatch h)
  | some other => exact ⟨fun h => congrArg some (Except.ok.inj h), fun h => by rw [h]; rfl⟩

/-- **A database is accepted exactly if it is acceptable**, as what it describes. -/
theorem RawDatabase.validate_eq_ok_iff (raw : RawDatabase) (db : Database) :
    raw.validate serverDebug = .ok db ↔
      raw.IsAcceptable ∧ raw.Describes serverDebug db := by
  constructor
  · intro h
    obtain ⟨name, hname, h⟩ := bind_eq_ok_iff.mp h
    obtain ⟨typeName, htype, h⟩ := bind_eq_ok_iff.mp h
    obtain ⟨engine, hengine, h⟩ := bind_eq_ok_iff.mp h
    obtain ⟨hdsn, h⟩ := guard_eq_ok_iff.mp h
    obtain ⟨hconnections, h⟩ := guard_eq_ok_iff.mp h
    obtain ⟨case, hcase, h⟩ := bind_eq_ok_iff.mp h
    obtain ⟨groups, hgroups, h⟩ := bind_eq_ok_iff.mp h
    obtain rfl := Except.ok.inj h
    rw [requireName_eq_ok_iff] at hname
    rw [elim_throw_eq_ok_iff] at htype
    rw [mapError_eq_ok_iff, Engine.ofType_eq_ok_iff] at hengine
    rw [isBlankText_getD_iff] at hdsn
    rw [getD_eq_zero_iff (by decide), not_not] at hconnections
    rw [caseOf_getD_eq_ok_iff] at hcase
    rw [validateAll_eq_ok_iff_of (RawGroup.validate_eq_ok_iff hcase name)
      fun _ _ h => h.name] at hgroups
    obtain ⟨hacceptable, hunique, hdescribes⟩ := hgroups
    have hformat := (exists_nearestFormat_iff .none).mp ⟨case, hcase⟩
    exact ⟨⟨hname.1, ⟨typeName, htype, engine, hengine⟩, hdsn, hconnections, hformat,
      hacceptable, hunique⟩, hname.2, ⟨typeName, htype, hengine⟩, eq_some_getD hdsn,
      fallsBack_iff.mpr rfl, hdescribes⟩
  · rintro ⟨⟨hblank, -, hdsn, hconnections, hformat, hacceptable, hunique⟩, hname,
      ⟨typeName, htype, hengine⟩, htext, hmax, hgroups⟩
    obtain ⟨case, hcase⟩ := (exists_nearestFormat_iff .none).mpr hformat
    refine bind_eq_ok_iff.mpr ⟨db.name, requireName_eq_ok_iff.mpr ⟨hblank, hname⟩, ?_⟩
    refine bind_eq_ok_iff.mpr ⟨typeName, elim_throw_eq_ok_iff.mpr htype, ?_⟩
    refine bind_eq_ok_iff.mpr
      ⟨db.engine, mapError_eq_ok_iff.mpr (Engine.ofType_eq_ok_iff.mpr hengine), ?_⟩
    refine guard_eq_ok_iff.mpr ⟨mt isBlankText_getD_iff.mp hdsn, ?_⟩
    refine guard_eq_ok_iff.mpr
      ⟨fun h => (getD_eq_zero_iff (by decide)).mp h hconnections, ?_⟩
    refine bind_eq_ok_iff.mpr ⟨case, caseOf_getD_eq_ok_iff.mpr hcase, ?_⟩
    refine bind_eq_ok_iff.mpr ⟨db.groups, ?_, ?_⟩
    · exact (validateAll_eq_ok_iff_of (RawGroup.validate_eq_ok_iff hcase db.name)
        fun _ _ h => h.name).mpr ⟨hacceptable, hunique, hgroups⟩
    · rw [htext, Option.getD_some, fallsBack_iff.mp hmax]
      rfl

/-! ## 6. Files -/

/-- What a file must have. -/
structure Raw.IsAcceptable (raw : Raw) : Prop where
  tls : ∀ server ∈ raw.server, server.tls = false
  auth : ∀ server ∈ raw.server, server.auth = true → server.accounts ≠ []
  databases : ∀ db ∈ raw.dbs, db.IsAcceptable
  unique : (raw.dbs.map (·.name.map trim)).Nodup

/-- What is made of the `server` section, which may be absent. -/
structure DescribesServer (raw : Option RawServer) (server : Server) : Prop where
  addr : FallsBack (isBlankText · = true) (raw.bind (·.addr)) defaultAddr server.addr
  port : FallsBack (fun _ => False) (raw.bind (·.port)) defaultPort server.port
  auth : server.auth = true ↔ ∃ r ∈ raw, r.auth = true
  accounts : FallsBack (fun _ => False) (raw.map (·.accounts)) [] server.accounts
  debug : server.debug = true ↔ ∃ r ∈ raw, r.debug = true
  /-- Zero seconds are no limit. -/
  queryTimeout : ∃ seconds,
    FallsBack (fun _ => False) (raw.bind (·.queryTimeout)) defaultQueryTimeout seconds ∧
      ∀ limit, server.queryTimeout = some limit ↔ seconds = limit ∧ limit ≠ 0

/-- What is made of the `log` section, which may be absent. -/
structure DescribesLog (raw : Option RawLog) (log : Log) : Prop where
  path : ∀ text, log.path = some text ↔ Given (raw.bind (·.path)) text
  level : ∀ text, log.level = some text ↔ Given (raw.bind (·.level)) text
  maxSizeMb : FallsBack (· = 0) (raw.bind (·.size)) defaultLogSizeMb log.maxSizeMb
  /-- No days are no limit, -/
  maxAgeDays : ∀ days, log.maxAgeDays = some days ↔ raw.bind (·.age) = some days ∧ days ≠ 0
  /-- and so are no files. -/
  maxBackups : ∀ files, log.maxBackups = some files ↔ raw.bind (·.backups) = some files ∧ files ≠ 0

/-- What is made of a file. -/
structure Raw.Describes (raw : Raw) (c : Config) : Prop where
  server : DescribesServer raw.server c.server
  log : DescribesLog raw.log c.log
  databases : List.Forall₂ (RawDatabase.Describes c.server.debug) raw.dbs c.databases

theorem nonZero_eq_some_iff {given : Option Nat} {n : Nat} :
    nonZero given = some n ↔ given = some n ∧ n ≠ 0 := by
  simp [nonZero, Option.filter_eq_some_iff, Nat.pos_iff_ne_zero]

/-- A setting that is kept unless it is blank, -/
theorem nonBlank_eq_iff {value : Option String} :
    nonBlank setting = value ↔ ∀ text, value = some text ↔ Given setting text := by
  rw [eq_comm, Option.ext_iff]
  simp only [nonBlank_eq_some_iff]

/-- or unless it is zero. -/
theorem nonZero_eq_iff {given value : Option Nat} :
    nonZero given = value ↔ ∀ n, value = some n ↔ given = some n ∧ n ≠ 0 := by
  rw [eq_comm, Option.ext_iff]
  simp only [nonZero_eq_some_iff]

/-- A `log` section that is absent is one without fields. -/
theorem describesLog_iff {raw : Option RawLog} {log : Log} :
    DescribesLog raw log ↔ (raw.map RawLog.complete).getD .default = log := by
  obtain ⟨fields, hcomplete, hpath, hlevel, hsize, hage, hbackups⟩ : ∃ fields : RawLog,
      (raw.map RawLog.complete).getD .default = fields.complete ∧
      raw.bind (·.path) = fields.path ∧ raw.bind (·.level) = fields.level ∧
      raw.bind (·.size) = fields.size ∧ raw.bind (·.age) = fields.age ∧
      raw.bind (·.backups) = fields.backups := by
    cases raw with
    | none => exact ⟨⟨none, none, none, none, none⟩, rfl, rfl, rfl, rfl, rfl, rfl⟩
    | some fields => exact ⟨fields, rfl, rfl, rfl, rfl, rfl, rfl⟩
  have hzero : ∀ n : Nat, decide (0 < n) = true ↔ ¬ n = 0 := by
    simp [Nat.pos_iff_ne_zero]
  rw [hcomplete]
  constructor
  · rintro ⟨hpath', hlevel', hsize', hage', hbackups'⟩
    rw [hpath, ← nonBlank_eq_iff] at hpath'
    rw [hlevel, ← nonBlank_eq_iff] at hlevel'
    rw [hsize, fallsBack_filter_iff hzero] at hsize'
    rw [hage, ← nonZero_eq_iff] at hage'
    rw [hbackups, ← nonZero_eq_iff] at hbackups'
    rw [RawLog.complete, hpath', hlevel', nonZero, hsize', hage', hbackups']
  · rintro rfl
    exact ⟨hpath ▸ nonBlank_eq_iff.mp rfl, hlevel ▸ nonBlank_eq_iff.mp rfl,
      hsize ▸ (fallsBack_filter_iff hzero).mpr rfl, hage ▸ nonZero_eq_iff.mp rfl,
      hbackups ▸ nonZero_eq_iff.mp rfl⟩

/-- What holds of an absent `server` section, or of its fields, holds of the completed section. -/
theorem forall_fields_iff {raw : Option RawServer} {p : RawServer → Prop} (hempty : p .empty) :
    (∀ fields ∈ raw, p fields) ↔ p (raw.getD .empty) := by
  cases raw with
  | none => simpa using hempty
  | some fields => simp

theorem exists_field_iff {raw : Option RawServer} {flag : RawServer → Bool}
    (hempty : flag .empty = false) :
    (∃ fields ∈ raw, flag fields = true) ↔ flag (raw.getD .empty) = true := by
  cases raw with
  | none => simp [hempty]
  | some fields => simp

/-- A time-out of zero seconds is none. -/
theorem nonZero_some_eq_iff {given limit : Option Nat} {standard : Nat} :
    nonZero (some (given.getD standard)) = limit ↔ ∃ seconds,
      FallsBack (fun _ => False) given standard seconds ∧
        ∀ n, limit = some n ↔ seconds = n ∧ n ≠ 0 := by
  simp only [fallsBack_iff, exists_eq_left', nonZero_eq_iff, Option.some.injEq]

/-- A `server` section that is absent is one without fields. -/
theorem describesServer_iff {raw : Option RawServer} {server : Server} :
    DescribesServer raw server ↔
      (nonBlank (raw.getD .empty).addr).getD defaultAddr = server.addr ∧
      (raw.getD .empty).port.getD defaultPort = server.port ∧
      (raw.getD .empty).auth = server.auth ∧ (raw.getD .empty).accounts = server.accounts ∧
      (raw.getD .empty).debug = server.debug ∧
      nonZero (some ((raw.getD .empty).queryTimeout.getD defaultQueryTimeout)) =
        server.queryTimeout := by
  have haddr : raw.bind (·.addr) = (raw.getD .empty).addr := by cases raw <;> rfl
  have hport : raw.bind (·.port) = (raw.getD .empty).port := by cases raw <;> rfl
  have htimeout : raw.bind (·.queryTimeout) = (raw.getD .empty).queryTimeout := by
    cases raw <;> rfl
  have haccounts : (raw.map (·.accounts)).getD [] = (raw.getD .empty).accounts := by
    cases raw <;> rfl
  have hblank : ∀ text : String, (!isBlankText text) = true ↔ ¬ isBlankText text = true := by
    simp
  rw [nonZero_some_eq_iff, ← haddr, ← hport, ← htimeout, ← haccounts, nonBlank,
    ← fallsBack_filter_iff hblank, ← fallsBack_iff, ← fallsBack_iff]
  constructor
  · rintro ⟨haddr, hport, hauth, haccounts, hdebug, htimeout⟩
    rw [exists_field_iff rfl] at hauth hdebug
    exact ⟨haddr, hport, (Bool.eq_iff_iff.mpr hauth).symm, haccounts,
      (Bool.eq_iff_iff.mpr hdebug).symm, htimeout⟩
  · rintro ⟨haddr, hport, hauth, haccounts, hdebug, htimeout⟩
    refine ⟨haddr, hport, ?_, haccounts, ?_, htimeout⟩
    · rw [exists_field_iff rfl, hauth]
    · rw [exists_field_iff rfl, hdebug]

/-- **The `server` section is accepted exactly if it is acceptable**, as what it describes. -/
theorem RawServer.validate_eq_ok_iff {raw : Option RawServer} {server : Server} :
    (raw.getD .empty).validate = .ok server ↔
      (∀ fields ∈ raw, fields.tls = false) ∧
        (∀ fields ∈ raw, fields.auth = true → fields.accounts ≠ []) ∧
        DescribesServer raw server := by
  rw [forall_fields_iff (p := fun fields => fields.tls = false) rfl,
    forall_fields_iff (p := fun fields => fields.auth = true → fields.accounts ≠ [])
      (fun h => nomatch h),
    describesServer_iff, validate, guard_eq_ok_iff, guard_eq_ok_iff]
  cases server
  simp [pure, Except.pure]

/-! ## 7. Accepted files -/

theorem exists_map_trim (h : ¬ IsBlank setting) : ∃ name, setting.map trim = some name := by
  rw [eq_some_getD h]
  exact ⟨_, rfl⟩

theorem RawApi.IsAcceptable.exists_describes {raw : RawApi} (h : raw.IsAcceptable)
    (houter : NearestFormat outer inherited) :
    ∃ api, raw.Describes outer serverDebug api := by
  obtain ⟨name, hname⟩ := exists_map_trim h.name
  obtain ⟨case, hcase⟩ := (exists_nearestFormat_iff houter).mpr h.format
  exact ⟨⟨name, raw.sql.getD "", case, raw.debug || serverDebug⟩, hname, eq_some_getD h.sql,
    hcase, by simp⟩

theorem RawGroup.IsAcceptable.exists_describes {raw : RawGroup} (h : raw.IsAcceptable)
    (houter : NearestFormat outer inherited) :
    ∃ group, raw.Describes outer serverDebug group := by
  obtain ⟨name, hname⟩ := exists_map_trim h.name
  obtain ⟨case, hcase⟩ := (exists_nearestFormat_iff houter).mpr h.format
  obtain ⟨apis, hapis⟩ := exists_forall₂ fun api hapi => (h.apis api hapi).exists_describes hcase
  exact ⟨⟨name, apis⟩, hname, hapis⟩

theorem RawDatabase.IsAcceptable.exists_describes {raw : RawDatabase} (h : raw.IsAcceptable) :
    ∃ db, raw.Describes serverDebug db := by
  obtain ⟨name, hname⟩ := exists_map_trim h.name
  obtain ⟨typeName, htype, engine, hengine⟩ := h.type
  obtain ⟨case, hcase⟩ := (exists_nearestFormat_iff .none).mpr h.format
  obtain ⟨groups, hgroups⟩ := exists_forall₂ fun group hgroup =>
    (h.groups group hgroup).exists_describes hcase
  exact ⟨⟨name, engine, raw.dsn.getD "", raw.maxConnections.getD defaultMaxConnections, groups⟩,
    hname, ⟨typeName, htype, hengine⟩, eq_some_getD h.dsn, fallsBack_iff.mpr rfl, hgroups⟩

theorem Raw.validate_eq_ok_iff {raw : Raw} {c : Config} :
    raw.validate = .ok c ↔ raw.IsAcceptable ∧ raw.Describes c := by
  constructor
  · intro h
    obtain ⟨server, hserver, h⟩ := bind_eq_ok_iff.mp h
    obtain ⟨databases, hdatabases, h⟩ := bind_eq_ok_iff.mp h
    obtain rfl := Except.ok.inj h
    obtain ⟨htls, hauth, hserver⟩ := RawServer.validate_eq_ok_iff.mp hserver
    obtain ⟨hacceptable, hunique, hdescribes⟩ :=
      (validateAll_eq_ok_iff_of RawDatabase.validate_eq_ok_iff fun _ _ h => h.name).mp hdatabases
    exact ⟨⟨htls, hauth, hacceptable, hunique⟩, hserver, describesLog_iff.mpr rfl, hdescribes⟩
  · rintro ⟨⟨htls, hauth, hacceptable, hunique⟩, hserver, hlog, hdescribes⟩
    refine bind_eq_ok_iff.mpr
      ⟨c.server, RawServer.validate_eq_ok_iff.mpr ⟨htls, hauth, hserver⟩, ?_⟩
    refine bind_eq_ok_iff.mpr ⟨c.databases, ?_, ?_⟩
    · exact (validateAll_eq_ok_iff_of RawDatabase.validate_eq_ok_iff fun _ _ h => h.name).mpr
        ⟨hacceptable, hunique, hdescribes⟩
    · rw [describesLog_iff.mp hlog]
      rfl

theorem Raw.IsAcceptable.exists_describes {raw : Raw} (h : raw.IsAcceptable) :
    ∃ c, raw.Describes c := by
  obtain ⟨server, hserver⟩ : ∃ server, DescribesServer raw.server server :=
    ⟨⟨_, _, _, _, _, _⟩, describesServer_iff.mpr ⟨rfl, rfl, rfl, rfl, rfl, rfl⟩⟩
  have hdescribed : ∀ db ∈ raw.dbs, ∃ d, db.Describes server.debug d :=
    fun db hdb => (h.databases db hdb).exists_describes
  obtain ⟨databases, hdatabases⟩ := exists_forall₂ hdescribed
  exact ⟨⟨server, _, databases⟩, hserver, describesLog_iff.mpr rfl, hdatabases⟩

/-- **A file is accepted exactly if it is acceptable, and what is made of it is what it describes.**
It is acceptable if TLS is off, authentication is off or has an account, and every database, group
and API has what it must have, under trimmed names that differ among their neighbours.  It describes
one configuration: all databases, groups and APIs in the order of the file under their trimmed
names, the nearest formats, and standard values for what is not given. -/
theorem Raw.validate_completes (raw : Raw) :
    ((∃ c, raw.validate = .ok c) ↔ raw.IsAcceptable) ∧
      ∀ c, raw.validate = .ok c ↔ raw.IsAcceptable ∧ raw.Describes c := by
  refine ⟨?_, fun c => Raw.validate_eq_ok_iff⟩
  simp only [Raw.validate_eq_ok_iff]
  constructor
  · rintro ⟨c, h, -⟩
    exact h
  · intro h
    obtain ⟨c, hc⟩ := h.exists_describes
    exact ⟨c, h, hc⟩

end Config

end SqlGateway
