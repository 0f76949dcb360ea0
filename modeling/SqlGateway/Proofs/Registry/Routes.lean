/-
# Routes and names

A request names an API by three texts; the registry looks up the one text that they make when they
are joined with slashes.  Names may hold slashes themselves, and then two different triples can be
one route.

* `eq_of_routeOf_eq`: no other triple makes the route of an endpoint whose names hold no slash;
* `exists_other_names`: any other endpoint shares its route with a triple that is not its own;
* `resolve_exact_iff`: for an accepted configuration, routes tell APIs apart exactly if the names
  hold no slash.

A request may hold slashes in any of its three texts, since they are decoded after the path has been
cut.  They do no harm if there are none in the configuration: the number of slashes in the route
gives them away.
-/
import SqlGateway.Proofs.Registry.Refusal

namespace SqlGateway

/-! ## 1. Routes -/

/-- What stands in front of the first separator is determined by the whole. -/
theorem append_slash_inj {a b s t : List Char} (ha : '/' ∉ a) (hb : '/' ∉ b)
    (h : a ++ '/' :: s = b ++ '/' :: t) : a = b ∧ s = t := by
  induction a generalizing b with
  | nil =>
    cases b with
    | nil => exact ⟨rfl, (List.cons.inj h).2⟩
    | cons c b => exact absurd ((List.cons.inj h).1 ▸ List.mem_cons_self) hb
  | cons c a ih =>
    cases b with
    | nil => exact absurd ((List.cons.inj h).1 ▸ List.mem_cons_self) ha
    | cons d b =>
      obtain ⟨rfl, hrest⟩ := List.cons.inj h
      obtain ⟨rfl, rfl⟩ := ih (fun hm => ha (List.mem_cons_of_mem _ hm))
        (fun hm => hb (List.mem_cons_of_mem _ hm)) hrest
      exact ⟨rfl, rfl⟩

theorem toList_routeOf (db group name : String) :
    (routeOf db group name).toList =
      db.toList ++ '/' :: (group.toList ++ '/' :: name.toList) := by
  simp [routeOf]

namespace Endpoint

/-- The three names of an endpoint. -/
def names (e : Endpoint) : String × String × String := (e.db, e.group, e.name)

/-- An endpoint none of whose names holds a slash. -/
def IsPlain (e : Endpoint) : Prop :=
  '/' ∉ e.db.toList ∧ '/' ∉ e.group.toList ∧ '/' ∉ e.name.toList

instance (e : Endpoint) : Decidable e.IsPlain :=
  inferInstanceAs (Decidable ('/' ∉ e.db.toList ∧ '/' ∉ e.group.toList ∧ '/' ∉ e.name.toList))

/-- **The route of plain names is made by them alone**, slashes in the other names included. -/
theorem IsPlain.eq_of_routeOf_eq {e : Endpoint} (h : e.IsPlain) {db group name : String}
    (hroute : routeOf db group name = e.route) : e.names = (db, group, name) := by
  obtain ⟨hdb, hgroup, hname⟩ := h
  have hlist := congrArg String.toList hroute
  rw [route, toList_routeOf, toList_routeOf] at hlist
  have hslashes : db.toList.count '/' + group.toList.count '/' + name.toList.count '/' = 0 := by
    have hcount := congrArg (List.count '/') hlist
    simp only [List.count_append, List.count_cons_self, List.count_eq_zero.mpr hdb,
      List.count_eq_zero.mpr hgroup, List.count_eq_zero.mpr hname] at hcount
    omega
  have hdb' : '/' ∉ db.toList := List.count_eq_zero.mp (by omega)
  have hgroup' : '/' ∉ group.toList := List.count_eq_zero.mp (by omega)
  obtain ⟨heq, hrest⟩ := append_slash_inj hdb' hdb hlist
  obtain ⟨heq', heq''⟩ := append_slash_inj hgroup' hgroup hrest
  rw [names, String.toList_inj.mp heq, String.toList_inj.mp heq', String.toList_inj.mp heq'']

theorem exists_split_at_slash {s : String} (h : '/' ∈ s.toList) :
    ∃ a b : String, s = a ++ "/" ++ b := by
  obtain ⟨a, b, hab⟩ := List.append_of_mem h
  exact ⟨String.ofList a, String.ofList b, String.toList_inj.mp (by simp [hab])⟩

theorem append_slash_ne (a b : String) : a ++ "/" ++ b ≠ a := by
  intro h
  have := congrArg String.length h
  simp only [String.length_append] at this
  have hslash : "/".length = 1 := rfl
  omega

/-- **Any other route is made by other names too.** -/
theorem exists_other_names {e : Endpoint} (h : ¬ e.IsPlain) :
    ∃ db group name, routeOf db group name = e.route ∧ e.names ≠ (db, group, name) := by
  obtain ⟨db, group, name, engine, sql, params, case, debug⟩ := e
  have hslash : '/' ∈ db.toList ∨ '/' ∈ group.toList ∨ '/' ∈ name.toList := by
    simpa only [IsPlain, ← not_or, not_not] using h
  -- the slash of a name is taken for the one between two names, or the other way round
  rcases hslash with hdb | hgroup | hname
  · obtain ⟨a, b, rfl⟩ := exists_split_at_slash hdb
    refine ⟨a, b ++ "/" ++ group, name, by simp [route, routeOf, String.append_assoc], ?_⟩
    exact fun heq => append_slash_ne a b (Prod.mk.inj heq).1
  · obtain ⟨a, b, rfl⟩ := exists_split_at_slash hgroup
    refine ⟨db ++ "/" ++ a, b, name, by simp [route, routeOf, String.append_assoc], ?_⟩
    exact fun heq => append_slash_ne db a (Prod.mk.inj heq).1.symm
  · obtain ⟨a, b, rfl⟩ := exists_split_at_slash hname
    refine ⟨db, group ++ "/" ++ a, b, by simp [route, routeOf, String.append_assoc], ?_⟩
    exact fun heq => append_slash_ne group a (Prod.mk.inj (Prod.mk.inj heq).2).1.symm

end Endpoint

/-! ## 2. The endpoints of a configuration -/

/-- Lists under different keys have nothing in common. -/
theorem nodup_flatMap_of_key {α β κ : Type} {l : List α} {f : α → List β} (key : α → κ)
    (keyOf : β → κ) (hkey : (l.map key).Nodup) (hf : ∀ a ∈ l, (f a).Nodup)
    (hkeyOf : ∀ a ∈ l, ∀ b ∈ f a, keyOf b = key a) : (l.flatMap f).Nodup := by
  refine List.nodup_flatMap.mpr ⟨hf, ?_⟩
  refine (List.pairwise_map.mp hkey).imp_of_mem ?_
  intro a a' ha ha' hne b hb hb'
  exact hne ((hkeyOf a ha b hb).symm.trans (hkeyOf a' ha' b hb'))

/-- The names of the APIs of a configuration, in its order. -/
def Config.apiNames (c : Config) : List (String × String × String) :=
  c.databases.flatMap fun db =>
    db.groups.flatMap fun group => group.apis.map fun api => (db.name, group.name, api.name)

theorem Config.map_names_endpoints (c : Config) :
    c.endpoints.map Endpoint.names = c.apiNames := by
  simp only [Config.endpoints, Config.apiNames, List.map_flatMap, List.map_map]
  rfl

/-- **No two APIs of a configuration have the same three names**, if no name comes again on any
level. -/
theorem Config.UniqueNames.nodup_apiNames {c : Config} (h : c.UniqueNames) :
    c.apiNames.Nodup := by
  refine nodup_flatMap_of_key Database.name Prod.fst h.databases ?_ ?_
  · intro db hdb
    refine nodup_flatMap_of_key Group.name (·.2.1) (h.groups db hdb) ?_ ?_
    · intro group hgroup
      have hapis := h.apis db hdb group hgroup
      exact List.pairwise_map.mpr ((List.pairwise_map.mp hapis).imp fun hne heq =>
        hne (Prod.mk.inj (Prod.mk.inj heq).2).2)
    · intro group _ names hnames
      obtain ⟨api, -, rfl⟩ := List.mem_map.mp hnames
      rfl
  · intro db _ names hnames
    obtain ⟨group, -, hnames⟩ := List.mem_flatMap.mp hnames
    obtain ⟨api, -, rfl⟩ := List.mem_map.mp hnames
    rfl

/-- Plain endpoints of a configuration have different routes. -/
theorem Config.UniqueNames.nodup_routes {c : Config} (h : c.UniqueNames)
    (hplain : ∀ e ∈ c.endpoints, e.IsPlain) : (c.endpoints.map Endpoint.route).Nodup := by
  have hnames : (c.endpoints.map Endpoint.names).Nodup :=
    c.map_names_endpoints ▸ h.nodup_apiNames
  refine List.pairwise_map.mpr ((List.pairwise_map.mp hnames).imp_of_mem ?_)
  intro e e' he _ hne heq
  exact hne ((hplain e he).eq_of_routeOf_eq heq.symm)

/-! ## 3. Configurations of single APIs -/

namespace Config

/-- A database with one API. -/
def RawDatabase.single (db group name : String) : RawDatabase where
  name := some db
  type := some "sqlite"
  dsn := some "d"
  format := none
  maxConnections := none
  groups := [⟨some group, none, [⟨some name, some "SELECT 1", none, false⟩]⟩]

/-- What an accepted one becomes. -/
def Database.single (db group name : String) : Database where
  name := db
  engine := .sqlite
  dsn := "d"
  maxConnections := defaultMaxConnections
  groups := [⟨group, [⟨name, "SELECT 1", .keep, false⟩]⟩]

/-- A file with such a database for every triple of names, and nothing else. -/
def Raw.singles (names : List (String × String × String)) : Raw :=
  ⟨none, none, names.map fun (db, group, name) => .single db group name⟩

/-- What an accepted one becomes. -/
def singles (names : List (String × String × String)) : Config where
  server := ⟨defaultAddr, defaultPort, false, [], false, some defaultQueryTimeout⟩
  log := .default
  databases := names.map fun (db, group, name) => .single db group name

theorem RawDatabase.validate_single {db group name : String}
    (hdb : requireName (some db) .unnamedDatabase = .ok db)
    (hgroup : requireName (some group) .unnamedGroup = .ok group)
    (hname : requireName (some name) .unnamedApi = .ok name) :
    (RawDatabase.single db group name).validate false = .ok (.single db group name) := by
  have htype : Engine.ofType "sqlite" = .ok .sqlite := by decide +kernel
  have hsql : ¬ Text.isBlankText "SELECT 1" = true := by decide
  have hdsn : ¬ Text.isBlankText "d" = true := by decide
  have hapi : RawApi.validate .keep false ⟨some name, some "SELECT 1", none, false⟩ =
      .ok ⟨name, "SELECT 1", .keep, false⟩ :=
    bind_eq_ok_iff.mpr ⟨name, hname, guard_eq_ok_iff.mpr
      ⟨hsql, bind_eq_ok_iff.mpr ⟨.keep, rfl, rfl⟩⟩⟩
  have hapis : RawGroup.validate db .keep false
      ⟨some group, none, [⟨some name, some "SELECT 1", none, false⟩]⟩ =
      .ok ⟨group, [⟨name, "SELECT 1", .keep, false⟩]⟩ :=
    bind_eq_ok_iff.mpr ⟨group, hgroup, bind_eq_ok_iff.mpr ⟨.keep, rfl, bind_eq_ok_iff.mpr
      ⟨_, validateAll_eq_ok_iff.mpr ⟨.cons hapi .nil, by simp, by simp⟩, rfl⟩⟩⟩
  refine bind_eq_ok_iff.mpr ⟨db, hdb, bind_eq_ok_iff.mpr ⟨"sqlite", rfl, ?_⟩⟩
  refine bind_eq_ok_iff.mpr ⟨.sqlite, by rw [htype]; rfl, ?_⟩
  refine guard_eq_ok_iff.mpr ⟨hdsn, guard_eq_ok_iff.mpr ⟨Nat.succ_ne_zero 9, ?_⟩⟩
  exact bind_eq_ok_iff.mpr ⟨.keep, rfl, bind_eq_ok_iff.mpr
    ⟨_, validateAll_eq_ok_iff.mpr ⟨.cons hapis .nil, by simp, by simp⟩, rfl⟩⟩

/-- Any names are accepted that are not blank, not in need of trimming, and different for different
databases. -/
theorem Raw.validate_singles {names : List (String × String × String)}
    (hnodup : (names.map (·.1)).Nodup) (hnames : ∀ n ∈ names,
      requireName (some n.1) .unnamedDatabase = .ok n.1 ∧
      requireName (some n.2.1) .unnamedGroup = .ok n.2.1 ∧
      requireName (some n.2.2) .unnamedApi = .ok n.2.2) :
    (Raw.singles names).validate = .ok (Config.singles names) := by
  refine bind_eq_ok_iff.mpr ⟨_, rfl, bind_eq_ok_iff.mpr ⟨_, validateAll_eq_ok_iff.mpr
    ⟨?_, ?_, by simp⟩, rfl⟩⟩
  · rw [Raw.singles, List.forall₂_map_left_iff, List.forall₂_map_right_iff, List.forall₂_same]
    intro n hn
    exact RawDatabase.validate_single (hnames n hn).1 (hnames n hn).2.1 (hnames n hn).2.2
  · rw [List.map_map]
    exact hnodup

end Config

/-! ## 4. Look-ups -/

/-- **Routes tell APIs apart exactly if no name holds a slash.**  For an accepted configuration
whose templates are in order, no route is refused as taken and every look-up finds an API of
exactly the requested names, if and only if the names of its APIs hold no slash. -/
theorem Registry.resolve_exact_iff {raw : Config.Raw} {c : Config} (h : raw.validate = .ok c) :
    ((∀ route, Registry.ofConfig c ≠ .error (.duplicateApi route)) ∧
      ∀ r, Registry.ofConfig c = .ok r → ∀ db group name e, r.resolve db group name = some e →
        e.db = db ∧ e.group = group ∧ e.name = name) ↔
    (∃ route reason, Registry.ofConfig c = .error (.invalidTemplate route reason)) ∨
      ∀ e ∈ c.endpoints, e.IsPlain := by
  constructor
  · rintro ⟨hnotTaken, hexact⟩
    cases hr : Registry.ofConfig c with
    | error err =>
      cases err with
      | invalidTemplate route reason => exact Or.inl ⟨route, reason, rfl⟩
      | duplicateApi route => exact absurd hr (hnotTaken route)
    | ok r =>
      refine Or.inr fun e he => ?_
      by_contra hslash
      obtain ⟨db, group, name, hroute, hne⟩ := Endpoint.exists_other_names hslash
      have hfound : r.resolve db group name = some e :=
        (inStep_of_ofConfig hr).resolve_eq_some_iff.mpr ⟨he, hroute.symm⟩
      obtain ⟨hdb, hgroup, hname⟩ := hexact r hr db group name e hfound
      refine hne ?_
      rw [Endpoint.names, hdb, hgroup, hname]
  · rintro (⟨route, reason, hinvalid⟩ | hplain)
    · rw [hinvalid]
      exact ⟨fun _ heq => (by cases heq), fun _ heq => (by cases heq)⟩
    · have hnodup := (Config.Raw.uniqueNames_of_validate h).nodup_routes hplain
      constructor
      · exact ofConfig_ne_duplicate hnodup
      · intro r hr db group name e hresolve
        obtain ⟨he, hroute⟩ := (inStep_of_ofConfig hr).resolve_eq_some_iff.mp hresolve
        have hnames := (hplain e he).eq_of_routeOf_eq hroute.symm
        simpa [Endpoint.names] using hnames

/-- The same group and the same API in two databases. -/
def plainNames : List (String × String × String) :=
  [("shop", "orders", "list"), ("logs", "orders", "list")]

theorem resolve_exact_plainNames :
    (Config.Raw.singles plainNames).validate = .ok (.singles plainNames) ∧
      (∀ route, Registry.ofConfig (.singles plainNames) ≠ .error (.duplicateApi route)) ∧
      ∀ r, Registry.ofConfig (.singles plainNames) = .ok r → ∀ db group name e,
        r.resolve db group name = some e → e.db = db ∧ e.group = group ∧ e.name = name := by
  have h : (Config.Raw.singles plainNames).validate = .ok (.singles plainNames) :=
    Config.Raw.validate_singles (by decide) (by decide)
  exact ⟨h, (Registry.resolve_exact_iff h).mpr (Or.inr (by decide))⟩

/-- One API under a name with a slash. -/
def slashNames : List (String × String × String) := [("a/b", "c", "d")]

/-- The same, and the triple that its route can be taken for. -/
def clashingNames : List (String × String × String) := [("a/b", "c", "d"), ("a", "b/c", "d")]

/-- Under a name with a slash an API is found in a database that there is not, and where the other
triple is configured too, no registry can be built. -/
theorem slash_confuses_routes :
    (Config.Raw.singles slashNames).validate = .ok (.singles slashNames) ∧
      (∃ r e, Registry.ofConfig (.singles slashNames) = .ok r ∧
        r.resolve "a" "b/c" "d" = some e ∧ e.names = ("a/b", "c", "d")) ∧
    (Config.Raw.singles clashingNames).validate = .ok (.singles clashingNames) ∧
      Registry.ofConfig (.singles clashingNames) = .error (.duplicateApi "a/b/c/d") := by
  refine ⟨Config.Raw.validate_singles (by decide) (by decide), ?_,
    Config.Raw.validate_singles (by decide) (by decide), ?_⟩
  · obtain ⟨r, hr⟩ := Registry.exists_ofConfig (.singles slashNames) (by decide +kernel) (by decide)
    refine ⟨r, ⟨"a/b", "c", "d", .sqlite, "SELECT 1", [], .keep, false⟩, hr, ?_, rfl⟩
    exact (Registry.inStep_of_ofConfig hr).resolve_eq_some_iff.mpr (by decide +kernel)
  · have hall : ∀ a ∈ (Config.singles clashingNames).apis,
        Template.validate a.api.sql = .ok () ∧ a.route = "a/b/c/d" := by decide +kernel
    obtain ⟨err, herr⟩ : ∃ err, Registry.ofConfig (.singles clashingNames) = .error err := by
      refine Registry.exists_ofConfig_eq_error_iff.mpr
        ⟨(Config.singles clashingNames).apis.take 1,
          (Config.singles clashingNames).apis.get ⟨1, by decide⟩, [], by decide +kernel,
          .inr ⟨(Config.singles clashingNames).apis.get ⟨0, by decide⟩, ?_, ?_⟩⟩
      · decide +kernel
      · decide +kernel
    obtain ⟨earlier, a, later, heq, hrefused, -⟩ := Registry.ofConfig_eq_error_iff.mp herr
    obtain ⟨hsound, hroute⟩ := hall a (heq ▸ List.mem_append_right _ List.mem_cons_self)
    obtain ⟨-, rfl⟩ := (ConfiguredApi.refused_iff_of_sound hsound).mp hrefused
    rw [herr, hroute]

end SqlGateway
