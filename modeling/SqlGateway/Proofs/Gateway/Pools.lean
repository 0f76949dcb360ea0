/-
# Pools and endpoints

An endpoint knows its database by name, and so does a pool.  For a configuration that was accepted
the name is enough: no two databases share it, and every database has its pool.

* `pool?_of_mem`: every configured database has its own pool under its name;
* `exists_database_of_resolve`: whatever is found for a request belongs to a configured database;
* `pool_matches_endpoint`: so every call has a pool, that of the database it was configured for,
  and no statement goes to an engine that reads other markers.

A pool is found by name alone, and of two databases with one name only the second would ever be
asked.  What keeps them apart is that accepted names are unique after they have been trimmed.
-/
import SqlGateway.Proofs.Gateway.Execution

namespace SqlGateway.Gateway

open Http

variable {σ : Type} {c : Config} {g : Gateway}

/-! ## 1. One pool for every database -/

theorem openPool_eq_ok_iff {d : Config.Database} {pool : Store.Pool} :
    openPool d = .ok pool ↔ Dsn.check d.engine d.dsn = .ok () ∧ pool = .ofDatabase d := by
  unfold openPool
  cases Dsn.check d.engine d.dsn <;> simp [eq_comm]

/-- Opens the pools of databases beside pools that are there. -/
def openPoolsBeside (pools : Std.TreeMap String Store.Pool) (ds : List Config.Database) :
    Except StartError (Std.TreeMap String Store.Pool) :=
  ds.foldlM (fun pools d => return pools.insert d.name (← openPool d)) pools

theorem openPoolsBeside_cons_eq_ok_iff {d : Config.Database} {ds : List Config.Database}
    {pools pools' : Std.TreeMap String Store.Pool} :
    openPoolsBeside pools (d :: ds) = .ok pools' ↔ Dsn.check d.engine d.dsn = .ok () ∧
      openPoolsBeside (pools.insert d.name (.ofDatabase d)) ds = .ok pools' := by
  rw [openPoolsBeside, List.foldlM_cons, bind_eq_ok_iff]
  constructor
  · rintro ⟨pools'', hopen, hmore⟩
    obtain ⟨pool, hpool, hinsert⟩ := bind_eq_ok_iff.mp hopen
    obtain ⟨hcheck, rfl⟩ := openPool_eq_ok_iff.mp hpool
    obtain rfl := Except.ok.inj hinsert
    exact ⟨hcheck, hmore⟩
  · rintro ⟨hcheck, hmore⟩
    have hpool : openPool d = .ok (.ofDatabase d) := openPool_eq_ok_iff.mpr ⟨hcheck, rfl⟩
    exact ⟨_, bind_eq_ok_iff.mpr ⟨_, hpool, rfl⟩, hmore⟩

/-- Pools can be opened if the connection settings of their databases are in order. -/
theorem exists_openPoolsBeside_iff {ds : List Config.Database}
    {pools : Std.TreeMap String Store.Pool} : (∃ pools', openPoolsBeside pools ds = .ok pools') ↔
      ∀ d ∈ ds, Dsn.check d.engine d.dsn = .ok () := by
  induction ds generalizing pools with
  | nil => exact iff_of_true ⟨pools, rfl⟩ (List.forall_mem_nil _)
  | cons d more ih =>
    simp only [openPoolsBeside_cons_eq_ok_iff, exists_and_left, ih, List.forall_mem_cons]

/-- Of the pools of one name the one that is opened last is kept. -/
theorem getElem?_of_openPoolsBeside {ds : List Config.Database}
    {pools pools' : Std.TreeMap String Store.Pool} (h : openPoolsBeside pools ds = .ok pools')
    (name : String) : pools'[name]? =
      ((ds.reverse.find? (·.name == name)).map Store.Pool.ofDatabase).or pools[name]? := by
  induction ds generalizing pools with
  | nil =>
    obtain rfl : pools = pools' := Except.ok.inj h
    rfl
  | cons d more ih =>
    obtain ⟨-, hmore⟩ := openPoolsBeside_cons_eq_ok_iff.mp h
    rw [ih hmore, List.reverse_cons, List.find?_append, Std.TreeMap.getElem?_insert]
    cases more.reverse.find? (·.name == name) with
    | some d' => rfl
    | none =>
      by_cases hname : d.name = name
      · simp [hname]
      · have hcompare : ¬ compare d.name name = .eq := fun h =>
          hname (Std.LawfulEqOrd.eq_of_compare h)
        simp [hname, hcompare]

/-- A gateway has the registry of its configuration and opened the pools of its databases. -/
theorem parts_of_ofConfig {config : Config} (hg : ofConfig config = .ok g) :
    Registry.ofConfig config = .ok g.registry ∧
      openPoolsBeside ∅ config.databases = .ok g.pools := by
  obtain ⟨registry, hregistry, hg⟩ := bind_eq_ok_iff.mp hg
  obtain ⟨pools, hpools, hg⟩ := bind_eq_ok_iff.mp hg
  cases hg
  exact ⟨mapError_eq_ok_iff.mp hregistry, hpools⟩

theorem inStep_registry {config : Config} (hg : ofConfig config = .ok g) :
    g.registry.InStep config.endpoints :=
  Registry.inStep_of_ofConfig (parts_of_ofConfig hg).1

/-- **The pool of a name is that of a database of the name**, and there is one if there is such a
database. -/
theorem pool?_of_ofConfig {config : Config} (hg : ofConfig config = .ok g) (name : String) :
    g.pool? name =
      (config.databases.reverse.find? (·.name == name)).map Store.Pool.ofDatabase := by
  rw [pool?, getElem?_of_openPoolsBeside (parts_of_ofConfig hg).2]
  simp

/-- **Every database has its own pool**: under its name no other is found. -/
theorem pool?_of_mem (hunique : c.UniqueNames) (hg : ofConfig c = .ok g) {d : Config.Database}
    (hd : d ∈ c.databases) : g.pool? d.name = some (.ofDatabase d) := by
  obtain ⟨d', hfound⟩ : ∃ d', c.databases.reverse.find? (·.name == d.name) = some d' :=
    Option.isSome_iff_exists.mp
      (List.find?_isSome.mpr ⟨d, List.mem_reverse.mpr hd, beq_self_eq_true _⟩)
  have hd' : d' ∈ c.databases := List.mem_reverse.mp (List.mem_of_find?_eq_some hfound)
  have hname : d'.name = d.name := by simpa using List.find?_some hfound
  obtain rfl : d' = d := List.inj_on_of_nodup_map hunique.databases hd' hd hname
  rw [pool?_of_ofConfig hg, hfound]
  rfl

theorem check_of_mem (hg : ofConfig c = .ok g) {d : Config.Database} (hd : d ∈ c.databases) :
    Dsn.check d.engine d.dsn = .ok () :=
  exists_openPoolsBeside_iff.mp ⟨_, (parts_of_ofConfig hg).2⟩ d hd

/-! ## 2. The database of an endpoint -/

/-- Whatever is found for a request belongs to a configured database. -/
theorem exists_database_of_resolve (hg : ofConfig c = .ok g) {db group name : String}
    {e : Endpoint} (h : g.registry.resolve db group name = some e) :
    ∃ d ∈ c.databases, d.name = e.db ∧ d.engine = e.engine := by
  obtain ⟨he, -⟩ := (inStep_registry hg).resolve_eq_some_iff.mp h
  obtain ⟨d, hd, he⟩ := List.mem_flatMap.mp he
  obtain ⟨group, -, he⟩ := List.mem_flatMap.mp he
  obtain ⟨api, -, rfl⟩ := List.mem_map.mp he
  exact ⟨d, hd, rfl, rfl⟩

/-- **A prepared call goes to its own database**: the endpoint and the pool are those of one
configured database, so the markers are written for the engine that gets the statement. -/
theorem Prepares.exists_database (hunique : c.UniqueNames) (hg : ofConfig c = .ok g) {r : Request}
    {kind : CallKind} {fields : Fields} {prepared : PreparedCall}
    (h : g.Prepares r kind fields prepared) :
    ∃ d ∈ c.databases, prepared.endpoint.db = d.name ∧ prepared.endpoint.engine = d.engine ∧
      prepared.pool = .ofDatabase d := by
  obtain ⟨-, -, -, name, -, -, hresolve⟩ := h.named
  obtain ⟨d, hd, hname, hengine⟩ := exists_database_of_resolve hg hresolve
  have hpool := pool?_of_mem hunique hg hd
  rw [hname, h.pooled] at hpool
  exact ⟨d, hd, hname.symm, hengine.symm, Option.some.inj hpool⟩

/-- A call is never without a pool: what keeps it from being prepared is that there is no such API,
or that its body or its fields do not do. -/
theorem prepare_ne_internal (hunique : c.UniqueNames) (hg : ofConfig c = .ok g) (name : ApiName)
    (body : List UInt8) (message : String) : g.prepare name body ≠ .error (.internal message) := by
  unfold prepare
  cases hresolve : g.registry.resolve name.db name.group name.api with
  | none =>
    intro h
    cases h
  | some e =>
    obtain ⟨d, hd, hname, -⟩ := exists_database_of_resolve hg hresolve
    simp only [hname ▸ pool?_of_mem hunique hg hd]
    intro h
    rcases bind_eq_error_iff.mp h with h | ⟨fields, -, h⟩
    · obtain ⟨fault, -, hfault⟩ := mapError_eq_error_iff.mp h
      cases hfault
    · rcases bind_eq_error_iff.mp h with h | ⟨statement, -, h⟩
      · obtain ⟨fault, -, hfault⟩ := mapError_eq_error_iff.mp h
        cases hfault
      · cases h

theorem call_ne_internal (hunique : c.UniqueNames) (hg : ofConfig c = .ok g)
    (b : Store.Backend σ) (kind : CallKind) (name : ApiName) (body : List UInt8) (s : σ)
    (message : String) : (g.call b kind name body s).1 ≠ .failed (.internal message) := by
  unfold call
  cases hprepare : g.prepare name body with
  | error f =>
    intro h
    cases h
    exact prepare_ne_internal hunique hg name body message hprepare
  | ok prepared =>
    intro h
    have hcomes : prepared.ComesTo g.server.queryTimeout (.failed (.internal message)) :=
      h ▸ comesTo_send b _ kind prepared s
    cases hcomes

/-! ## 3. What a pool gets -/

/-- Only statements in the style of its engine are sent to a pool. -/
theorem style_of_mem_serve (hunique : c.UniqueNames) (hg : ofConfig c = .ok g)
    (b : Store.Backend σ) (requests : List (String × Request)) (s : σ) {x : Store.Execution}
    (hx : x ∈ (serve b.journaled g requests (s, [])).2.2) :
    ∃ d ∈ c.databases, x.pool = .ofDatabase d ∧ ∃ e ∈ g.registry.endpoints, e.db = d.name ∧
      ∃ fields st, Template.compile d.engine.markerStyle e.sql fields e.params = .ok st ∧
        x.sql = st.sql ∧ x.bound = st.args.map .ofScalar := by
  rw [serve_journaled, List.nil_append] at hx
  obtain ⟨exchange, hexchange, hx⟩ := List.mem_flatMap.mp hx
  obtain ⟨i, hi, rfl⟩ := List.mem_iff_getElem.mp hexchange
  have hall := accounted_serve b g requests s
  have haccounted := hall.get (hall.length_eq ▸ hi) hi
  obtain ⟨kind, fields, prepared, h, hpool, hsql, hbound⟩ := haccounted.executed x hx
  obtain ⟨d, hd, hname, hengine, hown⟩ := h.exists_database hunique hg
  obtain ⟨-, -, -, name, -, -, hresolve⟩ := h.named
  have hstep := inStep_registry hg
  have hlisted : prepared.endpoint ∈ g.registry.endpoints := by
    rw [hstep.endpoints]
    exact (hstep.resolve_eq_some_iff.mp hresolve).1
  refine ⟨d, hd, hpool.trans hown, prepared.endpoint, hlisted, hname, fields, prepared.statement,
    ?_, hsql, hbound⟩
  rw [← hengine]
  exact h.compiled

/-- **Every call goes to the pool of its own database, in the style that its engine reads.**  For
an accepted configuration from which a gateway could be made, whatever a look-up finds has a pool:
that of the only configured database with its name, made from the connection settings of that
database and for its engine, which is also the engine of what was found.  So no call fails for want
of a pool, and whatever is asked of the gateway, a statement with counted markers is sent to
PostgreSQL only and a statement with plain ones to the other engines only. -/
theorem pool_matches_endpoint {raw : Config.Raw} (hraw : raw.validate = .ok c)
    (hg : ofConfig c = .ok g) :
    (∀ db group name e, g.registry.resolve db group name = some e →
      ∃ d ∈ c.databases, d.name = e.db ∧ (∀ d' ∈ c.databases, d'.name = e.db → d' = d) ∧
        Dsn.check d.engine d.dsn = .ok () ∧ g.pool? e.db = some ⟨e.db, e.engine, d.dsn⟩ ∧
        e.engine = d.engine) ∧
    (∀ {σ : Type} (b : Store.Backend σ) kind name body s message,
      (g.call b kind name body s).1 ≠ .failed (.internal message)) ∧
    ∀ {σ : Type} (b : Store.Backend σ) requests s,
      ∀ x ∈ (serve b.journaled g requests (s, [])).2.2,
        ∃ style, ∃ e ∈ g.registry.endpoints, ∃ fields st,
          Template.compile style e.sql fields e.params = .ok st ∧ x.sql = st.sql ∧
          x.bound = st.args.map .ofScalar ∧ x.pool.database = e.db ∧
          (style = .dollar ∧ x.pool.engine = .postgres ∨
            style = .question ∧ (x.pool.engine = .mysql ∨ x.pool.engine = .sqlite)) := by
  have hunique := Config.Raw.uniqueNames_of_validate hraw
  refine ⟨fun db group name e h => ?_, call_ne_internal hunique hg, fun b requests s x hx => ?_⟩
  · obtain ⟨d, hd, hname, hengine⟩ := exists_database_of_resolve hg h
    refine ⟨d, hd, hname, fun d' hd' hname' => ?_, check_of_mem hg hd, ?_, hengine.symm⟩
    · exact List.inj_on_of_nodup_map hunique.databases hd' hd (hname'.trans hname.symm)
    · rw [← hname, ← hengine]
      exact pool?_of_mem hunique hg hd
  · obtain ⟨d, hd, hpool, e, he, hname, fields, st, hcompile, hsql, hbound⟩ :=
      style_of_mem_serve hunique hg b requests s hx
    refine ⟨_, e, he, fields, st, hcompile, hsql, hbound, by rw [hpool, hname]; rfl, ?_⟩
    rw [hpool, Store.Pool.ofDatabase]
    cases d.engine with
    | postgres => exact .inl ⟨rfl, rfl⟩
    | mysql => exact .inr ⟨rfl, .inl rfl⟩
    | sqlite => exact .inr ⟨rfl, .inr rfl⟩

/-- A file with a database of either style. -/
def mixedRaw : Config.Raw where
  server := none
  log := none
  dbs :=
    [⟨some " shop ", some "postgres", some "postgres://app@localhost/shop", none, none,
        [⟨some "orders", none, [⟨some "find", some "SELECT {id}", none, false⟩]⟩]⟩,
      ⟨some "logs", some "sqlite", some ":memory:", none, none,
        [⟨some "orders", none, [⟨some "find", some "SELECT {id}", none, false⟩]⟩]⟩]

/-- What it describes. -/
def mixed : Config where
  server :=
    ⟨Config.defaultAddr, Config.defaultPort, false, [], false, some Config.defaultQueryTimeout⟩
  log := .default
  databases :=
    [⟨"shop", .postgres, "postgres://app@localhost/shop", Config.defaultMaxConnections,
        [⟨"orders", [⟨"find", "SELECT {id}", .keep, false⟩]⟩]⟩,
      ⟨"logs", .sqlite, ":memory:", Config.defaultMaxConnections,
        [⟨"orders", [⟨"find", "SELECT {id}", .keep, false⟩]⟩]⟩]

theorem exists_ofConfig_mixed : ∃ g, ofConfig mixed = .ok g := by
  obtain ⟨r, hr⟩ := Registry.exists_ofConfig mixed (by decide +kernel) (by decide +kernel)
  have hchecked : ∀ d ∈ mixed.databases, Dsn.check d.engine d.dsn = .ok () := by decide +kernel
  obtain ⟨pools, hpools⟩ := (@exists_openPoolsBeside_iff _ ∅).mpr hchecked
  exact ⟨_, bind_eq_ok_iff.mpr
    ⟨r, mapError_eq_ok_iff.mpr hr, bind_eq_ok_iff.mpr ⟨pools, hpools, rfl⟩⟩⟩

/-- The API of the first database is found, and its pool is that of this database. -/
theorem pool_matches_endpoint_mixed :
    mixedRaw.validate = .ok mixed ∧ ∃ g, ofConfig mixed = .ok g ∧
      ∃ e, g.registry.resolve "shop" "orders" "find" = some e ∧ e.engine = .postgres ∧
        ∃ d ∈ mixed.databases, d.name = "shop" ∧ (∀ d' ∈ mixed.databases, d'.name = e.db → d' = d) ∧
          g.pool? e.db = some ⟨e.db, e.engine, d.dsn⟩ := by
  have hraw : mixedRaw.validate = .ok mixed := by decide +kernel
  obtain ⟨g, hg⟩ := exists_ofConfig_mixed
  have hfound : g.registry.resolve "shop" "orders" "find" =
      some ⟨"shop", "orders", "find", .postgres, "SELECT {id}", ["id"], .keep, false⟩ :=
    (inStep_registry hg).resolve_eq_some_iff.mpr (by decide +kernel)
  obtain ⟨d, hd, hname, hunique, -, hpool, -⟩ :=
    (pool_matches_endpoint hraw hg).1 _ _ _ _ hfound
  exact ⟨hraw, g, hg, _, hfound, rfl, d, hd, hname, hunique, hpool⟩

end SqlGateway.Gateway
