/-
# The API that is refused

Building a registry stops at the first API that is *refused*: its template is broken, or an API
before it has its route.  This is a matter of the APIs before it, whatever comes behind.

* `ConfiguredApi.Refused`: why an API is refused behind others;
* `InStep.add_eq_error_iff`: one API is not added exactly if it is refused behind those that are
  there;
* `InStep.foldlM_add_eq_error_iff`: of many the first that is refused decides;
* `ofConfig_eq_error_iff`, `exists_ofConfig`: so no registry is built, or else one is.
-/
import SqlGateway.Proofs.Registry.Building

namespace SqlGateway

/-! ## 1. Configured APIs -/

/-- An API with the database and the group that it is configured in. -/
structure ConfiguredApi where
  db : Config.Database
  group : Config.Group
  api : Config.Api
deriving DecidableEq, Repr

namespace ConfiguredApi

/-- The route of a configured API. -/
def route (a : ConfiguredApi) : String := routeOf a.db.name a.group.name a.api.name

/-- The endpoint of a configured API. -/
def endpoint (a : ConfiguredApi) : Endpoint := .ofApi a.db a.group a.api

@[simp] theorem route_endpoint (a : ConfiguredApi) : a.endpoint.route = a.route := rfl

@[simp] theorem sql_endpoint (a : ConfiguredApi) : a.endpoint.sql = a.api.sql := rfl

/-- Why an API is refused behind those that come before it.  A broken template counts first. -/
inductive Refused (earlier : List ConfiguredApi) (a : ConfiguredApi) : RegistryError → Prop
  | template {reason : Template.BlockError} (broken : Template.validate a.api.sql = .error reason) :
      Refused earlier a (.invalidTemplate a.route reason)
  | route (sound : Template.validate a.api.sql = .ok ()) {b : ConfiguredApi} (before : b ∈ earlier)
      (same : b.route = a.route) : Refused earlier a (.duplicateApi a.route)

variable {earlier : List ConfiguredApi} {a : ConfiguredApi}

/-- An API is refused for its template or for its route. -/
theorem exists_refused_iff :
    (∃ err, a.Refused earlier err) ↔
      (∃ reason, Template.validate a.api.sql = .error reason) ∨
        ∃ b ∈ earlier, b.route = a.route := by
  constructor
  · rintro ⟨err, ⟨broken⟩ | ⟨sound, before, same⟩⟩
    · exact .inl ⟨_, broken⟩
    · exact .inr ⟨_, before, same⟩
  · rintro (⟨reason, broken⟩ | ⟨b, before, same⟩)
    · exact ⟨_, .template broken⟩
    · cases hvalid : Template.validate a.api.sql with
      | error reason => exact ⟨_, .template hvalid⟩
      | ok u => exact ⟨_, .route hvalid before same⟩

/-- A broken template is the reason whatever comes before. -/
theorem refused_iff_of_broken {reason : Template.BlockError}
    (h : Template.validate a.api.sql = .error reason) {err : RegistryError} :
    a.Refused earlier err ↔ err = .invalidTemplate a.route reason := by
  constructor
  · rintro (⟨broken⟩ | ⟨sound, -, -⟩)
    · cases h.symm.trans broken
      rfl
    · cases h.symm.trans sound
  · rintro rfl
    exact .template h

/-- With its template in order an API can only be refused for its route. -/
theorem refused_iff_of_sound (h : Template.validate a.api.sql = .ok ()) {err : RegistryError} :
    a.Refused earlier err ↔
      (∃ b ∈ earlier, b.route = a.route) ∧ err = .duplicateApi a.route := by
  constructor
  · rintro (⟨broken⟩ | ⟨-, before, same⟩)
    · cases h.symm.trans broken
    · exact ⟨⟨_, before, same⟩, rfl⟩
  · rintro ⟨⟨b, before, same⟩, rfl⟩
    exact .route h before same

end ConfiguredApi

/-- The APIs of a configuration, in its order. -/
def Config.apis (c : Config) : List ConfiguredApi :=
  c.databases.flatMap fun db => db.groups.flatMap fun group => group.apis.map (⟨db, group, ·⟩)

theorem Config.endpoints_eq_map_apis (c : Config) :
    c.endpoints = c.apis.map ConfiguredApi.endpoint := by
  simp only [Config.endpoints, Config.apis, List.map_flatMap, List.map_map]
  rfl

namespace Registry

/-! ## 2. The first API that is refused -/

/-- The error is that of the first API that is refused; `passed` are the APIs before them all. -/
def FirstRefused (passed apis : List ConfiguredApi) (err : RegistryError) : Prop :=
  ∃ earlier a later, apis = earlier ++ a :: later ∧ a.Refused (passed ++ earlier) err ∧
    ∀ before b behind, earlier = before ++ b :: behind → ∀ err', ¬ b.Refused (passed ++ before) err'

theorem not_firstRefused_nil (passed : List ConfiguredApi) (err : RegistryError) :
    ¬ FirstRefused passed [] err := by
  rintro ⟨earlier, a, later, heq, -⟩
  simp at heq

/-- The first API is refused, or it passes and stands before the others. -/
theorem firstRefused_cons_iff {passed more : List ConfiguredApi} {a : ConfiguredApi}
    {err : RegistryError} :
    FirstRefused passed (a :: more) err ↔
      a.Refused passed err ∨
        (∀ err', ¬ a.Refused passed err') ∧ FirstRefused (passed ++ [a]) more err := by
  constructor
  · rintro ⟨earlier, a', later, heq, hrefused, hpassed⟩
    cases earlier with
    | nil =>
      obtain ⟨rfl, -⟩ := List.cons.inj heq
      exact .inl (by simpa using hrefused)
    | cons b earlier =>
      obtain ⟨rfl, rfl⟩ := List.cons.inj heq
      refine .inr ⟨by simpa using hpassed [] a earlier rfl, earlier, a', later, rfl, ?_, ?_⟩
      · simpa using hrefused
      · rintro before b behind rfl err'
        simpa using hpassed (a :: before) b behind rfl err'
  · rintro (hrefused | ⟨hpasses, earlier, a', later, rfl, hrefused, hpassed⟩)
    · exact ⟨[], a, more, rfl, by simpa using hrefused, by simp⟩
    · refine ⟨a :: earlier, a', later, rfl, by simpa using hrefused, ?_⟩
      intro before b behind heq err'
      cases before with
      | nil =>
        obtain ⟨rfl, -⟩ := List.cons.inj heq
        simpa using hpasses err'
      | cons b' before =>
        obtain ⟨rfl, rfl⟩ := List.cons.inj heq
        simpa using hpassed before b behind rfl err'

/-- Some API is the first that is refused exactly if some API is refused. -/
theorem exists_firstRefused_iff {passed apis : List ConfiguredApi} :
    (∃ err, FirstRefused passed apis err) ↔
      ∃ earlier a later, apis = earlier ++ a :: later ∧
        ∃ err, a.Refused (passed ++ earlier) err := by
  constructor
  · rintro ⟨err, earlier, a, later, heq, hrefused, -⟩
    exact ⟨earlier, a, later, heq, err, hrefused⟩
  · rintro ⟨earlier, a, later, rfl, err, hrefused⟩
    induction earlier generalizing passed with
    | nil => exact ⟨err, firstRefused_cons_iff.mpr (.inl (by simpa using hrefused))⟩
    | cons b earlier ih =>
      by_cases hb : ∃ err', b.Refused passed err'
      · obtain ⟨err', hb⟩ := hb
        exact ⟨err', firstRefused_cons_iff.mpr (.inl hb)⟩
      · obtain ⟨err', hfirst⟩ : ∃ err', FirstRefused (passed ++ [b]) (earlier ++ a :: later) err' :=
          ih (by simpa using hrefused)
        exact ⟨err', firstRefused_cons_iff.mpr (.inr ⟨not_exists.mp hb, hfirst⟩)⟩

/-! ## 3. Refusals while a registry is built -/

variable {r : Registry} {passed apis : List ConfiguredApi} {a : ConfiguredApi} {err : RegistryError}

/-- An API is not added exactly if it is refused behind those that are there. -/
theorem InStep.add_eq_error_iff (h : r.InStep (passed.map ConfiguredApi.endpoint)) :
    r.add a.endpoint = .error err ↔ a.Refused passed err := by
  have htaken : a.route ∈ r.routes ↔ ∃ b ∈ passed, b.route = a.route := by
    rw [h.mem_routes_iff]
    simp
  rw [add_eq, ConfiguredApi.sql_endpoint, ConfiguredApi.route_endpoint]
  cases hvalid : Template.validate a.api.sql with
  | error reason =>
    rw [ConfiguredApi.refused_iff_of_broken hvalid]
    simp [eq_comm]
  | ok u =>
    rw [ConfiguredApi.refused_iff_of_sound hvalid, ← htaken]
    by_cases hroute : a.route ∈ r.routes
    · simp [hroute, eq_comm]
    · simp [hroute]

/-- **Building stops at the first API that is refused.**  The induction is on the APIs still to be
added; those that are there are the APIs passed. -/
theorem InStep.foldlM_add_eq_error_iff (h : r.InStep (passed.map ConfiguredApi.endpoint)) :
    (apis.map ConfiguredApi.endpoint).foldlM Registry.add r = .error err ↔
      FirstRefused passed apis err := by
  induction apis generalizing r passed with
  | nil => exact iff_of_false (fun h => nomatch h) (not_firstRefused_nil passed err)
  | cons a more ih =>
    have hstep : ∀ r', r.add a.endpoint = .ok r' →
        r'.InStep ((passed ++ [a]).map ConfiguredApi.endpoint) := by
      intro r' hadd
      rw [List.map_append]
      exact h.add hadd
    rw [List.map_cons, List.foldlM_cons, bind_eq_error_iff, firstRefused_cons_iff,
      h.add_eq_error_iff]
    refine or_congr_right ⟨?_, ?_⟩
    · rintro ⟨r', hadd, hmore⟩
      refine ⟨fun err' hrefused => ?_, (ih (hstep r' hadd)).mp hmore⟩
      cases hadd.symm.trans (h.add_eq_error_iff.mpr hrefused)
    · rintro ⟨hpasses, hfirst⟩
      cases hadd : r.add a.endpoint with
      | error err' => exact absurd (h.add_eq_error_iff.mp hadd) (hpasses err')
      | ok r' => exact ⟨r', rfl, (ih (hstep r' hadd)).mpr hfirst⟩

variable {c : Config}

/-- **No registry is built exactly if an API is refused**, and the error is that of the first. -/
theorem ofConfig_eq_error_iff : ofConfig c = .error err ↔ FirstRefused [] c.apis err := by
  rw [ofConfig_eq, c.endpoints_eq_map_apis]
  exact InStep.empty.foldlM_add_eq_error_iff

theorem exists_ofConfig_eq_error_iff : (∃ err, ofConfig c = .error err) ↔
    ∃ earlier a later, c.apis = earlier ++ a :: later ∧
      ((∃ reason, Template.validate a.api.sql = .error reason) ∨
        ∃ b ∈ earlier, b.route = a.route) := by
  simp only [ofConfig_eq_error_iff, exists_firstRefused_iff, List.nil_append,
    ConfiguredApi.exists_refused_iff]

theorem not_mem_routes_of_nodup {earlier later : List ConfiguredApi}
    (hnodup : (c.endpoints.map Endpoint.route).Nodup) (h : c.apis = earlier ++ a :: later) :
    ¬ ∃ b ∈ earlier, b.route = a.route := by
  rintro ⟨b, hb, hroute⟩
  rw [c.endpoints_eq_map_apis, List.map_map, h, List.map_append, List.nodup_append] at hnodup
  exact hnodup.2.2 _ (List.mem_map_of_mem hb) _ (List.mem_map_of_mem List.mem_cons_self) hroute

/-- Where no two routes are the same, none is refused as taken. -/
theorem ofConfig_ne_duplicate (hnodup : (c.endpoints.map Endpoint.route).Nodup) (route : String) :
    ofConfig c ≠ .error (.duplicateApi route) := by
  intro h
  obtain ⟨earlier, a, later, heq, hrefused, -⟩ := ofConfig_eq_error_iff.mp h
  cases hrefused with
  | route _ before same => exact not_mem_routes_of_nodup hnodup heq ⟨_, before, same⟩

/-- A registry can be built if all templates are in order and no two routes are the same. -/
theorem exists_ofConfig (c : Config)
    (hvalid : ∀ e ∈ c.endpoints, Template.validate e.sql = .ok ())
    (hnodup : (c.endpoints.map Endpoint.route).Nodup) : ∃ r, ofConfig c = .ok r := by
  cases hr : ofConfig c with
  | ok r => exact ⟨r, rfl⟩
  | error err =>
    obtain ⟨earlier, a, later, heq, hrefused⟩ := exists_ofConfig_eq_error_iff.mp ⟨err, hr⟩
    rcases hrefused with ⟨reason, hbroken⟩ | htaken
    · have ha : a.endpoint ∈ c.endpoints := by
        rw [c.endpoints_eq_map_apis, heq]
        exact List.mem_map_of_mem (List.mem_append_right _ List.mem_cons_self)
      cases hbroken.symm.trans (hvalid _ ha)
    · exact absurd htaken (not_mem_routes_of_nodup hnodup heq)

end Registry

end SqlGateway
