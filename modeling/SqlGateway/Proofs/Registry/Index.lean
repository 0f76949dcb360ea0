/-
# The registry as an index

What a registry that was built tells about its configuration: an endpoint for every API, in
configuration order, which holds what is configured and is found under its own names.

* `Endpoint.Describes`: what an endpoint should hold of an API;
* `Gateway.answer_info`: what a client gets that asks for all APIs;
* `Registry.ofConfig_indexes`: when a registry is built, and what it answers then.

All of this holds only because building stops at a taken route.  Of two endpoints of one route the
second would be listed twice and the first never, and one would be counted.
-/
import SqlGateway.Proofs.Gateway.Authentication
import SqlGateway.Proofs.Registry.Refusal

namespace SqlGateway

open Http

/-! ## 1. Endpoints of APIs -/

/-- The endpoint is what the registry should hold of the API. -/
structure Endpoint.Describes (e : Endpoint) (a : ConfiguredApi) : Prop where
  db : e.db = a.db.name
  group : e.group = a.group.name
  name : e.name = a.api.name
  engine : e.engine = a.db.engine
  sql : e.sql = a.api.sql
  params : e.params = Template.declaredNames a.api.sql
  case : e.case = a.api.case
  debug : e.debug = a.api.debug

theorem Endpoint.describes_endpoint (a : ConfiguredApi) : a.endpoint.Describes a :=
  ⟨rfl, rfl, rfl, rfl, rfl, rfl, rfl, rfl⟩

/-! ## 2. The list of all APIs -/

/-- What a client is to learn about a configured API. -/
def ConfiguredApi.listed (a : ConfiguredApi) : Json :=
  .object
    [("db", .string a.db.name), ("group", .string a.group.name), ("api", .string a.api.name),
      ("uri", .string ("/" ++ a.route)),
      ("params", .array ((Template.declaredNames a.api.sql).map .string))]

namespace Gateway

variable {σ : Type} {g : Gateway} {r : Request}

/-- A request for the list of all APIs, if it is admitted, gets the endpoints of the registry. -/
theorem answer_info (b : Store.Backend σ) (fresh : String) (s : σ) (hmethod : r.method = "GET")
    (hpath : r.path = "/info") (hadmitted : r.refusal? g.server = none) :
    ∃ response, g.answer b fresh r s = (.quiet response, s) ∧ response.status = 200 ∧
      response.body =
        (Json.object [("result", .array (g.registry.endpoints.map endpointJson))]).text := by
  have hroute : Route.ofPath? r.path = some .info := by rw [hpath]; decide
  have hget : r.method ∈ Route.info.methods := by rw [hmethod]; decide
  rw [answer_of_admitted b fresh s (method_ne_options hget) hroute hget hadmitted]
  refine ⟨finish (r.id fresh) r (withHeaders sharedHeaders g.info), rfl, ?_, ?_⟩
  · rw [finish_status]
    rfl
  · rw [finish_body _ (by rw [hmethod]; decide)]
    rfl

end Gateway

/-! ## 3. Faithful and complete -/

/-- **The registry is a faithful, complete index of the configuration.**  For every configuration,
building it fails exactly if the template of some API is broken or some API has the route of an
earlier one, with the error of the first such API.  If it does not fail, there is one endpoint for
every configured API, in configuration order, which holds what is configured and is found under its
own names; and the list of all APIs shows just these. -/
theorem Registry.ofConfig_indexes (c : Config) :
    ((∃ err, ofConfig c = .error err) ↔
      ∃ earlier a later, c.apis = earlier ++ a :: later ∧
        ((∃ reason, Template.validate a.api.sql = .error reason) ∨
          ∃ b ∈ earlier, b.route = a.route)) ∧
    (∀ err, ofConfig c = .error err ↔
      ∃ earlier a later, c.apis = earlier ++ a :: later ∧ a.Refused earlier err ∧
        ∀ before b behind, earlier = before ++ b :: behind → ∀ err', ¬ b.Refused before err') ∧
    ∀ r, ofConfig c = .ok r →
      List.Forall₂ (fun a e => e.Describes a ∧
        r.resolve a.db.name a.group.name a.api.name = some e) c.apis r.endpoints ∧
      r.size = c.apis.length ∧
      ∀ (g : Gateway), g.registry = r → ∀ {σ : Type} (b : Store.Backend σ) (s : σ)
        (fresh : String) (request : Request), request.method = "GET" → request.path = "/info" →
          request.refusal? g.server = none →
          ∃ response, g.answer b fresh request s = (.quiet response, s) ∧ response.status = 200 ∧
            response.body =
              (Json.object [("result", .array (c.apis.map ConfiguredApi.listed))]).text := by
  refine ⟨exists_ofConfig_eq_error_iff, fun err => ofConfig_eq_error_iff, fun r hr => ?_⟩
  have hstep : r.InStep (c.apis.map ConfiguredApi.endpoint) := by
    rw [← c.endpoints_eq_map_apis]
    exact inStep_of_ofConfig hr
  refine ⟨?_, ?_, ?_⟩
  · rw [hstep.endpoints, List.forall₂_map_right_iff, List.forall₂_same]
    intro a ha
    refine ⟨Endpoint.describes_endpoint a, hstep.resolve_eq_some_iff.mpr ⟨?_, rfl⟩⟩
    exact List.mem_map_of_mem ha
  · rw [hstep.size, List.length_map]
  · rintro g rfl σ b s fresh request hmethod hpath hadmitted
    obtain ⟨response, hanswer, hstatus, hbody⟩ :=
      Gateway.answer_info b fresh s hmethod hpath hadmitted
    refine ⟨response, hanswer, hstatus, ?_⟩
    rw [hbody, hstep.endpoints, List.map_map]
    rfl

/-- Two databases with an API of the same names, and a further one. -/
def shopConfig : Config where
  server := ⟨Config.defaultAddr, Config.defaultPort, false, [], false, none⟩
  log := .default
  databases :=
    [⟨"shop", .postgres, "d", 1, [⟨"orders", [⟨"find", "SELECT {id}", .keep, false⟩,
        ⟨"list", "SELECT 1", .lowerCamel, true⟩]⟩]⟩,
      ⟨"logs", .sqlite, "d", 1, [⟨"orders", [⟨"find", "SELECT {id}", .keep, false⟩]⟩]⟩]

/-- The same with the first database once more. -/
def crowdedConfig : Config :=
  { shopConfig with databases := shopConfig.databases ++ shopConfig.databases.take 1 }

/-- One registry is built, with an endpoint for each of the three APIs; the other is not. -/
theorem ofConfig_indexes_shopConfig :
    (∃ r, Registry.ofConfig shopConfig = .ok r ∧ r.size = 3 ∧
      List.Forall₂ (fun a e => e.Describes a ∧
        r.resolve a.db.name a.group.name a.api.name = some e) shopConfig.apis r.endpoints) ∧
    ∃ err, Registry.ofConfig crowdedConfig = .error err := by
  obtain ⟨r, hr⟩ := Registry.exists_ofConfig shopConfig (by decide +kernel) (by decide +kernel)
  obtain ⟨hindex, hsize, -⟩ := (Registry.ofConfig_indexes shopConfig).2.2 _ hr
  refine ⟨⟨_, hr, hsize, hindex⟩, (Registry.ofConfig_indexes crowdedConfig).1.mpr ?_⟩
  exact ⟨crowdedConfig.apis.take 3, crowdedConfig.apis.get ⟨3, by decide⟩,
    crowdedConfig.apis.drop 4, by decide +kernel,
    .inr ⟨crowdedConfig.apis.get ⟨0, by decide⟩, by decide +kernel, by decide +kernel⟩⟩

end SqlGateway
