/-
# Building the registry

A registry keeps its endpoints twice: in a map, by their routes, and in a list of their routes.  A
look-up and a count go to the map alone, listing goes along the list and looks each route up.  What
makes these agree is an invariant, `InStep`, which says which endpoints a registry was built of.

* `InStep.add`: an endpoint that is added comes into both parts;
* `InStep.foldlM_add`: so do all endpoints that are added one after the other;
* `InStep.endpoints`, `InStep.size`, `InStep.resolve_eq_some_iff`: what a registry in step answers;
* `inStep_of_ofConfig`: the registry of a configuration is in step with its endpoints.
-/
import Mathlib.Data.List.Nodup
import SqlGateway.Proofs.Config.Accepted
import SqlGateway.Registry
import Std.Data.TreeMap.Lemmas

namespace SqlGateway

/-- The endpoints of a configuration, in its order. -/
def Config.endpoints (c : Config) : List Endpoint :=
  c.databases.flatMap fun db =>
    db.groups.flatMap fun group => group.apis.map (Endpoint.ofApi db group)

namespace Registry

variable {r r' : Registry} {es more : List Endpoint} {e : Endpoint}

/-! ## 1. One endpoint -/

/-- The registry with an endpoint more, in both parts. -/
def insert (r : Registry) (e : Endpoint) : Registry :=
  ⟨r.routes.insert e.route e, r.order ++ [e.route]⟩

theorem add_eq (r : Registry) (e : Endpoint) :
    r.add e = match Template.validate e.sql with
      | .error reason => .error (.invalidTemplate e.route reason)
      | .ok () =>
        if e.route ∈ r.routes then .error (.duplicateApi e.route) else .ok (r.insert e) := by
  rw [add]
  cases Template.validate e.sql with
  | error reason => rfl
  | ok u =>
    dsimp only [Except.mapError, bind, Except.bind]
    rw [Std.TreeMap.containsThenInsert_fst, Std.TreeMap.containsThenInsert_snd]
    by_cases htaken : e.route ∈ r.routes
    · rw [if_pos htaken, if_pos (Std.TreeMap.mem_iff_contains.mp htaken)]
      rfl
    · rw [if_neg htaken, if_neg fun h => htaken (Std.TreeMap.mem_iff_contains.mpr h)]
      rfl

/-- An endpoint is added exactly if its template is in order and its route is not taken. -/
theorem add_eq_ok_iff :
    r.add e = .ok r' ↔
      Template.validate e.sql = .ok () ∧ e.route ∉ r.routes ∧ r' = r.insert e := by
  rw [add_eq]
  cases Template.validate e.sql with
  | error reason => simp
  | ok u =>
    by_cases htaken : e.route ∈ r.routes
    · simp [htaken]
    · simp [htaken, eq_comm]

/-- The two parts of a registry are in step: both hold these endpoints, under different routes. -/
structure InStep (r : Registry) (es : List Endpoint) : Prop where
  order : r.order = es.map Endpoint.route
  routes : ∀ route e, r.routes[route]? = some e ↔ e ∈ es ∧ e.route = route
  count : r.routes.size = es.length
  nodup : (es.map Endpoint.route).Nodup

namespace InStep

theorem empty : Registry.empty.InStep [] where
  order := rfl
  routes route e := by simp [Registry.empty]
  count := rfl
  nodup := List.nodup_nil

theorem mem_routes_iff (h : r.InStep es) {route : String} :
    route ∈ r.routes ↔ ∃ e ∈ es, e.route = route := by
  rw [Std.TreeMap.mem_iff_isSome_getElem?, Option.isSome_iff_exists]
  exact exists_congr fun e => h.routes route e

/-- **An endpoint that is added comes into both parts.** -/
theorem add (h : r.InStep es) (hadd : r.add e = .ok r') : r'.InStep (es ++ [e]) := by
  obtain ⟨-, hfresh, rfl⟩ := add_eq_ok_iff.mp hadd
  have hother : ∀ e' ∈ es, e'.route ≠ e.route := fun e' he' hroute =>
    hfresh (h.mem_routes_iff.mpr ⟨e', he', hroute⟩)
  refine ⟨?_, fun route e' => ?_, ?_, ?_⟩
  · rw [insert, h.order, List.map_append, List.map_singleton]
  · rw [insert, Std.TreeMap.getElem?_insert, List.mem_append, List.mem_singleton]
    by_cases hroute : e.route = route
    · subst hroute
      simp only [Std.compare_self, if_true, Option.some.injEq]
      constructor
      · rintro rfl
        exact ⟨.inr rfl, rfl⟩
      · rintro ⟨he' | rfl, hsame⟩
        · exact absurd hsame (hother e' he')
        · rfl
    · rw [if_neg fun hcompare => hroute (Std.LawfulEqOrd.eq_of_compare hcompare), h.routes]
      constructor
      · exact fun ⟨he', hsame⟩ => ⟨.inl he', hsame⟩
      · rintro ⟨he' | rfl, hsame⟩
        · exact ⟨he', hsame⟩
        · exact absurd hsame hroute
  · have hnew : ¬ r.routes.contains e.route = true := hfresh
    rw [insert, Std.TreeMap.size_insert, if_neg hnew, h.count, List.length_append,
      List.length_singleton]
  · rw [List.map_append, List.map_singleton, List.nodup_append]
    refine ⟨h.nodup, List.nodup_singleton _, ?_⟩
    intro route hmem _ hlast heq
    obtain ⟨e', he', rfl⟩ := List.mem_map.mp hmem
    exact hother e' he' (heq.trans (List.mem_singleton.mp hlast))

/-- **So do all that are added one after the other.** -/
theorem foldlM_add (h : r.InStep es) (hadd : more.foldlM Registry.add r = .ok r') :
    r'.InStep (es ++ more) := by
  induction more generalizing r es with
  | nil =>
    obtain rfl : r = r' := Except.ok.inj hadd
    rwa [List.append_nil]
  | cons e more ih =>
    obtain ⟨r'', hfirst, hmore⟩ := bind_eq_ok_iff.mp hadd
    rw [List.append_cons]
    exact ih (h.add hfirst) hmore

/-! ## 2. What a registry answers -/

/-- Listing goes along the routes and finds the endpoint of each. -/
theorem endpoints (h : r.InStep es) : r.endpoints = es := by
  have hfound : ∀ e ∈ es, r.routes[e.route]? = some e := fun e he => (h.routes _ e).mpr ⟨he, rfl⟩
  rw [Registry.endpoints, h.order, List.filterMap_map]
  exact (List.filterMap_congr hfound).trans List.filterMap_some

theorem size (h : r.InStep es) : r.size = es.length := h.count

/-- What a look-up finds is an endpoint of that route, and there is no other of it. -/
theorem resolve_eq_some_iff (h : r.InStep es) {db group name : String} :
    r.resolve db group name = some e ↔ e ∈ es ∧ e.route = routeOf db group name :=
  h.routes _ e

end InStep

/-! ## 3. The registry of a configuration -/

/-- A loop over a list of lists is a loop of loops. -/
theorem foldlM_flatMap {α β γ ε : Type} (f : α → List β) (g : γ → β → Except ε γ) (l : List α)
    (init : γ) : (l.flatMap f).foldlM g init = l.foldlM (fun acc a => (f a).foldlM g acc) init := by
  induction l generalizing init with
  | nil => rfl
  | cons a l ih => simp only [List.flatMap_cons, List.foldlM_append, List.foldlM_cons, ih]

/-- The three loops go over the endpoints of the configuration one after the other. -/
theorem ofConfig_eq (c : Config) : ofConfig c = c.endpoints.foldlM add empty := by
  simp only [ofConfig, Config.endpoints, foldlM_flatMap, List.foldlM_map]

theorem inStep_of_ofConfig {c : Config} (h : ofConfig c = .ok r) : r.InStep c.endpoints :=
  InStep.empty.foldlM_add (ofConfig_eq c ▸ h)

end Registry

end SqlGateway
