/-
# The registry of APIs

Every configured API is an *endpoint*, found under its route `database/group/name`.  The registry
is built once: templates are checked and their parameters listed, in configuration order, and the
first API with a broken template or a taken route stops the building.

Endpoints are kept by their routes, so two APIs cannot share one.  Names may contain slashes, and
then two different triples of names can be the same route.  Beside the endpoints stand their routes
in configuration order, which the map does not know.
-/
import SqlGateway.Config
import SqlGateway.Template.Block
import SqlGateway.Template.Statement
import Std.Data.TreeMap.Basic

namespace SqlGateway

/-! ## 1. Endpoints -/

/-- An API that is ready to be called. -/
structure Endpoint where
  db : String
  group : String
  name : String
  engine : Engine
  sql : String
  /-- The declared parameters of the template. -/
  params : List String
  case : KeyCase
  /-- Whether responses echo the statement. -/
  debug : Bool
deriving DecidableEq, Repr

/-- The route of an API. -/
def routeOf (db group name : String) : String := db ++ "/" ++ group ++ "/" ++ name

namespace Endpoint

/-- The route of an endpoint. -/
def route (e : Endpoint) : String := routeOf e.db e.group e.name

/-- The marker style of the endpoint's engine. -/
def style (e : Endpoint) : MarkerStyle := e.engine.markerStyle

/-- The endpoint of a configured API. -/
def ofApi (db : Config.Database) (group : Config.Group) (api : Config.Api) : Endpoint where
  db := db.name
  group := group.name
  name := api.name
  engine := db.engine
  sql := api.sql
  params := Template.declaredNames api.sql
  case := api.case
  debug := api.debug

/-- The statement of a call with the given fields. -/
def compile (e : Endpoint) (fields : Fields) : Except Template.MissingParam Statement :=
  Template.compile e.style e.sql fields e.params

end Endpoint

/-! ## 2. The registry -/

/-- Why no registry can be built. -/
inductive RegistryError where
  | invalidTemplate (route : String) (reason : Template.BlockError)
  | duplicateApi (route : String)
deriving DecidableEq, Repr

/-- The code of the error. -/
def RegistryError.code : RegistryError → String
  | invalidTemplate _ _ => "INVALID_TEMPLATE"
  | duplicateApi _ => "DUPLICATE_API"

/-- The wording of the error. -/
def RegistryError.message : RegistryError → String
  | invalidTemplate route reason =>
    "invalid sql template for api '" ++ route ++ "': " ++ reason.message
  | duplicateApi route => "duplicate api: " ++ route

/-- The endpoints that can be called. -/
structure Registry where
  /-- The endpoints by their routes. -/
  routes : Std.TreeMap String Endpoint
  /-- The routes in configuration order. -/
  order : List String

namespace Registry

/-- A registry without endpoints. -/
def empty : Registry := ⟨∅, []⟩

/-- Adds an endpoint, if its template is in order and its route is not taken. -/
def add (r : Registry) (e : Endpoint) : Except RegistryError Registry := do
  (Template.validate e.sql).mapError (.invalidTemplate e.route)
  let (taken, routes) := r.routes.containsThenInsert e.route e
  if taken then throw (.duplicateApi e.route)
  return ⟨routes, r.order ++ [e.route]⟩

/-- The registry of a configuration. -/
def ofConfig (c : Config) : Except RegistryError Registry :=
  c.databases.foldlM
    (fun r db => db.groups.foldlM
      (fun r group => group.apis.foldlM (fun r api => r.add (.ofApi db group api)) r) r)
    empty

/-- The endpoint of a route. -/
def resolve (r : Registry) (db group name : String) : Option Endpoint :=
  r.routes[routeOf db group name]?

/-- The endpoints in configuration order. -/
def endpoints (r : Registry) : List Endpoint := r.order.filterMap fun route => r.routes[route]?

/-- The number of endpoints. -/
def size (r : Registry) : Nat := r.routes.size

/-- Whether nothing can be called. -/
def isEmpty (r : Registry) : Bool := r.routes.isEmpty

end Registry

end SqlGateway
