/-
# Starting a gateway

A gateway is what answers requests: the settings of its server, the registry of APIs, and a pool for
every configured database.  It is made from a configuration once and never changes.

* The registry is built first, then the pools are opened in the order of the configuration.
* Opening a pool checks the connection settings and connects to nothing.
* Pools are kept by the names of their databases.  Of two databases of one name, which no accepted
  configuration has, the second would take the place of the first.
-/
import SqlGateway.Dsn.Settings
import SqlGateway.Registry
import SqlGateway.Store.Backend
import Std.Data.TreeMap.Basic

namespace SqlGateway

/-- What answers requests. -/
structure Gateway where
  server : Config.Server
  registry : Registry
  /-- The pools by the names of their databases. -/
  pools : Std.TreeMap String Store.Pool

namespace Gateway

/-- Why a gateway cannot be made. -/
inductive StartError where
  | registry (e : RegistryError)
  | connection (database : String) (f : Dsn.Fault)
deriving DecidableEq, Repr

/-- What was being done. -/
def StartError.context : StartError → String
  | registry _ => "failed to build api registry"
  | connection database _ => "invalid connection settings for db '" ++ database ++ "'"

/-- The wordings of the reasons, the innermost at the end. -/
def StartError.reasons : StartError → List String
  | registry e => [e.message]
  | connection _ f => f.reasons

/-- Opens the pool of a database. -/
def openPool (d : Config.Database) : Except StartError Store.Pool :=
  match Dsn.check d.engine d.dsn with
  | .ok () => .ok (.ofDatabase d)
  | .error f => .error (.connection d.name f)

/-- Opens the pools of databases in order. -/
def openPools (ds : List Config.Database) : Except StartError (Std.TreeMap String Store.Pool) :=
  ds.foldlM (fun pools d => return pools.insert d.name (← openPool d)) ∅

/-- The gateway of a configuration. -/
def ofConfig (c : Config) : Except StartError Gateway := do
  let registry ← (Registry.ofConfig c).mapError .registry
  return ⟨c.server, registry, ← openPools c.databases⟩

/-- The pool of a database. -/
def pool? (g : Gateway) (database : String) : Option Store.Pool :=
  g.pools[database]?

end Gateway

end SqlGateway
