import QueryLayer.Executor.Monitored
import QueryLayer.Session.Basic
import QueryLayer.Style

/-!
# Databases

A database is a monitored connection with a quote for identifiers. It runs sessions: their
statements go through the monitored executor, and their errors to its monitor.
-/
namespace QueryLayer
open Json (Value)

/-- The settings with which a database is made. -/
structure DbConfig where
  monitor : MonitorConfig := {}
  /-- The quote of identifiers, that of the dialect when absent. -/
  quote : Option Char := none
  deriving Repr, DecidableEq

namespace DbConfig

/-- With other settings of monitoring. -/
def withMonitor (config : DbConfig) (monitor : MonitorConfig) : DbConfig := { config with monitor }

/-- With a quote of its own. -/
def withQuote (config : DbConfig) (quote : Char) : DbConfig := { config with quote := some quote }

end DbConfig

/-- A connection that runs sessions. -/
structure Db (σ : Type) where
  client : Monitored σ
  quote : Option Char := none

namespace Db
variable {σ α : Type}

/-- A database on a connection. -/
def ofConfig (client : Executor σ) (monitor : Callback → StateM σ Unit)
    (elapsed : StateM σ Duration) (config : DbConfig) : Db σ where
  client := { client, monitor, elapsed, config := config.monitor }
  quote := config.quote

/-- The settings of monitoring. -/
def config (db : Db σ) : MonitorConfig := db.client.config

/-- The same database with other settings of monitoring. -/
def withMonitorConfig (db : Db σ) (config : MonitorConfig) : Db σ :=
  { db with client := { db.client with config } }

/-- The dialect of the connection. -/
def dialect (db : Db σ) : Dialect := db.client.toExecutor.dialect

/-- How statements are worded for the connection. -/
def style (db : Db σ) : Style where
  dialect := db.dialect
  quote := db.quote.getD db.dialect.quote
  literal := db.client.toExecutor.literal

/-- A session is run: its statements are executed under their tags, its errors reported. -/
def run (db : Db σ) (session : Session α) : StateM σ (Except Error α) :=
  session.runOn db.client.toExecutor.executeTagged db.client.reportError

/-- An operation is run in the style of the database. -/
def perform (db : Db σ) (operation : Style → Session α) : StateM σ (Except Error α) :=
  db.run (operation db.style)

end Db
end QueryLayer
