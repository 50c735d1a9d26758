import QueryLayer.Postgres.ConnectionString

/-!
# Connection pools

A pool makes connections only when they are asked for, so making a pool needs no more than a
connection string that can be read.
-/
namespace QueryLayer.Postgres

/-- A bound on the number of connections, and the number there are. -/
structure Pool where
  maxSize : Nat
  size : Nat := 0
  deriving Repr, DecidableEq

namespace Pool

/-- The usual bound. -/
def usualSize : Nat := 16

/-- A pool of at most so many connections. -/
def ofSize (url : String) (maxSize : Nat) : Except Error Pool := do
  let _settings ← ConnectionString.read url
  return { maxSize }

/-- A pool of the usual size. -/
def create (url : String) : Except Error Pool := ofSize url usualSize

end Pool
end QueryLayer.Postgres
