import SchemaMigration.Connection.Settings

/-!
# Connection pools

The limits of a pool of connections.
-/

namespace SchemaMigration

/-- How many connections a pool keeps and allows. -/
structure PoolLimits where
  least : UInt64 := 1
  most : UInt64 := 10
deriving DecidableEq, Repr, Inhabited

/-- A pool before its first connection. -/
structure ConnectionPool where
  settings : ConnectionSettings
  limits : PoolLimits
  /-- No more connections are kept than allowed. -/
  least_le_most : limits.least ≤ limits.most

/-- A pool for these settings, if the limits agree. -/
def ConnectionPool.create (settings : ConnectionSettings) (limits : PoolLimits) :
    Except ConnectionError ConnectionPool :=
  if h : limits.least ≤ limits.most then .ok ⟨settings, limits, h⟩
  else
    .error (.config ("min_connections (" ++ toString limits.least.toNat
      ++ ") exceeds max_connections (" ++ toString limits.most.toNat ++ ")"))

end SchemaMigration
