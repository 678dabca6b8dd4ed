/-
This file holds the pool of connections to one server. A connection carries the generation of the
pool that it was opened under. Clearing the pool begins a new generation, and connections of
earlier ones are not used again. Each operation that others may interrupt is made of steps with
names of their own.
-/

import DocumentDriver.Error

namespace DocumentDriver

/-- A connection to a server. -/
structure Connection where
  /-- Tells connections apart. -/
  number : Nat
  /-- The generation of the pool that the connection was opened under. -/
  generation : UInt32 := 0
  /-- The connection has not failed. -/
  isConnected : Bool := true
deriving DecidableEq, Repr

/-- The connections to a server that wait to be used, the latest one first. -/
structure Pool where
  generation : UInt32 := 0
  idle : List Connection := []
deriving DecidableEq, Repr

namespace Pool

/-- At most so many connections wait. -/
def maxIdle : Nat := 8

/-- A connection was opened before the pool was last cleared. -/
def isStale (pool : Pool) (connection : Connection) : Bool :=
  connection.generation < pool.generation

/-- A connection may be used again. -/
def isUsable (pool : Pool) (connection : Connection) : Bool :=
  connection.isConnected && !pool.isStale connection

/-! ### Taking a connection out -/

/-- The latest connection that may be used, and the ones that waited longer. Those before it are
dropped. -/
def takeUsable (pool : Pool) : List Connection → Option (Connection × List Connection)
  | [] => none
  | connection :: rest =>
    if pool.isUsable connection then some (connection, rest) else pool.takeUsable rest

/-- A waiting connection, if one may be used. -/
def reuse (pool : Pool) : Option Connection × Pool :=
  match pool.takeUsable pool.idle with
  | some (connection, rest) => (some connection, { pool with idle := rest })
  | none => (none, { pool with idle := [] })

/-- A connection to use: one that waited, or else one that is opened under the generation of the
pool. -/
def checkOut (pool : Pool) (connect : UInt32 → Except Error Connection) :
    Except Error Connection × Pool :=
  match pool.reuse with
  | (some connection, rest) => (.ok connection, rest)
  | (none, rest) => (connect rest.generation, rest)

/-! ### Giving a connection back -/

/-- Lets a connection wait, if there is room. -/
def push (pool : Pool) (connection : Connection) : Pool :=
  if pool.idle.length < maxIdle then { pool with idle := connection :: pool.idle } else pool

/-- Gives a connection back. It is dropped if it may not be used again. -/
def checkIn (pool : Pool) (connection : Connection) : Pool :=
  if pool.isUsable connection then pool.push connection else pool

/-! ### Clearing -/

/-- Begins a new generation. -/
def bump (pool : Pool) : Pool := { pool with generation := pool.generation + 1 }

/-- Drops the connections that wait. -/
def dropIdle (pool : Pool) : Pool := { pool with idle := [] }

/-- Begins a new generation with no connection. -/
def clear (pool : Pool) : Pool := pool.bump.dropIdle

end Pool

end DocumentDriver
