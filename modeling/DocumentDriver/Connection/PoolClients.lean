/-
This file holds a pool together with the connections that its clients have taken out, and what
the clients and the network may do to them.
-/

import DocumentDriver.Connection.Pool

namespace DocumentDriver

/-- A pool and what has been taken out of it. -/
structure PoolClients where
  pool : Pool := {}
  /-- The connections that clients hold. -/
  held : List Connection := []
  /-- The number of connections that were opened, which is the number of the last one. -/
  opened : Nat := 0
  /-- The error with which the next opening fails. -/
  failure : Option Error := none

/-- Something that happens to a pool. -/
inductive PoolAction where
  | checkOut
  | checkIn (number : Nat)
  /-- A client forgets a connection without giving it back. -/
  | forget (number : Nat)
  /-- A connection fails, whoever holds it. -/
  | disconnect (number : Nat)
  /-- The next opening will fail. -/
  | failNext (error : Error)
  | clear

/-- What a client sees of an action. -/
inductive PoolAnswer where
  | checkedOut (connection : Connection) (isStale : Bool)
  | failed (error : Error)
  /-- Whether the connection was stale before it was given back. -/
  | checkedIn (isStale : Bool)
  | notHeld
  /-- Whether there was a connection to forget. -/
  | forgotten (known : Bool)
  | nothing
  | cleared (generation : UInt32)

namespace PoolClients

/-- A connection, failed if it has the given number. -/
def disconnected (number : Nat) (connection : Connection) : Connection :=
  if connection.number = number then { connection with isConnected := false } else connection

/-- Opens the next connection. -/
def connect (clients : PoolClients) (generation : UInt32) : Except Error Connection :=
  match clients.failure with
  | some error => .error error
  | none => .ok { number := clients.opened + 1, generation }

/-- Takes a connection out. -/
def checkOut (clients : PoolClients) : PoolClients × PoolAnswer :=
  match clients.pool.checkOut clients.connect with
  | (.error error, pool) => ({ clients with pool, failure := none }, .failed error)
  | (.ok connection, pool) =>
    let isNew := clients.opened < connection.number
    ({ clients with
        pool, held := connection :: clients.held
        opened := if isNew then connection.number else clients.opened },
      .checkedOut connection (pool.isStale connection))

/-- The connections that are held, without one of them. -/
def without (clients : PoolClients) (number : Nat) : List Connection :=
  clients.held.filter (·.number != number)

/-- Gives a connection back. -/
def checkIn (clients : PoolClients) (number : Nat) : PoolClients × PoolAnswer :=
  match clients.held.find? (·.number == number) with
  | none => (clients, .notHeld)
  | some connection =>
    ({ clients with
        held := clients.without number, pool := clients.pool.checkIn connection },
      .checkedIn (clients.pool.isStale connection))

/-- The effect of an action, and what its client sees. -/
def act (clients : PoolClients) : PoolAction → PoolClients × PoolAnswer
  | .checkOut => clients.checkOut
  | .checkIn number => clients.checkIn number
  | .forget number =>
    ({ clients with held := clients.without number },
      .forgotten (clients.held.any (·.number == number)))
  | .disconnect number =>
    let idle := clients.pool.idle.map (disconnected number)
    ({ clients with
        pool := { clients.pool with idle }, held := clients.held.map (disconnected number) },
      .nothing)
  | .failNext error => ({ clients with failure := some error }, .nothing)
  | .clear => ({ clients with pool := clients.pool.clear }, .cleared clients.pool.bump.generation)

end PoolClients

end DocumentDriver
