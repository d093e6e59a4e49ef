import LoadHarness.Word

/-!
# Worker pools

A pool bounds how many iterations run at once. It sets workers aside on demand and remembers
how many were in use at most. Whoever watches the pool is told after every change.
-/

namespace LoadHarness

/-- What an executor tells its watcher. -/
inductive Notice where
  | workers (active allocated : Nat)
  | dropped
  deriving DecidableEq

structure Pool where
  /-- The workers there are. -/
  max : Nat
  /-- The workers that are taken. -/
  taken : Nat
  allocated : Nat
  peak : Nat

namespace Pool

/-- The most workers that a pool can have. -/
def mostWorkers : Nat := Word.bound64 / 8 - 1

/-- A pool of at least one worker, some of them set aside from the start. -/
def ofSizes (preAllocated size : Nat) : Pool :=
  let max := Nat.max size 1
  ⟨max, 0, min preAllocated max, 0⟩

/-- What is told of a new pool. -/
def openNotice (p : Pool) : Notice := .workers 0 p.allocated

def isFull (p : Pool) : Bool := p.max ≤ p.taken

/-- Takes a free worker. -/
def take (p : Pool) : Pool := { p with taken := p.taken + 1 }

/-- Gives a worker back. -/
def give (p : Pool) : Pool := { p with taken := p.taken - 1 }

/-- Puts a taken worker to work, which may raise the peak and the number set aside. -/
def lease (p : Pool) : Pool :=
  { p with peak := Nat.max p.peak p.taken, allocated := Nat.max p.allocated p.taken }

/-- What is told when a worker has been put to work. -/
def leaseNotice (p : Pool) : Notice := .workers p.taken p.allocated

/-- What is told when a worker stops; it is given back afterwards. -/
def stopNotice (p : Pool) : Notice := .workers (p.taken - 1) p.allocated

end Pool

end LoadHarness
