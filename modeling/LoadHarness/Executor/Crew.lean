import LoadHarness.Executor.Timer
import LoadHarness.Executor.Workload

/-!
# Crews

A crew is the pool of an executor together with the iterations it started: those that are
ready for their next turn, those that wait, and those that ended but have not been counted.
Each change of a crew is one of a few moves. Executors differ only in when they make them, and
what holds after every move holds of every executor and every order of turns.
-/

namespace LoadHarness

/-- A started iteration that has not ended; it has no state before its first turn. -/
structure Task (τ : Type) where
  id : Nat
  state : Option τ

/-- A waiting iteration and the millisecond in which it goes on; none for never. -/
structure Sleeper (τ : Type) where
  wake : Option Nat
  task : Task τ

structure Crew (ω τ : Type) where
  world : ω
  pool : Pool
  started : Nat
  dropped : Nat
  /-- Iterations in the order in which they take their turns. -/
  ready : List (Task τ)
  /-- Waiting iterations in the order in which they began to wait. -/
  sleeping : List (Sleeper τ)
  /-- Iterations that ended and have not been counted. -/
  ended : List Ending
  tally : Tally
  /-- The executor waits for a worker to become free. -/
  wanted : Bool
  /-- A worker that became free has been handed to the waiting executor. -/
  handed : Bool

namespace Crew

variable {ω τ : Type}

/-- The number of iterations that have not ended. -/
def inFlight (c : Crew ω τ) : Nat := c.ready.length + c.sleeping.length

/-- Whether every started iteration has ended. -/
def isIdle (c : Crew ω τ) : Bool := c.ready.isEmpty && c.sleeping.isEmpty

/-- Tells the watcher. -/
def tell (w : Workload ω τ) (now : Duration) (c : Crew ω τ) (n : Notice) : Crew ω τ :=
  { c with world := w.notice now c.world n }

/-- A crew before its first start. -/
def assemble (w : Workload ω τ) (world : ω) (preAllocated size : Nat) : Crew ω τ :=
  let pool := Pool.ofSizes preAllocated size
  let crew : Crew ω τ :=
    { world, pool
      started := 0
      dropped := 0
      ready := []
      sleeping := []
      ended := []
      tally := .empty
      wanted := false
      handed := false }
  crew.tell w .zero pool.openNotice

/-- Counts the iterations that ended. -/
def join (c : Crew ω τ) : Crew ω τ :=
  { c with tally := c.ended.foldl Tally.record c.tally, ended := [] }

/-- Starts the next iteration with a worker that is taken already. -/
def launch (w : Workload ω τ) (now : Duration) (c : Crew ω τ) : Crew ω τ :=
  let pool := c.pool.lease
  let c := { c with pool }.tell w now pool.leaseNotice
  { c with ready := c.ready ++ [⟨c.started, none⟩], started := c.started + 1 }

/-- Takes a free worker and starts the next iteration. -/
def start (w : Workload ω τ) (now : Duration) (c : Crew ω τ) : Crew ω τ :=
  { c with pool := c.pool.take }.launch w now

/-- Gives up a start because every worker is taken. -/
def drop (w : Workload ω τ) (now : Duration) (c : Crew ω τ) : Crew ω τ :=
  { c with dropped := c.dropped + 1 }.tell w now .dropped

/-- Starts the next iteration with the worker that was handed over. -/
def startHanded (w : Workload ω τ) (now : Duration) (c : Crew ω τ) : Crew ω τ :=
  { c with wanted := false, handed := false }.launch w now

/-- Stops waiting for a worker; one that was handed over is given back. -/
def unwant (c : Crew ω τ) : Crew ω τ :=
  { c with
    pool := if c.handed then c.pool.give else c.pool
    wanted := false
    handed := false }

/-- Takes back the worker of an iteration that ended. A waiting executor gets it at once. -/
def release (w : Workload ω τ) (now : Duration) (c : Crew ω τ) (e : Ending) : Crew ω τ :=
  let c := c.tell w now c.pool.stopNotice
  let c := { c with ended := c.ended ++ [e] }
  if c.wanted ∧ !c.handed then { c with handed := true } else { c with pool := c.pool.give }

/-- Gives an iteration its turn. A wait that is over at once goes on within the turn. -/
def turn (w : Workload ω τ) (now : Duration) (id : Nat) :
    Nat → Crew ω τ → Option τ → Crew ω τ
  | fuel, c, state =>
    match w.resume now id c.world state with
    | (world, .finish e) => { c with world }.release w now e
    | (world, .waitForEver state) =>
      { c with world, sleeping := c.sleeping ++ [⟨none, ⟨id, some state⟩⟩] }
    | (world, .wait d state) =>
      let wake := (now.afterWait d).timerMillis
      let waiting :=
        { c with world, sleeping := c.sleeping ++ [⟨some wake, ⟨id, some state⟩⟩] }
      if now.millis < wake then waiting
      else match fuel with
        | 0 => waiting
        | fuel + 1 => turn w now id fuel { c with world } (some state)

/-- Gives the first ready iteration its turn. -/
def runFirst (w : Workload ω τ) (now : Duration) (c : Crew ω τ) : Crew ω τ :=
  match c.ready with
  | [] => c
  | t :: rest => { c with ready := rest }.turn w now t.id w.waits t.state

/-- Ends the first ready iteration from outside. -/
def abortFirst (w : Workload ω τ) (now : Duration) (c : Crew ω τ) : Crew ω τ :=
  match c.ready with
  | [] => c
  | t :: rest =>
    let world := match t.state with
      | some state => w.abandon now t.id c.world state
      | none => c.world
    { c with ready := rest, world }.release w now .aborted

/-- Wakes the iterations whose wait is over, in the order in which they began to wait. -/
def wake (now : Nat) (c : Crew ω τ) : Crew ω τ :=
  let due (s : Sleeper τ) : Bool := s.wake.any (· ≤ now)
  { c with
    ready := c.ready ++ (c.sleeping.filter due).map (·.task)
    sleeping := c.sleeping.filter fun s => !due s }

/-- Changes the state of a waiting iteration and makes it ready. -/
def deliver (id : Nat) (change : τ → τ) (c : Crew ω τ) : Crew ω τ :=
  let meant (s : Sleeper τ) : Bool := s.task.id == id
  { c with
    ready := c.ready ++ (c.sleeping.filter meant).map fun s =>
      { s.task with state := s.task.state.map change }
    sleeping := c.sleeping.filter fun s => !meant s }

/-- Makes every iteration ready for its end, those that wait in the order of their starts. -/
def rouse (c : Crew ω τ) : Crew ω τ :=
  { c with
    ready := c.ready ++ (c.sleeping.map (·.task)).mergeSort fun a b => a.id ≤ b.id
    sleeping := [] }

/-- The first millisecond in which a wait is over. -/
def nextWake? (c : Crew ω τ) : Option Nat := (c.sleeping.filterMap (·.wake)).min?

end Crew

end LoadHarness
