import LayoutSpec.Suite.Execution

/-!
Workers that run suites side by side. The workers take suites from one queue; each tells the events
of its suite in their order, stores the result and takes the next suite. Which worker does its next
step is up to the schedule. When all workers have stopped, the results are put back into the order
of the catalog.

A suite's run depends on the suite, the browsers and the files alone, so a job carries its run with
it and the pool decides only when its parts are seen.
-/

namespace LayoutSpec

/-- A suite in the queue with its place in the catalog. -/
structure Job where
  place : Nat
  run : SuiteRun

/-- A worker: idle, or with a job and the events of it that are still to be told. -/
inductive Worker where
  | idle
  | busy (job : Job) (untold : List Event)

/-- A pool of workers, and what can be seen of it so far. -/
structure Pool where
  workers : List Worker
  queue : List Job
  told : List Event := []
  finished : List (Nat × SuiteResult) := []

namespace Pool

/-- The pool at the start: all jobs are in the queue, and all workers are idle. There are no more
workers than jobs. -/
def start (workers : Nat) (jobs : List Job) : Pool where
  workers := List.replicate (min workers jobs.length) .idle
  queue := jobs

/-- The next step of a worker: it takes a job, tells an event or stores its result. An idle worker
has no step once the queue is empty. -/
def step? (pool : Pool) (worker : Nat) : Option Pool :=
  match pool.workers[worker]? with
  | none => none
  | some .idle =>
    match pool.queue with
    | [] => none
    | job :: queue =>
      some { pool with
        queue
        workers := pool.workers.set worker (.busy job job.run.trace.events) }
  | some (.busy job (e :: untold)) =>
    some { pool with
      told := pool.told ++ [e]
      workers := pool.workers.set worker (.busy job untold) }
  | some (.busy job []) =>
    some { pool with
      finished := pool.finished ++ [(job.place, job.run.result)]
      workers := pool.workers.set worker .idle }

/-- The pool after the steps of some workers, if they could do them. -/
def after? (pool : Pool) : List Nat → Option Pool
  | [] => some pool
  | worker :: schedule => do
    let next ← pool.step? worker
    next.after? schedule

/-- Whether every worker has stopped. -/
def joined (pool : Pool) : Bool :=
  pool.queue.isEmpty && pool.workers.all fun worker =>
    match worker with
    | .idle => true
    | .busy .. => false

/-- The results in the order of the catalog. -/
def results (pool : Pool) : List SuiteResult :=
  (pool.finished.mergeSort fun a b => a.1 ≤ b.1).map Prod.snd

end Pool

/-- The jobs of the suites that a configuration selects. -/
def Job.ofSuites (config : Configuration) (source : BrowserSource) (tree : FileTree)
    (suites : List Suite) : Option (List Job) :=
  (suites.zipIdx.filter fun (s, _) => config.selects s.name).mapM fun (s, place) => do
    return ⟨place, ← s.run source tree⟩

end LayoutSpec
