import SafeTypes.Catalog

/-! The catalog of well-known safe types. It lists only types that cannot carry a
judgement of their own, because they live in the standard library or in a package. -/
namespace SafeTypes.Catalog

/-- A class of the standard library that is safe as it stands. -/
def Entry.known (name : String) : Entry where
  target := .ofClass (.standard name)

/-- A type that is given by name and is safe as it stands. -/
def Entry.plain (name : String) : Entry where
  target := .named name

/-- A type with one documented parameter that it holds values of. -/
def Entry.container (name parameter : String) : Entry where
  target := .named name
  containerOf := [parameter]
  documented := some [parameter]

/-- Threads and sources of random numbers. -/
def threads : Catalog :=
  [.known "threading.Thread",
   .known "threading.Timer",
   .known "random.Random",
   .known "random.SystemRandom"]

/-- Locks and other synchronizers. -/
def locks : Catalog :=
  [.plain "threading.Lock",
   .plain "threading.RLock",
   .plain "threading._RLock",
   .plain "_thread.lock",
   .plain "_thread.RLock",
   .known "threading.Semaphore",
   .known "threading.BoundedSemaphore",
   .known "threading.Event",
   .known "threading.Condition",
   .known "threading.Barrier",
   .plain "multiprocessing.synchronize.Lock",
   .plain "multiprocessing.synchronize.RLock",
   .plain "multiprocessing.synchronize.Semaphore",
   .plain "multiprocessing.synchronize.BoundedSemaphore",
   .plain "multiprocessing.synchronize.Condition",
   .plain "multiprocessing.synchronize.Event",
   .plain "multiprocessing.synchronize.Barrier"]

/-- Queues. -/
def queues : Catalog :=
  [.container "queue.Queue" "_T",
   .container "queue.LifoQueue" "_T",
   .container "queue.PriorityQueue" "_T",
   .container "queue.SimpleQueue" "_T",
   .container "multiprocessing.queues.Queue" "_T",
   .container "multiprocessing.queues.JoinableQueue" "_T",
   .container "multiprocessing.queues.SimpleQueue" "_T"]

/-- Executors, futures and schedulers. -/
def executors : Catalog :=
  [.known "concurrent.futures.Executor",
   .known "concurrent.futures.ThreadPoolExecutor",
   .known "concurrent.futures.ProcessPoolExecutor",
   .container "concurrent.futures._base.Future" "_T",
   .known "sched.scheduler"]

/-- Contexts, logging, and exceptions. An exception can be changed, but is handed between
threads as a rule. -/
def contexts : Catalog :=
  [.container "contextvars.ContextVar" "_T",
   .plain "contextvars.Context",
   .plain "threading.local",
   .plain "_thread._local",
   .known "logging.Logger",
   .known "builtins.BaseException"]

/-- Types of packages outside the standard library. -/
def packages : Catalog :=
  [.container "janus.Queue" "T",
   .container "reactivex.observable.observable.Observable" "_T_out",
   .container "reactivex.subject.subject.Subject" "_T",
   .plain "reactivex.scheduler.threadpoolscheduler.ThreadPoolScheduler",
   .plain "reactivex.scheduler.eventloopscheduler.EventLoopScheduler",
   .plain "diskcache.core.Cache",
   .plain "diskcache.fanout.FanoutCache",
   .plain "urllib3.poolmanager.PoolManager",
   .plain "redis.connection.ConnectionPool",
   .plain "sqlalchemy.engine.base.Engine",
   .plain "pymongo.mongo_client.MongoClient"]

/-- All entries, in the order in which they are registered. -/
def shipped : Catalog :=
  threads ++ locks ++ queues ++ executors ++ contexts ++ packages

end SafeTypes.Catalog
