import ReactrWasm.Environment

/-!
# Interleaving of concurrent calls

Any number of `newEnvironment`, `addInstance`, `removeInstance` and
`useInstance` calls run as goroutines over the shared `Runtime`. Each call is
a thread with a program counter that stops at every shared action of the Go
code: each lock operation, each `Acquire`/`Release` of an instance gate, each
`Load`/`Store`/`Delete` on `instanceMapper`, and each write to an instance.
A section that runs under a held lock and touches only what that lock guards
is one step; a `Lock` is two steps, since its writer announcement already
makes new readers wait.

Guest code runs inside `useInstance`'s `instFunc` and inside `addInstance`: the
module's start function, which `wasmer.NewInstance` runs, the WASI start function
or `_start`, and `init`. From there it may call host functions at any time with any
identifier; a host call resolves its instance step by step, as
`instanceForIdentifier` does (`HostPc`), then its body may stage or consume
the instance's `ffiResult`.

`World.step` runs one step of one thread; the outside values a step takes (a
random identifier, what the guest does) come in as its `Input`. A runtime
panic stops the program: the world records it and no thread steps again.
`Reachable` closes the initial world under steps and new calls.
-/

namespace ReactrWasm

/-- Where a host call made by guest code is. -/
inductive HostPc
  /-- Guest code runs; no host call is in progress. -/
  | idle
  /-- `instanceMapper.Load` found `ref`; next `envLock.RLock` and `environments[ref.EnvUUID]`. -/
  | envRLock (ref : InstanceReference) (needsFFIResult : Bool)
  /-- Under `envLock.RLock`; next `env.instanceAtIndex(ref.InstIndex)`. -/
  | index (ref : InstanceReference) (needsFFIResult : Bool)
  /-- `instanceAtIndex` returned `inst`; next the `ffiResult` check and `envLock.RUnlock`. -/
  | check (inst : Nat) (needsFFIResult : Bool)
  /-- `instanceForIdentifier` returned `inst`; the host function body runs. -/
  | body (inst : Nat)
  deriving DecidableEq, Repr

/-- Where a `useInstance` call is. `instIndex`, `inst` and `ident` are its locals. -/
inductive UsePc
  | lock
  | select
  | acquire (instIndex : Int) (inst : Nat)
  | draw (instIndex : Int) (inst : Nat)
  | store (instIndex : Int) (inst : Nat) (ident : Int32)
  | setup (instIndex : Int) (inst : Nat) (ident : Int32)
  | run (instIndex : Int) (inst : Nat) (ident : Int32) (host : HostPc)
  | clear (instIndex : Int) (inst : Nat) (ident : Int32)
  | removeIdent (instIndex : Int) (inst : Nat) (ident : Int32)
  | release (inst : Nat) (failed : Bool)
  | done (failed : Bool)
  deriving DecidableEq, Repr

/-- Where an `addInstance` call is. -/
inductive AddPc
  | lock
  | instantiate
  /-- `wasmer.NewInstance` runs the module's start function. -/
  | newInstance (host : HostPc)
  /-- The WASI start function or `_start` runs. -/
  | start (host : HostPc)
  /-- `init` runs. -/
  | init (host : HostPc)
  | done (failed : Bool)
  deriving DecidableEq, Repr

/-- Where a `removeInstance` call is. `inst` is the instance it took in step 1. -/
inductive RemovePc
  | snapshot
  | acquire (inst : Nat)
  | lock (inst : Nat)
  | trim (inst : Nat)
  | close (inst : Nat)
  | release (inst : Nat)
  | dropAccess (inst : Nat)
  | done
  deriving DecidableEq, Repr

/-- Where a `newEnvironment` call is. -/
inductive NewPc
  | lock
  | create
  | done
  deriving DecidableEq, Repr

/-- A running call: which function, on which environment, and where it is. -/
inductive Thread
  | useInstance (w : Nat) (ctx : Ctx) (pc : UsePc)
  | addInstance (w : Nat) (pc : AddPc)
  | removeInstance (w : Nat) (pc : RemovePc)
  | newEnvironment (pc : NewPc)
  deriving DecidableEq, Repr

/-- The outside value a step takes. Steps that take none ignore it. -/
inductive Input
  | tick
  /-- `randomIdentifier` returns `ident`. -/
  | draw (ident : Int32)
  /-- `randomIdentifier` fails. -/
  | drawFails
  /-- Guest code calls a host function with identifier `ident`. -/
  | call (ident : Int32) (needsFFIResult : Bool)
  /-- The host function body stages `data` with `setFFIResult`. -/
  | stage (data : Option Bytes)
  /-- The host function body consumes the staged result (`get_ffi_result`). -/
  | consume
  /-- The running guest function returns, with an error when `ok` is false. -/
  | guestReturns (ok : Bool)
  /-- `internals()` fails. -/
  | fail
  deriving DecidableEq, Repr

/-- What one step of a call does: the call moves on to `pc` and the runtime becomes `r`,
or the Go runtime panics. -/
inductive Outcome (π : Type)
  | next (r : Runtime) (pc : π)
  | panic (p : GoPanic)

def Outcome.mapPc {π π' : Type} (f : π → π') : Outcome π → Outcome π'
  | .next r pc => .next r (f pc)
  | .panic p => .panic p

/-! ## One step of each call -/

/-- `randomIdentifier` draws from `[0, math.MaxInt32)`. -/
def Int32.isIdentifier (ident : Int32) : Bool := 0 ≤ ident.val && ident.val < 2147483647

/-- A step of a host call. `none`: the call waits, or the input is not one it takes. -/
def hostStep (r : Runtime) : HostPc → Input → Option (Outcome HostPc)
  | .idle, .call ident needsFFIResult =>
    match r.instanceMapper ident with
    | none => some (.next r .idle)
    | some ref => some (.next r (.envRLock ref needsFFIResult))
  | .idle, _ => none
  | .envRLock ref needsFFIResult, _ =>
    (r.envLock.rlock).map fun envLock =>
      match r.environment ref.envUUID with
      | none => .next r .idle
      | some _ => .next { r with envLock } (.index ref needsFFIResult)
  | .index ref needsFFIResult, _ =>
    -- `w.lock.RLock()`, the bounds check and the read, then `w.lock.RUnlock()`
    (r.envs ref.envUUID).lock.rlock.map fun _ =>
      match (r.envs ref.envUUID).instanceAtIndex ref.instIndex with
      | .error p => .panic p
      | .ok (.error _) => .next { r with envLock := r.envLock.runlock } .idle
      | .ok (.ok inst) => .next r (.check inst needsFFIResult)
  | .check inst needsFFIResult, _ =>
    match (r.insts inst).hostCallCheck needsFFIResult with
    | .error _ => some (.next { r with envLock := r.envLock.runlock } .idle)
    | .ok () => some (.next { r with envLock := r.envLock.runlock } (.body inst))
  | .body inst, .stage data =>
    match (r.insts inst).setFFIResult data with
    | .error _ => some (.next r .idle)
    | .ok staged => some (.next (r.setInst inst staged) .idle)
  | .body inst, .consume =>
    match (r.insts inst).useFFIResult with
    | .error _ => some (.next r .idle)
    | .ok (_, consumed) => some (.next (r.setInst inst consumed) .idle)
  | .body _, .tick => some (.next r .idle)
  | .body _, _ => none

/-- `inst.access.Acquire(context.Background(), 1)`: a nil `access` panics; a held gate
waits. -/
def acquireGate (r : Runtime) (inst : Nat) : Option (Option Runtime) :=
  if (r.insts inst).access then
    (semAcquire (r.insts inst).gate).map fun gate => some (r.setInst inst { r.insts inst with gate })
  else some none

/-- `Release(1)` on the gate of `inst`. -/
def releaseGate (r : Runtime) (inst : Nat) : Go Runtime :=
  (semRelease (r.insts inst).gate).map fun gate => r.setInst inst { r.insts inst with gate }

theorem acquireGate_eq_some {r r' : Runtime} {inst : Nat}
    (acquired : acquireGate r inst = some (some r')) :
    (r.insts inst).gate = 0 ∧ r' = r.setInst inst { r.insts inst with gate := 1 } := by
  unfold acquireGate semAcquire at acquired
  split at acquired
  · split at acquired
    · cases acquired
      have free : (r.insts inst).gate = 0 := by omega
      exact ⟨free, by rw [free]⟩
    · cases acquired
  · cases acquired

theorem releaseGate_eq_ok {r r' : Runtime} {inst : Nat} (released : releaseGate r inst = .ok r') :
    1 ≤ (r.insts inst).gate ∧
      r' = r.setInst inst { r.insts inst with gate := (r.insts inst).gate - 1 } := by
  unfold releaseGate semRelease at released
  split at released
  · cases released
  · cases released
    exact ⟨by omega, rfl⟩

/-- A step of `useInstance(ctx, instFunc)` on environment `w`. -/
def useStep (r : Runtime) (w : Nat) (ctx : Ctx) (pc : UsePc) (input : Input) :
    Option (Outcome UsePc) :=
  let env := r.envs w
  match pc with
  | .lock => env.lock.announce.map fun lock => .next (r.setEnv w { env with lock }) .select
  | .select =>
    if env.lock.drained then
      match env.select with
      | .error p => some (.panic p)
      | .ok (env', instIndex, inst) =>
        some (.next (r.setEnv w { env' with lock := env.lock.unlock }) (.acquire instIndex inst))
    else none
  | .acquire instIndex inst =>
    (acquireGate r inst).map fun
      | some r' => .next r' (.draw instIndex inst)
      | none => .panic .nilDereference
  | .draw instIndex inst =>
    match input with
    | .draw ident =>
      if ident.isIdentifier then
        match r.instanceMapper ident with
        | some _ => some (.next r (.draw instIndex inst))
        | none => some (.next r (.store instIndex inst ident))
      else none
    | .drawFails => some (.next r (.release inst true))
    | _ => none
  | .store instIndex inst ident =>
    some (.next { r with instanceMapper := Function.update r.instanceMapper ident (some ⟨w, instIndex⟩) }
      (.setup instIndex inst ident))
  | .setup instIndex inst ident =>
    some (.next (r.setInst inst { r.insts inst with ffiResult := none, ctx := some ctx })
      (.run instIndex inst ident .idle))
  | .run instIndex inst ident host =>
    match host, input with
    | .idle, .guestReturns _ => some (.next r (.clear instIndex inst ident))
    | _, _ => (hostStep r host input).map (Outcome.mapPc (.run instIndex inst ident))
  | .clear instIndex inst ident =>
    some (.next (r.setInst inst { r.insts inst with ctx := none, ffiResult := none })
      (.removeIdent instIndex inst ident))
  | .removeIdent _ inst ident =>
    some (.next { r with instanceMapper := Function.update r.instanceMapper ident none }
      (.release inst false))
  | .release inst failed =>
    -- `defer inst.access.Release(1)` took its receiver at the `defer`: the semaphore this call
    -- acquired, whatever `removeInstance` has since set `access` to
    match releaseGate r inst with
    | .error p => some (.panic p)
    | .ok r' => some (.next r' (.done failed))
  | .done _ => none

/-- A step of `addInstance` on environment `w`. -/
def addStep (r : Runtime) (w : Nat) (pc : AddPc) (input : Input) : Option (Outcome AddPc) :=
  let env := r.envs w
  let unlocked := r.setEnv w { env with lock := env.lock.unlock }
  match pc with
  | .lock => env.lock.announce.map fun lock => .next (r.setEnv w { env with lock }) .instantiate
  | .instantiate =>
    if env.lock.drained then
      match input with
      | .fail => some (.next unlocked (.done true))
      | _ => some (.next r (.newInstance .idle))
    else none
  | .newInstance host =>
    match host, input with
    | .idle, .guestReturns true => some (.next r (.start .idle))
    | .idle, .guestReturns false => some (.next unlocked (.done true))
    | _, _ => (hostStep r host input).map (Outcome.mapPc .newInstance)
  | .start host =>
    match host, input with
    | .idle, .guestReturns true => some (.next r (.init .idle))
    | .idle, .guestReturns false => some (.next unlocked (.done true))
    | _, _ => (hostStep r host input).map (Outcome.mapPc .start)
  | .init host =>
    match host, input with
    | .idle, .guestReturns true =>
      let inst := r.instCount
      let built := { (r.setInst inst WasmInstance.fresh) with instCount := inst + 1 }
      some (.next (built.setEnv w { env.append inst with lock := env.lock.unlock }) (.done false))
    | .idle, .guestReturns false => some (.next unlocked (.done true))
    | _, _ => (hostStep r host input).map (Outcome.mapPc .init)
  | .done _ => none

/-- A step of `removeInstance` on environment `w`. -/
def removeStep (r : Runtime) (w : Nat) (pc : RemovePc) : Option (Outcome RemovePc) :=
  let env := r.envs w
  match pc with
  | .snapshot =>
    -- `w.lock.RLock()`, the length check and the last instance, then `w.lock.RUnlock()`
    env.lock.rlock.map fun _ =>
      match env.lastInstance with
      | none => .next r .done
      | some inst => .next r (.acquire inst)
  | .acquire inst =>
    (acquireGate r inst).map fun
      | some r' => .next r' (.lock inst)
      | none => .panic .nilDereference
  | .lock inst => env.lock.announce.map fun lock => .next (r.setEnv w { env with lock }) (.trim inst)
  | .trim inst =>
    if env.lock.drained then
      match env.trim with
      | .error p => some (.panic p)
      | .ok env' => some (.next (r.setEnv w { env' with lock := env.lock.unlock }) (.close inst))
    else none
  | .close inst =>
    -- `inst.wasmerInst.Close()` dereferences the engine instance
    if (r.insts inst).wasmerInst then
      some (.next (r.setInst inst
        { r.insts inst with wasmerInst := false, ctx := none, ffiResult := none }) (.release inst))
    else some (.panic .nilDereference)
  | .release inst =>
    if (r.insts inst).access then
      match releaseGate r inst with
      | .error p => some (.panic p)
      | .ok r' => some (.next r' (.dropAccess inst))
    else some (.panic .nilDereference)
  | .dropAccess inst =>
    some (.next (r.setInst inst { r.insts inst with access := false }) .done)
  | .done => none

/-- A step of `newEnvironment`. -/
def newStep (r : Runtime) : NewPc → Option (Outcome NewPc)
  | .lock => r.envLock.announce.map fun envLock => .next { r with envLock } .create
  | .create =>
    if r.envLock.drained then
      some (.next
        { r with
          envs := Function.update r.envs r.envCount WasmEnvironment.empty
          envCount := r.envCount + 1
          envLock := r.envLock.unlock } .done)
    else none
  | .done => none

/-- A step of a call. -/
def Thread.step (r : Runtime) (input : Input) : Thread → Option (Outcome Thread)
  | .useInstance w ctx pc => (useStep r w ctx pc input).map (Outcome.mapPc (.useInstance w ctx))
  | .addInstance w pc => (addStep r w pc input).map (Outcome.mapPc (.addInstance w))
  | .removeInstance w pc => (removeStep r w pc).map (Outcome.mapPc (.removeInstance w))
  | .newEnvironment pc => (newStep r pc).map (Outcome.mapPc .newEnvironment)

/-! ## The world -/

/-- The runtime, the running calls (a call's index is its thread id), and the panic that
stopped the program, if one did. -/
structure World extends Runtime where
  threads : List Thread
  crash : Option GoPanic

/-- A call that can be started. -/
inductive Call
  | useInstance (w : Nat) (ctx : Ctx)
  | addInstance (w : Nat)
  | removeInstance (w : Nat)
  | newEnvironment
  deriving DecidableEq, Repr

/-- The thread of a call that has not done anything yet. -/
def Call.start : Call → Thread
  | .useInstance w ctx => .useInstance w ctx .lock
  | .addInstance w => .addInstance w .lock
  | .removeInstance w => .removeInstance w .snapshot
  | .newEnvironment => .newEnvironment .lock

/-- The environment a call runs on; methods are only called on registered environments. -/
def Call.env? : Call → Option Nat
  | .useInstance w _ | .addInstance w | .removeInstance w => some w
  | .newEnvironment => none

namespace World

def initial : World := ⟨Runtime.initial, [], none⟩

/-- The world after thread `t`'s step produced `o`. -/
def commit (s : World) (t : Nat) : Outcome Thread → World
  | .next r th => { s with toRuntime := r, threads := s.threads.set t th }
  | .panic p => { s with crash := some p }

/-- Thread `t` takes one step with `input`. -/
def step (s : World) (t : Nat) (input : Input) : Option World :=
  if s.crash.isSome then none
  else
    match s.threads[t]? with
    | none => none
    | some th => (th.step s.toRuntime input).map (s.commit t)

/-- A new call starts. -/
def spawn (s : World) (c : Call) : Option World :=
  if s.crash.isNone && (c.env?.all (· < s.envCount)) then
    some { s with threads := s.threads ++ [c.start] }
  else none

end World

/-- One event of a run: a call starts, or a thread takes a step. -/
inductive Event
  | spawn (c : Call)
  | step (t : Nat) (input : Input)
  deriving DecidableEq, Repr

def World.next (s : World) : Event → Option World
  | .spawn c => s.spawn c
  | .step t input => s.step t input

/-- Runs a schedule of events from `s`. -/
def World.run (s : World) : List Event → Option World
  | [] => some s
  | e :: rest => (s.next e).bind fun s' => s'.run rest

/-- A `newEnvironment` call run to its end as thread `t`. -/
def newEnvironmentEvents (t : Nat) : List Event :=
  [.spawn .newEnvironment, .step t .tick, .step t .tick]

/-- An `addInstance` call on environment `w` whose hooks return, run to its end as thread `t`. -/
def addInstanceEvents (w t : Nat) : List Event :=
  [.spawn (.addInstance w), .step t .tick, .step t .tick, .step t (.guestReturns true),
    .step t (.guestReturns true), .step t (.guestReturns true)]

/-- A `useInstance` call on environment `w`, run as thread `t` until its guest code starts,
with `ident` drawn as its identifier. -/
def enterInstFuncEvents (w : Nat) (ctx : Ctx) (t : Nat) (ident : Int32) : List Event :=
  [.spawn (.useInstance w ctx), .step t .tick, .step t .tick, .step t .tick, .step t (.draw ident),
    .step t .tick, .step t .tick]

/-- The guest code of thread `t`'s `useInstance` call returns, and the call runs to its end. -/
def leaveInstFuncEvents (t : Nat) : List Event :=
  [.step t (.guestReturns true), .step t .tick, .step t .tick, .step t .tick]

/-- The worlds some schedule reaches from the initial world. -/
inductive Reachable : World → Prop
  | initial : Reachable World.initial
  | next {s s' : World} (e : Event) : Reachable s → s.next e = some s' → Reachable s'

theorem Reachable.run {s s' : World} (reach : Reachable s) :
    ∀ {events : List Event}, s.run events = some s' → Reachable s'
  | [], ran => by cases ran; exact reach
  | e :: rest, ran => by
    simp only [World.run, Option.bind_eq_some] at ran
    obtain ⟨mid, stepped, ran⟩ := ran
    exact (reach.next e stepped).run ran

theorem reachable_of_run {s : World} {events : List Event}
    (ran : World.initial.run events = some s) : Reachable s :=
  Reachable.initial.run ran

/-- A schedule that ends in a world where `P` holds: the form in which a concrete run is
evaluated. -/
theorem Reachable.of_run {P : World → Prop} [DecidablePred P] (events : List Event)
    (ran : (World.initial.run events).map (fun s => decide (P s)) = some true) :
    ∃ s, Reachable s ∧ P s := by
  obtain ⟨s, ended, holds⟩ := Option.map_eq_some'.mp ran
  exact ⟨s, reachable_of_run ended, of_decide_eq_true holds⟩

end ReactrWasm
