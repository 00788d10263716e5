import ReactrWasm.Exclusion

/-!
# Deadlock in the start hooks

`addInstance` holds `w.lock` for writing from its `Lock` to its deferred
`Unlock`, and runs guest code in between: the module's start function, which
`wasmer.NewInstance` runs, then the WASI start function or `_start`, then
`init`. A host function called from there resolves its identifier with
`instanceForIdentifier`, which takes `w.lock.RLock()` in `instanceAtIndex`.
When the identifier names a slot of the same environment, that read lock waits
for the writer, which is the caller itself.

`World.Deadlocked` says that some call has not returned and that no call can
take a step, whatever the outside input.

This is the only way the calls deadlock (`deadlock_needs_hook_call`). Over
every interleaving the lock words agree with the calls (`World.LockInv`): no
`w.lock` keeps a reader, since `instanceAtIndex` and the snapshot of
`removeInstance` leave their read lock in the step that takes it; a set writer
is held by a call; and `envLock` counts the host calls inside its read lock.
So a writer that is not in a start hook runs to its `Unlock`, a host call
under `envLock` runs to its `RUnlock` once no environment has a writer, and the
call holding a gate steps once no lock has a writer
(`World.LockInv.progress`).

`addInstance_hook_deadlock` reaches a deadlock: a `useInstance` call registers
an identifier, an `addInstance` call on the same environment takes the lock,
its `_start` calls a host function with that identifier, and the `useInstance`
call then returns. Every guest function that is not blocked returns.
`newInstance_hook_deadlock` reaches one from the start function `wasmer.NewInstance`
runs, with no WASI start function, `_start` or `init` in progress.
-/

namespace ReactrWasm

/-- A call that has returned. -/
def Thread.finished : Thread → Bool
  | .useInstance _ _ (.done _) | .addInstance _ (.done _) | .removeInstance _ .done
  | .newEnvironment .done => true
  | _ => false

/-- Whatever the outside input, the call takes no step. -/
def Thread.Waits (r : Runtime) (th : Thread) : Prop := ∀ input, th.step r input = none

/-- Some call has not returned, and no call can take a step, whatever the outside input. -/
def World.Deadlocked (s : World) : Prop :=
  s.crash = none ∧ (∃ th ∈ s.threads, th.finished = false) ∧ ∀ t input, s.step t input = none

/-! ## Calls that wait -/

theorem Thread.waits_of_finished {th : Thread} (finished : th.finished = true) (r : Runtime) :
    th.Waits r := by
  intro input
  cases th with
  | useInstance w ctx pc => cases pc <;> first | rfl | cases finished
  | addInstance w pc => cases pc <;> first | rfl | cases finished
  | removeInstance w pc => cases pc <;> first | rfl | cases finished
  | newEnvironment pc => cases pc <;> first | rfl | cases finished

/-- `instanceAtIndex`'s `RLock` waits while the environment's writer is set. -/
theorem hostStep_index_waits {r : Runtime} {ref : InstanceReference} {needsFFIResult : Bool}
    {input : Input} (writer : (r.envs ref.envUUID).lock.writer = true) :
    hostStep r (.index ref needsFFIResult) input = none := by
  simp [hostStep, RWMutex.rlock, writer]

/-- A host call of `wasmer.NewInstance`'s start function or of `_start` waits at
`instanceAtIndex` while the environment's lock has a writer. -/
theorem addInstance_hook_waits {r : Runtime} {w : Nat} {ref : InstanceReference}
    {needsFFIResult : Bool} (writer : (r.envs ref.envUUID).lock.writer = true) {pc : AddPc}
    (hook : pc = .newInstance (.index ref needsFFIResult) ∨ pc = .start (.index ref needsFFIResult)) :
    (Thread.addInstance w pc).Waits r := fun _ => by
  rcases hook with rfl | rfl <;> simp [Thread.step, addStep, hostStep_index_waits writer]

/-- A world in which every call waits and one has not returned is deadlocked. -/
theorem World.deadlocked_of_waits {s : World} (running : s.crash = none)
    (pending : ∃ th ∈ s.threads, th.finished = false)
    (waits : ∀ th ∈ s.threads, th.Waits s.toRuntime) : s.Deadlocked := by
  refine ⟨running, pending, fun t input => ?_⟩
  simp only [World.step, running, Option.isSome_none, Bool.false_eq_true, if_false]
  split
  · rfl
  · rename_i th found
    obtain ⟨below, rfl⟩ := List.getElem?_eq_some_iff.mp found
    rw [waits _ (List.getElem_mem below) input, Option.map_none']

/-- A deadlocked world leaves every call waiting. -/
theorem World.Deadlocked.waits {s : World} (dead : s.Deadlocked) :
    ∀ th ∈ s.threads, th.Waits s.toRuntime := by
  intro th mem input
  obtain ⟨t, below, rfl⟩ := List.mem_iff_getElem.mp mem
  have stuck := dead.2.2 t input
  simp only [World.step, dead.1, Option.isSome_none, Bool.false_eq_true, if_false,
    List.getElem?_eq_getElem below] at stuck
  exact Option.map_eq_none'.mp stuck

/-! ## Calls that step -/

/-- Some outside input lets the call step. -/
def Thread.CanStep (r : Runtime) (th : Thread) : Prop := ∃ input, (th.step r input).isSome

/-- An `addInstance` call whose guest code has a host call in progress: the start function
`wasmer.NewInstance` runs, the WASI start function or `_start`, or `init`. -/
def Thread.inHook : Thread → Bool
  | .addInstance _ (.newInstance host) | .addInstance _ (.start host)
  | .addInstance _ (.init host) => host != .idle
  | _ => false

/-- A host call steps on a tick unless it waits for a writer: at `envRLock` for the writer
of `envLock`, at `index` for the writer of the lock of the environment it resolves. -/
theorem hostStep_tick {r : Runtime} {host : HostPc} (busy : host ≠ .idle)
    (envFree : ∀ ref n, host = .envRLock ref n → r.envLock.writer = false)
    (free : ∀ ref n, host = .index ref n → (r.envs ref.envUUID).lock.writer = false) :
    (hostStep r host .tick).isSome := by
  cases host with
  | idle => exact absurd rfl busy
  | envRLock ref n => simp [hostStep, RWMutex.rlock, envFree ref n rfl]
  | index ref n => simp [hostStep, RWMutex.rlock, free ref n rfl]
  | check inst n => simp only [hostStep]; split <;> rfl
  | body inst => rfl

/-- On a tick, a call whose guest code is in a host call takes the host call's step. -/
theorem Thread.step_tick_of_hostCall {r : Runtime} {th : Thread} (busy : th.hostCall ≠ .idle) :
    (th.step r .tick).isSome = (hostStep r th.hostCall .tick).isSome := by
  cases th with
  | useInstance _ _ pc =>
    cases pc with
    | run _ _ _ host =>
      cases host <;> first | exact absurd rfl busy | simp [Thread.step, useStep, Thread.hostCall]
    | _ => exact absurd rfl busy
  | addInstance _ pc =>
    cases pc with
    | newInstance host | start host | init host =>
      cases host <;> first | exact absurd rfl busy | simp [Thread.step, addStep, Thread.hostCall]
    | _ => exact absurd rfl busy
  | _ => exact absurd rfl busy

theorem acquireGate_isSome {r : Runtime} {inst : Nat} (free : (r.insts inst).gate = 0) :
    (acquireGate r inst).isSome := by
  unfold acquireGate
  split <;> simp [semAcquire, free]

/-- A call holding the lock of environment `w` for writing runs to its `Unlock` without
waiting, unless its start hooks are in a host call. -/
theorem Thread.canStep_of_writes {r : Runtime} {th : Thread} {w : Nat} (writes : th.writes w = true)
    (noHook : th.inHook = false) (readers : (r.envs w).lock.readers = 0) : th.CanStep r := by
  have drained : (r.envs w).lock.drained = true := by simp [RWMutex.drained, readers]
  cases th with
  | useInstance v _ pc =>
    cases pc <;> simp only [Thread.writes, beq_iff_eq, Bool.false_eq_true] at writes
    subst writes
    exact ⟨.tick, by simp only [Thread.step, useStep, drained, if_true]; split <;> rfl⟩
  | addInstance v pc =>
    cases pc with
    | instantiate =>
      obtain rfl : v = w := by simpa [Thread.writes] using writes
      exact ⟨.tick, by simp [Thread.step, addStep, drained]⟩
    | newInstance host | start host | init host =>
      obtain rfl : host = .idle := by simpa [Thread.inHook] using noHook
      exact ⟨.guestReturns true, rfl⟩
    | lock | done _ => cases writes
  | removeInstance v pc =>
    cases pc <;> simp only [Thread.writes, beq_iff_eq, Bool.false_eq_true] at writes
    subst writes
    exact ⟨.tick, by simp only [Thread.step, removeStep, drained, if_true]; split <;> rfl⟩
  | newEnvironment pc => cases writes

/-- A host call inside the read lock of `envLock` steps while no environment's lock has a
writer. -/
theorem Thread.canStep_of_readsEnvLock {r : Runtime} {th : Thread}
    (reads : th.hostCall.readsEnvLock = true) (free : ∀ w, (r.envs w).lock.writer = false) :
    th.CanStep r := by
  have busy : th.hostCall ≠ .idle := fun idle => by simp [idle, HostPc.readsEnvLock] at reads
  refine ⟨.tick, (Thread.step_tick_of_hostCall busy).trans
    (hostStep_tick busy ?_ fun _ _ _ => free _)⟩
  intro ref n envRLock
  simp [envRLock, HostPc.readsEnvLock] at reads

theorem Thread.canStep_of_creating {r : Runtime} {th : Thread} (creating : th.creating = true)
    (drained : r.envLock.readers = 0) : th.CanStep r := by
  cases th with
  | newEnvironment pc =>
    cases pc with
    | create => exact ⟨.tick, by simp [Thread.step, newStep, RWMutex.drained, drained]⟩
    | lock | done => cases creating
  | _ => cases creating

theorem Thread.finished_eq_false_of_holds {th : Thread} {i : Nat} (holds : th.holds i = true) :
    th.finished = false := by
  cases th with
  | useInstance _ _ pc | removeInstance _ pc => cases pc <;> first | rfl | cases holds
  | _ => cases holds

/-- While no lock has a writer, a call that has not returned steps, or it creates an
environment, or it waits for a gate it does not hold. -/
theorem Thread.canStep_of_unlocked {r : Runtime} {th : Thread} (pending : th.finished = false)
    (free : ∀ w, (r.envs w).lock.writer = false) (envFree : r.envLock.writer = false)
    (readers : ∀ w, (r.envs w).lock.readers = 0) :
    th.CanStep r ∨ th.creating = true ∨
      ((∀ i, th.holds i = false) ∧ ∃ i, (r.insts i).gate ≠ 0) := by
  by_cases busy : th.hostCall = .idle
  swap
  · exact .inl ⟨.tick, (Thread.step_tick_of_hostCall busy).trans
      (hostStep_tick busy (fun _ _ _ => envFree) fun _ _ _ => free _)⟩
  have drained : ∀ w, (r.envs w).lock.drained = true := by simp [RWMutex.drained, readers]
  cases th with
  | useInstance w ctx pc =>
    cases pc with
    | acquire _ inst =>
      by_cases taken : (r.insts inst).gate = 0
      · exact .inl ⟨.tick, by simpa [Thread.step, useStep] using acquireGate_isSome taken⟩
      · exact .inr (.inr ⟨fun _ => rfl, inst, taken⟩)
    | draw => exact .inl ⟨.drawFails, rfl⟩
    | run _ _ _ host =>
      obtain rfl : host = .idle := busy
      exact .inl ⟨.guestReturns true, rfl⟩
    | done => cases pending
    | _ => exact .inl ⟨.tick, by
        simp [Thread.step, useStep, RWMutex.announce, drained, free] <;> split <;> rfl⟩
  | addInstance w pc =>
    cases pc with
    | newInstance host | start host | init host =>
      obtain rfl : host = .idle := busy
      exact .inl ⟨.guestReturns true, rfl⟩
    | done => cases pending
    | _ => exact .inl ⟨.tick, by simp [Thread.step, addStep, RWMutex.announce, drained, free]⟩
  | removeInstance w pc =>
    cases pc with
    | acquire inst =>
      by_cases taken : (r.insts inst).gate = 0
      · exact .inl ⟨.tick, by simpa [Thread.step, removeStep] using acquireGate_isSome taken⟩
      · exact .inr (.inr ⟨fun _ => rfl, inst, taken⟩)
    | done => cases pending
    | _ => exact .inl ⟨.tick, by
        simp [Thread.step, removeStep, RWMutex.announce, RWMutex.rlock, drained, free] <;>
          (repeat' split) <;> rfl⟩
  | newEnvironment pc =>
    cases pc with
    | lock => exact .inl ⟨.tick, by simp [Thread.step, newStep, RWMutex.announce, envFree]⟩
    | create => exact .inr (.inl rfl)
    | done => cases pending

/-! ## The lock words -/

/-- The lock words agree with the calls: no environment's lock keeps a reader, a set writer
is held by a call, and `envLock` counts the host calls inside its read lock. -/
structure World.LockInv (s : World) : Prop where
  readers : ∀ w, (s.envs w).lock.readers = 0
  writers : ∀ w, Owned ((s.envs w).lock.writer = true) s.threads (·.writes w = true)
  creator : Owned (s.envLock.writer = true) s.threads (·.creating = true)
  envReaders : s.envLock.readers = s.threads.countP (·.hostCall.readsEnvLock)

theorem World.LockInv.initial : World.initial.LockInv :=
  ⟨fun _ => rfl, fun _ writer => (by cases writer), fun writer => (by cases writer), rfl⟩

theorem World.LockInv.next {s s' : World} {e : Event} (inv : s.Inv) (locks : s.LockInv)
    (stepped : s.next e = some s') : s'.LockInv := by
  rcases World.next_cases stepped with
    ⟨c, rfl⟩ | ⟨p, rfl⟩ | ⟨t, below, th', r', _, threadStepped, rfl⟩
  · exact ⟨locks.readers, fun w => (locks.writers w).append _, locks.creator.append _,
      by simp [List.countP_append, locks.envReaders, HostPc.readsEnvLock]⟩
  · exact ⟨locks.readers, locks.writers, locks.creator, locks.envReaders⟩
  · have sync := (inv.step_facts threadStepped).sync
    refine ⟨fun w => sync.readers w (locks.readers w),
      fun w => (locks.writers w).set below (sync.writers w),
      locks.creator.set below sync.creator, ?_⟩
    have moved := countP_set_moves below (·.hostCall.readsEnvLock) th'
    have readers := sync.envReaders fun reads =>
      locks.envReaders ▸ List.countP_pos_iff.mpr ⟨_, List.getElem_mem below, reads⟩
    have counted := locks.envReaders
    show r'.envLock.readers = (s.threads.set t th').countP (·.hostCall.readsEnvLock)
    omega

theorem lockInv_of_reachable {s : World} (reach : Reachable s) : s.LockInv := by
  induction reach with
  | initial => exact World.LockInv.initial
  | next _ reach' stepped ih => exact ih.next (inv_of_reachable reach') stepped

/-! ## Progress -/

/-- Where no start hook is in a host call, some call steps as soon as one has not returned.
A writer of an environment's lock steps; else the call creating an environment steps, or a
host call inside the read lock it waits for does; else every call that waits, waits for a
gate, and the call holding that gate steps. -/
theorem World.LockInv.progress {s : World} (inv : s.Inv) (locks : s.LockInv)
    (noHooks : ∀ th ∈ s.threads, th.inHook = false)
    (pending : ∃ th ∈ s.threads, th.finished = false) :
    ∃ th ∈ s.threads, th.CanStep s.toRuntime := by
  by_cases written : ∃ w, (s.envs w).lock.writer = true
  · obtain ⟨w, writer⟩ := written
    obtain ⟨th, mem, writes⟩ := locks.writers w writer
    exact ⟨th, mem, Thread.canStep_of_writes writes (noHooks th mem) (locks.readers w)⟩
  have free : ∀ w, (s.envs w).lock.writer = false := by simpa using written
  have creatorSteps : ∀ th ∈ s.threads, th.creating = true →
      ∃ th ∈ s.threads, th.CanStep s.toRuntime := fun th mem creating => by
    by_cases drained : s.envLock.readers = 0
    · exact ⟨th, mem, Thread.canStep_of_creating creating drained⟩
    · obtain ⟨reader, memR, reads⟩ :=
        List.countP_pos_iff.mp (locks.envReaders ▸ Nat.pos_of_ne_zero drained)
      exact ⟨reader, memR, Thread.canStep_of_readsEnvLock reads free⟩
  cases envFree : s.envLock.writer
  · obtain ⟨th, mem, pending⟩ := pending
    rcases Thread.canStep_of_unlocked pending free envFree locks.readers with
      steps | creating | ⟨-, i, taken⟩
    · exact ⟨th, mem, steps⟩
    · exact creatorSteps th mem creating
    · obtain ⟨holder, memH, holds⟩ :=
        List.countP_pos_iff.mp (inv.counted i ▸ Nat.pos_of_ne_zero taken)
      rcases Thread.canStep_of_unlocked (Thread.finished_eq_false_of_holds holds) free envFree
        locks.readers with steps | creating | ⟨idle, -⟩
      · exact ⟨holder, memH, steps⟩
      · exact creatorSteps holder memH creating
      · simp [idle] at holds
  · obtain ⟨th, mem, creating⟩ := locks.creator envFree
    exact creatorSteps th mem creating

/-- Over every interleaving, a deadlock needs an `addInstance` call whose guest code is in a
host call: the start function `wasmer.NewInstance` runs, the WASI start function or
`_start`, or `init`. In a reachable world where none is, the calls are not deadlocked. -/
theorem deadlock_needs_hook_call {s : World} (reach : Reachable s)
    (noHooks : ∀ th ∈ s.threads, th.inHook = false) : ¬ s.Deadlocked := by
  intro dead
  obtain ⟨th, mem, input, steps⟩ :=
    (lockInv_of_reachable reach).progress (inv_of_reachable reach) noHooks dead.2.1
  rw [dead.waits th mem input] at steps
  cases steps

/-- One instance. A `useInstance` call runs its guest code on it, a second one waits for its
gate, an `addInstance` call holds the lock, and a third `useInstance` call waits for it. -/
def waitingCallsSchedule : List Event :=
  newEnvironmentEvents 0 ++ addInstanceEvents 0 1 ++ enterInstFuncEvents 0 7 2 5 ++
    [.spawn (.useInstance 0 8), .step 3 .tick, .step 3 .tick, .spawn (.addInstance 0),
      .step 4 .tick, .spawn (.useInstance 0 9)]

theorem deadlock_needs_hook_call_waiting_calls :
    ∃ s, Reachable s ∧ (∀ th ∈ s.threads, th.inHook = false) ∧
      (∃ th ∈ s.threads, th.Waits s.toRuntime) ∧ ¬ s.Deadlocked := by
  obtain ⟨s, reach, noHooks, waiting, taken, held⟩ := Reachable.of_run
    (P := fun s => (∀ th ∈ s.threads, th.inHook = false) ∧
      s.threads[3]? = some (.useInstance 0 8 (.acquire 0 0)) ∧ (s.insts 0).gate = 1 ∧
      (s.insts 0).access = true)
    waitingCallsSchedule (by decide)
  refine ⟨s, reach, noHooks, ⟨_, List.mem_iff_getElem?.mpr ⟨3, waiting⟩, fun input => ?_⟩,
    deadlock_needs_hook_call reach noHooks⟩
  simp [Thread.step, useStep, acquireGate, semAcquire, taken, held]

/-! ## A host call from `_start` -/

/-- Three calls have returned, and an `addInstance` call holding the lock of environment 0
has a host call at `instanceAtIndex` on it: the calls are deadlocked. -/
theorem World.deadlocked_of_hook {s : World} (running : s.crash = none) {pc : AddPc}
    (threads : s.threads = [.newEnvironment .done, .addInstance 0 (.done false),
      .useInstance 0 7 (.done false), .addInstance 0 pc])
    (writer : (s.envs 0).lock.writer = true)
    (hook : pc = .newInstance (.index ⟨0, 0⟩ false) ∨ pc = .start (.index ⟨0, 0⟩ false)) :
    s.Deadlocked := by
  have pending : (Thread.addInstance 0 pc).finished = false := by rcases hook with rfl | rfl <;> rfl
  refine World.deadlocked_of_waits running ⟨_, by simp [threads], pending⟩ ?_
  simp only [threads, List.mem_cons, List.mem_singleton, List.not_mem_nil, or_false]
  rintro th (rfl | rfl | rfl | rfl)
  iterate 3 exact Thread.waits_of_finished (by rfl) _
  exact addInstance_hook_waits writer hook

/-- One instance, and a `useInstance` call with identifier 5 in its guest code. An
`addInstance` call on the same environment takes `w.lock`, and its `_start` calls a host
function with identifier 5. The `useInstance` call returns. -/
def hookDeadlockSchedule : List Event :=
  newEnvironmentEvents 0 ++ addInstanceEvents 0 1 ++ enterInstFuncEvents 0 7 2 5 ++
    [.spawn (.addInstance 0), .step 3 .tick, .step 3 .tick, .step 3 (.guestReturns true),
      .step 3 (.call 5 false), .step 3 .tick] ++ leaveInstFuncEvents 2

/-- The `addInstance` call waits in its own host call for the lock it holds, and every
other call has returned. -/
theorem addInstance_hook_deadlock :
    ∃ s, Reachable s ∧ s.Deadlocked ∧
      s.threads[3]? = some (.addInstance 0 (.start (.index ⟨0, 0⟩ false))) := by
  obtain ⟨s, reach, running, threads, writer⟩ := Reachable.of_run
    (P := fun s => s.crash = none ∧
      s.threads = [.newEnvironment .done, .addInstance 0 (.done false),
        .useInstance 0 7 (.done false), .addInstance 0 (.start (.index ⟨0, 0⟩ false))] ∧
      (s.envs 0).lock.writer = true)
    hookDeadlockSchedule (by decide)
  exact ⟨s, reach, World.deadlocked_of_hook running threads writer (.inr rfl), by simp [threads]⟩

/-- The same host call made from the start function `wasmer.NewInstance` runs: the module
has no WASI start function, `_start` or `init` in progress, and the calls deadlock. -/
def newInstanceDeadlockSchedule : List Event :=
  newEnvironmentEvents 0 ++ addInstanceEvents 0 1 ++ enterInstFuncEvents 0 7 2 5 ++
    [.spawn (.addInstance 0), .step 3 .tick, .step 3 .tick, .step 3 (.call 5 false),
      .step 3 .tick] ++ leaveInstFuncEvents 2

theorem newInstance_hook_deadlock :
    ∃ s, Reachable s ∧ s.Deadlocked ∧
      s.threads[3]? = some (.addInstance 0 (.newInstance (.index ⟨0, 0⟩ false))) := by
  obtain ⟨s, reach, running, threads, writer⟩ := Reachable.of_run
    (P := fun s => s.crash = none ∧
      s.threads = [.newEnvironment .done, .addInstance 0 (.done false),
        .useInstance 0 7 (.done false), .addInstance 0 (.newInstance (.index ⟨0, 0⟩ false))] ∧
      (s.envs 0).lock.writer = true)
    newInstanceDeadlockSchedule (by decide)
  exact ⟨s, reach, World.deadlocked_of_hook running threads writer (.inl rfl), by simp [threads]⟩

end ReactrWasm
