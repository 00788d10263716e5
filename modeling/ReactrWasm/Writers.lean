import ReactrWasm.Growth

/-!
# One writer per lock

`w.lock` guards an environment's instance list and cursor. `useInstance` holds it for
writing around its selection, `addInstance` from its `Lock` to its return (start hooks
included), and `removeInstance` around its trim. `envLock` guards the `environments` map,
and `newEnvironment` holds it for writing around the registration.

`Lock` sets the writer flag only when it is clear (`RWMutex.announce`), and `Unlock`
clears it. `WriterMove` says what one step of any call does to the flags
(`Thread.step_writers`). From it, `World.WriterInv` counts the holders of each lock
in every reachable world, and `writers_exclusive` follows: each lock has at most one
writer, and its flag is set exactly while a call holds it.
-/

namespace ReactrWasm

/-- A call writes only the lock of the environment it runs on. -/
theorem Thread.env_of_writes {th : Thread} {v : Nat} (writes : th.writes v = true) :
    th.call.env? = some v := by
  unfold Thread.writes at writes
  split at writes <;> first | cases writes | exact congrArg some (beq_iff_eq.mp writes)

theorem Thread.creating_of_env {th : Thread} {w : Nat} (env : th.call.env? = some w) :
    th.creating = false := by
  cases th <;> first | rfl | cases env

theorem Thread.writes_of_ne {th : Thread} {w v : Nat} (env : th.call.env? = some w)
    (other : v ≠ w) : th.writes v = false :=
  Bool.eq_false_iff.mpr fun writes =>
    other (Option.some.inj ((Thread.env_of_writes writes).symm.trans env))

/-! ## How a writer flag moves -/

/-- How a lock's writer flag moves over one step of a call, by whether the call held the
lock before and after: the call takes the lock only when the flag is clear and sets it,
clears it when it lets go, and leaves it alone otherwise. -/
def Moves (flag flag' held held' : Bool) : Prop :=
  match held, held' with
  | false, true => flag = false ∧ flag' = true
  | true, false => flag' = false
  | _, _ => flag' = flag

theorem Moves.of_eq {flag flag' held held' : Bool} (same : flag' = flag) (kept : held' = held) :
    Moves flag flag' held held' := by
  subst kept
  cases held' <;> exact same

/-- The flag counts its holder, provided a holder finds it set. -/
theorem Moves.weight {flag flag' held held' : Bool} (moves : Moves flag flag' held held')
    (holder : held = true → flag = true) :
    (if flag' then 1 else 0) + (if held then 1 else 0) =
      (if flag then 1 else 0) + (if held' then 1 else 0) := by
  cases held <;> cases held' <;> simp only [Moves] at moves
  · rw [moves]
  · rw [moves.1, moves.2]
    rfl
  · rw [moves, holder rfl]
    rfl
  · rw [moves]

/-- What one step does to the writer flags of the environments' locks and of `envLock`. -/
structure WriterMove (r r' : Runtime) (th th' : Thread) : Prop where
  envs : ∀ w, Moves (r.envs w).lock.writer (r'.envs w).lock.writer (th.writes w) (th'.writes w)
  envLock : Moves r.envLock.writer r'.envLock.writer th.creating th'.creating
  count : r.envCount ≤ r'.envCount

section Writers

variable {r r' : Runtime} {th th' : Thread}

/-- A step that leaves the writer flags alone, and holds the locks it held. -/
theorem WriterMove.frame (envs : ∀ w, (r'.envs w).lock.writer = (r.envs w).lock.writer)
    (envLock : r'.envLock.writer = r.envLock.writer) (count : r.envCount ≤ r'.envCount)
    (writes : ∀ w, th'.writes w = th.writes w) (creating : th'.creating = th.creating) :
    WriterMove r r' th th' :=
  ⟨fun w => .of_eq (envs w) (writes w), .of_eq envLock creating, count⟩

/-- A step of a call on environment `w` that writes `w` of `r₀`, a runtime with the locks and
environments of `r`: the call takes or lets go of `w.lock` only. -/
theorem WriterMove.setEnv {r₀ : Runtime} {w : Nat} {e : WasmEnvironment} {held held' : Bool}
    (base : r₀.envs = r.envs ∧ r₀.envLock = r.envLock ∧ r₀.envCount = r.envCount)
    (env : th.call.env? = some w) (env' : th'.call.env? = some w)
    (before : th.writes w = held) (after : th'.writes w = held')
    (moves : Moves (r.envs w).lock.writer e.lock.writer held held') :
    WriterMove r (r₀.setEnv w e) th th' := by
  obtain ⟨envs, envLock, count⟩ := base
  refine ⟨fun v => ?_, .of_eq (by rw [Runtime.setEnv_envLock, envLock])
    ((Thread.creating_of_env env').trans (Thread.creating_of_env env).symm), count.ge⟩
  by_cases same : v = w
  · subst same
    simpa [before, after] using moves
  · exact .of_eq (by simp [same, envs])
      ((Thread.writes_of_ne env' same).trans (Thread.writes_of_ne env same).symm)

/-- A host call's step inside the call's own step. -/
theorem WriterMove.of_host {h h' : HostPc} {input : Input}
    (stepped : hostStep r h input = some (.next r' h')) (writes : ∀ w, th'.writes w = th.writes w)
    (creating : th'.creating = th.creating) : WriterMove r r' th th' :=
  let facts := hostStep_facts stepped
  .frame (fun w => by rw [facts.envs]) facts.envWriter (hostStep_grows stepped).1.count writes
    creating

end Writers

/-- `Lock` on `w.lock`: the call announces itself as the writer of a lock with none. -/
theorem WriterMove.announce {r : Runtime} {th th' : Thread} {w : Nat} {lock : RWMutex}
    (announced : (r.envs w).lock.announce = some lock) (env : th.call.env? = some w)
    (env' : th'.call.env? = some w) (before : th.writes w = false) (after : th'.writes w = true) :
    WriterMove r (r.setEnv w { r.envs w with lock }) th th' :=
  .setEnv ⟨rfl, rfl, rfl⟩ env env' before after
    ⟨RWMutex.writer_of_announce announced, by rw [RWMutex.announce_eq_some announced]⟩

/-- `Unlock` on `w.lock` by its writer, with the environment `e` the call leaves. -/
theorem WriterMove.unlock {r r₀ : Runtime} {th th' : Thread} {w : Nat} {e : WasmEnvironment}
    (base : r₀.envs = r.envs ∧ r₀.envLock = r.envLock ∧ r₀.envCount = r.envCount)
    (env : th.call.env? = some w) (env' : th'.call.env? = some w) (before : th.writes w = true)
    (after : th'.writes w = false) :
    WriterMove r (r₀.setEnv w { e with lock := (r.envs w).lock.unlock }) th th' :=
  .setEnv base env env' before after rfl

/-- A `useInstance` call writes `w.lock` at its selection only. -/
theorem useStep_writers {r r' : Runtime} {w : Nat} {ctx : Ctx} {pc pc' : UsePc} {input : Input}
    (stepped : useStep r w ctx pc input = some (.next r' pc')) :
    WriterMove r r' (.useInstance w ctx pc) (.useInstance w ctx pc') := by
  cases pc with
  | lock =>
    obtain ⟨lock, announced, stepped⟩ := Option.map_eq_some'.mp stepped
    cases stepped
    exact .announce announced rfl rfl rfl (beq_self_eq_true w)
  | select =>
    simp only [useStep] at stepped
    split at stepped
    · split at stepped <;> cases stepped
      exact .unlock ⟨rfl, rfl, rfl⟩ rfl rfl (beq_self_eq_true w) rfl
    · cases stepped
  | acquire idx inst =>
    obtain ⟨acquired, gotten, stepped⟩ := Option.map_eq_some'.mp stepped
    cases acquired <;> cases stepped
    obtain ⟨-, rfl⟩ := acquireGate_eq_some gotten
    exact .frame (fun _ => rfl) rfl le_rfl (fun _ => rfl) rfl
  | run idx inst ident host =>
    simp only [useStep] at stepped
    split at stepped
    · cases stepped
      exact .frame (fun _ => rfl) rfl le_rfl (fun _ => rfl) rfl
    · obtain ⟨outcome, hosted, mapped⟩ := Option.map_eq_some'.mp stepped
      cases outcome <;> cases mapped
      exact .of_host hosted (fun _ => rfl) rfl
  | release inst failed =>
    simp only [useStep] at stepped
    split at stepped
    · cases stepped
    · cases stepped
      obtain ⟨-, rfl⟩ := releaseGate_eq_ok ‹_›
      exact .frame (fun _ => rfl) rfl le_rfl (fun _ => rfl) rfl
  | draw | store | setup | clear | removeIdent | done =>
    simp only [useStep] at stepped
    repeat' split at stepped
    all_goals cases stepped
    all_goals exact .frame (fun _ => rfl) rfl le_rfl (fun _ => rfl) rfl

/-- An `addInstance` call writes `w.lock` from its `Lock` to its return. -/
theorem addStep_writers {r r' : Runtime} {w : Nat} {pc pc' : AddPc} {input : Input}
    (stepped : addStep r w pc input = some (.next r' pc')) :
    WriterMove r r' (.addInstance w pc) (.addInstance w pc') := by
  have unlocked : ∀ {held : AddPc} {failed : Bool},
      Thread.writes (.addInstance w held) w = true →
      WriterMove r (r.setEnv w { r.envs w with lock := (r.envs w).lock.unlock })
        (.addInstance w held) (.addInstance w (.done failed)) :=
    fun held => .unlock ⟨rfl, rfl, rfl⟩ rfl rfl held rfl
  cases pc with
  | lock =>
    obtain ⟨lock, announced, stepped⟩ := Option.map_eq_some'.mp stepped
    cases stepped
    exact .announce announced rfl rfl rfl (beq_self_eq_true w)
  | instantiate =>
    simp only [addStep] at stepped
    split at stepped
    · split at stepped <;> cases stepped
      · exact unlocked (beq_self_eq_true w)
      · exact .frame (fun _ => rfl) rfl le_rfl (fun _ => rfl) rfl
    · cases stepped
  | newInstance host | start host =>
    simp only [addStep] at stepped
    split at stepped
    · cases stepped
      exact .frame (fun _ => rfl) rfl le_rfl (fun _ => rfl) rfl
    · cases stepped
      exact unlocked (beq_self_eq_true w)
    · obtain ⟨outcome, hosted, mapped⟩ := Option.map_eq_some'.mp stepped
      cases outcome <;> cases mapped
      exact .of_host hosted (fun _ => rfl) rfl
  | init host =>
    simp only [addStep] at stepped
    split at stepped
    · cases stepped
      exact .unlock ⟨rfl, rfl, rfl⟩ rfl rfl (beq_self_eq_true w) rfl
    · cases stepped
      exact unlocked (beq_self_eq_true w)
    · obtain ⟨outcome, hosted, mapped⟩ := Option.map_eq_some'.mp stepped
      cases outcome <;> cases mapped
      exact .of_host hosted (fun _ => rfl) rfl
  | done failed => cases stepped

/-- A `removeInstance` call writes `w.lock` in its step 3 only. -/
theorem removeStep_writers {r r' : Runtime} {w : Nat} {pc pc' : RemovePc}
    (stepped : removeStep r w pc = some (.next r' pc')) :
    WriterMove r r' (.removeInstance w pc) (.removeInstance w pc') := by
  cases pc with
  | lock inst =>
    obtain ⟨lock, announced, stepped⟩ := Option.map_eq_some'.mp stepped
    cases stepped
    exact .announce announced rfl rfl rfl (beq_self_eq_true w)
  | trim inst =>
    simp only [removeStep] at stepped
    split at stepped
    · split at stepped <;> cases stepped
      exact .unlock ⟨rfl, rfl, rfl⟩ rfl rfl (beq_self_eq_true w) rfl
    · cases stepped
  | acquire inst =>
    obtain ⟨acquired, gotten, stepped⟩ := Option.map_eq_some'.mp stepped
    cases acquired <;> cases stepped
    obtain ⟨-, rfl⟩ := acquireGate_eq_some gotten
    exact .frame (fun _ => rfl) rfl le_rfl (fun _ => rfl) rfl
  | release inst =>
    simp only [removeStep] at stepped
    split at stepped
    · split at stepped
      · cases stepped
      · cases stepped
        obtain ⟨-, rfl⟩ := releaseGate_eq_ok ‹_›
        exact .frame (fun _ => rfl) rfl le_rfl (fun _ => rfl) rfl
    · cases stepped
  | snapshot =>
    obtain ⟨lock, -, stepped⟩ := Option.map_eq_some'.mp stepped
    split at stepped <;> cases stepped <;> exact .frame (fun _ => rfl) rfl le_rfl (fun _ => rfl) rfl
  | close | dropAccess | done =>
    simp only [removeStep] at stepped
    repeat' split at stepped
    all_goals cases stepped
    all_goals exact .frame (fun _ => rfl) rfl le_rfl (fun _ => rfl) rfl

/-- `newEnvironment` writes `envLock` from its `Lock` to its `Unlock`; the environment it
registers is the first unregistered one, whose lock has no writer. -/
theorem newStep_writers {r r' : Runtime} {pc pc' : NewPc}
    (unregistered : (r.envs r.envCount).lock.writer = false)
    (stepped : newStep r pc = some (.next r' pc')) :
    WriterMove r r' (.newEnvironment pc) (.newEnvironment pc') := by
  cases pc with
  | lock =>
    obtain ⟨envLock, announced, stepped⟩ := Option.map_eq_some'.mp stepped
    cases stepped
    refine ⟨fun _ => .of_eq rfl rfl, ⟨RWMutex.writer_of_announce announced, ?_⟩, le_rfl⟩
    rw [RWMutex.announce_eq_some announced]
  | create =>
    simp only [newStep] at stepped
    split at stepped <;> cases stepped
    refine ⟨fun v => .of_eq ?_ rfl, rfl, Nat.le_succ _⟩
    by_cases registering : v = r.envCount
    · subst registering
      simpa [WasmEnvironment.empty, RWMutex.unlocked] using unregistered.symm
    · simp [Function.update_noteq registering]
  | done => cases stepped

/-- What a step of any call does to the writer flags; the thread runs the same call after
it. -/
theorem Thread.step_writers {r r' : Runtime} {th th' : Thread} {input : Input}
    (unregistered : (r.envs r.envCount).lock.writer = false)
    (stepped : th.step r input = some (.next r' th')) :
    WriterMove r r' th th' ∧ th'.call = th.call := by
  cases th <;> simp only [Thread.step, Option.map_eq_some'] at stepped <;>
    obtain ⟨outcome, stepped, mapped⟩ := stepped <;> cases outcome <;> cases mapped
  · exact ⟨useStep_writers stepped, rfl⟩
  · exact ⟨addStep_writers stepped, rfl⟩
  · exact ⟨removeStep_writers stepped, rfl⟩
  · exact ⟨newStep_writers unregistered stepped, rfl⟩

/-! ## At most one writer -/

/-- Every call runs on a registered environment, and each writer flag counts the calls
holding its lock. -/
structure World.WriterInv (s : World) : Prop where
  registered : ∀ th ∈ s.threads, ∀ w ∈ th.call.env?, w < s.envCount
  writers : ∀ w, s.threads.countP (·.writes w) = if (s.envs w).lock.writer then 1 else 0
  creators : s.threads.countP (·.creating) = if s.envLock.writer then 1 else 0

/-- A flag that counts the calls holding it: at most one does, and it is set exactly while
one does. -/
theorem counted_holders {flag : Bool} {threads : List Thread} {held : Thread → Bool}
    (counted : threads.countP held = if flag then 1 else 0) :
    threads.countP held ≤ 1 ∧ (flag = true ↔ ∃ th ∈ threads, held th = true) := by
  rw [← List.countP_pos_iff, counted]
  cases flag <;> simp

/-- A flag that counts the calls holding it still does after a step of call `t` that moves it
(`Moves`). -/
theorem Moves.counted_set {threads : List Thread} {t : Nat} (below : t < threads.length)
    {held : Thread → Bool} {flag flag' : Bool} {th' : Thread}
    (counted : threads.countP held = if flag then 1 else 0)
    (moves : Moves flag flag' (held threads[t]) (held th')) :
    (threads.set t th').countP held = if flag' then 1 else 0 := by
  have weight := moves.weight fun holds =>
    (counted_holders counted).2.mpr ⟨_, List.getElem_mem below, holds⟩
  have moved := countP_set_moves below held th'
  omega

namespace World.WriterInv

variable {s : World} (locks : s.WriterInv)
include locks

/-- No call writes the lock of an environment not yet registered, so its flag is clear. -/
theorem unregistered : (s.envs s.envCount).lock.writer = false :=
  Bool.eq_false_iff.mpr fun set =>
    let ⟨_, running, writes⟩ := ((counted_holders (locks.writers _)).2).mp set
    Nat.lt_irrefl _ (locks.registered _ running _ (Thread.env_of_writes writes))

theorem spawn {c : Call} (registered : ∀ w ∈ c.env?, w < s.envCount) :
    ({ s with threads := s.threads ++ [c.start] } : World).WriterInv := by
  refine ⟨fun th m => ?_, fun w => ?_, ?_⟩
  · rcases List.mem_append.mp m with old | new
    · exact locks.registered th old
    · simpa [List.mem_singleton.mp new] using registered
  · simp [List.countP_append, locks.writers w]
  · simp [List.countP_append, locks.creators]

theorem commit {t : Nat} (below : t < s.threads.length) {input : Input} {th' : Thread}
    {r' : Runtime} (stepped : s.threads[t].step s.toRuntime input = some (.next r' th')) :
    ({ s with toRuntime := r', threads := s.threads.set t th' } : World).WriterInv := by
  have running := List.getElem_mem below
  obtain ⟨move, call⟩ := Thread.step_writers locks.unregistered stepped
  refine ⟨fun th m w mem => ?_, fun w => Moves.counted_set below (locks.writers w) (move.envs w),
    Moves.counted_set below locks.creators move.envLock⟩
  rcases List.mem_or_eq_of_mem_set m with old | rfl
  · exact (locks.registered th old w mem).trans_le move.count
  · exact (locks.registered _ running w (call ▸ mem)).trans_le move.count

end World.WriterInv

theorem World.WriterInv.initial : World.initial.WriterInv :=
  ⟨fun _ running => (nomatch running), fun _ => rfl, rfl⟩

theorem World.WriterInv.next {s s' : World} {e : Event} (locks : s.WriterInv)
    (stepped : s.next e = some s') : s'.WriterInv := by
  rcases World.next_guarded stepped with
    ⟨c, -, registered, rfl⟩ | ⟨-, t, input, -, below, o, threadStepped, rfl⟩
  · exact locks.spawn registered
  · cases o with
    | panic p => exact ⟨locks.registered, locks.writers, locks.creators⟩
    | next r' th' => exact locks.commit below threadStepped

theorem writerInv_of_reachable {s : World} (reach : Reachable s) : s.WriterInv := by
  induction reach with
  | initial => exact World.WriterInv.initial
  | next _ _ stepped ih => exact ih.next stepped

/-- Over every interleaving, each environment's lock has at most one writer, and its writer
flag is set exactly while a call holds it: from that call's `w.lock.Lock()` to its
`Unlock()`. So `useInstance`'s selection, `addInstance` with its start hooks, and
`removeInstance`'s trim never overlap on one environment. Likewise at most one
`newEnvironment` call is inside `envLock`'s `Lock`. -/
theorem writers_exclusive {s : World} (reach : Reachable s) (w : Nat) :
    s.threads.countP (·.writes w) ≤ 1 ∧
      ((s.envs w).lock.writer = true ↔ ∃ th ∈ s.threads, th.writes w = true) ∧
    s.threads.countP (·.creating) ≤ 1 ∧
      (s.envLock.writer = true ↔ ∃ th ∈ s.threads, th.creating = true) :=
  let locks := writerInv_of_reachable reach
  ⟨(counted_holders (locks.writers w)).1, (counted_holders (locks.writers w)).2,
    (counted_holders locks.creators).1, (counted_holders locks.creators).2⟩

theorem writers_exclusive_hook_running :
    ∃ s, Reachable s ∧ s.threads[1]? = some (.addInstance 0 (.start .idle)) ∧
      s.threads.countP (·.writes 0) ≤ 1 ∧
        ((s.envs 0).lock.writer = true ↔ ∃ th ∈ s.threads, th.writes 0 = true) ∧
      s.threads.countP (·.creating) ≤ 1 ∧
        (s.envLock.writer = true ↔ ∃ th ∈ s.threads, th.creating = true) := by
  obtain ⟨s, reach, hook⟩ := Reachable.of_run
    (P := fun s => s.threads[1]? = some (.addInstance 0 (.start .idle)))
    (newEnvironmentEvents 0 ++
      [.spawn (.addInstance 0), .step 1 .tick, .step 1 .tick, .step 1 (.guestReturns true)])
    (by decide)
  exact ⟨s, reach, hook, writers_exclusive reach 0⟩

end ReactrWasm
