import ReactrWasm.RoundTrip
import ReactrWasm.Writers

/-!
# What `removeInstance` takes off a list

`removeInstance` works in four steps: it reads the last instance under `w.lock.RLock`,
takes that instance's gate, then under `w.lock.Lock` drops the last slot, and last closes
the instance it read. Between the first step and the third another call can change the
list: `addInstance` can append, or a second `removeInstance` can trim. The third step then
drops a slot other than the one the call read. A schedule in `Exclusion` does this with two
`removeInstance` calls, and leaves an open instance in no list;
`add_during_remove_drops_open_instance` does it with an `addInstance`, after which the list
keeps a closed instance and the next `useInstance` call on it panics.

`QuietReachable` holds for the worlds of schedules in which no call changes a list while
another call's `removeInstance` on it is between its first step and its third
(`World.quietNext`). In those worlds (`World.RemoveInv`):

* a `removeInstance` call between those steps still finds its instance last in the list,
  so it drops the very instance it then closes;
* every listed instance is open;
* every open instance is listed, or is the one a `removeInstance` call has dropped and is
  closing;
* no instance is listed twice, and a dropped instance is in no list;
* a dropped instance is dropped by one call only, keeps its `access` until that call sets it
  to nil, and keeps its engine instance until that call closes it.

`removeInstance_drops_only_what_it_closes` states the first three. From the last,
`removeInstance_never_panics`: in those worlds no step of `removeInstance` panics. Each
step's effect on the lists, the engine instances and the `access` semaphores is said once,
by `ListStep`.

Over every interleaving, with no condition on the schedule, the gate does what step 2 of
`removeInstance` takes it for: `removeInstance` closes an instance only while it holds the
gate, so no event closes an instance whose gate a `useInstance` call holds
(`held_instance_stays_open`). The gate only protects an instance a call has already taken.
A call that selected an instance and takes the gate after `removeInstance` has closed it
still runs on the closed instance (a schedule in `Exclusion`).
-/

namespace ReactrWasm

/-! ## Where a `removeInstance` call is in its lock dance -/

/-- The environment and instance of a `removeInstance` call between its snapshot (step 1)
and its trim (step 3). -/
def Thread.pending? : Thread → Option (Nat × Nat)
  | .removeInstance w (.acquire inst) | .removeInstance w (.lock inst)
  | .removeInstance w (.trim inst) => some (w, inst)
  | _ => none

/-- The call is a `removeInstance` call on `w` between its snapshot and its trim. -/
def Thread.pendingOn (th : Thread) (w : Nat) : Bool :=
  th.pending?.any (·.1 == w)

/-- The instance a `removeInstance` call has trimmed from its list and is tearing down. -/
def Thread.trimmed? : Thread → Option Nat
  | .removeInstance _ (.close inst) | .removeInstance _ (.release inst)
  | .removeInstance _ (.dropAccess inst) => some inst
  | _ => none

/-- The instance a `removeInstance` call has closed, from its `Close` to its end. -/
def Thread.closed? : Thread → Option Nat
  | .removeInstance _ (.release inst) | .removeInstance _ (.dropAccess inst) => some inst
  | _ => none

/-- The environment whose list the call's step on `input` changes: `addInstance` appending
the instance its `init` built, or `removeInstance` trimming. -/
def Thread.changesList : Thread → Input → Option Nat
  | .addInstance w (.init .idle), .guestReturns true => some w
  | .removeInstance w (.trim _), _ => some w
  | _, _ => none

theorem Thread.pendingOn_of_pending {th : Thread} {w inst : Nat}
    (pending : th.pending? = some (w, inst)) : th.pendingOn w = true := by
  simp [Thread.pendingOn, pending]

/-! ## What a step does to the lists and to open instances -/

/-- Whether the engine instance and the `access` semaphore of an instance are still set. -/
def WasmInstance.flags (x : WasmInstance) : Bool × Bool := (x.wasmerInst, x.access)

theorem WasmInstance.isOpen_congr {x y : WasmInstance} (same : x.flags = y.flags) :
    x.isOpen = y.isOpen := by
  simp only [WasmInstance.flags, Prod.mk.injEq] at same
  simp [WasmInstance.isOpen, same]

/-- The step changes no instance list, registers no environment, builds no instance, and
leaves every engine instance and `access` as it was. -/
structure Runtime.ListFrame (r r' : Runtime) : Prop where
  lists : ∀ v, (r'.envs v).instances = (r.envs v).instances
  registered : r'.envCount = r.envCount
  count : r'.instCount = r.instCount
  flags : ∀ i, (r'.insts i).flags = (r.insts i).flags

namespace Runtime.ListFrame

variable {r r' : Runtime}

theorem same (envs : r'.envs = r.envs) (registered : r'.envCount = r.envCount)
    (count : r'.instCount = r.instCount) (insts : r'.insts = r.insts) : r.ListFrame r' :=
  ⟨fun _ => by rw [envs], registered, count, fun _ => by rw [insts]⟩

theorem setEnv {w : Nat} {e : WasmEnvironment} (kept : e.instances = (r.envs w).instances) :
    r.ListFrame (r.setEnv w e) :=
  ⟨fun v => by by_cases here : v = w <;> simp [here, kept], rfl, rfl, fun _ => rfl⟩

theorem setInst {i : Nat} {x : WasmInstance} (kept : x.flags = (r.insts i).flags) :
    r.ListFrame (r.setInst i x) :=
  ⟨fun _ => rfl, rfl, rfl, fun j => by by_cases here : j = i <;> simp [here, kept]⟩

end Runtime.ListFrame

theorem hostStep_listFrame {r r' : Runtime} {host host' : HostPc} {input : Input}
    (stepped : hostStep r host input = some (.next r' host')) : r.ListFrame r' := by
  cases host with
  | idle =>
    cases input <;> simp only [hostStep, reduceCtorEq] at stepped
    split at stepped <;> cases stepped <;> exact .same rfl rfl rfl rfl
  | envRLock ref needs =>
    obtain ⟨lock, -, stepped⟩ := Option.map_eq_some'.mp stepped
    split at stepped <;> cases stepped <;> exact .same rfl rfl rfl rfl
  | index ref needs =>
    obtain ⟨lock, -, stepped⟩ := Option.map_eq_some'.mp stepped
    split at stepped <;> cases stepped <;> exact .same rfl rfl rfl rfl
  | check inst needs =>
    simp only [hostStep] at stepped
    split at stepped <;> cases stepped <;> exact .same rfl rfl rfl rfl
  | body inst =>
    cases input <;> simp only [hostStep, reduceCtorEq] at stepped
    · cases stepped
      exact .same rfl rfl rfl rfl
    · split at stepped <;> cases stepped
      · exact .same rfl rfl rfl rfl
      · obtain ⟨-, rfl⟩ := WasmInstance.setFFIResult_eq_ok ‹_›
        exact .setInst rfl
    · split at stepped <;> cases stepped
      · exact .same rfl rfl rfl rfl
      · obtain ⟨-, rfl⟩ := WasmInstance.useFFIResult_eq_ok ‹_›
        exact .setInst rfl

/-- What one step of a call does to the instance lists and to open instances: `addInstance`
appends the instance it built, `removeInstance` trims the last slot, closes the instance it
trimmed and drops its `access`, `newEnvironment` registers an empty list, and nothing else
changes a list, an engine instance or an `access`. -/
inductive ListStep (r r' : Runtime) (input : Input) (th th' : Thread) : Prop
  | append (w : Nat) (thread : th = .addInstance w (.init .idle))
      (thread' : th' = .addInstance w (.done false)) (returned : input = .guestReturns true)
      (appended : ∀ v, (r'.envs v).instances =
        if v = w then (r.envs v).instances ++ [r.instCount] else (r.envs v).instances)
      (registered : r'.envCount = r.envCount) (built : r'.instCount = r.instCount + 1)
      (fresh : (r'.insts r.instCount).isOpen = true)
      (others : ∀ i, i ≠ r.instCount → (r'.insts i).flags = (r.insts i).flags)
  | trim (w inst : Nat) (thread : th = .removeInstance w (.trim inst))
      (thread' : th' = .removeInstance w (.close inst))
      (trimmed : ∀ v, (r'.envs v).instances =
        if v = w then (r.envs v).instances.dropLast else (r.envs v).instances)
      (registered : r'.envCount = r.envCount) (count : r'.instCount = r.instCount)
      (flags : ∀ i, (r'.insts i).flags = (r.insts i).flags)
  | register (thread : th = .newEnvironment .create) (thread' : th' = .newEnvironment .done)
      (added : ∀ v, (r'.envs v).instances = if v = r.envCount then [] else (r.envs v).instances)
      (registered : r'.envCount = r.envCount + 1) (count : r'.instCount = r.instCount)
      (flags : ∀ i, (r'.insts i).flags = (r.insts i).flags)
  | other (lists : ∀ v, (r'.envs v).instances = (r.envs v).instances)
      (registered : r'.envCount = r.envCount) (count : r'.instCount = r.instCount)
      (flags : ∀ i, (r'.insts i).flags = (r.insts i).flags ∨
        th.trimmed? = some i ∧ (r'.insts i).isOpen = false)
      (pending : th'.pending? = th.pending? ∨ ∃ w inst, th.pending? = none ∧
        th'.pending? = some (w, inst) ∧ (r.envs w).lastInstance = some inst)
      (trimmed : th'.trimmed? = th.trimmed? ∨ ∃ i, th.trimmed? = some i ∧ th'.trimmed? = none ∧
        (r'.insts i).isOpen = false)
      (shut : ∀ i, th'.closed? = some i → th.closed? = some i ∨ (r'.insts i).isOpen = false)
      (torn : ∀ i, th.trimmed? = some i → th'.trimmed? = some i →
        (r'.insts i).access = (r.insts i).access ∧
          ((r'.insts i).wasmerInst = (r.insts i).wasmerInst ∧ th'.closed? = th.closed? ∨
            th'.closed? = some i))

theorem ListStep.frame {r r' : Runtime} {input : Input} {th th' : Thread} (frame : r.ListFrame r')
    (pending : th'.pending? = th.pending?) (trimmed : th'.trimmed? = th.trimmed?)
    (closed : th'.closed? = th.closed?) : ListStep r r' input th th' :=
  have same : ∀ i, (r'.insts i).wasmerInst = (r.insts i).wasmerInst ∧
      (r'.insts i).access = (r.insts i).access := fun i => Prod.mk.inj (frame.flags i)
  .other frame.lists frame.registered frame.count (fun i => .inl (frame.flags i)) (.inl pending)
    (.inl trimmed) (fun _ => closed ▸ .inl) fun i _ _ => ⟨(same i).2, .inl ⟨(same i).1, closed⟩⟩

theorem useStep_lists {r r' : Runtime} {w : Nat} {ctx : Ctx} {pc pc' : UsePc} {input : Input}
    (stepped : useStep r w ctx pc input = some (.next r' pc')) :
    ListStep r r' input (.useInstance w ctx pc) (.useInstance w ctx pc') := by
  cases pc with
  | lock =>
    obtain ⟨lock, -, stepped⟩ := Option.map_eq_some'.mp stepped
    cases stepped
    exact .frame (.setEnv rfl) rfl rfl rfl
  | select =>
    simp only [useStep] at stepped
    split at stepped
    · split at stepped
      · cases stepped
      · cases stepped
        obtain ⟨rfl, -, -⟩ := WasmEnvironment.select_eq_ok ‹_›
        exact .frame (.setEnv rfl) rfl rfl rfl
    · cases stepped
  | acquire idx inst =>
    obtain ⟨acquired, gotten, stepped⟩ := Option.map_eq_some'.mp stepped
    cases acquired <;> cases stepped
    obtain ⟨-, rfl⟩ := acquireGate_eq_some gotten
    exact .frame (.setInst rfl) rfl rfl rfl
  | draw idx inst =>
    simp only [useStep] at stepped
    split at stepped
    · split at stepped
      · split at stepped <;> cases stepped <;> exact .frame (.same rfl rfl rfl rfl) rfl rfl rfl
      · cases stepped
    · cases stepped
      exact .frame (.same rfl rfl rfl rfl) rfl rfl rfl
    · cases stepped
  | store | removeIdent =>
    cases stepped
    exact .frame (.same rfl rfl rfl rfl) rfl rfl rfl
  | setup | clear =>
    cases stepped
    exact .frame (.setInst rfl) rfl rfl rfl
  | run idx inst ident host =>
    simp only [useStep] at stepped
    split at stepped
    · cases stepped
      exact .frame (.same rfl rfl rfl rfl) rfl rfl rfl
    · obtain ⟨outcome, hosted, mapped⟩ := Option.map_eq_some'.mp stepped
      cases outcome <;> cases mapped
      exact .frame (hostStep_listFrame hosted) rfl rfl rfl
  | release inst failed =>
    simp only [useStep] at stepped
    split at stepped
    · cases stepped
    · cases stepped
      obtain ⟨-, rfl⟩ := releaseGate_eq_ok ‹_›
      exact .frame (.setInst rfl) rfl rfl rfl
  | done failed => cases stepped

theorem addStep_lists {r r' : Runtime} {w : Nat} {pc pc' : AddPc} {input : Input}
    (stepped : addStep r w pc input = some (.next r' pc')) :
    ListStep r r' input (.addInstance w pc) (.addInstance w pc') := by
  cases pc with
  | lock =>
    obtain ⟨lock, -, stepped⟩ := Option.map_eq_some'.mp stepped
    cases stepped
    exact .frame (.setEnv rfl) rfl rfl rfl
  | instantiate =>
    simp only [addStep] at stepped
    split at stepped
    · split at stepped <;> cases stepped
      · exact .frame (.setEnv rfl) rfl rfl rfl
      · exact .frame (.same rfl rfl rfl rfl) rfl rfl rfl
    · cases stepped
  | newInstance host | start host =>
    simp only [addStep] at stepped
    split at stepped
    · cases stepped
      exact .frame (.same rfl rfl rfl rfl) rfl rfl rfl
    · cases stepped
      exact .frame (.setEnv rfl) rfl rfl rfl
    · obtain ⟨outcome, hosted, mapped⟩ := Option.map_eq_some'.mp stepped
      cases outcome <;> cases mapped
      exact .frame (hostStep_listFrame hosted) rfl rfl rfl
  | init host =>
    simp only [addStep] at stepped
    split at stepped
    · cases stepped
      refine .append w rfl rfl rfl (fun v => ?_) rfl rfl (by simp [WasmInstance.isOpen,
        WasmInstance.fresh]) fun i other => by simp [other]
      by_cases here : v = w <;> simp [here, WasmEnvironment.append]
    · cases stepped
      exact .frame (.setEnv rfl) rfl rfl rfl
    · obtain ⟨outcome, hosted, mapped⟩ := Option.map_eq_some'.mp stepped
      cases outcome <;> cases mapped
      exact .frame (hostStep_listFrame hosted) rfl rfl rfl
  | done failed => cases stepped

theorem removeStep_lists {r r' : Runtime} {w : Nat} {pc pc' : RemovePc} {input : Input}
    (stepped : removeStep r w pc = some (.next r' pc')) :
    ListStep r r' input (.removeInstance w pc) (.removeInstance w pc') := by
  cases pc with
  | snapshot =>
    obtain ⟨lock, -, stepped⟩ := Option.map_eq_some'.mp stepped
    split at stepped <;> cases stepped
    · exact .frame (.same rfl rfl rfl rfl) rfl rfl rfl
    · exact .other (fun _ => rfl) rfl rfl (fun _ => .inl rfl) (.inr ⟨w, _, rfl, rfl, ‹_›⟩)
        (.inl rfl) (fun _ => .inl) fun _ => nofun
  | acquire inst =>
    obtain ⟨acquired, gotten, stepped⟩ := Option.map_eq_some'.mp stepped
    cases acquired <;> cases stepped
    obtain ⟨-, rfl⟩ := acquireGate_eq_some gotten
    exact .frame (.setInst rfl) rfl rfl rfl
  | lock inst =>
    obtain ⟨lock, -, stepped⟩ := Option.map_eq_some'.mp stepped
    cases stepped
    exact .frame (.setEnv rfl) rfl rfl rfl
  | trim inst =>
    simp only [removeStep] at stepped
    split at stepped
    · split at stepped <;> cases stepped
      refine .trim w inst rfl rfl (fun v => ?_) rfl rfl fun _ => rfl
      by_cases here : v = w
      · subst here
        simp [WasmEnvironment.trim_eq_ok ‹_›, List.dropLast_eq_take]
      · simp [here]
    · cases stepped
  | close inst =>
    simp only [removeStep] at stepped
    split at stepped <;> cases stepped
    refine .other (fun _ => rfl) rfl rfl (fun i => ?_) (.inl rfl) (.inl rfl)
      (fun i closed => .inr (by cases closed; simp [WasmInstance.isOpen]))
      fun i was _ => ⟨by cases was; simp, .inr was⟩
    by_cases here : i = inst
    · subst here
      exact .inr ⟨rfl, by simp [WasmInstance.isOpen]⟩
    · exact .inl (by simp [here])
  | release inst =>
    simp only [removeStep] at stepped
    split at stepped
    · split at stepped <;> cases stepped
      obtain ⟨-, rfl⟩ := releaseGate_eq_ok ‹_›
      exact .frame (.setInst rfl) rfl rfl rfl
    · cases stepped
  | dropAccess inst =>
    cases stepped
    refine .other (fun _ => rfl) rfl rfl (fun i => ?_) (.inl rfl)
      (.inr ⟨inst, rfl, rfl, by simp [WasmInstance.isOpen]⟩) (fun _ => nofun) fun _ _ => nofun
    by_cases here : i = inst
    · subst here
      exact .inr ⟨rfl, by simp [WasmInstance.isOpen]⟩
    · exact .inl (by simp [here])
  | done => cases stepped

theorem newStep_lists {r r' : Runtime} {pc pc' : NewPc} {input : Input}
    (stepped : newStep r pc = some (.next r' pc')) :
    ListStep r r' input (.newEnvironment pc) (.newEnvironment pc') := by
  cases pc with
  | lock =>
    obtain ⟨lock, -, stepped⟩ := Option.map_eq_some'.mp stepped
    cases stepped
    exact .frame (.same rfl rfl rfl rfl) rfl rfl rfl
  | create =>
    simp only [newStep] at stepped
    split at stepped <;> cases stepped
    refine .register rfl rfl (fun v => ?_) rfl rfl fun _ => rfl
    by_cases here : v = r.envCount
    · subst here
      simp [WasmEnvironment.empty]
    · simp [here]
  | done => cases stepped

theorem Thread.step_lists {r r' : Runtime} {th th' : Thread} {input : Input}
    (stepped : th.step r input = some (.next r' th')) : ListStep r r' input th th' := by
  cases th <;> simp only [Thread.step, Option.map_eq_some'] at stepped <;>
    obtain ⟨outcome, stepped, mapped⟩ := stepped <;> cases outcome <;> cases mapped
  · exact useStep_lists stepped
  · exact addStep_lists stepped
  · exact removeStep_lists stepped
  · exact newStep_lists stepped

/-! ## Runs in which no list changes under a lock dance -/

/-- The event may follow `s` when no list changes under another call's lock dance: a step
that changes an environment's list comes while no call other than the stepping one is
between its snapshot and its trim on that environment. -/
def World.quietNext (s : World) : Event → Bool
  | .spawn _ => true
  | .step t input =>
    match s.threads[t]? with
    | none => true
    | some th =>
      match th.changesList input with
      | none => true
      | some w => decide (s.threads.countP (·.pendingOn w) ≤ if th.pendingOn w then 1 else 0)

/-- The worlds reached by schedules in which no call changes an environment's list while
another call's `removeInstance` on it is between its snapshot and its trim. -/
abbrev QuietReachable : World → Prop := ReachableWhen World.quietNext

@[simp] theorem Call.start_pending (c : Call) : c.start.pending? = none := by cases c <;> rfl

@[simp] theorem Call.start_trimmed (c : Call) : c.start.trimmed? = none := by cases c <;> rfl

theorem Thread.env_of_pending {th : Thread} {w inst : Nat}
    (pending : th.pending? = some (w, inst)) : th.call.env? = some w := by
  unfold Thread.pending? at pending
  split at pending <;> cases pending <;> rfl

theorem Thread.mem_insts_of_trimmed {th : Thread} {i : Nat} (trimmed : th.trimmed? = some i) :
    i ∈ th.insts := by
  unfold Thread.trimmed? at trimmed
  split at trimmed <;> cases trimmed <;> simp [Thread.insts, RemovePc.insts]

theorem mem_set_of_ne {α : Type} {l : List α} {t : Nat} (below : t < l.length) {a x : α}
    (mem : a ∈ l) (other : a ≠ l[t]) : a ∈ l.set t x := by
  obtain ⟨j, belowJ, rfl⟩ := List.mem_iff_getElem.mp mem
  have moved : t ≠ j := by
    rintro rfl
    exact other rfl
  exact List.mem_iff_getElem.mpr ⟨j, by simpa using belowJ, List.getElem_set_ne moved _⟩

/-- A step taken while no other call is in a lock dance on `w`, after which the stepping call
is in none, leaves no call in one. -/
theorem quiet_after {threads : List Thread} {t : Nat} (below : t < threads.length) {w : Nat}
    {th' : Thread}
    (quiet : threads.countP (·.pendingOn w) ≤ if threads[t].pendingOn w then 1 else 0)
    (off : th'.pending? = none) :
    ∀ u ∈ threads.set t th', ∀ v inst, u.pending? = some (v, inst) → v ≠ w := by
  have moved := countP_set_moves below (·.pendingOn w) th'
  have idle : th'.pendingOn w = false := by simp [Thread.pendingOn, off]
  have none : (threads.set t th').countP (·.pendingOn w) = 0 := by
    by_cases busy : threads[t].pendingOn w = true <;>
      simp only [busy, idle, Bool.false_eq_true, ↓reduceIte] at quiet moved <;> omega
  rintro u m v inst pend rfl
  simpa [Thread.pendingOn_of_pending pend] using List.countP_eq_zero.mp none u m

/-- A call that has trimmed an instance and is not the stepping call is still running after
the step. -/
theorem mem_set_of_trimmed {threads : List Thread} {t : Nat} (below : t < threads.length)
    {th' u : Thread} (idle : threads[t].trimmed? = none) (running : u ∈ threads) {i : Nat}
    (trimmed : u.trimmed? = some i) : u ∈ threads.set t th' :=
  mem_set_of_ne below running fun same => by
    rw [same, idle] at trimmed
    cases trimmed

/-- What holds in every such world: a `removeInstance` call between its snapshot and its
trim still finds its instance last, every listed instance is open, every open instance is
listed or is being torn down by the call that trimmed it, no instance is listed by two
environments, and a trimmed instance is listed by none. A trimmed instance keeps its
`access` until its call drops it and its engine instance until its call closes it, and no
two calls have trimmed the same instance. -/
structure World.RemoveInv (s : World) : Prop where
  pending : ∀ th ∈ s.threads, ∀ w inst, th.pending? = some (w, inst) →
    (s.envs w).lastInstance = some inst
  listedOpen : ∀ w < s.envCount, ∀ i ∈ (s.envs w).instances, (s.insts i).isOpen = true
  openListed : ∀ i < s.instCount, (s.insts i).isOpen = true →
    (∃ w < s.envCount, i ∈ (s.envs w).instances) ∨ ∃ th ∈ s.threads, th.trimmed? = some i
  home : ∀ w < s.envCount, ∀ v < s.envCount, ∀ i ∈ (s.envs w).instances,
    i ∈ (s.envs v).instances → w = v
  unlisted : ∀ th ∈ s.threads, ∀ i, th.trimmed? = some i →
    ∀ w < s.envCount, i ∉ (s.envs w).instances
  teardown : ∀ th ∈ s.threads, ∀ i, th.trimmed? = some i →
    (s.insts i).access = true ∧ ((s.insts i).wasmerInst = true ∨ th.closed? = some i)
  trimmers : ∀ i, s.threads.countP (·.trimmed? = some i) ≤ 1

/-- A step that leaves an instance's engine instance and `access` alone keeps what a call
tearing it down finds there. -/
theorem WasmInstance.teardown_congr {x y : WasmInstance} (same : y.flags = x.flags)
    {closed : Prop} (was : x.access = true ∧ (x.wasmerInst = true ∨ closed)) :
    y.access = true ∧ (y.wasmerInst = true ∨ closed) := by
  simp only [WasmInstance.flags, Prod.mk.injEq] at same
  rwa [same.1, same.2]

/-- Two calls at different positions that both satisfy `p` count twice. -/
theorem two_le_countP {threads : List Thread} {t j : Nat} (below : t < threads.length)
    (belowJ : j < threads.length) (other : j ≠ t) {p : Thread → Bool}
    (idle : p (.newEnvironment .done) = false) (here : p threads[t] = true)
    (there : p threads[j] = true) : 2 ≤ threads.countP p := by
  have moved := countP_set_moves below p (.newEnvironment .done)
  have still : 0 < (threads.set t (.newEnvironment .done)).countP p :=
    List.countP_pos_iff.mpr ⟨_, List.getElem_mem (by simpa using belowJ),
      by rwa [List.getElem_set_ne other.symm]⟩
  simp only [here, idle, if_true, Bool.false_eq_true, if_false] at moved
  omega

/-- A step after which its call satisfies `p` only if it did before counts no more calls. -/
theorem countP_set_le {threads : List Thread} {t : Nat} (below : t < threads.length)
    {p : Thread → Bool} {th' : Thread} (kept : p th' = true → p threads[t] = true) :
    (threads.set t th').countP p ≤ threads.countP p := by
  have moved := countP_set_moves below p th'
  cases now : p th' with
  | false =>
    simp only [now, Bool.false_eq_true, if_false] at moved
    split at moved <;> omega
  | true =>
    simp only [now, kept now, if_true] at moved
    omega

/-- A step that leaves the stepping call out of any lock dance, and changes no list but `w`'s
while no call is in a lock dance on `w`, keeps each call in its lock dance finding its
instance last. -/
theorem World.RemoveInv.pending_kept {s : World} (rinv : s.RemoveInv) {t : Nat} {th' : Thread}
    {r' : Runtime} {w : Nat} (off : th'.pending? = none)
    (others : ∀ v, v ≠ w → (r'.envs v).instances = (s.envs v).instances)
    (away : ∀ u ∈ s.threads.set t th', ∀ v inst, u.pending? = some (v, inst) → v ≠ w) :
    ∀ u ∈ s.threads.set t th', ∀ v inst, u.pending? = some (v, inst) →
      (r'.envs v).lastInstance = some inst := by
  intro u m v inst pend
  rcases List.mem_or_eq_of_mem_set m with old | rfl
  · simpa [WasmEnvironment.lastInstance, others v (away u m v inst pend)] using
      rinv.pending u old v inst pend
  · simp [off] at pend

/-- A step that trims nothing new keeps every instance trimmed by at most one call. -/
theorem World.RemoveInv.trimmers_kept {s : World} (rinv : s.RemoveInv) {t : Nat}
    (below : t < s.threads.length) {th' : Thread}
    (kept : th'.trimmed? = s.threads[t].trimmed? ∨ th'.trimmed? = none) (i : Nat) :
    (s.threads.set t th').countP (·.trimmed? = some i) ≤ 1 :=
  (countP_set_le below fun now => by rcases kept with same | none <;> simp_all).trans
    (rinv.trimmers i)

namespace World.RemoveInv

variable {s : World} (rinv : s.RemoveInv) (inv : s.Inv)
  (registered : ∀ th ∈ s.threads, ∀ w ∈ th.call.env?, w < s.envCount)
  {t : Nat} (below : t < s.threads.length) {th' : Thread} {r' : Runtime}
include rinv inv registered below

/-- `addInstance` appends the instance it built, while no call is in a lock dance on `w`. -/
theorem append {w : Nat} (thread : s.threads[t] = .addInstance w (.init .idle))
    (thread' : th' = .addInstance w (.done false))
    (appended : ∀ v, (r'.envs v).instances =
      if v = w then (s.envs v).instances ++ [s.instCount] else (s.envs v).instances)
    (count : r'.envCount = s.envCount) (built : r'.instCount = s.instCount + 1)
    (fresh : (r'.insts s.instCount).isOpen = true)
    (others : ∀ i, i ≠ s.instCount → (r'.insts i).flags = (s.insts i).flags)
    (quiet : s.threads.countP (·.pendingOn w) ≤ if s.threads[t].pendingOn w then 1 else 0) :
    ({ s with toRuntime := r', threads := s.threads.set t th' } : World).RemoveInv := by
  have running := List.getElem_mem below
  have off : th'.pending? = none := by rw [thread']; rfl
  have idle : s.threads[t].trimmed? = none := by rw [thread]; rfl
  have home : w < s.envCount := registered _ running w (by rw [thread]; rfl)
  have listed : ∀ v i, i ∈ (r'.envs v).instances →
      i ∈ (s.envs v).instances ∨ (v = w ∧ i = s.instCount) := fun v i mem => by
    rw [appended] at mem
    split at mem
    · simpa [*] using mem
    · exact .inl mem
  have unbuilt : ∀ v i, i ∈ (s.envs v).instances → i ≠ s.instCount :=
    fun v i mem => (inv.allocated.listed v i mem).ne
  have trimmedBuilt : ∀ u ∈ s.threads, ∀ i, u.trimmed? = some i → i ≠ s.instCount :=
    fun u old i trimmed => (inv.pointers u old i (Thread.mem_insts_of_trimmed trimmed)).ne
  refine ⟨rinv.pending_kept off (fun v other => by simp [appended, other])
      (quiet_after below quiet off), fun v below' i mem => ?_, fun i below' open_ => ?_,
    fun v below' v' below'' i mem mem' => ?_, fun u m i trimmed v below' mem => ?_,
    fun u m i trimmed => ?_, rinv.trimmers_kept below (.inr (by rw [thread']; rfl))⟩
  · rcases listed v i mem with old | ⟨-, rfl⟩
    · exact (WasmInstance.isOpen_congr (others i (unbuilt v i old))).trans
        (rinv.listedOpen v (count ▸ below') i old)
    · exact fresh
  · by_cases new : i = s.instCount
    · subst new
      exact .inl ⟨w, count ▸ home, by simp [appended]⟩
    · rw [WasmInstance.isOpen_congr (others i new)] at open_
      have grown : i < s.instCount + 1 := built ▸ below'
      rcases rinv.openListed i (by omega) open_ with ⟨v, below'', mem⟩ | ⟨u, old, trimmed⟩
      · exact .inl ⟨v, count ▸ below'', by rw [appended]; split <;> simp [mem]⟩
      · exact .inr ⟨u, mem_set_of_trimmed below idle old trimmed, trimmed⟩
  · rcases listed v i mem with old | ⟨rfl, new⟩ <;>
      rcases listed v' i mem' with old' | ⟨rfl, new'⟩
    · exact rinv.home v (count ▸ below') v' (count ▸ below'') i old old'
    · exact absurd new' (unbuilt v i old)
    · exact absurd new (unbuilt v' i old')
    · rfl
  · rcases List.mem_or_eq_of_mem_set m with old | rfl
    · rcases listed v i mem with old' | ⟨-, rfl⟩
      · exact rinv.unlisted u old i trimmed v (count ▸ below') old'
      · exact trimmedBuilt u old _ trimmed rfl
    · simp [thread', Thread.trimmed?] at trimmed
  · rcases List.mem_or_eq_of_mem_set m with old | rfl
    · exact WasmInstance.teardown_congr (others i (trimmedBuilt u old i trimmed))
        (rinv.teardown u old i trimmed)
    · simp [thread', Thread.trimmed?] at trimmed

/-- `removeInstance` trims the instance it took, while no other call is in a lock dance on
`w`. -/
theorem trim {w inst : Nat} (thread : s.threads[t] = .removeInstance w (.trim inst))
    (thread' : th' = .removeInstance w (.close inst))
    (trimmed : ∀ v, (r'.envs v).instances =
      if v = w then (s.envs v).instances.dropLast else (s.envs v).instances)
    (count : r'.envCount = s.envCount) (built : r'.instCount = s.instCount)
    (flags : ∀ i, (r'.insts i).flags = (s.insts i).flags)
    (quiet : s.threads.countP (·.pendingOn w) ≤ if s.threads[t].pendingOn w then 1 else 0) :
    ({ s with toRuntime := r', threads := s.threads.set t th' } : World).RemoveInv := by
  have running := List.getElem_mem below
  have off : th'.pending? = none := by rw [thread']; rfl
  have idle : s.threads[t].trimmed? = none := by rw [thread]; rfl
  have home : w < s.envCount := registered _ running w (by rw [thread]; rfl)
  have last := rinv.pending _ running w inst (by rw [thread]; rfl)
  have listedInst := WasmEnvironment.mem_of_lastInstance last
  have parts := List.dropLast_append_getLast? inst last
  have shrunk : ∀ v i, i ∈ (r'.envs v).instances → i ∈ (s.envs v).instances := fun v i mem => by
    rw [trimmed] at mem
    split at mem
    · exact (List.dropLast_sublist _).subset mem
    · exact mem
  have gone : ∀ v < s.envCount, inst ∉ (r'.envs v).instances := fun v below' mem => by
    by_cases here : v = w
    · subst here
      rw [trimmed, if_pos rfl] at mem
      have nodup := inv.nodup v
      rw [← parts] at nodup
      exact List.disjoint_of_nodup_append nodup mem (List.mem_singleton_self _)
    · rw [trimmed, if_neg here] at mem
      exact here (rinv.home w home v below' inst listedInst mem).symm
  have open_ := rinv.listedOpen w home inst listedInst
  simp only [WasmInstance.isOpen, Bool.and_eq_true] at open_
  refine ⟨rinv.pending_kept off (fun v other => by simp [trimmed, other])
      (quiet_after below quiet off), fun v below' i mem => ?_, fun i below' open_ => ?_,
    fun v below' v' below'' i mem mem' => ?_, fun u m i trimmed' v below' mem => ?_,
    fun u m i trimmed' => ?_, fun i => ?_⟩
  · rw [WasmInstance.isOpen_congr (flags i)]
    exact rinv.listedOpen v (count ▸ below') i (shrunk v i mem)
  · rw [WasmInstance.isOpen_congr (flags i)] at open_
    rcases rinv.openListed i (built ▸ below') open_ with ⟨v, below'', mem⟩ | ⟨u, old, trimmedU⟩
    · by_cases here : v = w
      · subst here
        rw [← parts, List.mem_append, List.mem_singleton] at mem
        rcases mem with left | rfl
        · exact .inl ⟨v, count ▸ below'', by simp [trimmed, left]⟩
        · exact .inr ⟨th', List.mem_set _ _ below _, by rw [thread']; rfl⟩
      · exact .inl ⟨v, count ▸ below'', by simp [trimmed, here, mem]⟩
    · exact .inr ⟨u, mem_set_of_trimmed below idle old trimmedU, trimmedU⟩
  · exact rinv.home v (count ▸ below') v' (count ▸ below'') i (shrunk v i mem) (shrunk v' i mem')
  · rcases List.mem_or_eq_of_mem_set m with old | rfl
    · exact rinv.unlisted u old i trimmed' v (count ▸ below') (shrunk v i mem)
    · obtain rfl : i = inst := by simpa [thread', Thread.trimmed?] using trimmed'.symm
      exact gone v (count ▸ below') mem
  · rcases List.mem_or_eq_of_mem_set m with old | rfl
    · exact WasmInstance.teardown_congr (flags i) (rinv.teardown u old i trimmed')
    · obtain rfl : i = inst := by simpa [thread', Thread.trimmed?] using trimmed'.symm
      exact WasmInstance.teardown_congr (flags i) ⟨open_.2, .inl open_.1⟩
  · have moved := countP_set_moves below (·.trimmed? = some i) th'
    simp only [idle, reduceCtorEq, decide_False, Bool.false_eq_true, if_false, Nat.add_zero] at moved
    by_cases here : i = inst
    · subst here
      have none : s.threads.countP (·.trimmed? = some i) = 0 :=
        List.countP_eq_zero.mpr fun u old trimmedU =>
          rinv.unlisted u old i (of_decide_eq_true trimmedU) w home listedInst
      dsimp only
      split at moved <;> omega
    · have other : decide (th'.trimmed? = some i) = false := by
        simp [thread', Thread.trimmed?, Ne.symm here]
      simp only [other, Bool.false_eq_true, if_false, Nat.add_zero] at moved
      exact moved ▸ rinv.trimmers i

omit inv in
/-- `newEnvironment` registers an empty environment. -/
theorem register (thread : s.threads[t] = .newEnvironment .create)
    (thread' : th' = .newEnvironment .done)
    (added : ∀ v, (r'.envs v).instances = if v = s.envCount then [] else (s.envs v).instances)
    (count : r'.envCount = s.envCount + 1) (built : r'.instCount = s.instCount)
    (flags : ∀ i, (r'.insts i).flags = (s.insts i).flags) :
    ({ s with toRuntime := r', threads := s.threads.set t th' } : World).RemoveInv := by
  have old' : ∀ v < s.envCount + 1, ∀ i ∈ (r'.envs v).instances,
      v < s.envCount ∧ i ∈ (s.envs v).instances := fun v below' i mem => by
    rw [added] at mem
    split at mem
    · simp at mem
    · exact ⟨by omega, mem⟩
  have off : th'.pending? = none := by rw [thread']; rfl
  have idle : s.threads[t].trimmed? = none := by rw [thread]; rfl
  have away : ∀ u ∈ s.threads.set t th', ∀ v inst, u.pending? = some (v, inst) →
      v ≠ s.envCount := fun u m v inst pend => by
    rcases List.mem_or_eq_of_mem_set m with old | rfl
    · exact (registered u old v (Thread.env_of_pending pend)).ne
    · simp [off] at pend
  refine ⟨rinv.pending_kept off (fun v other => by simp [added, other]) away,
    fun v below' i mem => ?_, fun i below' open_ => ?_,
    fun v below' v' below'' i mem mem' => ?_, fun u m i trimmed v below' mem => ?_,
    fun u m i trimmed => ?_, rinv.trimmers_kept below (.inr (by rw [thread']; rfl))⟩
  · obtain ⟨known, mem⟩ := old' v (count ▸ below') i mem
    rw [WasmInstance.isOpen_congr (flags i)]
    exact rinv.listedOpen v known i mem
  · rw [WasmInstance.isOpen_congr (flags i)] at open_
    rcases rinv.openListed i (built ▸ below') open_ with ⟨v, below'', mem⟩ | ⟨u, old, trimmed⟩
    · exact .inl ⟨v, count ▸ Nat.lt_succ_of_lt below'', by simp [added, below''.ne, mem]⟩
    · exact .inr ⟨u, mem_set_of_trimmed below idle old trimmed, trimmed⟩
  · obtain ⟨known, mem⟩ := old' v (count ▸ below') i mem
    obtain ⟨known', mem'⟩ := old' v' (count ▸ below'') i mem'
    exact rinv.home v known v' known' i mem mem'
  · rcases List.mem_or_eq_of_mem_set m with old | rfl
    · obtain ⟨known, mem⟩ := old' v (count ▸ below') i mem
      exact rinv.unlisted u old i trimmed v known mem
    · simp [thread', Thread.trimmed?] at trimmed
  · rcases List.mem_or_eq_of_mem_set m with old | rfl
    · exact WasmInstance.teardown_congr (flags i) (rinv.teardown u old i trimmed)
    · simp [thread', Thread.trimmed?] at trimmed

omit inv registered in
/-- Any other step changes no list, opens no instance, closes only the instance the
stepping call has trimmed, and leaves that instance's `access` alone until the call drops
it. -/
theorem other (lists : ∀ v, (r'.envs v).instances = (s.envs v).instances)
    (count : r'.envCount = s.envCount) (built : r'.instCount = s.instCount)
    (flags : ∀ i, (r'.insts i).flags = (s.insts i).flags ∨
      s.threads[t].trimmed? = some i ∧ (r'.insts i).isOpen = false)
    (pending : th'.pending? = s.threads[t].pending? ∨ ∃ w inst, s.threads[t].pending? = none ∧
      th'.pending? = some (w, inst) ∧ (s.envs w).lastInstance = some inst)
    (trimmed : th'.trimmed? = s.threads[t].trimmed? ∨ ∃ i, s.threads[t].trimmed? = some i ∧
      th'.trimmed? = none ∧ (r'.insts i).isOpen = false)
    (torn : ∀ i, s.threads[t].trimmed? = some i → th'.trimmed? = some i →
      (r'.insts i).access = (s.insts i).access ∧
        ((r'.insts i).wasmerInst = (s.insts i).wasmerInst ∧ th'.closed? = s.threads[t].closed? ∨
          th'.closed? = some i)) :
    ({ s with toRuntime := r', threads := s.threads.set t th' } : World).RemoveInv := by
  have running := List.getElem_mem below
  have listed : ∀ v i, i ∈ (r'.envs v).instances → i ∈ (s.envs v).instances :=
    fun v i mem => lists v ▸ mem
  have opens : ∀ i, (r'.insts i).isOpen = true → (s.insts i).isOpen = true := fun i open' =>
    (flags i).elim (fun same => (WasmInstance.isOpen_congr same).symm.trans open')
      fun ⟨_, shut⟩ => absurd open' (by simp [shut])
  refine ⟨fun u m v inst pend => ?_, fun v below' i mem => ?_, fun i below' open_ => ?_,
    fun v below' v' below'' i mem mem' => ?_, fun u m i trimmed' v below' mem => ?_,
    fun u m i trimmedU => ?_,
    rinv.trimmers_kept below (trimmed.imp_right fun ⟨_, _, gone, _⟩ => gone)⟩
  · rcases List.mem_or_eq_of_mem_set m with old | rfl
    · simpa [WasmEnvironment.lastInstance, lists] using rinv.pending u old v inst pend
    · rcases pending with same | ⟨w, inst', -, pend', fresh⟩
      · simpa [WasmEnvironment.lastInstance, lists] using rinv.pending _ running v inst (same ▸ pend)
      · obtain ⟨rfl, rfl⟩ := Prod.mk.inj (Option.some.inj (pend'.symm.trans pend))
        simpa [WasmEnvironment.lastInstance, lists] using fresh
  · have was := listed v i mem
    rcases flags i with same | ⟨trimmedI, -⟩
    · exact (WasmInstance.isOpen_congr same).trans (rinv.listedOpen v (count ▸ below') i was)
    · exact absurd was (rinv.unlisted _ running i trimmedI v (count ▸ below'))
  · rcases rinv.openListed i (built ▸ below') (opens i open_) with
      ⟨v, below'', mem⟩ | ⟨u, old, trimmedU⟩
    · exact .inl ⟨v, count ▸ below'', (lists v).symm ▸ mem⟩
    · by_cases stepper : u = s.threads[t]
      · rw [stepper] at trimmedU
        rcases trimmed with same | ⟨i', was, -, closed⟩
        · exact .inr ⟨th', List.mem_set _ _ below _, same.trans trimmedU⟩
        · obtain rfl := Option.some.inj (was.symm.trans trimmedU)
          simp [closed] at open_
      · exact .inr ⟨u, mem_set_of_ne below old stepper, trimmedU⟩
  · exact rinv.home v (count ▸ below') v' (count ▸ below'') i (listed v i mem) (listed v' i mem')
  · have was := listed v i mem
    rcases List.mem_or_eq_of_mem_set m with old | rfl
    · exact rinv.unlisted u old i trimmed' v (count ▸ below') was
    · rcases trimmed with same | ⟨i', -, none, -⟩
      · exact rinv.unlisted _ running i (same ▸ trimmed') v (count ▸ below') was
      · simp [none] at trimmed'
  · obtain ⟨j, belowJ, rfl⟩ := List.mem_iff_getElem.mp m
    have belowJ' : j < s.threads.length := by simpa using belowJ
    by_cases here : t = j
    · subst here
      rw [List.getElem_set_self] at trimmedU ⊢
      rcases trimmed with same | ⟨_, _, gone, _⟩
      · have was := same ▸ trimmedU
        obtain ⟨access, kept⟩ := rinv.teardown _ running i was
        obtain ⟨access', changed⟩ := torn i was trimmedU
        refine ⟨access'.trans access, ?_⟩
        rcases changed with ⟨engine, closed⟩ | closed
        · rwa [engine, closed]
        · exact .inr closed
      · simp [gone] at trimmedU
    · rw [List.getElem_set_ne here] at trimmedU ⊢
      rcases flags i with same | ⟨stepper, -⟩
      · exact WasmInstance.teardown_congr same (rinv.teardown _ (List.getElem_mem belowJ') i trimmedU)
      · have twice := two_le_countP below belowJ' (Ne.symm here) (p := (·.trimmed? = some i)) rfl
          (by simpa using stepper) (by simpa using trimmedU)
        exact absurd (rinv.trimmers i) (by omega)

theorem commit {input : Input}
    (stepped : s.threads[t].step s.toRuntime input = some (.next r' th'))
    (quiet : ∀ w, s.threads[t].changesList input = some w →
      s.threads.countP (·.pendingOn w) ≤ if s.threads[t].pendingOn w then 1 else 0) :
    ({ s with toRuntime := r', threads := s.threads.set t th' } : World).RemoveInv := by
  rcases Thread.step_lists stepped with
    ⟨w, thread, thread', returned, appended, count, built, fresh, others⟩ |
    ⟨w, inst, thread, thread', trimmed, count, built, flags⟩ |
    ⟨thread, thread', added, count, built, flags⟩ |
    ⟨lists, count, built, flags, pending, trimmed, -, torn⟩
  · exact rinv.append inv registered below thread thread' appended count built fresh others
      (quiet w (by rw [thread, returned]; rfl))
  · exact rinv.trim inv registered below thread thread' trimmed count built flags
      (quiet w (by rw [thread]; rfl))
  · exact rinv.register registered below thread thread' added count built flags
  · exact rinv.other below lists count built flags pending trimmed torn

end World.RemoveInv

theorem World.RemoveInv.initial : World.initial.RemoveInv :=
  ⟨fun _ running => (nomatch running), fun _ below => absurd below (Nat.not_lt_zero _),
    fun _ below => absurd below (Nat.not_lt_zero _), fun _ below => absurd below (Nat.not_lt_zero _),
    fun _ running => (nomatch running), fun _ running => (nomatch running),
    fun _ => Nat.zero_le 1⟩

theorem World.RemoveInv.spawn {s : World} (rinv : s.RemoveInv) (c : Call) :
    ({ s with threads := s.threads ++ [c.start] } : World).RemoveInv := by
  refine ⟨fun u m => ?_, rinv.listedOpen, fun i below open_ => ?_, rinv.home, fun u m => ?_,
    fun u m => ?_, fun i => by simpa [List.countP_append] using rinv.trimmers i⟩
  · rcases List.mem_append.mp m with old | fresh
    · exact rinv.pending u old
    · simp [List.mem_singleton.mp fresh]
  · rcases rinv.openListed i below open_ with listed | ⟨u, old, trimmed⟩
    · exact .inl listed
    · exact .inr ⟨u, List.mem_append_left _ old, trimmed⟩
  · rcases List.mem_append.mp m with old | fresh
    · exact rinv.unlisted u old
    · simp [List.mem_singleton.mp fresh]
  · rcases List.mem_append.mp m with old | fresh
    · exact rinv.teardown u old
    · simp [List.mem_singleton.mp fresh]

theorem World.RemoveInv.next {s s' : World} {e : Event} (rinv : s.RemoveInv)
    (reach : Reachable s) (quiet : s.quietNext e = true) (stepped : s.next e = some s') :
    s'.RemoveInv := by
  rcases World.next_guarded stepped with
    ⟨c, -, -, rfl⟩ | ⟨-, t, input, rfl, below, o, threadStepped, rfl⟩
  · exact rinv.spawn c
  · cases o with
    | panic p => exact ⟨rinv.pending, rinv.listedOpen, rinv.openListed, rinv.home, rinv.unlisted,
        rinv.teardown, rinv.trimmers⟩
    | next r' th' =>
      refine rinv.commit (inv_of_reachable reach) (writerInv_of_reachable reach).registered below
        threadStepped fun w changes => ?_
      simpa [World.quietNext, List.getElem?_eq_getElem below, changes] using quiet

theorem removeInv_of_reachable {s : World} (reach : QuietReachable s) : s.RemoveInv := by
  induction reach with
  | initial => exact World.RemoveInv.initial
  | next e quiet reach' stepped ih => exact ih.next reach'.reachable quiet stepped

/-! ## What `removeInstance` takes off a list -/

/-- In a run in which no call changes an environment's list while another call's
`removeInstance` on it is between its snapshot and its trim, `removeInstance` takes off the
list exactly the instance it then closes. A call between its snapshot and its trim still
finds the instance it took last in the list. Every listed instance is open: its engine
instance and its `access` are both set. Every open instance `addInstance` has built is
listed by a registered environment, or is the one a `removeInstance` call has trimmed and
is tearing down: no open instance is dropped from the lists. -/
theorem removeInstance_drops_only_what_it_closes {s : World} (reach : QuietReachable s) :
    (∀ th ∈ s.threads, ∀ w inst, th.pending? = some (w, inst) →
      (s.envs w).lastInstance = some inst) ∧
    (∀ w < s.envCount, ∀ i ∈ (s.envs w).instances,
      (s.insts i).wasmerInst = true ∧ (s.insts i).access = true) ∧
    ∀ i < s.instCount, (s.insts i).wasmerInst = true → (s.insts i).access = true →
      (∃ w < s.envCount, i ∈ (s.envs w).instances) ∨ ∃ th ∈ s.threads, th.trimmed? = some i := by
  have rinv := removeInv_of_reachable reach
  exact ⟨rinv.pending, fun w below i mem => (Bool.and_eq_true _ _).mp (rinv.listedOpen w below i mem),
    fun i below engine access => rinv.openListed i below (by simp [WasmInstance.isOpen, engine, access])⟩

theorem removeInstance_drops_only_what_it_closes_trimmed :
    ∃ s, QuietReachable s ∧ s.threads[3]? = some (.removeInstance 0 (.close 1)) ∧
      (s.envs 0).instances = [0] ∧
      (∀ th ∈ s.threads, ∀ w inst, th.pending? = some (w, inst) →
        (s.envs w).lastInstance = some inst) ∧
      (∀ w < s.envCount, ∀ i ∈ (s.envs w).instances,
        (s.insts i).wasmerInst = true ∧ (s.insts i).access = true) ∧
      ∀ i < s.instCount, (s.insts i).wasmerInst = true → (s.insts i).access = true →
        (∃ w < s.envCount, i ∈ (s.envs w).instances) ∨ ∃ th ∈ s.threads, th.trimmed? = some i := by
  obtain ⟨s, reach, closing, listed⟩ := ReachableWhen.of_run World.quietNext
    (P := fun s => s.threads[3]? = some (.removeInstance 0 (.close 1)) ∧ (s.envs 0).instances = [0])
    (newEnvironmentEvents 0 ++ addInstanceEvents 0 1 ++ addInstanceEvents 0 2 ++
      .spawn (.removeInstance 0) :: List.replicate 4 (.step 3 .tick)) (by decide)
  exact ⟨s, reach, closing, listed, removeInstance_drops_only_what_it_closes reach⟩

/-- One instance. A `removeInstance` call reads instance 0 in step 1, `addInstance` then
appends instance 1, and the call trims instance 1 off the list and closes instance 0. -/
def addDuringRemoveSchedule : List Event :=
  newEnvironmentEvents 0 ++ addInstanceEvents 0 1 ++
    [.spawn (.removeInstance 0), .step 2 .tick] ++ addInstanceEvents 0 3 ++
    List.replicate 6 (.step 2 .tick)

/-- Without the condition `QuietReachable` puts on a schedule, an `addInstance` during a
`removeInstance` leaves the open instance it built in no list, and the list keeps the
closed instance with a nil `access`: a `useInstance` call that selects it panics on its
`Acquire`. -/
theorem add_during_remove_drops_open_instance :
    ∃ s, Reachable s ∧ (s.envs 0).instances = [0] ∧ (s.insts 1).isOpen = true ∧
      (s.insts 0).wasmerInst = false ∧ (s.insts 0).access = false ∧
      (s.run [.spawn (.useInstance 0 7), .step 4 .tick, .step 4 .tick, .step 4 .tick]).map
        (·.crash) = some (some .nilDereference) :=
  Reachable.of_run addDuringRemoveSchedule (by decide)

/-! ## The gate keeps a held instance open -/

@[simp] theorem Call.start_closed (c : Call) : c.start.closed? = none := by cases c <;> rfl

theorem Thread.mem_insts_of_closed {th : Thread} {i : Nat} (closed : th.closed? = some i) :
    i ∈ th.insts := by
  unfold Thread.closed? at closed
  split at closed <;> cases closed <;> simp [Thread.insts, RemovePc.insts]

theorem Thread.mem_insts_of_holds {th : Thread} {i : Nat} (holds : th.holds i = true) :
    i ∈ th.insts := by
  cases th with
  | useInstance w ctx pc => cases pc <;> simp_all [Thread.holds, UsePc.holds, Thread.insts, UsePc.insts]
  | removeInstance w pc =>
    cases pc <;> simp_all [Thread.holds, RemovePc.holds, Thread.insts, RemovePc.insts]
  | addInstance | newEnvironment => simp [Thread.holds] at holds

/-- A call that has trimmed an instance is a `removeInstance` call that holds its gate, at
its `Close`, or has closed it. -/
theorem Thread.trimmed_cases {th : Thread} {i : Nat} (trimmed : th.trimmed? = some i) :
    th.call.removes = true ∧ (th.holds i = true ∨ th.closed? = some i) := by
  unfold Thread.trimmed? at trimmed
  split at trimmed <;> cases trimmed <;> simp [Thread.call, Call.removes, Thread.holds,
    RemovePc.holds, Thread.closed?]

namespace ListStep

variable {r r' : Runtime} {input : Input} {th th' : Thread} (step : ListStep r r' input th th')
  {i : Nat} (built : i < r.instCount)
include step built

theorem closed_stays (shut : (r.insts i).isOpen = false) : (r'.insts i).isOpen = false := by
  rcases step with ⟨-, -, -, -, -, -, -, -, others⟩ | ⟨-, -, -, -, -, -, -, flags⟩ |
    ⟨-, -, -, -, -, flags⟩ | ⟨-, -, -, flags, -, -, -, -⟩
  · rw [WasmInstance.isOpen_congr (others i built.ne), shut]
  · rw [WasmInstance.isOpen_congr (flags i), shut]
  · rw [WasmInstance.isOpen_congr (flags i), shut]
  · rcases flags i with same | ⟨-, shut'⟩
    · rw [WasmInstance.isOpen_congr same, shut]
    · exact shut'

theorem open_stays (open_ : (r.insts i).isOpen = true) :
    (r'.insts i).isOpen = true ∨ th.trimmed? = some i := by
  rcases step with ⟨-, -, -, -, -, -, -, -, others⟩ | ⟨-, -, -, -, -, -, -, flags⟩ |
    ⟨-, -, -, -, -, flags⟩ | ⟨-, -, -, flags, -, -, -, -⟩
  · exact .inl ((WasmInstance.isOpen_congr (others i built.ne)).trans open_)
  · exact .inl ((WasmInstance.isOpen_congr (flags i)).trans open_)
  · exact .inl ((WasmInstance.isOpen_congr (flags i)).trans open_)
  · exact (flags i).imp (fun same => (WasmInstance.isOpen_congr same).trans open_) And.left

omit built in
theorem closed_after (now : th'.closed? = some i) :
    th.closed? = some i ∨ (r'.insts i).isOpen = false := by
  rcases step with ⟨_, -, thread', -⟩ | ⟨_, _, -, thread', -⟩ | ⟨-, thread', -⟩ |
    ⟨-, -, -, -, -, -, shut, -⟩
  · simp [thread', Thread.closed?] at now
  · simp [thread', Thread.closed?] at now
  · simp [thread', Thread.closed?] at now
  · exact shut i now

end ListStep

/-- Every `removeInstance` call past its `Close` has closed its instance. -/
def World.ClosedInv (s : World) : Prop :=
  ∀ th ∈ s.threads, ∀ i, th.closed? = some i → (s.insts i).isOpen = false

theorem World.ClosedInv.commit {s : World} (closed : s.ClosedInv) (inv : s.Inv) {t : Nat}
    (below : t < s.threads.length) {input : Input} {th' : Thread} {r' : Runtime}
    (stepped : s.threads[t].step s.toRuntime input = some (.next r' th')) :
    ({ s with toRuntime := r', threads := s.threads.set t th' } : World).ClosedInv := by
  have step := Thread.step_lists stepped
  have stays : ∀ u ∈ s.threads, ∀ i, u.closed? = some i → (r'.insts i).isOpen = false :=
    fun u old i was => step.closed_stays (inv.pointers u old i (Thread.mem_insts_of_closed was))
      (closed u old i was)
  intro u m i was
  rcases List.mem_or_eq_of_mem_set m with old | rfl
  · exact stays u old i was
  · exact (step.closed_after was).elim (stays _ (List.getElem_mem below) i) id

theorem World.ClosedInv.next {s s' : World} {e : Event} (closed : s.ClosedInv)
    (reach : Reachable s) (stepped : s.next e = some s') : s'.ClosedInv := by
  rcases World.next_cases stepped with
    ⟨c, rfl⟩ | ⟨p, rfl⟩ | ⟨t, below, th', r', _, threadStepped, rfl⟩
  · intro u m i was
    rcases List.mem_append.mp m with old | fresh
    · exact closed u old i was
    · simp [List.mem_singleton.mp fresh] at was
  · exact closed
  · exact closed.commit (inv_of_reachable reach) below threadStepped

theorem closedInv_of_reachable {s : World} (reach : Reachable s) : s.ClosedInv := by
  induction reach with
  | initial => exact fun _ running => (nomatch running)
  | next _ reach' stepped ih => exact ih.next reach' stepped

/-- Over every interleaving, the `access` semaphore keeps an instance open while a call other
than `removeInstance` holds it: no event closes an open instance whose gate such a call
holds. `removeInstance` closes an instance only while it holds the gate, and sets `access`
to nil only after its `Close`. -/
theorem held_instance_stays_open {s s' : World} (reach : Reachable s) {e : Event}
    (stepped : s.next e = some s') {th : Thread} (running : th ∈ s.threads)
    (keeps : th.call.removes = false) {i : Nat} (holds : th.holds i = true)
    (open_ : (s.insts i).isOpen = true) : (s'.insts i).isOpen = true := by
  have inv := inv_of_reachable reach
  rcases World.next_cases stepped with
    ⟨c, rfl⟩ | ⟨p, rfl⟩ | ⟨t, below, th', r', _, threadStepped, rfl⟩
  · exact open_
  · exact open_
  · have built := inv.pointers th running i (Thread.mem_insts_of_holds holds)
    obtain ⟨j, belowJ, rfl⟩ := List.mem_iff_getElem.mp running
    rcases (Thread.step_lists threadStepped).open_stays built open_ with kept | trimmed
    · exact kept
    · obtain ⟨removes, closing | closedI⟩ := Thread.trimmed_cases trimmed
      · have other : j ≠ t := by
          rintro rfl
          simp [removes] at keeps
        simp [inv.holds_eq_false belowJ below other closing] at holds
      · simp [closedInv_of_reachable reach _ (List.getElem_mem below) i closedI] at open_

theorem held_instance_stays_open_waiting_remove :
    ∃ s s', Reachable s ∧ s.next (.step 2 (.guestReturns true)) = some s' ∧
      s.threads[2]? = some (.useInstance 0 7 (.run 0 0 5 .idle)) ∧
      s.threads[3]? = some (.removeInstance 0 (.acquire 0)) ∧
      (s.insts 0).isOpen = true ∧ (s'.insts 0).isOpen = true := by
  obtain ⟨s, reach, third, fourth, open_, next⟩ := Reachable.of_run
    (P := fun s => s.threads[2]? = some (.useInstance 0 7 (.run 0 0 5 .idle)) ∧
      s.threads[3]? = some (.removeInstance 0 (.acquire 0)) ∧ (s.insts 0).isOpen = true ∧
      (s.next (.step 2 (.guestReturns true))).isSome)
    (newEnvironmentEvents 0 ++ addInstanceEvents 0 1 ++ enterInstFuncEvents 0 7 2 5 ++
      [.spawn (.removeInstance 0), .step 3 .tick]) (by decide)
  obtain ⟨s', stepped⟩ := Option.isSome_iff_exists.mp next
  exact ⟨s, s', reach, stepped, third, fourth, open_,
    held_instance_stays_open reach stepped (List.getElem?_mem third) rfl rfl open_⟩

/-! ## `removeInstance` does not panic in a quiet run -/

/-- Where a step of `removeInstance` panics: taking the gate of an instance whose `access` is
nil, trimming an empty list, closing an instance whose engine instance is nil, or releasing
the gate of an instance whose `access` is nil or that no call holds. -/
theorem removeStep_panic {r : Runtime} {w : Nat} {pc : RemovePc} {p : GoPanic}
    (panicked : removeStep r w pc = some (.panic p)) :
    (∃ inst, pc = .acquire inst ∧ (r.insts inst).access = false) ∨
    (∃ inst, pc = .trim inst ∧ (r.envs w).instances = []) ∨
    (∃ inst, pc = .close inst ∧ (r.insts inst).wasmerInst = false) ∨
    ∃ inst, pc = .release inst ∧ ((r.insts inst).access = false ∨ (r.insts inst).gate = 0) := by
  cases pc with
  | snapshot =>
    obtain ⟨_, -, stepped⟩ := Option.map_eq_some'.mp panicked
    split at stepped <;> cases stepped
  | acquire inst =>
    obtain ⟨acquired, gotten, stepped⟩ := Option.map_eq_some'.mp panicked
    cases acquired <;> cases stepped
    unfold acquireGate at gotten
    split at gotten
    next =>
      obtain ⟨_, -, nope⟩ := Option.map_eq_some'.mp gotten
      cases nope
    next nil => exact .inl ⟨inst, rfl, Bool.eq_false_iff.mpr nil⟩
  | lock inst =>
    obtain ⟨_, -, stepped⟩ := Option.map_eq_some'.mp panicked
    cases stepped
  | trim inst =>
    simp only [removeStep] at panicked
    split at panicked
    next =>
      split at panicked
      next _ failed =>
        refine .inr (.inl ⟨inst, rfl, ?_⟩)
        by_contra nonempty
        rw [WasmEnvironment.trim_ok nonempty] at failed
        cases failed
      next => cases panicked
    next => cases panicked
  | close inst =>
    simp only [removeStep] at panicked
    split at panicked
    next => cases panicked
    next nil => exact .inr (.inr (.inl ⟨inst, rfl, Bool.eq_false_iff.mpr nil⟩))
  | release inst =>
    simp only [removeStep] at panicked
    split at panicked
    next =>
      split at panicked
      next _ released =>
        refine .inr (.inr (.inr ⟨inst, rfl, .inr ?_⟩))
        unfold releaseGate semRelease at released
        split at released
        next => omega
        next => cases released
      next => cases panicked
    next nil => exact .inr (.inr (.inr ⟨inst, rfl, .inl (Bool.eq_false_iff.mpr nil)⟩))
  | dropAccess inst => cases panicked
  | done => cases panicked

/-- In a run in which no call changes an environment's list while another call's
`removeInstance` on it is between its snapshot and its trim, no step of `removeInstance`
panics: the instance it takes still has its `access`, the list it trims is not empty, and
the instance it closes and releases still has its engine instance, its `access` and the
weight the call took. -/
theorem removeInstance_never_panics {s : World} (reach : QuietReachable s) {w : Nat}
    {pc : RemovePc} (running : .removeInstance w pc ∈ s.threads) (input : Input) (p : GoPanic) :
    (Thread.removeInstance w pc).step s.toRuntime input ≠ some (.panic p) := by
  have rinv := removeInv_of_reachable reach
  have home : w < s.envCount := (writerInv_of_reachable reach.reachable).registered _ running w rfl
  intro panicked
  obtain ⟨o, stepped, mapped⟩ := Option.map_eq_some'.mp panicked
  cases o with
  | next => cases mapped
  | panic q =>
    rcases removeStep_panic stepped with ⟨inst, rfl, nil⟩ | ⟨inst, rfl, empty⟩ |
      ⟨inst, rfl, nil⟩ | ⟨inst, rfl, nil | free⟩
    · have open_ := rinv.listedOpen w home inst
        (WasmEnvironment.mem_of_lastInstance (rinv.pending _ running w inst rfl))
      simp [WasmInstance.isOpen, nil] at open_
    · simpa [WasmEnvironment.lastInstance, empty] using rinv.pending _ running w inst rfl
    · simpa [nil, Thread.closed?] using rinv.teardown _ running inst rfl
    · simpa [nil] using (rinv.teardown _ running inst rfl).1
    · have held : 0 < s.threads.countP (·.holds inst) :=
        List.countP_pos_iff.mpr ⟨_, running, by simp [Thread.holds, RemovePc.holds]⟩
      have counted := (inv_of_reachable reach.reachable).counted inst
      omega

theorem removeInstance_never_panics_closing :
    ∃ s, QuietReachable s ∧ .removeInstance 0 (.close 1) ∈ s.threads ∧
      ∀ p, (Thread.removeInstance 0 (.close 1)).step s.toRuntime .tick ≠ some (.panic p) := by
  obtain ⟨s, reach, closing⟩ := ReachableWhen.of_run World.quietNext
    (P := fun s => Thread.removeInstance 0 (.close 1) ∈ s.threads)
    (newEnvironmentEvents 0 ++ addInstanceEvents 0 1 ++ addInstanceEvents 0 2 ++
      .spawn (.removeInstance 0) :: List.replicate 4 (.step 3 .tick)) (by decide)
  exact ⟨s, reach, closing, removeInstance_never_panics reach closing .tick⟩

end ReactrWasm
