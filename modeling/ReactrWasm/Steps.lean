import ReactrWasm.Interleaving
import ReactrWasm.RoundRobin

/-!
# What one step of a call can do

Every invariant of the interleaving follows from what one step of one call can
do to the shared state. This module says it once per call (`hostStep_facts`,
`useStep_facts`, `addStep_facts`, `removeStep_facts`, `newStep_facts`,
assembled in `Thread.step_facts`):
* `Footprint`: the instances a step writes and points to, and how instance
  lists change: a list shrinks to a sublist or gets the instance just built;
* `GateMove`: each gate's weight moves by what the call took or gave back;
* `SyncMove`: a registry entry, the writer of a `w.lock` and the writer of
  `envLock` each stay with the call that holds them or pass to the stepping
  call (`Keeps`); `envLock`'s readers move by the host call that takes or
  leaves its read lock; and a `w.lock` never keeps a reader, since every
  `RLock` of it is released in the same step;
* `EnvMove`: an environment's list and cursor stay as they were, or change
  as one whole call changes them (`seqStep`), or are registered empty;
* `CtxMove`: only the holder of an instance's gate writes its `ctx`, and a
  `useInstance` call that has set its `ctx` set it in this step or before.

`World.next_cases` says the same of a whole world: an event starts a call,
records a panic, or commits one call's step.
-/

namespace ReactrWasm

/-! ## What a call points to and holds -/

/-- The instances a host call points to. -/
def HostPc.insts : HostPc → List Nat
  | .check inst _ | .body inst => [inst]
  | .idle | .envRLock .. | .index .. => []

/-- The instances a `useInstance` call points to from its locals. -/
def UsePc.insts : UsePc → List Nat
  | .acquire _ inst | .draw _ inst | .store _ inst _ | .setup _ inst _ | .clear _ inst _
  | .removeIdent _ inst _ | .release inst _ => [inst]
  | .run _ inst _ host => inst :: host.insts
  | .lock | .select | .done _ => []

def AddPc.insts : AddPc → List Nat
  | .newInstance host | .start host | .init host => host.insts
  | .lock | .instantiate | .done _ => []

def RemovePc.insts : RemovePc → List Nat
  | .acquire inst | .lock inst | .trim inst | .close inst | .release inst | .dropAccess inst =>
    [inst]
  | .snapshot | .done => []

def Thread.insts : Thread → List Nat
  | .useInstance _ _ pc => pc.insts
  | .addInstance _ pc => pc.insts
  | .removeInstance _ pc => pc.insts
  | .newEnvironment _ => []

/-- `useInstance` holds the gate of `inst` from its `Acquire` to its deferred `Release`. -/
def UsePc.holds : UsePc → Nat → Bool
  | .draw _ inst, i | .store _ inst _, i | .setup _ inst _, i | .run _ inst _ _, i
  | .clear _ inst _, i | .removeIdent _ inst _, i | .release inst _, i => inst == i
  | _, _ => false

/-- `removeInstance` holds the gate of `inst` from step 2 to its `Release`. -/
def RemovePc.holds : RemovePc → Nat → Bool
  | .lock inst, i | .trim inst, i | .close inst, i | .release inst, i => inst == i
  | _, _ => false

def Thread.holds : Thread → Nat → Bool
  | .useInstance _ _ pc, i => pc.holds i
  | .removeInstance _ pc, i => pc.holds i
  | .addInstance .., _ | .newEnvironment _, _ => false

/-- The identifier a `useInstance` call has stored and not yet deleted, with the slot it
stored: from the return of `setupNewIdentifier` to `removeIdentifier`. -/
def Thread.liveIdent : Thread → Option (Int32 × InstanceReference)
  | .useInstance w _ (.setup instIndex _ ident) | .useInstance w _ (.run instIndex _ ident _)
  | .useInstance w _ (.clear instIndex _ ident)
  | .useInstance w _ (.removeIdent instIndex _ ident) => some (ident, ⟨w, instIndex⟩)
  | _ => none

/-- The `ctx` a `useInstance` call has set on an instance and not yet cleared: from the
return of its `setup` to its `clear`. -/
def Thread.ctxOn : Thread → Nat → Option Ctx
  | .useInstance _ ctx (.run _ inst _ _), i | .useInstance _ ctx (.clear _ inst _), i =>
    if inst = i then some ctx else none
  | _, _ => none

/-- The call holds `w.lock` for writing: `useInstance` until it has selected, `addInstance`
until it returns, `removeInstance` in step 3. -/
def Thread.writes : Thread → Nat → Bool
  | .useInstance w _ .select, v | .addInstance w .instantiate, v
  | .addInstance w (.newInstance _), v | .addInstance w (.start _), v
  | .addInstance w (.init _), v | .removeInstance w (.trim _), v => w == v
  | _, _ => false

/-- `newEnvironment` holds `envLock` for writing. -/
def Thread.creating : Thread → Bool
  | .newEnvironment .create => true
  | _ => false

/-- The host call the call's guest code has in progress; `idle` when there is none. -/
def Thread.hostCall : Thread → HostPc
  | .useInstance _ _ (.run _ _ _ host) | .addInstance _ (.newInstance host)
  | .addInstance _ (.start host) | .addInstance _ (.init host) => host
  | _ => .idle

/-- A host call holds `envLock` for reading from its `RLock` to its deferred `RUnlock`. -/
def HostPc.readsEnvLock : HostPc → Bool
  | .index .. | .check .. => true
  | _ => false

@[simp] theorem Call.start_insts (c : Call) : c.start.insts = [] := by cases c <;> rfl

@[simp] theorem Call.start_holds (c : Call) (i : Nat) : c.start.holds i = false := by
  cases c <;> rfl

/-- A call that has not started holds no lock, no identifier and no read lock. -/
@[simp] theorem Call.start_writes (c : Call) (w : Nat) : c.start.writes w = false := by
  cases c <;> rfl

@[simp] theorem Call.start_creating (c : Call) : c.start.creating = false := by cases c <;> rfl

@[simp] theorem Call.start_hostCall (c : Call) : c.start.hostCall = .idle := by cases c <;> rfl

@[simp] theorem Call.start_liveIdent (c : Call) : c.start.liveIdent = none := by cases c <;> rfl

@[simp] theorem Call.start_ctxOn (c : Call) (i : Nat) : c.start.ctxOn i = none := by
  cases c <;> rfl

/-- A call that has set its `ctx` on an instance holds its gate and points to it. -/
theorem Thread.holds_of_ctxOn {th : Thread} {i : Nat} {c : Ctx} (set : th.ctxOn i = some c) :
    th.holds i = true ∧ i ∈ th.insts := by
  unfold Thread.ctxOn at set
  split at set
  iterate 2
    · split at set
      · subst_vars
        exact ⟨beq_self_eq_true _, List.mem_cons_self _ _⟩
      · cases set
  · cases set

/-! ## What one step can do -/

/-- Every instance an environment lists has been built, and no instance past `instCount`
has been touched. -/
structure Runtime.Allocated (r : Runtime) : Prop where
  listed : ∀ w, ∀ i ∈ (r.envs w).instances, i < r.instCount
  unbuilt : ∀ i, r.instCount ≤ i → r.insts i = WasmInstance.fresh

/-- What one step of a call that points to `before` and then to `after` can do to the heap
of instances: build one instance at `instCount`, write only instances it points to, take
new pointers only from an instance list, and shrink lists or append the instance built. -/
structure Footprint (r r' : Runtime) (before after : List Nat) : Prop where
  built : r'.instCount = r.instCount ∨ r'.instCount = r.instCount + 1
  writes : ∀ i, i ∉ before → r'.insts i = r.insts i ∨
    (i = r.instCount ∧ r'.instCount = r.instCount + 1 ∧ r'.insts i = WasmInstance.fresh)
  pointers : ∀ i ∈ after, i ∈ before ∨ (∃ w, i ∈ (r.envs w).instances) ∨
    (i = r.instCount ∧ r'.instCount = r.instCount + 1)
  lists : ∀ w, (r'.envs w).instances.Sublist (r.envs w).instances ∨
    ((r'.envs w).instances = (r.envs w).instances ++ [r.instCount] ∧
      r'.instCount = r.instCount + 1)

/-- What one step of a call that held the gates `before` and holds `after` does to the
gates: each weight moves by what the call took or gave back, and a gate is taken only
when free. -/
structure GateMove (r r' : Runtime) (before after : Nat → Bool) : Prop where
  weight : ∀ i, (r'.insts i).gate + (if before i then 1 else 0) =
    (r.insts i).gate + (if after i then 1 else 0)
  free : ∀ i, after i = true → before i = false → (r.insts i).gate = 0

/-- A flag set after the step was set before and stays with the stepping call if that
call held it, or the stepping call holds it now. -/
def Keeps (flag flag' held held' : Prop) : Prop := flag' → flag ∧ (held → held') ∨ held'

/-- What one step of a call does to the registry and to the locks of the environments. -/
structure SyncMove (r r' : Runtime) (th th' : Thread) : Prop where
  registry : ∀ ident ref, Keeps (r.instanceMapper ident = some ref)
    (r'.instanceMapper ident = some ref) (th.liveIdent = some (ident, ref))
    (th'.liveIdent = some (ident, ref))
  writers : ∀ w, Keeps ((r.envs w).lock.writer = true) ((r'.envs w).lock.writer = true)
    (th.writes w = true) (th'.writes w = true)
  creator : Keeps (r.envLock.writer = true) (r'.envLock.writer = true) (th.creating = true)
    (th'.creating = true)
  readers : ∀ w, (r.envs w).lock.readers = 0 → (r'.envs w).lock.readers = 0
  envReaders : (th.hostCall.readsEnvLock = true → 1 ≤ r.envLock.readers) →
    r'.envLock.readers + (if th.hostCall.readsEnvLock then 1 else 0) =
      r.envLock.readers + (if th'.hostCall.readsEnvLock then 1 else 0)

/-- What one step of a host call can do: write the instance it resolved, and take or leave
the read lock of `envLock`. -/
structure HostFacts (r r' : Runtime) (host host' : HostPc) : Prop where
  foot : Footprint r r' host.insts host'.insts
  gates : ∀ i, (r'.insts i).gate = (r.insts i).gate
  ctxs : ∀ i, (r'.insts i).ctx = (r.insts i).ctx
  envs : r'.envs = r.envs
  mapper : r'.instanceMapper = r.instanceMapper
  envWriter : r'.envLock.writer = r.envLock.writer
  envReaders : (host.readsEnvLock = true → 1 ≤ r.envLock.readers) →
    r'.envLock.readers + (if host.readsEnvLock then 1 else 0) =
      r.envLock.readers + (if host'.readsEnvLock then 1 else 0)

/-- What one step does to an environment's list and cursor, its lock word aside: nothing,
what one whole call does (`seqStep`), or `newEnvironment`'s registration of an empty one. -/
def EnvMove (e e' : WasmEnvironment) : Prop :=
  e'.contents = e.contents ∨ (∃ call, seqStep e.contents call = some e'.contents) ∨
    e' = WasmEnvironment.empty

/-- What one step does to the `ctx` of the instances: outside the slot it builds, it changes
only the `ctx` of an instance whose gate the call holds, and a call that has set its `ctx` on
an instance set it in this step or had set it before. -/
structure CtxMove (r r' : Runtime) (th th' : Thread) : Prop where
  others : ∀ i, i < r.instCount → th.holds i = false → (r'.insts i).ctx = (r.insts i).ctx
  own : ∀ i c, th'.ctxOn i = some c →
    (r'.insts i).ctx = some c ∨ (th.ctxOn i = some c ∧ (r'.insts i).ctx = (r.insts i).ctx)

/-- What one step of a call from `th` to `th'` can do. -/
structure StepFacts (r r' : Runtime) (th th' : Thread) : Prop where
  foot : Footprint r r' th.insts th'.insts
  gates : GateMove r r' th.holds th'.holds
  sync : SyncMove r r' th th'
  envs : ∀ w, EnvMove (r.envs w) (r'.envs w)
  ctx : CtxMove r r' th th'

section Facts

variable {r r' : Runtime} {before after : List Nat}

theorem Footprint.mem_lists (step : Footprint r r' before after) {w i : Nat}
    (listed : i ∈ (r'.envs w).instances) :
    i ∈ (r.envs w).instances ∨ (i = r.instCount ∧ r'.instCount = r.instCount + 1) := by
  rcases step.lists w with shrunk | ⟨appended, grew⟩
  · exact .inl (shrunk.subset listed)
  · rw [appended, List.mem_append, List.mem_singleton] at listed
    exact listed.imp_right (⟨·, grew⟩)

/-- Valid pointers stay valid across a step. -/
theorem Footprint.allocated (step : Footprint r r' before after) (valid : r.Allocated)
    (held : ∀ i ∈ before, i < r.instCount) :
    r'.Allocated ∧ (∀ i ∈ after, i < r'.instCount) ∧ r.instCount ≤ r'.instCount := by
  have grows : r.instCount ≤ r'.instCount := by rcases step.built with h | h <;> omega
  refine ⟨⟨fun w i listed => ?_, fun i past => ?_⟩, fun i pointed => ?_, grows⟩
  · rcases step.mem_lists listed with old | ⟨rfl, h⟩
    · exact Nat.lt_of_lt_of_le (valid.listed w i old) grows
    · omega
  · have notHeld : i ∉ before := fun mem => by have := held i mem; omega
    rcases step.writes i notHeld with same | ⟨-, -, fresh⟩
    · rw [same, valid.unbuilt i (by omega)]
    · exact fresh
  · rcases step.pointers i pointed with old | ⟨w, listed⟩ | ⟨rfl, h⟩
    · exact Nat.lt_of_lt_of_le (held i old) grows
    · exact Nat.lt_of_lt_of_le (valid.listed w i listed) grows
    · omega

/-- A step that writes no instance and takes new pointers only from instance lists. -/
theorem Footprint.of_frame (insts : r'.insts = r.insts) (count : r'.instCount = r.instCount)
    (lists : ∀ w, (r'.envs w).instances.Sublist (r.envs w).instances)
    (pointers : ∀ i ∈ after, i ∈ before ∨ ∃ w, i ∈ (r.envs w).instances) :
    Footprint r r' before after :=
  ⟨.inl count, fun _ _ => .inl (by rw [insts]), fun i m => (pointers i m).elim .inl (.inr ∘ .inl),
    fun w => .inl (lists w)⟩

/-- A step that writes one instance it points to. -/
theorem Footprint.of_setInst {inst : Nat} {x : WasmInstance} (mem : inst ∈ before)
    (pointers : ∀ i ∈ after, i ∈ before) : Footprint r (r.setInst inst x) before after :=
  ⟨.inl rfl, fun i notMem => .inl (by simp [show i ≠ inst from fun h => notMem (h ▸ mem)]),
    fun i m => .inl (pointers i m), fun _ => .inl (List.Sublist.refl _)⟩

/-- A call that keeps one more pointer across the step. -/
theorem Footprint.cons {x : Nat} (step : Footprint r r' before after) :
    Footprint r r' (x :: before) (x :: after) :=
  ⟨step.built, fun i notMem => step.writes i fun m => notMem (List.mem_cons_of_mem _ m),
    fun i m => by
      rcases List.mem_cons.mp m with rfl | m
      · exact .inl (List.mem_cons_self _ _)
      · exact (step.pointers i m).imp_left (List.mem_cons_of_mem _),
    step.lists⟩

/-- Writing an instance without touching its gate leaves every gate alone. -/
theorem setInst_gate {inst : Nat} {x : WasmInstance} (same : x.gate = (r.insts inst).gate)
    (i : Nat) : ((r.setInst inst x).insts i).gate = (r.insts i).gate := by
  by_cases h : i = inst <;> simp [h, same]

theorem setInst_ctx {inst : Nat} {x : WasmInstance} (same : x.ctx = (r.insts inst).ctx)
    (i : Nat) : ((r.setInst inst x).insts i).ctx = (r.insts i).ctx := by
  by_cases h : i = inst <;> simp [h, same]

/-- A step that leaves every gate and every held gate alone. -/
theorem GateMove.of_gates {held held' : Nat → Bool}
    (gates : ∀ i, (r'.insts i).gate = (r.insts i).gate) (same : held = held') :
    GateMove r r' held held' :=
  ⟨fun i => by rw [gates i, same], fun i now was => by simp_all⟩

/-- Taking the free gate of `inst`. -/
theorem GateMove.acquire {inst : Nat} {held held' : Nat → Bool} (free : (r.insts inst).gate = 0)
    (wasFree : ∀ i, held i = false) (nowHeld : ∀ i, held' i = (inst == i)) :
    GateMove r (r.setInst inst { r.insts inst with gate := 1 }) held held' := by
  refine ⟨fun i => ?_, fun i now _ => ?_⟩ <;> by_cases h : i = inst
  · subst h
    simp [wasFree, nowHeld, free]
  · simp [h, wasFree, nowHeld, Ne.symm h]
  · exact h ▸ free
  · simp [nowHeld, Ne.symm h] at now

/-- Giving back the gate of `inst`. -/
theorem GateMove.release {inst : Nat} {held held' : Nat → Bool} (taken : 1 ≤ (r.insts inst).gate)
    (wasHeld : ∀ i, held i = (inst == i)) (nowFree : ∀ i, held' i = false) :
    GateMove r (r.setInst inst { r.insts inst with gate := (r.insts inst).gate - 1 })
      held held' := by
  refine ⟨fun i => ?_, fun i now _ => by simp_all⟩
  by_cases h : i = inst
  · subst h
    simp [wasHeld, nowFree]
    omega
  · simp [h, wasHeld, nowFree, Ne.symm h]

end Facts

section Sync

variable {r r' : Runtime} {th th' : Thread}

theorem Keeps.of_eq {flag flag' held held' : Prop} (same : flag' → flag) (kept : held → held') :
    Keeps flag flag' held held' :=
  fun now => .inl ⟨same now, kept⟩

theorem Keeps.now {flag flag' held held' : Prop} (holds : flag' → held') :
    Keeps flag flag' held held' :=
  fun now => .inr (holds now)

/-- A registry the step leaves alone, with the call's own entry kept or never held. -/
theorem registry_kept (mapper : r'.instanceMapper = r.instanceMapper)
    (ident : th.liveIdent = none ∨ th.liveIdent = th'.liveIdent) (i : Int32)
    (ref : InstanceReference) :
    Keeps (r.instanceMapper i = some ref) (r'.instanceMapper i = some ref)
      (th.liveIdent = some (i, ref)) (th'.liveIdent = some (i, ref)) :=
  .of_eq (fun now => by rwa [mapper] at now) fun held => by rcases ident with h | h <;> simp_all

/-- A step that leaves the locks of the environments alone, and holds what it held. -/
theorem SyncMove.frame (envs : ∀ w, (r'.envs w).lock = (r.envs w).lock)
    (envLock : r'.envLock = r.envLock)
    (registry : ∀ i ref, Keeps (r.instanceMapper i = some ref) (r'.instanceMapper i = some ref)
      (th.liveIdent = some (i, ref)) (th'.liveIdent = some (i, ref)))
    (held : th.writes = th'.writes ∧ th.creating = th'.creating ∧
      th.hostCall.readsEnvLock = th'.hostCall.readsEnvLock) : SyncMove r r' th th' := by
  obtain ⟨writes, creating, reads⟩ := held
  exact ⟨registry, fun w => .of_eq (by rw [envs]; exact id) (by rw [writes]; exact id),
    .of_eq (by rw [envLock]; exact id) (by rw [creating]; exact id),
    fun w => by rw [envs]; exact id, fun _ => by rw [envLock, reads]⟩

/-- A step that writes environment `w` of `r₀`, a runtime with the locks and registry of
`r`, keeping its readers; a writer it leaves set is the stepping call. -/
theorem SyncMove.setEnv {r₀ : Runtime} {w : Nat} {e : WasmEnvironment}
    (base : r₀.envs = r.envs ∧ r₀.envLock = r.envLock ∧ r₀.instanceMapper = r.instanceMapper)
    (readers : e.lock.readers = (r.envs w).lock.readers)
    (writer : e.lock.writer = true → th'.writes w = true)
    (writes : ∀ v, v ≠ w → th.writes v = th'.writes v)
    (held : th.creating = th'.creating ∧ th.hostCall.readsEnvLock = th'.hostCall.readsEnvLock)
    (ident : th.liveIdent = none) : SyncMove r (r₀.setEnv w e) th th' := by
  obtain ⟨envs, envLock, mapper⟩ := base
  obtain ⟨creating, reads⟩ := held
  refine ⟨registry_kept mapper (.inl ident), fun v => ?_,
    .of_eq (by rw [Runtime.setEnv_envLock, envLock]; exact id) (by rw [creating]; exact id),
    fun v => ?_, fun _ => by rw [Runtime.setEnv_envLock, envLock, reads]⟩
  · by_cases same : v = w
    · subst same
      exact .now fun now => writer (by simpa using now)
    · exact .of_eq (by simp [same, envs]) (by rw [writes v same]; exact id)
  · by_cases same : v = w
    · subst same
      simp [readers]
    · simp [same, envs]

/-- A host call's step inside the call's own step. -/
theorem SyncMove.of_host {h h' : HostPc} (host : HostFacts r r' h h') (call : th.hostCall = h)
    (call' : th'.hostCall = h') (writes : th.writes = th'.writes)
    (creating : th.creating = th'.creating) (ident : th.liveIdent = th'.liveIdent) :
    SyncMove r r' th th' :=
  ⟨registry_kept host.mapper (.inr ident),
    fun w => .of_eq (by rw [host.envs]; exact id) (by rw [writes]; exact id),
    .of_eq (by rw [host.envWriter]; exact id) (by rw [creating]; exact id),
    fun w => by rw [host.envs]; exact id, by rw [call, call']; exact host.envReaders⟩

end Sync

theorem EnvMove.of_eq {r r' : Runtime} (envs : r'.envs = r.envs) (w : Nat) :
    EnvMove (r.envs w) (r'.envs w) :=
  .inl (by rw [envs])

theorem EnvMove.setEnv {r : Runtime} {w : Nat} {e : WasmEnvironment}
    (move : EnvMove (r.envs w) e) (v : Nat) : EnvMove (r.envs v) ((r.setEnv w e).envs v) := by
  rw [Runtime.setEnv_envs]
  split
  · subst_vars
    exact move
  · exact .inl rfl

/-- A step that writes no `ctx` and keeps the one the call has set. -/
theorem CtxMove.of_ctxs {r r' : Runtime} {th th' : Thread}
    (same : ∀ i, (r'.insts i).ctx = (r.insts i).ctx) (kept : th.ctxOn = th'.ctxOn) :
    CtxMove r r' th th' :=
  ⟨fun i _ _ => same i, fun i _ set => .inr ⟨kept ▸ set, same i⟩⟩

/-- The holder of the gate of `inst` writes it, and sets there any `ctx` it now has set. -/
theorem CtxMove.setInst_held {r : Runtime} {th th' : Thread} {inst : Nat} {x : WasmInstance}
    (holder : th.holds inst = true)
    (own : ∀ i c, th'.ctxOn i = some c → i = inst ∧ x.ctx = some c) :
    CtxMove r (r.setInst inst x) th th' := by
  refine ⟨fun i _ free => ?_, fun i c set => .inl ?_⟩
  · have other : i ≠ inst := by rintro rfl; simp [holder] at free
    simp [other]
  · obtain ⟨rfl, ctx⟩ := own i c set
    simp [ctx]

/-- A step on a runtime `r'` that differs from `r` only where no invariant looks, holding
what it held. -/
theorem StepFacts.frame {r r' : Runtime} {th th' : Thread} (insts : r'.insts = r.insts)
    (count : r'.instCount = r.instCount) (envs : r'.envs = r.envs)
    (envLock : r'.envLock = r.envLock) (mapper : r'.instanceMapper = r.instanceMapper)
    (pointers : ∀ i ∈ th'.insts, i ∈ th.insts ∨ ∃ w, i ∈ (r.envs w).instances)
    (holds : th.holds = th'.holds)
    (held : th.writes = th'.writes ∧ th.creating = th'.creating ∧
      th.hostCall.readsEnvLock = th'.hostCall.readsEnvLock ∧ th.ctxOn = th'.ctxOn)
    (ident : th.liveIdent = none ∨ th.liveIdent = th'.liveIdent) : StepFacts r r' th th' :=
  ⟨.of_frame insts count (fun w => by rw [envs]) pointers, .of_gates (by simp [insts]) holds,
    .frame (fun w => by rw [envs]) envLock (registry_kept mapper ident)
      ⟨held.1, held.2.1, held.2.2.1⟩, .of_eq envs, .of_ctxs (by simp [insts]) held.2.2.2⟩

/-- A step that writes an instance it points to, not its gate, holding what it held. -/
theorem StepFacts.setInst {r : Runtime} {th th' : Thread} {inst : Nat} {x : WasmInstance}
    (mem : inst ∈ th.insts) (pointers : ∀ i ∈ th'.insts, i ∈ th.insts)
    (gate : x.gate = (r.insts inst).gate) (holds : th.holds = th'.holds)
    (held : th.writes = th'.writes ∧ th.creating = th'.creating ∧
      th.hostCall.readsEnvLock = th'.hostCall.readsEnvLock)
    (ident : th.liveIdent = none ∨ th.liveIdent = th'.liveIdent)
    (ctx : CtxMove r (r.setInst inst x) th th') : StepFacts r (r.setInst inst x) th th' :=
  ⟨.of_setInst mem pointers, .of_gates (setInst_gate gate) holds,
    .frame (fun _ => rfl) rfl (registry_kept rfl ident) held, .of_eq rfl, ctx⟩

/-- A step that takes or leaves the lock of environment `w`, shrinking its list at most. -/
theorem StepFacts.setEnv {r : Runtime} {th th' : Thread} {w : Nat} {e : WasmEnvironment}
    (lists : e.instances.Sublist (r.envs w).instances) (move : EnvMove (r.envs w) e)
    (pointers : ∀ i ∈ th'.insts, i ∈ th.insts ∨ ∃ v, i ∈ (r.envs v).instances)
    (holds : th.holds = th'.holds) (readers : e.lock.readers = (r.envs w).lock.readers)
    (writer : e.lock.writer = true → th'.writes w = true)
    (writes : ∀ v, v ≠ w → th.writes v = th'.writes v)
    (held : th.creating = th'.creating ∧ th.hostCall.readsEnvLock = th'.hostCall.readsEnvLock ∧
      th.ctxOn = th'.ctxOn)
    (ident : th.liveIdent = none) : StepFacts r (r.setEnv w e) th th' :=
  ⟨.of_frame rfl rfl (fun v => by by_cases h : v = w <;> simp [h, lists]) pointers,
    .of_gates (fun _ => rfl) holds,
    .setEnv ⟨rfl, rfl, rfl⟩ readers writer writes ⟨held.1, held.2.1⟩ ident, move.setEnv,
    .of_ctxs (fun _ => rfl) held.2.2⟩

/-- Taking the free gate of an instance the call points to. -/
theorem StepFacts.acquire {r : Runtime} {th th' : Thread} {inst : Nat}
    (free : (r.insts inst).gate = 0) (mem : inst ∈ th.insts)
    (pointers : ∀ i ∈ th'.insts, i ∈ th.insts) (wasFree : ∀ i, th.holds i = false)
    (nowHeld : ∀ i, th'.holds i = (inst == i))
    (held : th.writes = th'.writes ∧ th.creating = th'.creating ∧
      th.hostCall.readsEnvLock = th'.hostCall.readsEnvLock ∧ th.ctxOn = th'.ctxOn)
    (ident : th.liveIdent = none) :
    StepFacts r (r.setInst inst { r.insts inst with gate := 1 }) th th' :=
  ⟨.of_setInst mem pointers, .acquire free wasFree nowHeld,
    .frame (fun _ => rfl) rfl (registry_kept rfl (.inl ident)) ⟨held.1, held.2.1, held.2.2.1⟩,
    .of_eq rfl, .of_ctxs (setInst_ctx rfl) held.2.2.2⟩

/-- Giving back the gate of an instance the call points to. -/
theorem StepFacts.release {r : Runtime} {th th' : Thread} {inst : Nat}
    (taken : 1 ≤ (r.insts inst).gate) (mem : inst ∈ th.insts)
    (pointers : ∀ i ∈ th'.insts, i ∈ th.insts) (wasHeld : ∀ i, th.holds i = (inst == i))
    (nowFree : ∀ i, th'.holds i = false)
    (held : th.writes = th'.writes ∧ th.creating = th'.creating ∧
      th.hostCall.readsEnvLock = th'.hostCall.readsEnvLock ∧ th.ctxOn = th'.ctxOn)
    (ident : th.liveIdent = none) :
    StepFacts r (r.setInst inst { r.insts inst with gate := (r.insts inst).gate - 1 }) th th' :=
  ⟨.of_setInst mem pointers, .release taken wasHeld nowFree,
    .frame (fun _ => rfl) rfl (registry_kept rfl (.inl ident)) ⟨held.1, held.2.1, held.2.2.1⟩,
    .of_eq rfl, .of_ctxs (setInst_ctx rfl) held.2.2.2⟩

/-! ## Each call's steps -/

section Host

variable {r : Runtime} {h h' : HostPc}

/-- A host call's step that leaves the runtime alone. -/
theorem HostFacts.same (pointers : ∀ i ∈ h'.insts, i ∈ h.insts ∨ ∃ w, i ∈ (r.envs w).instances)
    (reads : h.readsEnvLock = h'.readsEnvLock) : HostFacts r r h h' :=
  ⟨.of_frame rfl rfl (fun _ => .refl _) pointers, fun _ => rfl, fun _ => rfl, rfl, rfl, rfl,
    fun _ => by rw [reads]⟩

/-- A host call's `envLock.RUnlock`. -/
theorem HostFacts.runlock (pointers : ∀ i ∈ h'.insts, i ∈ h.insts)
    (reads : h.readsEnvLock = true) (leaves : h'.readsEnvLock = false) :
    HostFacts r { r with envLock := r.envLock.runlock } h h' :=
  ⟨.of_frame rfl rfl (fun _ => .refl _) fun i m => .inl (pointers i m), fun _ => rfl,
    fun _ => rfl, rfl, rfl, rfl, fun taken => by
      have := taken reads
      simp only [reads, leaves, RWMutex.runlock, if_true, Bool.false_eq_true, if_false]
      omega⟩

/-- A host function body writing the staged result of the instance it resolved. -/
theorem HostFacts.setInst {inst : Nat} {x : WasmInstance} (mem : inst ∈ h.insts)
    (pointers : ∀ i ∈ h'.insts, i ∈ h.insts) (gate : x.gate = (r.insts inst).gate)
    (ctx : x.ctx = (r.insts inst).ctx) (reads : h.readsEnvLock = h'.readsEnvLock) :
    HostFacts r (r.setInst inst x) h h' :=
  ⟨.of_setInst mem pointers, setInst_gate gate, setInst_ctx ctx, rfl, rfl, rfl, fun _ => by
    simp only [Runtime.setInst_envLock, reads]⟩

end Host

theorem hostStep_facts {r r' : Runtime} {host host' : HostPc} {input : Input}
    (stepped : hostStep r host input = some (.next r' host')) : HostFacts r r' host host' := by
  cases host with
  | idle =>
    cases input <;> simp only [hostStep, reduceCtorEq] at stepped
    split at stepped <;> cases stepped <;> exact .same (by simp [HostPc.insts]) rfl
  | envRLock ref needs =>
    simp only [hostStep, Option.map_eq_some'] at stepped
    obtain ⟨lock, locked, stepped⟩ := stepped
    split at stepped <;> cases stepped
    · exact .same (by simp [HostPc.insts]) rfl
    · obtain rfl := RWMutex.rlock_eq_some locked
      exact ⟨.of_frame rfl rfl (fun _ => .refl _) (by simp [HostPc.insts]), fun _ => rfl,
        fun _ => rfl, rfl, rfl, rfl, fun _ => by simp [HostPc.readsEnvLock]⟩
  | index ref needs =>
    simp only [hostStep, Option.map_eq_some'] at stepped
    obtain ⟨lock, -, stepped⟩ := stepped
    split at stepped
    · cases stepped
    · cases stepped
      exact .runlock (by simp [HostPc.insts]) rfl rfl
    · rename_i inst found
      cases stepped
      refine .same (fun i mem => ?_) rfl
      simp only [HostPc.insts, List.mem_singleton] at mem
      exact mem ▸ .inr ⟨_, WasmEnvironment.mem_of_instanceAtIndex found⟩
  | check inst needs =>
    simp only [hostStep] at stepped
    split at stepped <;> cases stepped <;> exact .runlock (by simp [HostPc.insts]) rfl rfl
  | body inst =>
    cases input <;> simp only [hostStep, reduceCtorEq] at stepped
    · cases stepped
      exact .same (by simp [HostPc.insts]) rfl
    · split at stepped <;> cases stepped
      · exact .same (by simp [HostPc.insts]) rfl
      · rename_i staged stagedOk
        obtain ⟨-, rfl⟩ := WasmInstance.setFFIResult_eq_ok stagedOk
        exact .setInst (by simp [HostPc.insts]) (by simp [HostPc.insts]) rfl rfl rfl
    · split at stepped <;> cases stepped
      · exact .same (by simp [HostPc.insts]) rfl
      · rename_i consumed _ consumedOk
        obtain ⟨-, rfl⟩ := WasmInstance.useFFIResult_eq_ok consumedOk
        exact .setInst (by simp [HostPc.insts]) (by simp [HostPc.insts]) rfl rfl rfl

/-- A host call step taken inside a call's own step. -/
theorem hostStep_map_facts {π : Type} {r r' : Runtime} {host : HostPc} {input : Input}
    {make : HostPc → π} {pc' : π}
    (mapped : (hostStep r host input).map (Outcome.mapPc make) = some (.next r' pc')) :
    ∃ host', pc' = make host' ∧ HostFacts r r' host host' := by
  obtain ⟨outcome, hosted, mapped⟩ := Option.map_eq_some'.mp mapped
  cases outcome with
  | panic p => cases mapped
  | next r'' host' =>
    cases mapped
    exact ⟨host', rfl, hostStep_facts hosted⟩

theorem useStep_facts {r r' : Runtime} {w : Nat} {ctx : Ctx} {pc pc' : UsePc} {input : Input}
    (stepped : useStep r w ctx pc input = some (.next r' pc')) :
    StepFacts r r' (.useInstance w ctx pc) (.useInstance w ctx pc') := by
  cases pc with
  | lock =>
    obtain ⟨lock, announced, stepped⟩ := Option.map_eq_some'.mp stepped
    cases stepped
    obtain rfl := RWMutex.announce_eq_some announced
    exact .setEnv (.refl _) (.inl rfl) (fun _ m => .inl m) rfl rfl
      (fun _ => beq_self_eq_true w) (fun v h => (beq_false_of_ne (Ne.symm h)).symm)
      ⟨rfl, rfl, rfl⟩ rfl
  | select =>
    simp only [useStep] at stepped
    split at stepped
    · split at stepped
      · cases stepped
      · rename_i env' idx inst selected
        cases stepped
        obtain ⟨rfl, -, mem⟩ := WasmEnvironment.select_eq_ok selected
        refine .setEnv (.refl _) (.inr (.inl ⟨_, by rw [seqStep_of_select selected]; rfl⟩))
          (fun i m => .inr ⟨w, ?_⟩) rfl rfl
          nofun (fun v h => beq_false_of_ne (Ne.symm h))
          ⟨rfl, rfl, rfl⟩ rfl
        simp only [Thread.insts, UsePc.insts, List.mem_singleton] at m
        exact m ▸ mem
    · cases stepped
  | acquire idx inst =>
    obtain ⟨acquired, gotten, stepped⟩ := Option.map_eq_some'.mp stepped
    cases acquired with
    | none => cases stepped
    | some r'' =>
      cases stepped
      obtain ⟨free, rfl⟩ := acquireGate_eq_some gotten
      exact .acquire free (List.mem_cons_self _ _)
        (fun _ m => m) (fun _ => rfl) (fun _ => rfl) ⟨rfl, rfl, rfl, rfl⟩ rfl
  | draw idx inst =>
    simp only [useStep] at stepped
    split at stepped
    · split at stepped
      · split at stepped <;> cases stepped <;>
          exact .frame rfl rfl rfl rfl rfl (fun _ m => .inl m) rfl
            ⟨rfl, rfl, rfl, rfl⟩ (.inl rfl)
      · cases stepped
    · cases stepped
      exact .frame rfl rfl rfl rfl rfl (fun _ m => .inl m) rfl
        ⟨rfl, rfl, rfl, rfl⟩ (.inl rfl)
    · cases stepped
  | store idx inst ident =>
    cases stepped
    refine ⟨.of_frame rfl rfl (fun _ => .refl _) (fun _ m => .inl m),
      .of_gates (fun _ => rfl) rfl, .frame (fun _ => rfl) rfl (fun i ref => ?_) ⟨rfl, rfl, rfl⟩,
      .of_eq rfl, .of_ctxs (fun _ => rfl) rfl⟩
    by_cases same : i = ident
    · subst same
      refine .now fun entry => ?_
      simp only [Function.update_same, Option.some.injEq] at entry
      rw [← entry]
      rfl
    · exact .of_eq (by simp [Function.update_noteq same]) nofun
  | setup idx inst ident =>
    cases stepped
    refine .setInst (List.mem_cons_self _ _)
      (fun _ m => m) rfl rfl ⟨rfl, rfl, rfl⟩ (.inr rfl)
      (.setInst_held (beq_self_eq_true _) fun i c set => ?_)
    by_cases same : inst = i <;> simp_all [Thread.ctxOn]
  | run idx inst ident host =>
    simp only [useStep] at stepped
    split at stepped
    · cases stepped
      exact .frame rfl rfl rfl rfl rfl (fun _ m => .inl m) rfl
        ⟨rfl, rfl, rfl, rfl⟩ (.inr rfl)
    · obtain ⟨host', rfl, facts⟩ := hostStep_map_facts stepped
      exact ⟨facts.foot.cons, .of_gates facts.gates rfl, .of_host facts rfl rfl rfl rfl rfl,
        .of_eq facts.envs, .of_ctxs facts.ctxs rfl⟩
  | clear idx inst ident =>
    cases stepped
    exact .setInst (List.mem_cons_self _ _) (fun _ m => m) rfl
      rfl ⟨rfl, rfl, rfl⟩ (.inr rfl)
      (.setInst_held (beq_self_eq_true _) fun _ _ => nofun)
  | removeIdent idx inst ident =>
    cases stepped
    refine ⟨.of_frame rfl rfl (fun _ => .refl _) (fun _ m => .inl m),
      .of_gates (fun _ => rfl) rfl, .frame (fun _ => rfl) rfl (fun i ref => ?_) ⟨rfl, rfl, rfl⟩,
      .of_eq rfl, .of_ctxs (fun _ => rfl) rfl⟩
    by_cases same : i = ident
    · subst same
      exact .now fun entry => by simp at entry
    · refine .of_eq (by simp [Function.update_noteq same]) fun held => ?_
      simp only [Thread.liveIdent, Option.some.injEq, Prod.mk.injEq] at held
      exact absurd held.1.symm same
  | release inst failed =>
    simp only [useStep] at stepped
    split at stepped
    · cases stepped
    · rename_i r'' released
      cases stepped
      obtain ⟨taken, rfl⟩ := releaseGate_eq_ok released
      exact .release taken (List.mem_cons_self _ _)
        nofun (fun _ => rfl) (fun _ => rfl) ⟨rfl, rfl, rfl, rfl⟩ rfl
  | done failed => cases stepped

theorem removeStep_facts {r r' : Runtime} {w : Nat} {pc pc' : RemovePc}
    (stepped : removeStep r w pc = some (.next r' pc')) :
    StepFacts r r' (.removeInstance w pc) (.removeInstance w pc') := by
  cases pc with
  | snapshot =>
    obtain ⟨lock, -, stepped⟩ := Option.map_eq_some'.mp stepped
    split at stepped <;> cases stepped
    · exact .frame rfl rfl rfl rfl rfl (fun _ m => .inl m) rfl
        ⟨rfl, rfl, rfl, rfl⟩ (.inl rfl)
    · rename_i inst last
      refine .frame rfl rfl rfl rfl rfl (fun i m => .inr ⟨w, ?_⟩) rfl ⟨rfl, rfl, rfl, rfl⟩
        (.inl rfl)
      simp only [Thread.insts, RemovePc.insts, List.mem_singleton] at m
      exact m ▸ WasmEnvironment.mem_of_lastInstance last
  | acquire inst =>
    obtain ⟨acquired, gotten, stepped⟩ := Option.map_eq_some'.mp stepped
    cases acquired with
    | none => cases stepped
    | some r'' =>
      cases stepped
      obtain ⟨free, rfl⟩ := acquireGate_eq_some gotten
      exact .acquire free (List.mem_cons_self _ _)
        (fun _ m => m) (fun _ => rfl) (fun _ => rfl)
        ⟨rfl, rfl, rfl, rfl⟩ rfl
  | lock inst =>
    obtain ⟨lock, announced, stepped⟩ := Option.map_eq_some'.mp stepped
    cases stepped
    obtain rfl := RWMutex.announce_eq_some announced
    exact .setEnv (.refl _) (.inl rfl) (fun _ m => .inl m) rfl rfl
      (fun _ => beq_self_eq_true w) (fun v h => (beq_false_of_ne (Ne.symm h)).symm)
      ⟨rfl, rfl, rfl⟩ rfl
  | trim inst =>
    simp only [removeStep] at stepped
    split at stepped
    · split at stepped
      · cases stepped
      · rename_i env' trimmed
        cases stepped
        refine .setEnv ?_ (.inr (.inl ⟨_, by rw [seqStep_of_trim trimmed]; rfl⟩))
          (fun _ m => .inl m) rfl rfl
          nofun (fun v h => beq_false_of_ne (Ne.symm h))
          ⟨rfl, rfl, rfl⟩ rfl
        rw [WasmEnvironment.trim_eq_ok trimmed]
        exact List.take_sublist _ _
    · cases stepped
  | close inst =>
    simp only [removeStep] at stepped
    split at stepped <;> cases stepped
    exact .setInst (List.mem_cons_self _ _) (fun _ m => m)
      rfl rfl ⟨rfl, rfl, rfl⟩ (.inl rfl)
      (.setInst_held (beq_self_eq_true _) fun _ _ => nofun)
  | release inst =>
    simp only [removeStep] at stepped
    split at stepped
    · split at stepped
      · cases stepped
      · rename_i r'' released
        cases stepped
        obtain ⟨taken, rfl⟩ := releaseGate_eq_ok released
        exact .release taken (List.mem_cons_self _ _)
          (fun _ m => m) (fun _ => rfl) (fun _ => rfl)
          ⟨rfl, rfl, rfl, rfl⟩ rfl
    · cases stepped
  | dropAccess inst =>
    cases stepped
    exact .setInst (List.mem_cons_self _ _) nofun
      rfl rfl ⟨rfl, rfl, rfl⟩ (.inl rfl) (.of_ctxs (setInst_ctx rfl) rfl)
  | done => cases stepped

/-- `addInstance` returns through its deferred `w.lock.Unlock()`. -/
theorem StepFacts.addInstance_unlock {r : Runtime} {w : Nat} {pc : AddPc} {failed : Bool}
    (writes : ∀ v, Thread.writes (.addInstance w pc) v = (w == v))
    (reads : (Thread.addInstance w pc).hostCall.readsEnvLock = false) :
    StepFacts r (r.setEnv w { r.envs w with lock := (r.envs w).lock.unlock })
      (.addInstance w pc) (.addInstance w (.done failed)) :=
  .setEnv (.refl _) (.inl rfl) nofun rfl rfl
    nofun
    (fun v h => by rw [writes v]; exact beq_false_of_ne (Ne.symm h)) ⟨rfl, reads, rfl⟩ rfl

theorem addStep_facts {r r' : Runtime} {w : Nat} {pc pc' : AddPc} {input : Input}
    (unbuilt : (r.insts r.instCount).gate = 0)
    (stepped : addStep r w pc input = some (.next r' pc')) :
    StepFacts r r' (.addInstance w pc) (.addInstance w pc') := by
  cases pc with
  | lock =>
    obtain ⟨lock, announced, stepped⟩ := Option.map_eq_some'.mp stepped
    cases stepped
    obtain rfl := RWMutex.announce_eq_some announced
    exact .setEnv (.refl _) (.inl rfl) (fun _ m => .inl m) rfl rfl
      (fun _ => beq_self_eq_true w) (fun v h => (beq_false_of_ne (Ne.symm h)).symm)
      ⟨rfl, rfl, rfl⟩ rfl
  | instantiate =>
    simp only [addStep] at stepped
    split at stepped
    · split at stepped <;> cases stepped
      · exact .addInstance_unlock (fun _ => rfl) rfl
      · exact .frame rfl rfl rfl rfl rfl (fun _ m => .inl m) rfl
          ⟨rfl, rfl, rfl, rfl⟩ (.inl rfl)
    · cases stepped
  | newInstance host | start host =>
    simp only [addStep] at stepped
    split at stepped
    · cases stepped
      exact .frame rfl rfl rfl rfl rfl (fun _ m => .inl m) rfl
        ⟨rfl, rfl, rfl, rfl⟩ (.inl rfl)
    · cases stepped
      exact .addInstance_unlock (fun _ => rfl) rfl
    · obtain ⟨host', rfl, facts⟩ := hostStep_map_facts stepped
      exact ⟨facts.foot, .of_gates facts.gates rfl, .of_host facts rfl rfl rfl rfl rfl,
        .of_eq facts.envs, .of_ctxs facts.ctxs rfl⟩
  | init host =>
    simp only [addStep] at stepped
    split at stepped
    · cases stepped
      refine ⟨⟨.inr rfl, fun i _ => ?_, by simp [Thread.insts, AddPc.insts], fun v => ?_⟩,
        .of_gates (fun i => ?_) rfl,
        .setEnv ⟨rfl, rfl, rfl⟩ rfl nofun
          (fun v h => beq_false_of_ne (Ne.symm h)) ⟨rfl, rfl⟩ rfl,
        EnvMove.setEnv (.inr (.inl ⟨.addInstance r.instCount, rfl⟩)),
        ⟨fun i below _ => by simp [Nat.ne_of_lt below], fun _ _ => nofun⟩⟩
      · by_cases h : i = r.instCount <;> simp [h]
      · by_cases h : v = w
        · exact .inr ⟨by simp [h, WasmEnvironment.append], rfl⟩
        · exact .inl (by simp [h])
      · by_cases h : i = r.instCount
        · subst h
          simp [unbuilt, WasmInstance.fresh]
        · simp [h]
    · cases stepped
      exact .addInstance_unlock (fun _ => rfl) rfl
    · obtain ⟨host', rfl, facts⟩ := hostStep_map_facts stepped
      exact ⟨facts.foot, .of_gates facts.gates rfl, .of_host facts rfl rfl rfl rfl rfl,
        .of_eq facts.envs, .of_ctxs facts.ctxs rfl⟩
  | done failed => cases stepped

theorem newStep_facts {r r' : Runtime} {pc pc' : NewPc}
    (stepped : newStep r pc = some (.next r' pc')) :
    StepFacts r r' (.newEnvironment pc) (.newEnvironment pc') := by
  cases pc with
  | lock =>
    obtain ⟨lock, announced, stepped⟩ := Option.map_eq_some'.mp stepped
    cases stepped
    obtain rfl := RWMutex.announce_eq_some announced
    exact ⟨.of_frame rfl rfl (fun _ => .refl _) (fun _ m => .inl m),
      .of_gates (fun _ => rfl) rfl,
      ⟨registry_kept rfl (.inl rfl), fun _ => .of_eq id id, .now fun _ => rfl, fun _ => id,
        fun _ => rfl⟩, .of_eq rfl, .of_ctxs (fun _ => rfl) rfl⟩
  | create =>
    simp only [newStep] at stepped
    split at stepped <;> cases stepped
    refine ⟨.of_frame rfl rfl (fun v => ?_) (fun _ m => .inl m), .of_gates (fun _ => rfl) rfl,
      ⟨registry_kept rfl (.inl rfl), fun v => .of_eq (fun now => ?_) id,
        .now nofun, fun v => ?_, fun _ => rfl⟩,
      fun v => if h : v = r.envCount then .inr (.inr (h ▸ Function.update_same _ _ _))
        else .inl (congrArg _ (Function.update_noteq h _ _)), .of_ctxs (fun _ => rfl) rfl⟩ <;>
      by_cases h : v = r.envCount <;>
      simp_all [Function.update_apply, WasmEnvironment.empty, RWMutex.unlocked]
  | done => cases stepped

theorem Thread.step_facts {r r' : Runtime} {th th' : Thread} {input : Input}
    (unbuilt : (r.insts r.instCount).gate = 0)
    (stepped : th.step r input = some (.next r' th')) : StepFacts r r' th th' := by
  cases th <;> simp only [Thread.step, Option.map_eq_some'] at stepped <;>
    obtain ⟨outcome, stepped, mapped⟩ := stepped <;> cases outcome <;> cases mapped
  · exact useStep_facts stepped
  · exact addStep_facts unbuilt stepped
  · exact removeStep_facts stepped
  · exact newStep_facts stepped


/-! ## What one event can do -/

/-- What one event can do to a world: start a call, stop the program with a panic, or commit
one call's step. -/
theorem World.next_cases {s s' : World} {e : Event} (stepped : s.next e = some s') :
    (∃ c : Call, s' = { s with threads := s.threads ++ [c.start] }) ∨
    (∃ p, s' = { s with crash := some p }) ∨
    ∃ t, ∃ below : t < s.threads.length, ∃ th' r' input,
      s.threads[t].step s.toRuntime input = some (.next r' th') ∧
      s' = { s with toRuntime := r', threads := s.threads.set t th' } := by
  cases e with
  | spawn c =>
    simp only [World.next, World.spawn] at stepped
    split at stepped <;> cases stepped
    exact .inl ⟨c, rfl⟩
  | step t input =>
    simp only [World.next, World.step] at stepped
    split at stepped
    · cases stepped
    · split at stepped
      · cases stepped
      · rename_i th found
        obtain ⟨below, rfl⟩ := List.getElem?_eq_some_iff.mp found
        obtain ⟨outcome, threadStepped, rfl⟩ := Option.map_eq_some'.mp stepped
        cases outcome with
        | panic p => exact .inr (.inl ⟨p, rfl⟩)
        | next r' th' => exact .inr (.inr ⟨t, below, th', r', input, threadStepped, rfl⟩)

/-- When `flag` is set, some call of `threads` holds it. -/
def Owned (flag : Prop) (threads : List Thread) (held : Thread → Prop) : Prop :=
  flag → ∃ th ∈ threads, held th

theorem Owned.append {flag : Prop} {threads : List Thread} {held : Thread → Prop}
    (owned : Owned flag threads held) (more : List Thread) : Owned flag (threads ++ more) held :=
  fun set => let ⟨th, mem, holds⟩ := owned set; ⟨th, List.mem_append_left _ mem, holds⟩

/-- A flag stays owned across a step of call `t` that keeps it (`Keeps`). -/
theorem Owned.set {flag flag' : Prop} {threads : List Thread} {held : Thread → Prop} {t : Nat}
    {th' : Thread} (below : t < threads.length) (owned : Owned flag threads held)
    (keeps : Keeps flag flag' (held threads[t]) (held th')) :
    Owned flag' (threads.set t th') held := by
  intro set
  rcases keeps set with ⟨was, kept⟩ | mine
  · obtain ⟨th, mem, holds⟩ := owned was
    obtain ⟨u, belowU, rfl⟩ := List.mem_iff_getElem.mp mem
    by_cases same : t = u
    · subst same
      exact ⟨th', List.mem_set _ _ below _, kept holds⟩
    · exact ⟨_, List.mem_iff_getElem.mpr ⟨u, by simpa using belowU, List.getElem_set_ne same _⟩,
        holds⟩
  · exact ⟨th', List.mem_set _ _ below _, mine⟩

/-- A count over the calls moves by what call `t` counted for before and after its step. -/
theorem countP_set_moves {threads : List Thread} {t : Nat} (below : t < threads.length)
    (p : Thread → Bool) (th' : Thread) :
    (threads.set t th').countP p + (if p threads[t] then 1 else 0) =
      threads.countP p + (if p th' then 1 else 0) := by
  have counted : (if p threads[t] then 1 else 0) ≤ threads.countP p := by
    split
    · exact List.countP_pos_iff.mpr ⟨_, List.getElem_mem below, ‹_›⟩
    · exact Nat.zero_le _
  rw [List.countP_set _ _ _ _ below]
  omega

end ReactrWasm
