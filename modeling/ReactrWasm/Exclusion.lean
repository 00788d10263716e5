import ReactrWasm.Steps
import Mathlib.Data.List.Nodup

/-!
# One holder per instance gate

Each `wasmInstance` has an `access` semaphore of weight one. `useInstance`
holds it from its `Acquire` to its deferred `Release`, across the setting and
clearing of the instance's `ctx` and the whole of `instFunc`;
`removeInstance` holds it from step 2 to the `Release` after the instance is
closed. This module proves, over every interleaving of any number of calls,
that the weight held on each gate equals the number of calls inside such a
section, and is at most one (`inv_of_reachable`). Hence
(`gate_exclusive`) no two calls are ever inside the sections of one
instance: no two jobs set up and use one instance at once, and no instance is
closed while a job runs `instFunc` on it. Since only the holder of a gate
writes the instance's `ctx`, a call between setting its `ctx` and clearing it
finds its own there (`ctx_owned`): a job's host calls on the instance it runs
on see that job's `ctx`.

The count needs a second invariant, that pointers are valid
(`Runtime.Allocated`): every instance an environment lists or a call points
to has been built, and the slot `addInstance` builds next is untouched. Both
follow from what one step of a call can do to the heap and the gates
(`Footprint`, `GateMove` in `Thread.step_facts`). So does
`instances_nodup`: a list only shrinks to a sublist or gets the instance just
built appended, so no environment ever lists an instance twice.

The gates do not make the lists right. `useInstance` takes its gate after it
drops `w.lock`, and `removeInstance` trims the last slot of the list as it is
at step 3, not the instance it took at step 1.
* `use_after_close`: `removeInstance` closes the instance a `useInstance`
  call has selected, releases its gate, and the call then takes the gate and
  runs `instFunc` on the closed instance, no longer in the list.
* `double_remove_drops_open_instance`: two `removeInstance` calls take the
  same last instance. The second trims an instance it never took, which stays
  open and is in no list, and then closes a closed instance: a nil
  dereference.
-/

namespace ReactrWasm

/-! ## Inside a gate -/

/-- `useInstance` is between setting the `ctx` of `inst` and clearing it: running
`instFunc`, or about to clear. -/
def Thread.inCtx : Thread → Nat → Bool
  | .useInstance _ _ (.run _ inst _ _), i | .useInstance _ _ (.clear _ inst _), i => inst == i
  | _, _ => false

/-- `removeInstance` is at `inst.wasmerInst.Close()`. -/
def Thread.closing : Thread → Nat → Bool
  | .removeInstance _ (.close inst), i => inst == i
  | _, _ => false

theorem Thread.holds_of_inCtx_or_closing {th : Thread} {i : Nat}
    (within : (th.inCtx i || th.closing i) = true) : th.holds i = true := by
  match th with
  | .useInstance _ _ (.run ..) | .useInstance _ _ (.clear ..) =>
    exact (Bool.or_false _).symm.trans within
  | .removeInstance _ (.close _) => exact (Bool.false_or _).symm.trans within
  | .useInstance _ _ (.lock) | .useInstance _ _ .select | .useInstance _ _ (.acquire ..)
  | .useInstance _ _ (.draw ..) | .useInstance _ _ (.store ..) | .useInstance _ _ (.setup ..)
  | .useInstance _ _ (.removeIdent ..) | .useInstance _ _ (.release ..)
  | .useInstance _ _ (.done _) | .removeInstance _ .snapshot | .removeInstance _ (.acquire _)
  | .removeInstance _ (.lock _) | .removeInstance _ (.trim _) | .removeInstance _ (.release _)
  | .removeInstance _ (.dropAccess _) | .removeInstance _ .done | .addInstance ..
  | .newEnvironment _ => exact nomatch within

/-! ## Every reachable world -/

/-- Shrinking a list, or appending the instance just built, keeps it duplicate-free. -/
theorem Footprint.nodup {r r' : Runtime} {before after : List Nat}
    (step : Footprint r r' before after) (valid : r.Allocated) {w : Nat}
    (nodup : (r.envs w).instances.Nodup) : (r'.envs w).instances.Nodup := by
  rcases step.lists w with shrunk | ⟨appended, -⟩
  · exact nodup.sublist shrunk
  · rw [appended, List.nodup_append]
    exact ⟨nodup, List.nodup_singleton _, List.disjoint_singleton.mpr fun listed =>
      Nat.lt_irrefl _ (valid.listed w _ listed)⟩


/-- Every pointer is valid, no list holds an instance twice, and each gate's weight is the
number of calls holding it, at most one. -/
structure World.Inv (s : World) : Prop where
  allocated : s.toRuntime.Allocated
  nodup : ∀ w, (s.envs w).instances.Nodup
  pointers : ∀ th ∈ s.threads, ∀ i ∈ th.insts, i < s.instCount
  counted : ∀ i, (s.insts i).gate = s.threads.countP (·.holds i)
  atMostOne : ∀ i, (s.insts i).gate ≤ 1

theorem World.Inv.initial : World.initial.Inv :=
  ⟨⟨fun _ _ listed => by simp [World.initial, Runtime.initial, WasmEnvironment.empty] at listed,
      fun _ _ => rfl⟩,
    fun _ => List.nodup_nil, fun _ none => by simp [World.initial] at none, fun _ => rfl,
    fun _ => Nat.zero_le _⟩

/-- A gate moves by what one call took or gave back, and is taken only when free: it stays
at most one. -/
theorem GateMove.atMostOne {r r' : Runtime} {held held' : Nat → Bool}
    (move : GateMove r r' held held') {i : Nat} (bound : (r.insts i).gate ≤ 1) :
    (r'.insts i).gate ≤ 1 := by
  have weight := move.weight i
  cases before : held i <;> cases after : held' i <;>
    simp only [before, after, Bool.false_eq_true, if_true, if_false] at weight
  · omega
  · have := move.free i after before
    omega
  all_goals omega

/-- Every step of a call has the facts of `Thread.step_facts`: the slot `addInstance`
builds next is untouched. -/
theorem World.Inv.step_facts {s : World} {th th' : Thread} {r' : Runtime} {input : Input}
    (inv : s.Inv) (stepped : th.step s.toRuntime input = some (.next r' th')) :
    StepFacts s.toRuntime r' th th' :=
  Thread.step_facts (by rw [inv.allocated.unbuilt _ le_rfl]; rfl) stepped

theorem World.Inv.commit {s : World} {t : Nat} (below : t < s.threads.length) {th' : Thread}
    {r' : Runtime} (inv : s.Inv) (facts : StepFacts s.toRuntime r' s.threads[t] th') :
    ({ s with toRuntime := r', threads := s.threads.set t th' } : World).Inv := by
  obtain ⟨allocated, pointed, grows⟩ :=
    facts.foot.allocated inv.allocated (inv.pointers _ (List.getElem_mem below))
  refine ⟨allocated, fun _ => facts.foot.nodup inv.allocated (inv.nodup _), fun th m i p => ?_,
    fun i => ?_, fun i => facts.gates.atMostOne (inv.atMostOne i)⟩
  · rcases List.mem_or_eq_of_mem_set m with old | rfl
    · exact Nat.lt_of_lt_of_le (inv.pointers _ old i p) grows
    · exact pointed i p
  · have weight := facts.gates.weight i
    have moved := countP_set_moves below (·.holds i) th'
    have := inv.counted i
    show (r'.insts i).gate = (s.threads.set t th').countP (·.holds i)
    omega

theorem World.Inv.next {s s' : World} {e : Event} (inv : s.Inv) (stepped : s.next e = some s') :
    s'.Inv := by
  rcases World.next_cases stepped with
    ⟨c, rfl⟩ | ⟨p, rfl⟩ | ⟨t, below, th', r', _, threadStepped, rfl⟩
  · refine ⟨inv.allocated, inv.nodup, fun th m => ?_, fun i => ?_, inv.atMostOne⟩
    · rcases List.mem_append.mp m with old | new
      · exact inv.pointers th old
      · simp_all
    · simp [List.countP_append, inv.counted i]
  · exact ⟨inv.allocated, inv.nodup, inv.pointers, inv.counted, inv.atMostOne⟩
  · exact inv.commit below (inv.step_facts threadStepped)

theorem inv_of_reachable {s : World} (reach : Reachable s) : s.Inv := by
  induction reach with
  | initial => exact World.Inv.initial
  | next _ _ stepped ih => exact ih.next stepped

/-- Over every interleaving, each instance's gate has at most one holder, and at most one
call is between setting and clearing its `ctx` or closing it. -/
theorem gate_exclusive {s : World} (reach : Reachable s) (i : Nat) :
    s.threads.countP (·.holds i) ≤ 1 ∧
      s.threads.countP (fun th => th.inCtx i || th.closing i) ≤ 1 := by
  have inv := inv_of_reachable reach
  have held : s.threads.countP (·.holds i) ≤ 1 := inv.counted i ▸ inv.atMostOne i
  exact ⟨held, le_trans (List.countP_mono_left fun _ _ => Thread.holds_of_inCtx_or_closing) held⟩

/-- One instance: a `useInstance` call runs its guest code on it, and a second one has
selected it and waits at `Acquire`. -/
theorem gate_exclusive_waiting_call :
    ∃ s, Reachable s ∧ s.threads[2]? = some (.useInstance 0 7 (.run 0 0 5 .idle)) ∧
      s.threads[3]? = some (.useInstance 0 8 (.acquire 0 0)) ∧
      s.threads.countP (·.holds 0) ≤ 1 ∧
      s.threads.countP (fun th => th.inCtx 0 || th.closing 0) ≤ 1 := by
  obtain ⟨s, reach, running, waiting⟩ := Reachable.of_run
    (P := fun s => s.threads[2]? = some (.useInstance 0 7 (.run 0 0 5 .idle)) ∧
      s.threads[3]? = some (.useInstance 0 8 (.acquire 0 0)))
    (newEnvironmentEvents 0 ++ addInstanceEvents 0 1 ++ enterInstFuncEvents 0 7 2 5 ++
      [.spawn (.useInstance 0 8), .step 3 .tick, .step 3 .tick]) (by decide)
  exact ⟨s, reach, running, waiting, gate_exclusive reach 0⟩

/-- Over every interleaving, an environment lists only instances `addInstance` has built,
and none of them twice. -/
theorem instances_nodup {s : World} (reach : Reachable s) (w : Nat) :
    (s.envs w).instances.Nodup ∧ ∀ i ∈ (s.envs w).instances, i < s.instCount :=
  have inv := inv_of_reachable reach
  ⟨inv.nodup w, inv.allocated.listed w⟩

theorem instances_nodup_two_instances :
    ∃ s, Reachable s ∧ (s.envs 0).instances = [0, 1] ∧
      (s.envs 0).instances.Nodup ∧ ∀ i ∈ (s.envs 0).instances, i < s.instCount := by
  obtain ⟨s, reach, listed⟩ := Reachable.of_run (P := fun s => (s.envs 0).instances = [0, 1])
    (newEnvironmentEvents 0 ++ addInstanceEvents 0 1 ++ addInstanceEvents 0 2) (by decide)
  exact ⟨s, reach, listed, instances_nodup reach 0⟩

/-! ## The `ctx` of a running call -/

/-- Two calls at different indices do not hold one gate. -/
theorem World.Inv.holds_eq_false {s : World} (inv : s.Inv) {t u : Nat}
    (below : t < s.threads.length) (belowU : u < s.threads.length) (other : t ≠ u) {i : Nat}
    (holder : s.threads[u].holds i = true) : s.threads[t].holds i = false := by
  by_contra both
  have moved := countP_set_moves below (·.holds i) (.newEnvironment .done)
  have still : 0 < (s.threads.set t (.newEnvironment .done)).countP (·.holds i) :=
    List.countP_pos_iff.mpr ⟨_, List.getElem_mem (by simpa using belowU),
      by rwa [List.getElem_set_ne other]⟩
  have := inv.counted i
  have := inv.atMostOne i
  have idle : (Thread.newEnvironment .done).holds i = false := rfl
  simp only [Bool.not_eq_false] at both
  simp only [both, idle, if_true, Bool.false_eq_true, if_false] at moved
  omega

/-- Every call between `setup` and `clear` finds its own `ctx` on its instance. -/
def World.CtxOwned (s : World) : Prop :=
  ∀ th ∈ s.threads, ∀ i c, th.ctxOn i = some c → (s.insts i).ctx = some c

/-- Only the holder of a gate writes the instance's `ctx` (`CtxMove`), and the gate has one
holder: another call's step leaves a running call's `ctx` alone. -/
theorem World.CtxOwned.next {s s' : World} {e : Event} (inv : s.Inv) (owned : s.CtxOwned)
    (stepped : s.next e = some s') : s'.CtxOwned := by
  rcases World.next_cases stepped with
    ⟨c, rfl⟩ | ⟨p, rfl⟩ | ⟨t, below, th', r', _, threadStepped, rfl⟩
  · intro th mem i c set
    rcases List.mem_append.mp mem with old | new
    · exact owned th old i c set
    · rw [List.mem_singleton.mp new, Call.start_ctxOn] at set
      cases set
  · exact owned
  · have ctx := (inv.step_facts threadStepped).ctx
    intro th mem i c set
    obtain ⟨u, belowU, rfl⟩ := List.mem_iff_getElem.mp mem
    show (r'.insts i).ctx = some c
    by_cases same : t = u
    · subst same
      rw [List.getElem_set_self] at set
      rcases ctx.own i c set with mine | ⟨was, kept⟩
      · exact mine
      · exact kept.trans (owned _ (List.getElem_mem below) i c was)
    · have belowU' : u < s.threads.length := by simpa using belowU
      rw [List.getElem_set_ne same] at set
      obtain ⟨holder, pointed⟩ := Thread.holds_of_ctxOn set
      rw [ctx.others i (inv.pointers _ (List.getElem_mem belowU') i pointed)
        (inv.holds_eq_false below belowU' same holder)]
      exact owned _ (List.getElem_mem belowU') i c set

theorem ctxOwned_of_reachable {s : World} (reach : Reachable s) : s.CtxOwned := by
  induction reach with
  | initial => intro _ none; cases none
  | next _ reach' stepped ih => exact ih.next (inv_of_reachable reach') stepped

/-- Over every interleaving, a `useInstance` call that has set its `ctx` on an instance and not
yet cleared it, in particular one running `instFunc`, finds its own `ctx` there. -/
theorem ctx_owned {s : World} (reach : Reachable s) {th : Thread} (mem : th ∈ s.threads)
    {i : Nat} {c : Ctx} (set : th.ctxOn i = some c) : (s.insts i).ctx = some c :=
  ctxOwned_of_reachable reach th mem i c set

theorem ctx_owned_running_call :
    ∃ s, Reachable s ∧ ∃ th ∈ s.threads, th.ctxOn 0 = some 7 ∧ (s.insts 0).ctx = some 7 := by
  obtain ⟨s, reach, running⟩ := Reachable.of_run
    (P := fun s => s.threads[2]? = some (.useInstance 0 7 (.run 0 0 5 .idle)))
    (newEnvironmentEvents 0 ++ addInstanceEvents 0 1 ++ enterInstFuncEvents 0 7 2 5) (by decide)
  have mem := List.mem_iff_getElem?.mpr ⟨2, running⟩
  exact ⟨s, reach, _, mem, rfl, ctx_owned reach mem rfl⟩

/-! ## What the gates do not cover -/

/-- One instance. A `useInstance` call selects it, then `removeInstance` runs up to its
`Release`, and the call takes the gate before `inst.access = nil`. -/
def closedInstanceSchedule : List Event :=
  newEnvironmentEvents 0 ++ addInstanceEvents 0 1 ++
    [.spawn (.useInstance 0 7), .step 2 .tick, .step 2 .tick, .spawn (.removeInstance 0)] ++
    List.replicate 6 (.step 3 .tick) ++
    [.step 2 .tick, .step 2 (.draw 5), .step 2 .tick, .step 2 .tick]

/-- The call runs its guest code on instance 0, closed and in no list. -/
theorem use_after_close :
    ∃ s, Reachable s ∧ s.threads[2]? = some (.useInstance 0 7 (.run 0 0 5 .idle)) ∧
      (s.envs 0).instances = [] ∧ (s.insts 0).wasmerInst = false :=
  Reachable.of_run closedInstanceSchedule (by decide)

/-- Two instances. Two `removeInstance` calls both take instance 1 in step 1. The first
runs up to its `Release`; the second then takes the gate and trims. -/
def doubleRemoveSchedule : List Event :=
  newEnvironmentEvents 0 ++ addInstanceEvents 0 1 ++ addInstanceEvents 0 2 ++
    [.spawn (.removeInstance 0), .step 3 .tick, .spawn (.removeInstance 0), .step 4 .tick] ++
    List.replicate 5 (.step 3 .tick) ++ List.replicate 3 (.step 4 .tick)

/-- Instance 0 is open and in no list, and the second call's `Close` on instance 1 is a
nil dereference. -/
theorem double_remove_drops_open_instance :
    ∃ s, Reachable s ∧ (s.envs 0).instances = [] ∧ (s.insts 0).wasmerInst = true ∧
      s.threads[4]? = some (.removeInstance 0 (.close 1)) ∧ (s.insts 1).wasmerInst = false ∧
      (s.run [.step 4 .tick]).map (·.crash) = some (some .nilDereference) :=
  Reachable.of_run doubleRemoveSchedule (by decide)

end ReactrWasm
