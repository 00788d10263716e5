import ReactrWasm.Writers

/-!
# Resolving an identifier

`instanceForIdentifier` can fail three ways: the identifier is not registered, its
environment is missing, or `instanceAtIndex` rejects the index. The bounds check
`len(w.instances) <= idx-1` is off by one. It lets the index `len(w.instances)` through to
`w.instances[idx]`, which panics; a schedule in `Registry` gets there.

Over every interleaving, that is the only way to fail that the registry leaves
(`resolve_panics_only_past_end`). Each registry entry names the slot its live call
selected, on that call's environment (`World.RefsValid.entry`). Environments are never
removed, and a selected slot is never negative. So the environment is always found, the
index is never negative, and a panic is always at the index one past the end. The same
holds for the steps of a host call, whose reference may outlive its registry entry
(`World.RefsValid`).
-/

namespace ReactrWasm

/-- What a step of any call does to the slot it selected and the reference its host call
holds: a slot it had or one it has just read, and a reference it held or one it has just
loaded from the registry. `removeInstance` has neither. -/
theorem Thread.step_locals {r r' : Runtime} {th th' : Thread} {input : Input}
    (stepped : th.step r input = some (.next r' th')) :
    (∀ w idx inst, th'.slot? = some (w, idx, inst) →
      th.slot? = some (w, idx, inst) ∨ 0 ≤ idx) ∧
    ∀ ref, th'.hostCall.ref? = some ref →
      th.hostCall.ref? = some ref ∨ ∃ ident, r.instanceMapper ident = some ref := by
  cases th
  case removeInstance w pc =>
    obtain ⟨outcome, -, mapped⟩ := Option.map_eq_some'.mp stepped
    cases outcome <;> cases mapped
    exact ⟨nofun, nofun⟩
  all_goals
    obtain ⟨move, -⟩ := Thread.step_grows (by rfl) stepped
    exact ⟨fun w idx inst selected => (move.slot w idx inst selected).imp_right (·.1),
      move.ref⟩

/-- The reference names a registered environment and a slot that is not negative. -/
def Runtime.Names (r : Runtime) (ref : InstanceReference) : Prop :=
  ref.envUUID < r.envCount ∧ 0 ≤ ref.instIndex

/-- Every slot a `useInstance` call has selected is not negative, and every reference a host
call holds names a registered environment and a slot that is not negative. -/
structure World.RefsValid (s : World) : Prop where
  slots : ∀ th ∈ s.threads, ∀ w idx inst, th.slot? = some (w, idx, inst) → 0 ≤ idx
  refs : ∀ th ∈ s.threads, ∀ ref, th.hostCall.ref? = some ref → s.toRuntime.Names ref

namespace World.RefsValid

variable {s : World} (valid : s.RefsValid)
include valid

/-- A registry entry names the slot its live call selected, on that call's environment. -/
theorem entry (locks : s.WriterInv) (live : s.RegistryLive) {ident : Int32}
    {ref : InstanceReference} (mapped : s.instanceMapper ident = some ref) :
    s.toRuntime.Names ref := by
  obtain ⟨th, running, held⟩ := live ident ref mapped
  obtain ⟨inst, selected, -⟩ := Thread.slot_of_liveIdent held
  exact ⟨locks.registered th running _ (Thread.slot_env selected),
    valid.slots th running _ _ _ selected⟩

theorem spawn {c : Call} : ({ s with threads := s.threads ++ [c.start] } : World).RefsValid := by
  refine ⟨fun th m => ?_, fun th m => ?_⟩ <;> rcases List.mem_append.mp m with old | new
  · exact valid.slots th old
  · simp [List.mem_singleton.mp new]
  · exact valid.refs th old
  · simp [List.mem_singleton.mp new, HostPc.ref?]

theorem commit (locks : s.WriterInv) (live : s.RegistryLive) {t : Nat}
    (below : t < s.threads.length) {input : Input} {th' : Thread} {r' : Runtime}
    (stepped : s.threads[t].step s.toRuntime input = some (.next r' th')) :
    ({ s with toRuntime := r', threads := s.threads.set t th' } : World).RefsValid := by
  have running := List.getElem_mem below
  have count := (Thread.step_writers locks.unregistered stepped).1.count
  obtain ⟨slots, refs⟩ := Thread.step_locals stepped
  have grown : ∀ {ref}, s.toRuntime.Names ref → r'.Names ref := fun named =>
    ⟨named.1.trans_le count, named.2⟩
  refine ⟨fun th m w idx inst selected => ?_, fun th m ref loaded => ?_⟩ <;>
    rcases List.mem_or_eq_of_mem_set m with old | rfl
  · exact valid.slots th old w idx inst selected
  · exact (slots w idx inst selected).elim (valid.slots _ running w idx inst) id
  · exact grown (valid.refs th old ref loaded)
  · rcases refs ref loaded with was | ⟨ident, mapped⟩
    · exact grown (valid.refs _ running ref was)
    · exact grown (valid.entry locks live mapped)

end World.RefsValid

theorem World.RefsValid.next {s s' : World} {e : Event} (valid : s.RefsValid) (reach : Reachable s)
    (stepped : s.next e = some s') : s'.RefsValid := by
  rcases World.next_cases stepped with
    ⟨c, rfl⟩ | ⟨p, rfl⟩ | ⟨t, below, th', r', _, threadStepped, rfl⟩
  · exact valid.spawn
  · exact ⟨valid.slots, valid.refs⟩
  · exact valid.commit (writerInv_of_reachable reach) (registryLive_of_reachable reach) below
      threadStepped

theorem refsValid_of_reachable {s : World} (reach : Reachable s) : s.RefsValid := by
  induction reach with
  | initial => exact ⟨fun _ running => (nomatch running), fun _ running => (nomatch running)⟩
  | next _ reach' stepped ih => exact ih.next reach' stepped

/-- `instanceAtIndex` panicked on the index one past the end of the list. -/
def Runtime.PastEnd (r : Runtime) (ref : InstanceReference) (p : GoPanic) : Prop :=
  ref.instIndex = (r.envs ref.envUUID).instances.length ∧
    p = .indexOutOfRange ref.instIndex (r.envs ref.envUUID).instances.length

theorem Runtime.Names.pastEnd {r : Runtime} {ref : InstanceReference} {p : GoPanic}
    (named : r.Names ref)
    (panicked : (r.envs ref.envUUID).instanceAtIndex ref.instIndex = .error p) :
    r.PastEnd ref p := by
  obtain ⟨outside, rfl⟩ := WasmEnvironment.instanceAtIndex_eq_error panicked
  exact ⟨by have := named.2; omega, rfl⟩

/-- Over every interleaving, every registry entry names a registered environment and a slot
that is not negative, and so does every reference a host call holds. So resolving an
identifier never finds its environment missing, and it panics only at the one index past
the end that `instanceAtIndex`'s bounds check `len(w.instances) <= idx-1` lets through: in
`instanceForIdentifier` run as one call and in a host call's steps alike. -/
theorem resolve_panics_only_past_end {s : World} (reach : Reachable s) :
    (∀ ident ref, s.instanceMapper ident = some ref →
      s.environment ref.envUUID = some (s.envs ref.envUUID) ∧ 0 ≤ ref.instIndex) ∧
    (∀ ident needs p, instanceForIdentifier s.toRuntime ident needs = .error p →
      ∃ ref, s.instanceMapper ident = some ref ∧ s.toRuntime.PastEnd ref p) ∧
    ∀ th ∈ s.threads, ∀ input p, hostStep s.toRuntime th.hostCall input = some (.panic p) →
      ∃ ref, th.hostCall.ref? = some ref ∧ s.toRuntime.PastEnd ref p := by
  have valid := refsValid_of_reachable reach
  have named : ∀ {ident ref}, s.instanceMapper ident = some ref → s.toRuntime.Names ref :=
    valid.entry (writerInv_of_reachable reach) (registryLive_of_reachable reach)
  refine ⟨fun _ _ mapped => ⟨if_pos (named mapped).1, (named mapped).2⟩,
    fun _ _ _ panicked => ?_, fun th running _ _ panicked => ?_⟩
  · obtain ⟨ref, mapped, -, indexed⟩ := instanceForIdentifier_eq_error panicked
    exact ⟨ref, mapped, (named mapped).pastEnd indexed⟩
  · obtain ⟨ref, needs, call, indexed⟩ := hostStep_panic panicked
    have loaded : th.hostCall.ref? = some ref := by rw [call]; rfl
    exact ⟨ref, loaded, (valid.refs th running ref loaded).pastEnd indexed⟩

theorem resolve_panics_only_past_end_one_call :
    ∃ s, Reachable s ∧ s.instanceMapper 5 = some ⟨0, 0⟩ ∧
    (∀ ident ref, s.instanceMapper ident = some ref →
      s.environment ref.envUUID = some (s.envs ref.envUUID) ∧ 0 ≤ ref.instIndex) ∧
    (∀ ident needs p, instanceForIdentifier s.toRuntime ident needs = .error p →
      ∃ ref, s.instanceMapper ident = some ref ∧ s.toRuntime.PastEnd ref p) ∧
    ∀ th ∈ s.threads, ∀ input p, hostStep s.toRuntime th.hostCall input = some (.panic p) →
      ∃ ref, th.hostCall.ref? = some ref ∧ s.toRuntime.PastEnd ref p := by
  obtain ⟨s, reach, mapped⟩ :=
    Reachable.of_run (P := fun s => s.instanceMapper 5 = some ⟨0, 0⟩)
      (newEnvironmentEvents 0 ++ addInstanceEvents 0 1 ++ enterInstFuncEvents 0 7 2 5) (by decide)
  exact ⟨s, reach, mapped, resolve_panics_only_past_end reach⟩

end ReactrWasm
