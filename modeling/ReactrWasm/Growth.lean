import ReactrWasm.GraphQL
import ReactrWasm.Refinement
import ReactrWasm.Registry

/-!
# Runs without `removeInstance`

Every memory-safety failure of the schedules in `Registry` and `Exclusion` goes
through `removeInstance`. It trims a slot that another call still uses, closes an
instance a call has selected, and drops an open instance from the list. This module
shows that nothing else can fail that way. `GrowingReachable` holds for the worlds reached by
schedules that start no `removeInstance` call.

In such a run each call's step grows the runtime (`Runtime.Grows`, `GrowStep`).
No environment goes away, lists only grow at their end, and no instance is closed.
So each slot a call has selected keeps its instance, and each reference the
registry hands out stays in range (`World.GrowInv`). Four results follow:

* the only panic left is `useInstance` on an empty environment
  (`panic_needs_removeInstance`);
* `instanceForIdentifier` never panics, and every registry entry resolves to an
  instance whose gate the registering call holds
  (`registry_resolves_without_remove`);
* a call's selected instance stays in its slot and stays open
  (`selected_instance_stays_open`);
* no instance is lost: each one built stays listed and open
  (`built_instances_stay_listed`).
-/

namespace ReactrWasm

/-! ## Runs that start no `removeInstance` call -/

/-- The call is a `removeInstance` call. -/
def Call.removes : Call → Bool
  | .removeInstance _ => true
  | _ => false

/-- The event starts a `removeInstance` call. -/
def Event.startsRemove : Event → Bool
  | .spawn c => c.removes
  | .step .. => false

/-- The worlds a schedule reaches that starts no `removeInstance` call. -/
inductive GrowingReachable : World → Prop
  | initial : GrowingReachable World.initial
  | next {s s' : World} (e : Event) (keeps : e.startsRemove = false) :
      GrowingReachable s → s.next e = some s' → GrowingReachable s'

theorem GrowingReachable.reachable {s : World} (reach : GrowingReachable s) : Reachable s := by
  induction reach with
  | initial => exact .initial
  | next e _ _ stepped ih => exact ih.next e stepped

theorem GrowingReachable.run {s s' : World} (reach : GrowingReachable s) :
    ∀ {events : List Event}, events.all (!·.startsRemove) = true → s.run events = some s' →
      GrowingReachable s'
  | [], _, ran => by cases ran; exact reach
  | e :: rest, keeps, ran => by
    simp only [List.all_cons, Bool.and_eq_true, Bool.not_eq_true'] at keeps
    simp only [World.run, Option.bind_eq_some] at ran
    obtain ⟨mid, stepped, ran⟩ := ran
    exact (reach.next e keeps.1 stepped).run keeps.2 ran

/-- A schedule with no `removeInstance` that ends in a world where `P` holds. -/
theorem GrowingReachable.of_run {P : World → Prop} [DecidablePred P] (events : List Event)
    (keeps : events.all (!·.startsRemove) = true)
    (ran : (World.initial.run events).map (fun s => decide (P s)) = some true) :
    ∃ s, GrowingReachable s ∧ P s := by
  obtain ⟨s, ended, holds⟩ := Option.map_eq_some'.mp ran
  exact ⟨s, GrowingReachable.initial.run keeps ended, of_decide_eq_true holds⟩

/-! ## What a call other than `removeInstance` keeps -/

/-- The engine instance and the `access` semaphore of an instance are both still set. -/
def WasmInstance.isOpen (w : WasmInstance) : Bool := w.wasmerInst && w.access

/-- `ref` names a slot of a registered environment. -/
def Runtime.InRange (r : Runtime) (ref : InstanceReference) : Prop :=
  ref.envUUID < r.envCount ∧ 0 ≤ ref.instIndex ∧
    ref.instIndex < (r.envs ref.envUUID).instances.length

/-- No registered environment goes away, each one's list only grows at its end, and no
open instance is closed. -/
structure Runtime.Grows (r r' : Runtime) : Prop where
  count : r.envCount ≤ r'.envCount
  lists : ∀ v, v < r.envCount → (r.envs v).instances <+: (r'.envs v).instances
  opened : ∀ i, (r.insts i).isOpen = true → (r'.insts i).isOpen = true

namespace Runtime.Grows

variable {r r' r'' : Runtime}

theorem of_frame (count : r'.envCount = r.envCount) (envs : r'.envs = r.envs)
    (insts : r'.insts = r.insts) : r.Grows r' :=
  ⟨count.ge, fun _ _ => envs ▸ List.prefix_refl _, fun _ => insts ▸ id⟩

theorem setInst {i : Nat} {x : WasmInstance}
    (opened : (r.insts i).isOpen = true → x.isOpen = true) : r.Grows (r.setInst i x) :=
  ⟨le_rfl, fun _ _ => List.prefix_refl _, fun j open_ => by
    by_cases same : j = i
    · subst same
      simpa using opened open_
    · simpa [same] using open_⟩

theorem setEnv {w : Nat} {e : WasmEnvironment} (grown : (r.envs w).instances <+: e.instances) :
    r.Grows (r.setEnv w e) :=
  ⟨le_rfl, fun v _ => by
    by_cases same : v = w
    · subst same
      simpa using grown
    · simp [same], fun _ => id⟩

theorem trans (first : r.Grows r') (second : r'.Grows r'') : r.Grows r'' :=
  ⟨first.count.trans second.count,
    fun v below => (first.lists v below).trans (second.lists v (below.trans_le first.count)),
    fun i open_ => second.opened i (first.opened i open_)⟩

theorem inRange (grows : r.Grows r') {ref : InstanceReference} (inRange : r.InRange ref) :
    r'.InRange ref :=
  ⟨inRange.1.trans_le grows.count, inRange.2.1,
    inRange.2.2.trans_le (by exact_mod_cast (grows.lists _ inRange.1).length_le)⟩

theorem slot (grows : r.Grows r') {v : Nat} (below : v < r.envCount) {idx : Nat} {inst : Nat}
    (slot : (r.envs v).instances[idx]? = some inst) : (r'.envs v).instances[idx]? = some inst := by
  obtain ⟨rest, grown⟩ := grows.lists v below
  rw [← grown, List.getElem?_append_left (List.getElem?_eq_some_iff.mp slot).1, slot]

end Runtime.Grows

/-- The reference a host call has loaded from the registry and not yet resolved. -/
def HostPc.ref? : HostPc → Option InstanceReference
  | .envRLock ref _ | .index ref _ => some ref
  | _ => none

/-- A host call step grows the runtime, and a reference it holds afterwards it held before
or has just loaded from the registry. -/
theorem hostStep_grows {r r' : Runtime} {host host' : HostPc} {input : Input}
    (stepped : hostStep r host input = some (.next r' host')) :
    r.Grows r' ∧ r'.instCount = r.instCount ∧ ∀ ref, host'.ref? = some ref →
      host.ref? = some ref ∨ ∃ ident, r.instanceMapper ident = some ref := by
  cases host with
  | idle =>
    cases input <;> simp only [hostStep, reduceCtorEq] at stepped
    rename_i ident _
    split at stepped <;> cases stepped
    · exact ⟨.of_frame rfl rfl rfl, rfl, nofun⟩
    · exact ⟨.of_frame rfl rfl rfl, rfl,
        fun _ loaded => .inr ⟨ident, by cases loaded; assumption⟩⟩
  | envRLock ref needs =>
    obtain ⟨lock, -, stepped⟩ := Option.map_eq_some'.mp stepped
    split at stepped <;> cases stepped
    · exact ⟨.of_frame rfl rfl rfl, rfl, nofun⟩
    · exact ⟨.of_frame rfl rfl rfl, rfl, fun _ => .inl⟩
  | index ref needs =>
    obtain ⟨lock, -, stepped⟩ := Option.map_eq_some'.mp stepped
    split at stepped <;> cases stepped <;> exact ⟨.of_frame rfl rfl rfl, rfl, nofun⟩
  | check inst needs =>
    simp only [hostStep] at stepped
    split at stepped <;> cases stepped <;> exact ⟨.of_frame rfl rfl rfl, rfl, nofun⟩
  | body inst =>
    cases input <;> simp only [hostStep, reduceCtorEq] at stepped
    · cases stepped
      exact ⟨.of_frame rfl rfl rfl, rfl, nofun⟩
    · split at stepped <;> cases stepped
      · exact ⟨.of_frame rfl rfl rfl, rfl, nofun⟩
      · rename_i staged stagedOk
        obtain ⟨-, rfl⟩ := WasmInstance.setFFIResult_eq_ok stagedOk
        exact ⟨.setInst id, rfl, nofun⟩
    · split at stepped <;> cases stepped
      · exact ⟨.of_frame rfl rfl rfl, rfl, nofun⟩
      · rename_i consumed _ consumedOk
        obtain ⟨-, rfl⟩ := WasmInstance.useFFIResult_eq_ok consumedOk
        exact ⟨.setInst id, rfl, nofun⟩

/-- The environment a `useInstance` call runs on, the slot it selected and the instance it
found there, from its selection to its `Release`. -/
def Thread.slot? : Thread → Option (Nat × Int × Nat)
  | .useInstance w _ (.acquire idx inst) | .useInstance w _ (.draw idx inst)
  | .useInstance w _ (.store idx inst _) | .useInstance w _ (.setup idx inst _)
  | .useInstance w _ (.run idx inst _ _) | .useInstance w _ (.clear idx inst _)
  | .useInstance w _ (.removeIdent idx inst _) => some (w, idx, inst)
  | _ => none

/-- Slot `idx` of environment `w` holds `inst`. -/
def Runtime.SlotHolds (r : Runtime) (w : Nat) (idx : Int) (inst : Nat) : Prop :=
  0 ≤ idx ∧ (r.envs w).instances[idx.toNat]? = some inst

/-- The call a thread runs. -/
def Thread.call : Thread → Call
  | .useInstance w ctx _ => .useInstance w ctx
  | .addInstance w _ => .addInstance w
  | .removeInstance w _ => .removeInstance w
  | .newEnvironment _ => .newEnvironment

/-- What one step of a call other than `removeInstance` keeps: the runtime grows, the slot
the call has selected it had selected before or has just read, the reference its host
call holds it held before or has just loaded from the registry, and an instance it builds
it lists in its environment. -/
structure GrowStep (r r' : Runtime) (th th' : Thread) : Prop where
  grows : r.Grows r'
  slot : ∀ w idx inst, th'.slot? = some (w, idx, inst) →
    th.slot? = some (w, idx, inst) ∨ r'.SlotHolds w idx inst
  ref : ∀ ref, th'.hostCall.ref? = some ref →
    th.hostCall.ref? = some ref ∨ ∃ ident, r.instanceMapper ident = some ref
  built : r'.instCount = r.instCount ∨ ∃ w, th.call.env? = some w ∧
    r'.instCount = r.instCount + 1 ∧ r.instCount ∈ (r'.envs w).instances

theorem GrowStep.of_host {r r' : Runtime} {th th' : Thread} {host host' : HostPc} {input : Input}
    (stepped : hostStep r host input = some (.next r' host')) (call : th.hostCall = host)
    (call' : th'.hostCall = host') (slot : ∀ x, th'.slot? = some x → th.slot? = some x) :
    GrowStep r r' th th' :=
  let ⟨grows, count, ref⟩ := hostStep_grows stepped
  ⟨grows, fun _ _ _ h => .inl (slot _ h), call ▸ call' ▸ ref, .inl count⟩

theorem useStep_grows {r r' : Runtime} {w : Nat} {ctx : Ctx} {pc pc' : UsePc} {input : Input}
    (stepped : useStep r w ctx pc input = some (.next r' pc')) :
    GrowStep r r' (.useInstance w ctx pc) (.useInstance w ctx pc') := by
  cases pc with
  | lock =>
    obtain ⟨lock, -, stepped⟩ := Option.map_eq_some'.mp stepped
    cases stepped
    exact ⟨.setEnv (List.prefix_refl _), nofun, nofun, .inl rfl⟩
  | select =>
    simp only [useStep] at stepped
    split at stepped
    · split at stepped
      · cases stepped
      · rename_i env' idx inst selected
        cases stepped
        obtain ⟨rfl, -, -⟩ := WasmEnvironment.select_eq_ok selected
        refine ⟨.setEnv (List.prefix_refl _), fun _ _ _ read => .inr ?_, nofun, .inl rfl⟩
        cases read
        simpa [Runtime.SlotHolds] using WasmEnvironment.select_slot selected
    · cases stepped
  | acquire idx inst =>
    obtain ⟨acquired, gotten, stepped⟩ := Option.map_eq_some'.mp stepped
    cases acquired with
    | none => cases stepped
    | some r'' =>
      cases stepped
      obtain ⟨-, rfl⟩ := acquireGate_eq_some gotten
      exact ⟨.setInst id, fun _ _ _ => .inl, nofun, .inl rfl⟩
  | draw idx inst =>
    simp only [useStep] at stepped
    split at stepped
    · split at stepped
      · split at stepped <;> cases stepped <;>
          exact ⟨.of_frame rfl rfl rfl, fun _ _ _ => .inl, nofun, .inl rfl⟩
      · cases stepped
    · cases stepped
      exact ⟨.of_frame rfl rfl rfl, nofun, nofun, .inl rfl⟩
    · cases stepped
  | store idx inst ident =>
    cases stepped
    exact ⟨.of_frame rfl rfl rfl, fun _ _ _ => .inl, nofun, .inl rfl⟩
  | setup idx inst ident =>
    cases stepped
    exact ⟨.setInst id, fun _ _ _ => .inl, nofun, .inl rfl⟩
  | run idx inst ident host =>
    simp only [useStep] at stepped
    split at stepped
    · cases stepped
      exact ⟨.of_frame rfl rfl rfl, fun _ _ _ => .inl, nofun, .inl rfl⟩
    · obtain ⟨outcome, hosted, mapped⟩ := Option.map_eq_some'.mp stepped
      cases outcome <;> cases mapped
      exact .of_host hosted rfl rfl fun _ => id
  | clear idx inst ident =>
    cases stepped
    exact ⟨.setInst id, fun _ _ _ => .inl, nofun, .inl rfl⟩
  | removeIdent idx inst ident =>
    cases stepped
    exact ⟨.of_frame rfl rfl rfl, nofun, nofun, .inl rfl⟩
  | release inst failed =>
    simp only [useStep] at stepped
    split at stepped
    · cases stepped
    · rename_i r'' released
      cases stepped
      obtain ⟨-, rfl⟩ := releaseGate_eq_ok released
      exact ⟨.setInst id, nofun, nofun, .inl rfl⟩
  | done failed => cases stepped

theorem addStep_grows {r r' : Runtime} {w : Nat} {pc pc' : AddPc} {input : Input}
    (stepped : addStep r w pc input = some (.next r' pc')) :
    GrowStep r r' (.addInstance w pc) (.addInstance w pc') := by
  cases pc with
  | lock =>
    obtain ⟨lock, -, stepped⟩ := Option.map_eq_some'.mp stepped
    cases stepped
    exact ⟨.setEnv (List.prefix_refl _), nofun, nofun, .inl rfl⟩
  | instantiate =>
    simp only [addStep] at stepped
    split at stepped
    · split at stepped <;> cases stepped
      · exact ⟨.setEnv (List.prefix_refl _), nofun, nofun, .inl rfl⟩
      · exact ⟨.of_frame rfl rfl rfl, nofun, nofun, .inl rfl⟩
    · cases stepped
  | newInstance host | start host =>
    simp only [addStep] at stepped
    split at stepped
    · cases stepped
      exact ⟨.of_frame rfl rfl rfl, nofun, nofun, .inl rfl⟩
    · cases stepped
      exact ⟨.setEnv (List.prefix_refl _), nofun, nofun, .inl rfl⟩
    · obtain ⟨outcome, hosted, mapped⟩ := Option.map_eq_some'.mp stepped
      cases outcome <;> cases mapped
      exact .of_host hosted rfl rfl nofun
  | init host =>
    simp only [addStep] at stepped
    split at stepped
    · cases stepped
      have built : r.Grows { r.setInst r.instCount WasmInstance.fresh with
          instCount := r.instCount + 1 } :=
        (Runtime.Grows.setInst (x := .fresh) fun _ => rfl).trans (.of_frame rfl rfl rfl)
      exact ⟨built.trans (.setEnv (List.prefix_append _ _)), nofun, nofun,
        .inr ⟨w, rfl, rfl, by simp [WasmEnvironment.append]⟩⟩
    · cases stepped
      exact ⟨.setEnv (List.prefix_refl _), nofun, nofun, .inl rfl⟩
    · obtain ⟨outcome, hosted, mapped⟩ := Option.map_eq_some'.mp stepped
      cases outcome <;> cases mapped
      exact .of_host hosted rfl rfl nofun
  | done failed => cases stepped

theorem newStep_grows {r r' : Runtime} {pc pc' : NewPc}
    (stepped : newStep r pc = some (.next r' pc')) :
    GrowStep r r' (.newEnvironment pc) (.newEnvironment pc') := by
  cases pc with
  | lock =>
    obtain ⟨lock, -, stepped⟩ := Option.map_eq_some'.mp stepped
    cases stepped
    exact ⟨.of_frame rfl rfl rfl, nofun, nofun, .inl rfl⟩
  | create =>
    simp only [newStep] at stepped
    split at stepped <;> cases stepped
    refine ⟨⟨Nat.le_succ _, fun v below => ?_, fun _ => id⟩, nofun, nofun, .inl rfl⟩
    simp [Function.update_noteq below.ne]
  | done => cases stepped

@[simp] theorem Call.start_call (c : Call) : c.start.call = c := by cases c <;> rfl

@[simp] theorem Call.start_slot (c : Call) : c.start.slot? = none := by cases c <;> rfl

/-- A step of a call other than `removeInstance` grows the runtime, and the thread runs the
same call after it. -/
theorem Thread.step_grows {r r' : Runtime} {th th' : Thread} {input : Input}
    (keeps : th.call.removes = false) (stepped : th.step r input = some (.next r' th')) :
    GrowStep r r' th th' ∧ th'.call = th.call := by
  cases th <;> simp only [Thread.step, Option.map_eq_some'] at stepped <;>
    obtain ⟨outcome, stepped, mapped⟩ := stepped <;> cases outcome <;> cases mapped
  · exact ⟨useStep_grows stepped, rfl⟩
  · exact ⟨addStep_grows stepped, rfl⟩
  · cases keeps
  · exact ⟨newStep_grows stepped, rfl⟩

/-- A host call panics only in `instanceAtIndex`, on the reference it resolves. -/
theorem hostStep_panic {r : Runtime} {host : HostPc} {input : Input} {p : GoPanic}
    (panicked : hostStep r host input = some (.panic p)) :
    ∃ ref needs, host = .index ref needs ∧
      (r.envs ref.envUUID).instanceAtIndex ref.instIndex = .error p := by
  cases host with
  | idle =>
    cases input <;> simp only [hostStep, reduceCtorEq] at panicked
    split at panicked <;> cases panicked
  | envRLock ref needs =>
    obtain ⟨lock, -, panicked⟩ := Option.map_eq_some'.mp panicked
    split at panicked <;> cases panicked
  | index ref needs =>
    obtain ⟨lock, -, panicked⟩ := Option.map_eq_some'.mp panicked
    split at panicked <;> cases panicked
    exact ⟨ref, needs, rfl, ‹_›⟩
  | check inst needs =>
    simp only [hostStep] at panicked
    split at panicked <;> cases panicked
  | body inst =>
    cases input <;> simp only [hostStep, Option.some.injEq, reduceCtorEq] at panicked
    all_goals split at panicked <;> cases panicked

/-- A host call inside a call's step panics only on a reference outside its environment's
list. -/
theorem hostStep_map_panic {π : Type} {r : Runtime} {host : HostPc} {input : Input}
    {make : HostPc → π} {p : GoPanic}
    (mapped : (hostStep r host input).map (Outcome.mapPc make) = some (.panic p)) :
    ∃ ref, host.ref? = some ref ∧ ¬ r.InRange ref := by
  obtain ⟨outcome, hosted, mapped⟩ := Option.map_eq_some'.mp mapped
  cases outcome <;> cases mapped
  obtain ⟨ref, needs, rfl, indexed⟩ := hostStep_panic hosted
  have outside := (WasmEnvironment.instanceAtIndex_eq_error indexed).1
  exact ⟨ref, rfl, fun ⟨_, lower, upper⟩ => by omega⟩

section Panic

variable {r : Runtime} {input : Input} {p : GoPanic}

/-- Under a call that holds its gates and whose host call holds a reference in range, on
open instances, the only step that panics is `useInstance`'s selection. -/
theorem useStep_panic {w : Nat} {ctx : Ctx} {pc : UsePc}
    (opened : ∀ i, (r.insts i).isOpen = true)
    (held : ∀ i, pc.holds i = true → 1 ≤ (r.insts i).gate)
    (refs : ∀ ref, (Thread.useInstance w ctx pc).hostCall.ref? = some ref → r.InRange ref)
    (panicked : useStep r w ctx pc input = some (.panic p)) :
    pc = .select ∧ (r.envs w).select = .error p := by
  cases pc with
  | select =>
    simp only [useStep] at panicked
    split at panicked
    · split at panicked <;> cases panicked
      exact ⟨rfl, ‹_›⟩
    · cases panicked
  | acquire idx inst =>
    obtain ⟨acquired, gotten, panicked⟩ := Option.map_eq_some'.mp panicked
    cases acquired <;> cases panicked
    unfold acquireGate at gotten
    split at gotten
    · obtain ⟨_, -, none⟩ := Option.map_eq_some'.mp gotten
      cases none
    · exact absurd ((Bool.and_eq_true _ _).mp (opened inst)).2 ‹_›
  | run idx inst ident host =>
    simp only [useStep] at panicked
    split at panicked
    · cases panicked
    · obtain ⟨ref, loaded, outside⟩ := hostStep_map_panic panicked
      exact absurd (refs ref loaded) outside
  | release inst failed =>
    simp only [useStep] at panicked
    split at panicked
    · rename_i released
      unfold releaseGate semRelease at released
      split at released
      · have := held inst (beq_self_eq_true _)
        omega
      · cases released
    · cases panicked
  | lock | draw | store | setup | clear | removeIdent | done =>
    simp only [useStep] at panicked
    repeat' split at panicked
    all_goals simp at panicked

/-- `addInstance` panics only in a host call of its hooks. -/
theorem addStep_panic {w : Nat} {pc : AddPc}
    (refs : ∀ ref, (Thread.addInstance w pc).hostCall.ref? = some ref → r.InRange ref)
    (panicked : addStep r w pc input = some (.panic p)) : False := by
  cases pc with
  | newInstance host | start host | init host =>
    simp only [addStep] at panicked
    split at panicked
    · cases panicked
    · cases panicked
    · obtain ⟨ref, loaded, outside⟩ := hostStep_map_panic panicked
      exact outside (refs ref loaded)
  | lock | instantiate | done =>
    simp only [addStep] at panicked
    repeat' split at panicked
    all_goals simp at panicked

theorem Thread.step_panic {th : Thread} (keeps : th.call.removes = false)
    (opened : ∀ i, (r.insts i).isOpen = true)
    (held : ∀ i, th.holds i = true → 1 ≤ (r.insts i).gate)
    (refs : ∀ ref, th.hostCall.ref? = some ref → r.InRange ref)
    (panicked : th.step r input = some (.panic p)) :
    ∃ w ctx, th = .useInstance w ctx .select ∧ (r.envs w).select = .error p := by
  cases th <;> simp only [Thread.step, Option.map_eq_some'] at panicked <;>
    obtain ⟨outcome, panicked, mapped⟩ := panicked <;> cases outcome <;> cases mapped
  · obtain ⟨rfl, selected⟩ := useStep_panic opened held refs panicked
    exact ⟨_, _, rfl, selected⟩
  · exact (addStep_panic refs panicked).elim
  · cases keeps
  · rename_i pc
    cases pc <;> simp [newStep] at panicked

end Panic

/-! ## The invariant of runs without `removeInstance` -/

theorem Thread.slot_env {th : Thread} {w : Nat} {idx : Int} {inst : Nat}
    (selected : th.slot? = some (w, idx, inst)) : th.call.env? = some w := by
  unfold Thread.slot? at selected
  split at selected <;> cases selected <;> rfl

/-- A call whose identifier is live has selected the slot the identifier names and holds
the gate of the instance it found there. -/
theorem Thread.slot_of_liveIdent {th : Thread} {ident : Int32} {ref : InstanceReference}
    (live : th.liveIdent = some (ident, ref)) :
    ∃ inst, th.slot? = some (ref.envUUID, ref.instIndex, inst) ∧ th.holds inst = true := by
  unfold Thread.liveIdent at live
  split at live <;> cases live <;> exact ⟨_, rfl, beq_self_eq_true _⟩

theorem Runtime.SlotHolds.inRange {r : Runtime} {w : Nat} {idx : Int} {inst : Nat}
    (holds : r.SlotHolds w idx inst) (registered : w < r.envCount) : r.InRange ⟨w, idx⟩ := by
  obtain ⟨lower, slot⟩ := holds
  have below := (List.getElem?_eq_some_iff.mp slot).1
  exact ⟨registered, lower, show idx < ((r.envs w).instances.length : Int) by omega⟩

theorem Runtime.Grows.slotHolds {r r' : Runtime} (grows : r.Grows r') {w : Nat} {idx : Int}
    {inst : Nat} (registered : w < r.envCount) (holds : r.SlotHolds w idx inst) :
    r'.SlotHolds w idx inst :=
  ⟨holds.1, grows.slot registered holds.2⟩

/-- What one event can do, with the guard of each case: start a call on registered
environments, or, while the program runs, have one call step. -/
theorem World.next_guarded {s s' : World} {e : Event} (stepped : s.next e = some s') :
    (∃ c : Call, e = .spawn c ∧ (∀ w ∈ c.env?, w < s.envCount) ∧
      s' = { s with threads := s.threads ++ [c.start] }) ∨
    s.crash = none ∧ ∃ t input, e = .step t input ∧ ∃ below : t < s.threads.length, ∃ o,
      s.threads[t].step s.toRuntime input = some o ∧ s' = s.commit t o := by
  cases e with
  | spawn c =>
    simp only [World.next, World.spawn] at stepped
    split at stepped <;> cases stepped
    rename_i guard
    refine .inl ⟨c, rfl, fun w mem => ?_, rfl⟩
    simpa [Option.mem_def.mp mem] using (Bool.and_eq_true _ _).mp guard |>.2
  | step t input =>
    simp only [World.next, World.step] at stepped
    split at stepped
    · cases stepped
    · split at stepped
      · cases stepped
      · rename_i running _ th found
        obtain ⟨below, rfl⟩ := List.getElem?_eq_some_iff.mp found
        obtain ⟨outcome, threadStepped, rfl⟩ := Option.map_eq_some'.mp stepped
        exact .inr ⟨Option.not_isSome_iff_eq_none.mp running, t, input, rfl, below, outcome,
          threadStepped, rfl⟩

/-- What holds in every world a run without `removeInstance` reaches: every call runs on a
registered environment, no instance is closed, every instance built is listed by a
registered environment, every selected slot still holds the
instance the call found there, every reference a host call holds is in range, and a panic
can only be `useInstance`'s index into an empty list. -/
structure World.GrowInv (s : World) : Prop where
  noRemove : ∀ th ∈ s.threads, th.call.removes = false
  envs : ∀ th ∈ s.threads, ∀ w ∈ th.call.env?, w < s.envCount
  opened : ∀ i, (s.insts i).isOpen = true
  listed : ∀ i, i < s.instCount → ∃ w, w < s.envCount ∧ i ∈ (s.envs w).instances
  slots : ∀ th ∈ s.threads, ∀ w idx inst, th.slot? = some (w, idx, inst) →
    s.toRuntime.SlotHolds w idx inst
  refs : ∀ th ∈ s.threads, ∀ ref, th.hostCall.ref? = some ref → s.toRuntime.InRange ref
  crash : ∀ p, s.crash = some p → ∃ w, w < s.envCount ∧ (s.envs w).instances = [] ∧
    p = .indexOutOfRange (s.envs w).nextIndex 0

namespace World.GrowInv

variable {s : World} (grow : s.GrowInv)
include grow

theorem slot_inRange {th : Thread} (running : th ∈ s.threads) {w : Nat} {idx : Int} {inst : Nat}
    (selected : th.slot? = some (w, idx, inst)) : w < s.envCount :=
  grow.envs th running w (Thread.slot_env selected)

/-- Every registry entry names a slot in range: the slot its live call selected. -/
theorem mapped_inRange (live : s.RegistryLive) {ident : Int32} {ref : InstanceReference}
    (entry : s.instanceMapper ident = some ref) : s.toRuntime.InRange ref := by
  obtain ⟨th, running, held⟩ := live ident ref entry
  obtain ⟨inst, selected, -⟩ := Thread.slot_of_liveIdent held
  exact (grow.slots th running _ _ _ selected).inRange (grow.slot_inRange running selected)

theorem spawn {c : Call} (keeps : c.removes = false)
    (registered : ∀ w ∈ c.env?, w < s.envCount) :
    ({ s with threads := s.threads ++ [c.start] } : World).GrowInv := by
  refine ⟨fun th m => ?_, fun th m => ?_, grow.opened, grow.listed, fun th m => ?_,
    fun th m => ?_, grow.crash⟩ <;>
    rcases List.mem_append.mp m with old | new
  · exact grow.noRemove th old
  · simpa [List.mem_singleton.mp new] using keeps
  · exact grow.envs th old
  · simpa [List.mem_singleton.mp new] using registered
  · exact grow.slots th old
  · simp [List.mem_singleton.mp new]
  · exact grow.refs th old
  · simp [List.mem_singleton.mp new, HostPc.ref?]

/-- A panic of a call other than `removeInstance` is `useInstance`'s index into the empty
list: its gates are held (`Inv.counted`), its instances open and its references in range. -/
theorem panic (inv : s.Inv) (cursor : ∀ w, CursorInRange (s.envs w)) {t : Nat}
    (below : t < s.threads.length) {input : Input} {p : GoPanic}
    (panicked : s.threads[t].step s.toRuntime input = some (.panic p)) :
    ({ s with crash := some p } : World).GrowInv := by
  have running := List.getElem_mem below
  have held : ∀ i, s.threads[t].holds i = true → 1 ≤ (s.insts i).gate := fun i holds => by
    rw [inv.counted i]
    exact List.countP_pos_iff.mpr ⟨_, running, holds⟩
  obtain ⟨w, ctx, selecting, selected⟩ :=
    Thread.step_panic (grow.noRemove _ running) grow.opened held (grow.refs _ running) panicked
  obtain ⟨outside, rfl⟩ := WasmEnvironment.select_eq_error selected
  have empty : (s.envs w).instances = [] := by
    by_contra nonempty
    have := nextIndex_mem (cursor w) nonempty
    omega
  refine ⟨grow.noRemove, grow.envs, grow.opened, grow.listed, grow.slots, grow.refs,
    fun _ crashed =>    ⟨w, grow.envs _ running w (by rw [selecting]; rfl), empty, ?_⟩⟩
  cases crashed
  simp [empty]

/-- A built instance stays listed: lists only grow, and a step that builds an instance lists
it in the call's environment. -/
theorem listed_step {th th' : Thread} {r' : Runtime} (running : th ∈ s.threads)
    (move : GrowStep s.toRuntime r' th th') {i : Nat} (below : i < r'.instCount) :
    ∃ w, w < r'.envCount ∧ i ∈ (r'.envs w).instances := by
  have kept : i < s.instCount → ∃ w, w < r'.envCount ∧ i ∈ (r'.envs w).instances :=
    fun old =>
    let ⟨v, registered, mem⟩ := grow.listed i old
    ⟨v, registered.trans_le move.grows.count, (move.grows.lists v registered).subset mem⟩
  rcases move.built with same | ⟨w, env, grew, listed⟩
  · exact kept (same ▸ below)
  · by_cases old : i < s.instCount
    · exact kept old
    · obtain rfl : i = s.instCount := by omega
      exact ⟨w, (grow.envs _ running w env).trans_le move.grows.count, listed⟩

theorem commit (live : s.RegistryLive) (ok : s.crash = none) {t : Nat}
    (below : t < s.threads.length) {input : Input} {th' : Thread} {r' : Runtime}
    (stepped : s.threads[t].step s.toRuntime input = some (.next r' th')) :
    ({ s with toRuntime := r', threads := s.threads.set t th' } : World).GrowInv := by
  have running := List.getElem_mem below
  obtain ⟨move, call⟩ := Thread.step_grows (grow.noRemove _ running) stepped
  refine ⟨fun th m => ?_, fun th m w mem => ?_, fun i => move.grows.opened i (grow.opened i),
    fun _ => grow.listed_step running move, fun th m w idx inst selected => ?_,
    fun th m ref loaded => ?_,
    fun _ crashed => nomatch ok.symm.trans crashed⟩ <;>
    rcases List.mem_or_eq_of_mem_set m with old | rfl
  · exact grow.noRemove th old
  · exact call ▸ grow.noRemove _ running
  · exact (grow.envs th old w mem).trans_le move.grows.count
  · exact (grow.envs _ running w (call ▸ mem)).trans_le move.grows.count
  · exact move.grows.slotHolds (grow.slot_inRange old selected) (grow.slots th old _ _ _ selected)
  · rcases move.slot w idx inst selected with was | read
    · exact move.grows.slotHolds (grow.slot_inRange running was) (grow.slots _ running _ _ _ was)
    · exact read
  · exact move.grows.inRange (grow.refs th old ref loaded)
  · rcases move.ref ref loaded with was | ⟨ident, entry⟩
    · exact move.grows.inRange (grow.refs _ running _ was)
    · exact move.grows.inRange (grow.mapped_inRange live entry)

end World.GrowInv

theorem World.GrowInv.initial : World.initial.GrowInv where
  noRemove _ running := nomatch running
  envs _ running := nomatch running
  opened _ := rfl
  listed _ below := absurd below (Nat.not_lt_zero _)
  slots _ running := nomatch running
  refs _ running := nomatch running
  crash _ := nofun

theorem World.GrowInv.next {s s' : World} {e : Event} (grow : s.GrowInv) (reach : Reachable s)
    (keeps : e.startsRemove = false) (stepped : s.next e = some s') : s'.GrowInv := by
  rcases World.next_guarded stepped with
    ⟨c, rfl, registered, rfl⟩ | ⟨ok, t, input, rfl, below, o, threadStepped, rfl⟩
  · exact grow.spawn keeps registered
  · cases o with
    | panic p =>
      exact grow.panic (inv_of_reachable reach) (cursor_in_range reach) below threadStepped
    | next r' th' => exact grow.commit (registryLive_of_reachable reach) ok below threadStepped

theorem growInv_of_reachable {s : World} (reach : GrowingReachable s) : s.GrowInv := by
  induction reach with
  | initial => exact World.GrowInv.initial
  | next e keeps reach' stepped ih => exact ih.next reach'.reachable keeps stepped

/-! ## What `removeInstance` alone breaks -/

/-- In a run that starts no `removeInstance` call, the program panics in one way only:
`useInstance` on a registered environment with no instance, at `w.instances[instIndex]`. The
other panics of the model (`instanceAtIndex` past the list, `Release` of a free gate,
`Close` of a closed instance, a nil `access`) all need a `removeInstance` call. -/
theorem panic_needs_removeInstance {s : World} (reach : GrowingReachable s) {p : GoPanic}
    (crashed : s.crash = some p) :
    ∃ w, w < s.envCount ∧ (s.envs w).instances = [] ∧
      p = .indexOutOfRange (s.envs w).nextIndex 0 :=
  (growInv_of_reachable reach).crash p crashed

theorem panic_needs_removeInstance_empty_environment :
    ∃ s, GrowingReachable s ∧ s.crash = some (.indexOutOfRange 1 0) ∧
      ∃ w, w < s.envCount ∧ (s.envs w).instances = [] ∧
        GoPanic.indexOutOfRange 1 0 = .indexOutOfRange (s.envs w).nextIndex 0 := by
  obtain ⟨s, reach, crashed⟩ :=
    GrowingReachable.of_run (P := fun s => s.crash = some (.indexOutOfRange 1 0))
      (newEnvironmentEvents 0 ++ [.spawn (.useInstance 0 7), .step 1 .tick, .step 1 .tick])
      (by decide) (by decide)
  exact ⟨s, reach, crashed, panic_needs_removeInstance reach crashed⟩

/-- In a run that starts no `removeInstance` call, `instanceForIdentifier` never panics, and
each identifier the registry maps resolves to an instance whose gate the registering call
holds: the one in the slot that call selected. -/
theorem registry_resolves_without_remove {s : World} (reach : GrowingReachable s) :
    (∀ ident needs, ∃ res, instanceForIdentifier s.toRuntime ident needs = .ok res) ∧
    ∀ ident ref, s.instanceMapper ident = some ref →
      ∃ th ∈ s.threads, th.liveIdent = some (ident, ref) ∧
        ∃ inst, th.holds inst = true ∧ Resolves s.toRuntime ident inst := by
  have grow := growInv_of_reachable reach
  have resolves : ∀ ident ref, s.instanceMapper ident = some ref →
      ∃ th ∈ s.threads, th.liveIdent = some (ident, ref) ∧
        ∃ inst, th.holds inst = true ∧ Resolves s.toRuntime ident inst := by
    intro ident ref entry
    obtain ⟨th, running, held⟩ := registryLive_of_reachable reach.reachable ident ref entry
    obtain ⟨inst, selected, holds⟩ := Thread.slot_of_liveIdent held
    obtain ⟨lower, slot⟩ := grow.slots th running _ _ _ selected
    exact ⟨th, running, held, inst, holds, ref, _, entry,
      if_pos (grow.slot_inRange running selected), lower, slot⟩
  refine ⟨fun ident needs => ?_, resolves⟩
  cases entry : s.instanceMapper ident with
  | none => exact ⟨.error "instance does not exist", by simp [instanceForIdentifier, entry]⟩
  | some ref =>
    obtain ⟨-, -, -, inst, -, resolved⟩ := resolves ident ref entry
    exact ⟨_, instanceForIdentifier_of_resolves resolved needs⟩

theorem registry_resolves_without_remove_one_call :
    ∃ s, GrowingReachable s ∧ s.instanceMapper 5 = some ⟨0, 0⟩ ∧
      (∀ ident needs, ∃ res, instanceForIdentifier s.toRuntime ident needs = .ok res) ∧
      ∀ ident ref, s.instanceMapper ident = some ref →
        ∃ th ∈ s.threads, th.liveIdent = some (ident, ref) ∧
          ∃ inst, th.holds inst = true ∧ Resolves s.toRuntime ident inst := by
  obtain ⟨s, reach, entry⟩ :=
    GrowingReachable.of_run (P := fun s => s.instanceMapper 5 = some ⟨0, 0⟩)
      (newEnvironmentEvents 0 ++ addInstanceEvents 0 1 ++ enterInstFuncEvents 0 7 2 5)
      (by decide) (by decide)
  exact ⟨s, reach, entry, registry_resolves_without_remove reach⟩

/-- In a run that starts no `removeInstance` call, the slot a `useInstance` call selected
still holds the instance it took, from the selection to its `Release`, and that instance is
open: its engine instance and its `access` semaphore are both set. -/
theorem selected_instance_stays_open {s : World} (reach : GrowingReachable s) {th : Thread}
    (running : th ∈ s.threads) {w : Nat} {idx : Int} {inst : Nat}
    (selected : th.slot? = some (w, idx, inst)) :
    0 ≤ idx ∧ (s.envs w).instances[idx.toNat]? = some inst ∧
      (s.insts inst).wasmerInst = true ∧ (s.insts inst).access = true := by
  have grow := growInv_of_reachable reach
  obtain ⟨lower, slot⟩ := grow.slots th running w idx inst selected
  exact ⟨lower, slot, (Bool.and_eq_true _ _).mp (grow.opened inst)⟩

theorem selected_instance_stays_open_running_call :
    ∃ s, GrowingReachable s ∧ s.threads[2]? = some (.useInstance 0 7 (.run 0 0 5 .idle)) ∧
      0 ≤ (0 : Int) ∧ (s.envs 0).instances[(0 : Int).toNat]? = some 0 ∧
      (s.insts 0).wasmerInst = true ∧ (s.insts 0).access = true := by
  obtain ⟨s, reach, third⟩ := GrowingReachable.of_run
    (P := fun s => s.threads[2]? = some (.useInstance 0 7 (.run 0 0 5 .idle)))
    (newEnvironmentEvents 0 ++ addInstanceEvents 0 1 ++ enterInstFuncEvents 0 7 2 5)
    (by decide) (by decide)
  exact ⟨s, reach, third, selected_instance_stays_open reach (List.getElem?_mem third) rfl⟩

/-- In a run that starts no `removeInstance` call, no instance is lost: every instance
`addInstance` has built is still listed by a registered environment, for `useInstance` to
select, and is still open. -/
theorem built_instances_stay_listed {s : World} (reach : GrowingReachable s) {i : Nat}
    (built : i < s.instCount) :
    ∃ w, w < s.envCount ∧ i ∈ (s.envs w).instances ∧
      (s.insts i).wasmerInst = true ∧ (s.insts i).access = true := by
  have grow := growInv_of_reachable reach
  obtain ⟨w, registered, listed⟩ := grow.listed i built
  exact ⟨w, registered, listed, (Bool.and_eq_true _ _).mp (grow.opened i)⟩

theorem built_instances_stay_listed_two_instances :
    ∃ s, GrowingReachable s ∧ s.instCount = 2 ∧ 1 < s.instCount ∧
      ∃ w, w < s.envCount ∧ 1 ∈ (s.envs w).instances ∧
        (s.insts 1).wasmerInst = true ∧ (s.insts 1).access = true := by
  obtain ⟨s, reach, two⟩ := GrowingReachable.of_run (P := fun s => s.instCount = 2)
    (newEnvironmentEvents 0 ++ addInstanceEvents 0 1 ++ addInstanceEvents 0 2) (by decide)
    (by decide)
  have built : 1 < s.instCount := by omega
  exact ⟨s, reach, two, built, built_instances_stay_listed reach built⟩

/-! ## `graphql_query` in a run without `removeInstance` -/

/-- In a run that starts no `removeInstance` call, `graphql_query` panics only on a read
outside the instance's memory or on an instance with no ctx, for every identifier, pointer,
size, guest memory, client outcome and `json.Marshal` outcome. `instanceForIdentifier` does
not panic there, and the instance an identifier resolves to still has its engine instance,
so `ReadMemory` never dereferences a nil one. -/
theorem graphqlQuery_panics_without_remove {s : World} (reach : GrowingReachable s)
    {Resp : Type} (client : Ctx → Bytes → Bytes → Except String Resp)
    (marshal : Resp → Except String Bytes) (memory : Nat → Option Bytes)
    (endpointPointer endpointSize queryPointer querySize identifier : Int32) {p : GoPanic}
    (panicked : graphqlQuery client marshal memory s.toRuntime endpointPointer endpointSize
      queryPointer querySize identifier = .error p) :
    ∃ inst, instanceForIdentifier s.toRuntime identifier true = .ok (.ok inst) ∧
      (s.insts inst).wasmerInst = true ∧
      ((∃ m, memory inst = some m ∧
          (¬ InBounds m.length endpointPointer.val endpointSize.val ∨
            ¬ InBounds m.length queryPointer.val querySize.val)) ∨
        (s.insts inst).ctx = none) := by
  have grow := growInv_of_reachable reach
  have engine : ∀ i, (s.insts i).wasmerInst = true := fun i =>
    ((Bool.and_eq_true _ _).mp (grow.opened i)).1
  rcases graphqlQuery_eq_error client marshal memory s.toRuntime endpointPointer endpointSize
      queryPointer querySize identifier panicked with
    resolvePanics | ⟨inst, found, closed | endpointRead | queryRead | absent⟩
  · obtain ⟨ref, entry, -, failed⟩ := instanceForIdentifier_eq_error resolvePanics
    obtain ⟨-, lower, upper⟩ :=
      grow.mapped_inRange (registryLive_of_reachable reach.reachable) entry
    obtain ⟨outside | atEnd, -⟩ := WasmEnvironment.instanceAtIndex_eq_error failed <;> omega
  · simp [engine inst] at closed
  · obtain ⟨m, present, outside⟩ := readMemory_eq_error endpointRead
    exact ⟨inst, found, engine inst, .inl ⟨m, present, .inl outside⟩⟩
  · obtain ⟨m, present, outside⟩ := readMemory_eq_error queryRead
    exact ⟨inst, found, engine inst, .inl ⟨m, present, .inr outside⟩⟩
  · exact ⟨inst, found, engine inst, .inr absent⟩

/-- A `useInstance` call runs its guest code with identifier 5, and a `graphql_query` call
with that identifier has an endpoint pointer one past an empty memory. -/
theorem graphqlQuery_panics_without_remove_past_memory :
    ∃ s, GrowingReachable s ∧ s.threads[2]? = some (.useInstance 0 7 (.run 0 0 5 .idle)) ∧
      ∃ p, graphqlQuery (fun _ _ _ => .ok ()) (fun _ => .ok [1]) (fun _ => some []) s.toRuntime
          1 0 0 0 5 = .error p ∧
        ∃ inst, instanceForIdentifier s.toRuntime 5 true = .ok (.ok inst) ∧
          (s.insts inst).wasmerInst = true ∧
          ((∃ m : Bytes, some [] = some m ∧
              (¬ InBounds m.length (1 : Int32).val (0 : Int32).val ∨
                ¬ InBounds m.length (0 : Int32).val (0 : Int32).val)) ∨
            (s.insts inst).ctx = none) := by
  obtain ⟨s, reach, running, failed⟩ := GrowingReachable.of_run
    (P := fun s => s.threads[2]? = some (.useInstance 0 7 (.run 0 0 5 .idle)) ∧
      (graphqlQuery (fun _ _ _ => .ok ()) (fun _ => .ok [1]) (fun _ => some []) s.toRuntime
        1 0 0 0 5).toOption.isNone = true)
    (newEnvironmentEvents 0 ++ addInstanceEvents 0 1 ++ enterInstFuncEvents 0 7 2 5)
    (by decide) (by decide)
  cases panicked : graphqlQuery (fun _ _ _ => .ok ()) (fun _ => .ok [1]) (fun _ => some [])
      s.toRuntime 1 0 0 0 5 with
  | error p => exact ⟨s, reach, running, p, panicked, graphqlQuery_panics_without_remove reach
      (fun _ _ _ => .ok ()) (fun _ => .ok [1]) (fun _ => some []) 1 0 0 0 5 panicked⟩
  | ok _ => simp [panicked, Except.toOption] at failed

end ReactrWasm
