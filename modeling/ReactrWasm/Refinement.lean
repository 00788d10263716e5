import ReactrWasm.Exclusion

/-!
# Whole calls, seen from the interleaving

`useInstance`, `addInstance` and `removeInstance` change an environment's list
and cursor only while they hold `w.lock` for writing: the selection, the
append after `init`, and step 3 of `removeInstance`. Each of these is one step,
and it changes the list and cursor as the whole call does (`EnvMove` in
`Thread.step_facts`). So however the calls interleave, every environment of
every reachable world has a list and cursor that some sequence of whole calls,
one after another, leaves (`envs_seqReachable`): on each environment the
interleaving refines `seqStep`.

What `RoundRobin` proves of environments reachable by whole calls then holds in
every reachable world: the cursor is on a slot, at `-1`, or at `0` on the
never-filled list (`cursor_in_range`); the locked section of `useInstance`
on an environment that lists an instance never panics
(`select_ok_of_nonempty`); and `n` consecutive selections on `n ≥ 1`
instances choose every slot once (`round_robin_interleaved`). The list says
nothing of which instance step 3 of `removeInstance` drops;
`double_remove_drops_open_instance` is about that.

A host call resolves its identifier in steps (`HostPc`): `Load`, then
`envLock.RLock`, then `instanceAtIndex` under `w.lock.RLock`, then the
`ffiResult` check and `envLock.RUnlock`. Run with no other call in between, and
with no writer on the locks it reads, these steps end exactly as the sequential
`instanceForIdentifier` that `FFIResult` runs (`hostCallAlone_eq`): in the
host function's body on the instance it returns, back in guest code on an
error, or in its panic, with both read locks released.
-/

namespace ReactrWasm

/-- Every environment's list and cursor are reachable by whole calls. -/
def World.EnvsSequential (s : World) : Prop :=
  ∀ w, SeqReachable (s.envs w).contents

theorem SeqReachable.of_envMove {e e' : WasmEnvironment} (reach : SeqReachable e.contents)
    (move : EnvMove e e') : SeqReachable e'.contents := by
  rcases move with same | ⟨call, stepped⟩ | rfl
  · exact same ▸ reach
  · exact .step call reach stepped
  · exact .empty

theorem World.EnvsSequential.next {s s' : World} {e : Event} (inv : s.Inv)
    (sequential : s.EnvsSequential) (stepped : s.next e = some s') : s'.EnvsSequential := by
  rcases World.next_cases stepped with
    ⟨c, rfl⟩ | ⟨p, rfl⟩ | ⟨t, below, th', r', _, threadStepped, rfl⟩
  · exact sequential
  · exact sequential
  · exact fun w => (sequential w).of_envMove ((inv.step_facts threadStepped).envs w)

theorem envsSequential_of_reachable {s : World} (reach : Reachable s) : s.EnvsSequential := by
  induction reach with
  | initial => exact fun _ => .empty
  | next _ reach' stepped ih => exact ih.next (inv_of_reachable reach') stepped

/-- Over every interleaving of the steps of any number of calls, each environment has the
instance list and cursor that some sequence of whole `addInstance`, `removeInstance` and
`useInstance` calls, run one after another from the empty environment, leaves. -/
theorem envs_seqReachable {s : World} (reach : Reachable s) (w : Nat) :
    SeqReachable (s.envs w).contents :=
  envsSequential_of_reachable reach w

theorem envs_seqReachable_two_instances :
    ∃ s, Reachable s ∧ (s.envs 0).instances = [0, 1] ∧ SeqReachable (s.envs 0).contents := by
  obtain ⟨s, reach, listed⟩ := Reachable.of_run (P := fun s => (s.envs 0).instances = [0, 1])
    (newEnvironmentEvents 0 ++ addInstanceEvents 0 1 ++ addInstanceEvents 0 2) (by decide)
  exact ⟨s, reach, listed, envs_seqReachable reach 0⟩

/-- In every reachable world, each environment's cursor is on a slot, at `-1`, or at `0` on
the never-filled list. -/
theorem cursor_in_range {s : World} (reach : Reachable s) (w : Nat) : CursorInRange (s.envs w) :=
  (cursorInRange_of_reachable (envsSequential_of_reachable reach w) :
    CursorInRange (s.envs w).contents)

/-- In every reachable world, `useInstance`'s locked section on an environment that lists an
instance moves the cursor to a slot and reads it without panicking. -/
theorem select_ok_of_nonempty {s : World} (reach : Reachable s) {w : Nat}
    (nonempty : (s.envs w).instances ≠ []) :
    ∃ (idx : Int) (inst : Nat), 0 ≤ idx ∧ idx < (s.envs w).instances.length ∧
      (s.envs w).select = .ok ({ s.envs w with instIndex := idx }, idx, inst) :=
  let ⟨lower, upper⟩ := nextIndex_mem (cursor_in_range reach w) nonempty
  ⟨_, _, lower, upper, WasmEnvironment.select_ok lower upper⟩

theorem select_ok_of_nonempty_two_instances :
    ∃ s, Reachable s ∧ (s.envs 0).instances = [0, 1] ∧
      ∃ (idx : Int) (inst : Nat), 0 ≤ idx ∧ idx < 2 ∧
        (s.envs 0).select = .ok ({ s.envs 0 with instIndex := idx }, idx, inst) := by
  obtain ⟨s, reach, listed⟩ := Reachable.of_run (P := fun s => (s.envs 0).instances = [0, 1])
    (newEnvironmentEvents 0 ++ addInstanceEvents 0 1 ++ addInstanceEvents 0 2) (by decide)
  obtain ⟨idx, inst, lower, upper, selected⟩ :=
    select_ok_of_nonempty reach (w := 0) (by simp [listed])
  exact ⟨s, reach, listed, idx, inst, lower, by simpa [listed] using upper, selected⟩

/-- In every reachable world, `n` consecutive selections on an environment with `n ≥ 1`
instances choose `(instIndex + 1 + j) mod n` for `j = 0 .. n-1`: every slot exactly once. -/
theorem round_robin_interleaved {s : World} (reach : Reachable s) {w : Nat}
    (nonempty : (s.envs w).instances ≠ []) :
    ∃ chosen, selections (s.envs w) (s.envs w).instances.length = .ok chosen ∧
      chosen.Perm ((List.range (s.envs w).instances.length).map Int.ofNat) := by
  rcases cursor_in_range reach w with ⟨lower, upper⟩ | ⟨-, empty⟩
  · exact ⟨_, selections_eq nonempty lower upper _,
      rotation_perm _ (List.length_pos.mpr nonempty)⟩
  · exact absurd empty nonempty

/-! ## A host call, run alone -/

/-- The ticks of a host call until the host function's body runs or the call is back in
guest code, at most `fuel` of them; `none` when a step waits. -/
def hostTicks : Nat → Runtime → HostPc → Option (Outcome HostPc)
  | 0, r, host => some (.next r host)
  | fuel + 1, r, host =>
    match host with
    | .idle | .body _ => some (.next r host)
    | _ =>
      match hostStep r host .tick with
      | none => none
      | some (.panic p) => some (.panic p)
      | some (.next r' host') => hostTicks fuel r' host'

/-- Guest code calls a host function with `ident`, and the host call resolves it with no other
call in between. -/
def hostCallAlone (r : Runtime) (ident : Int32) (needsFFIResult : Bool) :
    Option (Outcome HostPc) :=
  match hostStep r .idle (.call ident needsFFIResult) with
  | some (.next r' host) => hostTicks 3 r' host
  | other => other

/-- Where a host call is once `instanceForIdentifier` has returned `result`: in the host
function's body on the instance, back in guest code on an error, or stopped by the panic. -/
def Outcome.ofResolved (r : Runtime) : Go (Except String Nat) → Outcome HostPc
  | .error p => .panic p
  | .ok (.error _) => .next r .idle
  | .ok (.ok inst) => .next r (.body inst)

/-- Run with no other call in between, and with no writer on `envLock` or on the lock of the
environment the identifier names, the steps of a host call end as the sequential
`instanceForIdentifier` does, on the runtime they started from. -/
theorem hostCallAlone_eq {r : Runtime} {ident : Int32} {needsFFIResult : Bool}
    (envFree : r.envLock.writer = false)
    (free : ∀ ref, r.instanceMapper ident = some ref → (r.envs ref.envUUID).lock.writer = false) :
    hostCallAlone r ident needsFFIResult =
      some (.ofResolved r (instanceForIdentifier r ident needsFFIResult)) := by
  unfold hostCallAlone instanceForIdentifier
  cases mapped : r.instanceMapper ident with
  | none => simp [hostStep, mapped, hostTicks, Outcome.ofResolved]
  | some ref =>
    cases found : r.environment ref.envUUID with
    | none => simp [hostStep, mapped, hostTicks, RWMutex.rlock, envFree, found, Outcome.ofResolved]
    | some env =>
      obtain rfl : env = r.envs ref.envUUID := by
        unfold Runtime.environment at found
        split at found <;> cases found
        rfl
      have restored :
          ({ r with envLock := RWMutex.runlock ⟨false, r.envLock.readers + 1⟩ } : Runtime) = r := by
        obtain ⟨_, _, ⟨writer, readers⟩, _, _, _⟩ := r
        cases envFree
        rfl
      simp only [hostStep, mapped, hostTicks, RWMutex.rlock, envFree, found, free ref mapped,
        Bool.false_eq_true, if_false, Option.map_some']
      rcases indexed : (r.envs ref.envUUID).instanceAtIndex ref.instIndex with p | msg | inst
      · rfl
      · simp only [restored, bind, Except.bind, pure, Except.pure, Outcome.ofResolved]
      · cases checked : (r.insts inst).hostCallCheck needsFFIResult <;>
          simp only [checked, restored, bind, Except.bind, pure, Except.pure, Except.map,
            Outcome.ofResolved]

end ReactrWasm
