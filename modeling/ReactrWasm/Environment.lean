import ReactrWasm.Basic

/-!
# Environments, instances and the identifier registry

The process-wide state of `rwasm`: the `environments` map under `envLock`,
each `wasmEnvironment` with its instance list, round-robin cursor `instIndex`
and `lock`; the `wasmInstance`s, with their `ctx`, staged `ffiResult` and
`access` semaphore; and `instanceMapper`, the registry from random `int32`
identifiers to `instanceReference`s.

Pointers are modelled by identity: an environment by its UUID, a number, and
an instance by its place in the heap of every instance ever built. A pointer
field that the code sets to `nil` is a `Bool` that records whether it is still
set.

This module also gives the pieces of the locked sections that the
interleaving model runs as single steps (`WasmEnvironment.select`,
`WasmEnvironment.trim`, `WasmEnvironment.instanceAtIndex`), and
`instanceForIdentifier` read as one sequential call.
-/

namespace ReactrWasm

/-- A job's `*rt.Ctx`, by identity. -/
abbrev Ctx := Nat

/-- `wasmInstance`. `wasmerInst` and `access` say whether those pointers are still set;
`gate` is the weight held on the `access` semaphore (`semaphore.NewWeighted(1)`). -/
structure WasmInstance where
  wasmerInst : Bool
  ctx : Option Ctx
  ffiResult : Option Bytes
  access : Bool
  gate : Nat
  deriving DecidableEq, Repr

/-- The instance `addInstance` builds: a live engine instance and a free semaphore. -/
def WasmInstance.fresh : WasmInstance := ⟨true, none, none, true, 0⟩

/-- `instanceReference`: where an identifier points. -/
structure InstanceReference where
  envUUID : Nat
  instIndex : Int
  deriving DecidableEq, Repr

/-- `wasmEnvironment`: its instance list, the round-robin cursor and its `lock`. -/
structure WasmEnvironment where
  instances : List Nat
  instIndex : Int
  lock : RWMutex
  deriving DecidableEq, Repr

/-- The environment `newEnvironment` registers. -/
def WasmEnvironment.empty : WasmEnvironment := ⟨[], 0, RWMutex.unlocked⟩

/-- The package state of `rwasm`: `environments` (the first `envCount` UUIDs), `envLock`,
the heap of instances and `instanceMapper`. -/
structure Runtime where
  envs : Nat → WasmEnvironment
  envCount : Nat
  envLock : RWMutex
  insts : Nat → WasmInstance
  instCount : Nat
  instanceMapper : Int32 → Option InstanceReference

namespace Runtime

/-- The state before any environment exists. -/
def initial : Runtime :=
  ⟨fun _ => WasmEnvironment.empty, 0, RWMutex.unlocked, fun _ => WasmInstance.fresh, 0,
    fun _ => none⟩

/-- `environments[uuid]`. -/
def environment (s : Runtime) (uuid : Nat) : Option WasmEnvironment :=
  if uuid < s.envCount then some (s.envs uuid) else none

def setEnv (s : Runtime) (w : Nat) (env : WasmEnvironment) : Runtime :=
  { s with envs := Function.update s.envs w env }

def setInst (s : Runtime) (i : Nat) (inst : WasmInstance) : Runtime :=
  { s with insts := Function.update s.insts i inst }

@[simp] theorem setEnv_envs (s : Runtime) (w w' : Nat) (env : WasmEnvironment) :
    (s.setEnv w env).envs w' = if w' = w then env else s.envs w' := by
  simp [setEnv, Function.update_apply]

@[simp] theorem setEnv_insts (s : Runtime) (w : Nat) (env : WasmEnvironment) :
    (s.setEnv w env).insts = s.insts := rfl

@[simp] theorem setEnv_instCount (s : Runtime) (w : Nat) (env : WasmEnvironment) :
    (s.setEnv w env).instCount = s.instCount := rfl

@[simp] theorem setEnv_envLock (s : Runtime) (w : Nat) (env : WasmEnvironment) :
    (s.setEnv w env).envLock = s.envLock := rfl

@[simp] theorem setEnv_instanceMapper (s : Runtime) (w : Nat) (env : WasmEnvironment) :
    (s.setEnv w env).instanceMapper = s.instanceMapper := rfl

@[simp] theorem setInst_insts (s : Runtime) (i j : Nat) (inst : WasmInstance) :
    (s.setInst i inst).insts j = if j = i then inst else s.insts j := by
  simp [setInst, Function.update_apply]

@[simp] theorem setInst_envs (s : Runtime) (i : Nat) (inst : WasmInstance) :
    (s.setInst i inst).envs = s.envs := rfl

@[simp] theorem setInst_instCount (s : Runtime) (i : Nat) (inst : WasmInstance) :
    (s.setInst i inst).instCount = s.instCount := rfl

@[simp] theorem setInst_envLock (s : Runtime) (i : Nat) (inst : WasmInstance) :
    (s.setInst i inst).envLock = s.envLock := rfl

@[simp] theorem setInst_instanceMapper (s : Runtime) (i : Nat) (inst : WasmInstance) :
    (s.setInst i inst).instanceMapper = s.instanceMapper := rfl

end Runtime

/-! ## The locked sections of an environment -/

namespace WasmEnvironment

/-- The cursor `useInstance` moves to: back to `0` from the last slot, else one further. -/
def nextIndex (w : WasmEnvironment) : Int :=
  if w.instIndex = w.instances.length - 1 then 0 else w.instIndex + 1

/-- `useInstance`'s section under `w.lock`: advance the cursor, then `w.instances[instIndex]`. -/
def select (w : WasmEnvironment) : Go (WasmEnvironment × Int × Nat) := do
  let instIndex := w.nextIndex
  let inst ← goIndex w.instances instIndex
  pure ({ w with instIndex }, instIndex, inst)

/-- Step 1 of `removeInstance`, under `w.lock.RLock`: the last instance, if there is one. -/
def lastInstance (w : WasmEnvironment) : Option Nat := w.instances.getLast?

/-- Step 3 of `removeInstance`, under `w.lock`: move the cursor back if it is on the last
slot, then `w.instances[:len(w.instances)-1]`. -/
def trim (w : WasmEnvironment) : Go WasmEnvironment := do
  let instIndex := if w.instIndex = w.instances.length - 1 then w.instIndex - 1 else w.instIndex
  let instances ← goSliceTo w.instances (w.instances.length - 1)
  pure { w with instIndex, instances }

/-- `addInstance`'s append of the new instance. -/
def append (w : WasmEnvironment) (inst : Nat) : WasmEnvironment :=
  { w with instances := w.instances ++ [inst] }

/-- `instanceAtIndex` under `w.lock.RLock`: its bounds check, then `w.instances[idx]`. -/
def instanceAtIndex (w : WasmEnvironment) (idx : Int) : Go (Except String Nat) :=
  if w.instances.length ≤ idx - 1 then .ok (.error "invalid instance index")
  else do
    let inst ← goIndex w.instances idx
    pure (.ok inst)

theorem select_eq_ok {w w' : WasmEnvironment} {idx : Int} {inst : Nat}
    (selected : w.select = .ok (w', idx, inst)) :
    w' = { w with instIndex := w.nextIndex } ∧ idx = w.nextIndex ∧ inst ∈ w.instances := by
  simp only [select, bind, Except.bind] at selected
  split at selected
  · cases selected
  · rename_i found
    cases selected
    exact ⟨rfl, rfl, mem_of_goIndex found⟩

theorem select_slot {w w' : WasmEnvironment} {idx : Int} {inst : Nat}
    (selected : w.select = .ok (w', idx, inst)) : 0 ≤ idx ∧ w.instances[idx.toNat]? = some inst := by
  simp only [select, bind, Except.bind] at selected
  split at selected
  · cases selected
  · cases selected
    exact goIndex_eq_ok ‹_›

theorem select_eq_error {w : WasmEnvironment} {p : GoPanic} (panicked : w.select = .error p) :
    (w.nextIndex < 0 ∨ w.instances.length ≤ w.nextIndex) ∧
      p = .indexOutOfRange w.nextIndex w.instances.length := by
  simp only [select, bind, Except.bind] at panicked
  split at panicked
  · cases panicked
    exact goIndex_eq_error ‹_›
  · cases panicked

theorem mem_of_lastInstance {w : WasmEnvironment} {inst : Nat}
    (last : w.lastInstance = some inst) : inst ∈ w.instances :=
  List.mem_of_mem_getLast? last

theorem trim_eq_ok {w w' : WasmEnvironment} (trimmed : w.trim = .ok w') :
    w'.instances = w.instances.take (w.instances.length - 1 : Int).toNat := by
  simp only [trim, bind, Except.bind] at trimmed
  split at trimmed
  · cases trimmed
  · rename_i sliced
    cases trimmed
    exact goSliceTo_eq_ok sliced

theorem mem_of_instanceAtIndex {w : WasmEnvironment} {idx : Int} {inst : Nat}
    (found : w.instanceAtIndex idx = .ok (.ok inst)) : inst ∈ w.instances := by
  unfold instanceAtIndex at found
  split at found
  · cases found
  · simp only [bind, Except.bind] at found
    split at found
    · cases found
    · rename_i indexed
      cases found
      exact mem_of_goIndex indexed

theorem instanceAtIndex_eq_ok {w : WasmEnvironment} {idx : Int} {inst : Nat}
    (found : w.instanceAtIndex idx = .ok (.ok inst)) :
    0 ≤ idx ∧ w.instances[idx.toNat]? = some inst := by
  unfold instanceAtIndex at found
  split at found
  · cases found
  · simp only [bind, Except.bind] at found
    split at found
    · cases found
    · rename_i indexed
      cases found
      exact goIndex_eq_ok indexed

/-- `instanceAtIndex` panics on a negative index and on the one index past the end that its
bounds check lets through. -/
theorem instanceAtIndex_eq_error {w : WasmEnvironment} {idx : Int} {p : GoPanic}
    (panicked : w.instanceAtIndex idx = .error p) :
    (idx < 0 ∨ idx = w.instances.length) ∧ p = .indexOutOfRange idx w.instances.length := by
  unfold instanceAtIndex at panicked
  split at panicked
  · cases panicked
  · simp only [bind, Except.bind] at panicked
    split at panicked
    · cases panicked
      obtain ⟨outside, rfl⟩ := goIndex_eq_error ‹_›
      exact ⟨by omega, rfl⟩
    · cases panicked

theorem select_ok {w : WasmEnvironment} (inRange : 0 ≤ w.nextIndex)
    (below : w.nextIndex < w.instances.length) :
    w.select = .ok ({ w with instIndex := w.nextIndex }, w.nextIndex,
      w.instances.get ⟨w.nextIndex.toNat, by omega⟩) := by
  simp [select, goIndex_ok inRange below, bind, Except.bind, pure, Except.pure]

theorem trim_ok {w : WasmEnvironment} (nonempty : w.instances ≠ []) :
    w.trim = .ok { w with
      instIndex := if w.instIndex = w.instances.length - 1 then w.instIndex - 1 else w.instIndex
      instances := w.instances.dropLast } := by
  have positive : 0 < w.instances.length := List.length_pos.mpr nonempty
  simp only [trim, goSliceTo, bind, Except.bind, pure, Except.pure]
  rw [if_pos (by omega)]
  simp only [List.dropLast_eq_take]
  congr 3
  omega

/-- The bounds check `len(w.instances) <= idx-1` lets `idx = len` through, and then the
index panics. -/
theorem instanceAtIndex_at_length (w : WasmEnvironment) :
    w.instanceAtIndex w.instances.length =
      .error (.indexOutOfRange w.instances.length w.instances.length) := by
  have passes : ¬ (w.instances.length : Int) ≤ w.instances.length - 1 := by omega
  simp [instanceAtIndex, passes, goIndex_of_le (s := w.instances) (Int.le_refl _), bind,
    Except.bind]

end WasmEnvironment

/-! ## The staged host-call result -/

namespace WasmInstance

/-- `wasmInstance.setFFIResult`: stage `data` (a possibly nil slice) unless a result is set. -/
def setFFIResult (w : WasmInstance) (data : Option Bytes) : Except String WasmInstance :=
  if w.ffiResult.isSome then .error "instance ffiResult is already set"
  else .ok { w with ffiResult := data }

/-- `wasmInstance.useFFIResult`: hand out the staged result and clear the slot. -/
def useFFIResult (w : WasmInstance) : Except String (Bytes × WasmInstance) :=
  match w.ffiResult with
  | none => .error "instance ffiResult is not set"
  | some result => .ok (result, { w with ffiResult := none })

theorem setFFIResult_eq_ok {w w' : WasmInstance} {data : Option Bytes}
    (staged : w.setFFIResult data = .ok w') :
    w.ffiResult = none ∧ w' = { w with ffiResult := data } := by
  unfold setFFIResult at staged
  split at staged
  · cases staged
  · cases staged
    simp_all

theorem useFFIResult_eq_ok {w w' : WasmInstance} {result : Bytes}
    (consumed : w.useFFIResult = .ok (result, w')) :
    w.ffiResult = some result ∧ w' = { w with ffiResult := none } := by
  unfold useFFIResult at consumed
  split at consumed
  · cases consumed
  · cases consumed
    simp_all

theorem setFFIResult_of_empty {w : WasmInstance} (empty : w.ffiResult = none) (data : Option Bytes) :
    w.setFFIResult data = .ok { w with ffiResult := data } := by
  simp [setFFIResult, empty]

end WasmInstance

/-! ## Resolving an identifier -/

/-- The message `instanceForIdentifier` fails with when a host call finds a staged result. -/
def pendingCallMessage : String := "cannot use instance for host call with existing call in progress"

/-- The last check of `instanceForIdentifier`: a host call that stages a result needs the
slot empty. -/
def WasmInstance.hostCallCheck (inst : WasmInstance) (needsFFIResult : Bool) : Except String Unit :=
  if needsFFIResult && inst.ffiResult.isSome then .error pendingCallMessage else .ok ()

theorem WasmInstance.ffiResult_of_hostCallCheck {inst : WasmInstance}
    (checked : inst.hostCallCheck true = .ok ()) : inst.ffiResult = none := by
  cases staged : inst.ffiResult <;> simp_all [WasmInstance.hostCallCheck]

/-- `instanceForIdentifier`, read as one sequential call on a state: `Load` the reference,
look the environment up, `instanceAtIndex`, then the `ffiResult` check. -/
def instanceForIdentifier (s : Runtime) (ident : Int32) (needsFFIResult : Bool) :
    Go (Except String Nat) :=
  match s.instanceMapper ident with
  | none => .ok (.error "instance does not exist")
  | some ref =>
    match s.environment ref.envUUID with
    | none => .ok (.error "environment does not exist")
    | some env => do
      match ← env.instanceAtIndex ref.instIndex with
      | .error err => pure (.error ("failed to instanceAtIndex: " ++ err))
      | .ok inst =>
        pure (((s.insts inst).hostCallCheck needsFFIResult).map fun _ => inst)

/-- The identifier is registered for slot `idx` of a registered environment, and that slot
holds `inst`: the state a `useInstance` call sets up for its guest. -/
def Resolves (s : Runtime) (ident : Int32) (inst : Nat) : Prop :=
  ∃ ref env, s.instanceMapper ident = some ref ∧ s.environment ref.envUUID = some env ∧
    0 ≤ ref.instIndex ∧ env.instances[ref.instIndex.toNat]? = some inst

/-- When the identifier resolves, `instanceForIdentifier` returns that instance unless the
`ffiResult` check refuses it. -/
theorem instanceForIdentifier_of_resolves {s : Runtime} {ident : Int32} {inst : Nat}
    (resolves : Resolves s ident inst) (needsFFIResult : Bool) :
    instanceForIdentifier s ident needsFFIResult =
      .ok (((s.insts inst).hostCallCheck needsFFIResult).map fun _ => inst) := by
  obtain ⟨ref, env, mapped, found, lower, slot⟩ := resolves
  obtain ⟨below, slot⟩ := List.getElem?_eq_some.mp slot
  have checked : ¬ (env.instances.length : Int) ≤ ref.instIndex - 1 := by omega
  simp [instanceForIdentifier, mapped, found, WasmEnvironment.instanceAtIndex, checked,
    goIndex_ok (s := env.instances) lower (by omega), slot, bind, Except.bind, pure, Except.pure]

/-- `instanceForIdentifier` panics only in `instanceAtIndex`, on a registered environment. -/
theorem instanceForIdentifier_eq_error {s : Runtime} {ident : Int32} {needsFFIResult : Bool}
    {p : GoPanic} (panicked : instanceForIdentifier s ident needsFFIResult = .error p) :
    ∃ ref, s.instanceMapper ident = some ref ∧ ref.envUUID < s.envCount ∧
      (s.envs ref.envUUID).instanceAtIndex ref.instIndex = .error p := by
  unfold instanceForIdentifier at panicked
  split at panicked
  · cases panicked
  · rename_i ref mapped
    split at panicked
    · cases panicked
    · rename_i env present
      unfold Runtime.environment at present
      split at present
      · rename_i registered
        cases present
        rcases indexed : (s.envs ref.envUUID).instanceAtIndex ref.instIndex with q | found
        · simp only [indexed, bind, Except.bind] at panicked
          cases panicked
          exact ⟨ref, mapped, registered, indexed⟩
        · rcases found with msg | slot <;>
            simp [indexed, bind, Except.bind, pure, Except.pure] at panicked
      · cases present

/-- An instance `instanceForIdentifier` returns is the one the identifier resolves to, and it
passed the `ffiResult` check. -/
theorem instanceForIdentifier_eq_ok {s : Runtime} {ident : Int32} {needsFFIResult : Bool}
    {inst : Nat} (found : instanceForIdentifier s ident needsFFIResult = .ok (.ok inst)) :
    Resolves s ident inst ∧ (s.insts inst).hostCallCheck needsFFIResult = .ok () := by
  unfold instanceForIdentifier at found
  split at found
  · cases found
  · rename_i ref mapped
    split at found
    · cases found
    · rename_i env present
      rcases indexed : env.instanceAtIndex ref.instIndex with p | msg | slot
      · simp [indexed, bind, Except.bind] at found
      · simp [indexed, bind, Except.bind, pure, Except.pure] at found
      simp only [indexed, bind, Except.bind, pure, Except.pure] at found
      cases checked : (s.insts slot).hostCallCheck needsFFIResult <;>
        simp only [checked, Except.map, Except.ok.injEq, reduceCtorEq] at found
      subst found
      obtain ⟨lower, slotted⟩ := WasmEnvironment.instanceAtIndex_eq_ok indexed
      exact ⟨⟨ref, env, mapped, present, lower, slotted⟩, checked⟩

end ReactrWasm
