import ReactrWasm.Environment

/-!
# The staged host-call result

A host function whose reply has a size the guest does not know stages it on
its instance with `setFFIResult`, and the guest fetches it through
`get_ffi_result`, which consumes it with `useFFIResult`. Before it stages
anything, a host function asks `instanceForIdentifier(ident, true)`, which
refuses an instance whose result is still staged.

The spec describes the slot as a one-slot buffer (`bufferCall`). This module
runs the code's calls on the instance an identifier resolves to (`hostCall`)
and proves that, for every sequence of calls in which no staged slice is nil,
the code behaves as the buffer (`hostCalls_refine_buffer`). The slot is full
exactly when `ffiResult != nil`, so a nil slice is the one input where the
two part (`nil_result_not_staged`): `setFFIResult(nil)` reports success, the
slot stays empty, and the next `useFFIResult` fails.
-/

namespace ReactrWasm

/-- A call that reads or writes the staged result of one instance. -/
inductive FFICall
  /-- `setFFIResult(data)`; `none` is the nil slice. -/
  | setFFIResult (data : Option Bytes)
  | useFFIResult
  | instanceForIdentifier (needsFFIResult : Bool)
  deriving DecidableEq, Repr

/-- What a call reports back: success, the slice `useFFIResult` returns, or an error. -/
inductive FFIReply
  | ok
  | result (data : Option Bytes)
  | failed
  deriving DecidableEq, Repr

/-! ## The code's calls -/

/-- One call on the instance `inst` that `ident` names, as the code runs it. -/
def hostCall (r : Runtime) (ident : Int32) (inst : Nat) : FFICall → Go (FFIReply × Runtime)
  | .setFFIResult data =>
    match (r.insts inst).setFFIResult data with
    | .error _ => .ok (.failed, r)
    | .ok staged => .ok (.ok, r.setInst inst staged)
  | .useFFIResult =>
    match (r.insts inst).useFFIResult with
    | .error _ => .ok (.failed, r)
    | .ok (data, consumed) => .ok (.result (some data), r.setInst inst consumed)
  | .instanceForIdentifier needsFFIResult => do
    match ← ReactrWasm.instanceForIdentifier r ident needsFFIResult with
    | .error _ => pure (.failed, r)
    | .ok _ => pure (.ok, r)

/-- The calls one after another. -/
def hostCalls (r : Runtime) (ident : Int32) (inst : Nat) :
    List FFICall → Go (List FFIReply × Runtime)
  | [] => .ok ([], r)
  | c :: cs => do
    let (reply, r') ← hostCall r ident inst c
    let (replies, r'') ← hostCalls r' ident inst cs
    pure (reply :: replies, r'')

/-! ## The buffer the spec describes -/

/-- One call on a one-slot buffer; `slot` holds the staged slice, nil included. -/
def bufferCall (slot : Option (Option Bytes)) : FFICall → FFIReply × Option (Option Bytes)
  | .setFFIResult data => if slot.isSome then (.failed, slot) else (.ok, some data)
  | .useFFIResult =>
    match slot with
    | none => (.failed, none)
    | some data => (.result data, none)
  | .instanceForIdentifier needsFFIResult =>
    if needsFFIResult && slot.isSome then (.failed, slot) else (.ok, slot)

def bufferCalls (slot : Option (Option Bytes)) :
    List FFICall → List FFIReply × Option (Option Bytes)
  | [] => ([], slot)
  | c :: cs =>
    let (reply, slot') := bufferCall slot c
    let (replies, slot'') := bufferCalls slot' cs
    (reply :: replies, slot'')

/-- The buffer's view of an instance: its staged slice, never nil. -/
def Runtime.slot (r : Runtime) (inst : Nat) : Option (Option Bytes) :=
  (r.insts inst).ffiResult.map some

/-! ## Refinement -/

/-- Writing an instance keeps every identifier resolving where it did. -/
theorem Resolves.setInst {r : Runtime} {ident : Int32} {inst j : Nat} {x : WasmInstance}
    (resolves : Resolves r ident inst) : Resolves (r.setInst j x) ident inst :=
  resolves

theorem hostCall_refines {r : Runtime} {ident : Int32} {inst : Nat} {c : FFICall}
    (resolves : Resolves r ident inst) (nonNil : ∀ data, c = .setFFIResult data → data ≠ none) :
    ∃ r', hostCall r ident inst c = .ok ((bufferCall (r.slot inst) c).1, r') ∧
      r'.slot inst = (bufferCall (r.slot inst) c).2 ∧ Resolves r' ident inst := by
  cases c with
  | setFFIResult data =>
    obtain ⟨bytes, rfl⟩ := Option.ne_none_iff_exists'.mp (nonNil _ rfl)
    cases staged : (r.insts inst).ffiResult with
    | none =>
      refine ⟨r.setInst inst { r.insts inst with ffiResult := some bytes }, ?_, ?_,
        resolves.setInst⟩ <;>
        simp [hostCall, bufferCall, Runtime.slot, WasmInstance.setFFIResult, staged]
    | some held =>
      exact ⟨r, by simp [hostCall, bufferCall, Runtime.slot, WasmInstance.setFFIResult, staged],
        by simp [bufferCall, Runtime.slot, staged], resolves⟩
  | useFFIResult =>
    cases staged : (r.insts inst).ffiResult with
    | none =>
      exact ⟨r, by simp [hostCall, bufferCall, Runtime.slot, WasmInstance.useFFIResult, staged],
        by simp [bufferCall, Runtime.slot, staged], resolves⟩
    | some held =>
      refine ⟨r.setInst inst { r.insts inst with ffiResult := none }, ?_, ?_,
        resolves.setInst⟩ <;>
        simp [hostCall, bufferCall, Runtime.slot, WasmInstance.useFFIResult, staged]
  | instanceForIdentifier needsFFIResult =>
    refine ⟨r, ?_, by simp only [bufferCall]; split <;> rfl, resolves⟩
    simp only [hostCall, instanceForIdentifier_of_resolves resolves]
    cases needsFFIResult <;> cases staged : (r.insts inst).ffiResult <;>
      simp [bufferCall, Runtime.slot, WasmInstance.hostCallCheck, staged, bind, Except.bind,
        pure, Except.pure, Except.map]

/-- On the instance an identifier resolves to, every sequence of `setFFIResult`,
`useFFIResult` and `instanceForIdentifier` calls in which no staged slice is nil gives
the replies of the one-slot buffer, ends with the buffer's slot, and leaves the identifier
resolving to the instance. -/
theorem hostCalls_refine_buffer {r : Runtime} {ident : Int32} {inst : Nat}
    (resolves : Resolves r ident inst) (calls : List FFICall)
    (nonNil : ∀ data, FFICall.setFFIResult data ∈ calls → data ≠ none) :
    ∃ r', hostCalls r ident inst calls = .ok ((bufferCalls (r.slot inst) calls).1, r') ∧
      r'.slot inst = (bufferCalls (r.slot inst) calls).2 ∧ Resolves r' ident inst := by
  induction calls generalizing r with
  | nil => exact ⟨r, rfl, rfl, resolves⟩
  | cons c cs ih =>
    obtain ⟨r', ran, slot', resolves'⟩ :=
      hostCall_refines resolves fun data h => nonNil data (h ▸ List.mem_cons_self _ _)
    obtain ⟨r'', rest, slot'', resolves''⟩ :=
      ih resolves' fun data m => nonNil data (List.mem_cons_of_mem _ m)
    refine ⟨r'', ?_, ?_, resolves''⟩
    · simp only [hostCalls, ran, bind, Except.bind, rest, pure, Except.pure, bufferCalls, slot']
    · simp only [bufferCalls, slot'', slot']

/-- One environment whose only slot holds instance 0, and identifier 9 registered for it. -/
def oneSlotRuntime : Runtime :=
  { Runtime.initial with
    envs := fun _ => ⟨[0], 0, .unlocked⟩
    envCount := 1
    instCount := 1
    instanceMapper := fun _ => some ⟨0, 0⟩ }

theorem hostCalls_refine_buffer_stage_then_fetch :
    Resolves oneSlotRuntime 9 0 ∧
      ∃ r', hostCalls oneSlotRuntime 9 0
          [.instanceForIdentifier true, .setFFIResult (some [1]), .instanceForIdentifier true,
            .useFFIResult] =
        .ok ([.ok, .ok, .failed, .result (some [1])], r') := by
  have resolves : Resolves oneSlotRuntime 9 0 := ⟨⟨0, 0⟩, _, rfl, rfl, Int.le_refl 0, rfl⟩
  obtain ⟨r', ran, -⟩ := hostCalls_refine_buffer resolves
    [.instanceForIdentifier true, .setFFIResult (some [1]), .instanceForIdentifier true,
      .useFFIResult] (by simp)
  exact ⟨resolves, r', ran⟩

/-- Staging the nil slice: the buffer hands it back, the code fails to. -/
theorem nil_result_not_staged :
    (bufferCalls none [.setFFIResult none, .useFFIResult]).1 = [.ok, .result none] ∧
      (hostCalls Runtime.initial 9 0 [.setFFIResult none, .useFFIResult]).map Prod.fst =
        .ok [.ok, .failed] := by
  decide

end ReactrWasm
