import ReactrWasm.Interleaving
import ReactrWasm.Memory

/-!
# The `graphql_query` host function

`graphql_query` resolves the identifier the guest passes with
`instanceForIdentifier(identifier, true)`, reads the endpoint and the query out of the
instance's memory, asks the job's GraphQL client, marshals the response to JSON, stages it
with `SetFFIResult` and returns its length as an `int32`. Every failure it reports returns
`-1`. The client, `json.Marshal` and the guests' memories are parameters, so the results
hold for every outcome of each.

`graphqlQuery_spec` says what one call does. When it returns, it either failed with `-1`
and changed nothing, or it staged the response on the instance the identifier resolves to,
whose slot the `ffiResult` check found empty. It panics only where `instanceForIdentifier`
does, on an instance `removeInstance` has closed (`ReadMemory` starts at
`w.wasmerInst.Exports`), where a read leaves the memory, or on an instance with no ctx. The value it returns
is the response's length only below `2^31`: in `graphqlQuery_staged_minus_one_and_panic` a
response of `2^32 - 1` bytes is staged and answered with `-1`, and a read past the memory
panics.

`graphqlQuery_refines_hostStep` places the call in the interleaving model: what it does to
the state is one step of a host function's body (`hostStep` on `.body`) after the
identifier resolved.
-/

namespace ReactrWasm

/-- `inst.ReadMemory(pointer, size)` on the instance `x`, whose `memory` export is `memory`:
`w.wasmerInst.Exports` is a nil dereference once step 4 of `removeInstance` has set
`wasmerInst` to nil; otherwise `readMemory` on the export. -/
def WasmInstance.readMemory (x : WasmInstance) (memory : Option Bytes) (pointer size : Int32) :
    Go Bytes :=
  if x.wasmerInst then ReactrWasm.readMemory memory pointer size else throw .nilDereference

theorem WasmInstance.readMemory_open {x : WasmInstance} (engine : x.wasmerInst = true)
    (memory : Option Bytes) (pointer size : Int32) :
    x.readMemory memory pointer size = ReactrWasm.readMemory memory pointer size := by
  simp [WasmInstance.readMemory, engine]

/-- `graphql_query`, on the package state `r`. `memory inst` is the `memory` export of
instance `inst`; `client ctx` is `GraphQLClient.Do` with the client and `Auth` of the ctx,
on the endpoint and the query (Go strings, so their bytes); `marshal` is `json.Marshal` on
the client's response. The value is the host function's return value and the state after
it; the errors it logs are left out. -/
def graphqlQuery {Resp : Type} (client : Ctx → Bytes → Bytes → Except String Resp)
    (marshal : Resp → Except String Bytes) (memory : Nat → Option Bytes) (r : Runtime)
    (endpointPointer endpointSize queryPointer querySize identifier : Int32) :
    Go (Int32 × Runtime) := do
  match ← instanceForIdentifier r identifier true with
  | .error _ => pure (Int32.ofInt (-1), r)
  | .ok inst =>
    let endpointBytes ← (r.insts inst).readMemory (memory inst) endpointPointer endpointSize
    let queryBytes ← (r.insts inst).readMemory (memory inst) queryPointer querySize
    -- `inst.Ctx().GraphQLClient` on a nil ctx
    let some ctx := (r.insts inst).ctx | throw .nilDereference
    match client ctx endpointBytes queryBytes with
    | .error _ => pure (Int32.ofInt (-1), r)
    | .ok resp =>
      match marshal resp with
      | .error _ => pure (Int32.ofInt (-1), r)
      | .ok respBytes =>
        -- the error of `inst.SetFFIResult(respBytes)` is dropped
        let r' := match (r.insts inst).setFFIResult (some respBytes) with
          | .error _ => r
          | .ok staged => r.setInst inst staged
        pure (Int32.ofInt respBytes.length, r')

/-- Instance 0 runs a job with ctx 0 in the only slot of environment 0, and identifier 9
names that slot: the state `useInstance` sets up for its guest. -/
def queryRuntime : Runtime :=
  { Runtime.initial with
    envs := fun _ => ⟨[0], 0, .unlocked⟩
    envCount := 1
    insts := fun _ => { WasmInstance.fresh with ctx := some 0, gate := 1 }
    instCount := 1
    instanceMapper := fun ident => if ident.val = 9 then some ⟨0, 0⟩ else none }

section Spec

variable {Resp : Type} (client : Ctx → Bytes → Bytes → Except String Resp)
  (marshal : Resp → Except String Bytes) (memory : Nat → Option Bytes) (r : Runtime)
  (endpointPointer endpointSize queryPointer querySize identifier : Int32)

/-- Every step of `graphql_query` before `SetFFIResult` succeeds on the instance `inst`, and
`json.Marshal` gives `respBytes`. -/
def QueryAnswered (inst : Nat) (respBytes : Bytes) : Prop :=
  instanceForIdentifier r identifier true = .ok (.ok inst) ∧ (r.insts inst).wasmerInst = true ∧
  ∃ ctx endpoint query resp, (r.insts inst).ctx = some ctx ∧
    readMemory (memory inst) endpointPointer endpointSize = .ok endpoint ∧
    readMemory (memory inst) queryPointer querySize = .ok query ∧
    client ctx endpoint query = .ok resp ∧ marshal resp = .ok respBytes

theorem graphqlQuery_of_answered {inst : Nat} {respBytes : Bytes}
    (answered : QueryAnswered client marshal memory r endpointPointer endpointSize queryPointer
      querySize identifier inst respBytes) :
    graphqlQuery client marshal memory r endpointPointer endpointSize queryPointer querySize
      identifier = .ok (Int32.ofInt respBytes.length,
        r.setInst inst { r.insts inst with ffiResult := some respBytes }) := by
  obtain ⟨found, engine, ctx, endpoint, query, resp, running, endpointRead, queryRead, answered,
    marshalled⟩ := answered
  simp [graphqlQuery, found, WasmInstance.readMemory_open engine, endpointRead, queryRead,
    running, answered, marshalled,
    WasmInstance.setFFIResult_of_empty (WasmInstance.ffiResult_of_hostCallCheck
      (instanceForIdentifier_eq_ok found).2), bind, Except.bind, pure, Except.pure]

theorem graphqlQuery_eq_ok {ret : Int32} {r' : Runtime}
    (returned : graphqlQuery client marshal memory r endpointPointer endpointSize queryPointer
      querySize identifier = .ok (ret, r')) :
    (ret = Int32.ofInt (-1) ∧ r' = r) ∨
    ∃ inst respBytes, QueryAnswered client marshal memory r endpointPointer endpointSize
      queryPointer querySize identifier inst respBytes ∧ ret = Int32.ofInt respBytes.length ∧
      r' = r.setInst inst { r.insts inst with ffiResult := some respBytes } := by
  simp only [graphqlQuery, bind, Except.bind, pure, Except.pure] at returned
  rcases found : instanceForIdentifier r identifier true with p | err | inst
  all_goals simp only [found, reduceCtorEq, Except.ok.injEq, Prod.mk.injEq] at returned
  · exact .inl ⟨returned.1.symm, returned.2.symm⟩
  cases engine : (r.insts inst).wasmerInst
  · simp [WasmInstance.readMemory, engine, throw, throwThe, MonadExceptOf.throw] at returned
  simp only [WasmInstance.readMemory_open engine] at returned
  rcases endpointRead : readMemory (memory inst) endpointPointer endpointSize with p | endpoint
  all_goals simp only [endpointRead, reduceCtorEq] at returned
  rcases queryRead : readMemory (memory inst) queryPointer querySize with p | query
  all_goals simp only [queryRead, reduceCtorEq] at returned
  rcases running : (r.insts inst).ctx with _ | ctx
  all_goals simp only [running, throw, throwThe, MonadExceptOf.throw, reduceCtorEq] at returned
  rcases answered : client ctx endpoint query with e | resp
  all_goals simp only [answered, Except.ok.injEq, Prod.mk.injEq] at returned
  · exact .inl ⟨returned.1.symm, returned.2.symm⟩
  rcases marshalled : marshal resp with e | respBytes
  all_goals simp only [marshalled, Except.ok.injEq, Prod.mk.injEq] at returned
  · exact .inl ⟨returned.1.symm, returned.2.symm⟩
  rw [WasmInstance.setFFIResult_of_empty
    (WasmInstance.ffiResult_of_hostCallCheck (instanceForIdentifier_eq_ok found).2)] at returned
  exact .inr ⟨inst, respBytes,
    ⟨found, engine, ctx, endpoint, query, resp, running, endpointRead, queryRead, answered,
      marshalled⟩,
    returned.1.symm, returned.2.symm⟩

theorem graphqlQuery_eq_error {p : GoPanic}
    (panicked : graphqlQuery client marshal memory r endpointPointer endpointSize queryPointer
      querySize identifier = .error p) :
    instanceForIdentifier r identifier true = .error p ∨
    ∃ inst, instanceForIdentifier r identifier true = .ok (.ok inst) ∧
      ((r.insts inst).wasmerInst = false ∨
        readMemory (memory inst) endpointPointer endpointSize = .error p ∨
        readMemory (memory inst) queryPointer querySize = .error p ∨
        (r.insts inst).ctx = none) := by
  simp only [graphqlQuery, bind, Except.bind, pure, Except.pure] at panicked
  rcases found : instanceForIdentifier r identifier true with q | err | inst
  all_goals simp only [found, reduceCtorEq, Except.error.injEq] at panicked
  · exact .inl (panicked ▸ rfl)
  refine .inr ⟨inst, rfl, ?_⟩
  cases engine : (r.insts inst).wasmerInst
  · exact .inl rfl
  simp only [WasmInstance.readMemory_open engine] at panicked
  rcases endpointRead : readMemory (memory inst) endpointPointer endpointSize with q | endpoint
  all_goals simp only [endpointRead, Except.error.injEq] at panicked
  · exact .inr (.inl (panicked ▸ rfl))
  rcases queryRead : readMemory (memory inst) queryPointer querySize with q | query
  all_goals simp only [queryRead, Except.error.injEq] at panicked
  · exact .inr (.inr (.inl (panicked ▸ rfl)))
  rcases running : (r.insts inst).ctx with _ | ctx
  · exact .inr (.inr (.inr rfl))
  rcases answered : client ctx endpoint query with e | resp
  all_goals simp only [running, answered, reduceCtorEq] at panicked
  rcases marshalled : marshal resp with e | respBytes <;>
    simp only [marshalled, reduceCtorEq] at panicked

/-- What `graphql_query` does, for every state, identifier, guest memory, pointer and size,
client outcome and `json.Marshal` outcome. When it returns, it either failed with `-1` and
changed nothing, or every step succeeded and it staged the marshalled response on the
instance the identifier resolves to, whose slot was empty, and changed nothing else; the
value it returns is then the response's length when that is below `2^31`. It stages
whenever every step succeeds. It panics only where `instanceForIdentifier` does, on an
instance whose engine instance `removeInstance` has set to nil, where a read leaves the
instance's memory, or on an instance with no ctx. -/
theorem graphqlQuery_spec :
    (∀ ret r', graphqlQuery client marshal memory r endpointPointer endpointSize queryPointer
        querySize identifier = .ok (ret, r') →
      (ret.val = -1 ∧ r' = r) ∨
      ∃ inst respBytes, QueryAnswered client marshal memory r endpointPointer endpointSize
          queryPointer querySize identifier inst respBytes ∧
        Resolves r identifier inst ∧ (r.insts inst).ffiResult = none ∧
        r' = r.setInst inst { r.insts inst with ffiResult := some respBytes } ∧
        (respBytes.length < 2147483648 → ret.val = respBytes.length)) ∧
    (∀ inst respBytes, QueryAnswered client marshal memory r endpointPointer endpointSize
        queryPointer querySize identifier inst respBytes →
      ∃ ret, graphqlQuery client marshal memory r endpointPointer endpointSize queryPointer
        querySize identifier =
          .ok (ret, r.setInst inst { r.insts inst with ffiResult := some respBytes })) ∧
    (∀ p, graphqlQuery client marshal memory r endpointPointer endpointSize queryPointer
        querySize identifier = .error p →
      instanceForIdentifier r identifier true = .error p ∨
      ∃ inst, instanceForIdentifier r identifier true = .ok (.ok inst) ∧
        ((r.insts inst).wasmerInst = false ∨ (∃ m, memory inst = some m ∧
            (¬ InBounds m.length endpointPointer.val endpointSize.val ∨
              ¬ InBounds m.length queryPointer.val querySize.val)) ∨
          (r.insts inst).ctx = none)) := by
  refine ⟨fun ret r' returned => ?_, fun inst respBytes answered => ⟨_, graphqlQuery_of_answered
    client marshal memory r endpointPointer endpointSize queryPointer querySize identifier
    answered⟩, fun p panicked => ?_⟩
  · rcases graphqlQuery_eq_ok client marshal memory r endpointPointer endpointSize queryPointer
      querySize identifier returned with ⟨rfl, rfl⟩ | ⟨inst, respBytes, answered, rfl, rfl⟩
    · exact .inl ⟨rfl, rfl⟩
    · obtain ⟨resolves, checked⟩ := instanceForIdentifier_eq_ok answered.1
      exact .inr ⟨inst, respBytes, answered, resolves,
        WasmInstance.ffiResult_of_hostCallCheck checked, rfl,
        fun short => Int32.ofInt_val (by omega) (by omega)⟩
  · rcases graphqlQuery_eq_error client marshal memory r endpointPointer endpointSize queryPointer
      querySize identifier panicked with
      found | ⟨inst, found, closed | endpointRead | queryRead | absent⟩
    · exact .inl found
    · exact .inr ⟨inst, found, .inl closed⟩
    · obtain ⟨m, present, outside⟩ := readMemory_eq_error endpointRead
      exact .inr ⟨inst, found, .inr (.inl ⟨m, present, .inl outside⟩)⟩
    · obtain ⟨m, present, outside⟩ := readMemory_eq_error queryRead
      exact .inr ⟨inst, found, .inr (.inl ⟨m, present, .inr outside⟩)⟩
    · exact .inr ⟨inst, found, .inr (.inr absent)⟩

/-- A response of `2^32 - 1` bytes is staged, and `int32(len(respBytes))` answers it with
`-1`, the value every failure returns; and an endpoint pointer one past an empty memory
panics in the read. -/
theorem graphqlQuery_staged_minus_one_and_panic :
    graphqlQuery (fun _ _ _ => .ok ()) (fun _ => .ok (List.replicate 4294967295 0))
        (fun _ => some []) queryRuntime 0 0 0 0 9 =
      .ok (Int32.ofInt (-1), queryRuntime.setInst 0
        { queryRuntime.insts 0 with ffiResult := some (List.replicate 4294967295 0) }) ∧
    graphqlQuery (fun _ _ _ => .ok ()) (fun _ => .ok (List.replicate 4294967295 0))
        (fun _ => some []) queryRuntime 1 0 0 0 9 = .error (.sliceOutOfRange 1 0) := by
  have answered : QueryAnswered (fun _ _ _ => .ok ()) (fun _ => .ok (List.replicate 4294967295 0))
      (fun _ => some []) queryRuntime 0 0 0 0 9 0 (List.replicate 4294967295 0) :=
    ⟨by decide, rfl, 0, [], [], (), rfl, by decide, by decide, rfl, rfl⟩
  rw [graphqlQuery_of_answered _ _ _ _ _ _ _ _ _ answered, List.length_replicate]
  exact ⟨rfl, rfl⟩

/-- A `graphql_query` call that returns does to the state what the interleaving model's host
call does after the identifier resolved: with an error, it is back in guest code on the same
state; on an instance, one step of the host function's body takes the state where the call
leaves it (staging the response, or returning). With `hostCallAlone_eq`, which runs the
resolution's own steps, the call is a run of the host call's steps. -/
theorem graphqlQuery_refines_hostStep {ret : Int32} {r' : Runtime}
    (returned : graphqlQuery client marshal memory r endpointPointer endpointSize queryPointer
      querySize identifier = .ok (ret, r')) :
    (∃ err, instanceForIdentifier r identifier true = .ok (.error err) ∧ r' = r) ∨
    ∃ inst input, instanceForIdentifier r identifier true = .ok (.ok inst) ∧
      hostStep r (.body inst) input = some (.next r' .idle) := by
  rcases found : instanceForIdentifier r identifier true with p | err | inst
  · simp only [graphqlQuery, found, bind, Except.bind, reduceCtorEq] at returned
  · simp only [graphqlQuery, found, bind, Except.bind, pure, Except.pure, Except.ok.injEq,
      Prod.mk.injEq] at returned
    exact .inl ⟨err, rfl, returned.2.symm⟩
  refine .inr ⟨inst, ?_⟩
  rcases graphqlQuery_eq_ok client marshal memory r endpointPointer endpointSize queryPointer
    querySize identifier returned with
    ⟨-, rfl⟩ | ⟨inst', respBytes, ⟨resolved, -⟩, -, rfl⟩
  · exact ⟨.tick, rfl, rfl⟩
  · obtain rfl : inst' = inst := by simpa [found] using resolved.symm
    refine ⟨.stage (some respBytes), rfl, ?_⟩
    simp [hostStep, WasmInstance.setFFIResult_of_empty
      (WasmInstance.ffiResult_of_hostCallCheck (instanceForIdentifier_eq_ok found).2)]

end Spec

theorem graphqlQuery_refines_hostStep_one_byte :
    graphqlQuery (fun _ _ _ => .ok ()) (fun _ => .ok [1]) (fun _ => some []) queryRuntime
        0 0 0 0 9 =
      .ok (1, queryRuntime.setInst 0 { queryRuntime.insts 0 with ffiResult := some [1] }) ∧
      ((∃ err, instanceForIdentifier queryRuntime 9 true = .ok (.error err) ∧
          queryRuntime.setInst 0 { queryRuntime.insts 0 with ffiResult := some [1] } =
            queryRuntime) ∨
        ∃ inst input, instanceForIdentifier queryRuntime 9 true = .ok (.ok inst) ∧
          hostStep queryRuntime (.body inst) input =
            some (.next (queryRuntime.setInst 0 { queryRuntime.insts 0 with ffiResult := some [1] })
              .idle)) :=
  ⟨rfl, graphqlQuery_refines_hostStep (fun _ _ _ => .ok ()) (fun _ => .ok [1]) (fun _ => some [])
    queryRuntime 0 0 0 0 9 rfl⟩

end ReactrWasm
