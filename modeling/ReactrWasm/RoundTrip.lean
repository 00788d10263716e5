import ReactrWasm.Growth

/-!
# The round trip of an identifier

`useInstance` draws a random identifier, `Load`s it and, when it is free, `Store`s it for
the slot it selected. The guest's host calls then resolve it back with
`instanceForIdentifier`. Two schedules in `Registry` break this round trip. In one,
`removeInstance` trims the list under the selected slot. In the other, two calls find one
identifier free between `Load` and `Store`, and both store it.

`SerialReachable` holds for the worlds reached by schedules that rule out both: they start
no `removeInstance` call, and no call draws while another has drawn an identifier and not
yet stored it. In those worlds the registry maps each live identifier to its own call's
slot, and at most one call holds each identifier (`World.SerialInv`). So a call's
identifier resolves to the instance whose gate the call holds
(`own_identifier_round_trip`).
-/

namespace ReactrWasm

/-! ## Runs under a scheduling discipline -/

/-- The worlds a schedule reaches in which every event `e` taken at a world `s` has
`ok s e`. -/
inductive ReachableWhen (ok : World → Event → Bool) : World → Prop
  | initial : ReachableWhen ok World.initial
  | next {s s' : World} (e : Event) (allowed : ok s e = true) :
      ReachableWhen ok s → s.next e = some s' → ReachableWhen ok s'

/-- Runs a schedule from `s`, refusing an event that `ok` does not allow. -/
def World.runWhen (ok : World → Event → Bool) (s : World) : List Event → Option World
  | [] => some s
  | e :: rest => if ok s e then (s.next e).bind (·.runWhen ok rest) else none

namespace ReachableWhen

variable {ok : World → Event → Bool}

theorem reachable {s : World} (reach : ReachableWhen ok s) : Reachable s := by
  induction reach with
  | initial => exact .initial
  | next e _ _ stepped ih => exact ih.next e stepped

theorem run {s s' : World} (reach : ReachableWhen ok s) :
    ∀ {events : List Event}, s.runWhen ok events = some s' → ReachableWhen ok s'
  | [], ran => by cases ran; exact reach
  | e :: rest, ran => by
    simp only [World.runWhen] at ran
    split at ran
    · obtain ⟨mid, stepped, ran⟩ := Option.bind_eq_some.mp ran
      exact (reach.next e ‹_› stepped).run ran
    · cases ran

/-- A schedule that `ok` allows and that ends in a world where `P` holds. -/
theorem of_run (ok : World → Event → Bool) {P : World → Prop} [DecidablePred P]
    (events : List Event)
    (ran : (World.initial.runWhen ok events).map (fun s => decide (P s)) = some true) :
    ∃ s, ReachableWhen ok s ∧ P s := by
  obtain ⟨s, ended, holds⟩ := Option.map_eq_some'.mp ran
  exact ⟨s, ReachableWhen.initial.run ended, of_decide_eq_true holds⟩

end ReachableWhen

/-! ## Runs that serialize the draw and the store of identifiers -/

/-- The identifier a `useInstance` call has drawn and found free, until it stores it. -/
def Thread.drawn : Thread → Option Int32
  | .useInstance _ _ (.store _ _ ident) => some ident
  | _ => none

@[simp] theorem Call.start_drawn (c : Call) : c.start.drawn = none := by cases c <;> rfl

/-- The event hands a call an identifier drawn by `randomIdentifier`. -/
def Event.draws : Event → Bool
  | .step _ (.draw _) => true
  | _ => false

/-- The event may follow `s` in a serialized run: it starts no `removeInstance` call, and it
draws an identifier only while no call holds one drawn and not yet stored. -/
def World.serialNext (s : World) (e : Event) : Bool :=
  !e.startsRemove && (!e.draws || s.threads.all (·.drawn.isNone))

/-- The worlds a schedule reaches that starts no `removeInstance` call and in which no call
draws an identifier between another call's draw and store. -/
abbrev SerialReachable : World → Prop := ReachableWhen World.serialNext

theorem SerialReachable.growing {s : World} (reach : SerialReachable s) : GrowingReachable s := by
  induction reach with
  | initial => exact .initial
  | next e serial _ stepped ih =>
    exact ih.next e (by simpa using ((Bool.and_eq_true _ _).mp serial).1) stepped

/-! ## What a step does to identifiers -/

/-- What one step of a call does to the registry and to the identifiers the call holds: it
draws an identifier it finds free, stores the one it drew, deletes its live one, or leaves
the registry and its identifiers alone. -/
inductive IdentStep (r r' : Runtime) (input : Input) (th th' : Thread) : Prop
  | draw (ident : Int32) (before : th.drawn = none) (after : th'.drawn = some ident)
      (drew : input = .draw ident) (free : r.instanceMapper ident = none)
      (same : r'.instanceMapper = r.instanceMapper) (live : th'.liveIdent = th.liveIdent)
  | store (ident : Int32) (ref : InstanceReference) (before : th.drawn = some ident)
      (after : th'.drawn = none) (live : th'.liveIdent = some (ident, ref))
      (stored : r'.instanceMapper = Function.update r.instanceMapper ident (some ref))
  | delete (ident : Int32) (ref : InstanceReference) (live : th.liveIdent = some (ident, ref))
      (after : th'.liveIdent = none) (before : th.drawn = none) (drawn : th'.drawn = none)
      (deleted : r'.instanceMapper = Function.update r.instanceMapper ident none)
  | keep (before : th.drawn = none) (after : th'.drawn = none)
      (live : th'.liveIdent = th.liveIdent) (same : r'.instanceMapper = r.instanceMapper)

theorem useStep_ident {r r' : Runtime} {w : Nat} {ctx : Ctx} {pc pc' : UsePc} {input : Input}
    (stepped : useStep r w ctx pc input = some (.next r' pc')) :
    IdentStep r r' input (.useInstance w ctx pc) (.useInstance w ctx pc') := by
  cases pc with
  | lock =>
    obtain ⟨lock, -, stepped⟩ := Option.map_eq_some'.mp stepped
    cases stepped
    exact .keep rfl rfl rfl rfl
  | select =>
    simp only [useStep] at stepped
    split at stepped
    · split at stepped <;> cases stepped
      exact .keep rfl rfl rfl rfl
    · cases stepped
  | acquire idx inst =>
    obtain ⟨acquired, gotten, stepped⟩ := Option.map_eq_some'.mp stepped
    cases acquired <;> cases stepped
    obtain ⟨-, rfl⟩ := acquireGate_eq_some gotten
    exact .keep rfl rfl rfl rfl
  | draw idx inst =>
    simp only [useStep] at stepped
    split at stepped
    · rename_i ident
      split at stepped
      · split at stepped <;> cases stepped
        · exact .keep rfl rfl rfl rfl
        · exact .draw ident rfl rfl rfl ‹_› rfl rfl
      · cases stepped
    · cases stepped
      exact .keep rfl rfl rfl rfl
    · cases stepped
  | store idx inst ident =>
    cases stepped
    exact .store ident ⟨w, idx⟩ rfl rfl rfl rfl
  | setup idx inst ident =>
    cases stepped
    exact .keep rfl rfl rfl rfl
  | run idx inst ident host =>
    simp only [useStep] at stepped
    split at stepped
    · cases stepped
      exact .keep rfl rfl rfl rfl
    · obtain ⟨outcome, hosted, mapped⟩ := Option.map_eq_some'.mp stepped
      cases outcome <;> cases mapped
      exact .keep rfl rfl rfl (hostStep_facts hosted).mapper
  | clear idx inst ident =>
    cases stepped
    exact .keep rfl rfl rfl rfl
  | removeIdent idx inst ident =>
    cases stepped
    exact .delete ident ⟨w, idx⟩ rfl rfl rfl rfl rfl
  | release inst failed =>
    simp only [useStep] at stepped
    split at stepped
    · cases stepped
    · cases stepped
      obtain ⟨-, rfl⟩ := releaseGate_eq_ok ‹_›
      exact .keep rfl rfl rfl rfl
  | done failed => cases stepped

/-- `addInstance` never touches the registry. -/
theorem addStep_mapper {r r' : Runtime} {w : Nat} {pc pc' : AddPc} {input : Input}
    (stepped : addStep r w pc input = some (.next r' pc')) :
    r'.instanceMapper = r.instanceMapper := by
  cases pc with
  | lock =>
    obtain ⟨lock, -, stepped⟩ := Option.map_eq_some'.mp stepped
    cases stepped
    rfl
  | instantiate =>
    simp only [addStep] at stepped
    split at stepped
    · split at stepped <;> cases stepped <;> rfl
    · cases stepped
  | newInstance host | start host | init host =>
    simp only [addStep] at stepped
    split at stepped
    · cases stepped
      rfl
    · cases stepped
      rfl
    · obtain ⟨outcome, hosted, mapped⟩ := Option.map_eq_some'.mp stepped
      cases outcome <;> cases mapped
      exact (hostStep_facts hosted).mapper
  | done failed => cases stepped

/-- `newEnvironment` never touches the registry. -/
theorem newStep_mapper {r r' : Runtime} {pc pc' : NewPc}
    (stepped : newStep r pc = some (.next r' pc')) : r'.instanceMapper = r.instanceMapper := by
  cases pc with
  | lock =>
    obtain ⟨lock, -, stepped⟩ := Option.map_eq_some'.mp stepped
    cases stepped
    rfl
  | create =>
    simp only [newStep] at stepped
    split at stepped <;> cases stepped
    rfl
  | done => cases stepped

theorem Thread.step_ident {r r' : Runtime} {th th' : Thread} {input : Input}
    (keeps : th.call.removes = false) (stepped : th.step r input = some (.next r' th')) :
    IdentStep r r' input th th' := by
  cases th <;> simp only [Thread.step, Option.map_eq_some'] at stepped <;>
    obtain ⟨outcome, stepped, mapped⟩ := stepped <;> cases outcome <;> cases mapped
  · exact useStep_ident stepped
  · exact .keep rfl rfl rfl (addStep_mapper stepped)
  · cases keeps
  · exact .keep rfl rfl rfl (newStep_mapper stepped)

/-! ## The registry of a serialized run -/

/-- What holds in every serialized world: at most one call holds a drawn identifier, that
identifier is still free, and the registry maps each live identifier to its call's slot. -/
structure World.SerialInv (s : World) : Prop where
  drawers : s.threads.countP (·.drawn.isSome) ≤ 1
  free : ∀ th ∈ s.threads, ∀ ident, th.drawn = some ident → s.instanceMapper ident = none
  exact : ∀ th ∈ s.threads, ∀ ident ref, th.liveIdent = some (ident, ref) →
    s.instanceMapper ident = some ref

theorem Runtime.SlotHolds.inj {r : Runtime} {w : Nat} {idx : Int} {i j : Nat}
    (first : r.SlotHolds w idx i) (second : r.SlotHolds w idx j) : i = j :=
  Option.some.inj (first.2.symm.trans second.2)

theorem Thread.liveIdent_fst {th : Thread} {ident : Int32} :
    th.liveIdent.map Prod.fst = some ident ↔ ∃ ref, th.liveIdent = some (ident, ref) := by
  rcases th.liveIdent with _ | ⟨i, ref⟩ <;> simp

namespace World.SerialInv

variable {s : World} (sinv : s.SerialInv) (grow : s.GrowInv)
include sinv grow

/-- A call holding `ident` live holds the instance in the slot the registry maps `ident` to. -/
theorem holds_mapped {th : Thread} (running : th ∈ s.threads) {ident : Int32}
    {ref : InstanceReference} (live : th.liveIdent = some (ident, ref)) :
    s.instanceMapper ident = some ref ∧
      ∃ inst, s.toRuntime.SlotHolds ref.envUUID ref.instIndex inst ∧ th.holds inst = true := by
  obtain ⟨inst, selected, holds⟩ := Thread.slot_of_liveIdent live
  exact ⟨sinv.exact th running ident ref live, inst, grow.slots th running _ _ _ selected, holds⟩

theorem holds_slot {th : Thread} (running : th ∈ s.threads) {ident : Int32}
    {ref ref' : InstanceReference} (live : th.liveIdent = some (ident, ref)) {inst : Nat}
    (entry : s.instanceMapper ident = some ref')
    (slot : s.toRuntime.SlotHolds ref'.envUUID ref'.instIndex inst) : th.holds inst = true := by
  obtain ⟨mapped, held, slotHeld, holds⟩ := sinv.holds_mapped grow running live
  cases mapped.symm.trans entry
  exact slotHeld.inj slot ▸ holds

/-- No two calls hold one identifier live: they would hold one gate. -/
theorem live_count (inv : s.Inv) (ident : Int32) :
    s.threads.countP (·.liveIdent.map Prod.fst = some ident) ≤ 1 := by
  by_cases held : ∃ th ∈ s.threads, ∃ ref, th.liveIdent = some (ident, ref)
  · obtain ⟨th, running, ref, live⟩ := held
    obtain ⟨entry, inst, slot, -⟩ := sinv.holds_mapped grow running live
    calc s.threads.countP (·.liveIdent.map Prod.fst = some ident)
        ≤ s.threads.countP (·.holds inst) := List.countP_mono_left fun u runningU counted => by
          obtain ⟨ref', liveU⟩ := Thread.liveIdent_fst.mp (of_decide_eq_true counted)
          exact sinv.holds_slot grow runningU liveU entry slot
      _ = (s.insts inst).gate := (inv.counted inst).symm
      _ ≤ 1 := inv.atMostOne inst
  · exact (List.countP_eq_zero.mpr fun u running counted =>
      held ⟨u, running, Thread.liveIdent_fst.mp (of_decide_eq_true counted)⟩).trans_le (Nat.zero_le 1)

/-- Two calls at different indices do not hold one identifier live. -/
theorem ident_ne (inv : s.Inv) {t j : Nat} (below : t < s.threads.length)
    (belowJ : j < s.threads.length) (other : t ≠ j) {ident i : Int32}
    {ref ref' : InstanceReference} (live : s.threads[t].liveIdent = some (ident, ref))
    (live' : s.threads[j].liveIdent = some (i, ref')) : i ≠ ident := by
  rintro rfl
  obtain ⟨entry, inst, slot, holds⟩ := sinv.holds_mapped grow (List.getElem_mem below) live
  have holdsU := sinv.holds_slot grow (List.getElem_mem belowJ) live' entry slot
  simp [inv.holds_eq_false belowJ below (Ne.symm other) holds] at holdsU

theorem commit (inv : s.Inv) {t : Nat} (below : t < s.threads.length) {input : Input}
    {th' : Thread} {r' : Runtime}
    (stepped : s.threads[t].step s.toRuntime input = some (.next r' th'))
    (serial : ∀ ident, input = .draw ident → ∀ th ∈ s.threads, th.drawn = none) :
    ({ s with toRuntime := r', threads := s.threads.set t th' } : World).SerialInv := by
  have running := List.getElem_mem below
  have moved := countP_set_moves below (·.drawn.isSome) th'
  have drawers := sinv.drawers
  rcases Thread.step_ident (grow.noRemove _ running) stepped with
    ⟨ident, before, after, drew, free, same, live⟩ | ⟨ident, ref, before, after, live, stored⟩ |
    ⟨ident, ref, live, after, before, drawn, deleted⟩ | ⟨before, after, live, same⟩
  · -- the draw: no call had drawn, and the call found its identifier free
    have quiet := serial ident drew
    have none : s.threads.countP (·.drawn.isSome) = 0 :=
      List.countP_eq_zero.mpr fun u old => by simp [quiet u old]
    simp only [before, after, Option.isSome_none, Option.isSome_some, Bool.false_eq_true,
      ↓reduceIte] at moved
    refine ⟨by dsimp only; omega, fun u m i drew' => ?_, fun u m i ref live' => ?_⟩ <;>
      rcases List.mem_or_eq_of_mem_set m with old | rfl
    · simp [quiet u old] at drew'
    · cases after.symm.trans drew'
      exact (congrFun same ident).trans free
    · exact (congrFun same i).trans (sinv.exact u old i ref live')
    · exact (congrFun same i).trans (sinv.exact _ running i ref (live.symm.trans live'))
  · -- the store: the drawn identifier, free until now, becomes the call's live one
    have freed := sinv.free _ running ident before
    simp only [before, after, Option.isSome_none, Option.isSome_some, Bool.false_eq_true,
      ↓reduceIte] at moved
    have none : (s.threads.set t th').countP (·.drawn.isSome) = 0 := by omega
    refine ⟨by dsimp only; omega, fun u m i drew' => ?_, fun u m i ref' live' => ?_⟩
    · simpa [drew'] using List.countP_eq_zero.mp none u m
    · rcases List.mem_or_eq_of_mem_set m with old | rfl
      · have entry := sinv.exact u old i ref' live'
        have other : i ≠ ident := by rintro rfl; simp [freed] at entry
        exact (congrFun stored i).trans ((Function.update_noteq other _ _).trans entry)
      · cases live.symm.trans live'
        exact (congrFun stored ident).trans (Function.update_same _ _ _)
  · -- the delete: no other call holds the identifier, so their entries stay
    simp only [before, drawn, Option.isSome_none, Bool.false_eq_true, ↓reduceIte] at moved
    refine ⟨by dsimp only; omega, fun u m i drew' => ?_, fun u m i ref' live' => ?_⟩
    · rcases List.mem_or_eq_of_mem_set m with old | rfl
      · refine (congrFun deleted i).trans ?_
        by_cases here : i = ident
        · subst here
          exact Function.update_same _ _ _
        · exact (Function.update_noteq here _ _).trans (sinv.free u old i drew')
      · nomatch drawn.symm.trans drew'
    · obtain ⟨j, belowJ, rfl⟩ := List.mem_iff_getElem.mp m
      by_cases here : t = j
      · subst here
        rw [List.getElem_set_self] at live'
        nomatch after.symm.trans live'
      · rw [List.getElem_set_ne here] at live'
        have belowJ' : j < s.threads.length := by simpa using belowJ
        exact (congrFun deleted i).trans ((Function.update_noteq
          (sinv.ident_ne grow inv below belowJ' here live live') _ _).trans
          (sinv.exact _ (List.getElem_mem belowJ') i ref' live'))
  · -- any other step leaves the registry and the call's identifiers as they were
    simp only [before, after, Option.isSome_none, Bool.false_eq_true, ↓reduceIte] at moved
    refine ⟨by dsimp only; omega, fun u m i drew' => ?_, fun u m i ref' live' => ?_⟩ <;>
      rcases List.mem_or_eq_of_mem_set m with old | rfl
    · exact (congrFun same i).trans (sinv.free u old i drew')
    · nomatch after.symm.trans drew'
    · exact (congrFun same i).trans (sinv.exact u old i ref' live')
    · exact (congrFun same i).trans (sinv.exact _ running i ref' (live.symm.trans live'))

end World.SerialInv

theorem World.SerialInv.spawn {s : World} (sinv : s.SerialInv) (c : Call) :
    ({ s with threads := s.threads ++ [c.start] } : World).SerialInv := by
  refine ⟨by simpa using sinv.drawers, fun th m => ?_, fun th m => ?_⟩ <;>
    rcases List.mem_append.mp m with old | fresh
  · exact sinv.free th old
  · simp [List.mem_singleton.mp fresh]
  · exact sinv.exact th old
  · simp [List.mem_singleton.mp fresh]

theorem World.SerialInv.initial : World.initial.SerialInv :=
  ⟨Nat.zero_le _, fun _ running => (nomatch running), fun _ running => (nomatch running)⟩

theorem World.SerialInv.next {s s' : World} {e : Event} (sinv : s.SerialInv)
    (reach : SerialReachable s) (serial : s.serialNext e = true) (stepped : s.next e = some s') :
    s'.SerialInv := by
  rcases World.next_guarded stepped with
    ⟨c, -, -, rfl⟩ | ⟨-, t, input, rfl, below, o, threadStepped, rfl⟩
  · exact sinv.spawn c
  · cases o with
    | panic p => exact ⟨sinv.drawers, sinv.free, sinv.exact⟩
    | next r' th' =>
      refine sinv.commit (growInv_of_reachable reach.growing)
        (inv_of_reachable reach.reachable) below threadStepped
        fun ident drew th running => ?_
      subst drew
      simp only [World.serialNext, Event.startsRemove, Event.draws, Bool.not_false,
        Bool.not_true, Bool.false_or, Bool.true_and, List.all_eq_true] at serial
      exact Option.isNone_iff_eq_none.mp (serial th running)

theorem serialInv_of_reachable {s : World} (reach : SerialReachable s) : s.SerialInv := by
  induction reach with
  | initial => exact World.SerialInv.initial
  | next e serial reach' stepped ih => exact ih.next reach' serial stepped

/-! ## The round trip -/

/-- In a run that starts no `removeInstance` call and lets no call draw an identifier while
another has drawn one and not yet stored it, a `useInstance` call's identifier makes the
round trip: while the call holds `ident` live, the registry maps `ident` to the slot the
call selected, no other call holds `ident`, and `instanceForIdentifier` resolves `ident` to
the instance whose gate the call holds. -/
theorem own_identifier_round_trip {s : World} (reach : SerialReachable s) {th : Thread}
    (running : th ∈ s.threads) {ident : Int32} {ref : InstanceReference}
    (live : th.liveIdent = some (ident, ref)) :
    s.instanceMapper ident = some ref ∧
      s.threads.countP (·.liveIdent.map Prod.fst = some ident) ≤ 1 ∧
      ∃ inst, th.holds inst = true ∧
        (s.envs ref.envUUID).instances[ref.instIndex.toNat]? = some inst ∧
        ∀ needsFFIResult, instanceForIdentifier s.toRuntime ident needsFFIResult =
          .ok (((s.insts inst).hostCallCheck needsFFIResult).map fun _ => inst) := by
  have grow := growInv_of_reachable reach.growing
  have sinv := serialInv_of_reachable reach
  obtain ⟨entry, inst, ⟨lower, slot⟩, holds⟩ := sinv.holds_mapped grow running live
  have registered :=
    (grow.mapped_inRange (registryLive_of_reachable reach.reachable) entry).1
  have resolves : Resolves s.toRuntime ident inst :=
    ⟨ref, _, entry, if_pos registered, lower, slot⟩
  exact ⟨entry, sinv.live_count grow (inv_of_reachable reach.reachable) ident, inst,
    holds, slot, instanceForIdentifier_of_resolves resolves⟩

theorem own_identifier_round_trip_running_call :
    ∃ s, SerialReachable s ∧ s.threads[2]? = some (.useInstance 0 7 (.run 0 0 5 .idle)) ∧
      s.instanceMapper 5 = some ⟨0, 0⟩ ∧
      s.threads.countP (·.liveIdent.map Prod.fst = some 5) ≤ 1 ∧
      ∃ inst, (Thread.useInstance 0 7 (.run 0 0 5 .idle)).holds inst = true ∧
        (s.envs 0).instances[(0 : Int).toNat]? = some inst ∧
        ∀ needsFFIResult, instanceForIdentifier s.toRuntime 5 needsFFIResult =
          .ok (((s.insts inst).hostCallCheck needsFFIResult).map fun _ => inst) := by
  obtain ⟨s, reach, third⟩ := ReachableWhen.of_run World.serialNext
    (P := fun s => s.threads[2]? = some (.useInstance 0 7 (.run 0 0 5 .idle)))
    (newEnvironmentEvents 0 ++ addInstanceEvents 0 1 ++ enterInstFuncEvents 0 7 2 5) (by decide)
  exact ⟨s, reach, third, own_identifier_round_trip reach (List.getElem?_mem third) rfl⟩

end ReactrWasm
