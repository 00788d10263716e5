import ReactrWasm.Exclusion

/-!
# The identifier registry

`useInstance` registers a random identifier for its slot `(w.UUID, instIndex)`
in `instanceMapper` before it calls `instFunc`, and deletes it afterwards.
Guest code passes the identifier back to host functions, which resolve it with
`instanceForIdentifier`. The spec promises that a call's own identifier always
resolves to the instance it runs on, and that live identifiers are distinct.
Both fail under interleaving.

* The registry records a slot index, and the list can shift under it
  (`own_identifier_indexes_past_end`). `removeInstance` trims the last slot
  of the list as it is when it takes the lock, not the instance it took in
  step 1. A call that entered `instFunc` on that slot then resolves its own
  identifier to index `len(instances)`. The bounds check `len <= idx-1` lets
  that index through, and the Go runtime panics.
* `setupNewIdentifier` does `Load` and `Store` as two steps
  (`identifier_collision`). Two calls that draw the same value both find it
  absent and both store it. The second entry overwrites the first, and the
  first call to finish deletes the entry of the other.

What does hold over every interleaving is that the registry keeps no stale
entry (`registry_entries_live`). Every entry was stored by a call that has not
yet reached its `removeIdentifier`, and it names that call's slot.
-/

namespace ReactrWasm

/-! ## 1. No stale entry -/

/-- Every registry entry is held by a running call, for that call's slot. -/
def World.RegistryLive (s : World) : Prop :=
  ∀ ident ref, Owned (s.instanceMapper ident = some ref) s.threads
    (·.liveIdent = some (ident, ref))

/-- A step keeps every entry owned: a new entry is the stepping call's own, and a call's
entry leaves the registry no later than the call drops it (`SyncMove.registry`). -/
theorem World.RegistryLive.next {s s' : World} {e : Event} (inv : s.Inv) (live : s.RegistryLive)
    (stepped : s.next e = some s') : s'.RegistryLive := by
  rcases World.next_cases stepped with
    ⟨c, rfl⟩ | ⟨p, rfl⟩ | ⟨t, below, th', r', _, threadStepped, rfl⟩
  · exact fun ident ref => (live ident ref).append _
  · exact live
  · exact fun ident ref =>
      (live ident ref).set below ((inv.step_facts threadStepped).sync.registry ident ref)

theorem registryLive_of_reachable {s : World} (reach : Reachable s) : s.RegistryLive := by
  induction reach with
  | initial => intro _ _ entry; cases entry
  | next _ reach' stepped ih => exact ih.next (inv_of_reachable reach') stepped

/-- Over every interleaving, the registry keeps no stale entry: each identifier it maps is
held by a `useInstance` call between `setupNewIdentifier` and `removeIdentifier`, and maps
to the slot that call selected. -/
theorem registry_entries_live {s : World} (reach : Reachable s) {ident : Int32}
    {ref : InstanceReference} (entry : s.instanceMapper ident = some ref) :
    ∃ th ∈ s.threads, th.liveIdent = some (ident, ref) :=
  registryLive_of_reachable reach ident ref entry

theorem registry_entries_live_one_call :
    ∃ s, Reachable s ∧ s.instanceMapper 5 = some ⟨0, 0⟩ ∧
      ∃ th ∈ s.threads, th.liveIdent = some (5, ⟨0, 0⟩) := by
  obtain ⟨s, reach, entry⟩ := Reachable.of_run (P := fun s => s.instanceMapper 5 = some ⟨0, 0⟩)
    (newEnvironmentEvents 0 ++ addInstanceEvents 0 1 ++ enterInstFuncEvents 0 7 2 5) (by decide)
  exact ⟨s, reach, entry, registry_entries_live reach entry⟩

/-! ## 2. A call's own identifier can index past the list -/

/-- Two instances. One `useInstance` call runs to its end and leaves the cursor on slot 1.
A `removeInstance` call takes instance 1, the last one, in its step 1. A third instance
is appended. A `useInstance` call with identifier 9 enters `instFunc` on slot 2. Then the
`removeInstance` call finishes: it trims slot 2 and closes instance 1. -/
def staleIndexSchedule : List Event :=
  newEnvironmentEvents 0 ++ addInstanceEvents 0 1 ++ addInstanceEvents 0 2 ++
    enterInstFuncEvents 0 7 3 5 ++ leaveInstFuncEvents 3 ++
    [.spawn (.removeInstance 0), .step 4 .tick] ++ addInstanceEvents 0 5 ++
    enterInstFuncEvents 0 8 6 9 ++ List.replicate 6 (.step 4 .tick)

/-- A call inside `instFunc` on instance 2 with identifier 9: resolving its own identifier
panics, and so does the host call its guest code makes with it. -/
theorem own_identifier_indexes_past_end :
    ∃ s, Reachable s ∧ s.threads[6]? = some (.useInstance 0 8 (.run 2 2 9 .idle)) ∧
      (s.envs 0).instances = [0, 1] ∧
      instanceForIdentifier s.toRuntime 9 false = .error (.indexOutOfRange 2 2) ∧
      (s.run [.step 6 (.call 9 false), .step 6 .tick, .step 6 .tick]).map (·.crash) =
        some (some (.indexOutOfRange 2 2)) :=
  Reachable.of_run staleIndexSchedule (by decide)

/-! ## 3. Two live calls can hold one identifier -/

/-- Two instances. Two `useInstance` calls take slots 1 and 0, both draw 5, both find it
absent, and both store it. -/
def identifierCollisionSchedule : List Event :=
  newEnvironmentEvents 0 ++ addInstanceEvents 0 1 ++ addInstanceEvents 0 2 ++
    [.spawn (.useInstance 0 7), .step 3 .tick, .step 3 .tick, .step 3 .tick,
      .spawn (.useInstance 0 8), .step 4 .tick, .step 4 .tick, .step 4 .tick,
      .step 3 (.draw 5), .step 4 (.draw 5), .step 3 .tick, .step 4 .tick]

/-- Both calls hold identifier 5 and the registry names the second one's slot. Once the
second call finishes, the first one is still about to run its guest code, and its
identifier resolves to nothing. -/
theorem identifier_collision :
    ∃ s, Reachable s ∧ s.threads.filterMap Thread.liveIdent = [(5, ⟨0, 1⟩), (5, ⟨0, 0⟩)] ∧
      s.instanceMapper 5 = some ⟨0, 0⟩ ∧
      (s.run (.step 4 .tick :: leaveInstFuncEvents 4)).map
          (fun s' => (s'.threads.filterMap Thread.liveIdent, s'.instanceMapper 5)) =
        some ([(5, ⟨0, 1⟩)], none) :=
  Reachable.of_run identifierCollisionSchedule (by decide)

end ReactrWasm
