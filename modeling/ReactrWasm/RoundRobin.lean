import ReactrWasm.Environment
import Mathlib.Data.Int.ModEq
import Mathlib.Data.List.Nodup

/-!
# Round-robin selection

`useInstance` picks its instance by the cursor `instIndex`: back to slot `0`
from the last slot, one slot further otherwise (`WasmEnvironment.nextIndex`).
`removeInstance` moves the cursor back when it pointed at the removed last
slot, and an emptied list leaves it at `-1`.

This module runs whole calls one after another (`seqStep`), from the
environment `newEnvironment` registers, and proves:
* `cursorInRange_of_reachable`: between calls the cursor is on a slot, at
  `-1`, or at `0` on the never-filled list;
* `nextIndex_eq_emod`: from such a cursor the locked step of `useInstance` is
  `(instIndex + 1) mod n`;
* `round_robin`: `n` consecutive locked steps on `n ≥ 1` instances select every
  slot exactly once, and none of them panics.
-/

namespace ReactrWasm

/-- One whole call on an environment, with no other call in between. -/
inductive SeqCall
  /-- `addInstance` succeeds and appends the new instance `inst`. -/
  | addInstance (inst : Nat)
  /-- `addInstance` fails before it appends, in `internals()`, `NewInstance` or a start hook. -/
  | addInstanceFails
  | removeInstance
  | useInstance

/-- The environment after one whole call; `none` when the call panics. -/
def seqStep (w : WasmEnvironment) : SeqCall → Option WasmEnvironment
  | .addInstance inst => some (w.append inst)
  | .addInstanceFails => some w
  | .removeInstance => if w.instances = [] then some w else w.trim.toOption
  | .useInstance => w.select.toOption.map (·.1)

/-- The environments reachable from `newEnvironment` by whole calls. -/
inductive SeqReachable : WasmEnvironment → Prop
  | empty : SeqReachable WasmEnvironment.empty
  | step {w w' : WasmEnvironment} (call : SeqCall) :
      SeqReachable w → seqStep w call = some w' → SeqReachable w'

/-- An environment's list and cursor, its lock word set aside: what whole calls see. -/
def WasmEnvironment.contents (w : WasmEnvironment) : WasmEnvironment := { w with lock := .unlocked }

/-- `useInstance`'s locked section is the whole call's effect on the list and cursor. -/
theorem seqStep_of_select {w w' : WasmEnvironment} {idx : Int} {inst : Nat}
    (selected : w.select = .ok (w', idx, inst)) :
    seqStep w.contents .useInstance = some w'.contents := by
  obtain ⟨rfl, -⟩ := WasmEnvironment.select_eq_ok selected
  simp only [WasmEnvironment.select, bind, Except.bind] at selected
  split at selected
  · cases selected
  · rename_i found
    have found' : goIndex w.contents.instances w.contents.nextIndex = .ok _ := found
    simp only [seqStep, WasmEnvironment.select, bind, Except.bind, found', pure, Except.pure,
      Except.toOption, Option.map_some']
    rfl

/-- Step 3 of `removeInstance` is the whole call's effect on the list and cursor. -/
theorem seqStep_of_trim {w w' : WasmEnvironment} (trimmed : w.trim = .ok w') :
    seqStep w.contents .removeInstance = some w'.contents := by
  have nonempty : w.instances ≠ [] := fun empty => by
    simp [WasmEnvironment.trim, empty, goSliceTo, bind, Except.bind] at trimmed
  rw [WasmEnvironment.trim_ok nonempty] at trimmed
  cases trimmed
  simp only [seqStep, WasmEnvironment.contents, nonempty, if_false,
    WasmEnvironment.trim_ok (w := { w with lock := .unlocked }) nonempty]
  rfl

/-- Between calls the cursor is on a slot, at `-1`, or at `0` on the never-filled list. -/
def CursorInRange (w : WasmEnvironment) : Prop :=
  (-1 ≤ w.instIndex ∧ w.instIndex < w.instances.length) ∨ (w.instIndex = 0 ∧ w.instances = [])

theorem nextIndex_eq_emod {w : WasmEnvironment} (cursor : CursorInRange w)
    (nonempty : w.instances ≠ []) :
    w.nextIndex = (w.instIndex + 1) % w.instances.length := by
  have positive : 0 < w.instances.length := List.length_pos.mpr nonempty
  rcases cursor with ⟨lower, upper⟩ | ⟨-, empty⟩
  · unfold WasmEnvironment.nextIndex
    split
    · rename_i last
      rw [last, sub_add_cancel, Int.emod_self]
    · rw [Int.emod_eq_of_lt (by omega) (by omega)]
  · exact absurd empty nonempty

theorem nextIndex_mem {w : WasmEnvironment} (cursor : CursorInRange w)
    (nonempty : w.instances ≠ []) :
    0 ≤ w.nextIndex ∧ w.nextIndex < w.instances.length := by
  have positive : (0 : Int) < w.instances.length := by
    exact_mod_cast List.length_pos.mpr nonempty
  rw [nextIndex_eq_emod cursor nonempty]
  exact ⟨Int.emod_nonneg _ positive.ne', Int.emod_lt_of_pos _ positive⟩

theorem cursorInRange_step {w w' : WasmEnvironment} {call : SeqCall}
    (cursor : CursorInRange w) (stepped : seqStep w call = some w') : CursorInRange w' := by
  cases call with
  | addInstance inst =>
    cases stepped
    simp only [CursorInRange, WasmEnvironment.append, List.length_append, List.length_singleton,
      Nat.cast_add, Nat.cast_one, List.append_eq_nil, List.cons_ne_nil, and_false, or_false]
    rcases cursor with ⟨lower, upper⟩ | ⟨zero, empty⟩
    · omega
    · simp [zero, empty]
  | addInstanceFails =>
    cases stepped
    exact cursor
  | removeInstance =>
    simp only [seqStep] at stepped
    split at stepped
    · cases stepped
      exact cursor
    · rename_i nonempty
      rw [WasmEnvironment.trim_ok nonempty] at stepped
      cases stepped
      have positive : 0 < w.instances.length := List.length_pos.mpr nonempty
      rcases cursor with ⟨lower, upper⟩ | ⟨-, empty⟩
      · left
        simp only [List.length_dropLast]
        split <;> omega
      · exact absurd empty nonempty
  | useInstance =>
    simp only [seqStep] at stepped
    by_cases nonempty : w.instances = []
    · simp [WasmEnvironment.select, goIndex, nonempty, bind, Except.bind, Except.toOption]
        at stepped
    · obtain ⟨lower, upper⟩ := nextIndex_mem cursor nonempty
      rw [WasmEnvironment.select_ok lower upper] at stepped
      cases stepped
      exact .inl ⟨by simp only; omega, upper⟩

theorem cursorInRange_of_reachable {w : WasmEnvironment} (reach : SeqReachable w) :
    CursorInRange w := by
  induction reach with
  | empty => exact .inr ⟨rfl, rfl⟩
  | step _ _ stepped ih => exact cursorInRange_step ih stepped

/-- The slots chosen by `k` consecutive runs of `useInstance`'s locked section, with no
`addInstance` or `removeInstance` step in between. -/
def selections (w : WasmEnvironment) : Nat → Go (List Int)
  | 0 => .ok []
  | k + 1 => do
      let (w', instIndex, _) ← w.select
      let rest ← selections w' k
      pure (instIndex :: rest)

theorem selections_eq {w : WasmEnvironment} (nonempty : w.instances ≠ [])
    (lower : -1 ≤ w.instIndex) (upper : w.instIndex < w.instances.length) (k : Nat) :
    selections w k =
      .ok ((List.range k).map fun j : Nat => (w.instIndex + 1 + j) % w.instances.length) := by
  induction k generalizing w with
  | zero => rfl
  | succ k ih =>
    have cursor : CursorInRange w := .inl ⟨lower, upper⟩
    obtain ⟨inRange, below⟩ := nextIndex_mem cursor nonempty
    rw [selections, WasmEnvironment.select_ok inRange below]
    simp only [bind, Except.bind]
    rw [ih (w := { w with instIndex := w.nextIndex }) nonempty (by simp only; omega) below]
    simp only [pure, Except.pure, List.range_succ_eq_map, List.map_cons, List.map_map,
      nextIndex_eq_emod cursor nonempty, Except.ok.injEq, List.cons.injEq]
    refine ⟨by simp, List.map_congr_left fun j _ => ?_⟩
    simp only [Function.comp, Nat.succ_eq_add_one, Nat.cast_add, Nat.cast_one]
    rw [add_assoc _ 1, Int.emod_add_emod]
    congr 1
    omega

/-- Rotating the slots `0 .. n-1` by any offset visits each slot exactly once. -/
theorem rotation_perm (c : Int) {n : Nat} (positive : 0 < n) :
    ((List.range n).map fun j : Nat => (c + j) % n).Perm ((List.range n).map Int.ofNat) := by
  have positive' : (0 : Int) < n := by exact_mod_cast positive
  have injective : ∀ x ∈ List.range n, ∀ y ∈ List.range n,
      (c + x) % (n : Int) = (c + y) % n → x = y := by
    intro x hx y hy same
    have congruent : (x : Int) ≡ y [ZMOD n] := Int.ModEq.add_left_cancel' c same
    rw [List.mem_range] at hx hy
    unfold Int.ModEq at congruent
    rw [Int.emod_eq_of_lt (by omega) (by omega), Int.emod_eq_of_lt (by omega) (by omega)]
      at congruent
    exact_mod_cast congruent
  rw [List.perm_ext_iff_of_nodup ((List.nodup_range n).map_on injective)
    ((List.nodup_range n).map fun _ _ same => Int.ofNat.inj same)]
  intro a
  simp only [List.mem_map, List.mem_range]
  constructor
  · rintro ⟨j, -, rfl⟩
    refine ⟨((c + j) % n).toNat, ?_, ?_⟩
    · have := Int.emod_lt_of_pos (c + j) positive'
      omega
    · exact Int.toNat_of_nonneg (Int.emod_nonneg _ positive'.ne')
  · rintro ⟨j, below, rfl⟩
    refine ⟨((j - c) % n).toNat, ?_, ?_⟩
    · have := Int.emod_lt_of_pos (j - c) positive'
      omega
    · rw [Int.toNat_of_nonneg (Int.emod_nonneg _ positive'.ne'), Int.add_emod,
        Int.emod_emod_of_dvd _ (dvd_refl _), ← Int.add_emod, add_sub_cancel,
        Int.emod_eq_of_lt (by omega) (by omega)]
      rfl

/-- From every environment reachable by whole calls and holding `n ≥ 1` instances, `n`
consecutive locked steps of `useInstance` choose `(instIndex + 1 + j) mod n` for
`j = 0 .. n-1`: every slot exactly once, and no step panics. -/
theorem round_robin {w : WasmEnvironment} (reach : SeqReachable w)
    (nonempty : w.instances ≠ []) :
    ∃ chosen, selections w w.instances.length = .ok chosen ∧
      chosen = (List.range w.instances.length).map
        (fun j : Nat => (w.instIndex + 1 + j) % w.instances.length) ∧
      chosen.Perm ((List.range w.instances.length).map Int.ofNat) := by
  rcases cursorInRange_of_reachable reach with ⟨lower, upper⟩ | ⟨-, empty⟩
  · refine ⟨_, selections_eq nonempty lower upper _, rfl, ?_⟩
    exact rotation_perm (w.instIndex + 1) (List.length_pos.mpr nonempty)
  · exact absurd empty nonempty

/-- Two instances added to a fresh environment: the hypotheses of `round_robin` hold. -/
theorem round_robin_two_instances :
    SeqReachable ((WasmEnvironment.empty.append 0).append 1) ∧
      ((WasmEnvironment.empty.append 0).append 1).instances ≠ [] ∧
      ∃ chosen, selections ((WasmEnvironment.empty.append 0).append 1) 2 = .ok chosen ∧
        chosen.Perm [0, 1] :=
  have reach : SeqReachable ((WasmEnvironment.empty.append 0).append 1) :=
    .step (.addInstance 1) (.step (.addInstance 0) .empty rfl) rfl
  have nonempty : ((WasmEnvironment.empty.append 0).append 1).instances ≠ [] := by decide
  ⟨reach, nonempty, by
    obtain ⟨chosen, ran, -, perm⟩ := round_robin reach nonempty
    exact ⟨chosen, ran, perm⟩⟩

end ReactrWasm
