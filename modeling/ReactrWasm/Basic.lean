import Mathlib.Data.List.Basic

/-!
# Go primitives used by the Wasm host embedding

The host side of `rwasm` is Go. This module fixes the meaning of the few Go
operations its code relies on, so that the modules above can be read against
the source line by line:

* `Int32`, Go's `int32`, as an integer that carries its own range, with the
  wrapping conversion `int32(x)` (`Int32.ofInt`);
* `Go`, a computation that returns or stops the program with a runtime panic;
  the panics are the ones the runtime raises for a bad index, a bad slice
  expression, a bad `make` length or a nil receiver (`GoPanic`);
* the slice operations `s[i]`, `s[lo:]`, `s[:hi]`, `make([]byte, n)` and
  `copy(dst, src)`;
* `sync.RWMutex` (`RWMutex`), writer-preferring: `Lock` first announces the
  writer, after which new readers wait, then waits for the active readers;
* `semaphore.NewWeighted(1)`, as the weight currently held.
-/

namespace ReactrWasm

/-- A Go `int32`: an integer in `[-2^31, 2^31)`. -/
structure Int32 where
  val : Int
  le_val : -2147483648 ≤ val
  val_lt : val < 2147483648
  deriving DecidableEq, Repr

/-- Go's conversion `int32(x)`: the two's complement value of the low 32 bits. -/
def Int32.ofInt (x : Int) : Int32 :=
  ⟨(x + 2147483648) % 4294967296 - 2147483648, by omega, by omega⟩

instance instOfNatInt32 (n : Nat) : OfNat Int32 n := ⟨Int32.ofInt n⟩

theorem Int32.ofInt_val {x : Int} (lower : -2147483648 ≤ x) (upper : x < 2147483648) :
    (Int32.ofInt x).val = x := by
  simp only [Int32.ofInt]
  omega

/-- A Go `[]byte` that is known to be non-nil. A possibly nil slice is `Option Bytes`. -/
abbrev Bytes := List UInt8

/-- The runtime panics the modelled code can raise. Each stops the whole program. -/
inductive GoPanic
  /-- `runtime error: index out of range [index] with length length` -/
  | indexOutOfRange (index : Int) (length : Nat)
  /-- `runtime error: slice bounds out of range`, at the offending bound -/
  | sliceOutOfRange (bound : Int) (length : Nat)
  /-- `runtime error: makeslice: len out of range` -/
  | makeSliceLen (len : Int)
  /-- `runtime error: invalid memory address or nil pointer dereference` -/
  | nilDereference
  /-- `semaphore: released more than held` -/
  | releasedMoreThanHeld
  /-- `interface conversion`: a type assertion on a value of another type -/
  | interfaceConversion
  deriving DecidableEq, Repr

/-- A Go computation: it returns a value, or the runtime panics. -/
abbrev Go := Except GoPanic

instance decEqExcept {ε α : Type} [DecidableEq ε] [DecidableEq α] : DecidableEq (Except ε α)
  | .ok a, .ok b => decidable_of_iff (a = b) (by simp)
  | .error p, .error q => decidable_of_iff (p = q) (by simp)
  | .ok _, .error _ => isFalse (by simp)
  | .error _, .ok _ => isFalse (by simp)

/-- `s[i]`. -/
def goIndex {α : Type} (s : List α) (i : Int) : Go α :=
  if h : 0 ≤ i ∧ i.toNat < s.length then .ok (s.get ⟨i.toNat, h.2⟩)
  else .error (.indexOutOfRange i s.length)

/-- `s[lo:]`. -/
def goSliceFrom {α : Type} (s : List α) (lo : Int) : Go (List α) :=
  if 0 ≤ lo ∧ lo ≤ s.length then .ok (s.drop lo.toNat) else .error (.sliceOutOfRange lo s.length)

/-- `s[:hi]`, for slices whose capacity is their length. -/
def goSliceTo {α : Type} (s : List α) (hi : Int) : Go (List α) :=
  if 0 ≤ hi ∧ hi ≤ s.length then .ok (s.take hi.toNat) else .error (.sliceOutOfRange hi s.length)

/-- `make([]byte, n)`: `n` zero bytes. -/
def goMake (n : Int) : Go Bytes :=
  if 0 ≤ n then .ok (List.replicate n.toNat 0) else .error (.makeSliceLen n)

/-- The contents of `dst` after `copy(dst, src)`: the first `min(len(dst), len(src))`
elements come from `src`, the rest of `dst` is kept. -/
def goCopy {α : Type} (dst src : List α) : List α :=
  src.take dst.length ++ dst.drop src.length

theorem goIndex_ok {α : Type} {s : List α} {i : Int} (lower : 0 ≤ i) (upper : i < s.length) :
    goIndex s i = .ok (s.get ⟨i.toNat, by omega⟩) := by
  simp [goIndex, lower, show i.toNat < s.length by omega]

theorem mem_of_goIndex {α : Type} {s : List α} {i : Int} {a : α} (found : goIndex s i = .ok a) :
    a ∈ s := by
  unfold goIndex at found
  split at found
  · cases found
    exact List.get_mem _ _ _
  · cases found

theorem goIndex_eq_ok {α : Type} {s : List α} {i : Int} {a : α} (found : goIndex s i = .ok a) :
    0 ≤ i ∧ s[i.toNat]? = some a := by
  unfold goIndex at found
  split at found
  · rename_i inRange
    cases found
    exact ⟨inRange.1, by simp [inRange.2]⟩
  · cases found

theorem goIndex_eq_error {α : Type} {s : List α} {i : Int} {p : GoPanic}
    (panicked : goIndex s i = .error p) :
    (i < 0 ∨ s.length ≤ i) ∧ p = .indexOutOfRange i s.length := by
  unfold goIndex at panicked
  split at panicked
  · cases panicked
  · cases panicked
    exact ⟨by omega, rfl⟩

theorem goIndex_of_le {α : Type} {s : List α} {i : Int} (upper : s.length ≤ i) :
    goIndex s i = .error (.indexOutOfRange i s.length) := by
  simp only [goIndex]
  split
  · omega
  · rfl

theorem goSliceFrom_ok {α : Type} {s : List α} {lo : Int} (lower : 0 ≤ lo) (upper : lo ≤ s.length) :
    goSliceFrom s lo = .ok (s.drop lo.toNat) := by
  simp [goSliceFrom, lower, upper]

theorem goSliceFrom_error {α : Type} {s : List α} {lo : Int} (out : ¬ (0 ≤ lo ∧ lo ≤ s.length)) :
    goSliceFrom s lo = .error (.sliceOutOfRange lo s.length) := by
  simp only [goSliceFrom, out, if_false]

theorem goSliceTo_eq_ok {α : Type} {s s' : List α} {hi : Int} (sliced : goSliceTo s hi = .ok s') :
    s' = s.take hi.toNat := by
  unfold goSliceTo at sliced
  split at sliced
  · cases sliced
    rfl
  · cases sliced

theorem goMake_ok {n : Int} (nonneg : 0 ≤ n) : goMake n = .ok (List.replicate n.toNat 0) := by
  simp [goMake, nonneg]

theorem length_goCopy {α : Type} (dst src : List α) : (goCopy dst src).length = dst.length := by
  simp only [goCopy, List.length_append, List.length_take, List.length_drop]
  omega

theorem getElem?_goCopy_of_lt {α : Type} {dst src : List α} {k : Nat} (inSrc : k < src.length)
    (inDst : k < dst.length) : (goCopy dst src)[k]? = src[k]? := by
  rw [goCopy, List.getElem?_append_left (by simp; omega), List.getElem?_take_of_lt inDst]

theorem getElem?_goCopy_of_le {α : Type} {dst src : List α} {k : Nat} (past : src.length ≤ k) :
    (goCopy dst src)[k]? = dst[k]? := by
  rw [goCopy, List.getElem?_append_right (by simp; omega), List.getElem?_drop]
  by_cases short : dst.length ≤ src.length
  · rw [List.getElem?_eq_none (by omega), List.getElem?_eq_none (by omega)]
  · congr 1
    simp only [List.length_take]
    omega

/-- A `sync.RWMutex`. `writer` is set from the moment a writer announces itself in
`Lock` (new readers then wait) until its `Unlock`; `readers` counts active readers. -/
structure RWMutex where
  writer : Bool
  readers : Nat
  deriving DecidableEq, Repr

namespace RWMutex

/-- `sync.RWMutex{}`. -/
def unlocked : RWMutex := ⟨false, 0⟩

/-- The first half of `Lock`: wait for the writer slot and announce the writer. -/
def announce (l : RWMutex) : Option RWMutex :=
  if l.writer then none else some { l with writer := true }

/-- The second half of `Lock` may finish once the readers active at the announcement left. -/
def drained (l : RWMutex) : Bool := l.readers == 0

def unlock (l : RWMutex) : RWMutex := { l with writer := false }

/-- `RLock` waits while a writer holds the lock or has announced itself. -/
def rlock (l : RWMutex) : Option RWMutex :=
  if l.writer then none else some { l with readers := l.readers + 1 }

def runlock (l : RWMutex) : RWMutex := { l with readers := l.readers - 1 }

theorem announce_eq_some {l l' : RWMutex} (announced : l.announce = some l') :
    l' = { l with writer := true } := by
  unfold announce at announced
  split at announced <;> cases announced
  rfl

theorem writer_of_announce {l l' : RWMutex} (announced : l.announce = some l') :
    l.writer = false := by
  unfold announce at announced
  split at announced
  · cases announced
  · simpa using ‹¬l.writer = true›

theorem rlock_eq_some {l l' : RWMutex} (locked : l.rlock = some l') :
    l' = { l with readers := l.readers + 1 } := by
  unfold rlock at locked
  split at locked <;> cases locked
  rfl

end RWMutex

/-- `Acquire(ctx, 1)` on `semaphore.NewWeighted(1)` holding weight `cur`: it waits unless
the whole weight is free. -/
def semAcquire (cur : Nat) : Option Nat :=
  if cur + 1 ≤ 1 then some (cur + 1) else none

/-- `Release(1)` on a weighted semaphore holding weight `cur`. -/
def semRelease (cur : Nat) : Go Nat :=
  if cur < 1 then .error .releasedMoreThanHeld else .ok (cur - 1)

end ReactrWasm
