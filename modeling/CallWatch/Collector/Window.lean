import CallWatch.Binary64.Basic
import CallWatch.Word

/-! The window of the newest latencies of one method.
It is a queue in two lists, so that a sample joins and the oldest leaves in constant time
on average; `toList` gives the samples from the oldest to the newest. The room for all of its
samples is asked for when a window is made, and more of it than can be addressed is refused.
-/

namespace CallWatch

/-- A queue of samples: the older ones oldest first, the newer ones newest first. -/
structure Window where
  older : List Binary64
  newer : List Binary64
  size : Nat
  size_eq : size = older.length + newer.length

namespace Window

/-- The most samples that room can be asked for: they take eight bytes each, and the bytes have
to be counted by a signed word.
-/
def largest : Nat := greatestWord 63 / 8

def empty : Window := ⟨[], [], 0, rfl⟩

/-- A new window with room for some samples. Asking for more room than there can be breaks off;
whether the machine has the memory otherwise is not told here.
-/
def new? (capacity : Nat) : Option Window :=
  if capacity ≤ largest then some empty else none

/-- The samples from the oldest to the newest. -/
def toList (w : Window) : List Binary64 :=
  w.older ++ w.newer.reverse

theorem length_toList (w : Window)
    : w.toList.length = w.size := by
  simp [toList, w.size_eq]

def append (w : Window) (sample : Binary64) : Window where
  older := w.older
  newer := sample :: w.newer
  size := w.size + 1
  size_eq := by simp [w.size_eq, Nat.add_assoc]

def dropOldest (w : Window) : Window :=
  match w.older with
  | _ :: rest => ⟨rest, w.newer, rest.length + w.newer.length, rfl⟩
  | [] =>
    let rest := w.newer.reverse.drop 1
    ⟨rest, [], rest.length, rfl⟩

/-- Adds a sample; a full window first loses its oldest. -/
def push (capacity : Nat) (w : Window) (sample : Binary64) : Window :=
  if capacity ≤ w.size then w.dropOldest.append sample else w.append sample

theorem toList_append (w : Window) (sample : Binary64)
    : (w.append sample).toList = w.toList ++ [sample] := by
  simp [append, toList]

theorem toList_dropOldest (w : Window)
    : w.dropOldest.toList = w.toList.drop 1 := by
  obtain ⟨older, newer, size, size_eq⟩ := w
  cases older <;> simp [dropOldest, toList]

/-- Pushing keeps the newest `capacity` samples of the window and the new one. -/
theorem toList_push {capacity : Nat} {w : Window} (positive : 0 < capacity)
    (fits : w.toList.length ≤ capacity) (sample : Binary64)
    : (w.push capacity sample).toList
      = (w.toList ++ [sample]).drop (w.toList.length + 1 - capacity) := by
  rw [length_toList] at *
  unfold push
  split
  · next full =>
    rw [toList_append, toList_dropOldest, show w.size + 1 - capacity = 1 by omega,
      List.drop_append_of_le_length (by rw [length_toList]; omega)]
  · next room => rw [toList_append, show w.size + 1 - capacity = 0 by omega, List.drop_zero]

end Window

end CallWatch
