import Stackline.Text.Basic

/-!
Where the output of a program goes. All that a program asks of a sink is to take bytes; a store of
bytes, which may be bounded, is such a sink.
-/

namespace Stackline

/--
A sink is known by what a write makes of it and by whether the write succeeds. A write that fails
may still have taken some of the bytes.
-/
class Sink (σ : Type) where
  write : σ → List UInt8 → σ × Bool

structure Store where
  written : Array UInt8
  /-- The number of bytes that the store holds; without one it holds any number. -/
  limit? : Option Nat
  deriving Repr, DecidableEq

namespace Store

def empty (limit? : Option Nat) : Store :=
  ⟨#[], limit?⟩

/--
How many of `count` further bytes the store takes.
-/
def room (store : Store) (count : Nat) : Nat :=
  match store.limit? with
  | none => count
  | some limit => min count (limit - store.written.size)

/--
Write what fits, and tell whether that was all.
-/
def write (store : Store) (bytes : List UInt8) : Store × Bool :=
  let count := store.room bytes.length
  (⟨store.written ++ bytes.take count, store.limit?⟩, count = bytes.length)

instance : Sink Store :=
  ⟨write⟩

theorem write_of_unlimited {store : Store} (h : store.limit? = none) (bytes : List UInt8) :
    Sink.write store bytes = (⟨store.written ++ bytes, none⟩, true) := by
  simp [Sink.write, write, room, h]

theorem limit?_write (store : Store) (bytes : List UInt8) :
    (Sink.write store bytes).1.limit? = store.limit? := rfl

theorem toList_written_write (store : Store) (bytes : List UInt8) :
    (Sink.write store bytes).1.written.toList =
      store.written.toList ++ bytes.take (store.room bytes.length) := by
  simp [Sink.write, write]

/--
The bytes that were written since the store was in an earlier state.
-/
def since (earlier store : Store) : List UInt8 :=
  store.written.toList.drop earlier.written.size

end Store
end Stackline
