import ResilientProxy.ChannelError

/-!
# Call arenas

Scratch memory for one call attempt: a budget of bytes, handed out front to back and given back all
at once when the attempt ends. A request past the budget fails and changes nothing, so a smaller
one may still succeed after it.
-/

namespace ResilientProxy

/-- A run of bytes that an arena handed out. -/
structure Block where
  start : Nat
  length : Nat
  deriving DecidableEq, Repr

structure Arena where
  /-- The budget in bytes. -/
  capacity : Nat
  /-- The bytes handed out so far, as last written. -/
  stored : List UInt8
  stored_le : stored.length ≤ capacity
  deriving DecidableEq, Repr

namespace Arena

/-- The largest budget for which memory can be reserved: half of the address space, less one. -/
def largest : Nat := 9223372036854775807

/-- An arena that can hand out `size` bytes in all. -/
def acquire (size : Nat) : Arena := ⟨size, [], Nat.zero_le _⟩

/-- Bytes handed out so far. -/
def used (a : Arena) : Nat := a.stored.length

/-- Bytes still to hand out. -/
def remaining (a : Arena) : Nat := a.capacity - a.used

/-- The block behind everything handed out so far. -/
def freshBlock (a : Arena) (length : Nat) : Block := ⟨a.used, length⟩

theorem length_append_le {a : Arena} {bytes : List UInt8} (h : bytes.length ≤ a.remaining) :
    (a.stored ++ bytes).length ≤ a.capacity := by
  have := a.stored_le
  simp only [remaining, used] at h
  simp only [List.length_append]
  omega

/-- Hands out a block of `length` zero bytes. -/
def alloc (a : Arena) (length : Nat) : Except ChannelError (Block × Arena) :=
  if h : length ≤ a.remaining then
    .ok (a.freshBlock length,
      ⟨a.capacity, a.stored ++ List.replicate length 0, length_append_le (by simpa using h)⟩)
  else .error .outOfMemory

/-- Hands out a block that holds a copy of `bytes`. -/
def allocCopy (a : Arena) (bytes : List UInt8) : Except ChannelError (Block × Arena) :=
  if h : bytes.length ≤ a.remaining then
    .ok (a.freshBlock bytes.length, ⟨a.capacity, a.stored ++ bytes, length_append_le h⟩)
  else .error .outOfMemory

/-- The bytes of a block. -/
def read (a : Arena) (b : Block) : List UInt8 := (a.stored.drop b.start).take b.length

/-- Writes `bytes` over a block from its start on, as far as both reach. -/
def write (a : Arena) (b : Block) (bytes : List UInt8) : Arena :=
  ⟨a.capacity,
    a.stored.mapIdx fun i old =>
      if b.start ≤ i ∧ i < b.start + b.length then (bytes[i - b.start]?).getD old else old,
    by simpa using a.stored_le⟩

@[simp] theorem capacity_write (a : Arena) (b : Block) (bytes : List UInt8) :
    (a.write b bytes).capacity = a.capacity := rfl

@[simp] theorem used_write (a : Arena) (b : Block) (bytes : List UInt8) :
    (a.write b bytes).used = a.used := by simp [used, write]

theorem used_add_remaining (a : Arena) : a.used + a.remaining = a.capacity := by
  have := a.stored_le
  simp only [remaining, used]
  omega

end Arena

end ResilientProxy
