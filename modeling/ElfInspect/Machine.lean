namespace ElfInspect

/-!
# Machines

A program can do no more than the machine that it runs on.  What that is differs from machine to
machine, and some of it from one moment to the next, so that whatever depends on it takes it as a
parameter.

* `Room`: how much is held in memory at once;
* `Machine`: the room, and how deeply values may be nested that are written out.
-/

/-- A number of bytes that there is always room for.  No field of a record takes more. -/
def leastRoom : Nat := 64

/-- The room of a machine. -/
structure Room where
  /-- The first number of bytes or characters that cannot be held at once. -/
  limit : Nat
  /-- The fields of records can be. -/
  leastRoom_le : leastRoom ≤ limit
  deriving Repr, DecidableEq

instance : Inhabited Room := ⟨⟨leastRoom, Nat.le_refl leastRoom⟩⟩

/-- What a machine is able to do at some moment. -/
structure Machine where
  room : Room
  /-- The first depth at which values are nested too deeply to be written as text. -/
  textDepth : Nat
  /-- The first depth at which values are nested too deeply to be written as JSON. -/
  jsonDepth : Nat
  deriving Repr, DecidableEq, Inhabited

end ElfInspect
