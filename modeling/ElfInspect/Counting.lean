namespace ElfInspect

/-!
# Counting from either end

Items are numbered from zero, and a negative number counts back from the end: -1 is the last item.
-/

/-- The position that a number denotes among `count` items, if it denotes one. -/
def position? (count : Nat) (number : Int) : Option Nat :=
  let place := if number < 0 then number + count else number
  if 0 ≤ place ∧ place < count then some place.toNat else none

/-- The item with a number. -/
def itemAt? {α : Type} (items : List α) (number : Int) : Option α :=
  (position? items.length number).bind (items[·]?)

/-- The number minus one is that of the last item. -/
@[simp]
theorem position?_last (count : Nat) : position? (count + 1) (-1) = some count := by
  have h : (if (-1 : Int) < 0 then -1 + ((count + 1 : Nat) : Int) else -1) = count := by
    rw [if_pos (by decide)]
    omega
  simp only [position?, h]
  rw [if_pos (by omega), Int.toNat_natCast]

/-- Numbers that are not negative count from the first item on. -/
theorem position?_ofNat {count n : Nat} (h : n < count) : position? count n = some n := by
  have h0 : ¬ (n : Int) < 0 := by omega
  simp [position?, h0, h]

/-- A position is never beyond the end. -/
theorem position?_lt {count n : Nat} {number : Int} (h : position? count number = some n) :
    n < count := by
  simp only [position?] at h
  split at h
  all_goals
    split at h
    · simp only [Option.some.injEq] at h
      omega
    · simp at h

end ElfInspect
