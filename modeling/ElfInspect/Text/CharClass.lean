namespace ElfInspect

/-!
# Classes of characters

A class of characters is given by the code points at which it begins, ends, begins again and so
on, in ascending order.

* `inClass`: whether a code point belongs to a class.
-/

/-- Whether a code point belongs to the class that begins and ends at the given ones. -/
def inClass (changes : List Nat) (n : Nat) : Bool :=
  match changes with
  | [] => false
  | change :: later => if n < change then false else !inClass later n

/-- No code point belongs to a class that never begins. -/
@[simp]
theorem inClass_nil (n : Nat) : inClass [] n = false := rfl

/-- Before its first code point a class is empty. -/
theorem inClass_of_lt {change n : Nat} {later : List Nat} (h : n < change) :
    inClass (change :: later) n = false := by
  simp [inClass, h]

end ElfInspect
