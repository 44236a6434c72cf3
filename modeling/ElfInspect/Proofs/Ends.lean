import ElfInspect.Proofs.Yields

namespace ElfInspect

/-!
# How a computation can end

Where the result of a computation depends on more than is known, there may still be something to say
of every value and of every error that it can end with.

* `Ends before m good bad` — from every state with the property `before`, `m` ends with a value and
  a state that are `good`, or with an error and a state that are `bad`;
* `Ends.bind`, `Ends.mapM`, `Ends.repeatDecodeFrom` — chains and loops;
* `Ends.length_mapM`, `Ends.length_readTable` — how many values loops come to.
-/

variable {ε σ α β : Type}

/-- From every state with the property `before`, the computation either ends with a value and in a
    state that are `good`, or fails with an error and in a state that are `bad`. -/
def Ends (before : σ → Prop) (m : EStateM ε σ α) (good : α → σ → Prop) (bad : ε → σ → Prop) :
    Prop :=
  ∀ s, before s →
    match m s with
    | .ok a s' => good a s'
    | .error e s' => bad e s'

namespace Ends

variable {P I : σ → Prop} {m : EStateM ε σ α} {Q : α → σ → Prop} {R : β → σ → Prop}
  {E : ε → σ → Prop}

/-- A value ends a computation in the state it began in. -/
theorem pure {a : α} (h : ∀ s, P s → Q a s) : Ends P (Pure.pure a) Q E :=
  h

/-- So does an error that is thrown. -/
theorem throw {e : ε} (h : ∀ s, P s → E e s) : Ends P (MonadExcept.throw e) Q E :=
  h

/-- Nothing is said. -/
theorem any (m : EStateM ε σ α) : Ends P m (fun _ _ => True) fun _ _ => True := by
  intro s _
  cases m s <;> trivial

/-- Less may be known before, and less may be asked for afterwards. -/
theorem mono {P' : σ → Prop} {Q' : α → σ → Prop} {E' : ε → σ → Prop} (h : Ends P m Q E)
    (hP : ∀ s, P' s → P s) (hQ : ∀ a s, Q a s → Q' a s) (hE : ∀ e s, E e s → E' e s) :
    Ends P' m Q' E' := by
  intro s hs
  have hstep := h s (hP s hs)
  cases hrun : m s with
  | ok a s' =>
    rw [hrun] at hstep
    exact hQ a s' hstep
  | error e s' =>
    rw [hrun] at hstep
    exact hE e s' hstep

/-- The errors may stay as they are. -/
theorem weaken {P' : σ → Prop} {Q' : α → σ → Prop} (h : Ends P m Q E) (hP : ∀ s, P' s → P s)
    (hQ : ∀ a s, Q a s → Q' a s) : Ends P' m Q' E :=
  h.mono hP hQ fun _ _ he => he

/-- Two things to say of a computation. -/
theorem and {P' : σ → Prop} {Q' : α → σ → Prop} {E' : ε → σ → Prop} (h : Ends P m Q E)
    (h' : Ends P' m Q' E') :
    Ends (fun s => P s ∧ P' s) m (fun a s => Q a s ∧ Q' a s) (fun e s => E e s ∧ E' e s) := by
  intro s hs
  -- both speak of the same run
  have hleft := h s hs.1
  have hright := h' s hs.2
  cases hrun : m s with
  | ok a s' =>
    rw [hrun] at hleft hright
    exact ⟨hleft, hright⟩
  | error e s' =>
    rw [hrun] at hleft hright
    exact ⟨hleft, hright⟩

/-- What holds under a condition on something else. -/
theorem given {p : Prop} (h : p → Ends P m Q E) :
    Ends (fun s => p → P s) m (fun a s => p → Q a s) (fun e s => p → E e s) := by
  intro s hs
  have hstep (hp : p) := h hp s (hs hp)
  cases hrun : m s with
  | ok a s' =>
    rw [hrun] at hstep
    exact hstep
  | error e s' =>
    rw [hrun] at hstep
    exact hstep

/-- **Sequencing.**  Either part may fail. -/
theorem bind {f : α → EStateM ε σ β} (hm : Ends P m Q E) (hf : ∀ a, Ends (Q a) (f a) R E) :
    Ends P (m >>= f) R E := by
  intro s hs
  have hstep := hm s hs
  show match EStateM.bind m f s with
    | .ok b s' => R b s'
    | .error e s' => E e s'
  unfold EStateM.bind
  cases hrun : m s with
  | ok a s' =>
    rw [hrun] at hstep
    exact hf a s' hstep
  | error e s' =>
    rw [hrun] at hstep
    exact hstep

/-- A loop whose steps all keep a property of the state. -/
theorem mapM {f : β → EStateM ε σ α} (items : List β)
    (h : ∀ x ∈ items, Ends I (f x) (fun _ => I) E) : Ends I (items.mapM f) (fun _ => I) E := by
  induction items with
  | nil => exact pure fun _ hs => hs
  | cons x items ih =>
    rw [List.mapM_cons]
    refine bind (h x List.mem_cons_self) fun a => ?_
    exact bind (ih fun y hy => h y (List.mem_cons_of_mem x hy)) fun as => pure fun _ hs => hs

/-- Records one after another, where reading one keeps a property of the device. -/
theorem repeatDecodeFrom {I : Device → Prop} {step : Decode α} {E : DecodeError → Device → Prop}
    (h : Ends I step (fun _ => I) E) (count : Nat) (done : Array α) :
    Ends I (ElfInspect.repeatDecodeFrom step count done) (fun _ => I) E := by
  induction count generalizing done with
  | zero => exact pure fun _ hs => hs
  | succ count ih =>
    rw [repeatDecodeFrom_succ]
    exact bind h fun record => ih (done.push record)

/-! ### Lengths -/

/-- A loop over a list has one value for each item. -/
theorem length_mapM {f : β → EStateM ε σ α} (items : List β) :
    Ends (fun _ => True) (items.mapM f) (fun as _ => as.length = items.length)
      (fun _ _ => True) := by
  induction items with
  | nil => exact pure fun _ _ => rfl
  | cons x items ih =>
    rw [List.mapM_cons]
    refine bind (any (f x)) fun a => bind ih fun as => pure fun s hs => ?_
    rw [List.length_cons, List.length_cons, hs]

/-- Each record that is read adds one to those done before. -/
theorem size_repeatDecodeFrom (step : Decode α) (count : Nat) (done : Array α) :
    Ends (fun _ => True) (ElfInspect.repeatDecodeFrom step count done)
      (fun records _ => records.size = done.size + count) (fun _ _ => True) := by
  induction count generalizing done with
  | zero => exact pure fun _ _ => rfl
  | succ count ih =>
    rw [repeatDecodeFrom_succ]
    refine bind (any step) fun record =>
      (ih (done.push record)).weaken (fun _ hs => hs) fun _ _ hs => ?_
    rw [hs, Array.size_push]
    omega

/-- A table has as many records as are asked for. -/
theorem length_readTable (offset : Int) (count : Nat) (step : Decode α) :
    Ends (fun _ => True) (ElfInspect.readTable offset count step)
      (fun records _ => records.length = count) (fun _ _ => True) := by
  -- the seek has no say in the number of records
  refine bind (any (ElfInspect.seekTo offset)) fun _ =>
    bind (size_repeatDecodeFrom step count #[]) fun records => pure fun d hd => ?_
  rw [Array.length_toList, hd, Array.size_empty, Nat.zero_add]

end Ends

end ElfInspect
