import ElfInspect.Decode

namespace ElfInspect

/-!
# What a computation comes to

Decoders and loads are computations that change a state and may stop with a cause.  The judgement
`Yields before m result after` says that from every state with the property `before`, the
computation `m` ends with `result` — a value or a cause — in a state with the property `after`.
In contrast to a pair of pre- and postcondition it fixes the result, so that a chain of computations
is evaluated step by step:

* `Yields.pure`, `Yields.throw`, `Yields.bind` — the steps of a chain; the results of its parts are
  chained as `Except` values;
* `Yields.mapM`, `Yields.repeatDecode` — loops, whose result is that of the same loop over `Except`
  values;
* `mapM_range_eq_ok_iff`, `mapM_range_eq_error_iff` — such a loop over indices succeeds when all of
  its items do, and otherwise ends with the cause of the first item that does not.
-/

variable {ε σ α β : Type}

/-- A result together with the state it is reached in. -/
def ending (result : Except ε α) (s : σ) : EStateM.Result ε σ α :=
  match result with
  | .ok a => .ok a s
  | .error e => .error e s

@[simp] theorem ending_ok (a : α) (s : σ) : ending (ε := ε) (.ok a) s = .ok a s := rfl
@[simp] theorem ending_error (e : ε) (s : σ) : ending (α := α) (.error e) s = .error e s := rfl

/-- The second part of a chain goes on from the state in which the first one ends well. -/
theorem bind_of_ending_ok {m : EStateM ε σ α} {f : α → EStateM ε σ β} {a : α} {s s' : σ}
    (h : m s = ending (.ok a) s') : (m >>= f) s = f a s' := by
  show EStateM.bind m f s = _
  simp only [EStateM.bind, h, ending_ok]

/-- A chain ends where its first part stops with a cause. -/
theorem bind_of_ending_error {m : EStateM ε σ α} {f : α → EStateM ε σ β} {e : ε} {s s' : σ}
    (h : m s = ending (.error e) s') : (m >>= f) s = ending (.error e) s' := by
  show EStateM.bind m f s = _
  simp only [EStateM.bind, h, ending_error]

/-- From every state with the property `before`, the computation ends with `result` in a state with
    the property `after`. -/
def Yields (before : σ → Prop) (m : EStateM ε σ α) (result : Except ε α) (after : σ → Prop) :
    Prop :=
  ∀ s, before s → ∃ s', m s = ending result s' ∧ after s'

/-! ### Steps -/

namespace Yields

variable {P Q R : σ → Prop} {m : EStateM ε σ α} {r : Except ε α}

/-- A value is the result in whatever state. -/
theorem pure (a : α) : Yields (ε := ε) P (Pure.pure a) (.ok a) P :=
  fun s hs => ⟨s, rfl, hs⟩

/-- A cause that is thrown is the result in whatever state. -/
theorem throw (e : ε) : Yields (α := α) P (MonadExcept.throw e) (.error e) P :=
  fun s hs => ⟨s, rfl, hs⟩

/-- Less may be said of the state at the end. -/
theorem weaken (h : Yields P m r Q) (hQ : ∀ s, Q s → R s) : Yields P m r R := by
  intro s hs
  obtain ⟨s', hrun, hs'⟩ := h s hs
  exact ⟨s', hrun, hQ s' hs'⟩

/-- **Sequencing.**  Where the first part stops with a cause, the state it stops in is that of the
    whole. -/
theorem bind {f : α → EStateM ε σ β} {g : α → Except ε β} (hm : Yields P m r Q)
    (hf : ∀ a, r = .ok a → Yields Q (f a) (g a) R) (he : ∀ e, r = .error e → ∀ s, Q s → R s) :
    Yields P (m >>= f) (r >>= g) R := by
  intro s hs
  obtain ⟨s', hrun, hs'⟩ := hm s hs
  cases r with
  | ok a =>
    obtain ⟨s'', hrun', hs''⟩ := hf a rfl s' hs'
    exact ⟨s'', (bind_of_ending_ok hrun).trans hrun', hs''⟩
  | error e => exact ⟨s', bind_of_ending_error hrun, he e rfl s' hs'⟩

/-- Sequencing after a part that never stops. -/
theorem bind_ok {f : α → EStateM ε σ β} {r : Except ε β} {a : α} (hm : Yields P m (.ok a) Q)
    (hf : Yields Q (f a) r R) : Yields P (m >>= f) r R :=
  bind (g := fun _ => r) hm (fun _ h => Except.ok.inj h ▸ hf) nofun

/-- A part that stops with a cause ends the whole. -/
theorem bind_error {f : α → EStateM ε σ β} {e : ε} (hm : Yields P m (.error e) Q) :
    Yields P (m >>= f) (.error e) Q :=
  bind (g := fun _ => .error e) hm nofun (fun _ _ _ hs => hs)

/-! ### Loops -/

/-- A loop over a list whose steps all keep a property of the state. -/
theorem mapM {f : β → EStateM ε σ α} {g : β → Except ε α} (items : List β)
    (h : ∀ x ∈ items, Yields P (f x) (g x) P) : Yields P (items.mapM f) (items.mapM g) P := by
  induction items with
  | nil => exact pure []
  | cons x items ih =>
    rw [List.mapM_cons, List.mapM_cons]
    refine bind (h x List.mem_cons_self) (fun a _ => ?_) (fun _ _ _ hs => hs)
    refine bind (ih fun y hy => h y (List.mem_cons_of_mem x hy)) (fun as _ => ?_)
      (fun _ _ _ hs => hs)
    exact pure (a :: as)

/-- Records one after another.  `P i` is what is known before the record at index `i`. -/
theorem repeatDecodeFrom {step : Decode α} {f : Nat → Except DecodeError α}
    {P : Nat → Device → Prop} (count : Nat) (done : Array α)
    (h : ∀ i < count, Yields (P i) step (f i) (P (i + 1))) :
    Yields (P 0) (ElfInspect.repeatDecodeFrom step count done)
      ((List.range count).mapM f >>= fun records => .ok (done ++ records.toArray))
      (fun d => ∃ i ≤ count, P i d) := by
  -- the first record is taken off, so that all indices move by one
  induction count generalizing f P done with
  | zero => exact (pure done).weaken fun d hd => ⟨0, Nat.le_refl 0, hd⟩
  | succ count ih =>
    have hrest (record : α) := ih (done.push record) fun i hi => h (i + 1) (by omega)
    rw [repeatDecodeFrom_succ, List.range_succ_eq_map, List.mapM_cons, List.mapM_map, bind_assoc]
    refine bind (h 0 (by omega)) (fun record _ => ?_) (fun _ _ d hd => ⟨1, by omega, hd⟩)
    have hresult : ((do
          let records ← (List.range count).mapM (f ∘ Nat.succ)
          Pure.pure (record :: records)) >>= fun records => .ok (done ++ records.toArray)) =
        ((List.range count).mapM (fun i => f (i + 1)) >>=
          fun records => .ok (done.push record ++ records.toArray)) := by
      rw [bind_assoc]
      congr 1
      funext records
      exact congrArg Except.ok (Array.toList_inj.mp (by simp))
    rw [hresult]
    refine (hrest record).weaken ?_
    rintro d ⟨i, hi, hd⟩
    exact ⟨i + 1, by omega, hd⟩

/-- Records one after another, from the first one on. -/
theorem repeatDecode {step : Decode α} {f : Nat → Except DecodeError α} {P : Nat → Device → Prop}
    (count : Nat) (h : ∀ i < count, Yields (P i) step (f i) (P (i + 1))) :
    Yields (P 0) (ElfInspect.repeatDecode count step) ((List.range count).mapM f)
      (fun d => ∃ i ≤ count, P i d) := by
  have hrun := bind (repeatDecodeFrom count #[] h) (fun records _ => pure records.toList)
    (fun _ _ _ hd => hd)
  rw [bind_assoc] at hrun
  -- the records are collected in an array and handed out as a list
  have hresult : ((List.range count).mapM f >>= fun records =>
      (.ok (#[] ++ records.toArray) >>= fun records => .ok records.toList)) =
        (List.range count).mapM f := by
    cases (List.range count).mapM f with
    | ok records => exact congrArg Except.ok (by simp)
    | error e => rfl
  rw [hresult] at hrun
  exact hrun

end Yields

/-! ### Loops over `Except` values -/

theorem ok_bind (a : α) (f : α → Except ε β) : (Except.ok a >>= f) = f a := rfl
theorem error_bind (e : ε) (f : α → Except ε β) : (Except.error e >>= f) = .error e := rfl

/-- A chain that succeeds has got a value from its first part. -/
theorem exists_of_bind_eq_ok {r : Except ε α} {f : α → Except ε β} {b : β}
    (h : (r >>= f) = .ok b) : ∃ a, r = .ok a ∧ f a = .ok b := by
  cases r with
  | ok a => exact ⟨a, rfl, h⟩
  | error e => cases h

/-- A result whose value is known is known itself; equality of values may be decidable where that of
    results is not. -/
theorem eq_ok_of_toOption {r : Except ε α} {a : α} (h : r.toOption = some a) : r = .ok a := by
  cases r with
  | ok b => exact congrArg Except.ok (Option.some.inj h)
  | error e => cases h

/-- A loop that succeeds has one value for each item. -/
theorem length_of_mapM_ok {f : β → Except ε α} {items : List β} {as : List α}
    (h : items.mapM f = .ok as) : as.length = items.length := by
  induction items generalizing as with
  | nil =>
    cases h
    rfl
  | cons x items ih =>
    rw [List.mapM_cons] at h
    cases hx : f x with
    | error e =>
      rw [hx, error_bind] at h
      cases h
    | ok a =>
      rw [hx, ok_bind] at h
      cases hrest : items.mapM f with
      | error e =>
        rw [hrest] at h
        cases h
      | ok rest =>
        rw [hrest] at h
        cases h
        rw [List.length_cons, List.length_cons, ih hrest]

/-- A loop over indices, with its last step taken off. -/
theorem mapM_range_succ (f : Nat → Except ε α) (n : Nat) :
    (List.range (n + 1)).mapM f = do
      let done ← (List.range n).mapM f
      let a ← f n
      return done ++ [a] := by
  rw [List.range_succ, List.mapM_append]
  simp

/-- A loop succeeds if each of its items does, and its results are those of the items. -/
theorem exists_mapM_range {f : Nat → Except ε α} {n : Nat} (h : ∀ i < n, ∃ a, f i = .ok a) :
    ∃ items, (List.range n).mapM f = .ok items ∧ items.length = n ∧
      ∀ i a, items[i]? = some a → f i = .ok a := by
  induction n with
  | zero => exact ⟨[], rfl, rfl, by simp⟩
  | succ n ih =>
    obtain ⟨done, hdone, hlength, hitems⟩ := ih fun i hi => h i (by omega)
    obtain ⟨a, ha⟩ := h n (by omega)
    refine ⟨done ++ [a], ?_, by simp [hlength], fun i b hb => ?_⟩
    · rw [mapM_range_succ, hdone]
      simp only [ha]
      rfl
    · by_cases hi : i < n
      · rw [List.getElem?_append_left (by omega)] at hb
        exact hitems i b hb
      · rw [List.getElem?_append_right (by omega)] at hb
        -- behind the items of the shorter loop there is only the last one
        obtain ⟨hi', hb'⟩ := List.getElem?_eq_some_iff.mp hb
        have hin : i = n := by simp at hi'; omega
        rw [List.getElem_singleton] at hb'
        rw [hin, ha, hb']

/-- A loop whose items are known. -/
theorem mapM_range_of_ok {f : Nat → Except ε α} {g : Nat → α} {n : Nat}
    (h : ∀ i < n, f i = .ok (g i)) : (List.range n).mapM f = .ok ((List.range n).map g) := by
  induction n with
  | zero => rfl
  | succ n ih =>
    rw [mapM_range_succ, ih fun i hi => h i (by omega)]
    simp only [h n (by omega), List.range_succ, List.map_append]
    rfl

/-- A loop fails with the cause of an item that fails if all items before it succeed. -/
theorem mapM_range_of_error {f : Nat → Except ε α} {i n : Nat} {e : ε} (hi : i < n)
    (hfault : f i = .error e) (hbefore : ∀ j < i, ∃ a, f j = .ok a) :
    (List.range n).mapM f = .error e := by
  induction n with
  | zero => omega
  | succ n ih =>
    rw [mapM_range_succ]
    by_cases hin : i < n
    · rw [ih hin]
      rfl
    -- the failing item is the last one: all before it succeed
    · have hlast : i = n := by omega
      subst hlast
      obtain ⟨done, hdone, -⟩ := exists_mapM_range hbefore
      rw [hdone]
      simp only [hfault]
      rfl

/-- Among the items up to an index, either all succeed or there is a first that fails. -/
theorem all_ok_or_first_error (f : Nat → Except ε α) (n : Nat) :
    (∀ i < n, ∃ a, f i = .ok a) ∨
      ∃ i < n, ∃ e, f i = .error e ∧ ∀ j < i, ∃ a, f j = .ok a := by
  -- the first failure among the items so far stays the first
  induction n with
  | zero => exact .inl (by omega)
  | succ n ih =>
    rcases ih with hall | ⟨i, hi, e, hfault, hbefore⟩
    · cases hn : f n with
      | ok a =>
        refine .inl fun i hi => ?_
        by_cases hin : i < n
        · exact hall i hin
        · exact ⟨a, by rw [show i = n by omega, hn]⟩
      | error e => exact .inr ⟨n, by omega, e, hn, hall⟩
    · exact .inr ⟨i, by omega, e, hfault, hbefore⟩

/-- **Loops that succeed.**  There is one item for each index, in order. -/
theorem mapM_range_eq_ok_iff {f : Nat → Except ε α} {n : Nat} {items : List α} :
    (List.range n).mapM f = .ok items ↔
      items.length = n ∧ ∀ i a, items[i]? = some a → f i = .ok a := by
  constructor
  · intro h
    rcases all_ok_or_first_error f n with hall | ⟨i, hi, e, hfault, hbefore⟩
    · obtain ⟨items', hitems', hspec⟩ := exists_mapM_range hall
      rw [h] at hitems'
      rw [Except.ok.inj hitems']
      exact hspec
    · rw [mapM_range_of_error hi hfault hbefore] at h
      cases h
  · rintro ⟨hlength, hitems⟩
    -- a list of that length has an item for each index, which tells that the step succeeds
    have hget : ∀ i < n, ∃ a, items[i]? = some a := fun i hi =>
      ⟨items[i], List.getElem?_eq_getElem (by omega)⟩
    obtain ⟨items', hitems', hlength', hspec⟩ := exists_mapM_range fun i hi => by
      obtain ⟨a, ha⟩ := hget i hi
      exact ⟨a, hitems i a ha⟩
    rw [hitems']
    congr 1
    refine List.ext_getElem (by omega) fun i hi hi' => ?_
    have hleft := hspec i _ (List.getElem?_eq_getElem hi)
    rw [hitems i _ (List.getElem?_eq_getElem hi')] at hleft
    exact (Except.ok.inj hleft).symm

/-- **Loops that fail.**  The cause is that of the first item that fails. -/
theorem mapM_range_eq_error_iff {f : Nat → Except ε α} {n : Nat} {e : ε} :
    (List.range n).mapM f = .error e ↔
      ∃ i < n, f i = .error e ∧ ∀ j < i, ∃ a, f j = .ok a := by
  constructor
  · intro h
    rcases all_ok_or_first_error f n with hall | ⟨i, hi, e', hfault, hbefore⟩
    · obtain ⟨items, hitems, -⟩ := exists_mapM_range hall
      rw [h] at hitems
      cases hitems
    · rw [mapM_range_of_error hi hfault hbefore] at h
      rw [Except.error.inj h] at hfault
      exact ⟨i, hi, hfault, hbefore⟩
  · rintro ⟨i, hi, hfault, hbefore⟩
    exact mapM_range_of_error hi hfault hbefore

/-- Two loops come to the same if their items do, as far as the first loop gets. -/
theorem mapM_range_congr {f g : Nat → Except ε α} {n : Nat}
    (h : ∀ i < n, (∀ j < i, ∃ a, f j = .ok a) → f i = g i) :
    (List.range n).mapM f = (List.range n).mapM g := by
  cases hf : (List.range n).mapM f with
  | ok items =>
    obtain ⟨hlength, hitems⟩ := mapM_range_eq_ok_iff.mp hf
    -- no step of the first loop fails, so that the hypothesis covers all of them
    have hall : ∀ i < n, ∃ a, f i = .ok a := fun i hi =>
      ⟨items[i], hitems i _ (List.getElem?_eq_getElem (by omega))⟩
    refine (mapM_range_eq_ok_iff.mpr ⟨hlength, fun i a ha => ?_⟩).symm
    obtain ⟨hi, -⟩ := List.getElem?_eq_some_iff.mp ha
    rw [← h i (by omega) fun j hj => hall j (by omega)]
    exact hitems i a ha
  | error e =>
    obtain ⟨i, hi, hfault, hbefore⟩ := mapM_range_eq_error_iff.mp hf
    refine (mapM_range_eq_error_iff.mpr ⟨i, hi, ?_, fun j hj => ?_⟩).symm
    · rw [← h i hi hbefore]
      exact hfault
    · rw [← h j (by omega) fun k hk => hbefore k (by omega)]
      exact hbefore j hj

end ElfInspect
