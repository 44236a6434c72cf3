import ElfInspect.Proofs.Load.Stages

namespace ElfInspect

/-!
# Independence of delivery

How a device hands out its bytes, and in which chunks section contents are read, makes no difference
to a load.  Only which offsets the device can represent does, and that shows in a failed seek.

* `AgreesUnless excepted r r'` — two results are the same, or the first fails for a cause that is
  excepted; `bind` and `mapM` keep this;
* `Stored.load_agrees` — a device in memory and an unbounded one agree, failed seeks excepted;
* `Load.delivery_independent` — in-memory and trickling devices give the same outcome.
-/

variable {ε ε' α β : Type} {content : Bytes} {medium : Medium}

/-! ### Agreement -/

/-- The results are the same, or the first is a failure for an excepted cause. -/
def AgreesUnless (excepted : ε → Prop) (r r' : Except ε α) : Prop :=
  r = r' ∨ ∃ e, excepted e ∧ r = .error e

namespace AgreesUnless

variable {excepted : ε → Prop}

theorem refl (r : Except ε α) : AgreesUnless excepted r r :=
  .inl rfl

/-- A failure for an excepted cause agrees with everything. -/
theorem error {e : ε} (h : excepted e) (r : Except ε α) : AgreesUnless excepted (.error e) r :=
  .inr ⟨e, h, rfl⟩

/-- Chains agree if their parts do. -/
theorem bind {r r' : Except ε α} {f f' : α → Except ε β} (hr : AgreesUnless excepted r r')
    (hf : ∀ a, AgreesUnless excepted (f a) (f' a)) :
    AgreesUnless excepted (r >>= f) (r' >>= f') := by
  rcases hr with rfl | ⟨e, he, rfl⟩
  · cases r with
    | ok a => exact hf a
    | error e => exact refl _
  · exact error he _

/-- Loops agree if their steps do. -/
theorem mapM {f f' : β → Except ε α} (items : List β)
    (h : ∀ x ∈ items, AgreesUnless excepted (f x) (f' x)) :
    AgreesUnless excepted (items.mapM f) (items.mapM f') := by
  induction items with
  | nil => exact refl _
  | cons x items ih =>
    rw [List.mapM_cons, List.mapM_cons]
    refine bind (h x List.mem_cons_self) fun a => ?_
    refine bind (ih fun y hy => h y (List.mem_cons_of_mem x hy)) fun as => ?_
    exact refl _

/-- Attributing the causes to a phase. -/
theorem attributed {excepted : LoadFailure → Prop} (phase : Phase)
    {r r' : Except DecodeError α}
    (h : AgreesUnless (fun cause => excepted (cause.inPhase phase)) r r') :
    AgreesUnless excepted (Stored.attributed phase r) (Stored.attributed phase r') := by
  rcases h with rfl | ⟨cause, hcause, rfl⟩
  · exact refl _
  · exact error hcause _

end AgreesUnless

/-! ### Failed seeks -/

/-- The failure is that of a seek. -/
def LoadFailure.InSeek (failure : LoadFailure) : Prop :=
  ∃ offset fault, failure.error = .seekFailed offset fault

namespace Stored

/-- A table is read alike in memory and from an unbounded device, unless the seek to it fails. -/
theorem table_agrees (phase : Phase) (layout : Layout α) (order : ByteOrder) (start : α)
    (offset count : Nat) :
    AgreesUnless (fun cause => (cause.inPhase phase).InSeek)
      (table content .memory layout order start offset count)
      (table content .unbounded layout order start offset count) := by
  unfold table
  cases Medium.memory.offsetFault? offset with
  | some fault => exact .error ⟨offset, fault, rfl⟩ _
  | none => exact .refl _

/-- So is the content of a section. -/
theorem sectionData_agrees (phase : Phase) (h : SectionHeader) :
    AgreesUnless (fun cause => (cause.inPhase phase).InSeek)
      (sectionData content .memory h) (sectionData content .unbounded h) := by
  unfold sectionData
  split
  · exact .refl _
  · cases Medium.memory.offsetFault? h.offset with
    | some fault => exact .error ⟨h.offset, fault, rfl⟩ _
    | none => exact .refl _

/-- **Failed seeks are all that sets a device in memory apart.** -/
theorem load_agrees (content : Bytes) :
    AgreesUnless LoadFailure.InSeek (load content .memory) (load content .unbounded) := by
  unfold load loadWith
  -- identification and header are read where the device stands, without a seek
  refine .bind (.refl _) fun ident => ?_
  refine .bind (.refl _) fun header => ?_
  refine .bind (.attributed _ (table_agrees _ _ _ _ _ _)) fun segments => ?_
  refine .bind (.attributed _ (table_agrees _ _ _ _ _ _)) fun headers => ?_
  refine .bind (.attributed _ (.mapM headers fun h _ => sectionData_agrees _ h)) fun contents => ?_
  -- names are looked up in what has been read
  exact .refl _

end Stored

/-! ### Loads -/

/-- **Delivery independence.**  Unless a load from memory fails in a seek, it has the outcome that
    it has with any other chunk size, and that of a load from a device that trickles. -/
theorem Load.delivery_independent (content : Bytes) {chunk chunk' : Int} {most : Nat}
    (hchunk : 1 ≤ chunk ∧ chunk < wordLimit) (hchunk' : 1 ≤ chunk' ∧ chunk' < wordLimit)
    (hmost : 1 ≤ most)
    (hseek : ∀ failure, Load.ofBytes content chunk = .error failure → ¬ failure.InSeek) :
    Load.ofBytes content chunk' = Load.ofBytes content chunk ∧
      (Load.run (.trickling content most) chunk).outcome = Load.ofBytes content chunk ∧
      (Load.run (.trickling content most) chunk').outcome = Load.ofBytes content chunk := by
  have htrickling {size : Int} (h : 1 ≤ size) :
      (Load.run (.trickling content most) size).outcome = Stored.load content .unbounded :=
    Load.outcome_run (Device.trickling_serves content hmost) h (Medium.unbounded_grants _)
  -- the load from memory does not fail in a seek, so that it agrees with that from an unbounded
  -- device
  -- the load from memory does not fail in a seek, so that it agrees with that from an unbounded
  -- device
  have hmedium : Stored.load content .unbounded = Load.ofBytes content chunk := by
    rw [Load.ofBytes_eq hchunk.1 hchunk.2] at hseek ⊢
    rcases Stored.load_agrees content with heq | ⟨failure, hfailure, hload⟩
    · exact heq.symm
    · exact absurd hfailure (hseek failure hload)
  refine ⟨?_, ?_, ?_⟩
  · rw [Load.ofBytes_eq hchunk'.1 hchunk'.2, Load.ofBytes_eq hchunk.1 hchunk.2]
  · rw [htrickling hchunk.1, hmedium]
  · rw [htrickling hchunk'.1, hmedium]

/-- An image that breaks off in the last but one field of a section header, of which a trickling
    device hands out two bytes at a time. -/
def Load.cutImage : Bytes :=
  let header : FileHeader := { shoff := 64, shnum := 1 }
  (Abi.magic ++ [2, 1, 1] ++ List.replicate 9 0 ++
    (FileHeader.layout ⟨false, .little⟩).encode .little header ++ List.replicate 54 0).toArray

theorem Load.delivery_independent_cutImage :
    (Load.ofBytes cutImage 3 = .error ⟨.truncated 8 6, some .decodeSectionHeaders⟩) ∧
      Load.ofBytes cutImage 2 = Load.ofBytes cutImage 3 ∧
      (Load.run (.trickling cutImage 2) 3).outcome = Load.ofBytes cutImage 3 ∧
      (Load.run (.trickling cutImage 2) 2).outcome = Load.ofBytes cutImage 3 := by
  have hchunk : 1 ≤ (3 : Int) ∧ (3 : Int) < wordLimit := by decide
  have hchunk' : 1 ≤ (2 : Int) ∧ (2 : Int) < wordLimit := by decide
  have hload : Load.ofBytes cutImage 3 =
      .error ⟨.truncated 8 6, some .decodeSectionHeaders⟩ := by
    -- the second section header is cut in a field of eight bytes
    have hviolation : Stored.Violation cutImage .decodeSectionHeaders (.truncated 8 6) :=
      .sections (by decide +kernel)
        (.cut (by decide +kernel) (by decide +kernel) (by decide +kernel) (by decide +kernel))
    rw [Load.ofBytes_eq hchunk.1 hchunk.2, Stored.load_of_violation hviolation]
    rfl
  refine ⟨hload, Load.delivery_independent cutImage hchunk hchunk' (by decide) ?_⟩
  rintro failure hfailure ⟨offset, fault, herror⟩
  rw [hload] at hfailure
  cases hfailure
  cases herror

end ElfInspect
