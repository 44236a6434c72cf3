import ElfInspect.Proofs.Interning
import ElfInspect.Proofs.Symbols

namespace ElfInspect

/-!
# Symbol tables that are laid out

A symbol is laid out in one of two orders of its fields and in one of two byte orders, with its name
in a string table that is built apart.  Decoding turns each of these tables back into the symbols.

* `SymbolPlan`, `SymbolPlan.symbol` — a symbol to be laid out, and the symbol that it stands for;
* `SymbolPlan.bytes`, `SymbolPlan.table` — an entry and a table for given class and data bytes;
* `SymbolPlan.decodeTable_table` — a table is decoded to its symbols, in order.
-/

/-- A symbol to be laid out, with its packed bytes as they are stored. -/
structure SymbolPlan where
  name : String
  value : Nat := 0
  size : Nat := 0
  info : UInt8 := 0
  other : UInt8 := 0
  shndx : UInt16 := 0
  deriving Repr, DecidableEq, Inhabited

namespace SymbolPlan

/-- The symbol that a plan stands for. -/
def symbol (p : SymbolPlan) : Symbol :=
  { name := p.name, value := p.value, size := p.size, shndx := p.shndx.toNat
    type := p.info.toNat % 16, binding := p.info.toNat / 16, visibility := p.other.toNat % 4 }

/-- The bytes of the symbol for given class and data bytes, with its name at an offset. -/
def bytes (cls data : UInt8) (p : SymbolPlan) (name : Nat) : List UInt8 :=
  let uint := encodeUint (if data = 1 then .little else .big)
  let shndx := uint 2 p.shndx.toNat
  if cls = 1 then uint 4 name ++ uint 4 p.value ++ uint 4 p.size ++ [p.info, p.other] ++ shndx
  else uint 4 name ++ [p.info, p.other] ++ shndx ++ uint 8 p.value ++ uint 8 p.size

/-- A table of symbols, with the offsets of their names. -/
def table (cls data : UInt8) (offsets : List (String × Nat)) (plans : List SymbolPlan) :
    List UInt8 :=
  plans.flatMap fun p => p.bytes cls data (StringTable.offsetOf offsets p.name)

/-- The numbers of the symbol take a certain number of bits at most. -/
def Fits (bits : Nat) (p : SymbolPlan) : Prop :=
  p.value < 2 ^ bits ∧ p.size < 2 ^ bits

instance (bits : Nat) (p : SymbolPlan) : Decidable (p.Fits bits) :=
  inferInstanceAs (Decidable (_ ∧ _))

/-- The number of bits of an address. -/
def addressBits (cls : UInt8) : Nat :=
  if cls = 1 then 32 else 64

/-- A symbol that can be written with some addresses can be with wider ones. -/
theorem Fits.mono {p : SymbolPlan} {bits bits' : Nat} (h : p.Fits bits) (hle : bits ≤ bits') :
    p.Fits bits' :=
  have hpow := Nat.pow_le_pow_right Nat.two_pos hle
  ⟨Nat.lt_of_lt_of_le h.1 hpow, Nat.lt_of_lt_of_le h.2 hpow⟩

/-- Addresses have no fewer than 32 bits. -/
theorem le_addressBits (cls : UInt8) : 32 ≤ addressBits cls := by
  unfold addressBits
  split <;> decide

/-! ### Entries -/

/-- The entry that a plan is laid out as. -/
def entry (p : SymbolPlan) (name : Nat) : SymbolEntry :=
  { name, value := p.value, size := p.size, info := p.info.toNat, other := p.other.toNat
    shndx := p.shndx.toNat }

/-- The encoding that two bytes name. -/
theorem encoding_eq (cls data : UInt8) :
    Encoding.ofBytes cls.toNat data.toNat =
      ⟨decide (cls = 1), if data = 1 then .little else .big⟩ := by
  have hone (b : UInt8) : b.toNat = 1 ↔ b = 1 := UInt8.toNat_inj (b := 1)
  unfold Encoding.ofBytes ByteOrder.ofData Abi.class32 Abi.littleEndian
  simp only [hone]

/-- As many values fit an address as it has bits for. -/
theorem pow_addressWidth (cls data : UInt8) :
    256 ^ (Encoding.ofBytes cls.toNat data.toNat).addressWidth = 2 ^ addressBits cls := by
  rw [encoding_eq]
  unfold Encoding.addressWidth addressBits
  by_cases hcls : cls = 1 <;> simp [hcls]

/-- A single byte is encoded as itself. -/
theorem encodeUint_byte (order : ByteOrder) (b : UInt8) : encodeUint order 1 b.toNat = [b] := by
  cases order <;> simp [encodeUint, encodeLittle]

/-- The bytes of a plan are those of its entry. -/
theorem encode_entry (cls data : UInt8) (p : SymbolPlan) (name : Nat) :
    (SymbolEntry.layout (.ofBytes cls.toNat data.toNat)).encode
      (Encoding.ofBytes cls.toNat data.toNat).order (p.entry name) = p.bytes cls data name := by
  rw [encoding_eq]
  by_cases hcls : cls = 1 <;>
    simp [hcls, SymbolEntry.layout, Layout.encode, entry, bytes, encodeUint_byte,
      Encoding.addressWidth]

/-- The entry of a plan can be written if its addresses can and its name is found in four bytes. -/
theorem fits_entry {cls : UInt8} {p : SymbolPlan} (hp : p.Fits (addressBits cls)) (data : UInt8)
    {name : Nat} (hname : name < 2 ^ 32) :
    (SymbolEntry.layout (.ofBytes cls.toNat data.toNat)).Fits (p.entry name) := by
  refine SymbolEntry.fits_iff.mpr ⟨hname, ?_, ?_, ?_, ?_, ?_⟩
  · rw [pow_addressWidth]
    exact hp.1
  · rw [pow_addressWidth]
    exact hp.2
  · exact p.info.toNat_lt
  · exact p.other.toNat_lt
  · exact p.shndx.toNat_lt

/-- The entry of a plan is resolved to its symbol where its name is found. -/
theorem resolve_entry {p : SymbolPlan} {strings : Bytes} {name : Nat}
    (h : StringTable.lookup strings name = .ok p.name) :
    (p.entry name).resolve strings = .ok p.symbol := by
  unfold SymbolEntry.resolve
  show (StringTable.lookup strings name >>= _) = _
  rw [h]
  rfl

/-! ### Tables -/

variable {cls data : UInt8} {offsets : List (String × Nat)} {plans : List SymbolPlan}

/-- The entries of a table. -/
def entries (offsets : List (String × Nat)) (plans : List SymbolPlan) : List SymbolEntry :=
  plans.map fun p => p.entry (StringTable.offsetOf offsets p.name)

/-- The bytes of a table are those of its entries by their layout. -/
theorem table_eq (cls data : UInt8) (offsets : List (String × Nat)) (plans : List SymbolPlan) :
    table cls data offsets plans =
      (entries offsets plans).flatMap ((SymbolEntry.layout (.ofBytes cls.toNat data.toNat)).encode
        (Encoding.ofBytes cls.toNat data.toNat).order) := by
  unfold table entries
  rw [List.flatMap_map]
  simp only [encode_entry]

/-- A table has one entry for each plan. -/
theorem length_table (cls data : UInt8) (offsets : List (String × Nat)) (plans : List SymbolPlan) :
    (table cls data offsets plans).length =
      plans.length * Stored.symbolSize (.ofBytes cls.toNat data.toNat) := by
  rw [table_eq, Layout.length_encodeAll, Stored.size_symbolEntry, entries, List.length_map]

/-- The entry with an index is that of the plan with the index. -/
theorem entryAt_table {i : Nat} {p : SymbolPlan} (hp : plans[i]? = some p)
    (hfits : p.Fits (addressBits cls))
    (hoffset : StringTable.offsetOf offsets p.name < 2 ^ 32) :
    Stored.entryAt (.ofBytes cls.toNat data.toNat) (table cls data offsets plans).toArray i =
      p.entry (StringTable.offsetOf offsets p.name) := by
  have hentry : (entries offsets plans)[i]? =
      some (p.entry (StringTable.offsetOf offsets p.name)) := by
    rw [entries, List.getElem?_map, hp]
    rfl
  -- the entries are of one size, so that each begins at a multiple of it
  have hcarries : Stored.Carries (table cls data offsets plans).toArray 0
      (table cls data offsets plans) := List.prefix_rfl
  rw [table_eq] at hcarries
  have hitem := hcarries.record hentry
  rw [Nat.zero_add, Stored.size_symbolEntry, ← table_eq] at hitem
  have hdecode := hitem.decode (fits_entry hfits data hoffset) {}
  rwa [SymbolEntry.transfer_layout, Stored.decode_symbolEntry] at hdecode

/-- A table is decoded to the symbols of its plans, if their names are found where the entries say
    that they are. -/
theorem decodeTable_of_lookup {strings : Bytes}
    (hfits : ∀ p ∈ plans, p.Fits (addressBits cls))
    (hoffsets : ∀ p ∈ plans, StringTable.offsetOf offsets p.name < 2 ^ 32)
    (hnames : ∀ p ∈ plans,
      StringTable.lookup strings (StringTable.offsetOf offsets p.name) = .ok p.name) :
    Symbol.decodeTable (table cls data offsets plans).toArray strings
      (.ofBytes cls.toNat data.toNat) = .ok (plans.map symbol) := by
  have hsize := length_table cls data offsets plans
  have hpos := Stored.symbolSize_pos (.ofBytes cls.toNat data.toNat)
  have hcount : Stored.entryCount (.ofBytes cls.toNat data.toNat)
      (table cls data offsets plans).toArray = plans.length := by
    unfold Stored.entryCount
    rw [List.size_toArray, hsize, Nat.mul_div_cancel _ hpos]
  have hsymbols : (List.range plans.length).mapM (Stored.symbolAt (.ofBytes cls.toNat data.toNat)
      (table cls data offsets plans).toArray strings) = .ok (plans.map symbol) := by
    refine mapM_range_eq_ok_iff.mpr ⟨List.length_map .., fun i a ha => ?_⟩
    rw [List.getElem?_map, Option.map_eq_some_iff] at ha
    obtain ⟨p, hp, rfl⟩ := ha
    have hmem : p ∈ plans := List.mem_of_getElem? hp
    unfold Stored.symbolAt
    rw [entryAt_table hp (hfits p hmem) (hoffsets p hmem)]
    exact resolve_entry (hnames p hmem)
  -- nothing is left behind the last entry
  rw [Symbol.decodeTable_eq, hcount, hsymbols, ok_bind, Symbol.finish, List.size_toArray, hsize,
    Nat.mul_mod_left, if_pos rfl]

/-- **Symbol tables.**  Whatever the class and data bytes, a table of symbols is decoded to them, in
    order, with their names and with the packed bytes split.  So all tables of the same symbols are
    decoded to the same list. -/
theorem decodeTable_table (names : List String) (hnames : ∀ s ∈ names, '\x00' ∉ s.toList)
    (hstrings : (StringTable.build names).1.length < 2 ^ 32) (plans : List SymbolPlan)
    (hplans : ∀ p ∈ plans, p.name = "" ∨ p.name ∈ names) :
    let strings := (StringTable.build names).1.toArray
    let offsets := (StringTable.build names).2
    let decoded (cls data : UInt8) := Symbol.decodeTable (table cls data offsets plans).toArray
      strings (.ofBytes cls.toNat data.toNat)
    (∀ cls data, (∀ p ∈ plans, p.Fits (addressBits cls)) →
        decoded cls data = .ok (plans.map symbol)) ∧
      ((∀ p ∈ plans, p.Fits 32) →
        ∀ cls data cls' data', decoded cls data = decoded cls' data') := by
  intro strings offsets decoded
  -- names are found where the string table has put them
  have hall (cls data : UInt8) (hfits : ∀ p ∈ plans, p.Fits (addressBits cls)) :
      decoded cls data = .ok (plans.map symbol) := by
    refine decodeTable_of_lookup hfits (fun p hp => ?_) fun p hp => ?_
    · exact Nat.lt_trans (StringTable.offsetOf_lt (hplans p hp)) hstrings
    · refine StringTable.lookup_build (hplans p hp) ?_
      rcases hplans p hp with hempty | hname
      · rw [hempty]
        exact List.not_mem_nil
      · exact hnames p.name hname
  refine ⟨hall, fun hfits cls data cls' data' => ?_⟩
  -- what fits the narrow addresses is the same in every encoding
  have hwide (c : UInt8) (p : SymbolPlan) (hp : p ∈ plans) : p.Fits (addressBits c) :=
    (hfits p hp).mono (le_addressBits c)
  rw [hall cls data (hwide cls), hall cls' data' (hwide cls')]

/-- Names of which one is repeated and one is not all ASCII. -/
def sampleNames : List String :=
  ["main", "é", "main"]

/-- Symbols of which two share a name, one has none, and one has all bits of its bytes in use. -/
def samplePlans : List SymbolPlan :=
  [{ name := "" }, { name := "é", value := 2 ^ 32 - 1, size := 47, info := 0xa6, other := 0xfe
                     shndx := 0xffff },
    { name := "main", value := 0x1000, info := 0x12, shndx := 1 }, { name := "main", other := 3 }]

/-- Among the names are none, one with an accent, and one that occurs twice; among the values are
    the least and the greatest. -/
theorem decodeTable_table_samplePlans :
    (∀ s ∈ sampleNames, '\x00' ∉ s.toList) ∧ (StringTable.build sampleNames).1.length < 2 ^ 32 ∧
      (∀ p ∈ samplePlans, p.name = "" ∨ p.name ∈ sampleNames) ∧ (∀ p ∈ samplePlans, p.Fits 32) ∧
      ∀ cls data : UInt8,
        Symbol.decodeTable (table cls data (StringTable.build sampleNames).2 samplePlans).toArray
            (StringTable.build sampleNames).1.toArray (.ofBytes cls.toNat data.toNat) =
          .ok [⟨"", 0, 0, 0, 0, 0, 0⟩, ⟨"é", 2 ^ 32 - 1, 47, 0xffff, 6, 10, 2⟩,
            ⟨"main", 0x1000, 0, 1, 2, 1, 0⟩, ⟨"main", 0, 0, 0, 0, 0, 3⟩] := by
  have hnames : ∀ s ∈ sampleNames, '\x00' ∉ s.toList := by decide +kernel
  have hstrings : (StringTable.build sampleNames).1.length < 2 ^ 32 := by decide +kernel
  have hplans : ∀ p ∈ samplePlans, p.name = "" ∨ p.name ∈ sampleNames := by decide
  have hfits : ∀ p ∈ samplePlans, p.Fits 32 := by decide
  obtain ⟨hall, -⟩ := decodeTable_table sampleNames hnames hstrings samplePlans hplans
  refine ⟨hnames, hstrings, hplans, hfits, fun cls data => ?_⟩
  exact hall cls data fun p hp => (hfits p hp).mono (le_addressBits cls)

end SymbolPlan

end ElfInspect
