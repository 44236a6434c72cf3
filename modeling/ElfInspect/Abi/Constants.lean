namespace ElfInspect.Abi

/-!
# Constants of the generic ABI

The numbers that steer decoding, under names of their own.
-/

/-! ### The identification bytes -/

/-- The number of identification bytes at the start of a file. -/
def identSize : Nat := 16

/-- The position of the class byte. -/
def classIndex : Nat := 4

/-- The position of the data encoding byte. -/
def dataIndex : Nat := 5

/-- The position of the identification version. -/
def versionIndex : Nat := 6

/-- The position of the operating system byte. -/
def osAbiIndex : Nat := 7

/-- The position of the ABI version byte. -/
def abiVersionIndex : Nat := 8

/-- The four bytes that every file starts with. -/
def magic : List UInt8 := [0x7F, 0x45, 0x4C, 0x46]

/-- No version of the format. -/
def noVersion : Nat := 0

/-- The only version of the format. -/
def currentVersion : Nat := 1

/-- The class byte of files with 32-bit addresses. -/
def class32 : Nat := 1

/-- The class byte of files with 64-bit addresses. -/
def class64 : Nat := 2

/-- The data encoding byte of little-endian files. -/
def littleEndian : Nat := 1

/-- The data encoding byte of big-endian files. -/
def bigEndian : Nat := 2

/-! ### Sections, segments and symbols -/

/-- A section header that describes no section. -/
def sectionNull : Nat := 0

/-- A section of program data. -/
def sectionProgbits : Nat := 1

/-- A symbol table for linking. -/
def sectionSymtab : Nat := 2

/-- A string table. -/
def sectionStrtab : Nat := 3

/-- A section that occupies no space in the file. -/
def sectionNobits : Nat := 8

/-- A symbol table for dynamic linking. -/
def sectionDynsym : Nat := 11

/-- The flag of sections that can be written to. -/
def sectionWrite : Nat := 1

/-- The flag of sections that occupy memory. -/
def sectionAlloc : Nat := 2

/-- The flag of sections that hold instructions. -/
def sectionExec : Nat := 4

/-- The flag of segments that can be executed. -/
def segmentExec : Nat := 1

/-- The flag of segments that can be written to. -/
def segmentWrite : Nat := 2

/-- The flag of segments that can be read. -/
def segmentRead : Nat := 4

/-- The section index of undefined symbols. -/
def indexUndefined : Nat := 0

/-- The section index of absolute values. -/
def indexAbsolute : Nat := 0xFFF1

/-- The section index of common symbols. -/
def indexCommon : Nat := 0xFFF2

/-- The size of a symbol table entry with 32-bit addresses. -/
def symbolSize32 : Nat := 16

/-- The size of a symbol table entry with 64-bit addresses. -/
def symbolSize64 : Nat := 24

end ElfInspect.Abi
