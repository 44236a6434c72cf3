import ElfInspect.Abi.Constants
import ElfInspect.Number.RealText
import ElfInspect.Text.Hex

namespace ElfInspect.Abi

/-!
# Names of codes

Every numeric code of the generic ABI has a symbol, by which programmers know it, and a readable
name, by which tools show it.

* `CodeKind`: the ten families of codes, with `CodeKind.codes` their tables;
* `CodeKind.describe`: the readable name of a code, or its hexadecimal number if it has none;
* `describeSectionIndex`: a section index as symbol listings show it;
* `sectionFlags`, `segmentFlags`: flag words as letters;
* `constant?`: the value of a constant by its symbol.
-/

/-- A code with its symbol and its readable name. -/
structure Code where
  value : Nat
  symbol : String
  name : String
  deriving Repr, DecidableEq

/-! ### The tables -/

/-- The address width of the file. -/
def fileClassCodes : List Code :=
  [⟨0, "ELFCLASSNONE", "NONE"⟩,
   ⟨class32, "ELFCLASS32", "ELF32"⟩,
   ⟨class64, "ELFCLASS64", "ELF64"⟩]

/-- The byte order of the file. -/
def dataEncodingCodes : List Code :=
  [⟨0, "ELFDATANONE", "NONE"⟩,
   ⟨littleEndian, "ELFDATA2LSB", "2's complement, little endian"⟩,
   ⟨bigEndian, "ELFDATA2MSB", "2's complement, big endian"⟩]

/-- The operating system and ABI the file is meant for. -/
def osAbiCodes : List Code :=
  [⟨0, "ELFOSABI_SYSV", "UNIX - System V"⟩,
   ⟨1, "ELFOSABI_HPUX", "UNIX - HP-UX"⟩,
   ⟨2, "ELFOSABI_NETBSD", "UNIX - NetBSD"⟩,
   ⟨3, "ELFOSABI_LINUX", "UNIX - GNU/Linux"⟩,
   ⟨6, "ELFOSABI_SOLARIS", "UNIX - Solaris"⟩,
   ⟨7, "ELFOSABI_AIX", "UNIX - AIX"⟩,
   ⟨8, "ELFOSABI_IRIX", "UNIX - IRIX"⟩,
   ⟨9, "ELFOSABI_FREEBSD", "UNIX - FreeBSD"⟩,
   ⟨10, "ELFOSABI_TRU64", "UNIX - TRU64"⟩,
   ⟨11, "ELFOSABI_MODESTO", "Novell - Modesto"⟩,
   ⟨12, "ELFOSABI_OPENBSD", "UNIX - OpenBSD"⟩,
   ⟨13, "ELFOSABI_OPENVMS", "VMS - OpenVMS"⟩,
   ⟨14, "ELFOSABI_NSK", "HP - Non-Stop Kernel"⟩,
   ⟨15, "ELFOSABI_AROS", "AROS"⟩,
   ⟨16, "ELFOSABI_FENIXOS", "FenixOS"⟩,
   ⟨17, "ELFOSABI_CLOUDABI", "Nuxi CloudABI"⟩,
   ⟨255, "ELFOSABI_STANDALONE", "Standalone App"⟩]

/-- The kind of object file. -/
def objectTypeCodes : List Code :=
  [⟨0, "ET_NONE", "NONE (No file type)"⟩,
   ⟨1, "ET_REL", "REL (Relocatable file)"⟩,
   ⟨2, "ET_EXEC", "EXEC (Executable file)"⟩,
   ⟨3, "ET_DYN", "DYN (Shared object file)"⟩,
   ⟨4, "ET_CORE", "CORE (Core file)"⟩]

/-- The machine the file is meant for. -/
def machineCodes : List Code :=
  [⟨0, "EM_NONE", "None"⟩,
   ⟨2, "EM_SPARC", "SPARC"⟩,
   ⟨3, "EM_386", "Intel 80386"⟩,
   ⟨4, "EM_68K", "Motorola 68000"⟩,
   ⟨8, "EM_MIPS", "MIPS R3000"⟩,
   ⟨20, "EM_PPC", "PowerPC"⟩,
   ⟨21, "EM_PPC64", "PowerPC64"⟩,
   ⟨22, "EM_S390", "IBM S/390"⟩,
   ⟨40, "EM_ARM", "ARM"⟩,
   ⟨42, "EM_SH", "Renesas / SuperH SH"⟩,
   ⟨43, "EM_SPARCV9", "SPARC v9 64-bit"⟩,
   ⟨50, "EM_IA_64", "Intel IA-64"⟩,
   ⟨62, "EM_X86_64", "Advanced Micro Devices X86-64"⟩,
   ⟨83, "EM_AVR", "Atmel AVR 8-bit microcontroller"⟩,
   ⟨105, "EM_MSP430", "Texas Instruments msp430 microcontroller"⟩,
   ⟨183, "EM_AARCH64", "AArch64"⟩,
   ⟨243, "EM_RISCV", "RISC-V"⟩,
   ⟨247, "EM_BPF", "Linux BPF"⟩,
   ⟨258, "EM_LOONGARCH", "LoongArch"⟩]

/-- The contents of a section. -/
def sectionTypeCodes : List Code :=
  [⟨sectionNull, "SHT_NULL", "NULL"⟩,
   ⟨sectionProgbits, "SHT_PROGBITS", "PROGBITS"⟩,
   ⟨sectionSymtab, "SHT_SYMTAB", "SYMTAB"⟩,
   ⟨sectionStrtab, "SHT_STRTAB", "STRTAB"⟩,
   ⟨4, "SHT_RELA", "RELA"⟩,
   ⟨5, "SHT_HASH", "HASH"⟩,
   ⟨6, "SHT_DYNAMIC", "DYNAMIC"⟩,
   ⟨7, "SHT_NOTE", "NOTE"⟩,
   ⟨sectionNobits, "SHT_NOBITS", "NOBITS"⟩,
   ⟨9, "SHT_REL", "REL"⟩,
   ⟨10, "SHT_SHLIB", "SHLIB"⟩,
   ⟨sectionDynsym, "SHT_DYNSYM", "DYNSYM"⟩,
   ⟨14, "SHT_INIT_ARRAY", "INIT_ARRAY"⟩,
   ⟨15, "SHT_FINI_ARRAY", "FINI_ARRAY"⟩,
   ⟨16, "SHT_PREINIT_ARRAY", "PREINIT_ARRAY"⟩,
   ⟨17, "SHT_GROUP", "GROUP"⟩,
   ⟨18, "SHT_SYMTAB_SHNDX", "SYMTAB_SHNDX"⟩,
   ⟨0x6FFFFFF6, "SHT_GNU_HASH", "GNU_HASH"⟩,
   ⟨0x6FFFFFFD, "SHT_GNU_VERDEF", "VERDEF"⟩,
   ⟨0x6FFFFFFE, "SHT_GNU_VERNEED", "VERNEED"⟩,
   ⟨0x6FFFFFFF, "SHT_GNU_VERSYM", "VERSYM"⟩]

/-- The purpose of a segment. -/
def segmentTypeCodes : List Code :=
  [⟨0, "PT_NULL", "NULL"⟩,
   ⟨1, "PT_LOAD", "LOAD"⟩,
   ⟨2, "PT_DYNAMIC", "DYNAMIC"⟩,
   ⟨3, "PT_INTERP", "INTERP"⟩,
   ⟨4, "PT_NOTE", "NOTE"⟩,
   ⟨5, "PT_SHLIB", "SHLIB"⟩,
   ⟨6, "PT_PHDR", "PHDR"⟩,
   ⟨7, "PT_TLS", "TLS"⟩,
   ⟨0x6474E550, "PT_GNU_EH_FRAME", "GNU_EH_FRAME"⟩,
   ⟨0x6474E551, "PT_GNU_STACK", "GNU_STACK"⟩,
   ⟨0x6474E552, "PT_GNU_RELRO", "GNU_RELRO"⟩]

/-- The kind of thing that a symbol stands for. -/
def symbolTypeCodes : List Code :=
  [⟨0, "STT_NOTYPE", "NOTYPE"⟩,
   ⟨1, "STT_OBJECT", "OBJECT"⟩,
   ⟨2, "STT_FUNC", "FUNC"⟩,
   ⟨3, "STT_SECTION", "SECTION"⟩,
   ⟨4, "STT_FILE", "FILE"⟩,
   ⟨5, "STT_COMMON", "COMMON"⟩,
   ⟨6, "STT_TLS", "TLS"⟩,
   ⟨10, "STT_GNU_IFUNC", "IFUNC"⟩]

/-- The linkage of a symbol. -/
def symbolBindingCodes : List Code :=
  [⟨0, "STB_LOCAL", "LOCAL"⟩,
   ⟨1, "STB_GLOBAL", "GLOBAL"⟩,
   ⟨2, "STB_WEAK", "WEAK"⟩,
   ⟨10, "STB_GNU_UNIQUE", "UNIQUE"⟩]

/-- The visibility of a symbol. -/
def symbolVisibilityCodes : List Code :=
  [⟨0, "STV_DEFAULT", "DEFAULT"⟩,
   ⟨1, "STV_INTERNAL", "INTERNAL"⟩,
   ⟨2, "STV_HIDDEN", "HIDDEN"⟩,
   ⟨3, "STV_PROTECTED", "PROTECTED"⟩]

/-- Constants that belong to no family with readable names. -/
def otherConstants : List (String × Nat) :=
  [("EI_NIDENT", identSize),
   ("EI_CLASS", classIndex),
   ("EI_DATA", dataIndex),
   ("EI_VERSION", versionIndex),
   ("EI_OSABI", osAbiIndex),
   ("EI_ABIVERSION", abiVersionIndex),
   ("ELFMAG0", (magic.getD 0 0).toNat),
   ("ELFMAG1", (magic.getD 1 0).toNat),
   ("ELFMAG2", (magic.getD 2 0).toNat),
   ("ELFMAG3", (magic.getD 3 0).toNat),
   ("EV_NONE", noVersion),
   ("EV_CURRENT", currentVersion),
   ("ELFOSABI_NONE", 0),
   ("SHF_WRITE", sectionWrite),
   ("SHF_ALLOC", sectionAlloc),
   ("SHF_EXECINSTR", sectionExec),
   ("SHN_UNDEF", indexUndefined),
   ("SHN_ABS", indexAbsolute),
   ("SHN_COMMON", indexCommon),
   ("PF_X", segmentExec),
   ("PF_W", segmentWrite),
   ("PF_R", segmentRead),
   ("ELF32_SYM_SIZE", symbolSize32),
   ("ELF64_SYM_SIZE", symbolSize64)]

/-! ### Readable names -/

/-- The families of codes. -/
inductive CodeKind
  | fileClass
  | dataEncoding
  | osAbi
  | objectType
  | machine
  | sectionType
  | segmentType
  | symbolType
  | symbolBinding
  | symbolVisibility
  deriving Repr, DecidableEq

/-- The table of a family. -/
def CodeKind.codes : CodeKind → List Code
  | .fileClass => fileClassCodes
  | .dataEncoding => dataEncodingCodes
  | .osAbi => osAbiCodes
  | .objectType => objectTypeCodes
  | .machine => machineCodes
  | .sectionType => sectionTypeCodes
  | .segmentType => segmentTypeCodes
  | .symbolType => symbolTypeCodes
  | .symbolBinding => symbolBindingCodes
  | .symbolVisibility => symbolVisibilityCodes

/-- All families. -/
def CodeKind.all : List CodeKind :=
  [.fileClass, .dataEncoding, .osAbi, .objectType, .machine, .sectionType, .segmentType,
   .symbolType, .symbolBinding, .symbolVisibility]

/-- The entry of a code in a table. -/
def lookup? (codes : List Code) (code : Int) : Option Code :=
  codes.find? fun entry => (entry.value : Int) = code

/-- The readable name of a code; a code that is not in the table is shown by its number. -/
def CodeKind.describe (kind : CodeKind) (code : Int) : String :=
  match lookup? kind.codes code with
  | some entry => entry.name
  | none => hexMarked code

/-- A symbol's section index: the three special indices have names. -/
def describeSectionIndex (index : Int) : String :=
  if index = indexUndefined then "UND"
  else if index = indexAbsolute then "ABS"
  else if index = indexCommon then "COM"
  else intText index

/-! ### Flag words -/

/-- Whether a number has a flag, which is a power of two; negative numbers have infinitely many
    sign bits. -/
def hasFlag (word : Int) (flag : Nat) : Bool :=
  (word / flag) % 2 = 1

/-- The letters of the flags that a number has, in the given order, or a dash if it has none. -/
def flagLetters (letters : List (Nat × Char)) (word : Int) : String :=
  match (letters.filter fun (flag, _) => hasFlag word flag).map Prod.snd with
  | [] => "-"
  | shown => String.ofList shown

/-- Section flags: writable, allocated, executable. -/
def sectionFlags : Int → String :=
  flagLetters [(sectionWrite, 'W'), (sectionAlloc, 'A'), (sectionExec, 'X')]

/-- Segment flags: readable, writable, executable. -/
def segmentFlags : Int → String :=
  flagLetters [(segmentRead, 'R'), (segmentWrite, 'W'), (segmentExec, 'X')]

/-! ### Constants by symbol -/

/-- All constants: the codes with readable names and the others. -/
def constants : List (String × Nat) :=
  (CodeKind.all.flatMap fun kind => kind.codes.map fun c => (c.symbol, c.value)) ++ otherConstants

/-- The value of a constant. -/
def constant? (symbol : String) : Option Nat :=
  (constants.find? fun (s, _) => s = symbol).map Prod.snd

end ElfInspect.Abi
