import BlobSource.Listing
import BlobSource.Width

/-! The blob as an assembler block that includes the source file by its path. -/
namespace BlobSource.AssemblyListing

def quoted (statement : String) : String := "    \"" ++ statement ++ "\\n\"\n"

/-- The definitions that hold the word's alignment and directive. -/
def definitions (width : WordWidth) : List String :=
  ["#define BALIGN \"", toString width.alignment, "\"\n#define TYPE \"", width.directive,
    "\"\n\n"]

/-- The block: read-only data, aligned, with the length word and then the file's bytes. -/
def block (symbol : Symbol) (path : String) (length : Nat) : List String :=
  ["asm (\n", quoted ".section .rodata", "    \".balign \" BALIGN \"\\n\"\n",
    quoted (".global " ++ symbol.lengthName), quoted (symbol.lengthName ++ ":"),
    "    TYPE \" " ++ toString length ++ "\\n\"\n",
    quoted (".global " ++ symbol.name), quoted (symbol.name ++ ":"),
    quoted (".incbin \\\"" ++ path ++ "\\\""), "    \".balign \" BALIGN \"\\n\"\n",
    quoted ".section .text", ");\n"]

def listing (width : WordWidth) (symbol : Symbol) (path : String) (length : Nat) : Listing :=
  .settled (Listing.preamble :: definitions width ++ block symbol path length) length

end BlobSource.AssemblyListing
