import BlobSource.Path.Basic
import BlobSource.Symbol.Basic

/-! What can go wrong, by cause, and the words for it. -/
namespace BlobSource

inductive FileError where
  | notFound
  /-- A file stands where the path goes on. -/
  | notDirectory
  /-- The source is a directory, as its kind shows before it is opened. -/
  | sourceIsDirectory
  /-- A directory cannot be opened for writing. -/
  | isDirectory
  /-- The path holds a zero byte. -/
  | zeroByte
  /-- An empty path has no absolute form. -/
  | emptyPath
  | nameTooLong
  | tooManyLinks
  | permissionDenied
  | deviceFailure
  /-- The device has no room. -/
  | deviceFull
  /-- The receiver has no room and says so. -/
  | receiverFull
  /-- The receiver has no room and takes nothing. -/
  | nothingTaken
  deriving DecidableEq, Repr

def FileError.message : FileError → String
  | .notFound => "No such file or directory (os error 2)"
  | .notDirectory => "Not a directory (os error 20)"
  | .sourceIsDirectory => "is a directory"
  | .isDirectory => "Is a directory (os error 21)"
  | .zeroByte => "file name contained an unexpected NUL byte"
  | .emptyPath => "cannot make an empty path absolute"
  | .nameTooLong => "File name too long (os error 36)"
  | .tooManyLinks => "Too many levels of symbolic links (os error 40)"
  | .permissionDenied => "Permission denied (os error 13)"
  | .deviceFailure => "Input/output error (os error 5)"
  | .deviceFull => "No space left on device (os error 28)"
  | .receiverFull => "disk full"
  | .nothingTaken => "failed to write whole buffer"

inductive ConversionError where
  | sourceUnreadable (path : Path) (cause : FileError)
  | destinationUnwritable (path : Path) (cause : FileError)
  /-- The receiver of the text refused it. -/
  | outputRefused (cause : FileError)
  /-- The source held another number of bytes than its size had promised. -/
  | lengthMismatch (path : Path) (expected actual : Nat)
  /-- The path would have to be written as text, and is none. -/
  | pathNotText (path : Path)
  | noFileName (path : Path)
  | invalidSymbol (symbol : Symbol) (issue : SymbolIssue)
  | variableUnset (name : String)
  | unsupportedWidth (text : String)
  deriving DecidableEq, Repr

namespace ConversionError

def message : ConversionError → String
  | sourceUnreadable path _ => s!"Could not read source binary '{path.display}'"
  | destinationUnwritable path _ => s!"Could not write destination '{path.display}'"
  | outputRefused _ => "Could not write generated source"
  | lengthMismatch path expected actual =>
    s!"Source binary '{path.display}' changed during conversion: " ++
      s!"expected {expected} bytes, read {actual}"
  | pathNotText path =>
    s!"Source path '{path.display}' is not valid UTF-8 and cannot be written into `.incbin`"
  | noFileName path => s!"Path '{path.display}' has no file name to derive a symbol from"
  | invalidSymbol symbol issue =>
    s!"Symbol '{symbol.name}' is not usable as a C identifier: {issue.message}"
  | variableUnset name => s!"Environment variable '{name}' not set by Cargo"
  | unsupportedWidth text => s!"Unsupported pointer width '{text}'"

/-- The failed file operation behind the error, where there is one. -/
def cause? : ConversionError → Option FileError
  | sourceUnreadable _ cause | destinationUnwritable _ cause | outputRefused cause => some cause
  | _ => none

end ConversionError

end BlobSource
