/-! What the program says about itself. -/
namespace BlobSource.CommandLine

def versionText : String := "bin2c 0.1.0\n"

def helpText : String :=
  "Convert a binary file into C source exposing its bytes as a static blob\n\n" ++
    "Usage: bin2c [OPTIONS] <BINARY> <OUTPUT>\n\n" ++
    "Arguments:\n" ++
    "  <BINARY>  Source binary data\n" ++
    "  <OUTPUT>  Destination C source\n\n" ++
    "Options:\n" ++
    "      --use-asm               Use the faster but non-portable inline asm method\n" ++
    "      --symbol <NAME>         Exported symbol. Defaults to the file name with `-` and `.` " ++
    "replaced by `_`\n" ++
    "      --pointer-width <BITS>  Width of `size_t` for the asm method. Defaults to this " ++
    "machine's [possible values: 32, 64]\n" ++
    "      --strict                Refuse symbols that are not valid C identifiers\n" ++
    "  -v, --verbose               Log each step\n" ++
    "  -h, --help                  Print help\n" ++
    "  -V, --version               Print version\n"

end BlobSource.CommandLine
