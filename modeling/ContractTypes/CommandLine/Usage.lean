import ContractTypes.CommandLine.Options

/-!
The texts that the command line shows about itself.

The usage lists the options on three lines.  It opens the help, and it stands above the message
about a command line that cannot be read.
-/

namespace ContractTypes

namespace CommandLine

def textOfLines (lines : List Text) : Text :=
  lines.flatMap (fun line => line ++ [CodePoint.ofChar '\n'])

def usage : List Text := [
  "usage: abi2ts [-h] [--version] [-i INPUT] [-p PREFIX] [-n INDENT] [-t] [-e]",
  "              [--config CONFIG] [-q] [-a | -c | -s]",
  "              [output]"]

def description : List Text := [
  "",
  "Generate TypeScript type declarations from a contract ABI.",
  "",
  "positional arguments:",
  "  output                Output file to write to instead of stdout.",
  "",
  "options:",
  "  -h, --help            show this help message and exit",
  "  --version             show program's version number and exit",
  "  -i INPUT, --input INPUT",
  "                        Read ABI JSON from file instead of stdin.",
  "  -p PREFIX, --prefix PREFIX",
  "                        Prefix to add to every type.",
  "  -n INDENT, --indent INDENT",
  "                        How many spaces or tabs to indent with (default: 4).",
  "  -t, --use-tabs        Use tabs instead of spaces for indentation.",
  "  -e, --export          Whether to export interfaces and types.",
  "  --config CONFIG       Settings file to read defaults from (default:",
  "                        .abi2ts.yaml in the current directory).",
  "  -q, --quiet           Do not report warnings about the ABI.",
  "  -a, --pascal-case     Format types using PascalCase (default).",
  "  -c, --camel-case      Format types using camelCase.",
  "  -s, --snake-case      Format types using snake_case."]

def helpText : Text := textOfLines (usage ++ description)

def versionText : Text := textOfLines ["abi2ts 0.1.0"]

def usageErrorText (error : UsageError) : Text :=
  textOfLines (usage ++ ["abi2ts: error: " ++ error.message])

end CommandLine

end ContractTypes
