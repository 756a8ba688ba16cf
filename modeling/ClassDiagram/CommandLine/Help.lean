import ClassDiagram.CommandLine.Arguments

namespace ClassDiagram.CommandLine

/-- The version of the program. -/
def versionText : String :=
  "ruml 0.1.0\n"

/-- How the program is called. -/
def usageText : String :=
  "usage: ruml [-h] [--version] [-t OUTPUT_TYPE] [-o OUTPUT] [--include-enums]\n" ++
  "            [--visibility-markers] [-v] [--log-file LOG_FILE]\n" ++
  "            [INPUT]\n"

/-- What the arguments mean. -/
def helpText : String :=
  usageText ++ "\nParse rust code and visualize.\n" ++
  "\npositional arguments:\n" ++
  "  INPUT                 Sets the input file or directory to use (defaults to\n" ++
  "                        current directory).\n" ++
  "\noptions:\n" ++
  "  -h, --help            show this help message and exit\n" ++
  "  --version             show program's version number and exit\n" ++
  "  -t OUTPUT_TYPE, --type OUTPUT_TYPE\n" ++
  "                        Output type. Default value is PlantUml (available:\n" ++
  "                        plantuml).\n" ++
  "  -o OUTPUT, --output OUTPUT\n" ++
  "                        Write the diagram to this file instead of stdout.\n" ++
  "  --include-enums       Render top-level enums as empty enum blocks.\n" ++
  "  --visibility-markers  Mark private members with '-' instead of '+'.\n" ++
  "  -v, --verbose         Increase log verbosity for troubleshooting.\n" ++
  "  --log-file LOG_FILE   Also write debug logs to this file.\n"

/-- What is shown when the arguments are wrong. -/
def usageErrorText (error : UsageError) : String :=
  usageText ++ "ruml: error: " ++ error.message ++ "\n"

end ClassDiagram.CommandLine
