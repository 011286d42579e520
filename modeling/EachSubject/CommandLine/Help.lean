/-!
# Help

What is printed when help on the program or on one of its commands is asked for, in eighty columns.
-/

namespace EachSubject.CommandLine.Help

/-- The text of lines, each with a line end. -/
def ofLines (lines : List String) : String := String.join (lines.map (· ++ "\n"))

/-- Help on the program. -/
def program : String :=
  ofLines [
    "usage: iterwrap [-h] [-q] [-v] \x7bdescribe,generate,emit\x7d ...",
    "",
    "Iterating wrappers for assertion subjects",
    "",
    "positional arguments:",
    "  \x7bdescribe,generate,emit\x7d",
    "    describe            Show the methods a wrapper would override",
    "    generate            Generate wrappers for subject classes",
    "    emit                Generate a wrapper from a JSON subject descriptor",
    "",
    "options:",
    "  -h, --help            show this help message and exit",
    "  -q, --quiet           Reduce log output",
    "  -v, --verbose         Increase log output"]

/-- Help on the command that shows overviews. -/
def describe : String :=
  ofLines [
    "usage: iterwrap describe [-h] subjects [subjects ...]",
    "",
    "positional arguments:",
    "  subjects    Subject import strings (module:Class)",
    "",
    "options:",
    "  -h, --help  show this help message and exit"]

/-- Help on the command that wraps subjects. -/
def generate : String :=
  ofLines [
    "usage: iterwrap generate [-h] [-o OUTPUT_DIR] [subjects ...]",
    "",
    "positional arguments:",
    "  subjects              Subject import strings (module:Class); defaults to",
    "                        [tool.iterwrap] subjects",
    "",
    "options:",
    "  -h, --help            show this help message and exit",
    "  -o OUTPUT_DIR, --output-dir OUTPUT_DIR",
    "                        Write modules here instead of stdout"]

/-- Help on the command that wraps a written shape. -/
def emit : String :=
  ofLines [
    "usage: iterwrap emit [-h] [-o OUTPUT_DIR] descriptor",
    "",
    "positional arguments:",
    "  descriptor            Path to a JSON SubjectDescriptor",
    "",
    "options:",
    "  -h, --help            show this help message and exit",
    "  -o OUTPUT_DIR, --output-dir OUTPUT_DIR",
    "                        Write the module here instead of stdout"]

end EachSubject.CommandLine.Help
