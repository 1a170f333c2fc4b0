import Frontend.Script.Execute

namespace Frontend.Inspector

/-!
# Fixed texts of the inspector

* `version` — the version number;
* `usageText` — the help on the command line;
* `banner` — what a session opens with;
* `sessionHelp` — the help inside a session.
-/

/-- The version of the inspector. -/
def version : String := "0.1.0"

/-- The line that answers a request for the version. -/
def versionText : String := s!"tinyc {version}\n"

/-- The help on the command line. -/
def usageText : String :=
  s!"tinyc - symbol table inspector v{version}

Drives the scope-stack symbol table of the tinyc front end by hand:
open and close scopes, declare names, and watch shadowing resolve.

USAGE:
    tinyc                   Start the REPL (interactive mode)
    tinyc <file>            Run a command script
    tinyc -e \"commands\"     Run commands directly
    tinyc -                 Read and run a script from stdin
    tinyc [OPTIONS]

OPTIONS:
    -h, --help              Print this help message
    -v, --version           Print version information
    -i, --repl              Start the REPL (interactive mode)
    -e <commands>           Run commands directly
    --capacity <n>          Initial entry capacity of each scope (default: 10)
    --max-capacity <n>      Refuse to grow any scope beyond n entries
    --verbose               Log scope and symbol events (same as RUST_LOG=debug)

EXAMPLE:
    tinyc -e \"int x; \x7b float x; lookup x \x7d; lookup x; dump\"

"

/-- What a session opens with. -/
def banner : String :=
  s!"
  _   _
 | |_(_)_ __  _   _  ___
 | __| | '_ \\| | | |/ __|
 | |_| | | | | |_| | (__
  \\__|_|_| |_|\\__, |\\___|
              |___/

tinyc symbol table inspector v{version}
Type .help for commands, .exit to quit.
Use arrow keys for history.

"

/-- The help inside a session: its own commands, then those of the table. -/
def sessionHelp : String :=
  "
REPL Commands:
    .help, .h          Show this help message
    .exit, .quit, .q   Exit the REPL
    .clear             Drop all scopes and reopen the root
    .load <file>       Run a command script against the current table

Navigation:
    Up/Down arrows     Navigate command history
    Ctrl-C             Cancel current input
    Ctrl-D             Exit REPL
" ++ helpText ++ "
History is saved to ~/.tinyc_history
"

/-- What is said on leaving a session. -/
def farewell : String := "Goodbye!\n"

/-- What is said when a script is announced and not given. -/
def noScriptText : String :=
  "Error: -e requires a command argument\nUsage: tinyc -e \"int x; lookup x\"\n"

end Frontend.Inspector
