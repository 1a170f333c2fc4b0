import Frontend.Inspector.Filter

namespace Frontend.Inspector

/-!
# Lines of the log

* `shownChar` — a character as the log shows it;
* `logLine` — the line that shows a report;
* `LogFilter.line` — the same line, or nothing if the filter holds the report back.
-/

/-- A character as the log shows it.  Control characters that a terminal obeys are spelt out. -/
def shownChar (c : Char) : List Char :=
  let hex := Nat.toDigits 16 c.toNat
  if c == '\x1b' || c == '\x07' || c == '\x08' || c == '\x0c' || c == '\x7f' then
    ['\\', 'x'] ++ (if c.toNat < 16 then ['0'] else []) ++ hex
  else if '\u0080' ≤ c && c ≤ '\u009f' then ['\\', 'u', '\x7b'] ++ hex ++ ['\x7d']
  else [c]

/-- The line that shows a report. -/
def logLine (severity : Severity) (message : String) : String :=
  s!"{severity.name} {String.ofList (message.toList.flatMap shownChar)}\n"

/-- The line that shows a report, or nothing if the filter holds it back. -/
def LogFilter.line (filter : LogFilter) (origin : Origin) (severity : Severity)
    (message : String) : String :=
  if filter.allows origin severity then logLine severity message else ""

end Frontend.Inspector
