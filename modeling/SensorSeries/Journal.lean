/-!
# Journal

What the library tells about its work, entry by entry. A severity says how much an entry matters; a
source names the part of the library that wrote it.
-/

namespace SensorSeries

inductive Severity where
  | debug
  | info
  | warning
  | error
  | critical
  deriving DecidableEq, Repr

namespace Severity

def name : Severity → String
  | .debug => "DEBUG"
  | .info => "INFO"
  | .warning => "WARNING"
  | .error => "ERROR"
  | .critical => "CRITICAL"

def weight : Severity → Int
  | .debug => 10
  | .info => 20
  | .warning => 30
  | .error => 40
  | .critical => 50

end Severity

structure JournalEntry where
  severity : Severity
  source : String
  text : String
  deriving DecidableEq, Repr

namespace JournalEntry

def debug (source text : String) : JournalEntry := ⟨.debug, source, text⟩

def info (source text : String) : JournalEntry := ⟨.info, source, text⟩

def warning (source text : String) : JournalEntry := ⟨.warning, source, text⟩

def error (source text : String) : JournalEntry := ⟨.error, source, text⟩

/-- The entries that matter at least as much as a severity. -/
def atLeast (threshold : Severity) (entries : List JournalEntry) :
    List JournalEntry :=
  entries.filter fun e => threshold.weight ≤ e.severity.weight

end JournalEntry

end SensorSeries
