import JazzerLog.Text
import JazzerLog.Regex
import JazzerLog.Patterns
import JazzerLog.Extract
import JazzerLog.Sanitizer
import JazzerLog.Triage
import JazzerLog.Decode
import JazzerLog.Stream
import JazzerLog.Events
import JazzerLog.Run
import JazzerLog.Abort
import JazzerLog.Series
import JazzerLog.TriageLaw
import JazzerLog.Dumps
import JazzerLog.Elapsed
import JazzerLog.Legacy
import JazzerLog.Imported
import JazzerLog.Formats
import JazzerLog.Guarantees
import JazzerLog.Signal
import JazzerLog.Output
import JazzerLog.Script
import JazzerLog.Main
