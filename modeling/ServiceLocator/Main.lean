import ServiceLocator.SessionReport
import ServiceLocator.Transport.Http

/-!
The command line: the session report. Nothing is reachable from here, so the report
says which connection failed. Events are written without the time.
-/

open ServiceLocator in
def main (args : List String) : IO UInt32 := do
  let transport := Transport.http .default .absent
  let environment ← IO.getEnv "RUST_LOG"
  let report := SessionReport.run environment (fun _ e => e.line ++ "\n") args
  match (report.run transport ()).result with
  | .ok exit =>
    IO.print exit.output
    IO.eprint exit.errors
    return exit.code
  | .error e =>
    IO.eprintln e.message
    return 1
