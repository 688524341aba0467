import SqlRunner.Log
import SqlRunner.Opening
import SqlRunner.Runner
import SqlRunner.Settings

/-!
# Gateways — a runner built from settings

A gateway is a runner together with the log of its events. The dialect is the one that the settings
mean; the connection is opened at the address of the settings, or is an offline one that is
addressed by the name of the dialect. The log is the runner's own: its events carry the dialect, and
they are all of the lowest level that is ever logged.
-/

set_option autoImplicit false

namespace SqlRunner

/-- A runner, and how its events are logged. -/
structure Gateway where
  runner : Runner
  log : LogSetup

namespace Gateway

/-- The connection that settings ask for, among the files of a tree. -/
def createConnection (settings : Settings) (registry : Registry) (tree : FileTree)
    (engine : Except Fault Engine) : Except Fault Connection := do
  if settings.offline then
    return .offline ("offline:" ++ (← settings.dialectName registry))
  else
    return (← (Address.ofText settings.databaseUrl).connect tree engine).connection

/-- The log that settings ask for. -/
def logOf (settings : Settings) (terminal : Bool) : LogSetup where
  threshold := settings.logLevel
  json := LogSetup.jsonByDefault settings.jsonLogs terminal

/-- The gateway that settings ask for. -/
def create (settings : Settings) (registry : Registry) (tree : FileTree)
    (engine : Except Fault Engine) (terminal : Bool) : Except Fault Gateway := do
  let dialect ← settings.createDialect registry
  let connection ← createConnection settings registry tree engine
  return ⟨⟨connection, dialect⟩, logOf settings terminal⟩

/-- The logger of the runner's events. -/
def logger (gateway : Gateway) : Logger :=
  Logger.ofRunner [("dialect", .text gateway.runner.dialect.name)]

/-- The lines that the log writes for a trace. -/
def lines (gateway : Gateway) (now : String) (events : List Event) : List Fields :=
  events.filterMap (Log.line? gateway.log now gateway.logger (.plain .debug))

end Gateway

end SqlRunner
