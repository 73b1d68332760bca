import EventCanvas.Value

/-!
# Engine settings

The settings that change how an engine runs.  They come from a configuration
without being checked, so each is a value that is read for its truth when it is
used.
-/

namespace EventCanvas

/-- The settings of an engine. -/
structure EngineSettings where
  interpolateActions : Value
  enableTracing : Value
  logLevel : Value
deriving Inhabited

namespace EngineSettings

/-- The settings where nothing is configured. -/
def initial : EngineSettings := ⟨.bool false, .bool false, .text "WARNING"⟩

/-- The settings named in a configuration; other names are passed over. -/
def ofConfig (config : Fields) : EngineSettings :=
  { interpolateActions :=
      (Entries.lookup "interpolate_actions" config).getD initial.interpolateActions
    enableTracing := (Entries.lookup "enable_tracing" config).getD initial.enableTracing
    logLevel := (Entries.lookup "log_level" config).getD initial.logLevel }

/-- Whether references in actions are replaced before an action runs. -/
def interpolates (s : EngineSettings) : Bool := s.interpolateActions.truthy

/-- Whether dispatches are traced. -/
def traces (s : EngineSettings) : Bool := s.enableTracing.truthy

end EngineSettings

end EventCanvas
