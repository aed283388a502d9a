import LiterateSite.Files.Path
import LiterateSite.Text.Quoted

/-!
# Events

What a build reports while it runs.

* `Event`: the events, with what they are about.
* `Event.level`, `Event.message`: how they are shown.
-/

namespace LiterateSite.Site

open Files

/-- How much an event matters. -/
inductive Level where
  | debug
  | info
  | warn
  deriving DecidableEq, Repr, Inhabited

def Level.label : Level → String
  | .debug => "DEBUG"
  | .info => "INFO"
  | .warn => "WARN"

/-- Something worth a report. -/
inductive Event where
  | loadingTemplates (directory : Path)
  | usingTemplate (path : Path)
  | skippingNonDirectory (path : Path)
  | foundExamples (count : Nat) (directory : Path)
  | cacheHit (id : String)
  | freshEntry (id : String)
  | digestChanged (id : String)
  | transcriptMissing (id : String)
  | running (program : String) (arguments : List String) (source : Path)
  | keptStyleSheet (name : String)
  | wrotePage (path : Path)
  | builtExamples (count executed cached : Nat)
  | building
  | noConfig (path : Path)
  | loadedConfig (path : Path)
  | builtPages (count executed cached : Nat)
  | outputAt (directory : Path)
  | initializing
  | alreadyThere (path : Path)
  | created (path : Path)
  | initialized
  | nextStep
  deriving DecidableEq, Repr, Inhabited

namespace Event

def level : Event → Level
  | .usingTemplate _ | .foundExamples .. | .running .. | .wrotePage _ | .noConfig _ => .debug
  | .skippingNonDirectory _ | .transcriptMissing _ | .keptStyleSheet _ | .alreadyThere _ => .warn
  | _ => .info

/-- The numbers of a build. -/
def counts (executed cached : Nat) : String :=
  "(" ++ toString executed ++ " executed, " ++ toString cached ++ " cached)"

/-- The text of an event; `elapsed` is the time that the build took. -/
def message (elapsed : String) : Event → String
  | .loadingTemplates directory => "Loading templates from " ++ directory.toString
  | .usingTemplate path => "Using template " ++ path.toString
  | .skippingNonDirectory path => "Skipping non-directory " ++ path.toString
  | .foundExamples count directory =>
    "Found " ++ toString count ++ " examples in " ++ directory.toString
  | .cacheHit id => id ++ ": cache hit, skipping execution"
  | .freshEntry id => id ++ ": creating fresh cache entry"
  | .digestChanged id => id ++ ": cache miss: digest changed"
  | .transcriptMissing id => id ++ ": transcript missing for cached digest, re-running"
  | .running program arguments source =>
    "Running " ++ program ++ " "
      ++ String.ofList (Text.quoteList (arguments.map String.toList)) ++ " " ++ source.toString
  | .keptStyleSheet name => "Failed to minify " ++ name
  | .wrotePage path => "Wrote " ++ path.toString
  | .builtExamples count executed cached =>
    "Built " ++ toString count ++ " examples " ++ counts executed cached
  | .building => "Building examples..."
  | .noConfig path => "No config at " ++ path.toString ++ ", using defaults"
  | .loadedConfig path => "Loaded config from " ++ path.toString
  | .builtPages count executed cached =>
    "Built " ++ toString count ++ " pages " ++ counts executed cached ++ " in " ++ elapsed
  | .outputAt directory => "Output: " ++ directory.toString
  | .initializing => "Initializing exemplar..."
  | .alreadyThere path => path.toString ++ " already exists. Use --yes to overwrite."
  | .created path => "Created " ++ path.toString
  | .initialized => "Initialization complete!"
  | .nextStep => "Run 'exemplar build' to build the site."

end Event

end LiterateSite.Site
