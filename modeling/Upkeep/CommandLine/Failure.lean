import Upkeep.Job.Dispatch
import Upkeep.Job.Settings
import Upkeep.Plugin.ScriptFile

/-!
# Failures — errors with what lies behind them

A failure of the program is a message with its causes, outermost first. `Failure.render` shows one
cause below the message as it is, and several with their numbers; the later lines of a cause stand
below its first one.
-/

namespace Upkeep

/-- A failure of the program. -/
structure Failure where
  message : String
  causes : List String := []
  deriving DecidableEq, Repr

namespace Failure

/-- A failure that is the cause of another one. -/
def context (message : String) (failure : Failure) : Failure :=
  ⟨message, failure.message :: failure.causes⟩

/-- A text with the lines behind the first one moved in. -/
def indented (first later text : String) : String :=
  first ++ ("\n" ++ later).intercalate (text.splitOn "\n")

/-- A number right-aligned in front of a cause. -/
def numbered (n : Nat) : String :=
  let digits := toString n
  String.ofList (List.replicate (5 - digits.length) ' ') ++ digits ++ ": "

/-- The causes, each on lines of its own. -/
def causeLines : List String → List String
  | [cause] => [indented "    " "    " cause]
  | causes => causes.zipIdx.map fun (cause, n) => indented (numbered n) "       " cause

/-- The failure in words. -/
def render (failure : Failure) : String :=
  let causes := match failure.causes with
    | [] => ""
    | causes => "\n\nCaused by:" ++ String.join ((causeLines causes).map ("\n" ++ ·))
  "Error: " ++ failure.message ++ causes ++ "\n"

/-- The failure of the system. -/
def ofIo (error : IoError) : Failure := ⟨error.message, []⟩

/-- The failure of settings; behind one about a file is the system's reason. -/
def ofSettings (error : SettingsError) : Failure :=
  match error with
  | .unreadable _ reason => ⟨error.message, [reason.message]⟩
  | _ => ⟨error.message, []⟩

/-- The failure of a script file. -/
def ofScripts (error : Script.LoadError) : Failure :=
  match error with
  | .unreadable _ reason => ⟨error.message, [reason.message]⟩
  | .malformed _ => ⟨error.message, []⟩

/-- The messages of a plugin's failure: its own, and the session's if a dialogue was broken off. -/
def pluginMessages (error : PluginError) : List String :=
  match error with
  | .dialogue (.session _ source) => [error.message, source.message]
  | _ => [error.message]

/-- The failure of a dispatch. -/
def ofDispatch (error : DispatchError) : Failure :=
  match error with
  | .plugin _ source => ⟨error.message, pluginMessages source⟩
  | _ => ⟨error.message, []⟩

end Failure

end Upkeep
