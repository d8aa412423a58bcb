import PinnedRun.Options.Basic
import PinnedRun.Text.Quoted

/-!
# Rejected command lines

`Rejection` lists why a command line is rejected, and `Rejection.message` is the text of each.
-/

namespace PinnedRun.Options

/-- Why a command line is rejected. -/
inductive Rejection where
  /-- An abbreviation fits several spellings. -/
  | ambiguous (argument : String) (spellings : List String)
  /-- An option lacks its value. -/
  | missingValue (switch : Switch)
  /-- An option that takes no value has one in the same argument. -/
  | needlessValue (switch : Switch) (value : String)
  /-- Arguments that look like options and are none. -/
  | unrecognized (arguments : List String)
deriving Repr, DecidableEq

/-- The text of a rejection. -/
def Rejection.message : Rejection → String
  | ambiguous argument spellings =>
    "ambiguous option: " ++ argument ++ " could match " ++ ", ".intercalate spellings
  | missingValue switch => "argument " ++ switch.title ++ ": expected one argument"
  | needlessValue switch value =>
    "argument " ++ switch.title ++ ": ignored explicit argument " ++ Text.quoted value
  | unrecognized arguments => "unrecognized arguments: " ++ " ".intercalate arguments

end PinnedRun.Options
