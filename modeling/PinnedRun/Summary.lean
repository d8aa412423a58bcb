import PinnedRun.Numeric.FixedPlaces

/-!
# The summary of a run

A `Summary` collects the results of the steps and the exit code of a run. `Summary.overview` reads
the figures off it, where the first result of a step counts, and `Overview.text` lays them out.
-/

namespace PinnedRun

open Numeric (Binary64)

/-- How a step went. -/
structure StepResult where
  name : String
  success : Bool
  durationMs : Binary64
  error : Option String := none
  exitCode : Option Int := none
deriving DecidableEq

/-- What a run has done so far. -/
structure Summary where
  url : String
  destination : String
  startTime : Binary64
  results : List StepResult := []
  exitCode : Option Int := none
deriving DecidableEq

/-- The figures of a run. -/
structure Overview where
  url : String
  destination : String
  fetchSucceeded : Bool
  fetchError : Option String
  testsRan : Bool
  exitCode : Option Int
  wallTime : Binary64
deriving DecidableEq

namespace Summary

/-- Adds the result of a step. -/
def add (s : Summary) (r : StepResult) : Summary := { s with results := s.results ++ [r] }

/-- The first result of a step. -/
def result? (s : Summary) (name : String) : Option StepResult :=
  s.results.find? (·.name = name)

/-- The figures at a reading of the clock. -/
def overview (s : Summary) (now : Binary64) : Overview where
  url := s.url
  destination := s.destination
  fetchSucceeded := (s.result? "fetch").any (·.success)
  fetchError := (s.result? "fetch").bind (·.error)
  testsRan := (s.result? "tests").isSome
  exitCode := s.exitCode
  wallTime := now.sub s.startTime

end Summary

namespace Overview

/-- The line between the parts. -/
def rule : String := String.ofList (List.replicate 60 '=')

/-- How the fetch went. -/
def fetchStatus (o : Overview) : String :=
  if o.fetchSucceeded then "ok" else "FAILED (" ++ o.fetchError.getD "None" ++ ")"

/-- The exit code, or that there is none. -/
def exitText (o : Overview) : String := (o.exitCode.map toString).getD "None"

/-- The figures laid out. -/
def text (o : Overview) : String :=
  String.join <| List.map (· ++ "\n")
    ["", rule, "RUN SUMMARY", rule,
      "Toolchain URL:     " ++ o.url,
      "Local File:        " ++ o.destination,
      "Fetch:             " ++ o.fetchStatus,
      "Tests Ran:         " ++ (if o.testsRan then "yes" else "no"),
      "Exit Code:         " ++ o.exitText,
      "Total Wall Time:   " ++ Numeric.fixedPlaces 2 o.wallTime ++ "s",
      rule, ""]

end Overview

end PinnedRun
