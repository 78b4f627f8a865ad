import ScriptedRobot.Deployed.Descriptor

/-! # Programs for test mode

One program uses every function of the host once per tick; the other fails on purpose after a few
ticks. -/

namespace ScriptedRobot.Deployed

open Script

/-- A call of a function of the configuration. -/
def configured (name : String) (arguments : List Expr) : Expr :=
  .call (Steps.configuration.field name) arguments

/-- Refuse to go on unless a condition holds. -/
def demand (condition : Expr) (complaint : String) : Stmt :=
  .evaluate (.call (.global "assert") [condition, .text complaint])

/-- The program of the test mode. -/
def selfTest : Chunk := program [
  callback "prepare" [
    demand (.binary .lessEqual (.integer 0) (configured "port" [.text "gamepad"]))
      "gamepad port missing",
    demand (.binary .less (.integer 0) (configured "num_ports" [])) "no ports declared"],
  callback "test" [
    command "drivetrain" "drive" [.number 0.0, .number 0.25],
    command "gamepad" "axis" [.integer 0],
    command "gamepad" "button" [.integer 0],
    command "gamepad" "pov" [.integer 0],
    .branch (Steps.callSymbol "shooter" "is_idle" [])
      [command "shooter" "intake" []]
      []],
  callback "test_exit" [
    command "drivetrain" "stop" [],
    command "shooter" "stop" []]]

/-- A program that gives up after three ticks. -/
def givingUp : Chunk := program [
  .declare ["count"] [.integer 0],
  callback "test" [
    .setVariable "count" (.binary .add (.variable "count") (.integer 1)),
    .branch (.binary .less (.integer 3) (.variable "count"))
      [.evaluate (.call (.global "error") [
        .binary .concatenate (.text "engine test: giving up after ")
          (.binary .concatenate (.variable "count") (.text " ticks"))])]
      []]]

end ScriptedRobot.Deployed
