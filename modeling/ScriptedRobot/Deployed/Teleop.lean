import ScriptedRobot.Deployed.Descriptor

/-! # Teleop program

The left stick drives, with a configured factor. A press of the first button shoots if the
shooter is idle; holding the button does nothing more. -/

namespace ScriptedRobot.Deployed

open Script

/-- The program of the teleop mode. -/
def teleop : Chunk := program [
  .declare ["skew"] [.number 1.0],
  .declare ["was_pressed"] [.boolean false],
  .declare ["skewed"] [.function ["value"] [
    .returned [.binary .multiply (.variable "value") (.variable "skew")]]],
  callback "init" [
    .setVariable "skew" (.disjunction
      (.conjunction (Steps.configuration.field "gamepad")
        ((Steps.configuration.field "gamepad").field "skew_factor"))
      (.number 1.0))],
  callback "teleop_init" [
    .setVariable "was_pressed" (.boolean false),
    command "shooter" "stop" []],
  callback "teleop" [
    .declare ["speed"] [.unary .negate (Steps.callSymbol "gamepad" "axis" [.integer 1])],
    .declare ["rotation"] [Steps.callSymbol "gamepad" "axis" [.integer 0]],
    command "drivetrain" "drive" [
      .call (.variable "skewed") [.variable "speed"],
      .call (.variable "skewed") [.variable "rotation"]],
    .declare ["pressed"] [Steps.callSymbol "gamepad" "button" [.integer 0]],
    .branch (.conjunction (.variable "pressed") (.unary .not (.variable "was_pressed")))
      [.branch (Steps.callSymbol "shooter" "is_idle" [])
        [command "shooter" "shoot" []]
        []]
      [],
    .setVariable "was_pressed" (.variable "pressed")],
  callback "teleop_exit" [command "drivetrain" "stop" []],
  callback "cleanup" [command "shooter" "stop" []]]

end ScriptedRobot.Deployed
