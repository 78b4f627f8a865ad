import ScriptedRobot.Deployed.Descriptor

/-! # Autonomous program

Drives forward for a hundred ticks, and then stands still and shoots whenever the shooter is
idle. -/

namespace ScriptedRobot.Deployed

open Script

/-- The program of the autonomous mode. -/
def autonomous : Chunk := program [
  .declare ["ticks"] [.integer 0],
  callback "autonomous_init" [
    .setVariable "ticks" (.integer 0),
    command "shooter" "load" []],
  callback "autonomous" [
    .setVariable "ticks" (.binary .add (.variable "ticks") (.integer 1)),
    .branch (.binary .less (.variable "ticks") (.integer 100))
      [command "drivetrain" "drive" [.number 0.4, .number 0.0]]
      [command "drivetrain" "stop" [],
        .branch (Steps.callSymbol "shooter" "is_idle" [])
          [command "shooter" "shoot" []]
          []]],
  callback "cleanup" [
    command "drivetrain" "stop" [],
    command "shooter" "stop" []]]

end ScriptedRobot.Deployed
