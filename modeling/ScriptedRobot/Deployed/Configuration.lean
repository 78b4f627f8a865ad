import ScriptedRobot.Deployed.Autonomous
import ScriptedRobot.Deployed.SelfTest
import ScriptedRobot.Deployed.Teleop

/-! # Deployed configuration

The configuration module of the robot. It lists its ports in a table, and has functions of its own
that look a port up and count the ports. -/

namespace ScriptedRobot.Deployed

open Script

/-- A table with names as keys. -/
def record (fields : List (String × Expr)) : Expr :=
  .table (fields.flatMap fun field => [.text field.1, field.2])

/-- The number of a port, or minus one. -/
def portFunction : Expr :=
  .function ["sym"] [
    .declare ["value"] [.index (descriptor.field "ports") (.variable "sym")],
    .branch (.binary .equal (.call (.global "type") [.variable "value"]) (.text "number"))
      []
      [.returned [.integer (-1)]],
    .returned [.variable "value"]]

/-- The number of declared ports. -/
def portCountFunction : Expr :=
  .function [] [
    .declare ["count"] [.integer 0],
    .forEntries "_" "" (descriptor.field "ports") [
      .setVariable "count" (.binary .add (.variable "count") (.integer 1))],
    .returned [.variable "count"]]

/-- The configuration module. -/
def configuration : Chunk := describing [
  define "general" (record [
    ("team_name", .text "The Gold Standard"),
    ("team_number", .integer 9431),
    ("match_start_position", .text "Left")]),
  define "engine" (record [("period", .integer 20)]),
  define "shooter" (record [
    ("intake_time", .number 0.6),
    ("warmup_time", .number 0.5),
    ("shoot_time", .number 1.0),
    ("shoot_power", .number 12.0),
    ("intake_primary_power", .number 6.0),
    ("intake_secondary_power", .number 3.0)]),
  define "gamepad" (record [("skew_factor", .number 1.0)]),
  define "ports" (record [
    ("gamepad", .integer 0),
    ("joystick", .integer 1),
    ("drive_left_leader", .integer 1),
    ("drive_left_follower", .integer 2),
    ("drive_right_leader", .integer 3),
    ("drive_right_follower", .integer 4),
    ("arm_left", .integer 5),
    ("arm_right", .integer 6),
    ("shooter_secondary_top", .integer 7),
    ("shooter_secondary_bottom", .integer 8),
    ("shooter_primary_top", .integer 9),
    ("shooter_primary_bottom", .integer 10)]),
  define "trajectories" (record [
    ("straight", record [("length", .number 2.0)]),
    ("curve_left", record [("length", .number 3.0), ("angle", .integer (-45))]),
    ("curve_right", record [("length", .number 3.0), ("angle", .integer 45)])]),
  define "port" portFunction,
  define "num_ports" portCountFunction]

/-- The files on the robot by name. -/
def files : List (String × Chunk) := [
  ("config.lua", configuration),
  ("autonomous.bot", autonomous),
  ("teleop.bot", teleop),
  ("test.bot", selfTest),
  ("engine_test.bot", givingUp)]

end ScriptedRobot.Deployed
