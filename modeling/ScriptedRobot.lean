import ScriptedRobot.Capability.Grant
import ScriptedRobot.Capability.Probe
import ScriptedRobot.Capability.Publication
import ScriptedRobot.Capability.Subsystems
import ScriptedRobot.CommandLine
import ScriptedRobot.Configuration.Global
import ScriptedRobot.Configuration.Reading
import ScriptedRobot.Configuration.Value
import ScriptedRobot.Console
import ScriptedRobot.Control.Activation
import ScriptedRobot.Control.Controller
import ScriptedRobot.Control.Program
import ScriptedRobot.Control.Rehearsal
import ScriptedRobot.Control.World
import ScriptedRobot.Deployed.Autonomous
import ScriptedRobot.Deployed.Configuration
import ScriptedRobot.Deployed.Descriptor
import ScriptedRobot.Deployed.SelfTest
import ScriptedRobot.Deployed.Teleop
import ScriptedRobot.Engine.Host
import ScriptedRobot.Engine.Loader
import ScriptedRobot.Engine.Search
import ScriptedRobot.Files
import ScriptedRobot.Gamepad
import ScriptedRobot.Hardware.Drivetrain
import ScriptedRobot.Hardware.Pad
import ScriptedRobot.Journal
import ScriptedRobot.Launch
import ScriptedRobot.Lifecycle.Hook
import ScriptedRobot.Lifecycle.Mode
import ScriptedRobot.Lifecycle.ScriptError
import ScriptedRobot.Main
import ScriptedRobot.Number.Binary64
import ScriptedRobot.Number.Decimal
import ScriptedRobot.Number.DecimalText
import ScriptedRobot.Number.IntegerText
import ScriptedRobot.Number.Range
import ScriptedRobot.Path
import ScriptedRobot.Rig
import ScriptedRobot.Script.Argument
import ScriptedRobot.Script.Arithmetic
import ScriptedRobot.Script.Evaluation
import ScriptedRobot.Script.Machine
import ScriptedRobot.Script.Numeral
import ScriptedRobot.Script.Source
import ScriptedRobot.Script.Steps
import ScriptedRobot.Script.Store
import ScriptedRobot.Script.Syntax
import ScriptedRobot.Script.Value
import ScriptedRobot.Setup.HostSetup
import ScriptedRobot.Setup.Layers
import ScriptedRobot.Setup.Misfit
import ScriptedRobot.Setup.Setting
import ScriptedRobot.Setup.Variable
import ScriptedRobot.Shooter.Sequence
import ScriptedRobot.Shooter.Settings
import ScriptedRobot.Text.Alphabetical
import ScriptedRobot.Text.Blank
import ScriptedRobot.Text.Quoted
import ScriptedRobot.Text.Utf8
import ScriptedRobot.Text.Visible
import ScriptedRobot.Ticker
import ScriptedRobot.Toml.Document
import ScriptedRobot.Toml.Scalar
import ScriptedRobot.Toml.Tree
import ScriptedRobot.Proofs.Capability.Assignments
import ScriptedRobot.Proofs.Capability.Coherence
import ScriptedRobot.Proofs.Capability.Complaints
import ScriptedRobot.Proofs.Capability.Mirroring
import ScriptedRobot.Proofs.Capability.Namespace
import ScriptedRobot.Proofs.Capability.Offering
import ScriptedRobot.Proofs.Capability.Publishing
import ScriptedRobot.Proofs.Capability.Replacement
import ScriptedRobot.Proofs.Capability.Retraction
import ScriptedRobot.Proofs.Capability.Revocation
import ScriptedRobot.Proofs.Capability.RigAgreement
import ScriptedRobot.Proofs.Capability.RigEffects
import ScriptedRobot.Proofs.Capability.Strays
import ScriptedRobot.Proofs.Configuration.Counting
import ScriptedRobot.Proofs.Configuration.Deployment
import ScriptedRobot.Proofs.Configuration.Integers
import ScriptedRobot.Proofs.Configuration.Lookups
import ScriptedRobot.Proofs.Configuration.PortFunctions
import ScriptedRobot.Proofs.Configuration.PortPaths
import ScriptedRobot.Proofs.Configuration.Ports
import ScriptedRobot.Proofs.Configuration.Readings
import ScriptedRobot.Proofs.Configuration.Trajectories
import ScriptedRobot.Proofs.Configuration.TypedReads
import ScriptedRobot.Proofs.Control.Activity
import ScriptedRobot.Proofs.Control.AllStop
import ScriptedRobot.Proofs.Control.Calls
import ScriptedRobot.Proofs.Control.Effects
import ScriptedRobot.Proofs.Control.Lockstep
import ScriptedRobot.Proofs.Control.Protocol
import ScriptedRobot.Proofs.Control.Reports
import ScriptedRobot.Proofs.Control.Requests
import ScriptedRobot.Proofs.Control.Session
import ScriptedRobot.Proofs.Control.Shots
import ScriptedRobot.Proofs.Control.StatusMessages
import ScriptedRobot.Proofs.Control.Tracing
import ScriptedRobot.Proofs.Deployed.AutonomousShots
import ScriptedRobot.Proofs.Deployed.Loading
import ScriptedRobot.Proofs.Deployed.TeleopTrigger
import ScriptedRobot.Proofs.Engine.Blame
import ScriptedRobot.Proofs.Engine.Bridge
import ScriptedRobot.Proofs.Engine.Candor
import ScriptedRobot.Proofs.Engine.Capture
import ScriptedRobot.Proofs.Engine.Composition
import ScriptedRobot.Proofs.Engine.Driving
import ScriptedRobot.Proofs.Engine.Entering
import ScriptedRobot.Proofs.Engine.ErrorState
import ScriptedRobot.Proofs.Engine.FreshStart
import ScriptedRobot.Proofs.Engine.HostAgreement
import ScriptedRobot.Proofs.Engine.HostEffects
import ScriptedRobot.Proofs.Engine.HostRuns
import ScriptedRobot.Proofs.Engine.Leaving
import ScriptedRobot.Proofs.Engine.Listing
import ScriptedRobot.Proofs.Engine.LoadFailure
import ScriptedRobot.Proofs.Engine.LoadStages
import ScriptedRobot.Proofs.Engine.Machine
import ScriptedRobot.Proofs.Engine.ModuleFiles
import ScriptedRobot.Proofs.Engine.RunOut
import ScriptedRobot.Proofs.Engine.SearchPath
import ScriptedRobot.Proofs.Engine.SearchRuns
import ScriptedRobot.Proofs.Engine.Teardown
import ScriptedRobot.Proofs.Engine.Triggers
import ScriptedRobot.Proofs.Files.Paths
import ScriptedRobot.Proofs.Files.Tree
import ScriptedRobot.Proofs.Launch.Summary
import ScriptedRobot.Proofs.Number.Exact
import ScriptedRobot.Proofs.Number.Finite
import ScriptedRobot.Proofs.Number.Order
import ScriptedRobot.Proofs.Number.Words
import ScriptedRobot.Proofs.Script.Agreement
import ScriptedRobot.Proofs.Script.Attribution
import ScriptedRobot.Proofs.Script.Composition
import ScriptedRobot.Proofs.Script.Execution
import ScriptedRobot.Proofs.Script.Origins
import ScriptedRobot.Proofs.Script.Outcome
import ScriptedRobot.Proofs.Script.Preservation
import ScriptedRobot.Proofs.Script.Provenance
import ScriptedRobot.Proofs.Script.Settling
import ScriptedRobot.Proofs.Script.Tables
import ScriptedRobot.Proofs.Script.Tracking
import ScriptedRobot.Proofs.Setup.Fields
import ScriptedRobot.Proofs.Setup.Keys
import ScriptedRobot.Proofs.Setup.Layering
import ScriptedRobot.Proofs.Setup.Merging
import ScriptedRobot.Proofs.Setup.Ordered
import ScriptedRobot.Proofs.Setup.Variables
import ScriptedRobot.Proofs.Shooter.Budget
import ScriptedRobot.Proofs.Shooter.Countdown
import ScriptedRobot.Proofs.Shooter.Firing
import ScriptedRobot.Proofs.Shooter.Profile
import ScriptedRobot.Proofs.Shooter.Usable
import ScriptedRobot.Proofs.Text.Alphabetical
import ScriptedRobot.Proofs.Text.Lookup
import ScriptedRobot.Proofs.Text.Order
import ScriptedRobot.Proofs.Toml.Tables
