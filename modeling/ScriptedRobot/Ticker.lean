import ScriptedRobot.Number.Range

/-! # Throttled status messages

The control loop wants to report that it is alive every few seconds. A ticker counts the ticks
of the loop and says on which of them a message is due. -/

namespace ScriptedRobot

/-- A countdown that is due every `throttle` ticks. -/
structure Ticker where
  message : String
  throttle : Nat
  remaining : Nat
  count : Nat
  enabled : Bool
  deriving Repr, DecidableEq

namespace Ticker

/-- A delay in milliseconds, at most the greatest 32-bit word. -/
def delayMilliseconds (seconds : UInt32) : Nat :=
  min (seconds.toNat * 1000) (Number.wordCount - 1)

/-- How many ticks pass between two messages: the whole periods in the delay, at least one. A
period that is not positive counts as one millisecond. -/
def throttleFor (seconds : UInt32) (period : Int32) : Nat :=
  max 1 (delayMilliseconds seconds / (max period.toInt 1).toNat)

/-- A ticker that has not ticked yet. -/
def new (message : String) (seconds : UInt32) (period : Int32) : Ticker where
  message := message
  throttle := throttleFor seconds period
  remaining := throttleFor seconds period
  count := 0
  enabled := true

/-- Count one tick. The running number of the message is returned when one is due. While the
ticker is disabled the countdown goes on, and no message is counted. -/
def tick (ticker : Ticker) : Option Nat × Ticker :=
  if 0 < ticker.remaining - 1 then
    (none, { ticker with remaining := ticker.remaining - 1 })
  else if ticker.enabled then
    (some (ticker.count + 1),
      { ticker with remaining := ticker.throttle, count := ticker.count + 1 })
  else
    (none, { ticker with remaining := ticker.throttle })

/-- Tick once for each of some numbers. The numbers on which a message was due are returned, with
the running number of the message. -/
def tickEach (ticker : Ticker) : List Nat → List (Nat × Nat) × Ticker
  | [] => ([], ticker)
  | index :: rest =>
    let (due, ticker) := ticker.tick
    let (later, ticker) := ticker.tickEach rest
    (due.toList.map (fun number => (index, number)) ++ later, ticker)

/-- Tick a number of times; the ticks are counted from one. -/
def tickTimes (ticker : Ticker) (count : Nat) : List (Nat × Nat) × Ticker :=
  ticker.tickEach (List.range' 1 count)

/-- Switch messages on or off. -/
def enable (ticker : Ticker) (enabled : Bool) : Ticker :=
  { ticker with enabled }

end Ticker

end ScriptedRobot
