import Mathlib.Algebra.Group.Nat.Defs
import Mathlib.Data.List.Induction
import Mathlib.Data.List.ReduceOption
import Mathlib.Data.Nat.Init
import ScriptedRobot.Ticker

/-! # Status messages

A ticker counts down from its throttle and starts again whenever the countdown ends. From outside
no countdown is seen: a message is due on the ticks whose number, counted from the making of the
ticker, is a multiple of the throttle (`InPhase`). Switching the ticker off holds messages back; the
ticks are counted all the same, and a message that was held back has no number
(`reduceOption_answers`). -/

namespace ScriptedRobot.Ticker

/-- What is done to a ticker. -/
inductive Event where
  | tick
  | enable (enabled : Bool)
  deriving DecidableEq

/-- What an event switches messages to. -/
def Event.switch? : Event → Option Bool
  | .tick => none
  | .enable enabled => some enabled

/-- Whether messages are on after a history: as they were switched last, and on at first. -/
def isOn (history : List Event) : Bool :=
  (history.filterMap Event.switch?).getLast?.getD true

/-- The ticker after an event. -/
def step (ticker : Ticker) : Event → Ticker
  | .tick => ticker.tick.2
  | .enable enabled => ticker.enable enabled

/-- The ticker after a history. -/
def run (history : List Event) (ticker : Ticker) : Ticker :=
  history.foldl step ticker

/-- What the ticks of a history answer, one after the other. -/
def answers (ticker : Ticker) : List Event → List (Option Nat)
  | [] => []
  | .tick :: rest => ticker.tick.1 :: answers ticker.tick.2 rest
  | .enable enabled :: rest => answers (ticker.enable enabled) rest

variable {ticker : Ticker} {throttle : Nat} {history : List Event}

theorem run_append (earlier later : List Event) :
    run (earlier ++ later) ticker = run later (run earlier ticker) :=
  List.foldl_append

theorem answers_append (earlier later : List Event) :
    ticker.answers (earlier ++ later) =
      ticker.answers earlier ++ (run earlier ticker).answers later := by
  induction earlier generalizing ticker with
  | nil => rfl
  | cons event rest ih =>
      cases event with
      | tick => exact congrArg (ticker.tick.1 :: ·) ih
      | enable enabled => exact ih

/-- Every tick answers, and nothing else does. -/
theorem length_answers (ticker : Ticker) (history : List Event) :
    (ticker.answers history).length = history.count .tick := by
  induction history generalizing ticker with
  | nil => rfl
  | cons event rest ih =>
      cases event with
      | tick => rw [answers, List.length_cons, ih, List.count_cons_self]
      | enable enabled =>
          have other : Event.enable enabled ≠ .tick := nofun
          rw [answers, ih, List.count_cons_of_ne other]

theorem isOn_append_tick : isOn (history ++ [.tick]) = isOn history := by
  simp only [isOn, List.filterMap_append, List.filterMap_cons, Event.switch?, List.filterMap_nil,
    List.append_nil]

theorem isOn_append_enable (enabled : Bool) : isOn (history ++ [.enable enabled]) = enabled := by
  simp only [isOn, List.filterMap_append, List.filterMap_cons, Event.switch?, List.filterMap_nil,
    List.getLast?_append, List.getLast?_singleton, Option.some_or, Option.getD_some]

/-! ## One tick -/

theorem tick_of_counting (counting : 1 < ticker.remaining) :
    ticker.tick = (none, { ticker with remaining := ticker.remaining - 1 }) :=
  if_pos (by omega)

theorem tick_of_ended (ended : ticker.remaining ≤ 1) : ticker.tick =
    if ticker.enabled = true then
      (some (ticker.count + 1),
        { ticker with remaining := ticker.throttle, count := ticker.count + 1 })
    else (none, { ticker with remaining := ticker.throttle }) :=
  if_neg (by omega)

theorem throttle_tick : ticker.tick.2.throttle = ticker.throttle := by
  unfold tick
  split_ifs <;> rfl

theorem enabled_tick : ticker.tick.2.enabled = ticker.enabled := by
  unfold tick
  split_ifs <;> rfl

theorem count_tick : ticker.tick.2.count = ticker.count + ticker.tick.1.toList.length := by
  unfold tick
  split_ifs <;> rfl

theorem remaining_tick : ticker.tick.2.remaining =
    if ticker.remaining ≤ 1 then ticker.throttle else ticker.remaining - 1 := by
  by_cases ended : ticker.remaining ≤ 1
  · rw [if_pos ended, tick_of_ended ended]
    split_ifs <;> rfl
  · rw [if_neg ended, tick_of_counting (by omega)]

/-- A tick answers when the countdown ends, if messages are on. -/
theorem answer_tick : ticker.tick.1 =
    if ticker.remaining ≤ 1 ∧ ticker.enabled = true then some (ticker.count + 1) else none := by
  by_cases ended : ticker.remaining ≤ 1
  · rw [tick_of_ended ended, if_congr (and_iff_right ended) rfl rfl]
    split_ifs <;> rfl
  · rw [tick_of_counting (by omega), if_neg fun due => ended due.1]

/-! ## Numbers of messages -/

theorem count_run : (run history ticker).count =
    ticker.count + (ticker.answers history).reduceOption.length := by
  induction history generalizing ticker with
  | nil => rfl
  | cons event rest ih =>
      cases event with
      | tick =>
          change (run rest ticker.tick.2).count = _
          rw [ih, count_tick, answers]
          cases ticker.tick.1 with
          | none => rfl
          | some number =>
              rw [List.reduceOption_cons_of_some, List.length_cons]
              exact Nat.add_right_comm _ 1 _
      | enable enabled => exact ih

/-- The messages are numbered one after the other, whatever happens in between. -/
theorem reduceOption_answers : (ticker.answers history).reduceOption =
    List.range' (ticker.count + 1) (ticker.answers history).reduceOption.length := by
  induction history generalizing ticker with
  | nil => rfl
  | cons event rest ih =>
      cases event with
      | tick =>
          rw [answers]
          have later := @ih ticker.tick.2
          rw [count_tick] at later
          rcases answered : ticker.tick.1 with _ | number
          · rw [answered] at later
            exact later
          · have next : number = ticker.count + 1 := by
              rw [answer_tick] at answered
              split_ifs at answered
              exact (Option.some.inj answered).symm
            rw [answered] at later
            rw [List.reduceOption_cons_of_some, List.length_cons, List.range'_succ, ← next]
            exact congrArg (number :: ·) (next ▸ later)
      | enable enabled => exact ih

/-! ## The phase -/

/-- A ticker whose countdown is where the ticks of a history have brought it. -/
structure InPhase (throttle : Nat) (history : List Event) (ticker : Ticker) : Prop where
  positive : 0 < throttle
  throttle_eq : ticker.throttle = throttle
  remaining_eq : ticker.remaining = throttle - history.count .tick % throttle
  enabled_eq : ticker.enabled = isOn history

theorem inPhase_new (message : String) (seconds : UInt32) (period : Int32) :
    InPhase (throttleFor seconds period) [] (new message seconds period) where
  positive := Nat.le_max_left _ _
  throttle_eq := rfl
  remaining_eq := by rw [List.count_nil, Nat.zero_mod]; rfl
  enabled_eq := rfl

/-- The countdown ends on the multiples of the throttle. -/
theorem InPhase.remaining_le_one_iff (phase : InPhase throttle history ticker) :
    ticker.remaining ≤ 1 ↔ throttle ∣ history.count .tick + 1 := by
  have below := Nat.mod_lt (history.count .tick) phase.positive
  rw [phase.remaining_eq, Nat.dvd_iff_mod_eq_zero, ← Nat.mod_add_mod]
  by_cases last : history.count .tick % throttle + 1 = throttle
  · rw [last, Nat.mod_self]
    omega
  · rw [Nat.mod_eq_of_lt (show history.count .tick % throttle + 1 < throttle by omega)]
    omega

theorem InPhase.append_tick (phase : InPhase throttle history ticker) :
    InPhase throttle (history ++ [.tick]) ticker.tick.2 where
  positive := phase.positive
  throttle_eq := throttle_tick.trans phase.throttle_eq
  remaining_eq := by
    have below := Nat.mod_lt (history.count .tick) phase.positive
    have ends := phase.remaining_le_one_iff
    rw [Nat.dvd_iff_mod_eq_zero] at ends
    rw [remaining_tick, List.count_append, List.count_singleton_self, phase.throttle_eq]
    split_ifs with ended
    · rw [ends.mp ended, Nat.sub_zero]
    · have remaining := phase.remaining_eq
      rw [← Nat.mod_add_mod,
        Nat.mod_eq_of_lt (show history.count .tick % throttle + 1 < throttle by omega)]
      omega
  enabled_eq := by rw [enabled_tick, isOn_append_tick, phase.enabled_eq]

theorem InPhase.append_enable (phase : InPhase throttle history ticker) (enabled : Bool) :
    InPhase throttle (history ++ [.enable enabled]) (ticker.enable enabled) where
  positive := phase.positive
  throttle_eq := phase.throttle_eq
  remaining_eq := by
    rw [List.count_append, List.count_singleton]
    exact phase.remaining_eq
  enabled_eq := (isOn_append_enable enabled).symm

/-- No history puts a ticker out of phase. -/
theorem InPhase.run (phase : InPhase throttle [] ticker) (history : List Event) :
    InPhase throttle history (run history ticker) := by
  induction history using List.reverseRecOn with
  | nil => exact phase
  | append_singleton earlier event ih =>
      rw [run_append]
      cases event with
      | tick => exact ih.append_tick
      | enable enabled => exact ih.append_enable enabled

theorem InPhase.answer_eq (phase : InPhase throttle history ticker) : ticker.tick.1 =
    if throttle ∣ history.count .tick + 1 ∧ isOn history = true then some (ticker.count + 1)
    else none := by
  rw [answer_tick, phase.enabled_eq]
  exact if_congr (and_congr_left' phase.remaining_le_one_iff) rfl rfl

/-- There are no more messages than multiples of the throttle. -/
theorem InPhase.count_run_le (phase : InPhase throttle [] ticker) (start : ticker.count = 0)
    (history : List Event) :
    (Ticker.run history ticker).count ≤ history.count .tick / throttle := by
  induction history using List.reverseRecOn with
  | nil => exact start ▸ Nat.zero_le _
  | append_singleton earlier event ih =>
      rw [run_append]
      cases event with
      | tick =>
          change (Ticker.run earlier ticker).tick.2.count ≤ _
          rw [count_tick, (phase.run earlier).answer_eq, List.count_append,
            List.count_singleton_self, Nat.succ_div]
          by_cases multiple : throttle ∣ earlier.count .tick + 1
          · rw [if_pos multiple]
            refine Nat.add_le_add ih ?_
            split_ifs
            · exact Nat.le_refl _
            · exact Nat.zero_le _
          · rw [if_neg multiple, if_neg fun due => multiple due.1]
            exact ih
      | enable enabled =>
          rw [List.count_append, List.count_singleton]
          exact ih

/-- With `throttle` the whole periods in the delay, at least one, a tick answers exactly if its
number since the making of the ticker is a multiple of `throttle` and messages are on at that
moment. The answers are 1, 2, 3 and so on without a gap, and there are no more of them than
multiples of `throttle` among the ticks, so that the first 2⁶⁴ - 1 ticks do not count beyond
64 bits. -/
theorem answers_on_multiples (message : String) (seconds : UInt32) (period : Int32) :
    let throttle := max 1 (min (1000 * seconds.toNat) (2 ^ 32 - 1) / (max period.toInt 1).toNat)
    let ticker := new message seconds period
    (∀ before after : List Event,
      (ticker.answers (before ++ .tick :: after))[before.count .tick]? =
        some (if throttle ∣ before.count .tick + 1 ∧ isOn before = true then
          some ((ticker.answers before).reduceOption.length + 1) else none)) ∧
    ∀ history : List Event,
      let numbers := (ticker.answers history).reduceOption
      numbers = List.range' 1 numbers.length ∧
        numbers.length ≤ history.count .tick / throttle := by
  intro throttle ticker
  have same : throttleFor seconds period = throttle :=
    congrArg (fun milliseconds =>
      max 1 (min milliseconds (2 ^ 32 - 1) / (max period.toInt 1).toNat)) (Nat.mul_comm _ 1000)
  have phase : InPhase throttle [] ticker := same ▸ inPhase_new message seconds period
  have numbered (history : List Event) :
      (run history ticker).count = (ticker.answers history).reduceOption.length :=
    count_run.trans (Nat.zero_add _)
  refine ⟨fun before after => ?_, fun history => ⟨reduceOption_answers, ?_⟩⟩
  · rw [answers_append, ← length_answers ticker before,
      List.getElem?_append_right (Nat.le_refl _), Nat.sub_self, answers, List.getElem?_cons_zero,
      (phase.run before).answer_eq, numbered, length_answers]
  · rw [← numbered]
    exact phase.count_run_le rfl history

/-- Being off for one message shifts nothing. -/
example : (new "alive" 1 500).answers
    [.tick, .tick, .tick, .enable false, .tick, .enable true, .tick, .tick] =
      [none, some 1, none, none, none, some 2] := by
  decide +kernel

end ScriptedRobot.Ticker
