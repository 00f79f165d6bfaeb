/-
**Touches made by script.**

The launcher plays a story frame by frame, and makes the touches that it was given when their time has come. It
looks only at the first touch that is left, and adds up the lengths of the frames. What it does is to follow a
script in which everything stands in its place: before each frame come the touches of which it is the first
frame that does not begin before their time.

* `Call`, `calls`: what the launcher asks of the player, call by call;
* `follow`, `playFrames_eq_follow`: playing frames is following their calls, on every host;
* `FirstAt`, `Delivers`, `delivers_calls`: touches that come in order, once and on time;
* `performance`, `play_eq`: what is played with the words of a command line;
* `touches_come_on_time`: its touches come on time;
* `plays_as_asked_or_aborts`: it is as long as it was asked to be, or it does not begin.
-/

import Storybook.Launcher.Launch
import Storybook.Proofs.CommandLines

namespace Storybook.Launcher

/-! ### Calls -/

/-- What the launcher asks of the player. -/
inductive Call
  | touch (touch : ScriptedTouch)
  | frame
deriving DecidableEq, Repr

/-- The touch that is made, if there is one. -/
def Call.touch? : Call → Option ScriptedTouch
  | .touch made => some made
  | .frame => none

/-- **The calls of several frames**, with the time that has passed and the touches that are left. -/
def calls (span : Nat) : Nat → Nat → List ScriptedTouch → List Call
  | 0, _, _ => []
  | count + 1, elapsed, touches =>
    (touches.takeWhile (·.time ≤ elapsed)).map .touch ++
      .frame :: calls span count (elapsed + span) (touches.dropWhile (·.time ≤ elapsed))

namespace Session

/-- The calls of the next frames of a session. -/
def script (session : Session) (count : Nat) : List Call :=
  calls session.frameSpan count session.elapsed session.touches

/-- Touches the characters with a name, and remarks on that. -/
def make (session : Session) (touch : ScriptedTouch) : Session :=
  let (fired, player) := session.player.touchNamed touch.name
  { session with player := player.remarkAll [touch.remark fired] }

/-- A frame without its touches. -/
def turn (session : Session) : Session :=
  let session := { session with player := session.player.frame session.frameSpan }.draw
  { session with
    player := session.player.reportEvents
    elapsed := session.elapsed + session.frameSpan }

/-- A session whose touches are no concern of its own any more. -/
def unscripted (session : Session) : Session :=
  { session with touches := [] }

variable (session : Session)

theorem script_succ (count : Nat) :
    session.script (count + 1) = session.dueTouches.map .touch ++ .frame :: session.step.script count :=
  rfl

/-- Touching is no concern of the other parts of a session. -/
theorem foldl_make (touches : List ScriptedTouch) :
    touches.foldl make session =
      { session with player := touches.foldl (fun player touch => touch.make player) session.player } := by
  induction touches generalizing session with
  | nil => rfl
  | cons touch rest ih => exact ih (session.make touch)

/-- A frame with its touches is those touches, and then a frame without. -/
theorem turn_foldl_make :
    (session.dueTouches.foldl make session.unscripted).turn = session.step.unscripted := by
  rw [foldl_make]
  rfl

end Session

/-! ### Following calls -/

section Hosts

variable {m : Type → Type} [Monad m] [Host m] (filter : LogFilter) (realtime : Bool)

/-- **Follows a script** call by call. What was remarked is logged after each frame. -/
def follow : List Call → Session → m Session
  | [], session => return session
  | .touch touch :: rest, session => follow rest (session.make touch)
  | .frame :: rest, session => do
    let session ← flush filter session.turn
    if realtime then
      Host.pause session.frameSpan
    follow rest session

/-- Touches are made before anything is asked of the host. -/
theorem follow_touches (touches : List ScriptedTouch) (rest : List Call) (session : Session) :
    (follow filter realtime (touches.map .touch ++ rest) session : m Session) =
      follow filter realtime rest (touches.foldl Session.make session) := by
  induction touches generalizing session with
  | nil => rfl
  | cons touch others ih => exact ih (session.make touch)

variable [LawfulMonad m]

/-- **Playing frames is following their calls.** -/
theorem playFrames_eq_follow (count : Nat) (session : Session) :
    Session.unscripted <$> (playFrames filter realtime count session : m Session) =
      follow filter realtime (session.script count) session.unscripted := by
  induction count generalizing session with
  | zero => exact map_pure _ _
  | succ count ih =>
    rw [Session.script_succ, follow_touches]
    -- The remarks that are taken after a frame are no part of what its script depends on.
    have rest : Session.unscripted <$> (playFrames filter realtime count session.step.takeRemarks.2 : m Session) =
        follow filter realtime (session.step.script count) session.step.unscripted.takeRemarks.2 :=
      ih session.step.takeRemarks.2
    simp only [playFrames, follow, Session.turn_foldl_make, flush, map_bind, bind_assoc, pure_bind]
    refine congrArg _ (funext fun _ => ?_)
    cases realtime with
    | false => exact rest
    | true =>
      simp only [if_true, map_bind, rest]
      rfl

/-- **A play to its end follows the calls of its frames.** The touches that are left then are not made. -/
theorem finish_playFrames (count : Nat) (session : Session) :
    (do let session ← playFrames filter realtime count session
        let _ ← flush filter session.finish : m Unit) =
      (do let session ← follow filter realtime (session.script count) session.unscripted
          let _ ← flush filter session.finish) := by
  have finish : ∀ session : Session, (flush filter session.unscripted.finish : m Session) =
      Session.unscripted <$> flush filter session.finish := by
    intro session
    simp only [flush, map_bind, map_pure]
    rfl
  rw [← playFrames_eq_follow, bind_map_left]
  simp only [finish, bind_map_left]

end Hosts

/-! ### Touches on time -/

section Initial

variable {α : Type} {holds : α → Bool} {values : List α}

theorem fails_behind {value : α} {rest : List α}
    (initial : (value :: rest).Pairwise fun first second => holds second → holds first) (fails : ¬ holds value) :
    ∀ other ∈ value :: rest, ¬ holds other :=
  List.forall_mem_cons.mpr
    ⟨fails, fun other member there => fails ((List.pairwise_cons.mp initial).1 other member there)⟩

/-- What holds only of the first values is found by looking from the beginning. -/
theorem takeWhile_eq_filter (initial : values.Pairwise fun first second => holds second → holds first) :
    values.takeWhile holds = values.filter holds := by
  induction values with
  | nil => rfl
  | cons value rest ih =>
    by_cases here : holds value
    · rw [List.takeWhile_cons_of_pos here, List.filter_cons_of_pos here, ih initial.of_cons]
    · rw [List.takeWhile_cons_of_neg here, List.filter_eq_nil_iff.mpr (fails_behind initial here)]

theorem dropWhile_eq_filter (initial : values.Pairwise fun first second => holds second → holds first) :
    values.dropWhile holds = values.filter fun value => !holds value := by
  induction values with
  | nil => rfl
  | cons value rest ih =>
    by_cases here : holds value
    · rw [List.dropWhile_cons_of_pos here, List.filter_cons_of_neg (by simp [here]), ih initial.of_cons]
    · refine (List.dropWhile_cons_of_neg here).trans (List.filter_eq_self.mpr fun other member => ?_).symm
      simpa using fails_behind initial here other member

theorem filter_append_filter (initial : values.Pairwise fun first second => holds second → holds first) :
    values.filter holds ++ values.filter (fun value => !holds value) = values := by
  rw [← takeWhile_eq_filter initial, ← dropWhile_eq_filter initial]
  exact List.takeWhile_append_dropWhile

end Initial

/-- **The first frame that does not begin before a time.** -/
def FirstAt (span time frame : Nat) : Prop :=
  time ≤ frame * span ∧ ∀ earlier < frame, earlier * span < time

instance (span time frame : Nat) : Decidable (FirstAt span time frame) :=
  inferInstanceAs (Decidable (_ ∧ _))

theorem firstAt_iff {span time frame : Nat} : FirstAt span time frame ↔
    time ≤ frame * span ∧ ¬ ∃ earlier, earlier < frame ∧ time ≤ earlier * span := by
  simp only [FirstAt, not_exists, not_and, Nat.not_le]

/-- **Touches come on time.** Each of them is made before the first frame that does not begin before its time, if
there is one among the frames that are played, and else not at all. -/
structure Delivers (span count : Nat) (order : List ScriptedTouch) (script : List Call) : Prop where
  frames : script = (List.range count).flatMap fun frame =>
    (order.filter fun touch => FirstAt span touch.time frame).map .touch ++ [.frame]
  made : script.filterMap Call.touch? = order.filter fun touch => ∃ frame < count, touch.time ≤ frame * span

section Waiting

variable {span : Nat} {order : List ScriptedTouch}

/-- The touches that are left after some frames. -/
def waiting (span : Nat) (order : List ScriptedTouch) (frame : Nat) : List ScriptedTouch :=
  order.filter fun touch => ∀ earlier < frame, earlier * span < touch.time

variable (sorted : order.Pairwise fun first second => first.time ≤ second.time)

include sorted

/-- A property that passes to earlier touches holds of the first touches only. -/
theorem initial_filter {holds : ScriptedTouch → Prop} [DecidablePred holds] (kept : ScriptedTouch → Bool)
    (early : ∀ first second : ScriptedTouch, first.time ≤ second.time → holds second → holds first) :
    (order.filter kept).Pairwise fun first second => decide (holds second) → decide (holds first) :=
  (sorted.filter kept).imp fun {first second} before later =>
    decide_eq_true (early first second before (of_decide_eq_true later))

theorem initial_waiting (frame time : Nat) : (waiting span order frame).Pairwise
    fun first second => decide (second.time ≤ time) → decide (first.time ≤ time) :=
  initial_filter sorted _ fun _ _ => Nat.le_trans

theorem takeWhile_waiting (frame : Nat) :
    (waiting span order frame).takeWhile (·.time ≤ frame * span) =
      order.filter fun touch => FirstAt span touch.time frame := by
  rw [takeWhile_eq_filter (initial_waiting sorted frame _), waiting, List.filter_filter]
  exact List.filter_congr fun touch _ => (Bool.decide_and _ _).symm

theorem dropWhile_waiting (frame : Nat) :
    (waiting span order frame).dropWhile (·.time ≤ frame * span) = waiting span order (frame + 1) := by
  rw [dropWhile_eq_filter (initial_waiting sorted frame _), waiting, List.filter_filter]
  refine List.filter_congr fun touch _ => ?_
  rw [← decide_not, ← Bool.decide_and, decide_eq_decide, Nat.not_le, Nat.forall_lt_succ_right, and_comm]

/-- The calls that are left after some frames. -/
theorem calls_waiting (count frame : Nat) : calls span count (frame * span) (waiting span order frame) =
    (List.range' frame count).flatMap fun frame =>
      (order.filter fun touch => FirstAt span touch.time frame).map .touch ++ [.frame] := by
  induction count generalizing frame with
  | zero => rfl
  | succ count ih =>
    rw [calls, takeWhile_waiting sorted, dropWhile_waiting sorted, ← Nat.succ_mul, ih, List.range'_succ,
      List.flatMap_cons, List.append_assoc]
    rfl

/-- The touches of several frames, each of which comes first at one of them. -/
theorem flatMap_firstAt (count : Nat) :
    ((List.range count).flatMap fun frame => order.filter fun touch => FirstAt span touch.time frame) =
      order.filter fun touch => ∃ frame < count, touch.time ≤ frame * span := by
  induction count with
  | zero => exact (List.filter_eq_nil_iff.mpr fun touch _ => by simp).symm
  | succ count ih =>
    -- The touches of the last frame come behind those of the frames before, as their times do.
    have initial : (order.filter fun touch => ∃ frame < count + 1, touch.time ≤ frame * span).Pairwise
        fun first second => decide (∃ frame < count, second.time ≤ frame * span) →
          decide (∃ frame < count, first.time ≤ frame * span) :=
      initial_filter sorted _ fun _ _ before ⟨frame, played, due⟩ => ⟨frame, played, Nat.le_trans before due⟩
    rw [List.range_succ, List.flatMap_append, ih, List.flatMap_singleton, ← filter_append_filter initial,
      List.filter_filter, List.filter_filter]
    congr 1 <;> refine List.filter_congr fun touch _ => ?_
    · rw [← Bool.decide_and, decide_eq_decide]
      exact (and_iff_left_of_imp fun ⟨frame, played, due⟩ => ⟨frame, Nat.lt_succ_of_lt played, due⟩).symm
    · rw [← decide_not, ← Bool.decide_and, decide_eq_decide, Nat.exists_lt_succ_right, firstAt_iff]
      constructor
      · exact fun ⟨due, first⟩ => ⟨first, .inr due⟩
      · exact fun ⟨first, met⟩ => ⟨met.resolve_left first, first⟩

/-- **Touches in order come on time.** -/
theorem delivers_calls (count : Nat) : Delivers span count order (calls span count 0 order) := by
  have start : waiting span order 0 = order := List.filter_eq_self.mpr fun _ _ => by simp
  have frames : calls span count (0 * span) (waiting span order 0) = _ := calls_waiting sorted count 0
  rw [start, Nat.zero_mul, ← List.range_eq_range'] at frames
  refine ⟨frames, ?_⟩
  rw [frames, List.filterMap_flatMap, ← flatMap_firstAt sorted]
  refine congrArg (List.range count).flatMap (funext fun frame => ?_)
  rw [List.filterMap_append, List.filterMap_map]
  exact (List.append_nil _).trans List.filterMap_some

end Waiting

/-! ### Whole runs -/

theorem count_frame_calls (span count elapsed : Nat) (touches : List ScriptedTouch) :
    (calls span count elapsed touches).count .frame = count := by
  induction count generalizing elapsed touches with
  | zero => rfl
  | succ count ih =>
    have none : ((touches.takeWhile (·.time ≤ elapsed)).map Call.touch).count .frame = 0 :=
      List.count_eq_zero.mpr fun member => by simp at member
    rw [calls, List.count_append, none, List.count_cons_self, ih, Nat.zero_add]

/-- How many frames are asked for. -/
def Arguments.frames (arguments : Arguments) (sections : Sections) : Nat :=
  arguments.seconds.getD sections.run.seconds * framesPerSecond sections.stage.frameRate

section Runs

variable {m : Type → Type} [Monad m] [Host m] (filter : LogFilter) (settings : Settings)

/-- What comes before the first frame: the story is read and started. -/
def opening (words : List String) : ExceptT LaunchError m Player := do
  let (sections, remarks) := settings.all
  Host.logAll filter (Arguments.parse words).1
  Host.logAll filter remarks
  openStory filter sections

/-- **A play by script**, call by call, to its end. -/
def performance (sections : Sections) (arguments : Arguments) (script : List Call) (player : Player) :
    ExceptT LaunchError m Unit := do
  let realtime := arguments.realtime || sections.run.realtime
  Host.log filter (runningRemark (arguments.frames sections) sections.stage.frameRate realtime)
  let session ← follow filter realtime script (.ofSections player sections [])
  let _ ← flush filter session.finish

variable [LawfulMonad m] {words : List String} {arguments : Arguments}

/-- **What is played with the words of a command line.** -/
theorem play_eq (accepted : (Arguments.parse words).2 = .ok arguments) :
    let sections := settings.all.1
    let frames := arguments.frames sections
    (play filter settings words : ExceptT LaunchError m Unit) =
      (do let player ← opening filter settings words
          if frames < powerOfTwo 64 then
            performance filter sections arguments
              (calls (frameSpan sections.stage.frameRate) frames 0 arguments.touches) player
          else throw .overflow) := by
  intro sections frames
  have parsed : Arguments.parse words = ((Arguments.parse words).1, .ok arguments) := Prod.ext rfl accepted
  have given : (orFail (.ok arguments) LaunchError.arguments : ExceptT LaunchError m Arguments) =
      pure arguments := rfl
  unfold play opening
  rw [parsed]
  simp only [given, pure_bind, bind_assoc]
  refine bind_congr fun _ => bind_congr fun _ => bind_congr fun player => ?_
  by_cases few : frames < powerOfTwo 64
  · have counted : frameCount? (arguments.seconds.getD settings.all.1.run.seconds)
        settings.all.1.stage.frameRate = some frames := if_pos few
    rw [if_pos few, counted]
    exact bind_congr fun _ => finish_playFrames (m := ExceptT LaunchError m) filter _ frames _
  · have uncounted : frameCount? (arguments.seconds.getD settings.all.1.run.seconds)
        settings.all.1.stage.frameRate = none := if_neg few
    rw [if_neg few, uncounted]

/-- **The touches of a command line come once, on time and in order.** They are made in the order of their times,
those of one time in the order in which they are given, each before the first frame that does not begin before its
time. This holds for every story, length and frame rate, on every host. -/
theorem touches_come_on_time (accepted : (Arguments.parse words).2 = .ok arguments) :
    let sections := settings.all.1
    let frames := arguments.frames sections
    ∃ given script, Gives words given ∧ InOrder given arguments.touches ∧
      Delivers (frameSpan sections.stage.frameRate) frames arguments.touches script ∧
      (play filter settings words : ExceptT LaunchError m Unit) =
        (do let player ← opening filter settings words
            if frames < powerOfTwo 64 then
              performance filter sections arguments script player
            else throw .overflow) := by
  obtain ⟨given, gives, inOrder⟩ := Arguments.touches_of_parse accepted
  exact ⟨given, _, gives, inOrder, delivers_calls inOrder.sorted _, play_eq filter settings accepted⟩

/-- Settings with two frames a second. -/
def twoFrames : Settings :=
  (Settings.unread.readText "[stage]\nframe_rate = 2\n").settings

theorem dog_before_cat :
    let words := ["--touch", "Cat@600", "--touch", "Do@g@10", "--seconds", "2"]
    let dog : ScriptedTouch := ⟨"Do@g", Span.millis 10⟩
    let cat : ScriptedTouch := ⟨"Cat", Span.millis 600⟩
    let arguments : Arguments := ⟨some 2, false, [dog, cat]⟩
    let filter := (LogFilter.ofText "info").1
    (Arguments.parse words).2 = .ok arguments ∧
      (play filter twoFrames words : ExceptT LaunchError (StateM Sandbox) Unit) =
        (do let player ← opening filter twoFrames words
            performance filter twoFrames.all.1 arguments
              [.frame, .touch dog, .frame, .touch cat, .frame, .frame] player) := by
  intro words dog cat arguments filter
  have read : (Arguments.collect .none [] words).2 = .ok ⟨some 2, false, [cat, dog]⟩ := by decide +kernel
  have order : [cat, dog].mergeSort (fun first second => first.time ≤ second.time) = [dog, cat] := by
    have before : dog.time < cat.time := by decide
    simp [List.mergeSort, before]
  have accepted : (Arguments.parse words).2 = .ok arguments := by
    rw [Arguments.parse_result, read]
    exact congrArg (fun touches => Except.ok (Arguments.mk (some 2) false touches)) order
  obtain ⟨given, script, gives, inOrder, delivers, plays⟩ :=
    touches_come_on_time (m := StateM Sandbox) filter twoFrames accepted
  have few : arguments.frames twoFrames.all.1 < powerOfTwo 64 := by decide +kernel
  have script_eq : script = [.frame, .touch dog, .frame, .touch cat, .frame, .frame] :=
    delivers.frames.trans (by decide +kernel)
  simp only [few, if_true, script_eq] at plays
  exact ⟨accepted, plays⟩

/-- **A run is as long as it was asked to be, if its frames are fewer than 64 bits can count.** Otherwise it is
aborted before its first frame. -/
theorem plays_as_asked_or_aborts (accepted : (Arguments.parse words).2 = .ok arguments) :
    let sections := settings.all.1
    let frames := arguments.frames sections
    (frames < powerOfTwo 64 → ∃ script : List Call, script.count .frame = frames ∧
      (play filter settings words : ExceptT LaunchError m Unit) =
        (do let player ← opening filter settings words
            performance filter sections arguments script player)) ∧
      (powerOfTwo 64 ≤ frames → (play filter settings words : ExceptT LaunchError m Unit) =
        (do let _ ← opening filter settings words
            throw .overflow)) := by
  intro sections frames
  have plays := play_eq (m := m) filter settings accepted
  refine ⟨fun few => ?_, fun many => ?_⟩
  · simp only [show arguments.frames settings.all.1 < powerOfTwo 64 from few, if_true] at plays
    exact ⟨_, count_frame_calls _ _ _ _, plays⟩
  · simp only [show ¬ arguments.frames settings.all.1 < powerOfTwo 64 from Nat.not_lt.mpr many, if_false] at plays
    exact plays

theorem run_without_frames :
    let words := ["--seconds", "9223372036854775808"]
    let filter := (LogFilter.ofText "info").1
    (Arguments.parse words).2 = .ok ⟨some (powerOfTwo 63), false, []⟩ ∧
      (play filter twoFrames words : ExceptT LaunchError (StateM Sandbox) Unit) =
        (do let _ ← opening filter twoFrames words
            throw .overflow) := by
  intro words filter
  have accepted : (Arguments.parse words).2 = .ok ⟨some (powerOfTwo 63), false, []⟩ := by decide +kernel
  exact ⟨accepted, (plays_as_asked_or_aborts filter twoFrames accepted).2 (by decide +kernel)⟩

end Runs

end Storybook.Launcher
