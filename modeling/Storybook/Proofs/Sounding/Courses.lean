/-
**The course of the sounds of a chain.**

A chain of sounds is started, and then time passes in frames: in each, the sounds are played whose turn
it is, and then the chain is told which playings have ended. A course keeps a record of that: which
playings began in which frame, and which ended.

* `Course.run`: a chain that is started and left to itself for some frames;
* `Course.cues`: what makes the sounds of a course wait for their turn;
* `Course.Plays`, `Course.Tells`: what the two halves of a frame do;
* `TimerQueue.turns`: the sounds that wait in a queue, with the instants at which they are due.
-/

import Storybook.Proofs.Queue
import Storybook.Proofs.Sounding.Chains
import Storybook.Proofs.Sounding.Turns

namespace Storybook

/-! ### Turns -/

/-- The sound of which a task is the turn. -/
def Task.link? : Task → Option Nat
  | .playSound link => some link
  | _ => none

/-- The sound of which a timer is the turn, and the instant at which it is due. -/
def Timer.turn? (timer : Timer Task) : Option (Nat × Nat) :=
  timer.task.link?.map fun link => (link, timer.due)

namespace TimerQueue

variable {queue : TimerQueue Task}

/-- The sounds that wait for their turn, and the instants at which these are due. -/
def turns (queue : TimerQueue Task) : List (Nat × Nat) :=
  queue.timers.filterMap Timer.turn?

/-- A queue as its operations leave it, where every sound waits for a single turn. -/
structure Regular (queue : TimerQueue Task) : Prop where
  ordered : Timer.Ordered queue.timers
  once : ∀ timer ∈ queue.timers, timer.turn?.isSome → timer.isOnce

/-- A timer that is renewed is still the turn of a sound, or still not. -/
theorem isSome_turn? {timer old : Timer Task} (renews : timer.Renews old) :
    timer.turn?.isSome = old.turn?.isSome := by
  rw [Timer.turn?, Timer.turn?, renews.task, Option.isSome_map, Option.isSome_map]

theorem isOnce_of_renews {timer old : Timer Task} (renews : timer.Renews old) :
    timer.isOnce = old.isOnce := by
  rw [Timer.isOnce, Timer.isOnce, renews.period]

/-- The turns are among the timers that are due only once. -/
theorem filterMap_turn? {timers : List (Timer Task)}
    (once : ∀ timer ∈ timers, timer.turn?.isSome → timer.isOnce) :
    (timers.filter Timer.isOnce).filterMap Timer.turn? = timers.filterMap Timer.turn? := by
  rw [List.filterMap_filter]
  refine List.filterMap_congr fun timer member => ?_
  by_cases single : timer.isOnce
  · rw [if_pos single]
  · rw [if_neg single]
    exact (Option.not_isSome_iff_eq_none.mp (mt (once timer member) single)).symm

/-- To look at the instants of the turns is to look at those of the timers. -/
theorem filterMap_turn?_filter (early : Nat → Bool) (timers : List (Timer Task)) :
    (timers.filter fun timer => early timer.due).filterMap Timer.turn? =
      (timers.filterMap Timer.turn?).filter fun turn => early turn.2 := by
  rw [List.filterMap_filter, List.filter_filterMap]
  refine List.filterMap_congr fun timer _ => ?_
  unfold Timer.turn?
  cases timer.task.link? <;> simp [Option.filter]

/-- A queue in which no sound waits has no turns. -/
theorem turns_eq_nil (free : ∀ timer ∈ queue.timers, ¬ timer.PlaysSound) : queue.turns = [] := by
  refine List.filterMap_eq_nil_iff.mpr fun timer member => ?_
  unfold Timer.turn?
  cases task : timer.task with
  | playSound link => exact absurd ⟨link, task⟩ (free timer member)
  | startMotion => rfl
  | retrigger => rfl

theorem regular_of_free (ordered : Timer.Ordered queue.timers)
    (free : ∀ timer ∈ queue.timers, ¬ timer.PlaysSound) : queue.Regular where
  ordered := ordered
  once timer member turn := by
    have none := List.filterMap_eq_nil_iff.mp (turns_eq_nil free) timer member
    rw [none] at turn
    exact absurd turn Bool.false_ne_true

theorem regular_schedule (regular : queue.Regular) (delay : Nat) (task : Task) :
    (queue.schedule delay task).2.Regular where
  ordered := ordered_insert regular.ordered _ _ _
  once timer member turn := by
    rcases mem_schedule.mp member with rfl | old
    · rfl
    · exact regular.once timer old turn

/-- **A sound that is scheduled waits for its turn**, besides those that wait already. -/
theorem turns_schedule (queue : TimerQueue Task) (delay link : Nat) :
    (queue.schedule delay (.playSound link)).2.turns.Perm
      (queue.turns ++ [(link, queue.now + delay)]) :=
  ((Timer.perm_enqueue _ _).filterMap _).trans (List.perm_append_singleton _ _).symm

theorem regular_advance (regular : queue.Regular) (span : Nat) : (queue.advance span).2.Regular where
  ordered := ordered_advance regular.ordered span
  once timer member turn := by
    obtain ⟨old, inside, renews⟩ := mem_advance member
    rw [isOnce_of_renews renews]
    exact regular.once old inside (isSome_turn? renews ▸ turn)

/-- **When time passes, the turns that are due by then are handed out**, and nothing else is the turn
of a sound. -/
theorem turns_fired (regular : queue.Regular) (span : Nat) :
    (queue.advance span).1.filterMap Timer.turn? =
      queue.turns.filter fun turn => turn.2 ≤ queue.now + span := by
  have once : ∀ timer ∈ (queue.advance span).1, timer.turn?.isSome → timer.isOnce := by
    intro timer member turn
    obtain ⟨old, inside, renews⟩ := mem_fired member
    rw [isOnce_of_renews renews]
    exact regular.once old inside (isSome_turn? renews ▸ turn)
  have fired : (queue.advance span).1.filter Timer.isOnce =
      (queue.timers.filter Timer.isOnce).filter fun timer => timer.due ≤ queue.now + span :=
    (filter_fired regular.ordered).trans (by rw [List.filter_filter]; simp only [Bool.and_comm])
  rw [← filterMap_turn? once, fired, filterMap_turn?_filter (· ≤ queue.now + span),
    filterMap_turn? regular.once, turns]

/-- The turns that are not due yet stay. -/
theorem turns_advance (regular : queue.Regular) (span : Nat) :
    (queue.advance span).2.turns =
      queue.turns.filter fun turn => !decide (turn.2 ≤ queue.now + span) := by
  have waiting : (queue.advance span).2.timers.filter Timer.isOnce =
      (queue.timers.filter Timer.isOnce).filter fun timer => !decide (timer.due ≤ queue.now + span) :=
    (filter_waiting regular.ordered).trans (by rw [List.filter_filter]; simp only [Bool.and_comm])
  rw [turns, ← filterMap_turn? (regular_advance regular span).once, waiting,
    filterMap_turn?_filter (fun due => !decide (due ≤ queue.now + span)),
    filterMap_turn? regular.once, turns]

end TimerQueue

/-! ### Ends of playings -/

namespace SoundChain

/-- The chain without a playing that it waits for. -/
def forget (chain : SoundChain) (playback : PlaybackId) : SoundChain :=
  { chain with awaiting := chain.awaiting.filter fun entry => entry.1 ≠ playback }

theorem mem_awaiting_forget {chain : SoundChain} {playback other : PlaybackId} {link : Nat} :
    (other, link) ∈ (chain.forget playback).awaiting ↔
      (other, link) ∈ chain.awaiting ∧ other ≠ playback := by
  unfold forget
  rw [List.mem_filter, decide_eq_true_iff]

theorem finish_eq {chain : SoundChain} {playback : PlaybackId} {link : Nat}
    (awaited : chain.awaiting.lookup playback = some link) (world : World) :
    chain.finish playback world = (true,
      (chain.forget playback).scheduleAll (successors chain.links link) world) := by
  unfold finish
  rw [awaited]
  rfl

end SoundChain

/-! ### Courses -/

namespace Story.Sound

/-- How long a sound waits before its turn. -/
def waitOf (links : List Story.Sound) (link : Nat) : Nat :=
  Span.millis ((links[link]?.bind Story.Sound.wait).getD 0)

/-- The file of a sound. -/
def fileOf (links : List Story.Sound) (link : Nat) : String :=
  (links[link]?.map Story.Sound.file).getD ""

/-- Whether a sound names others that follow it. -/
def isFollowed (links : List Story.Sound) (link : Nat) : Bool :=
  (links[link]?.bind Story.Sound.next).isSome

end Story.Sound

open Story.Sound (waitOf fileOf isFollowed)

/-- A sound begins to wait for its turn at the end of a frame. -/
structure Cue where
  link : Nat
  frame : Nat
deriving DecidableEq, Repr

/-- A sound is played in a frame. -/
structure Playing where
  link : Nat
  playback : PlaybackId
  frame : Nat
deriving DecidableEq, Repr

/-- The chain is told in a frame that a playing has ended by itself. -/
structure Ending where
  playback : PlaybackId
  frame : Nat
deriving DecidableEq, Repr

/-- A chain of sounds that is under way, with a record of what happened in which frame. -/
structure Course where
  chain : SoundChain
  world : World
  /-- How many frames have passed. -/
  frame : Nat
  begun : List Playing
  ended : List Ending
deriving DecidableEq, Repr

namespace Course

/-- A chain that has just been started. -/
def start (links : List Story.Sound) (world : World) : Course :=
  let (chain, world) := (SoundChain.ofLinks links).start world
  ⟨chain, world, 0, [], []⟩

/-- Plays a sound, and records the handle that was given out. -/
def play (course : Course) (link : Nat) : Course :=
  let (chain, world) := course.chain.play link course.world
  let playing : Playing := ⟨link, ⟨world.audio.issued⟩, course.frame⟩
  { course with chain, world, begun := course.begun ++ [playing] }

/-- Does a task if it is the turn of a sound. -/
def perform (course : Course) (task : Task) : Course :=
  match task.link? with
  | some link => course.play link
  | none => course

/-- Tells the chain that a playing has ended, and records it. -/
def finish (course : Course) (playback : PlaybackId) : Course :=
  let (_, chain, world) := course.chain.finish playback course.world
  { course with chain, world, ended := course.ended ++ [⟨playback, course.frame⟩] }

/-- Lets a frame pass: the sounds are played whose turn it is, and then the chain is told which
playings have ended. -/
def pass (course : Course) (span : Nat) : Course :=
  let (tasks, world) := course.world.advanceClock span
  let course := tasks.foldl perform { course with world, frame := course.frame + 1 }
  let (finished, world) := course.world.takeFinished
  finished.foldl finish { course with world }

/-- A course when time has passed in a frame, before anything is done. -/
def lapse (course : Course) (span : Nat) : Course :=
  { course with world := (course.world.advanceClock span).2, frame := course.frame + 1 }

/-- A chain that is started and left to itself for some frames. -/
def run (links : List Story.Sound) (world : World) (spans : List Nat) : Course :=
  spans.foldl pass (start links world)

/-- The sounds that follow a playing. -/
def followers (course : Course) (playback : PlaybackId) : List Nat :=
  (course.begun.filter fun playing => playing.playback = playback).flatMap fun playing =>
    SoundChain.successors course.chain.links playing.link

/-- What makes the sounds wait for their turn: the start, for those that start by themselves, and the
end of every playing that they follow. -/
def cues (course : Course) : List Cue :=
  (SoundChain.roots course.chain.links).map (⟨·, 0⟩) ++
    course.ended.flatMap fun ending => (course.followers ending.playback).map (⟨·, ending.frame⟩)

/-- The chain waits for the playings that have not ended and that others follow. -/
def Heeds (course : Course) : Prop :=
  ∀ playback link, (playback, link) ∈ course.chain.awaiting ↔
    ∃ playing ∈ course.begun, playing.playback = playback ∧ playing.link = link ∧
      isFollowed course.chain.links link ∧ playback ∉ course.ended.map Ending.playback

/-! ### The sounds are played -/

/-- The tasks of a frame are the turns of the sounds that are due by its end. -/
theorem links_advanceClock {world : World} (regular : world.timers.Regular) (span : Nat) :
    (world.advanceClock span).1.filterMap Task.link? =
      (world.timers.turns.filter fun turn => turn.2 ≤ world.timers.now + span).map Prod.fst := by
  show ((world.timers.advance span).1.map Timer.task).filterMap Task.link? = _
  rw [← TimerQueue.turns_fired regular span, List.filterMap_map, List.map_filterMap]
  refine List.filterMap_congr fun timer _ => ?_
  simp [Timer.turn?, Function.comp_def]

/-- The sounds of some playings are played, and nothing else happens. -/
structure Plays (before after : Course) (new : List Playing) : Prop where
  links : after.chain.links = before.chain.links
  awaiting : after.chain.awaiting = before.chain.awaiting ++
    (new.filter fun playing => isFollowed before.chain.links playing.link).map
      fun playing => (playing.playback, playing.link)
  timers : after.world.timers = before.world.timers
  frame : after.frame = before.frame
  begun : after.begun = before.begun ++ new
  ended : after.ended = before.ended
  now : after.world.audio.now = before.world.audio.now
  clip : after.world.audio.clip = before.world.audio.clip
  finished : after.world.audio.finished = before.world.audio.finished
  issued : after.world.audio.issued = before.world.audio.issued + new.length
  voices : after.world.audio.voices = before.world.audio.voices ++ new.map fun playing =>
    let file := fileOf before.chain.links playing.link
    ⟨playing.playback, file, before.world.audio.now + before.world.audio.clip file⟩
  plays : after.world.audio.plays.toList = before.world.audio.plays.toList ++ new.map fun playing =>
    ⟨before.world.audio.now, fileOf before.chain.links playing.link⟩
  events : after.world.events.toList = before.world.events.toList ++ new.map fun playing =>
    .soundStarted (fileOf before.chain.links playing.link) playing.playback
  /-- The handles are new, and given out one after the other. -/
  numbers : new.map (fun playing => playing.playback.number) =
    List.range' (before.world.audio.issued + 1) new.length
  frames : ∀ playing ∈ new, playing.frame = before.frame

theorem Plays.refl (course : Course) : Plays course course [] := by
  constructor <;> simp

theorem Plays.trans {first second third : Course} {earlier later : List Playing}
    (left : Plays first second earlier) (right : Plays second third later) :
    Plays first third (earlier ++ later) where
  links := right.links.trans left.links
  awaiting := by
    rw [right.awaiting, left.awaiting, left.links, List.filter_append, List.map_append,
      List.append_assoc]
  timers := right.timers.trans left.timers
  frame := right.frame.trans left.frame
  begun := by rw [right.begun, left.begun, List.append_assoc]
  ended := right.ended.trans left.ended
  now := right.now.trans left.now
  clip := right.clip.trans left.clip
  finished := right.finished.trans left.finished
  issued := by rw [right.issued, left.issued, List.length_append, Nat.add_assoc]
  voices := by
    rw [right.voices, left.voices, left.links, left.now, left.clip, List.map_append,
      List.append_assoc]
  plays := by
    rw [right.plays, left.plays, left.links, left.now, List.map_append, List.append_assoc]
  events := by rw [right.events, left.events, left.links, List.map_append, List.append_assoc]
  numbers := by
    rw [List.map_append, right.numbers, left.numbers, left.issued, List.length_append,
      ← List.range'_append_1]
    congr 2
    omega
  frames := List.forall_mem_append.mpr
    ⟨left.frames, fun playing member => (right.frames playing member).trans left.frame⟩

/-- A sound of the chain is played. -/
theorem plays_play (course : Course) {link : Nat} (inside : link < course.chain.links.length) :
    Plays course (course.play link) [⟨link, ⟨course.world.audio.issued + 1⟩, course.frame⟩] := by
  have found : course.chain.links[link]? = some course.chain.links[link] :=
    List.getElem?_eq_getElem inside
  unfold play SoundChain.play
  dsimp only
  rw [found]
  dsimp only
  by_cases followed : course.chain.links[link].next.isSome
  · rw [if_pos followed]
    constructor <;> simp [isFollowed, fileOf, found, followed, World.playSound, World.report,
      Audio.play, Audio.setVolume, Audio.clip, funext_iff]
  · rw [if_neg followed]
    constructor <;> simp [isFollowed, fileOf, found, followed, World.playSound, World.report,
      Audio.play, Audio.setVolume, Audio.clip, funext_iff]

/-- **The sounds are played whose turn it is.** -/
theorem plays_performEach (tasks : List Task) :
    ∀ course : Course, (∀ link ∈ tasks.filterMap Task.link?, link < course.chain.links.length) →
      ∃ new, new.map Playing.link = tasks.filterMap Task.link? ∧
        Plays course (tasks.foldl perform course) new := by
  induction tasks with
  | nil => exact fun course _ => ⟨[], rfl, .refl course⟩
  | cons task rest ih =>
    intro course inside
    rw [List.filterMap_cons] at inside ⊢
    rw [List.foldl_cons]
    cases turn : task.link? with
    | none =>
      rw [turn] at inside
      have idle : course.perform task = course := by rw [perform, turn]
      rw [idle]
      exact ih course inside
    | some link =>
      rw [turn] at inside
      obtain ⟨here, further⟩ := List.forall_mem_cons.mp inside
      have does : course.perform task = course.play link := by rw [perform, turn]
      have played := plays_play course here
      obtain ⟨new, same, plays⟩ := ih (course.play link) (played.links ▸ further)
      rw [does]
      exact ⟨_ :: new, by rw [List.map_cons, same], played.trans plays⟩

/-- The handles of the new playings are new. -/
theorem Plays.fresh {before after : Course} {new : List Playing} (plays : Plays before after new) :
    ∀ playing ∈ new, before.world.audio.issued < playing.playback.number := by
  intro playing member
  have number : playing.playback.number ∈ new.map fun playing => playing.playback.number :=
    List.mem_map_of_mem member
  rw [plays.numbers, List.mem_range'_1] at number
  exact number.1

theorem Plays.le_issued {before after : Course} {new : List Playing} (plays : Plays before after new) :
    ∀ playing ∈ new, playing.playback.number ≤ before.world.audio.issued + new.length := by
  intro playing member
  have number : playing.playback.number ∈ new.map fun playing => playing.playback.number :=
    List.mem_map_of_mem member
  rw [plays.numbers, List.mem_range'_1] at number
  omega

/-- No handle is given out twice. -/
theorem Plays.distinct {before after : Course} {new : List Playing} (plays : Plays before after new)
    (distinct : (before.begun.map Playing.playback).Nodup)
    (issued : ∀ playing ∈ before.begun, playing.playback.number ≤ before.world.audio.issued) :
    (after.begun.map Playing.playback).Nodup := by
  rw [plays.begun, List.map_append]
  refine List.nodup_append.mpr ⟨distinct, ?_, fun first left second right same => ?_⟩
  · have numbers : (new.map fun playing => playing.playback.number).Nodup :=
      plays.numbers ▸ List.nodup_range'
    exact .of_map PlaybackId.number (by rw [List.map_map]; exact numbers)
  · obtain ⟨old, member, rfl⟩ := List.mem_map.mp left
    obtain ⟨playing, inside, rfl⟩ := List.mem_map.mp right
    have late := plays.fresh playing inside
    rw [← same] at late
    exact Nat.not_lt_of_le (issued old member) late

/-- The chain waits for the new playings that others follow. -/
theorem Plays.heeds {before after : Course} {new : List Playing} (plays : Plays before after new)
    (heeds : before.Heeds)
    (fresh : ∀ playing ∈ new, playing.playback ∉ before.ended.map Ending.playback) :
    after.Heeds := by
  intro playback link
  rw [plays.awaiting, plays.begun, plays.ended, plays.links, List.mem_append, heeds]
  constructor
  · rintro (⟨playing, member, facts⟩ | begins)
    · exact ⟨playing, List.mem_append_left _ member, facts⟩
    · obtain ⟨playing, member, same⟩ := List.mem_map.mp begins
      obtain ⟨inside, followed⟩ := List.mem_filter.mp member
      cases same
      exact ⟨playing, List.mem_append_right _ inside, rfl, rfl, followed, fresh playing inside⟩
  · rintro ⟨playing, member, rfl, rfl, followed, going⟩
    rcases List.mem_append.mp member with old | new'
    · exact .inl ⟨playing, old, rfl, rfl, followed, going⟩
    · exact .inr (List.mem_map.mpr ⟨playing, List.mem_filter.mpr ⟨new', followed⟩, rfl⟩)

/-! ### The ends are told -/

/-- Sounds that are scheduled wait for their turn, and nothing else happens. -/
theorem scheduleAll_eq (list : List Nat) :
    ∀ (chain : SoundChain) (world : World), world.timers.Regular →
      ∃ pending timers, chain.scheduleAll list world =
          ({ chain with pending }, { world with timers }) ∧
        timers.now = world.timers.now ∧ timers.Regular ∧
        timers.turns.Perm (world.timers.turns ++
          list.map fun link => (link, world.timers.now + waitOf chain.links link)) := by
  induction list with
  | nil => exact fun chain world regular => ⟨_, _, rfl, rfl, regular, by simp⟩
  | cons link rest ih =>
    intro chain world regular
    have fits := TimerQueue.regular_schedule regular (waitOf chain.links link) (.playSound link)
    obtain ⟨pending, timers, whole, now, still, turns⟩ :=
      ih (chain.schedule link world).1 (chain.schedule link world).2 fits
    refine ⟨pending, timers, whole, now, still, turns.trans ?_⟩
    have first := TimerQueue.turns_schedule world.timers (waitOf chain.links link) link
    refine (first.append_right _).trans (.of_eq ?_)
    rw [List.append_assoc]
    rfl

/-- The chain is told of the ends of some playings, and nothing else happens. -/
structure Tells (before after : Course) (playbacks : List PlaybackId) : Prop where
  links : after.chain.links = before.chain.links
  audio : after.world.audio = before.world.audio
  events : after.world.events = before.world.events
  frame : after.frame = before.frame
  begun : after.begun = before.begun
  ended : after.ended = before.ended ++ playbacks.map fun playback => ⟨playback, before.frame⟩
  now : after.world.timers.now = before.world.timers.now
  regular : after.world.timers.Regular
  turns : after.world.timers.turns.Perm (before.world.timers.turns ++
    (playbacks.flatMap before.followers).map fun link =>
      (link, before.world.timers.now + waitOf before.chain.links link))
  heeds : after.Heeds

theorem Tells.trans {first second third : Course} {earlier later : List PlaybackId}
    (left : Tells first second earlier) (right : Tells second third later) :
    Tells first third (earlier ++ later) where
  links := right.links.trans left.links
  audio := right.audio.trans left.audio
  events := right.events.trans left.events
  frame := right.frame.trans left.frame
  begun := right.begun.trans left.begun
  ended := by rw [right.ended, left.ended, left.frame, List.map_append, List.append_assoc]
  now := right.now.trans left.now
  regular := right.regular
  turns := by
    have same : second.followers = first.followers := by
      funext playback
      rw [followers, followers, left.begun, left.links]
    refine right.turns.trans ((left.turns.append_right _).trans (.of_eq ?_))
    rw [same, left.now, left.links, List.flatMap_append, List.map_append, List.append_assoc]
  heeds := right.heeds

/-- A playing is the only one of its handle. -/
theorem filter_playback {begun : List Playing} {playing : Playing}
    (distinct : (begun.map Playing.playback).Nodup) (member : playing ∈ begun) :
    (begun.filter fun other => other.playback = playing.playback) = [playing] := by
  induction begun with
  | nil => cases member
  | cons first rest ih =>
    obtain ⟨apart, distinct⟩ := List.nodup_cons.mp distinct
    rcases List.mem_cons.mp member with rfl | inside
    · rw [List.filter_cons_of_pos (by simp)]
      congr 1
      refine List.filter_eq_nil_iff.mpr fun other behind same => apart ?_
      exact of_decide_eq_true same ▸ List.mem_map_of_mem behind
    · have other : first.playback ≠ playing.playback := fun same =>
        apart (same ▸ List.mem_map_of_mem inside)
      rw [List.filter_cons_of_neg (by simp [other])]
      exact ih distinct inside

/-- Playings of one handle are the same. -/
theorem eq_of_playback {begun : List Playing} {first second : Playing}
    (distinct : (begun.map Playing.playback).Nodup) (left : first ∈ begun) (right : second ∈ begun)
    (same : first.playback = second.playback) : first = second :=
  List.inj_on_of_nodup_map distinct left right same

theorem followers_eq {course : Course} {playing : Playing}
    (distinct : (course.begun.map Playing.playback).Nodup) (member : playing ∈ course.begun) :
    course.followers playing.playback =
      SoundChain.successors course.chain.links playing.link := by
  rw [followers, filter_playback distinct member, List.flatMap_cons, List.flatMap_nil,
    List.append_nil]

/-- The chain does not wait for the playing of a sound that none follows. -/
theorem successors_eq_nil {links : List Story.Sound} {link : Nat} (last : ¬ isFollowed links link) :
    SoundChain.successors links link = [] := by
  unfold SoundChain.successors
  rw [Option.not_isSome_iff_eq_none.mp last]

/-- **The chain is told of the end of one of its playings.** -/
theorem tells_finish {course : Course} {playing : Playing} (regular : course.world.timers.Regular)
    (heeds : course.Heeds) (distinct : (course.begun.map Playing.playback).Nodup)
    (member : playing ∈ course.begun) (going : playing.playback ∉ course.ended.map Ending.playback) :
    Tells course (course.finish playing.playback) [playing.playback] := by
  have behind := followers_eq distinct member
  unfold finish
  cases found : course.chain.awaiting.lookup playing.playback with
  | none =>
    unfold SoundChain.finish
    rw [found]
    have absent : ∀ link, (playing.playback, link) ∉ course.chain.awaiting := fun link awaited =>
      bne_iff_ne.mp (List.lookup_eq_none_iff.mp found _ awaited) rfl
    have last : ¬ isFollowed course.chain.links playing.link := fun followed =>
      absent _ ((heeds _ _).mpr ⟨playing, member, rfl, rfl, followed, going⟩)
    refine ⟨rfl, rfl, rfl, rfl, rfl, rfl, rfl, regular, ?_, fun playback link => ?_⟩
    · simp [behind, successors_eq_nil last]
    · refine (heeds playback link).trans ?_
      simp only [List.map_append, List.map_cons, List.map_nil, List.mem_append, List.mem_singleton,
        not_or]
      constructor
      · rintro ⟨other, inside, own, same, followed, open'⟩
        refine ⟨other, inside, own, same, followed, open', ?_⟩
        rintro rfl
        exact absent link ((heeds _ _).mpr ⟨other, inside, own, same, followed, open'⟩)
      · rintro ⟨other, inside, own, same, followed, open', _⟩
        exact ⟨other, inside, own, same, followed, open'⟩
  | some link =>
    obtain ⟨before, after, split, _⟩ := List.lookup_eq_some_iff.mp found
    have awaited : (playing.playback, link) ∈ course.chain.awaiting :=
      split ▸ List.mem_append_right _ List.mem_cons_self
    obtain ⟨other, inside, own, rfl, _, _⟩ := (heeds _ _).mp awaited
    cases eq_of_playback distinct inside member own
    obtain ⟨pending, timers, whole, now, still, turns⟩ :=
      scheduleAll_eq (SoundChain.successors course.chain.links playing.link)
        (course.chain.forget playing.playback) course.world regular
    rw [SoundChain.finish_eq found, whole]
    refine ⟨rfl, rfl, rfl, rfl, rfl, rfl, now, still, ?_, fun playback link => ?_⟩
    · rw [List.flatMap_cons, List.flatMap_nil, List.append_nil, behind]
      exact turns
    · refine SoundChain.mem_awaiting_forget.trans ?_
      rw [heeds]
      simp only [List.map_append, List.map_cons, List.map_nil, List.mem_append, List.mem_singleton,
        not_or]
      constructor
      · rintro ⟨⟨other, inside, own, same, followed, open'⟩, different⟩
        exact ⟨other, inside, own, same, followed, open', different⟩
      · rintro ⟨other, inside, own, same, followed, open', different⟩
        exact ⟨⟨other, inside, own, same, followed, open'⟩, different⟩

/-- **The chain is told which playings have ended.** -/
theorem tells_finishEach (playbacks : List PlaybackId) :
    ∀ {course : Course}, course.world.timers.Regular → course.Heeds →
      (course.begun.map Playing.playback).Nodup → playbacks.Nodup →
      (∀ playback ∈ playbacks, playback ∈ course.begun.map Playing.playback ∧
        playback ∉ course.ended.map Ending.playback) →
      Tells course (playbacks.foldl finish course) playbacks := by
  induction playbacks with
  | nil =>
    intro course regular heeds _ _ _
    exact ⟨rfl, rfl, rfl, rfl, rfl, by simp, rfl, regular, by simp, heeds⟩
  | cons playback rest ih =>
    intro course regular heeds distinct unique all
    obtain ⟨apart, single⟩ := List.nodup_cons.mp unique
    obtain ⟨⟨begun, going⟩, known⟩ := List.forall_mem_cons.mp all
    obtain ⟨playing, member, rfl⟩ := List.mem_map.mp begun
    have told := tells_finish regular heeds distinct member going
    refine told.trans (ih told.regular told.heeds (told.begun ▸ distinct) single fun other inside => ?_)
    rw [told.begun, told.ended, List.map_append, List.mem_append, not_or]
    refine ⟨(known other inside).1, (known other inside).2, fun last => apart ?_⟩
    have same : other = playing.playback := List.mem_singleton.mp last
    exact same ▸ inside

end Course

end Storybook
