/-
**Sounds follow each other exactly.**

A chain of sounds that is started and left to itself plays every sound as often as there is cause for
it, and when it is due. The causes are the start, for the sounds that start by themselves, and the ends
of the playings that a sound follows. Each cause makes the sound wait once, from the end of its frame,
and the sound is played in the first later frame by whose end the wait has passed. A playing ends in the
first later frame by whose end its clip has passed.

* `Course.Exact`: that, for the record of a course;
* `Course.Settled`: what holds between the frames of a course besides: which sounds wait, which voices
  sound, and which playings the chain waits for;
* `Course.Settled.pass`: one frame;
* `Course.settled_run`, `Course.exact_run`: every course.
-/

import Mathlib.Data.List.Induction
import Storybook.Proofs.Sounding.Courses

namespace Storybook

open Story.Sound (waitOf fileOf isFollowed)

/-- A world in which nothing sounds and no sound waits for its turn. -/
structure World.Ready (world : World) : Prop where
  ordered : Timer.Ordered world.timers.timers
  free : ∀ timer ∈ world.timers.timers, ¬ timer.PlaysSound
  silent : world.audio.voices = []
  told : world.audio.finished = []

namespace Course

/-- The cues after which the sound was played, with the frames in which that was due. -/
def due (links : List Story.Sound) (spans : List Nat) (cues : List Cue) : List (Nat × Nat) :=
  Frames.passed Cue.link Cue.frame (fun cue => waitOf links cue.link) spans cues

/-- The cues after which the sound still waits. -/
def waiting (links : List Story.Sound) (spans : List Nat) (cues : List Cue) : List Cue :=
  Frames.going Cue.frame (fun cue => waitOf links cue.link) spans cues

/-- How long a playing takes. -/
def clipOf (links : List Story.Sound) (audio : Audio) (playing : Playing) : Nat :=
  audio.clip (fileOf links playing.link)

/-- The playings whose clip has passed, with the frames in which that was so. -/
def heard (links : List Story.Sound) (audio : Audio) (spans : List Nat) (begun : List Playing) :
    List (PlaybackId × Nat) :=
  Frames.passed Playing.playback Playing.frame (clipOf links audio) spans begun

/-- The playings whose clip has not passed. -/
def sounding (links : List Story.Sound) (audio : Audio) (spans : List Nat) (begun : List Playing) :
    List Playing :=
  Frames.going Playing.frame (clipOf links audio) spans begun

/-- **A course is exact**: its frames took some spans, and in the world in which it was started nothing
happened but its sounds. -/
structure Exact (links : List Story.Sound) (world : World) (spans : List Nat) (course : Course) :
    Prop where
  /-- Only sounds of the chain are played. -/
  known : ∀ playing ∈ course.begun, playing.link < links.length
  /-- Every playing has its own handle. -/
  distinct : (course.begun.map Playing.playback).Nodup
  /-- A sound is played once for each of its cues, when its wait has passed. -/
  begun : (course.begun.map fun playing => (playing.link, playing.frame)).Perm
    (due links spans course.cues)
  /-- Every playing ends once, when its clip has passed. -/
  ended : (course.ended.map fun ending => (ending.playback, ending.frame)).Perm
    (heard links world.audio spans course.begun)
  /-- The record is right: these sounds were played, at these instants, -/
  plays : course.world.audio.plays.toList = world.audio.plays.toList ++ course.begun.map
    fun playing => ⟨world.audio.now + Frames.ending spans playing.frame, fileOf links playing.link⟩
  /-- under these handles. -/
  events : course.world.events.toList = world.events.toList ++ course.begun.map
    fun playing => .soundStarted (fileOf links playing.link) playing.playback

/-- What holds of a course between its frames. -/
structure Settled (links : List Story.Sound) (world : World) (spans : List Nat) (course : Course) :
    Prop extends Exact links world spans course where
  own : course.chain.links = links
  frame : course.frame = spans.length
  timersNow : course.world.timers.now = world.timers.now + spans.sum
  audioNow : course.world.audio.now = world.audio.now + spans.sum
  clip : course.world.audio.clip = world.audio.clip
  finished : course.world.audio.finished = []
  regular : course.world.timers.Regular
  heeds : course.Heeds
  cues : ∀ cue ∈ course.cues, cue.link < links.length ∧ cue.frame ≤ spans.length
  frames : ∀ playing ∈ course.begun, playing.frame ≤ spans.length
  issued : ∀ playing ∈ course.begun, playing.playback.number ≤ course.world.audio.issued
  /-- The sounds wait whose wait has not passed. -/
  waits : course.world.timers.turns.Perm ((waiting links spans course.cues).map fun cue =>
    (cue.link, world.timers.now + (Frames.ending spans cue.frame + waitOf links cue.link)))
  /-- The playings sound whose clip has not passed. -/
  sounds : (course.world.audio.voices.map fun voice => (voice.id, voice.ending)).Perm
    ((sounding links world.audio spans course.begun).map fun playing => (playing.playback,
      world.audio.now + (Frames.ending spans playing.frame + clipOf links world.audio playing)))

variable {links : List Story.Sound} {world : World} {spans : List Nat} {course : Course}

/-! ### The start -/

/-- **A course that has just been started**: the sounds wait that start by themselves. -/
theorem settled_start (links : List Story.Sound) (ready : world.Ready) :
    Settled links world [] (start links world) := by
  obtain ⟨pending, timers, whole, now, regular, turns⟩ :=
    scheduleAll_eq (SoundChain.roots links) (SoundChain.ofLinks links) world
      (TimerQueue.regular_of_free ready.ordered ready.free)
  have begins : start links world = ⟨⟨links, [], pending⟩, { world with timers }, 0, [], []⟩ := by
    unfold start SoundChain.start
    rw [show (SoundChain.ofLinks links).links = links from rfl, whole]
    rfl
  have cues : (start links world).cues = (SoundChain.roots links).map (⟨·, 0⟩) := by
    rw [begins]
    exact List.append_nil _
  have fresh : ∀ cue ∈ (start links world).cues, ([] : List Nat).length ≤ cue.frame :=
    fun cue _ => Nat.zero_le _
  rw [begins] at cues fresh ⊢
  refine ⟨⟨nofun, List.nodup_nil, ?_, .refl _, (List.append_nil _).symm, (List.append_nil _).symm⟩,
    rfl, rfl, now, rfl, rfl, ready.told, regular, ?_, ?_, nofun, nofun, ?_, ?_⟩
  · rw [due, Frames.passed_eq_nil fresh]
    exact .refl _
  · exact fun playback link => iff_of_false nofun nofun
  · rw [cues]
    refine List.forall_mem_map.mpr fun link root => ⟨SoundChain.lt_of_mem_roots root, Nat.le_refl _⟩
  · rw [waiting, Frames.going_eq_self fresh, cues, List.map_map]
    refine turns.trans (.of_eq ?_)
    rw [TimerQueue.turns_eq_nil ready.free, List.nil_append]
    refine List.map_congr_left fun link _ => ?_
    simp [Frames.ending, SoundChain.ofLinks]
  · rw [show ({ world with timers } : World).audio.voices = [] from ready.silent]
    exact .refl _

/-! ### A frame -/

/-- The sounds whose wait a frame ends. -/
def dueIn (links : List Story.Sound) (spans : List Nat) (span : Nat) (cues : List Cue) : List Cue :=
  Frames.ends Cue.frame (fun cue => waitOf links cue.link) spans span cues

/-- The playings whose clip a frame ends. -/
def overIn (links : List Story.Sound) (audio : Audio) (spans : List Nat) (span : Nat)
    (begun : List Playing) : List Playing :=
  Frames.ends Playing.frame (clipOf links audio) spans span begun

/-- The tasks of a frame are the turns of the sounds whose wait it ends. -/
theorem Settled.tasks (settled : Settled links world spans course) (span : Nat) :
    ((course.world.advanceClock span).1.filterMap Task.link?).Perm
      ((dueIn links spans span course.cues).map Cue.link) := by
  rw [links_advanceClock settled.regular span, settled.timersNow]
  exact Frames.perm_ends settled.waits span

/-- The playings that end in a frame are those whose clip it ends. -/
theorem Settled.ends (settled : Settled links world spans course) (span : Nat) :
    (course.world.audio.update span).finished.Perm
      ((overIn links world.audio spans span course.begun).map Playing.playback) := by
  have ended := Frames.perm_ends settled.sounds span
  rw [List.filter_map, List.map_map, ← settled.audioNow] at ended
  show (course.world.audio.finished ++ _).Perm _
  rw [settled.finished, List.nil_append]
  exact ((List.mergeSort_perm _ _).map Voice.id).trans ended

/-- A playing whose clip has not passed has not ended. -/
theorem Exact.going (exact : Exact links world spans course) {playing : Playing}
    (member : playing ∈ sounding links world.audio spans course.begun) :
    playing.playback ∉ course.ended.map Ending.playback := by
  obtain ⟨begun, none⟩ := List.mem_filter.mp member
  intro ended
  obtain ⟨ending, inside, same⟩ := List.mem_map.mp ended
  have recorded := exact.ended.subset (List.mem_map_of_mem inside)
  obtain ⟨other, known, some⟩ := List.mem_filterMap.mp recorded
  obtain ⟨later, found, whole⟩ := Option.map_eq_some_iff.mp some
  have twin : other.playback = playing.playback := (congrArg Prod.fst whole).trans same
  cases eq_of_playback exact.distinct known begun twin
  rw [found] at none
  exact absurd none Bool.false_ne_true

/-- The playings that have ended were given handles. -/
theorem Settled.issued_ended (settled : Settled links world spans course) :
    ∀ playback ∈ course.ended.map Ending.playback, playback.number ≤ course.world.audio.issued := by
  intro playback member
  obtain ⟨ending, inside, rfl⟩ := List.mem_map.mp member
  have recorded := settled.ended.subset (List.mem_map_of_mem inside)
  obtain ⟨playing, begun, some⟩ := List.mem_filterMap.mp recorded
  obtain ⟨later, _, whole⟩ := Option.map_eq_some_iff.mp some
  have same : playing.playback = ending.playback := congrArg Prod.fst whole
  exact same ▸ settled.issued playing begun

/-- **The two halves of a frame**: the sounds are played whose wait it ends, and the chain is told of
the playings whose clip it ends. -/
theorem Settled.halves (settled : Settled links world spans course) (span : Nat) :
    ∃ middle new finished, Plays (course.lapse span) middle new ∧
      Tells { middle with world := middle.world.takeFinished.2 } (course.pass span) finished ∧
      (new.map Playing.link).Perm ((dueIn links spans span course.cues).map Cue.link) ∧
      finished.Perm ((overIn links world.audio spans span course.begun).map Playing.playback) := by
  have turns := settled.tasks span
  have inside : ∀ link ∈ (course.world.advanceClock span).1.filterMap Task.link?,
      link < (course.lapse span).chain.links.length := by
    intro link member
    obtain ⟨cue, due, rfl⟩ := List.mem_map.mp (turns.subset member)
    have cues := (List.mem_filter.mp (List.mem_filter.mp due).1).1
    exact settled.own ▸ (settled.cues cue cues).1
  obtain ⟨new, same, plays⟩ := plays_performEach _ (course.lapse span) inside
  have finished := settled.ends span
  refine ⟨_, new, (course.world.audio.update span).finished, plays, ?_, same ▸ turns, finished⟩
  have passes : course.pass span = (course.world.audio.update span).finished.foldl finish
      { (course.world.advanceClock span).1.foldl perform (course.lapse span) with
        world := ((course.world.advanceClock span).1.foldl perform
          (course.lapse span)).world.takeFinished.2 } :=
    congrArg (List.foldl finish _) plays.finished
  have ended : ∀ playback ∈ (course.world.audio.update span).finished,
      ∃ playing ∈ course.begun, playing.playback = playback ∧
        playback ∉ course.ended.map Ending.playback := by
    intro playback member
    obtain ⟨playing, elapsed, rfl⟩ := List.mem_map.mp (finished.subset member)
    have going := (List.mem_filter.mp elapsed).1
    exact ⟨playing, (List.mem_filter.mp going).1, rfl, settled.going going⟩
  have old : ∀ playback ∈ course.ended.map Ending.playback,
      playback.number ≤ course.world.audio.issued := settled.issued_ended
  rw [passes]
  -- what ends had begun before this frame, and none of it has been told before
  refine tells_finishEach _ ?_ ?_ ?_ ?_ fun playback member => ?_
  · exact plays.timers ▸ TimerQueue.regular_advance settled.regular span
  · refine plays.heeds settled.heeds fun playing member told => ?_
    exact Nat.not_lt_of_le (old _ told) (plays.fresh playing member)
  · exact plays.distinct settled.distinct settled.issued
  · refine finished.nodup_iff.mpr (settled.distinct.sublist (List.Sublist.map _ ?_))
    exact List.filter_sublist.trans List.filter_sublist
  · obtain ⟨playing, begun, rfl, going⟩ := ended playback member
    refine ⟨List.mem_map_of_mem ?_, ?_⟩
    · show playing ∈ Course.begun _
      rw [plays.begun]
      exact List.mem_append_left _ begun
    · show playing.playback ∉ List.map _ (Course.ended _)
      rw [plays.ended]
      exact going

/-! ### What a frame adds -/

/-- The followers of a playing that had begun before are the same. -/
theorem followers_append {before after : Course} {new : List Playing} {playback : PlaybackId}
    (links : after.chain.links = before.chain.links) (begun : after.begun = before.begun ++ new)
    (other : ∀ playing ∈ new, playing.playback ≠ playback) :
    after.followers playback = before.followers playback := by
  have none : (new.filter fun playing => playing.playback = playback) = [] :=
    List.filter_eq_nil_iff.mpr fun playing member same =>
      other playing member (of_decide_eq_true same)
  rw [followers, followers, begun, links, List.filter_append, none, List.append_nil]

/-- **The cues of a frame** are those that the ends give which are told in it. -/
theorem cues_append {before after : Course} {new : List Playing} {ended : List Ending}
    (links : after.chain.links = before.chain.links) (begun : after.begun = before.begun ++ new)
    (told : after.ended = before.ended ++ ended)
    (other : ∀ playing ∈ new, playing.playback ∉ before.ended.map Ending.playback) :
    after.cues = before.cues ++ ended.flatMap fun ending =>
      (after.followers ending.playback).map (⟨·, ending.frame⟩) := by
  have same : ∀ ending ∈ before.ended, (after.followers ending.playback).map (Cue.mk · ending.frame) =
      (before.followers ending.playback).map (Cue.mk · ending.frame) := by
    intro ending member
    rw [followers_append links begun fun playing inside equal =>
      other playing inside (equal ▸ List.mem_map_of_mem member)]
  rw [cues, cues, links, told, List.flatMap_append, List.flatMap_congr same, List.append_assoc]

/-- What a frame adds to the record of a course. -/
structure Adds (before after : Course) (frame : Nat) (new : List Playing) (finished : List PlaybackId)
    (later : List Cue) : Prop where
  begun : after.begun = before.begun ++ new
  ended : after.ended = before.ended ++ finished.map fun playback => ⟨playback, frame⟩
  cues : after.cues = before.cues ++ later
  later : later = (finished.flatMap after.followers).map (⟨·, frame⟩)
  frames : ∀ playing ∈ new, playing.frame = frame

theorem Adds.frame_later {before after : Course} {frame : Nat} {new : List Playing}
    {finished : List PlaybackId} {later : List Cue} (adds : Adds before after frame new finished later) :
    ∀ cue ∈ later, cue.link < after.chain.links.length ∧ cue.frame = frame := by
  rw [adds.later]
  refine List.forall_mem_map.mpr fun link follows => ⟨?_, rfl⟩
  obtain ⟨playback, _, follows⟩ := List.mem_flatMap.mp follows
  obtain ⟨playing, _, follows⟩ := List.mem_flatMap.mp follows
  exact SoundChain.lt_of_mem_successors follows

/-- The two halves of a frame add to the record what is played and what has ended. -/
theorem Settled.adds (settled : Settled links world spans course) {span : Nat} {middle : Course}
    {new : List Playing} {finished : List PlaybackId} (plays : Plays (course.lapse span) middle new)
    (tells : Tells { middle with world := middle.world.takeFinished.2 } (course.pass span) finished) :
    ∃ later, Adds course (course.pass span) (spans.length + 1) new finished later := by
  have links : (course.pass span).chain.links = course.chain.links := tells.links.trans plays.links
  have begun : (course.pass span).begun = course.begun ++ new := tells.begun.trans plays.begun
  have now : (course.lapse span).frame = spans.length + 1 := congrArg (· + 1) settled.frame
  have ended : (course.pass span).ended =
      course.ended ++ finished.map fun playback => ⟨playback, spans.length + 1⟩ := by
    rw [tells.ended]
    show middle.ended ++ finished.map (fun playback => ⟨playback, middle.frame⟩) = _
    rw [plays.ended, plays.frame, now]
    rfl
  have fresh : ∀ playing ∈ new, playing.playback ∉ course.ended.map Ending.playback :=
    fun playing member told =>
      Nat.not_lt_of_le (settled.issued_ended _ told) (plays.fresh playing member)
  refine ⟨_, begun, ended, cues_append links begun ended fresh, ?_, fun playing member => ?_⟩
  · rw [List.flatMap_map, List.map_flatMap]
  · exact (plays.frames playing member).trans now

/-- After a frame those sounds wait whose wait it does not end, and those that follow what has
ended. -/
theorem Settled.waits_pass (settled : Settled links world spans course) {span : Nat} {middle : Course}
    {new : List Playing} {finished : List PlaybackId} {later : List Cue}
    (plays : Plays (course.lapse span) middle new)
    (tells : Tells { middle with world := middle.world.takeFinished.2 } (course.pass span) finished)
    (adds : Adds course (course.pass span) (spans.length + 1) new finished later) :
    (course.pass span).world.timers.turns.Perm
      ((waiting links (spans ++ [span]) (course.pass span).cues).map fun cue => (cue.link,
        world.timers.now + (Frames.ending (spans ++ [span]) cue.frame + waitOf links cue.link))) := by
  have followers : Course.followers { middle with world := middle.world.takeFinished.2 } =
      (course.pass span).followers := by
    funext playback
    rw [Course.followers, Course.followers, tells.begun, tells.links]
  have oldCues : ∀ cue ∈ course.cues, cue.frame ≤ spans.length := fun cue member =>
    (settled.cues cue member).2
  have waits := Frames.perm_going settled.waits oldCues span fun cue member =>
    (adds.frame_later cue member).2
  rw [adds.cues]
  refine tells.turns.trans (.trans (.of_eq ?_) waits)
  show middle.world.timers.turns ++ _ = _
  refine congrArg₂ (· ++ ·) ?_ ?_
  · rw [plays.timers]
    exact settled.timersNow ▸ TimerQueue.turns_advance settled.regular span
  · rw [followers, adds.later, List.map_map]
    refine List.map_congr_left fun link _ => ?_
    show (link, middle.world.timers.now + waitOf middle.chain.links link) =
      (link, world.timers.now + spans.sum + span + waitOf links link)
    rw [plays.timers, plays.links, ← settled.timersNow, ← settled.own]
    rfl

/-- After a frame those playings sound whose clip it does not end, and those that begin in it. -/
theorem Settled.sounds_pass (settled : Settled links world spans course) {span : Nat}
    {middle : Course} {new : List Playing} {finished : List PlaybackId} {later : List Cue}
    (plays : Plays (course.lapse span) middle new)
    (tells : Tells { middle with world := middle.world.takeFinished.2 } (course.pass span) finished)
    (adds : Adds course (course.pass span) (spans.length + 1) new finished later) :
    ((course.pass span).world.audio.voices.map fun voice => (voice.id, voice.ending)).Perm
      ((sounding links world.audio (spans ++ [span]) (course.pass span).begun).map fun playing =>
        (playing.playback, world.audio.now +
          (Frames.ending (spans ++ [span]) playing.frame + clipOf links world.audio playing))) := by
  have sounds := Frames.perm_going settled.sounds settled.frames span adds.frames
  rw [adds.begun, tells.audio]
  show (middle.world.audio.voices.map _).Perm _
  rw [plays.voices, List.map_append, List.map_map]
  refine .trans (.of_eq (congrArg₂ (· ++ ·) ?_ ?_)) sounds
  · rw [List.filter_map, ← settled.audioNow]
    refine congrArg (List.map _) (List.filter_congr fun voice _ => ?_)
    rw [Function.comp_apply, ← decide_not]
    exact decide_eq_decide.mpr Nat.not_le.symm
  · refine List.map_congr_left fun playing _ => ?_
    show (playing.playback, course.world.audio.now + span +
      course.world.audio.clip (fileOf course.chain.links playing.link)) = _
    rw [settled.audioNow, settled.clip, settled.own, clipOf]

/-- **What one frame keeps**, for every span. -/
theorem Settled.pass (settled : Settled links world spans course) (span : Nat) :
    Settled links world (spans ++ [span]) (course.pass span) := by
  obtain ⟨middle, new, finished, plays, tells, turns, ends⟩ := settled.halves span
  obtain ⟨later, adds⟩ := settled.adds plays tells
  have own : (course.pass span).chain.links = links :=
    (tells.links.trans plays.links).trans settled.own
  have length : (spans ++ [span]).length = spans.length + 1 := List.length_append
  have oldCues : ∀ cue ∈ course.cues, cue.frame ≤ spans.length := fun cue member =>
    (settled.cues cue member).2
  have newCues := adds.frame_later
  have instant : (course.lapse span).world.audio.now = world.audio.now + spans.sum + span :=
    congrArg (· + span) settled.audioNow
  have starts : ∀ playing ∈ new, playing.link < links.length := by
    intro playing member
    obtain ⟨cue, due, link⟩ := List.mem_map.mp (turns.subset (List.mem_map_of_mem member))
    have cues := (List.mem_filter.mp (List.mem_filter.mp due).1).1
    exact link ▸ (settled.cues cue cues).1
  exact {
    known := adds.begun ▸ List.forall_mem_append.mpr ⟨settled.known, starts⟩
    distinct := tells.begun ▸ plays.distinct settled.distinct settled.issued
    begun := by
      have both := turns.map fun link => (link, spans.length + 1)
      rw [List.map_map, List.map_map] at both
      have now : (new.map fun playing => (playing.link, playing.frame)) =
          new.map fun playing => (playing.link, spans.length + 1) :=
        List.map_congr_left fun playing member =>
          congrArg (Prod.mk playing.link) (adds.frames playing member)
      rw [adds.begun, adds.cues, List.map_append, now]
      exact (settled.begun.append both).trans
        (Frames.passed_grow oldCues fun cue member => (newCues cue member).2).symm
    ended := by
      have both := ends.map fun playback => (playback, spans.length + 1)
      rw [List.map_map] at both
      rw [adds.ended, adds.begun, List.map_append, List.map_map]
      exact (settled.ended.append both).trans (Frames.passed_grow settled.frames adds.frames).symm
    plays := by
      rw [tells.audio]
      show middle.world.audio.plays.toList = _
      rw [plays.plays, adds.begun, List.map_append, ← List.append_assoc]
      refine congrArg₂ (· ++ ·) (settled.plays.trans (congrArg _ ?_)) ?_
      · refine List.map_congr_left fun playing member => ?_
        rw [Frames.ending_append (settled.frames playing member)]
      · refine List.map_congr_left fun playing member => ?_
        rw [adds.frames playing member, Frames.ending_last, instant, Nat.add_assoc]
        exact congrArg (Play.mk _ <| fileOf · playing.link) settled.own
    events := by
      rw [tells.events]
      show middle.world.events.toList = _
      rw [plays.events, adds.begun, List.map_append, ← List.append_assoc]
      refine congrArg₂ (· ++ ·) settled.events (List.map_congr_left fun playing _ => ?_)
      exact congrArg (Event.soundStarted <| fileOf · playing.link) settled.own ▸ rfl
    own
    frame := by
      rw [tells.frame]
      show middle.frame = _
      rw [plays.frame, length]
      exact congrArg (· + 1) settled.frame
    timersNow := by
      rw [tells.now]
      show middle.world.timers.now = _
      rw [plays.timers, List.sum_append, List.sum_singleton, ← Nat.add_assoc]
      exact congrArg (· + span) settled.timersNow
    audioNow := by
      rw [tells.audio]
      show middle.world.audio.now = _
      rw [plays.now, instant, List.sum_append, List.sum_singleton, Nat.add_assoc]
    clip := by
      rw [tells.audio]
      exact plays.clip.trans settled.clip
    finished := by
      rw [tells.audio]
      rfl
    regular := tells.regular
    heeds := tells.heeds
    cues := by
      rw [adds.cues, length]
      refine List.forall_mem_append.mpr ⟨fun cue member => ?_, fun cue member => ?_⟩
      · exact ⟨(settled.cues cue member).1, Nat.le_succ_of_le (oldCues cue member)⟩
      · exact ⟨own ▸ (newCues cue member).1, Nat.le_of_eq (newCues cue member).2⟩
    frames := by
      rw [adds.begun, length]
      refine List.forall_mem_append.mpr ⟨fun playing member => ?_, fun playing member => ?_⟩
      · exact Nat.le_succ_of_le (settled.frames playing member)
      · exact Nat.le_of_eq (adds.frames playing member)
    issued := by
      rw [adds.begun, tells.audio]
      show ∀ playing ∈ course.begun ++ new, _ ≤ middle.world.audio.issued
      rw [plays.issued]
      refine List.forall_mem_append.mpr ⟨fun playing member => ?_, fun playing member => ?_⟩
      · exact Nat.le_add_right_of_le (settled.issued playing member)
      · exact plays.le_issued playing member
    waits := settled.waits_pass plays tells adds
    sounds := settled.sounds_pass plays tells adds }

/-! ### Every course -/

/-- **Every course keeps what holds between its frames**, however time is cut into frames. -/
theorem settled_run (links : List Story.Sound) (ready : world.Ready) (spans : List Nat) :
    Settled links world spans (run links world spans) := by
  induction spans using List.reverseRecOn with
  | nil => exact settled_start links ready
  | append_singleton spans span ih =>
    have last : run links world (spans ++ [span]) = (run links world spans).pass span := by
      rw [run, List.foldl_append]
      rfl
    exact last ▸ ih.pass span

/-- **The sounds of a chain follow each other exactly**: for every list of sounds, and however time is
cut into frames, a sound is played once for each of its cues and when its wait has passed, and every
playing ends once and when its clip has passed. -/
theorem exact_run (links : List Story.Sound) (world : World) (ready : world.Ready)
    (spans : List Nat) : Exact links world spans (run links world spans) :=
  (settled_run links ready spans).toExact

/-- A bell that is followed by two echoes, of which the first is followed by the bell again. -/
def bells : List Story.Sound :=
  [⟨some "bell", "bell.mp3", 1, some 100, some "echo"⟩,
   ⟨some "echo", "bell.mp3", 1, none, some "bell"⟩,
   ⟨some "echo", "drum.mp3", 1, some 250, none⟩]

/-- A world that is silent. -/
def hall : World :=
  .initial ⟨800, 600⟩ ⟨[]⟩ (.silent (Span.millis 500) [("bell.mp3", Span.millis 1000)])

/-- Eight frames, in which the bell is played, then the echoes in turn, and then the bell again. -/
theorem exact_bells :
    let spans := [60, 60, 1000, 10, 250, 740, 110, 110].map Span.millis
    hall.Ready ∧ Exact bells hall spans (run bells hall spans) ∧
      ((run bells hall spans).begun.map fun playing => (playing.link, playing.frame)) =
        [(0, 2), (1, 4), (2, 5), (0, 8)] := by
  have ready : hall.Ready := ⟨.nil, nofun, rfl, rfl⟩
  exact ⟨ready, exact_run bells hall ready _, by decide +kernel⟩

end Course

end Storybook
