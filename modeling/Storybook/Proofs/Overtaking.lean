/-
**Motions that are overtaken.**

A character that appears again calls its moves off, but a timer that has become due in the same frame
is out of the queue by then, and its task is done all the same: it starts a motion of a sprite that is
gone, which ends with the frame. That is the only way in which a motion is ever registered whose sprite
is gone, as long as no sprite is taken away from outside, and the only way in which anything but a fade
ends.

* `Player.Overtakes`: a frame in which this happens;
* `Player.isLive_startMotion_iff`: one task;
* `Player.allLive_during_iff`, `Player.onlyFades_frame_iff`: one frame;
* `Player.stays_cancelled_iff`: a whole run.

This can happen: a timer of a move and the timer that lets its character appear again need only be due
in the same frame (`Player.overtaken_cat`).
-/

import Storybook.Proofs.Holding.Quiet

namespace Storybook

/-- The sprites of all motions are on the stage. -/
def World.AllLive (world : World) : Prop :=
  ∀ entry ∈ world.animator.entries, world.stage.isLive entry.2.sprite = true

/-- All motions that were reported to have ended are fades. -/
def World.OnlyFades (world : World) : Prop :=
  ∀ sprite kind, .motionFinished sprite kind ∈ world.events → kind = .fade

theorem World.Quiet.onlyFades_iff {before after : World} (quiet : before.Quiet after) :
    after.OnlyFades ↔ before.OnlyFades := by
  constructor
  · exact fun fades sprite kind ended => fades sprite kind (quiet.mono ended)
  · intro fades sprite kind ended
    exact fades sprite kind ((quiet.mem ended).resolve_right fun other => other trivial)

namespace Scene

variable {loose : List Loose} {first scene : Scene} {done : List Task} {world : World}

/-- While nothing is lost, the sprites of all places are there. -/
theorem Kept.live (kept : scene.Kept .inside loose world) {holding : Holding}
    (place : holding ∈ scene.holdings) : holding.motion.sprite ∈ world.stage.keys := by
  obtain ⟨character, member, holds⟩ := List.mem_flatMap.mp place
  have stands := (kept.coherent character member).sprite holds
  refine (kept.kept.there _ ?_).resolve_right fun lost => nomatch lost
  refine List.mem_append_right _ (List.mem_flatMap.mpr ⟨character, member, ?_⟩)
  exact Option.mem_toList.mpr stands

/-- In the middle of a frame, a motion whose sprite is gone is one that was overtaken. -/
theorem Midway.live_or_overtaken (midway : Midway .inside first done loose scene world)
    {entry : TickId × Motion} (member : entry ∈ world.animator.entries) :
    entry.2.sprite ∈ world.stage.keys ∨ first.Overtaken done entry.1 entry.2 := by
  rcases midway.kept.kept.held.motions entry member with stray | ⟨holding, place, _, moves⟩
  · exact Or.inr ((midway.overtaken _ _).mp stray)
  · have live := midway.kept.live place
    rw [moves, Motion.sprite_atRest] at live
    exact Or.inl live

/-- A motion that was overtaken is registered, and its sprite is gone. -/
theorem Midway.strays (midway : Midway .inside first done loose scene world) {tick : TickId}
    {motion : Motion} (overtaken : first.Overtaken done tick motion) :
    (tick, motion) ∈ world.animator.entries ∧ motion.sprite ∉ world.stage.keys := by
  have stray := (midway.overtaken tick motion).mpr overtaken
  exact ⟨midway.kept.kept.held.strays _ stray motion rfl, (midway.gone _ stray motion rfl).absent⟩

theorem Midway.allLive_iff (midway : Midway .inside first done loose scene world) :
    world.AllLive ↔ ¬ ∃ tick motion, first.Overtaken done tick motion := by
  constructor
  · rintro live ⟨tick, motion, overtaken⟩
    obtain ⟨registered, gone⟩ := midway.strays overtaken
    exact gone (Stage.isLive_iff.mp (live _ registered))
  · intro none entry member
    refine Stage.isLive_iff.mpr ((midway.live_or_overtaken member).resolve_right fun overtaken => ?_)
    exact none ⟨entry.1, entry.2, overtaken⟩

/-- What is overtaken stays so when further tasks are done. -/
theorem Overtaken.append {tick : TickId} {motion : Motion} (overtaken : first.Overtaken done tick motion)
    (rest : List Task) : first.Overtaken (done ++ rest) tick motion := by
  obtain ⟨before, after, rfl, overtakes⟩ := overtaken
  exact ⟨before, after ++ rest, by rw [List.append_assoc, List.cons_append], overtakes⟩

/-- **When a motion is to be started, its sprite is there, if the motion is not overtaken.** -/
theorem Midway.isLive_iff (midway : Midway .inside first done loose scene world)
    (settled : first.Settled) {tick : TickId} {motion : Motion}
    (fits : first.Fits (.startMotion tick motion)) :
    world.stage.isLive motion.sprite = true ↔ ¬ first.Overtakes done motion := by
  obtain ⟨character, member, timer, holds⟩ := fits tick motion rfl
  rw [Stage.isLive_iff]
  by_cases again : .retrigger character.id ∈ done
  · have absent := (midway.again character member again _ holds).1.absent
    exact iff_of_false absent (not_not_intro (settled.overtakes member holds again))
  · have there : character ∈ scene.characters := mem_of_character?
      ((midway.same character.id again).trans (settled.numbered.found member))
    have live := midway.kept.live (List.mem_flatMap.mpr ⟨character, there, holds⟩)
    exact iff_of_true live fun overtakes => again (settled.again member holds overtakes)

/-- What is overtaken is a drift. -/
theorem Overtaken.kind {tick : TickId} {motion : Motion} (overtaken : first.Overtaken done tick motion)
    (fits : ∀ task ∈ done, first.Fits task) : motion.kind = .drift := by
  obtain ⟨before, after, rfl, _⟩ := overtaken
  obtain ⟨character, _, timer, holds⟩ :=
    fits _ (List.mem_append_right _ List.mem_cons_self) tick motion rfl
  obtain ⟨_, _, _, rfl, _⟩ := character.pending_of_waits holds
  rfl

/-- **When the motions move, fades end only, if no motion was overtaken.** -/
theorem Midway.onlyFades_tick_iff (midway : Midway .inside first done loose scene world)
    (fits : ∀ task ∈ done, first.Fits task) (span : Nat) :
    (world.tick span).OnlyFades ↔
      world.OnlyFades ∧ ¬ ∃ tick motion, first.Overtaken done tick motion := by
  constructor
  · intro fades
    refine ⟨fun sprite kind ended => fades sprite kind (World.mem_events_tick.mpr (Or.inl ended)), ?_⟩
    rintro ⟨tick, motion, overtaken⟩
    obtain ⟨registered, gone⟩ := midway.strays overtaken
    have ended : (tick, motion) ∈ (Animator.steps (Span.frames span)
        world.animator.entries world.stage).finished := Animator.finished_of_gone registered gone
    have fade := fades motion.sprite motion.kind
      (World.mem_events_tick.mpr (Or.inr ⟨_, ended, rfl, rfl⟩))
    cases (overtaken.kind fits).symm.trans fade
  · rintro ⟨fades, none⟩ sprite kind ended
    rcases World.mem_events_tick.mp ended with old | ⟨entry, finished, rfl, rfl⟩
    · exact fades sprite kind old
    · obtain ⟨old, member, _, rests, reason⟩ := Animator.mem_finished finished
      refine reason.resolve_left fun gone => ?_
      rcases midway.live_or_overtaken member with live | overtaken
      · exact gone (Motion.sprite_of_atRest rests ▸ live)
      · exact none ⟨_, _, overtaken⟩

end Scene

namespace Player

variable {player : Player}

/-- In a frame, the start of a motion is due after its character has appeared again. -/
def Overtakes (player : Player) (span : Nat) : Prop :=
  ∃ scene, player.scene = some scene ∧
    ∃ tick motion, scene.Overtaken (player.due span) tick motion

/-! ### One frame -/

/-- A motion that a frame starts has its sprite then, if it is not overtaken. -/
theorem isLive_startMotion_iff (kept : player.Kept .inside) {scene : Scene}
    (current : player.scene = some scene) {span : Nat} {done rest : List Task} {tick : TickId}
    {motion : Motion} (split : player.due span = done ++ .startMotion tick motion :: rest) :
    (player.during span done).world.stage.isLive motion.sprite = true ↔
      ¬ scene.Overtakes done motion := by
  cases kept with
  | waiting waits plain => cases current.symm.trans waits.scene
  | playing other shows active kept =>
    cases shows.current.symm.trans current
    have fits : ∀ task ∈ player.due span, scene.Fits task := fun _ => kept.fits
    rw [split] at fits
    obtain ⟨head, tail⟩ := List.forall_mem_append.mp fits
    obtain ⟨_, _, _, midway⟩ := midway_during shows active kept span head
    exact midway.isLive_iff kept.settled (List.forall_mem_cons.mp tail).1

/-- **In the middle of a frame all motions have their sprites, if none of the tasks is overtaken.** -/
theorem allLive_during_iff (kept : player.Kept .inside) (span : Nat) :
    (∀ done rest, player.due span = done ++ rest → (player.during span done).world.AllLive) ↔
      ¬ player.Overtakes span := by
  cases kept with
  | waiting waits plain =>
    refine iff_of_true (fun done rest split => ?_) ?_
    · rw [due_of_waits waits] at split
      obtain ⟨rfl, rfl⟩ := List.append_eq_nil_iff.mp split.symm
      intro entry (member : entry ∈ player.world.animator.entries)
      rw [waits.kept.held.entries_eq_nil] at member
      cases member
    · rintro ⟨scene, current, _⟩
      cases current.symm.trans waits.scene
  | playing scene shows active kept =>
    have midway : ∀ done rest, player.due span = done ++ rest →
        (player.during span done).Midway .inside scene done := by
      intro done rest split
      refine midway_during shows active kept span fun task member => ?_
      have due : task ∈ player.due span := split ▸ List.mem_append_left _ member
      exact kept.fits due
    constructor
    · rintro live ⟨current, same, tick, motion, overtaken⟩
      cases same.symm.trans shows.current
      have whole := (List.append_nil (player.due span)).symm
      obtain ⟨_, _, _, midway⟩ := midway _ _ whole
      exact midway.allLive_iff.mp (live _ _ whole) ⟨tick, motion, overtaken⟩
    · intro none done rest split
      obtain ⟨_, _, _, midway⟩ := midway done rest split
      refine midway.allLive_iff.mpr fun ⟨tick, motion, overtaken⟩ => none ?_
      exact ⟨scene, shows.current, tick, motion, split ▸ overtaken.append rest⟩

/-- Where everything is held, only fades end. -/
theorem onlyFades_tick_iff (kept : player.Kept .inside) (span : Nat) :
    (player.world.tick span).OnlyFades ↔ player.world.OnlyFades := by
  cases kept with
  | waiting waits plain =>
    refine forall₂_congr fun sprite kind => imp_congr_left ?_
    rw [World.mem_events_tick, waits.kept.held.entries_eq_nil]
    exact or_iff_left fun ⟨_, finished, _⟩ => nomatch finished
  | playing scene shows active kept =>
    rw [(Scene.Midway.start kept active).onlyFades_tick_iff (fun _ none => nomatch none)]
    exact and_iff_left fun ⟨_, _, overtaken⟩ => Scene.overtaken_nil overtaken

/-- **A frame ends fades only, if none of its tasks is overtaken.** -/
theorem onlyFades_frame_iff (kept : player.Kept .inside) (span : Nat) :
    (player.frame span).world.OnlyFades ↔
      player.world.OnlyFades ∧ ¬ player.Overtakes span := by
  rw [← (quiet_beforeMotions kept span).onlyFades_iff]
  show ((player.beforeMotions span).world.tick span).OnlyFades ↔ _
  unfold beforeMotions
  cases kept with
  | waiting waits plain =>
    rw [onlyFades_tick_iff (kept_afterPlaybacks waits plain span _)]
    refine (and_iff_left ?_).symm
    rintro ⟨scene, current, _⟩
    cases current.symm.trans waits.scene
  | playing scene shows active kept =>
    obtain ⟨_, _, _, midway⟩ := midway_afterPlaybacks shows active kept span (player.ended span)
    rw [midway.onlyFades_tick_iff (fun _ => kept.fits) span]
    refine and_congr_right fun _ => not_congr ⟨?_, ?_⟩
    · exact fun overtaken => ⟨scene, shows.current, overtaken⟩
    · rintro ⟨current, same, overtaken⟩
      cases same.symm.trans shows.current
      exact overtaken

/-! ### A whole run -/

/-- In a run there is a frame in which the start of a motion is overtaken. -/
def EverOvertakes (player : Player) (operations : List Operation) : Prop :=
  ∃ earlier span later, operations = earlier ++ .frame span :: later ∧
    (player.run earlier).Overtakes span

theorem everOvertakes_cons {operation : Operation} {rest : List Operation} :
    player.EverOvertakes (operation :: rest) ↔
      (∃ span, operation = .frame span ∧ player.Overtakes span) ∨
        (player.perform operation).EverOvertakes rest := by
  constructor
  · rintro ⟨earlier, span, later, split, overtakes⟩
    cases earlier with
    | nil =>
      cases split
      exact Or.inl ⟨span, rfl, overtakes⟩
    | cons first earlier =>
      cases split
      exact Or.inr ⟨earlier, span, later, rfl, overtakes⟩
  · rintro (⟨span, rfl, overtakes⟩ | ⟨earlier, span, later, rfl, overtakes⟩)
    · exact ⟨[], span, rest, rfl, overtakes⟩
    · exact ⟨operation :: earlier, span, later, rfl, overtakes⟩

theorem onlyFades_perform_iff (kept : player.Kept .inside) (operation : Operation) :
    (player.perform operation).world.OnlyFades ↔
      player.world.OnlyFades ∧ ¬ ∃ span, operation = .frame span ∧ player.Overtakes span := by
  by_cases frame : ∃ span, operation = .frame span
  · obtain ⟨span, rfl⟩ := frame
    refine (onlyFades_frame_iff kept span).trans (and_congr_right fun _ => not_congr ⟨?_, ?_⟩)
    · exact fun overtakes => ⟨span, rfl, overtakes⟩
    · rintro ⟨_, same, overtakes⟩
      cases same
      exact overtakes
  · rw [(quiet_perform fun span same => frame ⟨span, same⟩).onlyFades_iff]
    exact (and_iff_left fun ⟨span, same, _⟩ => frame ⟨span, same⟩).symm

theorem onlyFades_run_iff (operations : List Operation)
    (inside : ∀ sprite, .destroy sprite ∉ operations) :
    ∀ {player : Player}, player.Kept .inside →
      ((player.run operations).world.OnlyFades ↔
        player.world.OnlyFades ∧ ¬ player.EverOvertakes operations) := by
  induction operations with
  | nil =>
    intro player kept
    refine (and_iff_left ?_).symm
    rintro ⟨earlier, span, later, split, _⟩
    cases List.append_eq_nil_iff.mp split.symm |>.2
  | cons operation rest ih =>
    intro player kept
    have next : (player.perform operation).Kept .inside :=
      kept_perform kept (losesOnly_inside inside player List.mem_cons_self)
    have later := ih (fun sprite member => inside sprite (List.mem_cons_of_mem _ member)) next
    rw [everOvertakes_cons, not_or, ← and_assoc, ← onlyFades_perform_iff kept]
    exact later

/-- All motions have their sprites, between the operations of a run and in the middle of its
frames. -/
def AlwaysLive (player : Player) (operations : List Operation) : Prop :=
  ∀ earlier later, operations = earlier ++ later →
    (player.run earlier).world.AllLive ∧
      ∀ span rest, later = .frame span :: rest → ∀ done todo,
        (player.run earlier).due span = done ++ todo →
          ((player.run earlier).during span done).world.AllLive

/-- Between operations all motions have their sprites. -/
theorem Kept.allLive (kept : player.Kept .inside) : player.world.AllLive := by
  cases kept with
  | waiting waits plain =>
    intro entry member
    rw [waits.kept.held.entries_eq_nil] at member
    cases member
  | playing scene shows active kept =>
    exact (Scene.Midway.start kept active).allLive_iff.mpr
      fun ⟨_, _, overtaken⟩ => Scene.overtaken_nil overtaken

theorem alwaysLive_iff {operations : List Operation}
    (kept : ∀ earlier later, operations = earlier ++ later → (player.run earlier).Kept .inside) :
    player.AlwaysLive operations ↔ ¬ player.EverOvertakes operations := by
  constructor
  · rintro live ⟨earlier, span, later, split, overtakes⟩
    refine (allLive_during_iff (kept _ _ split) span).mp (fun done rest due => ?_) overtakes
    exact (live _ _ split).2 span later rfl done rest due
  · intro none earlier later split
    refine ⟨(kept _ _ split).allLive, ?_⟩
    rintro span rest rfl
    exact (allLive_during_iff (kept _ _ split) span).mpr
      fun overtakes => none ⟨earlier, span, rest, split, overtakes⟩

/-- **What is cancelled stays cancelled, unless its timer is due in the same frame**, as long as no
sprite is taken away from outside. All motions always have their sprites, and only fades are ever
reported to have ended, exactly if no frame of the run overtakes the start of a motion; and a motion
that a frame starts has its sprite exactly if its character has not appeared again earlier in the
frame. -/
theorem stays_cancelled_iff (document : Story.Document) (resources : Asset.Resources) (audio : Audio)
    (viewport : Viewport) (options : SceneOptions) (operations : List Operation)
    (inside : ∀ sprite, .destroy sprite ∉ operations) :
    let player := ofResources document resources audio viewport options
    (player.AlwaysLive operations ↔ ¬ player.EverOvertakes operations) ∧
      ((player.run operations).world.OnlyFades ↔ ¬ player.EverOvertakes operations) ∧
        ∀ earlier span later scene done tick motion rest,
          operations = earlier ++ .frame span :: later →
          (player.run earlier).scene = some scene →
          (player.run earlier).due span = done ++ .startMotion tick motion :: rest →
            (((player.run earlier).during span done).world.stage.isLive motion.sprite = true ↔
              ¬ scene.Overtakes done motion) := by
  intro player
  have begins : player.Kept .inside := kept_ofResources document resources audio viewport options
  have kept : ∀ earlier later, operations = earlier ++ later → (player.run earlier).Kept .inside := by
    rintro earlier later rfl
    have before : ∀ sprite, .destroy sprite ∉ earlier := fun sprite member =>
      inside sprite (List.mem_append_left _ member)
    exact kept_run_inside before begins
  have silent : player.world.OnlyFades := by
    intro sprite kind ended
    cases List.mem_singleton.mp (Array.mem_toList_iff.mpr ended)
  refine ⟨alwaysLive_iff kept, ?_, ?_⟩
  · exact (onlyFades_run_iff operations inside begins).trans (and_iff_right silent)
  · intro earlier span later scene done tick motion rest split current due
    exact isLive_startMotion_iff (kept _ _ split) current due

/-! ### A motion that is overtaken -/

/-- A story with a cat that moves one and a half seconds after it has appeared. -/
def catStory : Story.Document where
  style := .standard
  splash := ⟨"s.png", "s.mp3"⟩
  start := "room"
  scenes :=
    [("room", ⟨"bg.png", [],
      [⟨"Cat", "cat.png", ⟨10, 20⟩, none, [("onload", [.move 1 .right (some 1500)])]⟩]⟩)]

/-- A player of that story, where the cat appears again each second. -/
def restlessCat : Player :=
  ofResources catStory ⟨[("cat.png", .texture ⟨64, 64⟩)]⟩ (.silent 3000000000 []) ⟨800, 600⟩
    ⟨some "Cat", 1000, 100⟩

/-- Its scene is entered, and the frame ends when the move is to start. -/
def catVisit : List Operation :=
  [.enterScene "room", .frame 1500000000]

/-- The move is overtaken. -/
theorem everOvertakes_restlessCat : restlessCat.EverOvertakes catVisit := by
  refine ⟨[.enterScene "room"], 1500000000, [], rfl, ?_⟩
  refine ⟨(restlessCat.run [.enterScene "room"]).scene.get (by decide +kernel),
    (Option.some_get _).symm, ⟨1⟩, .drift ⟨1⟩ 1, [.retrigger ⟨0⟩], [], by decide +kernel, ?_⟩
  unfold Scene.Overtakes
  decide +kernel

/-- So there is a motion without its sprite, and a drift is reported to have ended. -/
theorem overtaken_cat :
    (∀ sprite, .destroy sprite ∉ catVisit) ∧ ¬ restlessCat.AlwaysLive catVisit ∧
      ¬ (restlessCat.run catVisit).world.OnlyFades := by
  have inside : ∀ sprite, .destroy sprite ∉ catVisit := by
    simp [catVisit]
  obtain ⟨live, fades, _⟩ := stays_cancelled_iff catStory ⟨[("cat.png", .texture ⟨64, 64⟩)]⟩
    (.silent 3000000000 []) ⟨800, 600⟩ ⟨some "Cat", 1000, 100⟩ catVisit inside
  exact ⟨inside, fun always => live.mp always everOvertakes_restlessCat,
    fun only => fades.mp only everOvertakes_restlessCat⟩

end Player

end Storybook
