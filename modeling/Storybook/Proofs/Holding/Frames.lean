/-
**In the middle of a frame.**

All timers that are due have left the queue before the first of their tasks is done. So a character
may appear again, and give everything up, while a task that is still to be done starts a motion of
what it was before. Such a motion is overtaken: its sprite is gone, and it strays until the end of
the frame.

* `Scene.Overtaken`: which motions are overtaken;
* `Scene.Midway`: what holds after some of the tasks are done, with the strays so far;
* `Scene.Midway.startMotion`, `Scene.Midway.retrigger`, `Scene.Midway.playSound`: one more task.
-/

import Storybook.Play.Player
import Storybook.Proofs.Holding.Scenes

namespace Storybook

/-- What waits for a timer is a move that is pending. -/
theorem Effect.pending_of_waits {effect : Effect} {tick : TickId} {motion : Motion}
    {timer : TimerId} (holds : effect.holding? = some ⟨tick, motion, some timer⟩) :
    ∃ sprite velocity pause, motion = .drift sprite velocity ∧
      effect = .move sprite velocity pause (.pending timer tick) := by
  cases effect with
  | move sprite velocity pause state =>
    cases state <;> cases holds
    exact ⟨sprite, velocity, pause, rfl, rfl⟩
  | fadeOut sprite speed state => cases state <;> cases holds
  | spin sprite speed state => cases state <;> cases holds
  | _ => cases holds

theorem Character.pending_of_waits {character : Character} {tick : TickId} {motion : Motion}
    {timer : TimerId} (holds : ⟨tick, motion, some timer⟩ ∈ character.holdings) :
    ∃ sprite velocity pause, motion = .drift sprite velocity ∧
      .move sprite velocity pause (.pending timer tick) ∈ character.bindings.effects := by
  rcases List.mem_append.mp holds with inside | inside
  · obtain ⟨effect, bound, waits⟩ := List.mem_filterMap.mp inside
    obtain ⟨sprite, velocity, pause, drifts, rfl⟩ := effect.pending_of_waits waits
    exact ⟨sprite, velocity, pause, drifts, bound⟩
  · unfold gravityHolding? at inside
    split at inside
    · cases List.mem_singleton.mp inside
    · cases inside

namespace Scene

/-! ### Tasks that are overtaken -/

/-- Among the tasks that are done, the character with the sprite of a motion appears again. -/
def Overtakes (first : Scene) (done : List Task) (motion : Motion) : Prop :=
  ∃ character ∈ first.characters, character.sprite = some motion.sprite ∧
    .retrigger character.id ∈ done

/-- The start of a motion is overtaken: its character has appeared again before. -/
def Overtaken (first : Scene) (tasks : List Task) (tick : TickId) (motion : Motion) : Prop :=
  ∃ before after, tasks = before ++ .startMotion tick motion :: after ∧
    first.Overtakes before motion

theorem overtaken_nil {first : Scene} {tick : TickId} {motion : Motion} :
    ¬ first.Overtaken [] tick motion := by
  rintro ⟨before, after, split, _⟩
  cases List.append_eq_nil_iff.mp split.symm |>.2

/-- With one more task, either a task from before is overtaken or the last one is. -/
theorem overtaken_concat {first : Scene} {done : List Task} {task : Task} {tick : TickId}
    {motion : Motion} :
    first.Overtaken (done ++ [task]) tick motion ↔
      first.Overtaken done tick motion ∨
        (task = .startMotion tick motion ∧ first.Overtakes done motion) := by
  constructor
  · rintro ⟨before, after, split, overtakes⟩
    rcases List.eq_nil_or_concat after with rfl | ⟨later, last, rfl⟩
    · obtain ⟨rfl, same⟩ := List.append_inj' split rfl
      exact Or.inr ⟨List.singleton_inj.mp same, overtakes⟩
    · rw [List.concat_eq_append, ← List.cons_append, ← List.append_assoc] at split
      exact Or.inl ⟨before, later, (List.append_inj' split rfl).1, overtakes⟩
  · rintro (⟨before, after, rfl, overtakes⟩ | ⟨rfl, overtakes⟩)
    · exact ⟨before, after ++ [task], by rw [List.append_assoc, List.cons_append], overtakes⟩
    · exact ⟨done, [], rfl, overtakes⟩

/-- A task that starts a motion starts one that a character waits for. -/
def Fits (first : Scene) (task : Task) : Prop :=
  ∀ tick motion, task = .startMotion tick motion →
    ∃ character ∈ first.characters, ∃ timer, ⟨tick, motion, some timer⟩ ∈ character.holdings

/-! ### Scenes between frames -/

/-- What is known of a scene before a frame begins: characters are told apart by their numbers and by
their sprites, and places by their handles. -/
structure Settled (first : Scene) : Prop where
  numbered : first.Numbered
  coherent : ∀ character ∈ first.characters, character.Coherent
  sprites : (spritesOf first.characters).Nodup
  handles : (first.holdings.map Holding.tick).Nodup

variable {lost : Losses} {loose : List Loose} {first scene : Scene} {done : List Task}
  {world : World}

theorem Kept.settled (kept : scene.Kept lost loose world) : scene.Settled :=
  ⟨kept.numbered, kept.coherent, (List.nodup_append.mp kept.kept.apart).2.1,
    kept.kept.held.distinct⟩

/-- What is due in a frame is what the characters of the scene wait for. -/
theorem Kept.fits (kept : scene.Kept lost loose world) {span : Nat} {task : Task}
    (due : task ∈ (world.advanceClock span).1) : scene.Fits task := by
  intro tick motion starts
  obtain ⟨timer, fired, rfl⟩ := List.mem_map.mp due
  obtain ⟨old, there, renews⟩ := TimerQueue.mem_fired fired
  obtain ⟨_, holds⟩ := kept.kept.held.starts old there tick motion (renews.task ▸ starts)
  obtain ⟨character, member, inside⟩ := List.mem_flatMap.mp holds
  exact ⟨character, member, old.id, inside⟩

namespace Settled

/-- Two places with the same handle are the same. -/
theorem unique (settled : first.Settled) {character other : Character} {holding found : Holding}
    (member : character ∈ first.characters) (holds : holding ∈ character.holdings)
    (inside : other ∈ first.characters) (finds : found ∈ other.holdings)
    (same : holding.tick = found.tick) : holding = found :=
  List.inj_on_of_nodup_map settled.handles (List.mem_flatMap.mpr ⟨character, member, holds⟩)
    (List.mem_flatMap.mpr ⟨other, inside, finds⟩) same

theorem eq_of_nodup_spritesOf {characters : List Character} (distinct : (spritesOf characters).Nodup) :
    ∀ character ∈ characters, ∀ other ∈ characters, ∀ sprite,
      character.sprite = some sprite → other.sprite = some sprite → character = other := by
  induction characters with
  | nil => exact fun _ member => nomatch member
  | cons first rest ih =>
    obtain ⟨_, later, apart⟩ := List.nodup_append.mp distinct
    have clash : ∀ other ∈ rest, ∀ sprite, first.sprite = some sprite →
        other.sprite ≠ some sprite := by
      intro other member sprite stands same
      refine apart sprite (Option.mem_toList.mpr stands) sprite ?_ rfl
      exact List.mem_flatMap.mpr ⟨other, member, Option.mem_toList.mpr same⟩
    intro character member other inside sprite stands same
    rcases List.mem_cons.mp member with rfl | here <;>
      rcases List.mem_cons.mp inside with rfl | there
    · rfl
    · exact absurd same (clash other there sprite stands)
    · exact absurd stands (clash character here sprite same)
    · exact ih later character here other there sprite stands same

/-- If a motion is overtaken, its own character has appeared again. -/
theorem again (settled : first.Settled) {character : Character} {holding : Holding}
    (member : character ∈ first.characters) (holds : holding ∈ character.holdings)
    (overtakes : first.Overtakes done holding.motion) : .retrigger character.id ∈ done := by
  obtain ⟨other, inside, stands, again⟩ := overtakes
  have own := (settled.coherent character member).sprite holds
  rw [eq_of_nodup_spritesOf settled.sprites character member other inside _ own stands]
  exact again

/-- If the character of a motion has appeared again, the motion is overtaken. -/
theorem overtakes (settled : first.Settled) {character : Character} {holding : Holding}
    (member : character ∈ first.characters) (holds : holding ∈ character.holdings)
    (again : .retrigger character.id ∈ done) : first.Overtakes done holding.motion :=
  ⟨character, member, (settled.coherent character member).sprite holds, again⟩

end Settled

/-! ### Some tasks are done -/

/-- What holds in the middle of a frame, when some of its tasks are done: characters that have not
appeared again are as they were before, and what the others held is gone, while their old handles are
loose. The strays are the motions that were overtaken so far. -/
structure Midway (lost : Losses) (first : Scene) (done : List Task) (loose : List Loose)
    (scene : Scene) (world : World) : Prop where
  kept : scene.Kept lost loose world
  active : scene.state = .active
  same : ∀ id, .retrigger id ∉ done → scene.character? id = first.character? id
  gone : ∀ handle ∈ loose, ∀ motion, handle.motion = some motion → world.stage.Gone motion.sprite
  again : ∀ character ∈ first.characters, .retrigger character.id ∈ done →
    ∀ holding ∈ character.holdings, world.stage.Gone holding.motion.sprite ∧
      (⟨holding.tick, none⟩ ∈ loose ∨ ⟨holding.tick, some holding.motion⟩ ∈ loose)
  overtaken : ∀ tick motion, ⟨tick, some motion⟩ ∈ loose ↔ first.Overtaken done tick motion

namespace Midway

/-- Before any task is done. -/
theorem start (kept : scene.Kept lost [] world) (active : scene.state = .active) :
    Midway lost scene [] [] scene world where
  kept := kept
  active := active
  same _ _ := rfl
  gone _ member := nomatch member
  again _ _ member := nomatch member
  overtaken _ _ := ⟨fun member => (nomatch member), fun none => absurd none overtaken_nil⟩

/-- What the sounds do does not matter. -/
theorem sound (midway : Midway lost first done loose scene world) {after : Scene} {last : World}
    (kept : after.Kept lost loose last) (state : after.state = scene.state)
    (characters : after.characters = scene.characters) (stage : last.stage = world.stage) :
    Midway lost first done loose after last where
  kept := kept
  active := state.trans midway.active
  same id fresh := by
    unfold character?
    rw [characters]
    exact midway.same id fresh
  gone := stage ▸ midway.gone
  again := stage ▸ midway.again
  overtaken := midway.overtaken

/-- One more task is done which lets no character appear again, and which is not overtaken. -/
theorem concat (midway : Midway lost first done loose scene world) {task : Task}
    (other : ∀ id, task ≠ .retrigger id)
    (timely : ∀ tick motion, task = .startMotion tick motion → ¬ first.Overtakes done motion) :
    Midway lost first (done ++ [task]) loose scene world where
  kept := midway.kept
  active := midway.active
  same id fresh := midway.same id fun old => fresh (List.mem_append_left _ old)
  gone := midway.gone
  again character member again := by
    refine midway.again character member ((List.mem_append.mp again).resolve_right fun last => ?_)
    exact other _ (List.mem_singleton.mp last).symm
  overtaken tick motion := by
    rw [overtaken_concat, midway.overtaken]
    exact (or_iff_left fun late => timely tick motion late.1 late.2).symm

/-- A sound of the scene is played. -/
theorem playSound (midway : Midway lost first done loose scene world) (link : Nat) :
    Midway lost first (done ++ [.playSound link]) loose (scene.playSound link world).1
      (scene.playSound link world).2 := by
  have stands : scene.state ≠ .tornDown := by
    rw [midway.active]
    decide
  have played := midway.kept.playSound link
  have next : Midway lost first (done ++ [.playSound link]) loose scene world :=
    midway.concat (fun _ => Task.noConfusion) (fun _ _ => Task.noConfusion)
  unfold Scene.playSound at played ⊢
  rw [if_neg stands] at played ⊢
  exact next.sound played rfl rfl (scene.sounds.sounds_play link world).stage

/-- The end of a playing does not matter. -/
theorem finish (midway : Midway lost first done loose scene world) (playback : PlaybackId) :
    Midway lost first done loose (scene.finish playback world).2.1
      (scene.finish playback world).2.2 :=
  midway.sound (midway.kept.finish playback) rfl rfl
    (scene.sounds.sounds_finish playback world).stage

/-! ### The start of a motion -/

/-- A motion is started in time: its character holds it. -/
theorem startInTime (midway : Midway lost first done loose scene world) (settled : first.Settled)
    {tick : TickId} {motion : Motion} {timer : Option TimerId} {character : Character}
    (member : character ∈ first.characters) (holds : ⟨tick, motion, timer⟩ ∈ character.holdings)
    (still : motion.atRest = motion) (fresh : .retrigger character.id ∉ done) :
    Midway lost first (done ++ [.startMotion tick motion]) loose scene
      { world with animator := (world.animator.registerReserved tick motion).2 } := by
  have there : character ∈ scene.characters := mem_of_character?
    ((midway.same character.id fresh).trans (settled.numbered.found member))
  have inside : ⟨tick, motion, timer⟩ ∈ scene.holdings :=
    List.mem_flatMap.mpr ⟨character, there, holds⟩
  have started : scene.Kept lost loose
      { world with animator := (world.animator.registerReserved tick motion).2 } :=
    { midway.kept with
      kept := midway.kept.kept.work (.refl _) (midway.kept.kept.held.start inside still) }
  refine (midway.concat (fun _ => Task.noConfusion) fun _ _ same late => ?_).sound started rfl rfl rfl
  cases same
  exact fresh (settled.again member holds late)

/-- A motion is started too late, for the first time: it strays. -/
theorem startTooLate (midway : Midway lost first done loose scene world) (settled : first.Settled)
    {tick : TickId} {motion : Motion} {timer : Option TimerId} {character : Character}
    (member : character ∈ first.characters) (holds : ⟨tick, motion, timer⟩ ∈ character.holdings)
    (again : .retrigger character.id ∈ done) (free : ⟨tick, none⟩ ∈ loose) :
    Midway lost first (done ++ [.startMotion tick motion])
      (⟨tick, some motion⟩ :: loose.erase ⟨tick, none⟩) scene
      { world with animator := (world.animator.registerReserved tick motion).2 } where
  kept := { midway.kept with
    kept := midway.kept.kept.work (.refl _)
      ((midway.kept.kept.held.permLoose (List.perm_cons_erase free)).stray motion) }
  active := midway.active
  same id fresh := midway.same id fun old => fresh (List.mem_append_left _ old)
  gone handle stray other moves := by
    rcases List.mem_cons.mp stray with rfl | old
    · cases moves
      exact (midway.again character member again _ holds).1
    · exact midway.gone handle (List.mem_of_mem_erase old) other moves
  again other listed later holding inside := by
    have earlier := (List.mem_append.mp later).resolve_right fun last =>
      nomatch List.mem_singleton.mp last
    obtain ⟨gone, handle⟩ := midway.again other listed earlier holding inside
    refine ⟨gone, ?_⟩
    rcases handle with unused | strays
    · by_cases same : holding.tick = tick
      · cases settled.unique listed inside member holds same
        exact Or.inr List.mem_cons_self
      · have different : (⟨holding.tick, none⟩ : Loose) ≠ ⟨tick, none⟩ :=
          fun equal => same (congrArg Loose.tick equal)
        exact Or.inl (List.mem_cons_of_mem _ ((List.mem_erase_of_ne different).mpr unused))
    · have different : (⟨holding.tick, some holding.motion⟩ : Loose) ≠ ⟨tick, none⟩ := nofun
      exact Or.inr (List.mem_cons_of_mem _ ((List.mem_erase_of_ne different).mpr strays))
  overtaken other moved := by
    have different : (⟨other, some moved⟩ : Loose) ≠ ⟨tick, none⟩ := nofun
    rw [overtaken_concat, List.mem_cons, List.mem_erase_of_ne different, midway.overtaken, or_comm]
    refine or_congr_right ⟨fun same => ?_, fun late => ?_⟩
    · cases same
      exact ⟨rfl, settled.overtakes member holds again⟩
    · cases late.1
      rfl

/-- A motion that strays already is not started again. -/
theorem startAgain (midway : Midway lost first done loose scene world) {tick : TickId}
    {motion : Motion} (strays : ⟨tick, some motion⟩ ∈ loose) :
    Midway lost first (done ++ [.startMotion tick motion]) loose scene
      { world with animator := (world.animator.registerReserved tick motion).2 } := by
  have registered : world.animator.isRegistered tick = true := Animator.isRegistered_iff.mpr
    ⟨_, midway.kept.kept.held.strays _ strays motion rfl, rfl⟩
  have same : { world with animator := (world.animator.registerReserved tick motion).2 } = world := by
    unfold Animator.registerReserved
    rw [if_pos registered]
  rw [same]
  refine { midway with same := fun id fresh => ?_, again := fun other listed later => ?_,
                       overtaken := fun other moved => ?_ }
  · exact midway.same id fun old => fresh (List.mem_append_left _ old)
  · refine midway.again other listed ((List.mem_append.mp later).resolve_right fun last => ?_)
    cases List.mem_singleton.mp last
  · rw [overtaken_concat, midway.overtaken]
    refine (or_iff_left_of_imp fun late => ?_).symm
    cases late.1
    exact (midway.overtaken tick motion).mp strays

/-- **The start of a motion**, in time or too late. -/
theorem startMotion (midway : Midway lost first done loose scene world) (settled : first.Settled)
    {tick : TickId} {motion : Motion} (fits : first.Fits (.startMotion tick motion)) :
    ∃ loose, Midway lost first (done ++ [.startMotion tick motion]) loose scene
      { world with animator := (world.animator.registerReserved tick motion).2 } := by
  obtain ⟨character, member, timer, holds⟩ := fits tick motion rfl
  by_cases again : .retrigger character.id ∈ done
  · rcases (midway.again character member again _ holds).2 with free | strays
    · exact ⟨_, midway.startTooLate settled member holds again free⟩
    · exact ⟨_, midway.startAgain strays⟩
  · obtain ⟨_, _, _, rfl, _⟩ := character.pending_of_waits holds
    exact ⟨_, midway.startInTime settled member holds rfl again⟩

/-! ### A character appears again -/

/-- What a character held is gone once it appears again. -/
theorem gone_reappear (midway : Midway lost first done loose scene world)
    {id : CharacterId} {character : Character} (found : scene.character? id = some character)
    {holding : Holding} (holds : holding ∈ character.holdings) :
    (character.appear scene.binder world).2.stage.Gone holding.motion.sprite := by
  have member := mem_of_character? found
  have coherent := midway.kept.coherent character member
  have stands := coherent.sprite holds
  refine Character.gone_appear coherent scene.binder stands (midway.kept.kept.given _ ?_)
  refine List.mem_append_right _ (List.mem_flatMap.mpr ⟨character, member, ?_⟩)
  exact Option.mem_toList.mpr stands

/-- A character appears again: its old handles become loose. -/
theorem reappear (midway : Midway lost first done loose scene world) (settled : first.Settled)
    {id : CharacterId} {character : Character} (found : scene.character? id = some character) :
    Midway lost first (done ++ [.retrigger id]) (character.ticks.map (⟨·, none⟩) ++ loose)
      (scene.setCharacter id (character.appear scene.binder world).1)
      (character.appear scene.binder world).2 := by
  have coherent := midway.kept.coherent character (mem_of_character? found)
  have follows := (Character.turns_appear coherent scene.binder world).acts.stage
  have old : ∀ {tick : TickId} {motion : Motion},
      ⟨tick, some motion⟩ ∈ character.ticks.map (⟨·, none⟩) ++ loose ↔
        ⟨tick, some motion⟩ ∈ loose := by
    intro tick motion
    refine List.mem_append.trans (or_iff_right fun new => ?_)
    obtain ⟨_, _, same⟩ := List.mem_map.mp new
    cases same
  refine ⟨midway.kept.reappear found, midway.active, fun other fresh => ?_,
    fun handle member motion moves => ?_, fun other listed again holding holds => ?_,
    fun tick motion => ?_⟩
  · obtain ⟨earlier, last⟩ := not_or.mp (mt List.mem_append.mpr fresh)
    have different : id ≠ other := by
      rintro rfl
      exact last List.mem_cons_self
    rw [character?_setCharacter different]
    exact midway.same other earlier
  · have stray : (⟨handle.tick, some motion⟩ : Loose) ∈ loose := old.mp (moves ▸ member)
    exact (midway.gone _ stray motion rfl).follow follows
  · by_cases earlier : .retrigger other.id ∈ done
    · obtain ⟨gone, handle⟩ := midway.again other listed earlier holding holds
      exact ⟨gone.follow follows,
        handle.imp (List.mem_append_right _) (List.mem_append_right _)⟩
    · have last := List.mem_singleton.mp ((List.mem_append.mp again).resolve_left earlier)
      cases last
      cases ((midway.same _ earlier).trans (settled.numbered.found listed)).symm.trans found
      refine ⟨midway.gone_reappear found holds, Or.inl (List.mem_append_left _ ?_)⟩
      exact List.mem_map_of_mem (List.mem_map_of_mem holds)
  · rw [overtaken_concat, old, midway.overtaken]
    exact (or_iff_left fun late => nomatch late.1).symm

theorem retrigger (midway : Midway lost first done loose scene world) (settled : first.Settled)
    (id : CharacterId) :
    ∃ loose, Midway lost first (done ++ [.retrigger id]) loose (scene.retrigger id world).1
      (scene.retrigger id world).2 := by
  unfold Scene.retrigger
  rw [if_pos midway.active]
  split
  · rename_i character found
    exact ⟨_, midway.reappear settled found⟩
  · -- There is no such character, and there was none at the beginning.
    rename_i absent
    refine ⟨loose, { midway with same := fun other fresh => ?_, again := fun other listed later => ?_,
                                 overtaken := fun tick motion => ?_ }⟩
    · exact midway.same other fun old => fresh (List.mem_append_left _ old)
    · refine midway.again other listed (by_contra fun earlier => ?_)
      have last := List.mem_singleton.mp ((List.mem_append.mp later).resolve_left earlier)
      cases last
      cases ((midway.same _ earlier).trans (settled.numbered.found listed)).symm.trans absent
    · rw [overtaken_concat, midway.overtaken]
      exact (or_iff_left fun late => nomatch late.1).symm

end Midway

end Scene

end Storybook
