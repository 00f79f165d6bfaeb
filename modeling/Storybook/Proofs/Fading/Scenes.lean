/-
**The fades of a scene.**

As long as the sprite of a character is there, as many removals of it are reported as fades of the
character have come to their end. Whatever is done with a character of the scene leaves it so, and leaves
the fades of the others alone.

* `Scene.Counts`: the removals that are reported are the fades that have come to their end;
* `World.RemovesGiven`: none is reported of a sprite that is not there yet;
* `Scene.Counts.turn`: what is done with one character;
* `Scene.counts_enter`: it holds from the entering of the scene on;
* `Scene.Midway.counts_startMotion`: in a frame motions are started;
* `Scene.Kept.counts_tick`: at its end the motions move.
-/

import Storybook.Proofs.Fading.Frames
import Storybook.Proofs.Ownership

namespace Storybook

/-! ### Sprites to come -/

namespace World

/-- **Removals are reported only of sprites that were given out.** -/
def RemovesGiven (world : World) : Prop :=
  ∀ sprite, world.stage.issued < sprite.number → world.removals sprite = 0

variable {first second : World}

theorem RemovesGiven.quiet (given : first.RemovesGiven) (quiet : first.Quiet second)
    (issued : first.stage.issued ≤ second.stage.issued) : second.RemovesGiven :=
  fun sprite new => (quiet.removals sprite).trans (given sprite (Nat.lt_of_le_of_lt issued new))

theorem RemovesGiven.tick (given : first.RemovesGiven) (valid : first.stage.Valid) (span : Nat) :
    (first.tick span).RemovesGiven := by
  intro sprite new
  rw [(first.thins_tick span).issued] at new
  have gone : sprite ∉ first.stage.keys := fun live => Nat.not_le_of_lt new (valid.issued sprite live)
  exact (removals_tick_of_gone gone span).trans (given sprite new)

end World

theorem Character.faded_of_animator {character : Character} {first last : World}
    (same : last.animator = first.animator) : character.faded last = character.faded first :=
  Character.faded_congr fun _ _ _ => by rw [same]

namespace Scene

variable {lost : Losses} {loose : List Loose} {scene after : Scene} {world last : World}

/-- **As many removals are reported of the sprite of a character as fades of it have come to their end**,
if the sprite is there; and it has no more fades than its story gives it. -/
structure Counts (scene : Scene) (world : World) : Prop where
  live : ∀ character ∈ scene.characters, ∀ sprite ∈ character.sprite, sprite ∈ world.stage.keys →
    world.removals sprite = character.faded world
  few : ∀ character ∈ scene.characters, character.fades ≤ character.spec.fades

/-- Where no fade begins or ends, and nothing comes onto the stage, the count stays. -/
theorem Counts.congr (counts : scene.Counts world) (characters : after.characters = scene.characters)
    (keys : ∀ sprite ∈ last.stage.keys, sprite ∈ world.stage.keys) (quiet : world.Quiet last)
    (faded : ∀ character ∈ scene.characters, character.faded last = character.faded world) :
    after.Counts last where
  live character member sprite stands there := by
    rw [characters] at member
    rw [quiet.removals, faded character member]
    exact counts.live character member sprite stands (keys sprite there)
  few := characters ▸ counts.few

/-! ### One character -/

/-- **What is done with one character leaves the count of a scene right.** -/
theorem Counts.turn (counts : scene.Counts world) (kept : scene.Kept lost loose world)
    (given : world.RemovesGiven) {id : CharacterId} {character after : Character}
    (found : scene.character? id = some character) (turns : character.Turns world after last)
    (tallies : character.Tallies world after last) : (scene.setCharacter id after).Counts last := by
  have member := mem_of_character? found
  have quiet := turns.acts.events.quiet
  have alone := kept.single found
  -- A sprite that was given out before and is there now was there before.
  have old {sprite : SpriteId} (there : sprite ∈ last.stage.keys)
      (issued : sprite.number ≤ world.stage.issued) : sprite ∈ world.stage.keys :=
    (turns.acts.stage.keys sprite there).resolve_right (Nat.not_lt_of_le issued)
  have owned {other : Character} (listed : other ∈ scene.characters) {sprite : SpriteId}
      (stands : sprite ∈ other.sprite) : sprite.number ≤ world.stage.issued := by
    refine kept.kept.given sprite (List.mem_append_right _ ?_)
    exact List.mem_flatMap.mpr ⟨other, listed, Option.mem_toList.mpr stands⟩
  constructor
  case live =>
    intro other listed sprite stands there
    rw [quiet.removals]
    rcases List.mem_cons.mp ((perm_setCharacter found).mem_iff.mp listed) with rfl | outside
    · rcases tallies.own with ⟨stays, same⟩ | ⟨none, new⟩
      · rw [stays] at stands
        rw [same]
        exact counts.live character member sprite stands (old there (owned member stands))
      · rw [none]
        exact given sprite (new sprite stands)
    · have inside := List.mem_of_mem_eraseIdx outside
      have same : other.faded last = other.faded world := by
        refine Character.faded_congr fun holding holds _ => alone.held.undisturbed tallies.agrees ?_
        exact List.mem_flatMap.mpr ⟨other, outside, List.mem_append_left _ holds⟩
      rw [same]
      exact counts.live other inside sprite stands (old there (owned inside stands))
  case few =>
    intro other listed
    rcases List.mem_cons.mp ((perm_setCharacter found).mem_iff.mp listed) with rfl | outside
    · exact tallies.few (counts.few character member)
    · exact counts.few other (List.mem_of_mem_eraseIdx outside)

theorem Counts.touch (counts : scene.Counts world) (kept : scene.Kept lost loose world)
    (given : world.RemovesGiven) (id : CharacterId) :
    (scene.touch id world).2.1.Counts (scene.touch id world).2.2 := by
  unfold Scene.touch
  split
  · split
    · rename_i character found
      exact counts.turn kept given found (character.runs_touch world).turns
        (Character.tallies_touch (kept.single found).held)
    · exact counts
  · exact counts

theorem Counts.pointerUpAt (counts : scene.Counts world) (kept : scene.Kept lost loose world)
    (given : world.RemovesGiven) (x y : Single) :
    (scene.pointerUpAt x y world).2.1.Counts (scene.pointerUpAt x y world).2.2 := by
  unfold Scene.pointerUpAt Scene.pointerUp
  split
  · split
    · exact counts.touch kept given _
    · exact counts
  · exact counts

theorem Counts.retrigger (counts : scene.Counts world) (kept : scene.Kept lost loose world)
    (given : world.RemovesGiven) (id : CharacterId) :
    (scene.retrigger id world).1.Counts (scene.retrigger id world).2 := by
  unfold Scene.retrigger
  split
  · split
    · rename_i character found
      have coherent := kept.coherent character (mem_of_character? found)
      exact counts.turn kept given found (Character.turns_appear coherent scene.binder world)
        (Character.tallies_appear coherent scene.binder (kept.single found).held)
    · exact counts
  · exact counts

/-- What the sounds of a scene do is of no account. -/
theorem Counts.sound (counts : scene.Counts world) (sounds : world.Sounds last)
    (characters : after.characters = scene.characters) : after.Counts last :=
  counts.congr characters (fun _ there => sounds.stage ▸ there) sounds.events.quiet
    fun _ _ => Character.faded_of_animator sounds.animator

theorem Counts.playSound (counts : scene.Counts world) (link : Nat) :
    (scene.playSound link world).1.Counts (scene.playSound link world).2 := by
  unfold Scene.playSound
  split
  · exact counts
  · exact counts.sound (scene.sounds.sounds_play link world) rfl

theorem Counts.finish (counts : scene.Counts world) (playback : PlaybackId) :
    (scene.finish playback world).2.1.Counts (scene.finish playback world).2.2 :=
  counts.sound (scene.sounds.sounds_finish playback world) rfl

/-! ### Entering -/

/-- A character that has just appeared: its sprite is new, and no fade of it has come to its end. -/
structure Unfaded (before : World) (character : Character) (world : World) : Prop where
  new : ∀ sprite ∈ character.sprite, before.stage.issued < sprite.number
  faded : character.faded world = 0
  few : character.fades ≤ character.spec.fades

/-- A character that comes onto the stage has just appeared then. -/
theorem unfaded_of_tallies {character after : Character} (coherent : character.Coherent)
    (offstage : character.sprite = none) (tallies : character.Tallies world after last) :
    Unfaded world after last := by
  have none := coherent.fades offstage
  have few := tallies.few (none ▸ Nat.zero_le _)
  rcases tallies.own with ⟨stays, same⟩ | ⟨faded, new⟩
  · refine ⟨fun sprite stands => ?_, same.trans ?_, few⟩
    · cases (stays.trans offstage).symm.trans stands
    · exact Nat.le_zero.mp (none ▸ character.faded_le_fades world)
  · exact ⟨new, faded, few⟩

/-- **When characters appear one after the other**, none of their fades has come to its end: while one
does, those that have appeared before are left alone. -/
theorem unfaded_appearEach (binder : Binder) (characters : List Character)
    (coherent : ∀ character ∈ characters, character.Coherent)
    (offstage : ∀ character ∈ characters, character.sprite = none) :
    ∀ {others : List Holding} {owners : List SpriteId} {world : World},
      World.Kept lost loose (heldBy characters ++ others) (spritesOf characters ++ owners) world →
        (∀ character ∈ (appearEach binder characters world).1,
          Unfaded world character (appearEach binder characters world).2) ∧
        ∀ holding ∈ others, (appearEach binder characters world).2.animator.isRegistered holding.tick =
          world.animator.isRegistered holding.tick := by
  induction characters with
  | nil => exact fun _ => ⟨fun _ none => (nomatch none), fun _ _ => rfl⟩
  | cons first rest ih =>
    intro others owners world kept
    obtain ⟨head, tail⟩ := List.forall_mem_cons.mp coherent
    obtain ⟨blank, bare⟩ := List.forall_mem_cons.mp offstage
    have appears := Character.turns_appear head binder world
    unfold heldBy spritesOf at kept
    rw [List.flatMap_cons, List.flatMap_cons, List.append_assoc, List.append_assoc] at kept
    have tallies := Character.tallies_appear head binder kept.held
    have appeared := unfaded_of_tallies head blank tallies
    have shown := appears.kept head kept
    obtain ⟨later, alone⟩ := ih tail bare
      (shown.perm (List.perm_append_comm_assoc _ _ _) (List.perm_append_comm_assoc _ _ _))
    unfold appearEach
    refine ⟨List.forall_mem_cons.mpr ⟨?_, fun character member => ?_⟩, fun holding member => ?_⟩
    · refine { appeared with faded := (Character.faded_congr fun holding holds _ => ?_).trans appeared.faded }
      exact alone holding (List.mem_append_left _ (List.mem_append_left _ holds))
    · exact { later character member with
        new := fun sprite stands => Nat.lt_of_le_of_lt appears.acts.stage.issued
          ((later character member).new sprite stands) }
    · exact (alone holding (List.mem_append_right _ member)).trans
        (kept.held.undisturbed tallies.agrees (List.mem_append_right _ member))

theorem animator_setRetriggers (scene : Scene) (world : World) :
    (scene.setRetriggers world).2.animator = world.animator := by
  obtain ⟨remarks, same⟩ := scene.remarkRetriggered_eq world
  unfold setRetriggers
  rw [retriggerEach_eq, same]

/-- When a scene is entered its characters have just appeared. -/
theorem unfaded_enter (id : String) (spec : Story.Scene) (style : Story.Style) (options : SceneOptions)
    (kept : World.Kept lost [] [] [] world) (idle : world.timers.timers = []) :
    ∀ character ∈ ((ofSpec id spec style options).enter world).1.characters,
      Unfaded world character ((ofSpec id spec style options).enter world).2 := by
  let new := ofSpec id spec style options
  let begun := new.enterSounds (new.remarkEntry world)
  let drawn := begun.1.drawBackground begun.2
  let shown := drawn.1.enterCharacters drawn.2
  have sounds := new.sounds.sounds_start (new.remarkEntry world)
  have opened : new.Kept lost [] (new.remarkEntry world) :=
    kept_ofSpec id spec style options (kept.congr rfl rfl rfl) idle
  have painted : drawn.1.Kept lost [] drawn.2 :=
    (opened.sound sounds (SoundChain.plans_start opened.plans)).draw rfl
  have cast : drawn.1.characters = Scene.cast spec := characters_drawBackground _ _
  have offstage : ∀ character ∈ drawn.1.characters, character.sprite = none :=
    fun character member => sprite_cast (cast ▸ member)
  have issued : world.stage.issued ≤ drawn.2.stage.issued := by
    have before : begun.2.stage = world.stage := sounds.stage
    exact before ▸ (begun.1.acts_drawBackground begun.2).stage.issued
  obtain ⟨appeared, _⟩ := unfaded_appearEach drawn.1.binder drawn.1.characters painted.coherent offstage
    (painted.kept.perm (.of_eq (List.append_nil _).symm) List.perm_append_comm)
  have last : (new.enter world).2.animator = shown.2.animator := by
    rw [enter_eq rfl]
    exact animator_setRetriggers shown.1 shown.2
  intro character member
  rw [enter_eq rfl] at member
  have unfaded := appeared character member
  exact ⟨fun sprite stands => Nat.lt_of_le_of_lt issued (unfaded.new sprite stands),
    (Character.faded_of_animator last).trans unfaded.faded, unfaded.few⟩

/-- **A scene is entered with the count right**: nothing is reported of the new sprites. -/
theorem counts_enter (id : String) (spec : Story.Scene) (style : Story.Style) (options : SceneOptions)
    (kept : World.Kept lost [] [] [] world) (idle : world.timers.timers = [])
    (given : world.RemovesGiven) :
    ((ofSpec id spec style options).enter world).1.Counts
      ((ofSpec id spec style options).enter world).2 where
  live character member sprite stands _ := by
    have unfaded := unfaded_enter id spec style options kept idle character member
    rw [(quiet_enter id spec style options world).removals, unfaded.faded]
    exact given sprite (unfaded.new sprite stands)
  few character member := (unfaded_enter id spec style options kept idle character member).few

/-! ### In a frame -/

/-- A place that waits for no timer is not the one whose motion is started. -/
theorem Midway.started {first : Scene} {done : List Task}
    (midway : Midway lost first done loose scene world) (settled : first.Settled) {tick : TickId}
    {motion : Motion} (fits : first.Fits (.startMotion tick motion)) {holding : Holding}
    (member : holding ∈ scene.holdings) (started : holding.timer = none) : holding.tick ≠ tick := by
  obtain ⟨character, listed, timer, holds⟩ := fits tick motion rfl
  by_cases again : .retrigger character.id ∈ done
  · rcases (midway.again character listed again _ holds).2 with free | strays
    · exact midway.kept.kept.held.apart _ free holding member
    · exact midway.kept.kept.held.apart _ strays holding member
  · have there := mem_of_character? ((midway.same character.id again).trans (settled.numbered.found listed))
    have inside : ⟨tick, motion, some timer⟩ ∈ scene.holdings :=
      List.mem_flatMap.mpr ⟨character, there, holds⟩
    intro same
    have waits := List.inj_on_of_nodup_map midway.kept.kept.held.distinct member inside same
    cases started.symm.trans (congrArg Holding.timer waits)

/-- **When a motion starts, no fade begins or comes to its end.** -/
theorem Midway.counts_startMotion {first : Scene} {done : List Task}
    (midway : Midway lost first done loose scene world) (settled : first.Settled)
    (counts : scene.Counts world) {tick : TickId} {motion : Motion}
    (fits : first.Fits (.startMotion tick motion)) :
    scene.Counts { world with animator := (world.animator.registerReserved tick motion).2 } := by
  refine counts.congr rfl (fun _ there => there) (.of_eq rfl) fun character member => ?_
  refine Character.faded_congr fun holding holds started => ?_
  have place : holding ∈ scene.holdings :=
    List.mem_flatMap.mpr ⟨character, member, List.mem_append_left _ holds⟩
  have agrees := world.animator.agrees_registerReserved (List.mem_singleton_self tick) motion
  refine agrees.others holding.tick (fun same => ?_) (midway.kept.kept.held.issued holding place)
  exact midway.started settled fits place started (List.mem_singleton.mp same)

/-- **At the end of a frame** as many removals are reported as fades come to their end. -/
theorem Kept.counts_tick (kept : scene.Kept lost loose world)
    (strays : ∀ handle ∈ loose, ∀ motion, handle.motion = some motion →
      motion.sprite ∉ world.stage.keys)
    (counts : scene.Counts world) (span : Nat) : scene.Counts (world.tick span) where
  live character member sprite stands there := by
    rw [(world.thins_tick span).keys] at there
    rw [World.removals_tick there, kept.faded_tick strays member stands there,
      counts.live character member sprite stands there]
  few := counts.few

end Scene

end Storybook
