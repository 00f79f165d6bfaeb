/-
**Renaming handles.**

Two plays that do the same give out different handles if one of them has given out more of them before.
What they show and what they are about to do is then the same up to the names of the handles.

* `Renaming`: new names for the handles of sprites, motions, timers and playings; everything that holds
  handles can be renamed;
* `Tableau`: what a player shows, what it is about to do, and what it has reported since a moment;
* `Tableau.Alike`: two tableaux are the same up to the names of the handles;
* `Tableau.alike_of_names`: renamings of one tableau are alike.
-/

import Mathlib.Logic.Basic
import Storybook.Play.Player

namespace Storybook

/-- New names for handles. -/
structure Renaming where
  sprite : SpriteId → SpriteId
  tick : TickId → TickId
  timer : TimerId → TimerId
  playback : PlaybackId → PlaybackId

/-- One renaming after another. -/
def Renaming.andThen (first second : Renaming) : Renaming :=
  ⟨second.sprite ∘ first.sprite, second.tick ∘ first.tick, second.timer ∘ first.timer,
    second.playback ∘ first.playback⟩

section Names

variable (names later : Renaming)

/-! ### What holds handles -/

def Motion.rename : Motion → Motion
  | .gravity sprite strength velocity => .gravity (names.sprite sprite) strength velocity
  | .drift sprite velocity => .drift (names.sprite sprite) velocity
  | .spin sprite speed => .spin (names.sprite sprite) speed
  | .fade sprite speed => .fade (names.sprite sprite) speed

def Task.rename : Task → Task
  | .playSound link => .playSound link
  | .startMotion tick motion => .startMotion (names.tick tick) (motion.rename names)
  | .retrigger character => .retrigger character

def Event.rename : Event → Event
  | .soundStarted sound playback => .soundStarted sound (names.playback playback)
  | .motionFinished sprite kind => .motionFinished (names.sprite sprite) kind
  | .spriteRemoved sprite => .spriteRemoved (names.sprite sprite)
  | .storyLoaded assets => .storyLoaded assets
  | .splashShown => .splashShown
  | .splashFinished => .splashFinished
  | .sceneEntered scene => .sceneEntered scene
  | .sceneTornDown scene => .sceneTornDown scene
  | .characterShown character name => .characterShown character name
  | .effectExecuted character trigger effect => .effectExecuted character trigger effect
  | .effectSkipped character effect => .effectSkipped character effect

def MoveState.rename : MoveState → MoveState
  | .idle => .idle
  | .pending timer tick => .pending (names.timer timer) (names.tick tick)
  | .moving tick => .moving (names.tick tick)

def FadeState.rename : FadeState → FadeState
  | .idle => .idle
  | .fading tick => .fading (names.tick tick)
  | .done => .done

def SpinState.rename : SpinState → SpinState
  | .idle => .idle
  | .active tick => .active (names.tick tick)

def Effect.rename : Effect → Effect
  | .audio sound => .audio sound
  | .move sprite velocity pause state =>
    .move (names.sprite sprite) velocity pause (state.rename names)
  | .bounce sprite offset => .bounce (names.sprite sprite) offset
  | .transition sprite image texture => .transition (names.sprite sprite) image texture
  | .fadeOut sprite speed state => .fadeOut (names.sprite sprite) speed (state.rename names)
  | .spin sprite speed state => .spin (names.sprite sprite) speed (state.rename names)

def Chain.rename (chain : Chain) : Chain :=
  { chain with effects := chain.effects.map (Effect.rename names) }

def Bindings.rename (bindings : Bindings) : Bindings :=
  ⟨bindings.onLoad.map (Chain.rename names), bindings.touch.map (Chain.rename names)⟩

def Character.rename (character : Character) : Character :=
  { character with
    sprite := character.sprite.map names.sprite
    bindings := character.bindings.rename names
    gravity := character.gravity.map names.tick }

def SoundChain.rename (chain : SoundChain) : SoundChain :=
  { chain with
    awaiting := chain.awaiting.map fun (playback, link) => (names.playback playback, link)
    pending := chain.pending.map names.timer }

def Scene.rename (scene : Scene) : Scene :=
  { scene with
    background := scene.background.map names.sprite
    characters := scene.characters.map (Character.rename names)
    sounds := scene.sounds.rename names
    retriggers := scene.retriggers.map names.timer }

/-! ### One renaming after another -/

theorem Motion.rename_rename (motion : Motion) :
    (motion.rename names).rename later = motion.rename (names.andThen later) := by
  cases motion <;> rfl

theorem Task.rename_rename (task : Task) :
    (task.rename names).rename later = task.rename (names.andThen later) := by
  cases task with
  | startMotion tick motion =>
    exact congrArg (startMotion _) (motion.rename_rename names later)
  | playSound => rfl
  | retrigger => rfl

theorem Event.rename_rename (event : Event) :
    (event.rename names).rename later = event.rename (names.andThen later) := by
  cases event <;> rfl

theorem Effect.rename_rename (effect : Effect) :
    (effect.rename names).rename later = effect.rename (names.andThen later) := by
  cases effect with
  | move sprite velocity pause state => cases state <;> rfl
  | fadeOut sprite speed state => cases state <;> rfl
  | spin sprite speed state => cases state <;> rfl
  | audio => rfl
  | bounce => rfl
  | transition => rfl

theorem Chain.rename_rename (chain : Chain) :
    (chain.rename names).rename later = chain.rename (names.andThen later) := by
  unfold rename
  rw [List.map_map]
  refine congrArg (Chain.mk chain.trigger) (List.map_congr_left fun effect _ => ?_)
  exact effect.rename_rename names later

theorem Bindings.rename_rename (bindings : Bindings) :
    (bindings.rename names).rename later = bindings.rename (names.andThen later) := by
  have chains : ∀ chain : Option Chain,
      (chain.map (Chain.rename names)).map (Chain.rename later) =
        chain.map (Chain.rename (names.andThen later)) := by
    intro chain
    cases chain with
    | none => rfl
    | some chain => exact congrArg some (chain.rename_rename names later)
  exact congrArg₂ Bindings.mk (chains bindings.onLoad) (chains bindings.touch)

theorem Character.rename_rename (character : Character) :
    (character.rename names).rename later = character.rename (names.andThen later) := by
  simp only [rename, Option.map_map, Bindings.rename_rename, Renaming.andThen]

theorem SoundChain.rename_rename (chain : SoundChain) :
    (chain.rename names).rename later = chain.rename (names.andThen later) := by
  simp only [rename, List.map_map, Renaming.andThen, Function.comp_def]

theorem Scene.rename_rename (scene : Scene) :
    (scene.rename names).rename later = scene.rename (names.andThen later) := by
  have characters : (Character.rename later ∘ Character.rename names) =
      Character.rename (names.andThen later) :=
    funext fun character => character.rename_rename names later
  simp only [rename, Option.map_map, List.map_map, characters, SoundChain.rename_rename,
    Renaming.andThen]

/-! ### Tableaux -/

/-- A timer as it is seen from now. -/
structure Wait where
  id : TimerId
  task : Task
  period : Option Period
  remaining : Nat
deriving DecidableEq, Repr

def Wait.rename (wait : Wait) : Wait :=
  { wait with id := names.timer wait.id, task := wait.task.rename names }

/-- The timers of a queue as they are seen from now. -/
def TimerQueue.waits (queue : TimerQueue Task) : List Wait :=
  queue.timers.map fun timer => ⟨timer.id, timer.task, timer.period, timer.due - queue.now⟩

/-- What a player shows, what it is about to do, and what it has reported since a moment. -/
structure Tableau where
  /-- All sprites, drawn or not. -/
  sprites : List (SpriteId × Sprite)
  /-- The sprites that are drawn, bottom to top. -/
  drawn : List (SpriteId × Sprite)
  motions : List (TickId × Motion)
  waits : List Wait
  phase : Phase
  splashSprite : Option SpriteId
  splashPlayback : Option PlaybackId
  scene : Option Scene
  events : List Event
deriving DecidableEq, Repr

/-- The tableau of a player, with the events since an earlier state. -/
def Player.tableauSince (player earlier : Player) : Tableau where
  sprites := player.world.stage.sprites
  drawn := player.world.stage.drawn
  motions := player.world.animator.entries
  waits := player.world.timers.waits
  phase := player.phase
  splashSprite := player.splashSprite
  splashPlayback := player.splashPlayback
  scene := player.scene
  events := player.world.events.toList.drop earlier.world.events.size

namespace Tableau

def rename (tableau : Tableau) : Tableau where
  sprites := tableau.sprites.map fun (id, sprite) => (names.sprite id, sprite)
  drawn := tableau.drawn.map fun (id, sprite) => (names.sprite id, sprite)
  motions := tableau.motions.map fun (id, motion) => (names.tick id, motion.rename names)
  waits := tableau.waits.map (Wait.rename names)
  phase := tableau.phase
  splashSprite := tableau.splashSprite.map names.sprite
  splashPlayback := tableau.splashPlayback.map names.playback
  scene := tableau.scene.map (Scene.rename names)
  events := tableau.events.map (Event.rename names)

theorem rename_rename (tableau : Tableau) :
    (tableau.rename names).rename later = tableau.rename (names.andThen later) := by
  have scenes : (Scene.rename later ∘ Scene.rename names) = Scene.rename (names.andThen later) :=
    funext fun scene => scene.rename_rename names later
  have events : (Event.rename later ∘ Event.rename names) = Event.rename (names.andThen later) :=
    funext fun event => event.rename_rename names later
  have waits : (Wait.rename later ∘ Wait.rename names) = Wait.rename (names.andThen later) := by
    funext wait
    simp only [Function.comp_apply, Wait.rename, Task.rename_rename, Renaming.andThen]
  simp only [rename, List.map_map, Option.map_map, scenes, events, waits, Function.comp_def,
    Motion.rename_rename, Renaming.andThen]

/-- Two tableaux are the same up to the names of the handles: each is the other one renamed. -/
def Alike (first second : Tableau) : Prop :=
  ∃ there back : Renaming, second = first.rename there ∧ first = second.rename back

theorem Alike.sprites_length {first second : Tableau} (alike : first.Alike second) :
    first.sprites.length = second.sprites.length := by
  obtain ⟨there, _, rfl, _⟩ := alike
  exact (List.length_map _).symm

end Tableau

end Names

/-! ### Shifted handles -/

/-- By how much the handles and the clock of a play are ahead of those of another one. -/
structure Lag where
  sprites : Nat
  ticks : Nat
  timers : Nat
  playbacks : Nat
  time : Nat

namespace Lag

/-- The names of the handles in the play that is ahead. -/
def names (lag : Lag) : Renaming :=
  ⟨fun id => ⟨id.number + lag.sprites⟩, fun id => ⟨id.number + lag.ticks⟩,
    fun id => ⟨id.number + lag.timers⟩, fun id => ⟨id.number + lag.playbacks⟩⟩

/-- Back to the names in the play that is behind. -/
def unnames (lag : Lag) : Renaming :=
  ⟨fun id => ⟨id.number - lag.sprites⟩, fun id => ⟨id.number - lag.ticks⟩,
    fun id => ⟨id.number - lag.timers⟩, fun id => ⟨id.number - lag.playbacks⟩⟩

theorem names_unnames (lag : Lag) (later : Renaming) : lag.names.andThen (lag.unnames.andThen later) = later := by
  simp [names, unnames, Renaming.andThen, Function.comp_def]

end Lag

/-- **Renamings of one tableau are alike.** -/
theorem Tableau.alike_of_names (tableau : Tableau) (first second : Lag) :
    (tableau.rename first.names).Alike (tableau.rename second.names) := by
  refine ⟨first.unnames.andThen second.names, second.unnames.andThen first.names, ?_, ?_⟩
  · rw [rename_rename, Lag.names_unnames]
  · rw [rename_rename, Lag.names_unnames]

end Storybook
