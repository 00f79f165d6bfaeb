/-
**How often a character has come since the entry of its scene.**

From the entry of a scene on, while it stays in play, every character whose picture is loaded comes onto the
stage: once, or, if it is one of those that come again, once more for each interval that has passed. How the
time is cut into frames does not matter, nor what is touched meanwhile.

* `SceneOptions.comings`: how often a character comes in a time;
* `Player.Presents`: how often it comes while something is done with a player, with
  `Player.presents_frame` and `Player.presents_perform`;
* `Operation.leaves`: the operations that leave the scene in play;
* `Player.Recalling`: what holds of a character since the entry of its scene, and what keeps it:
  `Player.Recalling.perform` for every other operation, `Player.Recalling.run` for every list of them.
-/

import Mathlib.Data.List.Induction
import Storybook.Proofs.Lifecycle
import Storybook.Proofs.Returning.Scenes

namespace Storybook

/-- **How often a character comes onto the stage** in the time that has passed since the entry of its
scene. The interval is at least a millisecond. -/
def SceneOptions.comings (options : SceneOptions) (resources : Asset.Resources)
    (character : Story.Character) (passed : Nat) : Nat :=
  if character.isLoaded resources then
    1 + if options.retriggerCharacter = some character.name then
      passed / Span.millis (max options.retriggerMillis 1) else 0
  else 0

theorem SceneOptions.length_period (options : SceneOptions) :
    options.period.length = Span.millis (max options.retriggerMillis 1) := by
  show max (options.retriggerMillis * 1000000) 1000000 = max options.retriggerMillis 1 * 1000000
  omega

/-- At the entry of its scene, a character whose picture is loaded comes once. -/
theorem SceneOptions.comings_zero (options : SceneOptions) (resources : Asset.Resources)
    (character : Story.Character) :
    options.comings resources character 0 = (character.isLoaded resources).toNat := by
  unfold comings
  rw [Nat.zero_div, ite_self]
  cases character.isLoaded resources <;> rfl

variable {id : CharacterId} {character : Story.Character} {options : SceneOptions} {times more : Nat}
  {lost : Losses} {loose : List Loose} {made : Nat}

/-! ### The timers of a queue -/

/-- **When time passes**, a character is to come again once for every interval that has passed, and its timer
waits for the next one. -/
theorem TimerQueue.recalls_advance {queue : TimerQueue Task} (ordered : Timer.Ordered queue.timers)
    (since : made ≤ queue.now)
    (recalls : options.Recalls id character made ((queue.now - made) / options.period.length)
      (queue.recalls id)) (span : Nat) :
    options.Recalls id character made ((queue.now + span - made) / options.period.length)
        ((queue.advance span).2.recalls id) ∧
      ((queue.advance span).1.map Timer.task).countP (· = Task.retrigger id) =
        if options.retriggerCharacter = some character.name then
          (queue.now + span - made) / options.period.length - (queue.now - made) / options.period.length
        else 0 := by
  obtain ⟨timer, recalls⟩ := recalls
  have whole : drain (queue.now + span) (queue.recalls id) =
      ((queue.advance span).1.filter (fun timer => timer.task = Task.retrigger id),
        (queue.advance span).2.recalls id) := drain_filter (fun _ _ => rfl) ordered
  have count : ((queue.advance span).1.map Timer.task).countP (· = Task.retrigger id) =
      (drain (queue.now + span) (queue.recalls id)).1.length := by
    rw [whole, List.countP_map, List.countP_eq_length_filter]
    rfl
  rw [count, show (queue.advance span).2.recalls id = _ from (congrArg Prod.snd whole).symm, recalls]
  by_cases again : options.retriggerCharacter = some character.name
  · have past : (queue.now - made) / options.period.length ≤
        (queue.now + span - made) / options.period.length :=
      Nat.div_le_div_right (by omega)
    obtain ⟨fired, waits⟩ := drain_turn timer made options.period (Task.retrigger id)
      (Nat.le_trans since (Nat.le_add_right queue.now span)) past
    rw [if_pos again, if_pos again]
    exact ⟨⟨timer, by rw [if_pos again, waits]⟩, fired⟩
  · have nothing : drain (queue.now + span) ([] : List (Timer Task)) = ([], []) := drain_of_early nofun
    rw [if_neg again, if_neg again, nothing]
    exact ⟨⟨timer, (if_neg again).symm⟩, rfl⟩

/-- Whether an operation leaves the scene in play. -/
def Operation.leaves (document : Story.Document) : Operation → Bool
  | .enterScene id => (document.scene? id).isSome
  | .shutdown => true
  | _ => false

namespace Player

variable {player first second third next : Player} {scene : Scene}

/-! ### What is done with a scene -/

/-- The part that a character of the scene in play has in the story. -/
def part? (player : Player) (id : CharacterId) : Option (CharacterId × Story.Character) :=
  (player.scene.bind (·.character? id)).map Character.part

/-- **Between two states of a player** it is reported so many times that a character comes, while the
character stays the same one of the story, and so do the timers that let it come again. -/
structure Presents (id : CharacterId) (times : Nat) (before after : Player) : Prop where
  part : after.part? id = before.part? id
  announces : World.Announces id times before.world after.world
  recalls : after.world.timers.recalls id = before.world.timers.recalls id

theorem Presents.refl (player : Player) : player.Presents id 0 player :=
  ⟨rfl, .refl player.world, rfl⟩

theorem Presents.trans (left : first.Presents id times second) (right : second.Presents id more third) :
    first.Presents id (times + more) third where
  part := right.part.trans left.part
  announces := left.announces.trans right.announces
  recalls := right.recalls.trans left.recalls

theorem Presents.silent (left : first.Presents id times second) (right : second.Presents id 0 third) :
    first.Presents id times third :=
  left.trans right

/-- What is done to the world without the timers, and without anything coming onto the stage. -/
theorem presents_world (player : Player) {world : World} (abides : player.world.Abides world)
    (timers : world.timers = player.world.timers) : player.Presents id 0 { player with world } :=
  ⟨rfl, abides.announces, timers ▸ rfl⟩

theorem presents_withScene (change : Scene → World → Scene × World) (current : player.scene = some scene)
    (does : scene.Presents id times player.world (change scene player.world).1
      (change scene player.world).2) : player.Presents id times (player.withScene change) := by
  unfold withScene
  rw [current]
  refine ⟨?_, does.announces, does.recalls⟩
  unfold part?
  rw [current]
  exact does.part

theorem presents_askScene {change : Scene → World → Bool × Scene × World}
    (current : player.scene = some scene)
    (does : scene.Presents id times player.world (change scene player.world).2.1
      (change scene player.world).2.2) : player.Presents id times (player.askScene change).2 := by
  unfold askScene
  rw [current]
  refine ⟨?_, does.announces, does.recalls⟩
  unfold part?
  rw [current]
  exact does.part

theorem presents_touch (kept : player.Kept lost) (other : CharacterId) :
    player.Presents id 0 (player.touch other).2 := by
  cases kept with
  | waiting waits plain =>
    unfold touch askScene
    rw [waits.scene]
    exact .refl player
  | playing scene shows active kept => exact presents_askScene shows.current (kept.presents_touch other)

theorem presents_touchEach (ids : List CharacterId) :
    ∀ {player : Player}, player.Kept lost → player.Presents id 0 (touchEach ids player).2 := by
  induction ids with
  | nil => exact fun {player} _ => .refl player
  | cons other rest ih =>
    exact fun kept => (presents_touch kept other).trans (ih (kept_touch kept other))

theorem presents_pointerUpAt (kept : player.Kept lost) (x y : Single) :
    player.Presents id 0 (player.pointerUpAt x y).2 := by
  cases kept with
  | waiting waits plain =>
    unfold pointerUpAt askScene
    rw [waits.scene]
    exact .refl player
  | playing scene shows active kept =>
    exact presents_askScene shows.current (kept.presents_pointerUpAt x y)

/-! ### Frames -/

/-- **A character comes when a timer asks for it**, if its picture is loaded, and with no other task. -/
theorem presents_dispatch (current : player.scene = some scene) (active : scene.state = .active)
    (kept : scene.Kept lost loose player.world) (part : player.part? id = some (id, character))
    (task : Task) :
    player.Presents id
      (if task = .retrigger id then (character.isLoaded player.world.resources).toNat else 0)
      (player.dispatch task) := by
  cases task with
  | playSound link =>
    rw [if_neg nofun]
    exact presents_withScene (fun scene world => scene.playSound link world) current
      (scene.presents_playSound player.world link)
  | startMotion tick motion => exact player.presents_world (.of_eq rfl rfl rfl) rfl
  | retrigger other =>
    unfold part? at part
    rw [current] at part
    simp only [Task.retrigger.injEq]
    exact presents_withScene (fun scene world => scene.retrigger other world) current
      (kept.presents_retrigger active part other)

/-- The tasks of a frame, one after the other. -/
theorem presents_during (shows : player.Shows scene) (active : scene.state = .active)
    (kept : scene.Kept lost [] player.world) (part : player.part? id = some (id, character)) (span : Nat)
    {done : List Task} (fits : ∀ task ∈ done, scene.Fits task) :
    (player.during span []).Presents id
      (done.countP (· = Task.retrigger id) * (character.isLoaded player.world.resources).toNat)
      (player.during span done) := by
  induction done using List.reverseRecOn with
  | nil =>
    rw [List.countP_nil, Nat.zero_mul]
    exact .refl _
  | append_singleton done task ih =>
    obtain ⟨others, last⟩ := List.forall_mem_append.mp fits
    have before := ih others
    obtain ⟨loose, middle, showing, midway⟩ := midway_during shows active kept span others
    have known : (player.during span done).part? id = some (id, character) := before.part.trans part
    have resources : (player.during span done).world.resources = player.world.resources :=
      before.announces.resources
    have does := presents_dispatch showing.current midway.active midway.kept known task
    rw [resources] at does
    have whole : (done ++ [task]).countP (· = Task.retrigger id) *
        (character.isLoaded player.world.resources).toNat =
          done.countP (· = Task.retrigger id) * (character.isLoaded player.world.resources).toNat +
            if task = .retrigger id then (character.isLoaded player.world.resources).toNat else 0 := by
      rw [List.countP_append, Nat.add_mul]
      by_cases asked : task = .retrigger id <;> simp [asked]
    rw [whole, show player.during span (done ++ [task]) = (player.during span done).dispatch task by
      unfold during
      rw [List.foldl_append]
      rfl]
    exact before.trans does

/-- The end of a playing lets no character come, but for that of the splash. -/
theorem presents_finish {playback : PlaybackId} (other : player.splashPlayback ≠ some playback) :
    player.Presents id 0 (player.finish playback) := by
  unfold finish
  rw [if_neg other]
  cases current : player.scene with
  | none =>
    unfold withScene
    rw [current]
    exact .refl player
  | some scene => exact presents_withScene _ current (scene.presents_finish _ playback)

theorem presents_finishEach (playbacks : List PlaybackId) : ∀ {player : Player},
    player.splashPlayback = none → player.Presents id 0 (playbacks.foldl finish player) := by
  induction playbacks with
  | nil => exact fun {player} _ => .refl player
  | cons playback rest ih =>
    intro player silent
    have other : player.splashPlayback ≠ some playback := by
      rw [silent]
      nofun
    exact (presents_finish other).trans (ih ((stays_finish other).playback.trans silent))

theorem presents_tick (player : Player) (span : Nat) :
    player.Presents id 0 { player with world := player.world.tick span } :=
  player.presents_world (player.world.abides_tick span) (player.world.timers_tick span)

/-- **In a frame a character comes as often as timers ask for it**, if its picture is loaded. -/
theorem presents_frame (shows : player.Shows scene) (active : scene.state = .active)
    (kept : scene.Kept lost [] player.world) (part : player.part? id = some (id, character)) (span : Nat) :
    (player.during span []).Presents id
      ((player.due span).countP (· = Task.retrigger id) *
        (character.isLoaded player.world.resources).toNat) (player.frame span) := by
  have fits : ∀ task ∈ player.due span, scene.Fits task := fun _ => kept.fits
  have during := presents_during shows active kept part span fits
  obtain ⟨_, _, showing, _⟩ := midway_during shows active kept span fits
  let taken := { player.during span (player.due span) with
    world := (player.during span (player.due span)).world.takeFinished.2 }
  have takes : (player.during span (player.due span)).Presents id 0 taken :=
    presents_world _ (.of_eq rfl rfl rfl) rfl
  have heard : taken.Presents id 0 (player.beforeMotions span) :=
    presents_finishEach (player.ended span) showing.playback
  rw [frame_eq]
  exact ((during.silent takes).silent heard).silent (presents_tick _ span)

/-! ### What does not leave a scene -/

/-- A story that was started is not started again. -/
theorem start_again (late : player.phase ≠ .loaded) : player.perform .start =
    { player with world := player.world.remark .warn .player "Story already started" } :=
  congrArg Prod.snd (start_late late)

/-- A scene that the story does not have is not entered. -/
theorem enterScene_unknown {name : String}
    (remains : Operation.leaves player.document (.enterScene name) = false) :
    player.perform (.enterScene name) = player := by
  have unknown : player.document.scene? name = none := Option.isNone_iff_eq_none.mp (by
    rwa [← Option.not_isSome, Bool.not_eq_true'])
  exact congrArg Prod.snd (enterScene_eq_error unknown)

theorem stays_frame (silent : player.splashPlayback = none) (span : Nat) :
    player.Stays (player.frame span) := by
  have before : player.Stays (player.beforeMotions span) :=
    List.foldlRecOn (player.ended span) finish (player.stays_beforePlaybacks span)
      fun middle stays playback _ => stays.trans (stays_finish (by rw [stays.playback, silent]; nofun))
  rw [frame_eq]
  exact before.trans (stays_tick _ span)

/-- **What does not leave a scene is work within it.** -/
theorem stays_perform (shows : player.Shows scene) {operation : Operation}
    (remains : operation.leaves player.document = false) : player.Stays (player.perform operation) := by
  cases operation with
  | start =>
    rw [start_again (by rw [shows.phase]; decide)]
    exact player.stays_world (player.world.works_warn _ _)
  | enterScene name =>
    rw [enterScene_unknown remains]
    exact .refl player
  | frame span => exact stays_frame shows.playback span
  | touch other => exact player.stays_touch other
  | touchNamed name => exact player.stays_touchNamed name
  | pointerUpAt x y => exact player.stays_pointerUpAt x y
  | render viewport => exact player.stays_render viewport
  | destroy sprite => exact player.stays_destroySprite sprite
  | shutdown => cases remains

/-- A scene in which work was done is still played. -/
theorem Stays.shows (stays : player.Stays next) (shows : player.Shows scene) :
    ∃ later, next.Shows later ∧ later.title = scene.title := by
  have title := stays.scene
  rw [shows.current] at title
  obtain ⟨later, current, same⟩ := Option.map_eq_some_iff.mp title
  exact ⟨later, ⟨current, stays.phase.trans shows.phase, stays.sprite.trans shows.sprite,
    stays.playback.trans shows.playback⟩, same⟩

/-- A run that does not leave a scene. -/
theorem stays_run (watching : List Operation) : ∀ {player : Player} {scene : Scene}, player.Shows scene →
    (∀ operation ∈ watching, operation.leaves player.document = false) →
      player.Stays (player.run watching) := by
  induction watching with
  | nil => exact fun {player _} _ _ => .refl player
  | cons operation rest ih =>
    intro player scene shows remains
    obtain ⟨first, others⟩ := List.forall_mem_cons.mp remains
    have stays := stays_perform shows first
    obtain ⟨later, showing, _⟩ := stays.shows shows
    rw [← stays.document] at others
    exact stays.trans (ih showing others)

/-- **Between frames no character comes**, as long as the scene is not left. -/
theorem presents_perform (kept : player.Kept lost) (shows : player.Shows scene) {operation : Operation}
    (between : operation.isFrame = false) (remains : operation.leaves player.document = false) :
    player.Presents id 0 (player.perform operation) := by
  cases operation with
  | start =>
    rw [start_again (by rw [shows.phase]; decide)]
    exact player.presents_world (player.world.abides_remark _ _ _) rfl
  | enterScene name =>
    rw [enterScene_unknown remains]
    exact .refl player
  | frame span => cases between
  | touch other => exact presents_touch kept other
  | touchNamed name =>
    show player.Presents id 0 (player.touchNamed name).2
    unfold touchNamed
    rw [shows.current]
    exact presents_touchEach _ kept
  | pointerUpAt x y => exact presents_pointerUpAt kept x y
  | render viewport => exact ⟨rfl, .of_eq rfl rfl, rfl⟩
  | destroy sprite => exact ⟨rfl, .of_eq rfl rfl, rfl⟩
  | shutdown => cases remains

/-! ### Since the entry of a scene -/

/-- **What holds of a character since the entry of its scene** at an instant: it has come as often as it is
to come in the time that has passed, its timer waits for the next time, and it is still in the scene. -/
structure Recalling (id : CharacterId) (character : Story.Character) (made : Nat)
    (before : World) (player : Player) : Prop where
  kept : player.Kept .any
  part : player.part? id = some (id, character)
  ordered : Timer.Ordered player.world.timers.timers
  since : made ≤ player.world.timers.now
  recalls : player.options.Recalls id character made
    ((player.world.timers.now - made) / player.options.period.length) (player.world.timers.recalls id)
  announces : World.Announces id
    (player.options.comings player.world.resources character (player.world.timers.now - made)) before
    player.world

namespace Recalling

variable {before : World}

/-- A scene is played. -/
theorem plays (recalling : player.Recalling id character made before) :
    ∃ scene, player.Shows scene ∧ scene.state = .active ∧ scene.Kept .any [] player.world := by
  cases recalling.kept with
  | waiting waits plain =>
    have part := recalling.part
    unfold part? at part
    rw [waits.scene] at part
    cases part
  | playing scene shows active kept => exact ⟨scene, shows, active, kept⟩

/-- What is done in no time, without the character coming, leaves all of this. -/
theorem keep (recalling : player.Recalling id character made before) (kept : next.Kept .any)
    (same : player.Same next) (halts : player.world.timers.Halts next.world.timers)
    (presents : player.Presents id 0 next) : next.Recalling id character made before where
  kept := kept
  part := presents.part.trans recalling.part
  ordered := halts.ordered recalling.ordered
  since := halts.now ▸ recalling.since
  recalls := by
    rw [halts.now, same.options, presents.recalls]
    exact recalling.recalls
  announces := by
    rw [halts.now, same.options, same.resources]
    exact recalling.announces.trans presents.announces

/-- **A frame**: the character comes once for every interval that ends in it. -/
theorem frame (recalling : player.Recalling id character made before) (span : Nat) :
    (player.frame span).Recalling id character made before := by
  obtain ⟨scene, shows, active, kept⟩ := recalling.plays
  have presents := presents_frame shows active kept recalling.part span
  have same := player.same_frame span
  have halts := player.halts_frame span
  have now : (player.frame span).world.timers.now = player.world.timers.now + span := halts.now
  have since := recalling.since
  obtain ⟨recalls, count⟩ := TimerQueue.recalls_advance recalling.ordered since recalling.recalls span
  refine ⟨kept_frame recalling.kept span, presents.part.trans recalling.part,
    halts.ordered (TimerQueue.ordered_advance recalling.ordered span), by omega, ?_, ?_⟩
  · rw [now, same.options, presents.recalls]
    exact recalls
  · have clocked : World.Announces id 0 player.world (player.during span []).world := .of_eq rfl rfl
    have whole := recalling.announces.trans (clocked.trans presents.announces)
    have due : (player.due span).countP (· = Task.retrigger id) = _ := count
    have comings : player.options.comings player.world.resources character
        (player.world.timers.now + span - made) =
          player.options.comings player.world.resources character (player.world.timers.now - made) +
            (0 + (player.due span).countP (· = Task.retrigger id) *
              (character.isLoaded player.world.resources).toNat) := by
      have earlier : (player.world.timers.now - made) / player.options.period.length ≤
          (player.world.timers.now + span - made) / player.options.period.length :=
        Nat.div_le_div_right (by omega)
      rw [due]
      unfold SceneOptions.comings
      rw [← player.options.length_period]
      cases character.isLoaded player.world.resources with
      | false => simp
      | true =>
        by_cases again : player.options.retriggerCharacter = some character.name
        · simp only [again, if_true, Bool.toNat_true]
          omega
        · simp [again]
    rw [now, same.options, same.resources, comings]
    exact whole

/-- **Every operation that does not leave the scene.** -/
theorem perform (recalling : player.Recalling id character made before) {operation : Operation}
    (remains : operation.leaves player.document = false) :
    (player.perform operation).Recalling id character made before := by
  obtain ⟨scene, shows, _⟩ := recalling.plays
  cases isFrame : operation.isFrame with
  | true =>
    cases operation with
    | frame span => exact recalling.frame span
    | _ => cases isFrame
  | false =>
    exact recalling.keep (kept_perform recalling.kept (player.losesOnly_any operation)) (player.same_perform operation)
      (player.halts_perform isFrame) (presents_perform recalling.kept shows isFrame remains)

/-- **Every run that does not leave the scene.** -/
theorem run (watching : List Operation) : ∀ {player : Player},
    player.Recalling id character made before →
      (∀ operation ∈ watching, operation.leaves player.document = false) →
        (player.run watching).Recalling id character made before := by
  induction watching with
  | nil => exact fun recalling _ => recalling
  | cons operation rest ih =>
    intro player recalling remains
    obtain ⟨first, others⟩ := List.forall_mem_cons.mp remains
    rw [← (player.same_perform operation).document] at others
    exact ih (recalling.perform first) others

end Recalling

end Player

end Storybook
