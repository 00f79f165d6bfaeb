/-
**The splash lasts as long as its sound.**

While the splash is shown, nothing but time passes: no scene is there to be touched, no timer is set and
nothing moves. In the first frame at whose end the sound has been heard to its end, the splash gives way to
the start scene, whose timers count from there. How the time is cut into frames does not matter. If the
story does not have its start scene, the splash stays, though its end is reported.

* `Operation.isPatient`: what may be done meanwhile;
* `Player.Hushed`: before a story is started nothing is heard;
* `Player.Listens`: what holds while the sound of the splash is heard, with `Player.Listens.patient` for
  everything that may be done meanwhile;
* `Player.Listens.opens`, `Player.Listens.misses`: the frame in which the sound ends;
* `Player.splash_lasts`: all of this, after everything that can be done before.
-/

import Storybook.Proofs.Clock
import Storybook.Proofs.Entry
import Storybook.Proofs.Ownership

namespace Storybook

/-! ### Waiting -/

namespace Operation

/-- An operation that neither starts a story nor enters or leaves a scene. -/
def isPatient : Operation → Bool
  | frame _ => true
  | touch _ => true
  | touchNamed _ => true
  | pointerUpAt _ _ => true
  | render _ => true
  | _ => false

end Operation

open Operation (elapsed)

/-- Where no motion is registered, nothing moves. -/
theorem World.tick_of_still {world : World} (still : world.animator.entries = []) (span : Nat) :
    world.tick span = world := by
  obtain ⟨stage, ⟨issued, entries⟩, timers, audio, resources, events, remarks⟩ := world
  cases still
  rfl

namespace Player

variable {lost : Losses} {player started : Player}

/-! ### Where no scene is played -/

theorem touch_absent (absent : player.scene = none) (id : CharacterId) : (player.touch id).2 = player := by
  unfold touch askScene
  rw [absent]

theorem touchNamed_absent (absent : player.scene = none) (name : String) :
    (player.touchNamed name).2 = player := by
  unfold touchNamed
  rw [absent]

theorem pointerUpAt_absent (absent : player.scene = none) (x y : Single) :
    (player.pointerUpAt x y).2 = player := by
  unfold pointerUpAt askScene
  rw [absent]

/-- The player in a frame when its timers are done and the ends of playings are still to be told. -/
def listening (player : Player) (span : Nat) : Player :=
  { player with world := (player.world.advanceClock span).2.takeFinished.2 }

theorem Waits.listening (waits : player.Waits lost) (span : Nat) : (player.listening span).Waits lost :=
  have begun := waits.advance span
  ⟨begun.scene, begun.kept.congr rfl rfl rfl, begun.idle⟩

/-- **While no scene is played, a frame only tells the ends of playings.** -/
theorem frame_of_waits (waits : player.Waits lost) (span : Nat) :
    player.beforeMotions span =
      (player.world.audio.update span).finished.foldl finish (player.listening span) := by
  unfold beforeMotions afterPlaybacks ended
  rw [due_of_waits waits]
  rfl

/-! ### Before the start -/

/-- Nothing is heard, and clips have the given lengths. -/
structure Hushed (clip : String → Nat) (player : Player) : Prop where
  voices : player.world.audio.voices = []
  finished : player.world.audio.finished = []
  clip : player.world.audio.clip = clip

variable {clip : String → Nat}

theorem Hushed.update (hushed : player.Hushed clip) (span : Nat) :
    (player.world.audio.update span).finished = [] := by
  unfold Audio.update
  rw [hushed.voices, hushed.finished]
  simp

theorem phase_enterScene (under : player.phase ≠ .loaded) (id : String) :
    (player.enterScene id).2.phase ≠ .loaded :=
  enterScene_cases (motive := fun next => next.phase ≠ .loaded) under fun _ _ => nofun

theorem phase_finish (under : player.phase ≠ .loaded) (playback : PlaybackId) :
    (player.finish playback).phase ≠ .loaded := by
  by_cases awaited : player.splashPlayback = some playback
  · unfold finish
    rw [if_pos awaited]
    exact leaveSplash_cases (motive := fun next => next.phase ≠ .loaded) (fun _ => under) fun _ _ => nofun
  · rw [(stays_finish awaited).phase]
    exact under

theorem phase_frame (under : player.phase ≠ .loaded) (span : Nat) :
    (player.frame span).phase ≠ .loaded := by
  have begun : (player.afterPlaybacks span []).phase ≠ .loaded := by
    rw [(player.stays_beforePlaybacks span).phase]
    exact under
  exact List.foldlRecOn (motive := fun middle : Player => middle.phase ≠ .loaded) (player.ended span) finish
    begun fun _ under playback _ => phase_finish under playback

/-- **A story that was started is never again as it was loaded.** -/
theorem phase_perform (under : player.phase ≠ .loaded) (operation : Operation) :
    (player.perform operation).phase ≠ .loaded := by
  cases operation with
  | start =>
    show player.start.2.phase ≠ .loaded
    rw [start_late under]
    exact under
  | enterScene id => exact phase_enterScene under id
  | frame span => exact phase_frame under span
  | touch id => exact fun loaded => under ((player.stays_touch id).phase.symm.trans loaded)
  | touchNamed name => exact fun loaded => under ((player.stays_touchNamed name).phase.symm.trans loaded)
  | pointerUpAt x y => exact fun loaded => under ((player.stays_pointerUpAt x y).phase.symm.trans loaded)
  | render viewport => exact under
  | destroy sprite => exact under
  | shutdown =>
    show player.leaveScene.phase ≠ .loaded
    unfold leaveScene
    cases player.scene <;> exact under

/-- What is done with a player before it is started leaves it hushed. -/
theorem Hushed.perform (hushed : player.Hushed clip) (kept : player.Kept lost)
    (loaded : player.phase = .loaded) (operation : Operation)
    (still : (player.perform operation).phase = .loaded) : (player.perform operation).Hushed clip := by
  cases kept with
  | playing scene shows => cases loaded.symm.trans shows.phase
  | waiting waits plain =>
    have mute := plain (loaded ▸ nofun)
    cases operation with
    | start =>
      have skipped : player.skipSplash.Hushed clip := by
        have same : player.skipSplash.world.audio = player.world.audio := player.audio_showSplash
        exact ⟨same ▸ hushed.voices, same ▸ hushed.finished, same ▸ hushed.clip⟩
      refine start_cases (motive := fun next => next.phase = .loaded → next.Hushed clip)
        (fun late => absurd loaded late) (fun _ _ _ => nofun) (fun _ _ => ?_) still
      exact enterScene_cases (motive := fun next => next.phase = .loaded → next.Hushed clip)
        (fun _ => skipped) fun _ _ => nofun
    | enterScene id =>
      exact enterScene_cases (motive := fun next => next.phase = .loaded → next.Hushed clip)
        (fun _ => hushed) (fun _ _ => nofun) still
    | frame span =>
      show (player.frame span).Hushed clip
      rw [frame_eq, frame_of_waits waits, hushed.update]
      have same : ((player.listening span).world.tick span).audio = (player.listening span).world.audio :=
        World.audio_tick _ span
      refine ⟨?_, congrArg Audio.finished same, (congrArg Audio.clip same).trans hushed.clip⟩
      refine (congrArg Audio.voices same).trans ?_
      show player.world.audio.voices.filter _ = []
      rw [hushed.voices, List.filter_nil]
    | touch id =>
      show (player.touch id).2.Hushed clip
      rw [touch_absent waits.scene]
      exact hushed
    | touchNamed name =>
      show (player.touchNamed name).2.Hushed clip
      rw [touchNamed_absent waits.scene]
      exact hushed
    | pointerUpAt x y =>
      show (player.pointerUpAt x y).2.Hushed clip
      rw [pointerUpAt_absent waits.scene]
      exact hushed
    | render viewport => exact ⟨hushed.voices, hushed.finished, hushed.clip⟩
    | destroy sprite => exact ⟨hushed.voices, hushed.finished, hushed.clip⟩
    | shutdown =>
      have same : player.shutdown.world.audio = player.world.audio := by
        unfold shutdown leaveScene
        rw [waits.scene]
        unfold clearSplash
        rw [mute]
        cases player.splashSprite <;> rfl
      exact ⟨same ▸ hushed.voices, same ▸ hushed.finished, same ▸ hushed.clip⟩

/-- **Before a story is started nothing is heard**, whatever is done with the player. -/
theorem hushed_run (document : Story.Document) (resources : Asset.Resources) (standardClip : Nat)
    (clips : Table Nat) (viewport : Viewport) (options : SceneOptions) (operations : List Operation) :
    let player := (ofResources document resources (.silent standardClip clips) viewport options).run operations
    player.phase = .loaded → player.Hushed (Audio.silent standardClip clips).clip := by
  let loaded := ofResources document resources (.silent standardClip clips) viewport options
  have kept : loaded.Kept .any := kept_ofResources document resources _ viewport options
  refine (List.foldlRecOn (motive := fun middle : Player => middle.Kept .any ∧
    (middle.phase = .loaded → middle.Hushed (Audio.silent standardClip clips).clip))
    operations perform ⟨kept, fun _ => ⟨rfl, rfl, rfl⟩⟩ ?_).2
  intro middle ⟨kept, hushed⟩ operation _
  refine ⟨kept_perform kept (middle.losesOnly_any operation), fun still => ?_⟩
  have before : middle.phase = .loaded := by_contra fun under => phase_perform under operation still
  exact (hushed before).perform kept before operation still

/-! ### While the sound of the splash is heard -/

/-- **The splash is shown**: no scene is played, and nothing has been reported since it began. -/
structure ShowsSplash (started player : Player) : Prop where
  phase : player.phase = .splash
  scene : player.scene = none
  events : player.world.events = started.world.events

/-- What holds while the sound of the splash is heard, when `passed` of its length is over. -/
structure Listens (started : Player) (length passed : Nat) (player : Player) : Prop where
  same : started.Same player
  shows : started.ShowsSplash player
  waits : player.Waits .outside
  sprite : player.splashSprite = started.splashSprite
  voice : ∃ playback, player.splashPlayback = some playback ∧ player.world.audio.voices =
    [⟨playback, player.document.splash.sound, started.world.audio.now + length⟩]
  finished : player.world.audio.finished = []
  heard : player.world.audio.now = started.world.audio.now + passed

variable {length passed : Nat}

/-- The ends that are told in a frame are that of the splash, if time has reached it. -/
theorem Listens.ends (listens : Listens started length passed player) {playback : PlaybackId}
    (awaited : player.splashPlayback = some playback) (span : Nat) :
    (player.world.audio.update span).finished = if length ≤ passed + span then [playback] else [] := by
  obtain ⟨other, waits, voices⟩ := listens.voice
  cases waits.symm.trans awaited
  unfold Audio.update
  rw [voices, listens.finished, listens.heard]
  by_cases ended : length ≤ passed + span
  · have reached : started.world.audio.now + length ≤ started.world.audio.now + passed + span := by omega
    simp [ended, reached]
  · have later : ¬ started.world.audio.now + length ≤ started.world.audio.now + passed + span := by omega
    simp [ended, later]

/-- A frame before the end of the sound. -/
theorem Listens.frame (listens : Listens started length passed player) {span : Nat}
    (early : passed + span < length) :
    Listens started length (passed + span) (player.frame span) := by
  obtain ⟨playback, awaited, voices⟩ := listens.voice
  have waits := listens.waits.listening span
  have still : (player.listening span).world.animator.entries = [] := waits.kept.held.entries_eq_nil
  have heard := listens.heard
  have same : player.frame span = player.listening span := by
    rw [frame_eq, frame_of_waits listens.waits, listens.ends awaited, if_neg (by omega)]
    exact congrArg (fun world => { player.listening span with world }) (World.tick_of_still still span)
  rw [same]
  refine ⟨⟨listens.same.document, listens.same.options, listens.same.resources⟩,
    ⟨listens.shows.phase, listens.shows.scene, listens.shows.events⟩, waits, listens.sprite,
    ⟨playback, awaited, ?_⟩, rfl, ?_⟩
  · show player.world.audio.voices.filter (fun voice => player.world.audio.now + span < voice.ending) = _
    have ahead : player.world.audio.now + span < started.world.audio.now + length := by omega
    rw [voices]
    simp [ahead]
    rfl
  · show player.world.audio.now + span = _
    omega

/-- **Whatever is done before the sound of the splash has ended**, it goes on. -/
theorem Listens.patient (listens : Listens started length passed player) {operation : Operation}
    (patient : operation.isPatient) (early : operation.isFrame → passed + operation.span < length) :
    Listens started length (passed + operation.span) (player.perform operation) := by
  have absent := listens.shows.scene
  cases operation with
  | frame span => exact listens.frame (early rfl)
  | touch id =>
    show Listens started length passed (player.touch id).2
    rw [touch_absent absent]
    exact listens
  | touchNamed name =>
    show Listens started length passed (player.touchNamed name).2
    rw [touchNamed_absent absent]
    exact listens
  | pointerUpAt x y =>
    show Listens started length passed (player.pointerUpAt x y).2
    rw [pointerUpAt_absent absent]
    exact listens
  | render viewport =>
    refine ⟨⟨listens.same.document, listens.same.options, listens.same.resources⟩,
      ⟨listens.shows.phase, absent, listens.shows.events⟩, ?_, listens.sprite, listens.voice,
      listens.finished, listens.heard⟩
    refine ⟨absent, listens.waits.kept.work ?_ listens.waits.kept.held, listens.waits.idle⟩
    show player.world.stage.Keeps (ite _ _ _)
    split
    · exact .refl _
    · exact player.world.stage.keeps_resize viewport
  | start => cases patient
  | enterScene id => cases patient
  | destroy sprite => cases patient
  | shutdown => cases patient

/-- A run of such operations. -/
theorem Listens.run (watching : List Operation) :
    ∀ {passed : Nat} {player : Player}, Listens started length passed player →
      (∀ operation ∈ watching, operation.isPatient) →
      (watching.any Operation.isFrame → passed + elapsed watching < length) →
        Listens started length (passed + elapsed watching) (player.run watching) := by
  induction watching with
  | nil => exact fun listens _ _ => listens
  | cons operation rest ih =>
    intro passed player listens patient early
    obtain ⟨first, others⟩ := List.forall_mem_cons.mp patient
    have whole : passed + elapsed (operation :: rest) = passed + operation.span + elapsed rest := by
      rw [elapsed, Nat.add_assoc]
    rw [whole, List.any_cons] at early
    rw [whole]
    refine ih (listens.patient first fun frame => ?_) others fun frames => ?_
    · have within := early (by rw [frame, Bool.true_or])
      omega
    · exact early (by rw [frames, Bool.or_true])

/-! ### The end of the splash -/

/-- **The start scene has been entered**, by a frame that has ended at an instant `now`: the splash is
gone, its end and the entry are reported, and the timers that are set are those of a scene whose entry
was just then. -/
structure Opens (started : Player) (now : Nat) (player : Player) : Prop where
  phase : player.phase = .playing
  scene : ∃ scene, player.scene = some scene ∧ scene.id = started.document.start ∧ scene.state = .active
  sprite : player.splashSprite = none ∧
    ∀ sprite, started.splashSprite = some sprite → player.world.stage.isLive sprite = false
  events : ∃ entry moved, player.world.events.toList = started.world.events.toList ++
      .splashFinished :: entry ++ .sceneEntered started.document.start :: moved ∧
    ∀ event ∈ entry ++ moved, event.isMilestone = false
  clock : player.world.timers.now = now
  waits : ∃ spec names, started.document.scene? started.document.start = some spec ∧
    player.world.timers.waits = ((Scene.ofSpec started.document.start spec started.document.style
      started.options).tableau started.world.resources).waits.map (Wait.rename names)

/-- **The start scene is missing** when the sound of the splash has ended: the end is reported, and the
splash stays. -/
structure Misses (started player : Player) : Prop where
  phase : player.phase = .splash
  scene : player.scene = none
  sprite : player.splashSprite = started.splashSprite
  playback : player.splashPlayback = none
  events : player.world.events.toList = started.world.events.toList ++ [.splashFinished]

/-- The frame in which the sound of the splash ends goes on with what follows the splash. -/
theorem Listens.frame_last (listens : Listens started length passed player) {span : Nat}
    (reached : length ≤ passed + span) :
    player.frame span = { (player.listening span).leaveSplash with
      world := (player.listening span).leaveSplash.world.tick span } := by
  obtain ⟨playback, awaited, _⟩ := listens.voice
  have splash : (player.listening span).splashPlayback = some playback := awaited
  rw [frame_eq, frame_of_waits listens.waits, listens.ends awaited, if_pos reached, List.foldl_cons,
    List.foldl_nil]
  unfold Player.finish
  rw [if_pos splash]

/-- **A story without its start scene never leaves its splash.** -/
theorem Listens.misses (listens : Listens started length passed player) {span : Nat}
    (reached : length ≤ passed + span)
    (missing : started.document.scene? started.document.start = none) : started.Misses (player.frame span) := by
  rw [← listens.same.document] at missing
  have waits := waits_endSplash (listens.waits.listening span)
  have still : (player.listening span).missStart.world.animator.entries = [] := waits.kept.held.entries_eq_nil
  have missed : (player.listening span).leaveSplash = (player.listening span).missStart :=
    leaveSplash_eq_missStart missing
  rw [listens.frame_last reached, missed, World.tick_of_still still]
  refine ⟨listens.shows.phase, listens.shows.scene, listens.sprite, rfl, ?_⟩
  rw [← listens.shows.events]
  exact Array.toList_push

/-- **In the frame in which the sound of the splash ends, the start scene is entered.** -/
theorem Listens.opens (listens : Listens started length passed player) {span : Nat}
    (reached : length ≤ passed + span) {spec : Story.Scene}
    (found : started.document.scene? started.document.start = some spec) :
    started.Opens (player.world.timers.now + span) (player.frame span) := by
  let last := (player.listening span).endSplash
  let cleared := last.leaveScene.clearSplash
  let entered := last.enterSpec player.document.start spec
  have waits : last.Waits .outside := waits_endSplash (listens.waits.listening span)
  have bare : cleared.world.IsBare := isBare_clear waits.leave fun _ => not_false
  have document : player.document = started.document := listens.same.document
  have same : player.frame span = { entered with world := entered.world.tick span } := by
    rw [listens.frame_last reached, leaveSplash_eq_enterSpec (listens.same.document ▸ found)]
    rfl
  let fresh := Scene.ofSpec player.document.start spec cleared.document.style cleared.options
  have new : fresh.state = .uninitialized := rfl
  have timers : (entered.world.tick span).timers = entered.world.timers := World.timers_tick _ span
  constructor
  case clock => exact (player.halts_frame span).now
  all_goals rw [same]
  case phase => rfl
  case scene =>
    obtain ⟨active, id⟩ := Scene.enter_fst new cleared.world
    exact ⟨_, rfl, id.trans (congrArg Story.Document.start document), active⟩
  case sprite =>
    refine ⟨rfl, fun sprite shown => ?_⟩
    have owner : sprite ∈ player.splashSprite.toList := by
      rw [listens.sprite, shown]
      exact List.mem_singleton_self sprite
    have gone : cleared.world.stage.Gone sprite := by
      refine ⟨?_, Nat.le_trans (listens.waits.kept.given sprite owner) last.piles_clear.follows.issued⟩
      unfold Stage.keys
      rw [bare.sprites]
      exact List.not_mem_nil
    have enters : cleared.world.stage.Follows entered.world.stage :=
      (fresh.piles_enter cleared.world).follows
    have later := (gone.follow enters).follow (World.thins_tick entered.world span).piles.follows
    exact Bool.eq_false_iff.mpr (mt Stage.isLive_iff.mp later.absent)
  case events =>
    obtain ⟨middle, works, ends⟩ := Scene.works_enter new cleared.world
    obtain ⟨entry, begun, quiet⟩ := works.events
    obtain ⟨moved, followed, still⟩ := (entered.world.works_tick span).events
    refine ⟨entry, moved, ?_, List.forall_mem_append.mpr ⟨quiet, still⟩⟩
    have told : cleared.world.events.toList = started.world.events.toList ++ [.splashFinished] := by
      have left : last.leaveScene = last := by
        unfold leaveScene
        rw [show last.scene = none from listens.shows.scene]
      rw [show cleared.world.events = last.leaveScene.world.events from events_clearSplash _, left,
        ← listens.shows.events]
      exact Array.toList_push
    have enters : entered.world.events.toList =
        middle.events.toList ++ [.sceneEntered player.document.start] := by
      show (fresh.enter cleared.world).2.events.toList = _
      rw [ends]
      exact Array.toList_push
    rw [followed, enters, begun, told, document]
    simp
  case waits =>
    have tableau := congrArg Tableau.waits (tableau_enterSpec bare player.document.start spec)
    refine ⟨spec, cleared.world.lag.names, found, ?_⟩
    rw [timers, ← listens.same.options, ← listens.same.resources, ← document]
    exact tableau

/-! ### From start to end -/

/-- **When a story with a sound for its splash is started, the sound begins.** -/
theorem listens_start (kept : player.Kept .outside) (fresh : player.Fresh)
    (loaded : player.phase = .loaded) (hushed : player.Hushed clip)
    (found : (player.world.resources.sound? player.document.splash.sound).isSome = true) :
    Listens (player.perform .start) (clip player.document.splash.sound) 0 (player.perform .start) := by
  obtain ⟨sound, found⟩ := Option.isSome_iff_exists.mp found
  let started := player.showSplash.playSplash
  have begins : player.perform .start = started := congrArg Prod.snd (start_splash loaded found)
  have shown : player.showSplash.Waits .outside :=
    waits_showSplash (kept.waits_of_loaded loaded).1 fun _ shows => nomatch (fresh loaded).symm.trans shows
  have audio := player.audio_showSplash
  have document : player.showSplash.document = player.document := player.document_showSplash
  have played : started.world.audio = (player.world.audio.play player.document.splash.sound).2 := by
    rw [← audio, ← document]
    rfl
  rw [begins]
  refine ⟨.refl started, ⟨rfl, shown.scene, rfl⟩, ⟨shown.scene, shown.kept.congr rfl rfl rfl, shown.idle⟩,
    rfl, ⟨_, rfl, ?_⟩, ?_, rfl⟩
  · have voice : started.world.audio.voices = [⟨⟨player.world.audio.issued + 1⟩,
        player.document.splash.sound, player.world.audio.now + clip player.document.splash.sound⟩] := by
      rw [played, ← hushed.clip]
      show player.world.audio.voices ++ _ = _
      rw [hushed.voices]
      rfl
    rw [voice, played, show started.document = player.document from document, ← audio]
    rfl
  · rw [played]
    exact hushed.finished

/-- **The splash lasts as long as its sound.** A story is started, after anything that can be done before,
and then watched. As long as the frames have not lasted as long as the clip, the splash is shown, and
nothing is reported. In the first frame in which they have, the start scene is entered if the story has it,
and otherwise the splash stays. -/
theorem splash_lasts (document : Story.Document) (resources : Asset.Resources) (standardClip : Nat)
    (clips : Table Nat) (viewport : Viewport) (options : SceneOptions)
    (before watching : List Operation) :
    let loaded :=
      (ofResources document resources (.silent standardClip clips) viewport options).run before
    let started := loaded.perform .start
    let clip := (Audio.silent standardClip clips).clip document.splash.sound
    loaded.phase = .loaded → (resources.sound? document.splash.sound).isSome →
      (∀ operation ∈ watching, operation.isPatient) →
        (watching.any Operation.isFrame → elapsed watching < clip) →
          started.ShowsSplash (started.run watching) ∧
            ∀ span, clip ≤ elapsed watching + span →
              let ended := (started.run watching).perform (.frame span)
              ((document.scene? document.start).isSome →
                started.Opens (started.world.timers.now + elapsed watching + span) ended) ∧
                (document.scene? document.start = none → started.Misses ended) := by
  intro loaded started clip still found patient early
  let first := ofResources document resources (.silent standardClip clips) viewport options
  have begun : first.Fresh := fun _ => rfl
  have can : first.CanStart := Or.inr found
  have kept : loaded.Kept .outside := kept_run_neverRestarts (neverRestarts_of_canStart before begun can)
    (kept_ofResources document resources (.silent standardClip clips) viewport options)
  have hushed : loaded.Hushed (Audio.silent standardClip clips).clip :=
    hushed_run document resources standardClip clips viewport options before still
  have same : first.Same loaded := same_run before first
  have story : loaded.document = document := same.document
  have sound : (loaded.world.resources.sound? loaded.document.splash.sound).isSome = true := by
    rw [story, show loaded.world.resources = resources from same.resources]
    exact found
  have begins := listens_start kept (begun.run before can) still hushed sound
  rw [story] at begins
  have listens := begins.run watching patient (by rwa [Nat.zero_add])
  rw [Nat.zero_add] at listens
  have told : started.document = document := (loaded.same_perform .start).document.trans story
  refine ⟨listens.shows, fun span reached => ⟨fun starts => ?_, fun missing => ?_⟩⟩
  · obtain ⟨spec, known⟩ := Option.isSome_iff_exists.mp starts
    rw [← now_run watching started]
    exact listens.opens reached (told ▸ known)
  · exact listens.misses reached (told ▸ missing)

/-- A story with a cat on a terrace. -/
def terraceStory : Story.Document :=
  ⟨.standard, ⟨"s.png", "s.mp3"⟩, "terrace",
    [("terrace", ⟨"terrace.png", [], [⟨"Cat", "cat.png", ⟨10, 20⟩, none, []⟩]⟩)]⟩

/-- Its assets. The sound of its splash takes three seconds. -/
def terraceAssets : Asset.Resources :=
  ⟨[("cat.png", .texture ⟨64, 64⟩), ("s.mp3", .sound ⟨none⟩), ("s.png", .texture ⟨64, 64⟩)]⟩

/-- The splash is watched for two seconds, and tapped at. -/
def terraceWatch : List Operation :=
  [.frame 500000000, .pointerUpAt 3 4, .frame 1500000000, .touchNamed "Cat", .render ⟨320, 200⟩]

/-- The story of the terrace is started after a frame, and watched. One frame later the terrace is entered.
That frame goes on for half a second after the sound has ended, and the cat is to appear again one second
after the frame. -/
theorem splash_of_terrace :
    let loaded := (ofResources terraceStory terraceAssets (.silent 0 [("s.mp3", 3000000000)]) ⟨800, 600⟩
      ⟨some "Cat", 1000, 100⟩).run [.frame 700000000]
    let started := loaded.perform .start
    let opened := (started.run terraceWatch).perform (.frame 1500000000)
    started.ShowsSplash (started.run terraceWatch) ∧ started.Opens 4200000000 opened ∧
      opened.world.timers.timers.map (fun timer => (timer.task, timer.due)) =
        [(.retrigger ⟨0⟩, 5200000000)] := by
  intro loaded started opened
  have instant : started.world.timers.now + elapsed terraceWatch + 1500000000 = 4200000000 := by
    decide +kernel
  obtain ⟨shows, opens⟩ := splash_lasts terraceStory terraceAssets 0 [("s.mp3", 3000000000)] ⟨800, 600⟩
    ⟨some "Cat", 1000, 100⟩ [.frame 700000000] terraceWatch (by decide +kernel) (by decide +kernel)
    (by decide +kernel) (by decide +kernel)
  have begins := (opens 1500000000 (by decide +kernel)).1 (by decide +kernel)
  rw [instant] at begins
  exact ⟨shows, begins, by decide +kernel⟩

/-- **The splash stays where the start scene is missing**: when the sound of the terrace has ended, there is
no cellar to be entered. -/
theorem splash_stays :
    let loaded := ofResources { terraceStory with start := "cellar" } terraceAssets
      (.silent 0 [("s.mp3", 3000000000)]) ⟨800, 600⟩ .standard
    let started := loaded.perform .start
    let ended := started.perform (.frame 3000000000)
    loaded.phase = .loaded ∧ .splashFinished ∈ ended.world.events.toList ∧ ended.phase = .splash ∧
      ¬ started.Opens 3000000000 ended := by
  refine ⟨rfl, by decide +kernel, by decide +kernel, fun opens => ?_⟩
  exact absurd opens.phase (by decide +kernel)

end Player

end Storybook
