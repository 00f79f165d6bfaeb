/-
**Audio effects do not overlap themselves.**

An audio effect stops its sound before it starts it again, whichever effect of the same sound has started
it before. So while nothing but audio effects uses the audio, a sound has at most one voice. A voice that is
cut short is gone for good: it is never reported as ended.

* `AudioStep`, `World.runAudio`: what is done with the audio, by any number of effects;
* `World.delivered`: the playings that were reported as ended;
* `World.audio_runAudio`, `World.delivered_runAudio`: both as uses of the audio;
* `Audio.voicesOf`, `World.voicesOf_stepAudio`: the voices of a sound, step by step;
* `Audio.lost_of_stopped`: a voice that is cut short is never reported;
* `World.NeverOverlaps`, `World.never_overlaps`: what holds after any steps.
-/

import Storybook.Cast.Effect
import Storybook.Proofs.Playbacks

namespace Storybook

/-- Something that is done with the audio while only audio effects use it. Effects of one sound are alike,
for an audio effect has no state. -/
inductive AudioStep
  | execute (sound : String)
  | cancel (sound : String)
  | update (span : Nat)
  | drain

/-- What a step comes to. A sound that does not play may be stopped as well. -/
def AudioStep.uses : AudioStep → List Audio.Use
  | execute sound => [.stop sound, .play sound]
  | cancel sound => [.stop sound]
  | update span => [.update span]
  | drain => [.drain]

namespace World

/-- The world after a step. -/
def stepAudio (world : World) : AudioStep → World
  | .execute sound => ((Effect.audio sound).execute world).2
  | .cancel sound => ((Effect.audio sound).cancel world).2
  | .update span => { world with audio := world.audio.update span }
  | .drain => world.takeFinished.2

/-- The world after several steps. -/
def runAudio (world : World) (steps : List AudioStep) : World :=
  steps.foldl stepAudio world

/-- The playings that a step reports as ended. -/
def delivers (world : World) : AudioStep → List PlaybackId
  | .drain => world.takeFinished.1
  | _ => []

/-- The playings that several steps report as ended, in order. -/
def delivered (world : World) : List AudioStep → List PlaybackId
  | [] => []
  | step :: rest => world.delivers step ++ delivered (world.stepAudio step) rest

end World

/-! ### Steps as uses of the audio -/

namespace Audio

variable {audio : Audio} {sound : String}

/-- To stop a sound that does not play changes nothing. -/
theorem stop_of_not_isPlaying (silent : audio.isPlaying sound = false) : audio.stop sound = audio := by
  have others : audio.voices.filter (fun voice => voice.sound ≠ sound) = audio.voices := by
    refine List.filter_eq_self.mpr fun voice member => decide_eq_true fun same => ?_
    have plays := List.any_eq_false.mp silent voice member
    exact plays (decide_eq_true same)
  unfold stop
  rw [others]

end Audio

namespace Effect

theorem silence_eq (sound : String) (world : World) :
    silence sound world = { world with audio := world.audio.stop sound } := by
  unfold silence
  split
  · rfl
  · rename_i silent
    rw [Audio.stop_of_not_isPlaying (Bool.not_eq_true _ ▸ silent)]

end Effect

namespace World

variable {world : World}

theorem stepAudio_execute (sound : String) : world.stepAudio (.execute sound) =
    ({ world with audio := ((world.audio.stop sound).play sound).2 }).report
      (.soundStarted sound ((world.audio.stop sound).play sound).1) := by
  show ((Effect.silence sound world).playSound sound).2 = _
  rw [Effect.silence_eq]
  rfl

theorem stepAudio_cancel (sound : String) :
    world.stepAudio (.cancel sound) = { world with audio := world.audio.stop sound } :=
  Effect.silence_eq sound world

theorem audio_stepAudio (world : World) (step : AudioStep) :
    (world.stepAudio step).audio = world.audio.after step.uses := by
  cases step with
  | execute sound =>
    rw [stepAudio_execute]
    rfl
  | cancel sound =>
    rw [stepAudio_cancel]
    rfl
  | _ => rfl

theorem runAudio_concat (world : World) (steps : List AudioStep) (step : AudioStep) :
    world.runAudio (steps ++ [step]) = (world.runAudio steps).stepAudio step :=
  List.foldl_concat ..

theorem audio_runAudio (steps : List AudioStep) :
    ∀ world : World, (world.runAudio steps).audio = world.audio.after (steps.flatMap AudioStep.uses) := by
  induction steps with
  | nil => exact fun _ => rfl
  | cons step rest ih =>
    intro world
    rw [List.flatMap_cons, Audio.after_append, ← audio_stepAudio]
    exact ih _

theorem delivers_stepAudio (world : World) (step : AudioStep) :
    world.delivers step = world.audio.delivered step.uses := by
  cases step with
  | drain => exact (List.append_nil _).symm
  | _ => rfl

theorem delivered_runAudio (steps : List AudioStep) :
    ∀ world : World, world.delivered steps = world.audio.delivered (steps.flatMap AudioStep.uses) := by
  induction steps with
  | nil => exact fun _ => rfl
  | cons step rest ih =>
    intro world
    unfold delivered Audio.delivered
    rw [List.flatMap_cons, Audio.answers_append, ih, delivers_stepAudio, audio_stepAudio]
    rfl

end World

/-! ### One voice to a sound -/

/-- The voices of a sound. -/
def Audio.voicesOf (audio : Audio) (sound : String) : List Voice :=
  audio.voices.filter fun voice => voice.sound = sound

namespace Audio

variable (audio : Audio) (sound other : String)

theorem voicesOf_stop_self : (audio.stop sound).voicesOf sound = [] := by
  unfold voicesOf stop
  rw [List.filter_filter, List.filter_eq_nil_iff]
  intro voice _ both
  simp at both

theorem voicesOf_stop_of_ne {sound other : String} (different : other ≠ sound) :
    (audio.stop sound).voicesOf other = audio.voicesOf other := by
  unfold voicesOf stop
  rw [List.filter_filter]
  refine List.filter_congr fun voice _ => ?_
  by_cases same : voice.sound = other
  · simp [same, different]
  · simp [same]

theorem voicesOf_play : (audio.play sound).2.voicesOf other = audio.voicesOf other ++
    if other = sound then [⟨(audio.play sound).1, sound, audio.now + audio.clip sound⟩] else [] := by
  show (audio.voices ++ [_]).filter _ = _
  rw [List.filter_append]
  refine congrArg _ ?_
  by_cases same : other = sound
  · rw [if_pos same, same]
    simp [play]
  · rw [if_neg same]
    simp [Ne.symm same]

end Audio

namespace World

/-- **An audio effect that runs leaves its sound one voice**, which it has reported. -/
theorem voicesOf_execute (world : World) (sound : String) :
    ∃ playback ending,
      (world.stepAudio (.execute sound)).audio.voicesOf sound = [⟨playback, sound, ending⟩] ∧
      (world.stepAudio (.execute sound)).events = world.events.push (.soundStarted sound playback) := by
  have single := (world.audio.stop sound).voicesOf_play sound sound
  rw [Audio.voicesOf_stop_self, if_pos rfl, List.nil_append] at single
  rw [stepAudio_execute]
  exact ⟨_, _, single, rfl⟩

/-- A step leaves a sound its voices, or some of them, or a single new one. -/
theorem voicesOf_stepAudio (world : World) (step : AudioStep) (sound : String) :
    ((world.stepAudio step).audio.voicesOf sound).Sublist (world.audio.voicesOf sound) ∨
      ((world.stepAudio step).audio.voicesOf sound).length = 1 := by
  cases step with
  | execute other =>
    by_cases same : sound = other
    · subst same
      obtain ⟨playback, ending, voices, _⟩ := world.voicesOf_execute sound
      exact Or.inr (congrArg List.length voices)
    · left
      rw [stepAudio_execute]
      show (((world.audio.stop other).play other).2.voicesOf sound).Sublist _
      rw [Audio.voicesOf_play, if_neg same, List.append_nil, Audio.voicesOf_stop_of_ne _ same]
  | cancel other =>
    left
    rw [stepAudio_cancel]
    exact List.filter_sublist.filter _
  | update span => exact Or.inl (List.filter_sublist.filter _)
  | drain => exact Or.inl (.refl _)

theorem length_voicesOf_runAudio {world : World} (quiet : world.audio.voices = []) (steps : List AudioStep)
    (sound : String) : ((world.runAudio steps).audio.voicesOf sound).length ≤ 1 := by
  induction steps using List.reverseRecOn with
  | nil =>
    show (world.audio.voices.filter _).length ≤ 1
    rw [quiet]
    exact Nat.zero_le 1
  | append_singleton steps step ih =>
    rw [runAudio_concat]
    rcases (world.runAudio steps).voicesOf_stepAudio step sound with fewer | one
    · exact Nat.le_trans fewer.length_le ih
    · exact Nat.le_of_eq one

end World

/-! ### Voices that are cut short -/

namespace Audio

variable {audio : Audio} {voice : Voice}

/-- **A voice that goes on when its sound is stopped is gone from then on**: it is never reported as ended,
neither before nor after. -/
theorem lost_of_stopped (accounts : Accounts [] [] audio) (silent : audio.voices = [])
    {before : List Use} (goesOn : voice ∈ (audio.after before).voices) (rest : List Use) :
    let uses := before ++ .stop voice.sound :: rest
    voice ∉ (audio.after uses).voices ∧ voice.id ∉ audio.delivered uses ∧
      voice.id ∉ (audio.after uses).finished := by
  obtain ⟨sooner, later, rfl, this⟩ := exists_play silent before voice goesOn
  have lasts : ¬ audio.Ends sooner voice.sound later := (mem_voices_iff.mp (this ▸ goesOn)).2
  have never : ¬ audio.Ends sooner voice.sound (later ++ .stop voice.sound :: rest) :=
    fun ends => lasts (ends_of_stopped ends)
  have named : voice.id = audio.handle sooner voice.sound := congrArg Voice.id this
  intro uses
  have split : uses = sooner ++ .play voice.sound :: (later ++ .stop voice.sound :: rest) :=
    List.append_assoc ..
  rw [split]
  refine ⟨fun member => ?_, fun told => ?_, fun noted => ?_⟩
  · have unstopped := (mem_voices_iff.mp (this ▸ member)).1
    exact unstopped (List.mem_append_right _ List.mem_cons_self)
  · rw [named] at told
    exact never ((mem_delivered_iff accounts).mp told).ends
  · rw [named] at noted
    exact never ((mem_finished_iff accounts).mp noted).1

end Audio

namespace World

/-- What becomes of the voices while only audio effects use the audio. -/
structure NeverOverlaps (world : World) (steps : List AudioStep) : Prop where
  /-- A sound has at most one voice. -/
  single : ∀ sound, ((world.runAudio steps).audio.voicesOf sound).length ≤ 1
  /-- Right after an effect has run, its sound has one voice, and that is the one that was reported. -/
  announced : ∀ sound, ∃ playback ending,
    (world.runAudio (steps ++ [.execute sound])).audio.voicesOf sound = [⟨playback, sound, ending⟩] ∧
      (world.runAudio (steps ++ [.execute sound])).events =
        (world.runAudio steps).events.push (.soundStarted sound playback)
  /-- A voice that an effect cuts short, when it runs again or is called off, is gone at once, and its
  playing is never reported as ended. -/
  unreported : ∀ sound cut later, cut = .execute sound ∨ cut = .cancel sound →
    ∀ voice ∈ (world.runAudio steps).audio.voicesOf sound,
      voice ∉ (world.runAudio (steps ++ [cut])).audio.voices ∧
        voice.id ∉ world.delivered (steps ++ cut :: later) ∧
          voice.id ∉ (world.runAudio (steps ++ cut :: later)).audio.finished

/-- **Audio effects do not overlap themselves**, however many of them there are and in whatever order they
run and are called off while time passes. The audio may have been used in any way before, as long as nothing
plays any more. -/
theorem never_overlaps {standardClip : Nat} {clips : Table Nat} {earlier : List Audio.Use} {world : World}
    (used : world.audio = (Audio.silent standardClip clips).after earlier)
    (quiet : world.audio.voices = []) (steps : List AudioStep) : world.NeverOverlaps steps where
  single := length_voicesOf_runAudio quiet steps
  announced sound := by
    rw [runAudio_concat]
    exact (world.runAudio steps).voicesOf_execute sound
  unreported sound cut later cuts voice member := by
    obtain ⟨goesOn, same⟩ := List.mem_filter.mp member
    obtain rfl := of_decide_eq_true same
    obtain ⟨others, uses⟩ : ∃ others, cut.uses = .stop voice.sound :: others := by
      rcases cuts with rfl | rfl <;> exact ⟨_, rfl⟩
    have accounts := Audio.accounts_silent standardClip clips
    rw [audio_runAudio, used, ← Audio.after_append] at goesOn
    have lost (rest : List AudioStep) := Audio.lost_of_stopped accounts rfl goesOn
      (others ++ rest.flatMap AudioStep.uses)
    have whole (rest : List AudioStep) : earlier ++ (steps ++ cut :: rest).flatMap AudioStep.uses =
        earlier ++ steps.flatMap AudioStep.uses ++
          .stop voice.sound :: (others ++ rest.flatMap AudioStep.uses) := by
      rw [List.flatMap_append, List.flatMap_cons, uses, List.append_assoc, List.cons_append]
    refine ⟨?_, fun told => (lost later).2.1 ?_, ?_⟩
    · rw [audio_runAudio, used, ← Audio.after_append, whole]
      exact (lost []).1
    · rw [delivered_runAudio, used] at told
      rw [← whole]
      unfold Audio.delivered at told ⊢
      rw [Audio.answers_append]
      exact List.mem_append_right _ told
    · rw [audio_runAudio, used, ← Audio.after_append, whole]
      exact (lost later).2.2

/-- A bell that is struck again while it rings has a new voice, and of the two only the second is
reported. -/
theorem never_overlaps_bell :
    let tower := World.initial ⟨200, 200⟩ .empty
      ((Audio.silent 500 []).after [.play "hum.mp3", .stop "hum.mp3"])
    let struck := [AudioStep.execute "bell.mp3", .update 100]
    let after := struck ++ .execute "bell.mp3" :: [.update 500, .drain]
    (tower.audio = (Audio.silent 500 []).after [.play "hum.mp3", .stop "hum.mp3"] ∧
      tower.audio.voices = []) ∧
    tower.NeverOverlaps struck ∧
      (tower.runAudio struck).audio.voicesOf "bell.mp3" = [⟨⟨2⟩, "bell.mp3", 500⟩] ∧
        tower.delivered after = [⟨3⟩] :=
  ⟨⟨rfl, rfl⟩, never_overlaps rfl rfl _, by decide, by decide +kernel⟩

end World

end Storybook
