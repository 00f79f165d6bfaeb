/-
**Simulated audio.**

Sounds are played on a clock of their own: a voice ends when the length of its clip has passed since
it began, unless it is stopped before. Voices are stopped by the name of their sound, all at once.

* `Audio.play`, `Audio.stop`: starting and stopping sounds;
* `Audio.update`: moves the clock on, and notes the voices that end by themselves;
* `Audio.drainFinished`: the voices that have ended by themselves since it was last asked.
-/

import Storybook.Table
import Storybook.Number.Binary

namespace Storybook

/-- The handle of one playing of a sound. -/
structure PlaybackId where
  number : Nat
deriving DecidableEq, Repr

/-- A sound that is playing. -/
structure Voice where
  id : PlaybackId
  sound : String
  /-- The instant at which it ends by itself. -/
  ending : Nat
deriving DecidableEq, Repr

namespace Voice

/-- The order in which voices end. -/
def before (first second : Voice) : Bool :=
  first.ending < second.ending ||
    (first.ending = second.ending && first.id.number ≤ second.id.number)

end Voice

/-- A start of a sound. -/
structure Play where
  start : Nat
  sound : String
deriving DecidableEq, Repr

/-- The sounds that are playing, and the clock they run on. -/
structure Audio where
  now : Nat
  /-- How many handles have been given out. -/
  issued : Nat
  /-- The length of clips of which nothing else is known. -/
  standardClip : Nat
  clips : Table Nat
  volumes : Table Single
  voices : List Voice
  finished : List PlaybackId
  /-- Everything that was ever played. -/
  plays : Array Play
deriving DecidableEq, Repr

namespace Audio

/-- Silence at the beginning of time. -/
def silent (standardClip : Nat) (clips : Table Nat) : Audio :=
  ⟨0, 0, standardClip, clips, [], [], [], #[]⟩

/-- The length of a sound's clip. -/
def clip (audio : Audio) (sound : String) : Nat :=
  (audio.clips.find? sound).getD audio.standardClip

/-- Plays a sound from its beginning. -/
def play (audio : Audio) (sound : String) : PlaybackId × Audio :=
  let id : PlaybackId := ⟨audio.issued + 1⟩
  (id, { audio with
    issued := audio.issued + 1
    voices := audio.voices ++ [⟨id, sound, audio.now + audio.clip sound⟩]
    plays := audio.plays.push ⟨audio.now, sound⟩ })

/-- Stops every voice of a sound. -/
def stop (audio : Audio) (sound : String) : Audio :=
  { audio with voices := audio.voices.filter fun voice => voice.sound ≠ sound }

/-- Whether a sound is playing. -/
def isPlaying (audio : Audio) (sound : String) : Bool :=
  audio.voices.any fun voice => voice.sound = sound

/-- A volume between none and full. -/
def clampVolume (volume : Single) : Single :=
  if volume < 0 then 0 else if 1 < volume then 1 else volume

/-- Sets the volume of a sound. -/
def setVolume (audio : Audio) (sound : String) (volume : Single) : Audio :=
  { audio with volumes := audio.volumes.insert sound (clampVolume volume) }

/-- Moves the clock on. Voices whose end is reached are noted in the order of their ends, and among
equal ends in the order of their beginnings. -/
def update (audio : Audio) (span : Nat) : Audio :=
  let now := audio.now + span
  let ended := (audio.voices.filter fun voice => voice.ending ≤ now).mergeSort Voice.before
  { audio with
    now
    voices := audio.voices.filter fun voice => now < voice.ending
    finished := audio.finished ++ ended.map Voice.id }

/-- The voices that have ended by themselves since the last time. -/
def drainFinished (audio : Audio) : List PlaybackId × Audio :=
  (audio.finished, { audio with finished := [] })

end Audio

end Storybook
