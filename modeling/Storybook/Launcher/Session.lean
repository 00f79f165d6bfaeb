/-
**A play by itself.**

A session plays a story without an audience, frame by frame. Touches are made according to a script,
each of them before the first frame that does not begin before its time. What is drawn is reported
from time to time.

* `Session.step`, `Session.run`: one frame, and several;
* `Session.finish`: the end of the play;
* `frameSpan`, `frameCount?`: how long a frame lasts, and how many there are.
-/

import Storybook.Launcher.Arguments
import Storybook.Launcher.Report

namespace Storybook.Launcher

/-! ### Frames -/

/-- The number of frames in a second; there is at least one. -/
def framesPerSecond (frameRate : Nat) : Nat :=
  max frameRate 1

/-- How long a frame lasts, in nanoseconds. -/
def frameSpan (frameRate : Nat) : Nat :=
  Span.second / framesPerSecond frameRate

/-- How many frames a play of some seconds has, if they can be counted in 64 bits. -/
def frameCount? (seconds frameRate : Nat) : Option Nat :=
  let frames := seconds * framesPerSecond frameRate
  if frames < powerOfTwo 64 then some frames else none

/-! ### Sessions -/

/-- A story that is played by itself. -/
structure Session where
  player : Player
  window : Viewport
  /-- The number of frames from one report to the next. -/
  reportEvery : Nat
  frameSpan : Nat
  /-- The touches that are still to be made, in order of their times. -/
  touches : List ScriptedTouch
  /-- How many frames were drawn. -/
  drawn : Nat
  elapsed : Nat
deriving DecidableEq, Repr

/-- The remark on a touch that was made. -/
def ScriptedTouch.remark (touch : ScriptedTouch) (fired : Nat) : Remark :=
  ⟨.info, .launcher,
    s!"Touch '{touch.name}' at {Span.text touch.time}: {fired} chain(s) fired"⟩

/-- Makes a touch. -/
def ScriptedTouch.make (touch : ScriptedTouch) (player : Player) : Player :=
  let (fired, player) := player.touchNamed touch.name
  player.remarkAll [touch.remark fired]

namespace Session

/-- The beginning of a session. -/
def ofPlayer (player : Player) (window : Viewport) (reportEvery frameRate : Nat)
    (touches : List ScriptedTouch) : Session :=
  ⟨player, window, reportEvery, Launcher.frameSpan frameRate, touches, 0, 0⟩

/-- Whether the time of a touch has come. -/
def isDue (session : Session) (touch : ScriptedTouch) : Bool :=
  touch.time ≤ session.elapsed

/-- The touches whose time has come. -/
def dueTouches (session : Session) : List ScriptedTouch :=
  session.touches.takeWhile session.isDue

/-- Makes the touches whose time has come. -/
def touchDue (session : Session) : Session :=
  { session with
    player := session.dueTouches.foldl (fun player touch => touch.make player) session.player
    touches := session.touches.dropWhile session.isDue }

/-- Whether what is drawn in a frame is reported. -/
def isReported (session : Session) (frame : Nat) : Bool :=
  frame % max session.reportEvery 1 = 0

/-- Draws a frame. -/
def draw (session : Session) : Session :=
  let frame := session.drawn + 1
  let (shown, player) := session.player.render session.window
  let remarks := if session.isReported frame then reportStage frame shown else []
  { session with player := player.remarkAll remarks, drawn := frame }

/-- One frame: the touches whose time has come, the story, what is drawn, and the events. -/
def step (session : Session) : Session :=
  let session := session.touchDue
  let session := { session with player := session.player.frame session.frameSpan }.draw
  { session with
    player := session.player.reportEvents
    elapsed := session.elapsed + session.frameSpan }

/-- Several frames. -/
def run (session : Session) : Nat → Session
  | 0 => session
  | count + 1 => session.step.run count

/-- The end of the play. -/
def finish (session : Session) : Session :=
  let player := session.player.shutdown.reportEvents
  let text := s!"Finished after {Span.text session.elapsed}"
  { session with player := player.remarkAll [⟨.info, .launcher, text⟩] }

/-- Takes the remarks that were made since the last time. -/
def takeRemarks (session : Session) : List Remark × Session :=
  let (remarks, player) := session.player.takeRemarks
  (remarks, { session with player })

end Session

end Storybook.Launcher
