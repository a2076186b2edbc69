import CameraPlatform.Application

/-!
# Running and destroying the application (`server/Application.cpp`, `server/main.cpp`)

A main loop holds a reference to its context, and a context that is finalized destroys the sources
that are still attached to it. What callers cannot see of the order of release is written down in a
log.
-/

namespace CameraPlatform
open ByteString RefHeap

namespace Gst
variable (g : Gst)

/-! ### Main loops -/

/-- One reference to the object is left. -/
def lastRef (r : Nat) : Bool := (g.heap.get r).any fun c => c.refs == 1

/-- The sources attached to a context. -/
def attachedTo (context : Nat) : List Nat :=
  (List.range g.next).filter fun r => (g.obj r).any fun o => o.type == ascii "GSource" && o.context == some context

/-- `g_main_context_unref`. -/
def mainContextUnref (context : Nat) : Gst :=
  if g.lastRef context then (g.attachedTo context).foldl (fun g source => g.sourceDestroy source) (g.unref context)
  else g.unref context

/-- `g_main_loop_unref`. -/
def mainLoopUnref (loop : Nat) : Gst :=
  if g.lastRef loop then
    match (g.obj loop).bind (·.context) with
    | some context => (g.unref loop).mainContextUnref context
    | none => g.unref loop
  else g.unref loop

/-- Drop what is left of an attached source: its place in the context, then the reference of its maker. -/
def sourceClear (source : Nat) : Gst := (g.sourceDestroy source).unref source

end Gst

/-! ### Members that are destroyed -/

/-- The destructor of `ProfileBin`. -/
def ProfileBin.destroy (b : ProfileBin) (g : Gst) : Gst :=
  match b.bin with
  | some bin => g.unref bin
  | none => (g.clearObject b.valve).clearObject b.appSink

/-- The destructor of `ProfileHost`, with its branches. -/
def ProfileHost.destroy (h : ProfileHost) (g : Gst) : Gst :=
  let (h, g) := h.detachBusWatch g
  let (h, g) := h.cleanup g
  h.profileBins.foldl (fun g b => b.destroy g) g

/-- What the log keeps. -/
inductive LifeEvent where
  /-- `stop` returned, with the source of the server attached to a context or not. -/
  | stopped (serverAttached : Bool)
  /-- The destructor is about to drop its context, with these sources attached to it. -/
  | contextReleased (attached : List Nat)
deriving DecidableEq

/-- An application and what happened to it. -/
structure Life where
  app : Application
  log : List LifeEvent := []

namespace Application

/-- The source of the server is attached to a context. -/
def serverAttached (app : Application) : Bool :=
  ((app.rtsp.bind (·.source)).bind fun source => (app.bridge.gst.obj source).bind (·.context)).isSome

def withGst (app : Application) (gst : Gst) : Application := { app with bridge := { app.bridge with gst } }

/-- The first line of `run`. -/
def play (fails : Bool) (app : Application) : PipelineOutcome × Application :=
  let (outcome, gst) := app.host.play fails app.bridge.gst
  (outcome, app.withGst gst)

def stop (fails : Bool) (app : Application) : Application :=
  let (_, gst) := app.host.stop fails app.bridge.gst
  match app.mainLoop with
  | some loop => { app.withGst (gst.mainLoopUnref loop) with mainLoop := none }
  | none => app.withGst gst

/-- The loop of the destructor over one signal source. -/
def releaseSignal (source : Option Nat) (g : Gst) : Gst :=
  match source with
  | some source => g.sourceClear source
  | none => g

/-- The body of the destructor after `stop`, up to the context. -/
def releaseSignals (app : Application) : Application :=
  { app.withGst (releaseSignal app.sigtermSource (releaseSignal app.sigintSource app.bridge.gst)) with
    sigintSource := none
    sigtermSource := none }

/-- The last lines of the destructor. -/
def releaseContext (app : Application) : Application :=
  match app.context with
  | some context => { app.withGst (app.bridge.gst.mainContextUnref context) with context := none }
  | none => app

/-- The members, in the order of their destruction. -/
def destroyMembers (app : Application) : Application :=
  let app := match app.rtsp with
    | some server => { app with rtsp := none, bridge := server.destroy app.bridge }
    | none => app
  app.withGst (app.host.destroy app.bridge.gst)

end Application

namespace Life

def stop (fails : Bool) (life : Life) : Life :=
  let app := life.app.stop fails
  { app, log := life.log ++ [.stopped app.serverAttached] }

/-- `run`: a loop keeps itself alive while it runs. When it ends is left open; until then its callbacks
may call `stop`, each time with the outcome that `during` lists. -/
def run (playFails : Bool) (during : List Bool) (stopFails : Bool) (life : Life) : Life :=
  let life := { life with app := (life.app.play playFails).2 }
  let life := match life.app.mainLoop with
    | some loop =>
      let life := { life with app := life.app.withGst (life.app.bridge.gst.ref loop) }
      let life := during.foldl (fun (life : Life) fails => life.stop fails) life
      { life with app := life.app.withGst (life.app.bridge.gst.mainLoopUnref loop) }
    | none => life
  life.stop stopFails

/-- The destructor. -/
def destroy (stopFails : Bool) (life : Life) : Life :=
  let life := life.stop stopFails
  let app := life.app.releaseSignals
  let log := match app.context with
    | some context => life.log ++ [.contextReleased (app.bridge.gst.attachedTo context)]
    | none => life.log
  { app := app.releaseContext.destroyMembers, log }

end Life

/-- The calls that the owner of an application makes, with what fails in them. -/
inductive LifeCall where
  | initializeWith (faults : InitFaults)
  | run (playFails : Bool) (during : List Bool) (stopFails : Bool)
  | stop (fails : Bool)

namespace Life

def call (life : Life) : LifeCall → Life
  | .initializeWith faults => { life with app := (life.app.initializeWith faults).2 }
  | .run playFails during stopFails => life.run playFails during stopFails
  | .stop fails => life.stop fails

/-- A whole life: the constructor, the calls, the destructor. -/
def of (g : Gst) (calls : List LifeCall) (stopFails : Bool) : Life :=
  (calls.foldl call { app := .new g }).destroy stopFails

end Life

/-! ### `main` -/

/-- What `main` has when its `run` enters the loop. -/
structure Running where
  initialized : Bool
  played : PipelineOutcome
  app : Application

/-- `main` up to `g_main_loop_run`. It ignores both outcomes, and the loop is not entered without a loop. -/
def main (faults : InitFaults) (playFails : Bool) (g : Gst) : Option Running :=
  let (initialized, app) := (Application.new g).initializeWith faults
  let (_, app) := app.setProfileEnabled (ascii "hd") true
  let (played, app) := app.play playFails
  app.mainLoop.map fun _ => { initialized, played, app }

end CameraPlatform
