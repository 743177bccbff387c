import Mathlib

/-! # Drift control of the playback tiles

A tile plays a little slower or faster until it is in step with the master clock
again, and is loaded anew where it is too far off.  Times are milliseconds.
-/

namespace ZeroNvr.Playback

inductive DriftCorrectionAction where
  | none
  | rate (playbackRate : ℚ)
  | hardSeek
  deriving DecidableEq

structure PlaybackDriftControllerOptions where
  softEnterMs : Option ℚ := .none
  softExitMs : Option ℚ := .none
  hardSeekMs : Option ℚ := .none
  rateCooldownMs : Option ℚ := .none
  hardSeekCooldownMs : Option ℚ := .none
  maxRateAdjustment : Option ℚ := .none
  minRateAdjustment : Option ℚ := .none

/-- The options of a controller with their defaults. -/
structure DriftSettings where
  softEnterMs : ℚ
  softExitMs : ℚ
  hardSeekMs : ℚ
  rateCooldownMs : ℚ
  hardSeekCooldownMs : ℚ
  maxRateAdjustment : ℚ
  minRateAdjustment : ℚ

def DriftSettings.ofOptions (options : PlaybackDriftControllerOptions) : DriftSettings where
  softEnterMs := options.softEnterMs.getD 250
  softExitMs := options.softExitMs.getD 150
  hardSeekMs := options.hardSeekMs.getD 1000
  rateCooldownMs := options.rateCooldownMs.getD 750
  hardSeekCooldownMs := options.hardSeekCooldownMs.getD 1000
  maxRateAdjustment := options.maxRateAdjustment.getD (4 / 100)
  minRateAdjustment := options.minRateAdjustment.getD (15 / 1000)

structure DriftSettings.Valid (settings : DriftSettings) : Prop where
  minPositive : 0 < settings.minRateAdjustment
  minLeMax : settings.minRateAdjustment ≤ settings.maxRateAdjustment
  maxLtOne : settings.maxRateAdjustment < 1
  exitLeEnter : settings.softExitMs ≤ settings.softEnterMs
  enterLtHardSeek : settings.softEnterMs < settings.hardSeekMs
  rateCooldown : 0 ≤ settings.rateCooldownMs
  hardSeekCooldown : 0 ≤ settings.hardSeekCooldownMs

/-- The clocks are `none` where the source has negative infinity. -/
structure PlaybackDriftController where
  correctionActive : Bool := false
  lastRateChangeAt : Option ℚ := .none
  lastHardSeekAt : Option ℚ := .none

/-- `now - last < cooldown`. -/
def isWithin (now : ℚ) (last : Option ℚ) (cooldown : ℚ) : Bool :=
  match last with
  | .none => false
  | .some last => now - last < cooldown

section
variable (settings : DriftSettings)

def resetController (now : ℚ) : PlaybackDriftController where
  correctionActive := false
  lastRateChangeAt := some (now - settings.rateCooldownMs)
  lastHardSeekAt := some (now - settings.hardSeekCooldownMs)

def rateAdjustment (magnitude : ℚ) : ℚ :=
  let normalized := min 1 (max 0 ((magnitude - settings.softExitMs) / max 1 (settings.hardSeekMs - settings.softExitMs)))
  max settings.minRateAdjustment
    (min settings.maxRateAdjustment
      (settings.minRateAdjustment + normalized * (settings.maxRateAdjustment - settings.minRateAdjustment)))

/-- The end of `evaluate`: a correction is on, and waits for the cooldown of the rate. -/
def correct (controller : PlaybackDriftController) (drift base now : ℚ) : PlaybackDriftController × DriftCorrectionAction :=
  if isWithin now controller.lastRateChangeAt settings.rateCooldownMs then (controller, .none)
  else
    let adjustment := rateAdjustment settings |drift|
    ({ controller with lastRateChangeAt := some now }, .rate (base * if 0 < drift then 1 - adjustment else 1 + adjustment))

def evaluate (controller : PlaybackDriftController) (drift base now : ℚ) : PlaybackDriftController × DriftCorrectionAction :=
  if base ≤ 0 then (controller, .none)
  else
    let magnitude := |drift|
    if settings.hardSeekMs ≤ magnitude then
      if isWithin now controller.lastHardSeekAt settings.hardSeekCooldownMs then (controller, .none)
      else ({ correctionActive := false, lastRateChangeAt := some now, lastHardSeekAt := some now }, .hardSeek)
    else if isWithin now controller.lastHardSeekAt settings.hardSeekCooldownMs then (controller, .none)
    else if controller.correctionActive then
      if magnitude ≤ settings.softExitMs then
        ({ controller with correctionActive := false, lastRateChangeAt := some now }, .rate base)
      else correct settings controller drift base now
    else if settings.softEnterMs ≤ magnitude then
      correct settings { controller with correctionActive := true } drift base now
    else (controller, .none)

/-! ## Sequences of calls -/

inductive Call where
  | evaluate (drift base now : ℚ)
  | reset (now : ℚ)
  deriving DecidableEq

def Call.now : Call → ℚ
  | .evaluate _ _ now => now
  | .reset now => now

def Call.isReset : Call → Bool
  | .evaluate _ _ _ => false
  | .reset _ => true

/-- The controller after a call, and what the call returns. -/
def call (controller : PlaybackDriftController) : Call → PlaybackDriftController × DriftCorrectionAction
  | .evaluate drift base now => evaluate settings controller drift base now
  | .reset now => (resetController settings now, .none)

/-- The calls with what they return. -/
def calls : PlaybackDriftController → List Call → List (Call × DriftCorrectionAction)
  | _, [] => []
  | controller, next :: rest => (next, (call settings controller next).2) :: calls (call settings controller next).1 rest

end

/-! ## The tile -/

/-- A tile and its element; `clock` is the time of its last event. -/
structure Tile where
  controller : PlaybackDriftController
  elementRate : ℚ
  serverResyncArmed : Bool
  clock : ℚ

def serverResyncRearmDriftMs : ℚ := 250

section
variable (settings : DriftSettings) (base : ℚ)

/-- `resetDrift`, and `preparePlayback`. -/
def Tile.resetDrift (tile : Tile) (now : ℚ) : Tile :=
  { tile with controller := resetController settings now, elementRate := base, clock := now }

/-- `handleTimeUpdate`, of a tile that plays; `resolveAtMaster` clears the medium, which resets the
    controller, before it waits for the server. -/
def Tile.handleTimeUpdate (tile : Tile) (drift now later : ℚ) : Tile :=
  let armed := if |drift| ≤ serverResyncRearmDriftMs then true else tile.serverResyncArmed
  let (controller, action) := evaluate settings tile.controller drift base now
  match action with
  | .none => { tile with controller, serverResyncArmed := armed, clock := now }
  | .rate playbackRate => { controller, elementRate := playbackRate, serverResyncArmed := armed, clock := now }
  | .hardSeek =>
    if ¬armed then
      { controller, elementRate := base * (if 0 < drift then 92 / 100 else 108 / 100), serverResyncArmed := armed, clock := now }
    else Tile.resetDrift settings base { controller, elementRate := base, serverResyncArmed := false, clock := now } later

inductive TileEvent where
  | timeUpdate (drift now : ℚ)
  | resetDrift
  | resolve
  | load

/-- `resolve` is a seek, another camera or the end of the medium; a medium that is loaded sets the rate. -/
inductive TileStep : Tile → TileEvent → Tile → Prop
  | timeUpdate {tile : Tile} {drift now later : ℚ} (inOrder : tile.clock ≤ now) (after : now ≤ later) :
      TileStep tile (.timeUpdate drift now) (tile.handleTimeUpdate settings base drift now later)
  | resetDrift {tile : Tile} {now : ℚ} (inOrder : tile.clock ≤ now) :
      TileStep tile .resetDrift (tile.resetDrift settings base now)
  | resolve {tile : Tile} {now : ℚ} (inOrder : tile.clock ≤ now) :
      TileStep tile .resolve ({ tile with serverResyncArmed := true }.resetDrift settings base now)
  | load {tile : Tile} : TileStep tile .load { tile with elementRate := base }

end

/-- A tile whose element runs at the base rate. -/
def Tile.fresh (base now : ℚ) (armed : Bool) : Tile :=
  { controller := {}, elementRate := base, serverResyncArmed := armed, clock := now }

end ZeroNvr.Playback
