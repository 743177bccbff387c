import ZeroNvr.Lib.Run
import ZeroNvr.Playback.DriftController

/-! # What the drift control of a tile does

The rates stay near the base rate, on the side that reduces the drift, and the
cooldown of a hard seek is kept until a reset.  A tile whose hard seeks all load
the medium anew returns to the base rate once it is in step.
-/

namespace ZeroNvr.Playback

open Lib

section
variable {settings : DriftSettings} {controller : PlaybackDriftController} {drift base now : ℚ}

/-! ## A call -/

theorem rateAdjustment_bounds (valid : settings.Valid) (magnitude : ℚ) :
    settings.minRateAdjustment ≤ rateAdjustment settings magnitude ∧
      rateAdjustment settings magnitude ≤ settings.maxRateAdjustment :=
  ⟨le_max_left _ _, max_le valid.minLeMax (min_le_left _ _)⟩

/-- The rate of a correction. -/
def correctedRate (settings : DriftSettings) (drift base : ℚ) : ℚ :=
  base * if 0 < drift then 1 - rateAdjustment settings |drift| else 1 + rateAdjustment settings |drift|

/-- What `evaluate` can do. -/
inductive Evaluates (settings : DriftSettings) (controller : PlaybackDriftController) (drift base now : ℚ) :
    PlaybackDriftController × DriftCorrectionAction → Prop
  | none {controller' : PlaybackDriftController} (sameHardSeek : controller'.lastHardSeekAt = controller.lastHardSeekAt)
      (active : controller.correctionActive = true → controller'.correctionActive = true)
      (positive : controller'.correctionActive = true → controller.correctionActive = true ∨ 0 < base)
      (held : base ≤ 0 ∨ isWithin now controller.lastHardSeekAt settings.hardSeekCooldownMs = true ∨
        controller.correctionActive = false ∨ settings.softExitMs < |drift|) :
      Evaluates settings controller drift base now (controller', .none)
  | hardSeek (positive : 0 < base) (severe : settings.hardSeekMs ≤ |drift|)
      (ready : isWithin now controller.lastHardSeekAt settings.hardSeekCooldownMs = false) :
      Evaluates settings controller drift base now
        ({ correctionActive := false, lastRateChangeAt := some now, lastHardSeekAt := some now }, .hardSeek)
  | restored {controller' : PlaybackDriftController} (positive : 0 < base)
      (ready : isWithin now controller.lastHardSeekAt settings.hardSeekCooldownMs = false)
      (sameHardSeek : controller'.lastHardSeekAt = controller.lastHardSeekAt) :
      Evaluates settings controller drift base now (controller', .rate base)
  | corrected {controller' : PlaybackDriftController} (positive : 0 < base)
      (ready : isWithin now controller.lastHardSeekAt settings.hardSeekCooldownMs = false)
      (sameHardSeek : controller'.lastHardSeekAt = controller.lastHardSeekAt)
      (active : controller'.correctionActive = true)
      (entered : controller.correctionActive = false ∨ settings.softExitMs < |drift|) :
      Evaluates settings controller drift base now (controller', .rate (correctedRate settings drift base))

/-- A correction that waits for its cooldown, or is made. -/
theorem evaluates_correct {active : PlaybackDriftController} (positive : 0 < base)
    (ready : isWithin now controller.lastHardSeekAt settings.hardSeekCooldownMs = false)
    (sameHardSeek : active.lastHardSeekAt = controller.lastHardSeekAt) (isActive : active.correctionActive = true)
    (entered : controller.correctionActive = false ∨ settings.softExitMs < |drift|) :
    Evaluates settings controller drift base now (correct settings active drift base now) := by
  rw [correct]
  split
  · exact .none sameHardSeek (fun _ => isActive) (fun _ => .inr positive) (.inr (.inr entered))
  · exact .corrected positive ready sameHardSeek isActive entered

theorem evaluate_spec (settings : DriftSettings) (controller : PlaybackDriftController) (drift base now : ℚ) :
    Evaluates settings controller drift base now (evaluate settings controller drift base now) := by
  rw [evaluate]
  split
  · next notPositive => exact .none rfl id .inl (.inl notPositive)
  · next isPositive =>
    have positive : 0 < base := not_le.mp isPositive
    dsimp only
    split
    · next severe =>
      split
      · next waits => exact .none rfl id .inl (.inr (.inl waits))
      · next ready => exact .hardSeek positive severe (by simpa using ready)
    · split
      · next waits => exact .none rfl id .inl (.inr (.inl waits))
      · next ready =>
        have isReady : isWithin now controller.lastHardSeekAt settings.hardSeekCooldownMs = false := by simpa using ready
        split
        · next active =>
          split
          · exact .restored positive isReady rfl
          · next outside => exact evaluates_correct positive isReady rfl active (.inr (not_le.mp outside))
        · next idle =>
          have isIdle : controller.correctionActive = false := by simpa using idle
          split
          · exact evaluates_correct positive isReady rfl rfl (.inl isIdle)
          · exact .none rfl id .inl (.inr (.inr (.inl isIdle)))

/-- A rate is near the base rate, which it is or differs from on the side that reduces the drift. -/
structure Bounded (settings : DriftSettings) (drift base rate : ℚ) : Prop where
  lower : base * (1 - settings.maxRateAdjustment) ≤ rate
  upper : rate ≤ base * (1 + settings.maxRateAdjustment)
  side : rate = base ∨
    base * settings.minRateAdjustment ≤ |rate - base| ∧ (0 < drift → rate < base) ∧ (drift < 0 → base < rate)

theorem bounded_base (valid : settings.Valid) (positive : 0 < base) : Bounded settings drift base base where
  lower := by
    have nonneg : 0 ≤ settings.maxRateAdjustment := valid.minPositive.le.trans valid.minLeMax
    nlinarith
  upper := by
    have nonneg : 0 ≤ settings.maxRateAdjustment := valid.minPositive.le.trans valid.minLeMax
    nlinarith
  side := .inl rfl

theorem bounded_corrected (valid : settings.Valid) (positive : 0 < base) :
    Bounded settings drift base (correctedRate settings drift base) := by
  obtain ⟨atLeast, atMost⟩ := rateAdjustment_bounds valid |drift|
  have minPositive := valid.minPositive
  have scaledMin : base * settings.minRateAdjustment ≤ base * rateAdjustment settings |drift| :=
    mul_le_mul_of_nonneg_left atLeast positive.le
  have scaledMax : base * rateAdjustment settings |drift| ≤ base * settings.maxRateAdjustment :=
    mul_le_mul_of_nonneg_left atMost positive.le
  have scaledPositive : 0 < base * settings.minRateAdjustment := mul_pos positive minPositive
  rw [correctedRate]
  split
  · next ahead =>
    have isSlower : base * (1 - rateAdjustment settings |drift|) = base - base * rateAdjustment settings |drift| := by ring
    rw [isSlower]
    refine ⟨by linarith, by linarith, .inr ⟨?_, fun _ => by linarith, fun behind => absurd ahead (not_lt.mpr behind.le)⟩⟩
    rw [sub_sub_cancel_left, abs_neg, abs_of_nonneg (by linarith)]
    exact scaledMin
  · next notAhead =>
    have isFaster : base * (1 + rateAdjustment settings |drift|) = base + base * rateAdjustment settings |drift| := by ring
    rw [isFaster]
    refine ⟨by linarith, by linarith, .inr ⟨?_, fun ahead => absurd ahead notAhead, fun _ => by linarith⟩⟩
    rw [add_sub_cancel_left, abs_of_nonneg (by linarith)]
    exact scaledMin

theorem bounded_of_evaluate (valid : settings.Valid) {rate : ℚ}
    (isRate : (evaluate settings controller drift base now).2 = .rate rate) : Bounded settings drift base rate := by
  have spec := evaluate_spec settings controller drift base now
  generalize evaluate settings controller drift base now = result at spec isRate
  cases spec with
  | none => cases isRate
  | hardSeek => cases isRate
  | restored positive =>
    cases isRate
    exact bounded_base valid positive
  | corrected positive =>
    cases isRate
    exact bounded_corrected valid positive

/-! ## Sequences of calls -/

/-- What a call of a sequence returns is what some controller answers. -/
theorem exists_controller (settings : DriftSettings) (list : List Call) (controller : PlaybackDriftController)
    {entry : Call × DriftCorrectionAction} (member : entry ∈ calls settings controller list) :
    ∃ before, entry.2 = (call settings before entry.1).2 := by
  induction list generalizing controller with
  | nil => cases member
  | cons next rest ih =>
    rcases List.mem_cons.mp member with rfl | isLater
    · exact ⟨controller, rfl⟩
    · exact ih _ isLater

/-- A call that acts comes after the cooldown of the last hard seek. -/
theorem ready_of_acts {next : Call} (acts : (call settings controller next).2 ≠ .none) :
    isWithin next.now controller.lastHardSeekAt settings.hardSeekCooldownMs = false := by
  cases next with
  | reset now => exact absurd rfl acts
  | evaluate drift base now =>
    have spec := evaluate_spec settings controller drift base now
    rw [call] at acts
    generalize evaluate settings controller drift base now = result at spec acts
    cases spec with
    | none => exact absurd rfl acts
    | hardSeek _ _ ready => exact ready
    | restored _ ready => exact ready
    | corrected _ ready => exact ready

/-- A call that is no reset leaves the clock of the hard seeks, or sets it. -/
theorem lastHardSeekAt_call {next : Call} (noReset : next.isReset = false) :
    (call settings controller next).1.lastHardSeekAt = controller.lastHardSeekAt ∨
      (call settings controller next).1.lastHardSeekAt = some next.now := by
  cases next with
  | reset now => cases noReset
  | evaluate drift base now =>
    have spec := evaluate_spec settings controller drift base now
    rw [call]
    generalize evaluate settings controller drift base now = result at spec
    cases spec with
    | none same => exact .inl same
    | hardSeek => exact .inr rfl
    | restored _ _ same => exact .inl same
    | corrected _ _ same => exact .inl same

theorem lastHardSeekAt_of_hardSeek {next : Call} (isSeek : (call settings controller next).2 = .hardSeek) :
    (call settings controller next).1.lastHardSeekAt = some next.now := by
  cases next with
  | reset now => cases isSeek
  | evaluate drift base now =>
    have spec := evaluate_spec settings controller drift base now
    rw [call] at isSeek ⊢
    generalize evaluate settings controller drift base now = result at spec isSeek
    cases spec with
    | none => cases isSeek
    | hardSeek => rfl
    | restored => cases isSeek
    | corrected => cases isSeek

/-- After a hard seek at `last`, until a reset, a call that acts keeps the cooldown. -/
theorem cooldown_kept {list : List Call} {last : ℚ} {between after : List (Call × DriftCorrectionAction)}
    {second : Call × DriftCorrectionAction} (isLast : controller.lastHardSeekAt = some last)
    (inOrder : (list.map Call.now).Pairwise (· ≤ ·)) (later : ∀ next ∈ list, last ≤ next.now)
    (split : calls settings controller list = between ++ second :: after)
    (noReset : ∀ entry ∈ between, entry.1.isReset = false) (acts : second.2 ≠ .none) :
    settings.hardSeekCooldownMs ≤ second.1.now - last := by
  induction between generalizing controller list last with
  | nil =>
    cases list with
    | nil => cases split
    | cons next rest =>
      obtain ⟨same, _⟩ := List.cons.inj split
      subst same
      have ready := ready_of_acts acts
      rw [isLast] at ready
      simpa [isWithin] using ready
  | cons entry between ih =>
    cases list with
    | nil => cases split
    | cons next rest =>
      obtain ⟨same, splitRest⟩ := List.cons.inj split
      obtain ⟨laterRest, inOrderRest⟩ := List.pairwise_cons.mp inOrder
      have isCall : next.isReset = false := by
        have first := noReset entry List.mem_cons_self
        rwa [← same] at first
      have noResetRest : ∀ other ∈ between, other.1.isReset = false :=
        fun other member => noReset other (List.mem_cons_of_mem _ member)
      rcases @lastHardSeekAt_call settings controller next isCall with kept | isNow
      · exact ih (kept.trans isLast) inOrderRest (fun other member => later other (List.mem_cons_of_mem _ member)) splitRest
          noResetRest
      · have fromNext := ih isNow inOrderRest
          (fun other member => laterRest other.now (List.mem_map.mpr ⟨other, member, rfl⟩)) splitRest noResetRest
        have atLeast := later next List.mem_cons_self
        linarith

theorem hardSeeks_apart {list : List Call} {before between after : List (Call × DriftCorrectionAction)}
    {first second : Call × DriftCorrectionAction} (inOrder : (list.map Call.now).Pairwise (· ≤ ·))
    (split : calls settings controller list = before ++ first :: (between ++ second :: after))
    (isSeek : first.2 = .hardSeek) (noReset : ∀ entry ∈ between, entry.1.isReset = false) (acts : second.2 ≠ .none) :
    settings.hardSeekCooldownMs ≤ second.1.now - first.1.now := by
  induction before generalizing controller list with
  | nil =>
    cases list with
    | nil => cases split
    | cons next rest =>
      obtain ⟨same, splitRest⟩ := List.cons.inj split
      obtain ⟨laterRest, inOrderRest⟩ := List.pairwise_cons.mp inOrder
      subst same
      exact cooldown_kept (lastHardSeekAt_of_hardSeek isSeek) inOrderRest
        (fun other member => laterRest other.now (List.mem_map.mpr ⟨other, member, rfl⟩)) splitRest noReset acts
  | cons entry before ih =>
    cases list with
    | nil => cases split
    | cons next rest => exact ih (List.pairwise_cons.mp inOrder).2 (List.cons.inj split).2

/-! ## The tile -/

/-- A severe drift finds the tile ready to load its medium anew. -/
def SeeksArmed (settings : DriftSettings) (tile : Tile) : TileEvent → Prop
  | .timeUpdate drift _ =>
    settings.hardSeekMs ≤ |drift| → |drift| ≤ serverResyncRearmDriftMs ∨ tile.serverResyncArmed = true
  | _ => True

/-- What holds of a tile between two events. -/
structure Sound (settings : DriftSettings) (base : ℚ) (tile : Tile) : Prop where
  corrected : tile.elementRate ≠ base → tile.controller.correctionActive = true
  positive : tile.controller.correctionActive = true → 0 < base
  cooled : isWithin tile.clock tile.controller.lastHardSeekAt settings.hardSeekCooldownMs = false

theorem isWithin_mono {last : Option ℚ} {cooldown later : ℚ} (order : now ≤ later)
    (expired : isWithin now last cooldown = false) : isWithin later last cooldown = false := by
  cases last with
  | none => rfl
  | some last =>
    simp only [isWithin, decide_eq_false_iff_not, not_lt] at expired ⊢
    linarith

theorem sound_resetDrift (tile : Tile) (now : ℚ) : Sound settings base (tile.resetDrift settings base now) where
  corrected differs := absurd rfl differs
  positive isActive := nomatch isActive
  cooled := by simp [Tile.resetDrift, resetController, isWithin]

theorem Sound.timeUpdate {tile : Tile} {later : ℚ} (sound : Sound settings base tile) (inOrder : tile.clock ≤ now)
    (armed : SeeksArmed settings tile (.timeUpdate drift now)) :
    Sound settings base (tile.handleTimeUpdate settings base drift now later) := by
  have cooled := isWithin_mono inOrder sound.cooled
  have spec := evaluate_spec settings tile.controller drift base now
  rw [Tile.handleTimeUpdate]
  generalize evaluate settings tile.controller drift base now = result at spec
  cases spec with
  | none sameHardSeek active positive held =>
    refine ⟨fun differs => active (sound.corrected differs), fun isActive => ?_, ?_⟩
    · exact (positive isActive).elim sound.positive id
    · rw [← sameHardSeek] at cooled
      exact cooled
  | hardSeek positive severe ready =>
    have isArmed : (if |drift| ≤ serverResyncRearmDriftMs then true else tile.serverResyncArmed) = true := by
      split
      · rfl
      · next far => exact (armed severe).resolve_left far
    dsimp only
    rw [isArmed, if_neg (by simp)]
    exact sound_resetDrift _ later
  | restored positive ready sameHardSeek =>
    refine ⟨fun differs => absurd rfl differs, fun _ => positive, ?_⟩
    rw [← sameHardSeek] at cooled
    exact cooled
  | corrected positive ready sameHardSeek active =>
    refine ⟨fun _ => active, fun _ => positive, ?_⟩
    rw [← sameHardSeek] at cooled
    exact cooled

theorem Sound.step {tile tile' : Tile} {event : TileEvent} (sound : Sound settings base tile)
    (armed : SeeksArmed settings tile event) (step : TileStep settings base tile event tile') : Sound settings base tile' := by
  cases step with
  | timeUpdate inOrder => exact sound.timeUpdate inOrder armed
  | resetDrift => exact sound_resetDrift _ _
  | resolve => exact sound_resetDrift _ _
  | load => exact ⟨fun differs => absurd rfl differs, sound.positive, sound.cooled⟩

/-- A tile in step returns to the base rate. -/
theorem Sound.restores (valid : settings.Valid) {tile : Tile} {later : ℚ} (sound : Sound settings base tile)
    (inOrder : tile.clock ≤ now) (differs : tile.elementRate ≠ base) (inStep : |drift| ≤ settings.softExitMs) :
    (tile.handleTimeUpdate settings base drift now later).elementRate = base := by
  have active := sound.corrected differs
  have cooled := isWithin_mono inOrder sound.cooled
  have spec := evaluate_spec settings tile.controller drift base now
  rw [Tile.handleTimeUpdate]
  generalize evaluate settings tile.controller drift base now = result at spec
  cases spec with
  | none _ _ _ held =>
    rcases held with notPositive | waits | idle | outside
    · exact absurd (sound.positive active) (not_lt.mpr notPositive)
    · rw [cooled] at waits
      cases waits
    · rw [active] at idle
      cases idle
    · exact absurd inStep (not_le.mpr outside)
  | hardSeek _ severe =>
    have enough := valid.exitLeEnter
    have below := valid.enterLtHardSeek
    linarith
  | restored => rfl
  | corrected _ _ _ _ entered =>
    rcases entered with idle | outside
    · rw [active] at idle
      cases idle
    · exact absurd inStep (not_le.mpr outside)

end

/-- A step that loads the medium anew wherever the drift is severe. -/
def ArmedStep (settings : DriftSettings) (base : ℚ) (tile : Tile) (event : TileEvent) (tile' : Tile) : Prop :=
  SeeksArmed settings tile event ∧ TileStep settings base tile event tile'

/-- Rates are bounded and on the side that reduces the drift; what a controller does between two resets keeps
    the cooldown of its hard seeks; a tile in step returns to the base rate, in every run whose hard
    seeks load the medium anew. -/
theorem drift_control {settings : DriftSettings} (valid : settings.Valid) :
    (∀ list drift base now rate, (Call.evaluate drift base now, DriftCorrectionAction.rate rate) ∈ calls settings {} list →
      Bounded settings drift base rate) ∧
    (∀ list before first between second after, (list.map Call.now).Pairwise (· ≤ ·) →
      calls settings {} list = before ++ first :: (between ++ second :: after) → first.2 = .hardSeek →
      (∀ entry ∈ between, entry.1.isReset = false) → second.2 ≠ .none →
      settings.hardSeekCooldownMs ≤ second.1.now - first.1.now) ∧
    ∀ base start armed events tile drift now later,
      Run (ArmedStep settings base) (Tile.fresh base start armed) events tile → tile.clock ≤ now →
      tile.elementRate ≠ base → |drift| ≤ settings.softExitMs →
      (tile.handleTimeUpdate settings base drift now later).elementRate = base := by
  refine ⟨?_, ?_, ?_⟩
  · intro list drift base now rate member
    obtain ⟨before, answer⟩ := exists_controller settings list {} member
    exact bounded_of_evaluate valid answer.symm
  · intro list before first between second after inOrder split isSeek noReset acts
    exact hardSeeks_apart inOrder split isSeek noReset acts
  · intro base start armed events tile drift now later run inOrder differs inStep
    have fresh : Sound settings base (Tile.fresh base start armed) :=
      ⟨fun differs => absurd rfl differs, fun isActive => (nomatch isActive), rfl⟩
    have sound : Sound settings base tile :=
      @Run.invariant _ _ _ (Sound settings base) (fun _ _ _ kept step => kept.step step.1 step.2) _ _ _ run fresh
    exact sound.restores valid inOrder differs inStep

/-- The settings of the tile. -/
def tileSettings : DriftSettings := .ofOptions { hardSeekMs := some 5000, maxRateAdjustment := some (8 / 100) }

theorem tileSettings_valid : tileSettings.Valid := by
  constructor <;> norm_num [tileSettings, DriftSettings.ofOptions]

/-- A reset between two hard seeks ends the cooldown, and a tile that does not load its medium anew
    stays at its rate when it is in step. -/
theorem drift_control_unconditional_fails :
    (∃ list first reset second, (list.map Call.now).Pairwise (· ≤ ·) ∧
      calls tileSettings {} list = [(first, .hardSeek), (reset, .none), (second, .hardSeek)] ∧
      second.now - first.now < tileSettings.hardSeekCooldownMs) ∧
    ∃ tile, Run (TileStep tileSettings 1) (Tile.fresh 1 0 false) [.timeUpdate 6000 0] tile ∧ tile.elementRate ≠ 1 ∧
      isWithin 2000 tile.controller.lastHardSeekAt tileSettings.hardSeekCooldownMs = false ∧
      (tile.handleTimeUpdate tileSettings 1 0 2000 2000).elementRate ≠ 1 := by
  refine ⟨⟨[.evaluate 6000 1 0, .reset 0, .evaluate 6000 1 0], .evaluate 6000 1 0, .reset 0, .evaluate 6000 1 0, ?_, ?_, ?_⟩,
    _, .next (.timeUpdate (le_refl 0) (le_refl 0)) (.done _), ?_, ?_, ?_⟩
  · decide +kernel
  · decide +kernel
  · decide +kernel
  · decide +kernel
  · decide +kernel
  · decide +kernel

/-- A tile that is 300 ms ahead plays slower, and at its rate again once it is in step. -/
theorem corrected_tile_restored :
    (∃ tile, Run (ArmedStep tileSettings 1) (Tile.fresh 1 0 true) [.timeUpdate 300 0] tile ∧ tile.elementRate ≠ 1 ∧
      (tile.handleTimeUpdate tileSettings 1 100 500 500).elementRate = 1) ∧
    Bounded tileSettings 300 1 (correctedRate tileSettings 300 1) := by
  have all := drift_control tileSettings_valid
  refine ⟨⟨_, .next ⟨fun severe => ?_, .timeUpdate (le_refl 0) (le_refl 0)⟩ (.done _), ?_, ?_⟩, ?_⟩
  · exact absurd severe (by decide +kernel)
  · decide +kernel
  · refine all.2.2 1 0 true [.timeUpdate 300 0] _ 100 500 500
      (.next ⟨fun severe => absurd severe (by decide +kernel), .timeUpdate (le_refl 0) (le_refl 0)⟩ (.done _)) ?_ ?_ ?_
    · decide +kernel
    · decide +kernel
    · decide +kernel
  · refine all.1 [.evaluate 300 1 0] 300 1 0 _ (List.mem_singleton.mpr ?_)
    decide +kernel

end ZeroNvr.Playback
